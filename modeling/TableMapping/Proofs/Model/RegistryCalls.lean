import TableMapping.Proofs.Runs
import TableMapping.Registry

/-!
# Calls that share a registry

Asking a registry for a definition takes three steps: the model is looked up, then its definition is
built, and then it is stored unless somebody else was faster.  Nothing but a single step is
undivided: between any two steps of a call, other calls may take theirs.

* `SharedRegistry`: a registry, the ledger, and all calls with what has become of them.
* `SharedRegistry.take`: one turn, which is a new call or the next step of a call.
* `SharedRegistry.takeAll_alone`: a call that nobody interrupts is `Registry.definition`.
* `SharedRegistry.step_take`: all that a turn can do, as `SharedRegistry.Step`.
-/

namespace TableMapping

open Runs

variable {κ : Type} {Obj : Models κ}

/-! ## An undivided call -/

namespace Registry

variable [DecidableEq κ] {r : Registry Obj} {k : κ} {l : Ledger}
  {schema : (k : κ) → ModelSchema (Obj k)}

theorem run_definition_of_find? {s : Stored (Obj k)} (h : r.find? k = some s) :
    (r.definition schema k).run l = (.ok (s, r), l) := by
  unfold definition
  rw [h]
  rfl

theorem run_definition_of_none (h : r.find? k = none) :
    (r.definition schema k).run l =
      (((schema k).define l.builds).map fun d => r.insertIfNew k ⟨l.builds, d⟩,
        { l with builds := l.builds + 1 }) := by
  unfold definition
  rw [h, run_bind_ok Mapping.run_nextBuild]
  cases (schema k).define l.builds with
  | error e => rw [run_bind_error (Mapping.run_ofExcept (.error e))]; rfl
  | ok d => rw [run_bind_ok (Mapping.run_ofExcept (.ok d))]; rfl

theorem insertIfNew_of_find? {s old : Stored (Obj k)} (h : r.find? k = some old) :
    r.insertIfNew k s = (old, r) := by
  rw [insertIfNew, h]

theorem insertIfNew_of_none {s : Stored (Obj k)} (h : r.find? k = none) :
    r.insertIfNew k s = (s, r.insert k s) := by
  rw [insertIfNew, h]

/-- What is stored is not touched by storing another model. -/
theorem find?_insert_mono {k' : κ} {s : Stored (Obj k)} {s' : Stored (Obj k')}
    (hk : r.find? k = none) (hk' : r.find? k' = some s') :
    (r.insert k s).find? k' = some s' := by
  have hne : k ≠ k' := by
    rintro rfl
    exact nomatch hk.symm.trans hk'
  rw [find?_insert_of_ne r s hne, hk']

end Registry

/-! ## Calls -/

/-- What has become of a call for the definition of a model. -/
inductive CallPhase (M : Type) where
  /-- It has not looked yet. -/
  | asked
  /-- It has looked, and nothing was stored. -/
  | missing
  /-- It has a definition of its own, which nobody else knows. -/
  | built (s : Stored M)
  | answered (s : Stored M)
  | failed (e : MappingError)

/-- What the next step of a call makes of it, of the registry and of the ledger. -/
def CallPhase.next [DecidableEq κ] {k : κ} (schema : ModelSchema (Obj k)) (r : Registry Obj)
    (l : Ledger) : CallPhase (Obj k) → CallPhase (Obj k) × Registry Obj × Ledger
  | .asked =>
    match r.find? k with
    | some s => (.answered s, r, l)
    | none => (.missing, r, l)
  | .missing =>
    match schema.define l.builds with
    | .ok d => (.built ⟨l.builds, d⟩, r, { l with builds := l.builds + 1 })
    | .error e => (.failed e, r, { l with builds := l.builds + 1 })
  | .built s => (.answered (r.insertIfNew k s).1, (r.insertIfNew k s).2, l)
  | .answered s => (.answered s, r, l)
  | .failed e => (.failed e, r, l)

/-- A call for the definition of a model. -/
structure RegistryCall (Obj : Models κ) where
  key : κ
  phase : CallPhase (Obj key)

/-- A registry with all the calls there have been. -/
structure SharedRegistry (Obj : Models κ) where
  registry : Registry Obj
  ledger : Ledger
  calls : List (RegistryCall Obj)

/-- What can happen to a shared registry.  The description of a model is given anew to every step,
so that of two builds of one model the one may fail and the other not. -/
inductive Turn (Obj : Models κ) where
  /-- Somebody asks for the definition of a model. -/
  | ask (k : κ)
  /-- The call with this number takes its next step. -/
  | advance (i : Nat) (schema : (k : κ) → ModelSchema (Obj k))

namespace SharedRegistry

/-- A registry that nobody has asked yet. -/
def start (l : Ledger) : SharedRegistry Obj := ⟨.empty, l, []⟩

/-- Put a new call behind the others. -/
def ask (w : SharedRegistry Obj) (k : κ) : SharedRegistry Obj :=
  { w with calls := w.calls ++ [⟨k, .asked⟩] }

/-- A call was answered with this definition. -/
def Answered (w : SharedRegistry Obj) (k : κ) (s : Stored (Obj k)) : Prop :=
  ⟨k, .answered s⟩ ∈ w.calls

/-- A list around one of its entries. -/
theorem exists_around {c : RegistryCall Obj} {calls : List (RegistryCall Obj)} {i : Nat}
    (h : calls[i]? = some c) : ∃ before after, calls = before ++ c :: after ∧
      ∀ c', calls.set i c' = before ++ c' :: after := by
  obtain ⟨hi, rfl⟩ := List.getElem?_eq_some_iff.mp h
  refine ⟨calls.take i, calls.drop (i + 1), ?_, fun c' => ?_⟩
  · rw [List.getElem_cons_drop, List.take_append_drop]
  · rw [List.set_eq_take_append_cons_drop, if_pos hi]

variable [DecidableEq κ]

/-- Take the next step of the call with this number. -/
def advance (w : SharedRegistry Obj) (i : Nat) (schema : (k : κ) → ModelSchema (Obj k)) :
    SharedRegistry Obj :=
  match w.calls[i]? with
  | some ⟨k, phase⟩ =>
    let (phase, r, l) := phase.next (schema k) w.registry w.ledger
    ⟨r, l, w.calls.set i ⟨k, phase⟩⟩
  | none => w

/-- Take a turn. -/
def take (w : SharedRegistry Obj) : Turn Obj → SharedRegistry Obj
  | .ask k => w.ask k
  | .advance i schema => w.advance i schema

/-- Take turns in order. -/
def takeAll (w : SharedRegistry Obj) (ts : List (Turn Obj)) : SharedRegistry Obj :=
  ts.foldl take w

variable {w : SharedRegistry Obj} {i : Nat} {k : κ} {schema : (k : κ) → ModelSchema (Obj k)}

theorem advance_eq {phase : CallPhase (Obj k)} (h : w.calls[i]? = some ⟨k, phase⟩) :
    w.advance i schema = ⟨(phase.next (schema k) w.registry w.ledger).2.1,
      (phase.next (schema k) w.registry w.ledger).2.2,
      w.calls.set i ⟨k, (phase.next (schema k) w.registry w.ledger).1⟩⟩ := by
  rw [advance, h]

theorem advance_set {r : Registry Obj} {l : Ledger} {calls : List (RegistryCall Obj)}
    (hi : i < calls.length) (phase : CallPhase (Obj k)) :
    (⟨r, l, calls.set i ⟨k, phase⟩⟩ : SharedRegistry Obj).advance i schema =
      ⟨(phase.next (schema k) r l).2.1, (phase.next (schema k) r l).2.2,
        calls.set i ⟨k, (phase.next (schema k) r l).1⟩⟩ := by
  rw [advance_eq (List.getElem?_set_self hi), List.set_set]

/-- A call that nobody interrupts is an undivided call. -/
theorem takeAll_alone (h : w.calls[i]? = some ⟨k, .asked⟩) :
    w.takeAll [.advance i schema, .advance i schema, .advance i schema] =
      match (w.registry.definition schema k).run w.ledger with
      | (.ok (s, r), l) => ⟨r, l, w.calls.set i ⟨k, .answered s⟩⟩
      | (.error e, l) => ⟨w.registry, l, w.calls.set i ⟨k, .failed e⟩⟩ := by
  have hi : i < w.calls.length := (List.getElem?_eq_some_iff.mp h).1
  show ((w.advance i schema).advance i schema).advance i schema = _
  rw [advance_eq h]
  simp only [advance_set hi]
  cases hfind : w.registry.find? k with
  | some s =>
    rw [Registry.run_definition_of_find? hfind]
    simp only [CallPhase.next, hfind]
  | none =>
    rw [Registry.run_definition_of_none hfind]
    cases hdefine : (schema k).define w.ledger.builds with
    | ok d =>
      simp only [CallPhase.next, hfind, hdefine]
      rfl
    | error e =>
      simp only [CallPhase.next, hfind, hdefine]
      rfl

/-! ## All that a turn can do -/

/-- One turn. -/
inductive Step : SharedRegistry Obj → SharedRegistry Obj → Prop
  /-- There is no such call, or it is over. -/
  | idle {w : SharedRegistry Obj} : Step w w
  | asked {r : Registry Obj} {l : Ledger} {calls : List (RegistryCall Obj)} (k : κ) :
    Step ⟨r, l, calls⟩ ⟨r, l, calls ++ [⟨k, .asked⟩]⟩
  | found {r : Registry Obj} {l : Ledger} {before after : List (RegistryCall Obj)} {k : κ}
    {s : Stored (Obj k)} (h : r.find? k = some s) :
    Step ⟨r, l, before ++ ⟨k, .asked⟩ :: after⟩ ⟨r, l, before ++ ⟨k, .answered s⟩ :: after⟩
  | missed {r : Registry Obj} {l : Ledger} {before after : List (RegistryCall Obj)} {k : κ}
    (h : r.find? k = none) :
    Step ⟨r, l, before ++ ⟨k, .asked⟩ :: after⟩ ⟨r, l, before ++ ⟨k, .missing⟩ :: after⟩
  | built {r : Registry Obj} {l : Ledger} {before after : List (RegistryCall Obj)} {k : κ}
    {schema : ModelSchema (Obj k)} {d : TableDefinition (Obj k)}
    (h : schema.define l.builds = .ok d) :
    Step ⟨r, l, before ++ ⟨k, .missing⟩ :: after⟩
      ⟨r, { l with builds := l.builds + 1 }, before ++ ⟨k, .built ⟨l.builds, d⟩⟩ :: after⟩
  | failed {r : Registry Obj} {l : Ledger} {before after : List (RegistryCall Obj)} {k : κ}
    (e : MappingError) :
    Step ⟨r, l, before ++ ⟨k, .missing⟩ :: after⟩
      ⟨r, { l with builds := l.builds + 1 }, before ++ ⟨k, .failed e⟩ :: after⟩
  | kept {r : Registry Obj} {l : Ledger} {before after : List (RegistryCall Obj)} {k : κ}
    {s old : Stored (Obj k)} (h : r.find? k = some old) :
    Step ⟨r, l, before ++ ⟨k, .built s⟩ :: after⟩ ⟨r, l, before ++ ⟨k, .answered old⟩ :: after⟩
  | stored {r : Registry Obj} {l : Ledger} {before after : List (RegistryCall Obj)} {k : κ}
    {s : Stored (Obj k)} (h : r.find? k = none) :
    Step ⟨r, l, before ++ ⟨k, .built s⟩ :: after⟩
      ⟨r.insert k s, l, before ++ ⟨k, .answered s⟩ :: after⟩

theorem step_next {r : Registry Obj} {l : Ledger} {before after : List (RegistryCall Obj)}
    (schema : ModelSchema (Obj k)) (phase : CallPhase (Obj k)) :
    Step ⟨r, l, before ++ ⟨k, phase⟩ :: after⟩
      ⟨(phase.next schema r l).2.1, (phase.next schema r l).2.2,
        before ++ ⟨k, (phase.next schema r l).1⟩ :: after⟩ := by
  cases phase with
  | asked =>
    cases h : r.find? k with
    | some s => simpa only [CallPhase.next, h] using .found h
    | none => simpa only [CallPhase.next, h] using .missed h
  | missing =>
    cases h : schema.define l.builds with
    | ok d => simpa only [CallPhase.next, h] using .built h
    | error e => simpa only [CallPhase.next, h] using .failed e
  | built s =>
    cases h : r.find? k with
    | some old => simpa only [CallPhase.next, Registry.insertIfNew_of_find? h] using .kept h
    | none => simpa only [CallPhase.next, Registry.insertIfNew_of_none h] using .stored h
  | answered s => exact .idle
  | failed e => exact .idle

theorem step_advance (w : SharedRegistry Obj) (i : Nat) (schema : (k : κ) → ModelSchema (Obj k)) :
    Step w (w.advance i schema) := by
  obtain ⟨r, l, calls⟩ := w
  cases hcall : calls[i]? with
  | none =>
    rw [advance, hcall]
    exact .idle
  | some c =>
    obtain ⟨before, after, rfl, hset⟩ := exists_around hcall
    rw [advance_eq hcall, hset]
    exact step_next (schema c.key) c.phase

theorem step_take (w : SharedRegistry Obj) (t : Turn Obj) : Step w (w.take t) := by
  cases t with
  | ask k => exact .asked k
  | advance i schema => exact step_advance w i schema

end SharedRegistry
end TableMapping
