import Mathlib.Data.Finset.Card
import Mathlib.Data.List.Nodup
import Mathlib.Data.List.Pairwise
import Mathlib.Data.List.Perm.Subperm
import TableMapping.Proofs.Model.Definition
import TableMapping.Proofs.Model.RegistryCalls

/-!
# What callers of a registry agree on

Two callers that find nothing both build, and only one of their definitions is stored.  That
everybody is answered with this one, whatever the order of the steps, follows from an invariant of a
single step: what is stored for a model is what its calls have been answered with.  The numbers of
builds tell definitions apart, because no number is on two definitions that are stored or about to be.

* `SharedRegistry.Consistent`: the invariant, with `Consistent.step` and `Consistent.takeAll`.
* `SharedRegistry.find?_takeAll`: what is stored stays.
* `SharedRegistry.Agrees`: what callers can rely on.
* `SharedRegistry.agrees_takeAll`: they can, after any turns.
-/

namespace TableMapping

variable {κ : Type} {Obj : Models κ}

/-! ## Keys and numbers -/

/-- The columns of a definition belong to its build. -/
def Stored.IsOwn {M : Type} (s : Stored M) : Prop :=
  ∀ f ∈ s.definition.fields, f.build = s.build

/-- Definitions of different builds have no adapter in common. -/
theorem Stored.IsOwn.slot_ne {M N : Type} {s : Stored M} {s' : Stored N} (hs : s.IsOwn)
    (hs' : s'.IsOwn) (hbuild : s.build ≠ s'.build) {f : MappedField M}
    (hf : f ∈ s.definition.fields) {g : MappedField N} (hg : g ∈ s'.definition.fields) :
    f.slot ≠ g.slot := by
  intro hslot
  have hbuilds : f.build = g.build := congrArg AdapterSlot.build hslot
  rw [hs f hf, hs' g hg] at hbuilds
  exact hbuild hbuilds

namespace Registry

/-- The models of a registry are listed once each. -/
structure IsKeyed (r : Registry Obj) : Prop where
  nodup : r.keys.Nodup
  mem_iff : ∀ k, k ∈ r.keys ↔ (r.find? k).isSome = true

/-- The numbers of the stored definitions. -/
def numbers (r : Registry Obj) : List Nat :=
  r.keys.filterMap fun k => (r.find? k).map (·.build)

variable {r : Registry Obj} {k k' : κ}

theorem isKeyed_empty : (empty : Registry Obj).IsKeyed :=
  ⟨.nil, fun _ => iff_of_false List.not_mem_nil nofun⟩

theorem IsKeyed.notMem (h : r.IsKeyed) (hk : r.find? k = none) : k ∉ r.keys := by
  rw [h.mem_iff, hk]
  exact Bool.false_ne_true

/-- Numbers that differ tell models apart. -/
theorem IsKeyed.eq_of_build_eq (h : r.IsKeyed) (hnumbers : r.numbers.Nodup) {s : Stored (Obj k)}
    {s' : Stored (Obj k')} (hs : r.find? k = some s) (hs' : r.find? k' = some s')
    (hbuild : s.build = s'.build) : k = k' := by
  have hmem : ∀ {k s}, r.find? k = some s → k ∈ r.keys := fun {k s} hk => by
    rw [h.mem_iff, hk]
    rfl
  have hsymm : Std.Symm fun k k' => ∀ n, (r.find? k).map (·.build) = some n →
      ∀ n', (r.find? k').map (·.build) = some n' → n ≠ n' :=
    ⟨fun _ _ hne n hn n' hn' => (hne n' hn' n hn).symm⟩
  by_contra hne
  have hdiffer := (List.pairwise_filterMap.mp hnumbers).forall (hmem hs) (hmem hs') hne
  refine hdiffer s.build ?_ s'.build ?_ hbuild
  · rw [hs]
    rfl
  · rw [hs']
    rfl

variable [DecidableEq κ]

theorem IsKeyed.insert (h : r.IsKeyed) (hk : r.find? k = none) (s : Stored (Obj k)) :
    (r.insert k s).IsKeyed := by
  refine ⟨List.nodup_cons.mpr ⟨h.notMem hk, h.nodup⟩, fun k' => ?_⟩
  show k' ∈ k :: r.keys ↔ _
  by_cases hkey : k = k'
  · subst hkey
    rw [find?_insert_self]
    exact iff_of_true List.mem_cons_self rfl
  · rw [find?_insert_of_ne r s hkey, ← h.mem_iff, List.mem_cons]
    exact or_iff_right fun heq => hkey heq.symm

theorem IsKeyed.numbers_insert (h : r.IsKeyed) (hk : r.find? k = none) (s : Stored (Obj k)) :
    (r.insert k s).numbers = s.build :: r.numbers := by
  have hrest : r.keys.filterMap (fun k' => ((r.insert k s).find? k').map (·.build)) =
      r.numbers := by
    refine List.filterMap_congr fun k' hk' => ?_
    rw [find?_insert_of_ne r s fun heq => h.notMem hk (heq ▸ hk')]
  show (k :: r.keys).filterMap _ = _
  rw [List.filterMap_cons_some (by rw [find?_insert_self]; rfl), hrest]

end Registry

/-! ## One turn -/

/-- The number of the definition that a call keeps to itself. -/
def RegistryCall.number? (c : RegistryCall Obj) : Option Nat :=
  match c.phase with
  | .built s => some s.build
  | _ => none

namespace SharedRegistry

/-- The numbers of the definitions that are stored or about to be. -/
def numbers (w : SharedRegistry Obj) : List Nat :=
  w.registry.numbers ++ w.calls.filterMap (·.number?)

/-- A definition is stored or about to be. -/
def Holds (w : SharedRegistry Obj) (k : κ) (s : Stored (Obj k)) : Prop :=
  w.registry.find? k = some s ∨ ⟨k, .built s⟩ ∈ w.calls

theorem mem_around {before after : List (RegistryCall Obj)} {c x : RegistryCall Obj} :
    x ∈ before ++ c :: after ↔ x = c ∨ x ∈ before ++ after := by
  rw [List.mem_append, List.mem_cons, List.mem_append]
  exact or_left_comm

/-- The models that some call was answered for, once for each call. -/
def answeredKeys (w : SharedRegistry Obj) : List κ :=
  w.calls.filterMap fun c =>
    match c.phase with
    | .answered _ => some c.key
    | _ => none

theorem mem_answeredKeys {w : SharedRegistry Obj} {k : κ} :
    k ∈ w.answeredKeys ↔ ∃ s, w.Answered k s := by
  rw [answeredKeys, List.mem_filterMap]
  constructor
  · rintro ⟨⟨key, phase⟩, hmem, hkey⟩
    cases phase with
    | answered s =>
      cases hkey
      exact ⟨s, hmem⟩
    | _ => exact nomatch hkey
  · rintro ⟨s, hs⟩
    exact ⟨⟨k, .answered s⟩, hs, rfl⟩

section Around

variable {r : Registry Obj} {l : Ledger} {before after : List (RegistryCall Obj)}
  {c : RegistryCall Obj} {n : Nat}

theorem numbers_of_none (h : c.number? = none) :
    (⟨r, l, before ++ c :: after⟩ : SharedRegistry Obj).numbers =
      r.numbers ++ (before ++ after).filterMap (·.number?) := by
  rw [numbers, List.filterMap_append, List.filterMap_cons_none h, ← List.filterMap_append]

theorem numbers_of_some (h : c.number? = some n) :
    (⟨r, l, before ++ c :: after⟩ : SharedRegistry Obj).numbers.Perm
      (n :: (r.numbers ++ (before ++ after).filterMap (·.number?))) := by
  rw [numbers, List.filterMap_append, List.filterMap_cons_some h, List.filterMap_append]
  exact (List.perm_middle.append_left _).trans List.perm_middle

end Around

namespace Step

variable [DecidableEq κ] {w w' : SharedRegistry Obj} {k : κ} {s : Stored (Obj k)}

theorem find?_mono (h : Step w w') (hs : w.registry.find? k = some s) :
    w'.registry.find? k = some s := by
  cases h with
  | stored hnone => exact Registry.find?_insert_mono hnone hs
  | _ => exact hs

/-- What is stored by a turn, some call is answered with. -/
theorem find?_new (h : Step w w') (hs : w'.registry.find? k = some s) :
    w.registry.find? k = some s ∨ w'.Answered k s := by
  cases h with
  | stored =>
    rcases Registry.find?_insert_cases hs with hs | heq
    · exact .inl hs
    · cases heq
      exact .inr (mem_around.mpr (.inl rfl))
  | _ => exact .inl hs

theorem answered_mono (h : Step w w') (hs : w.Answered k s) : w'.Answered k s := by
  cases h with
  | idle => exact hs
  | asked => exact List.mem_append_left _ hs
  | _ =>
    rcases mem_around.mp hs with heq | hs
    · exact nomatch heq
    · exact mem_around.mpr (.inr hs)

/-- What a call is answered with by a turn is stored. -/
theorem answered_new (h : Step w w') (hs : w'.Answered k s) :
    w.Answered k s ∨ w'.registry.find? k = some s := by
  cases h with
  | idle => exact .inl hs
  | asked =>
    refine .inl ((List.mem_append.mp hs).resolve_right fun hnew => ?_)
    exact nomatch List.mem_singleton.mp hnew
  | found hfind | kept hfind =>
    rcases mem_around.mp hs with heq | hs
    · cases heq
      exact .inr hfind
    · exact .inl (mem_around.mpr (.inr hs))
  | stored =>
    rcases mem_around.mp hs with heq | hs
    · cases heq
      exact .inr (Registry.find?_insert_self ..)
    · exact .inl (mem_around.mpr (.inr hs))
  | _ =>
    rcases mem_around.mp hs with heq | hs
    · exact nomatch heq
    · exact .inl (mem_around.mpr (.inr hs))

theorem isKeyed (h : Step w w') (hw : w.registry.IsKeyed) : w'.registry.IsKeyed := by
  cases h with
  | stored hnone => exact hw.insert hnone _
  | _ => exact hw

/-- A turn takes no number but the next one. -/
theorem numbers (h : Step w w') (hw : w.registry.IsKeyed) :
    (w'.numbers.Subperm w.numbers ∧ w.ledger.builds ≤ w'.ledger.builds) ∨
      (w'.numbers.Perm (w.ledger.builds :: w.numbers) ∧
        w'.ledger.builds = w.ledger.builds + 1) := by
  cases h with
  | idle => exact .inl ⟨.refl _, Nat.le_refl _⟩
  | asked =>
    refine .inl ⟨?_, Nat.le_refl _⟩
    rw [numbers_of_none rfl, List.append_nil]
    exact .refl _
  | found | missed =>
    refine .inl ⟨?_, Nat.le_refl _⟩
    rw [numbers_of_none rfl, numbers_of_none rfl]
  | failed =>
    refine .inl ⟨?_, Nat.le_succ _⟩
    rw [numbers_of_none rfl, numbers_of_none rfl]
  | built =>
    refine .inr ⟨(numbers_of_some rfl).trans (.of_eq ?_), rfl⟩
    rw [numbers_of_none rfl]
  | kept =>
    refine .inl ⟨?_, Nat.le_refl _⟩
    rw [numbers_of_none rfl]
    exact (List.sublist_cons_self _ _).subperm.trans (numbers_of_some rfl).symm.subperm
  | stored hnone =>
    refine .inl ⟨?_, Nat.le_refl _⟩
    rw [numbers_of_none rfl, hw.numbers_insert hnone]
    exact (numbers_of_some rfl).symm.subperm

/-- Definitions come from builds. -/
theorem holds_new (h : Step w w') (hs : w'.Holds k s) :
    w.Holds k s ∨ ∃ schema : ModelSchema (Obj k), schema.define s.build = .ok s.definition := by
  rcases hs with hs | hs
  · cases h with
    | stored =>
      rcases Registry.find?_insert_cases hs with hs | heq
      · exact .inl (.inl hs)
      · cases heq
        exact .inl (.inr (mem_around.mpr (.inl rfl)))
    | _ => exact .inl (.inl hs)
  · cases h with
    | idle => exact .inl (.inr hs)
    | asked =>
      refine .inl (.inr ((List.mem_append.mp hs).resolve_right fun hnew => ?_))
      exact nomatch List.mem_singleton.mp hnew
    | built hdefine =>
      rcases mem_around.mp hs with heq | hs
      · cases heq
        exact .inr ⟨_, hdefine⟩
      · exact .inl (.inr (mem_around.mpr (.inr hs)))
    | _ =>
      rcases mem_around.mp hs with heq | hs
      · exact nomatch heq
      · exact .inl (.inr (mem_around.mpr (.inr hs)))

end Step

/-! ## Many turns -/

/-- What holds of a shared registry between any two turns. -/
structure Consistent (w : SharedRegistry Obj) : Prop where
  isKeyed : w.registry.IsKeyed
  /-- What is stored for a model is what its calls have been answered with. -/
  find?_iff : ∀ k s, w.registry.find? k = some s ↔ w.Answered k s
  /-- No number is on two definitions. -/
  nodup : w.numbers.Nodup
  numbers_lt : ∀ n ∈ w.numbers, n < w.ledger.builds
  isOwn : ∀ k s, w.Holds k s → s.IsOwn

theorem consistent_start (l : Ledger) : (start l : SharedRegistry Obj).Consistent where
  isKeyed := Registry.isKeyed_empty
  find?_iff _ _ := iff_of_false nofun List.not_mem_nil
  nodup := .nil
  numbers_lt := List.forall_mem_nil _
  isOwn _ _ hs := hs.elim nofun fun hmem => absurd hmem List.not_mem_nil

variable [DecidableEq κ] {w w' : SharedRegistry Obj} {k : κ}

theorem Consistent.step (hw : w.Consistent) (h : Step w w') : w'.Consistent where
  isKeyed := h.isKeyed hw.isKeyed
  find?_iff k s := by
    constructor
    · intro hs
      rcases h.find?_new hs with hs | hs
      · exact h.answered_mono ((hw.find?_iff k s).mp hs)
      · exact hs
    · intro hs
      rcases h.answered_new hs with hs | hs
      · exact h.find?_mono ((hw.find?_iff k s).mpr hs)
      · exact hs
  nodup := by
    rcases h.numbers hw.isKeyed with ⟨⟨ns, hperm, hsub⟩, -⟩ | ⟨hperm, -⟩
    · exact hperm.nodup_iff.mp (hw.nodup.sublist hsub)
    · refine hperm.nodup_iff.mpr (List.nodup_cons.mpr ⟨fun hmem => ?_, hw.nodup⟩)
      exact Nat.lt_irrefl _ (hw.numbers_lt _ hmem)
  numbers_lt n hn := by
    rcases h.numbers hw.isKeyed with ⟨hsub, hle⟩ | ⟨hperm, heq⟩
    · exact Nat.lt_of_lt_of_le (hw.numbers_lt n (hsub.subset hn)) hle
    · rw [heq]
      rcases List.mem_cons.mp (hperm.mem_iff.mp hn) with rfl | hn
      · exact Nat.lt_succ_self _
      · exact Nat.lt_succ_of_lt (hw.numbers_lt n hn)
  isOwn k s hs := by
    rcases h.holds_new hs with hs | ⟨schema, hdefine⟩
    · exact hw.isOwn k s hs
    · exact ModelSchema.build_of_define hdefine

theorem Consistent.takeAll (hw : w.Consistent) (ts : List (Turn Obj)) :
    (w.takeAll ts).Consistent := by
  induction ts generalizing w with
  | nil => exact hw
  | cons t ts ih => exact ih (hw.step (step_take w t))

/-- What is stored stays, whatever else happens. -/
theorem find?_takeAll {s : Stored (Obj k)} (hs : w.registry.find? k = some s)
    (ts : List (Turn Obj)) : (w.takeAll ts).registry.find? k = some s := by
  induction ts generalizing w with
  | nil => exact hs
  | cons t ts ih => exact ih ((step_take w t).find?_mono hs)

/-! ## Agreement -/

/-- What the callers of a registry can rely on. -/
structure Agrees (w : SharedRegistry Obj) : Prop where
  /-- All calls for a model that are answered are answered with the same definition. -/
  same : ∀ k s s', w.Answered k s → w.Answered k s' → s = s'
  /-- The definitions of different models have no adapter in common. -/
  apart : ∀ k k' s s', w.Answered k s → w.Answered k' s' → k ≠ k' →
    ∀ f ∈ s.definition.fields, ∀ g ∈ s'.definition.fields, f.slot ≠ g.slot
  /-- What is stored for a model is what its calls are answered with. -/
  find?_iff : ∀ k s, w.registry.find? k = some s ↔ w.Answered k s
  /-- What is stored is neither replaced nor removed by any more turns. -/
  kept : ∀ k s, w.registry.find? k = some s → ∀ ts, (w.takeAll ts).registry.find? k = some s
  contains_iff : ∀ k, w.registry.contains k = true ↔ ∃ s, w.Answered k s
  /-- The size is the number of models with a call that was answered. -/
  size_eq : w.registry.size = w.answeredKeys.toFinset.card
  /-- A build stores nothing, so one that fails leaves no trace in the registry, and whether a build
  succeeds depends on no other call. -/
  building : ∀ i k schema, w.calls[i]? = some ⟨k, .missing⟩ →
    (w.advance i schema).registry = w.registry ∧
      (w.advance i schema).calls = w.calls.set i ⟨k,
        match (schema k).define w.ledger.builds with
        | .ok d => .built ⟨w.ledger.builds, d⟩
        | .error e => .failed e⟩
  /-- Where nothing is stored, whatever has failed before, one more call builds and stores, if its
  build succeeds. -/
  free : ∀ k schema d, w.registry.find? k = none →
    (schema k).define w.ledger.builds = .ok d →
    ((w.ask k).takeAll [.advance w.calls.length schema, .advance w.calls.length schema,
      .advance w.calls.length schema]).registry.find? k = some ⟨w.ledger.builds, d⟩
  /-- A call that has built is answered by its next step, if not with its own definition then with
  the one that is stored. -/
  answers : ∀ i k s schema, w.calls[i]? = some ⟨k, .built s⟩ →
    (w.advance i schema).Answered k ((w.registry.find? k).getD s)

theorem advance_of_missing {i : Nat} {schema : (k : κ) → ModelSchema (Obj k)}
    (hcall : w.calls[i]? = some ⟨k, .missing⟩) :
    (w.advance i schema).registry = w.registry ∧
      (w.advance i schema).calls = w.calls.set i ⟨k,
        match (schema k).define w.ledger.builds with
        | .ok d => .built ⟨w.ledger.builds, d⟩
        | .error e => .failed e⟩ := by
  rw [advance_eq hcall, CallPhase.next]
  cases (schema k).define w.ledger.builds with
  | ok d => exact ⟨rfl, rfl⟩
  | error e => exact ⟨rfl, rfl⟩

theorem find?_ask_alone {schema : (k : κ) → ModelSchema (Obj k)} {d : TableDefinition (Obj k)}
    (hnone : w.registry.find? k = none) (hdefine : (schema k).define w.ledger.builds = .ok d) :
    ((w.ask k).takeAll [.advance w.calls.length schema, .advance w.calls.length schema,
      .advance w.calls.length schema]).registry.find? k = some ⟨w.ledger.builds, d⟩ := by
  have hcall : (w.ask k).calls[w.calls.length]? = some ⟨k, .asked⟩ := List.getElem?_concat_length ..
  have hrun : ((w.ask k).registry.definition schema k).run (w.ask k).ledger =
      (.ok (⟨w.ledger.builds, d⟩, w.registry.insert k ⟨w.ledger.builds, d⟩),
        { w.ledger with builds := w.ledger.builds + 1 }) := by
    show (w.registry.definition schema k).run w.ledger = _
    rw [Registry.run_definition_of_none hnone, hdefine, Except.map,
      Registry.insertIfNew_of_none hnone]
  rw [takeAll_alone hcall, hrun]
  exact Registry.find?_insert_self ..

theorem answered_advance_of_built {i : Nat} {schema : (k : κ) → ModelSchema (Obj k)}
    {s : Stored (Obj k)} (hcall : w.calls[i]? = some ⟨k, .built s⟩) :
    (w.advance i schema).Answered k ((w.registry.find? k).getD s) := by
  have hanswer : (w.registry.insertIfNew k s).1 = (w.registry.find? k).getD s := by
    rw [Registry.insertIfNew]
    cases w.registry.find? k <;> rfl
  rw [advance_eq hcall, CallPhase.next, hanswer]
  exact List.mem_set (List.getElem?_eq_some_iff.mp hcall).1 _

theorem Consistent.agrees (hw : w.Consistent) : w.Agrees where
  same k s s' hs hs' :=
    Option.some.inj (((hw.find?_iff k s).mpr hs).symm.trans ((hw.find?_iff k s').mpr hs'))
  apart k k' s s' hs hs' hne f hf g hg := by
    have hstored := (hw.find?_iff k s).mpr hs
    have hstored' := (hw.find?_iff k' s').mpr hs'
    have hnumbers : w.registry.numbers.Nodup := hw.nodup.of_append_left
    refine (hw.isOwn k s (.inl hstored)).slot_ne (hw.isOwn k' s' (.inl hstored')) ?_ hf hg
    exact fun hbuild => hne (hw.isKeyed.eq_of_build_eq hnumbers hstored hstored' hbuild)
  find?_iff := hw.find?_iff
  kept _ _ hs := find?_takeAll hs
  contains_iff k := by
    rw [Registry.contains, Option.isSome_iff_exists]
    exact exists_congr (hw.find?_iff k)
  size_eq := by
    have hkeys : w.registry.keys.toFinset = w.answeredKeys.toFinset := by
      ext k
      rw [List.mem_toFinset, List.mem_toFinset, hw.isKeyed.mem_iff, Option.isSome_iff_exists,
        mem_answeredKeys]
      exact exists_congr (hw.find?_iff k)
    rw [← hkeys, List.toFinset_card_of_nodup hw.isKeyed.nodup, Registry.size]
  building _ _ _ := advance_of_missing
  free _ _ _ := find?_ask_alone
  answers _ _ _ _ := answered_advance_of_built

/-- **Agreement.**  Whoever asks for whichever models, and in whatever order the lookups, builds and
stores of these calls follow each other, callers of one registry can rely on it. -/
theorem agrees_takeAll (l : Ledger) (ts : List (Turn Obj)) :
    ((start l : SharedRegistry Obj).takeAll ts).Agrees :=
  ((consistent_start l).takeAll ts).agrees

/-! ### Three callers -/

/-- Something that counts. -/
structure Tally where
  count : Int64

def tallySchema (field : FieldSpec Tally) : ModelSchema Tally :=
  ((ModelSchema.named "Tally" ⟨0⟩).withTable {}).addField (field.withColumn {})

/-- Three callers find nothing.  The first one's build fails, because it has a field of a type that
is not mapped.  The other two build, and the last one is the first to store. -/
def tallyTurns : List (Turn fun _ : Unit => Tally) :=
  let good := fun _ => tallySchema (.value Int64 "count" Tally.count fun n _ => ⟨n⟩)
  let bad := fun _ => tallySchema (.text ⟨"Count", fun _ => "", fun _ => none⟩ "count" Tally.count
    fun n _ => ⟨n⟩)
  [.ask (), .ask (), .ask (), .advance 0 good, .advance 1 good, .advance 2 good,
    .advance 0 bad, .advance 1 good, .advance 2 good, .advance 2 good, .advance 1 good]

/-- The second caller is answered with the definition of the third. -/
theorem agrees_takeAll_tally :
    ∃ s e, ((start .start).takeAll tallyTurns).calls =
        [⟨(), .failed e⟩, ⟨(), .answered s⟩, ⟨(), .answered s⟩] ∧ s.build = 2 ∧
      ((start .start).takeAll tallyTurns).registry.size = 1 := by
  have hagrees := agrees_takeAll .start tallyTurns
  obtain ⟨s, s', e, hcalls, hbuild⟩ : ∃ s s' e, ((start .start).takeAll tallyTurns).calls =
      [⟨(), .failed e⟩, ⟨(), .answered s⟩, ⟨(), .answered s'⟩] ∧ s'.build = 2 :=
    ⟨_, _, _, rfl, rfl⟩
  have hs : ((start .start).takeAll tallyTurns).Answered () s := by
    rw [Answered, hcalls]
    exact List.mem_cons_of_mem _ List.mem_cons_self
  have hs' : ((start .start).takeAll tallyTurns).Answered () s' := by
    rw [Answered, hcalls]
    exact List.mem_cons_of_mem _ (List.mem_cons_of_mem _ List.mem_cons_self)
  obtain rfl := hagrees.same () s s' hs hs'
  refine ⟨s, e, hcalls, hbuild, ?_⟩
  rw [hagrees.size_eq, answeredKeys, hcalls]
  rfl

end SharedRegistry
end TableMapping
