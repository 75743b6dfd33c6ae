import TableMapping.Proofs.Session.Gate

/-!
# The conduct of a session

Version checks are the only part of a session that depends on stored versions.  Seen from them, a
session of any length is a sequence of segments: a version check that fails, a version check that
succeeds together with the mark that follows it at once, and single moments of anything else.

* `Segment`, `Conduct`: what a history consists of.
* `Life.conduct`: the life of a session consists of segments.
* `goes_performAll`: so does what it has gone through after any operations.
-/

namespace TableMapping

/-- Neither a statement of a version check nor an upgrade. -/
def Event.IsApart {κ : Type} : Event κ → Prop
  | .sent (.versionCheck _) _ _ => False
  | .upgrading .. => False
  | .upgraded .. => False
  | _ => True

theorem Event.Creates.isApart {κ : Type} {k : ModelKey κ} {e : Event κ} (h : e.Creates k) :
    e.IsApart := by
  rcases h with h | ⟨n, rfl⟩
  · obtain ⟨kind, st, rfl⟩ := Event.sentFor_iff.mp h
    trivial
  · trivial

namespace Session

open Runs

variable {σ κ : Type} {Obj : Models κ} {env : Environment σ Obj} {s t : SessionState σ Obj}
  {k : ModelKey κ} {hs hs' : List (Moment σ κ)}

variable (env) in
/-- A part of a history. -/
inductive Segment : List (Moment σ κ) → Prop
  | apart {m : Moment σ κ} (h : m.event.IsApart) : Segment [m]
  | failed {k : ModelKey κ} {e : MappingError} {hs : List (Moment σ κ)}
      (h : Consulted env k (.error e) hs) : Segment hs
  | passed {k : ModelKey κ} {hs : List (Moment σ κ)} {g : σ} (h : Consulted env k (.ok ()) hs) :
      Segment (hs ++ [⟨.prepared k, g, g⟩])

variable (env) in
/-- A history that consists of segments. -/
inductive Conduct : List (Moment σ κ) → Prop
  | nil : Conduct []
  | cons {hs hs' : List (Moment σ κ)} (h : Segment env hs) (h' : Conduct hs') :
      Conduct (hs ++ hs')

theorem Conduct.append (h : Conduct env hs) (h' : Conduct env hs') : Conduct env (hs ++ hs') := by
  induction h with
  | nil => exact h'
  | cons hseg _ ih =>
    rw [List.append_assoc]
    exact .cons hseg ih

theorem Segment.conduct (h : Segment env hs) : Conduct env hs := by
  rw [← List.append_nil hs]
  exact .cons h .nil

theorem conduct_of_apart (h : ∀ m ∈ hs, m.event.IsApart) : Conduct env hs := by
  induction hs with
  | nil => exact .nil
  | cons m hs ih =>
    obtain ⟨hm, hhs⟩ := List.forall_mem_cons.mp h
    exact .cons (.apart hm) (ih hhs)

/-! ## Preparation -/

theorem conduct_of_creates (h : ∀ m ∈ hs, m.event.Creates k) : Conduct env hs :=
  conduct_of_apart fun m hm => (h m hm).isApart

theorem conduct_of_creates_or_mark
    (h : ∀ m ∈ hs, m.event.Creates k ∨ m.event = .prepared k) : Conduct env hs := by
  refine conduct_of_apart fun m hm => ?_
  rcases h m hm with hm | hm
  · exact hm.isApart
  · rw [hm]
    trivial

theorem VersionsReady.conduct {ready : Prop} (h : VersionsReady env ready hs) : Conduct env hs := by
  cases h with
  | already => exact .nil
  | now _ hhs => exact conduct_of_creates_or_mark hhs.creates_or_mark

theorem Preparation.conduct {ready : Prop}
    {b : Except MappingError (TableDefinition (ModelKey.Object Obj k))}
    (h : Preparation env k ready b hs) : Conduct env hs := by
  cases h with
  | undefined => exact .nil
  | uncreated _ hcs => exact conduct_of_creates hcs.creates
  | unchecked _ hcs hhs =>
    refine (conduct_of_creates hcs.creates).append ?_
    cases hhs with
    | unprepared _ _ hvs => exact conduct_of_creates_or_mark hvs.creates_or_mark
    | consulted _ hvs hhs => exact hvs.conduct.append (Segment.failed hhs).conduct
  | finished _ hcs hhs =>
    -- A version check that succeeds makes one segment with the mark.
    rw [List.append_assoc]
    refine (conduct_of_creates hcs.creates).append ?_
    cases hhs with
    | notDue => exact conduct_of_apart (List.forall_mem_singleton.mpr trivial)
    | consulted _ hvs hhs =>
      rw [List.append_assoc]
      exact hvs.conduct.append (Segment.passed hhs).conduct

theorem Life.conduct (h : Life env hs) : Conduct env hs := by
  induction h with
  | nil => exact .nil
  | operation _ _ hhs ih =>
    refine ih.append (conduct_of_apart fun m hm => ?_)
    obtain ⟨kind, st, heq⟩ := Event.sentFor_iff.mp (hhs m hm)
    rw [heq]
    trivial
  | preparation _ _ hhs ih => exact ih.append hhs.conduct

/-- A session consists of segments. -/
theorem goes_performAll [DecidableEq κ] (engine : σ) (ledger : Ledger)
    {registry : Registry (ModelKey.Object Obj)} (hbuilt : registry.BuiltFrom env.schemaOf)
    (ops : List (Operation Obj)) :
    let s : SessionState σ Obj := .openedOver env engine ledger registry
    ∃ hs, Goes env hs s (Operation.performAll env ops s) ∧ Conduct env hs := by
  intro s
  obtain ⟨hs, hgoes, horderly⟩ := orderly_performAll (orderly_openedOver hbuilt) ops
  exact ⟨hs, hgoes, horderly.life.conduct⟩

end Session
end TableMapping
