import TableMapping.Proofs.Session.Conduct

/-!
# When an upgrade is repeated

An upgrade that succeeds is followed by the statement that sets the version of the record, and
that by the mark of the model, after which nothing of a preparation happens any more.  Between the
upgrade and the mark only that one statement can fail.  Where the engine refuses it, the model is
not marked, and the next operation on it has its table upgraded once more.

* `Conduct.concluded`: what follows a successful upgrade at once.
* `performAll_upgradesAgain`: another upgrade of the same model comes after a refused statement.
* `countP_upgrades_widget`: a session of two operations where that happens.
-/

namespace TableMapping
namespace Session

open Runs VersionRecord

variable {σ κ : Type} {Obj : Models κ} {env : Environment σ Obj} {s t : SessionState σ Obj}
  {k k' : ModelKey κ} {hs before rest : List (Moment σ κ)} {m : Moment σ κ} {u : Upgrade}

variable (env) in
/-- What follows a successful upgrade: the version of a record is set, and the model is marked
unless the engine refuses that. -/
inductive Concluded (k : ModelKey κ) : List (Moment σ κ) → Prop
  | refused {r : VersionRecord} {g g' : σ} {e : MappingError}
      (hwrite : env.engine.execute (advance env.dialect r) g = (.error e, g'))
      (rest : List (Moment σ κ)) :
      Concluded k (⟨.sent (.versionCheck k) .update (advance env.dialect r), g, g'⟩ :: rest)
  | marked (st : Statement) (g g' g'' : σ) (rest : List (Moment σ κ)) :
      Concluded k (⟨.sent (.versionCheck k) .update st, g, g'⟩ :: ⟨.prepared k, g'', g''⟩ :: rest)

/-- The first moment of a history is not a successful upgrade, so that is further on. -/
theorem eq_append_of_cons {m' : Moment σ κ} (heq : m' :: hs = before ++ m :: rest)
    (hne : m'.event ≠ m.event) : ∃ before', hs = before' ++ m :: rest := by
  rcases List.cons_eq_append_iff.mp heq with ⟨-, hm⟩ | ⟨before', -, hrest⟩
  · cases hm
    exact absurd rfl hne
  · exact ⟨before', hrest⟩

theorem ne_append_cons_of_nil : ([] : List (Moment σ κ)) ≠ before ++ m :: rest :=
  (List.append_ne_nil_of_right_ne_nil before (List.cons_ne_nil m rest)).symm

/-- In a version check, a successful upgrade is followed by one statement, whose answer is that of
the check. -/
theorem Settled.of_upgraded {stored : Option VersionRecord} {b : Except MappingError Unit}
    (h : Settled env k' stored b hs) (heq : hs = before ++ m :: rest)
    (hm : m.event = .upgraded k u (.ok true)) :
    k' = k ∧ ∃ r g g' c, env.engine.execute (advance env.dialect r) g = (c, g') ∧
      rest = [⟨.sent (.versionCheck k) .update (advance env.dialect r), g, g'⟩] ∧
      b = settledBy c := by
  cases h with
  | written hwrite =>
    obtain ⟨_, hnil⟩ := eq_append_of_cons heq (by rw [hm]; nofun)
    exact absurd hnil ne_append_cons_of_nil
  | failed hbehind hupgrader hask =>
    obtain ⟨_, hlast⟩ := eq_append_of_cons heq (by rw [hm]; nofun)
    obtain ⟨_, hnil⟩ := eq_append_of_cons hlast (by rw [hm]; nofun)
    exact absurd hnil ne_append_cons_of_nil
  | declined hbehind hupgrader hask =>
    obtain ⟨_, hlast⟩ := eq_append_of_cons heq (by rw [hm]; nofun)
    obtain ⟨_, hnil⟩ := eq_append_of_cons hlast (by rw [hm]; nofun)
    exact absurd hnil ne_append_cons_of_nil
  | upgraded hbehind hupgrader hask hwrite =>
    obtain ⟨before', hlast⟩ := eq_append_of_cons heq (by rw [hm]; nofun)
    rcases List.cons_eq_append_iff.mp hlast with ⟨-, hrest⟩ | ⟨_, -, hlast⟩
    · cases hrest
      cases hm
      exact ⟨rfl, _, _, _, _, hwrite, rfl, rfl⟩
    · obtain ⟨_, hnil⟩ := eq_append_of_cons hlast (by rw [hm]; nofun)
      exact absurd hnil ne_append_cons_of_nil
  | newer h g =>
    obtain ⟨_, hnil⟩ := eq_append_of_cons heq (by rw [hm]; nofun)
    exact absurd hnil ne_append_cons_of_nil
  | current h => exact absurd heq ne_append_cons_of_nil

theorem Consulted.of_upgraded {b : Except MappingError Unit} (h : Consulted env k' b hs)
    (heq : hs = before ++ m :: rest) (hm : m.event = .upgraded k u (.ok true)) :
    k' = k ∧ ∃ r g g' c, env.engine.execute (advance env.dialect r) g = (c, g') ∧
      rest = [⟨.sent (.versionCheck k) .update (advance env.dialect r), g, g'⟩] ∧
      b = settledBy c := by
  cases h with
  | failed hlooked =>
    obtain ⟨_, hnil⟩ := eq_append_of_cons heq (by rw [hm]; cases hlooked <;> nofun)
    exact absurd hnil ne_append_cons_of_nil
  | settled hlooked hsettled =>
    obtain ⟨before', hlast⟩ := eq_append_of_cons heq (by rw [hm]; cases hlooked; nofun)
    exact hsettled.of_upgraded hlast hm

theorem exists_of_settledBy_eq_error {c : Except MappingError UInt64} {e : MappingError}
    (h : settledBy c = .error e) : ∃ e', c = .error e' := by
  cases c with
  | error e' => exact ⟨e', rfl⟩
  | ok n => exact nomatch h

/-- Within a segment, what follows a successful upgrade is in that segment. -/
theorem Segment.concluded (h : Segment env hs) (heq : hs = before ++ m :: rest)
    (hm : m.event = .upgraded k u (.ok true)) (after : List (Moment σ κ)) :
    Concluded env k (rest ++ after) := by
  cases h with
  | apart hapart =>
    obtain ⟨_, hnil⟩ := eq_append_of_cons heq (by rintro heq; rw [heq, hm] at hapart; exact hapart)
    exact absurd hnil ne_append_cons_of_nil
  | failed hfailed =>
    obtain ⟨rfl, r, g, g', c, hwrite, rfl, hb⟩ := hfailed.of_upgraded heq hm
    obtain ⟨e', rfl⟩ := exists_of_settledBy_eq_error hb.symm
    exact .refused hwrite after
  | passed hpassed =>
    rcases List.append_eq_append_iff.mp heq with ⟨as, -, hlast⟩ | ⟨bs, hhs, hlast⟩
    · obtain ⟨_, hnil⟩ := eq_append_of_cons hlast (by rw [hm]; nofun)
      exact absurd hnil ne_append_cons_of_nil
    · rcases List.cons_eq_append_iff.mp hlast with ⟨-, hmark⟩ | ⟨rest', rfl, rfl⟩
      · cases hmark
        exact nomatch hm
      · obtain ⟨rfl, r, g, g', c, -, rfl, -⟩ := hpassed.of_upgraded hhs hm
        exact .marked _ g g' _ after

/-- In a session, a successful upgrade is followed by the statement that sets the version of a
record, and that by the mark unless it is refused. -/
theorem Conduct.concluded (h : Conduct env hs) (heq : hs = before ++ m :: rest)
    (hm : m.event = .upgraded k u (.ok true)) : Concluded env k rest := by
  induction h generalizing before with
  | nil => exact absurd heq ne_append_cons_of_nil
  | cons hseg _ ih =>
    rcases List.append_eq_append_iff.mp heq with ⟨as, -, hlast⟩ | ⟨bs, hhs, hlast⟩
    · exact ih hlast
    · rcases List.cons_eq_append_iff.mp hlast with ⟨-, hrest⟩ | ⟨rest', rfl, rfl⟩
      · rw [← List.nil_append (m :: rest)] at hrest
        exact ih hrest
      · exact hseg.concluded hhs hm _

variable [DecidableEq κ]

variable (env) in
/-- Between a successful upgrade of a model and another upgrade of the same model, the engine has
refused to set the version of a record; and that was the first that happened after the upgrade. -/
def RefusedBetweenUpgrades (hs : List (Moment σ κ)) : Prop :=
  ∀ k u u' answer before m between m' after, hs = before ++ m :: between ++ m' :: after →
    m.event = .upgraded k u (.ok true) → m'.event = .upgraded k u' answer →
    ∃ r g g' e rest, env.engine.execute (advance env.dialect r) g = (.error e, g') ∧
      between = ⟨.sent (.versionCheck k) .update (advance env.dialect r), g, g'⟩ :: rest

/-- In every session, whatever its engine and its upgrader answer, an upgrade that has succeeded
is repeated only where the engine has refused to set the version of the record. -/
theorem performAll_upgradesAgain (env : Environment σ Obj) (engine : σ) (ledger : Ledger)
    {registry : Registry (ModelKey.Object Obj)} (hbuilt : registry.BuiltFrom env.schemaOf)
    (ops : List (Operation Obj)) :
    let s : SessionState σ Obj := .openedOver env engine ledger registry
    ∃ hs, Goes env hs s (Operation.performAll env ops s) ∧ RefusedBetweenUpgrades env hs := by
  intro s
  obtain ⟨hs, hgoes, horderly⟩ := orderly_performAll (orderly_openedOver hbuilt) ops
  refine ⟨hs, hgoes, ?_⟩
  intro k u u' answer before m between m' after heq hm hm'
  rw [List.append_assoc, List.cons_append] at heq
  have hlife : Life env hs := horderly.life
  -- The mark cannot stand between the two upgrades.
  have hunmarked : ¬ Marked k between := by
    intro hmark
    have hfits : Fits env (before ++ m :: between) m' := by
      rw [heq, ← List.cons_append, ← List.append_assoc] at hlife
      exact hlife.fits
    have hupgrade : m'.event.Prepares k := by
      rw [hm']
      rfl
    refine hfits.preparing k hupgrade (marked_append.mpr (.inr ?_))
    exact List.mem_cons_of_mem _ hmark
  generalize hrest : between ++ m' :: after = rest at heq
  cases hlife.conduct.concluded heq hm with
  | refused hwrite rest =>
    rcases List.cons_eq_append_iff.mp hrest.symm with ⟨-, hfirst⟩ | ⟨between', rfl, -⟩
    · cases hfirst
      exact nomatch hm'
    · exact ⟨_, _, _, _, between', hwrite, rfl⟩
  | marked st g g' g'' rest =>
    rcases List.cons_eq_append_iff.mp hrest.symm with ⟨-, hfirst⟩ | ⟨between', rfl, hrest'⟩
    · cases hfirst
      exact nomatch hm'
    · rcases List.cons_eq_append_iff.mp hrest' with ⟨-, hsecond⟩ | ⟨between'', rfl, -⟩
      · cases hsecond
        exact nomatch hm'
      · exact absurd (List.mem_cons_of_mem _ List.mem_cons_self) hunmarked

/-! ## Widgets that are upgraded twice -/

/-- A model was upgraded, and the upgrader answered that it succeeded. -/
def isSuccessfulUpgrade (k : ModelKey κ) : Event κ → Bool
  | .upgraded k' _ (.ok true) => k' = k
  | _ => false

theorem performAll_upgradesAgain_refusedOnce :
    (Registry.empty : Registry (ModelKey.Object fun _ : Unit => Unit)).BuiltFrom
        widgetEnvironment.schemaOf ∧
      ∃ hs, Goes widgetEnvironment hs (.openedOver widgetEnvironment 0 .start .empty)
          (Operation.performAll widgetEnvironment widgetOperations
            (.openedOver widgetEnvironment 0 .start .empty)) ∧
        RefusedBetweenUpgrades widgetEnvironment hs :=
  ⟨Registry.builtFrom_empty,
    performAll_upgradesAgain widgetEnvironment 0 .start Registry.builtFrom_empty widgetOperations⟩

/-- The engine refuses to set the version once, and widgets are upgraded twice with success. -/
theorem countP_upgrades_widget :
    (Operation.performAll widgetEnvironment widgetOperations
      (.opened widgetEnvironment 0)).trace.countP (isSuccessfulUpgrade (.model ())) = 2 := by
  decide +kernel

end Session
end TableMapping
