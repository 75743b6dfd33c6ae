import TableMapping.Proofs.Session.VersionCheck

/-!
# The preparation of a model

A preparation creates, checks the version and ends with a mark.  The check prepares the version
records before it consults them, and they have no version, so a preparation contains at most one
other.  It fails for a reason that is among its moments, or because a schema cannot be built.

* `VersionCheck`, `Prepares`: a version check, and a preparation around one.
* `Preparation`: the preparation of a model, with its version check.
* `passes_preparation`: these are the cases of the function.
* `Standing k d s`: the model is prepared, and its definition is known; after a preparation it is.
* `prepare_checksVersion`: a model of the application has its version checked accordingly,
  whatever the engine and the upgrader answer.
-/

namespace TableMapping
namespace Session

open Runs VersionRecord

variable {σ κ : Type} {Obj : Models κ} {env : Environment σ Obj} {s t : SessionState σ Obj}
  {k : ModelKey κ} {hs : List (Moment σ κ)}

/-! ## The cases -/

variable (env k)

/-- The version of a model is to be checked. -/
def VersionDue : Prop :=
  k ≠ .versions ∧ env.upgrader.isSome ∧ 0 < (env.schemaOf k).version ∧
    env.config.checkVersions = true

/-- A preparation with a version check that has the cases `C`.  It fails where the model cannot be
defined, where its creation fails and where the check fails, and otherwise it ends with the mark. -/
inductive Prepares (C : Except MappingError Unit → List (Moment σ κ) → Prop) :
    Except MappingError (TableDefinition (ModelKey.Object Obj k)) → List (Moment σ κ) → Prop
  | undefined {build : Nat} {e : MappingError} (hd : (env.schemaOf k).define build = .error e) :
      Prepares C (.error e) []
  | uncreated {build : Nat} {d : TableDefinition (ModelKey.Object Obj k)} {e : MappingError}
      {cs : List (Moment σ κ)} (hd : (env.schemaOf k).define build = .ok d)
      (hcs : Created env d (.error e) cs) : Prepares C (.error e) cs
  | unchecked {build : Nat} {d : TableDefinition (ModelKey.Object Obj k)} {e : MappingError}
      {cs hs : List (Moment σ κ)} (hd : (env.schemaOf k).define build = .ok d)
      (hcs : Created env d (.ok ()) cs) (hhs : C (.error e) hs) : Prepares C (.error e) (cs ++ hs)
  | finished {build : Nat} {d : TableDefinition (ModelKey.Object Obj k)} {cs hs : List (Moment σ κ)}
      {g : σ} (hd : (env.schemaOf k).define build = .ok d) (hcs : Created env d (.ok ()) cs)
      (hhs : C (.ok ()) hs) : Prepares C (.ok d) (cs ++ hs ++ [⟨.prepared k, g, g⟩])

/-- The check of the version records, which have no version of their own. -/
inductive Unchecked : Except MappingError Unit → List (Moment σ κ) → Prop
  | unchecked : Unchecked (.ok ()) []

variable (ready : Prop)

/-- The version records are prepared already, or they are prepared now; `ready` says which. -/
inductive VersionsReady : List (Moment σ κ) → Prop
  | already (h : ready) : VersionsReady []
  | now (h : ¬ ready) {d : TableDefinition VersionRecord} {hs : List (Moment σ κ)}
      (hhs : Prepares env .versions Unchecked (.ok d) hs) : VersionsReady hs

/-- A version check.  It is not due, or the preparation of the version records fails, or it looks
for the record once they are prepared. -/
inductive VersionCheck : Except MappingError Unit → List (Moment σ κ) → Prop
  | notDue (h : ¬ VersionDue env k) : VersionCheck (.ok ()) []
  | unprepared (h : VersionDue env k) (hready : ¬ ready) {e : MappingError} {hs : List (Moment σ κ)}
      (hhs : Prepares env .versions Unchecked (.error e) hs) : VersionCheck (.error e) hs
  | consulted (h : VersionDue env k) {vs hs : List (Moment σ κ)} {b : Except MappingError Unit}
      (hvs : VersionsReady env ready vs) (hhs : Consulted env k b hs) : VersionCheck b (vs ++ hs)

/-- The preparation of a model; `ready` says whether the version records are prepared already. -/
abbrev Preparation :
    Except MappingError (TableDefinition (ModelKey.Object Obj k)) → List (Moment σ κ) → Prop :=
  Prepares env k (VersionCheck env k ready)

variable {env k}

/-! ## Preparation -/

/-- A preparation that succeeds marks its model. -/
theorem Prepares.marked {C : Except MappingError Unit → List (Moment σ κ) → Prop}
    {d : TableDefinition (ModelKey.Object Obj k)} (h : Prepares env k C (.ok d) hs) :
    Marked k hs := by
  cases h with
  | finished => simp [Marked]

/-- It answers the definition. -/
theorem Prepares.defined {C : Except MappingError Unit → List (Moment σ κ) → Prop}
    {d : TableDefinition (ModelKey.Object Obj k)} (h : Prepares env k C (.ok d) hs) :
    ∃ build, (env.schemaOf k).define build = .ok d := by
  cases h with
  | finished hd _ _ => exact ⟨_, hd⟩

section PrepareWith

variable {check : (k : ModelKey κ) → TableDefinition (ModelKey.Object Obj k) → Session σ Obj Unit}
  {C : Prop → Except MappingError Unit → List (Moment σ κ) → Prop}
  {d : TableDefinition (ModelKey.Object Obj k)}

variable (env check k d) in
/-- What a preparation does with the definition of its model. -/
def prepareDefined : Session σ Obj (TableDefinition (ModelKey.Object Obj k)) := do
  createIfAsked env k d
  check k d
  markPrepared k
  return d

/-- It has the cases of its version check, which finds the version records prepared or not. -/
theorem passes_prepareDefined
    (hcheck : ∀ {t : SessionState σ Obj} {d build}, t.registry.BuiltFrom env.schemaOf →
      (env.schemaOf k).define build = .ok d →
        Passes env (check k d) t (C (.versions ∈ t.prepared)))
    (h : s.registry.BuiltFrom env.schemaOf) {build : Nat}
    (hd : (env.schemaOf k).define build = .ok d)
    (hfind : ∃ stored, s.registry.find? k = some stored) :
    Passes env (prepareDefined env k check d) s
      (Prepares env k (C (.versions ∈ s.prepared))) := by
  refine (passes_createIfAsked h d).bind (fun e _ hcs => .uncreated hd hcs) ?_
  intro _ t cs _ hgoes hcs
  have hready : .versions ∈ t.prepared ↔ .versions ∈ s.prepared :=
    hgoes.prepared_iff (not_marked_of_creates hcs.creates .versions)
  rw [← propext hready]
  refine (hcheck hgoes.built hd).bind (fun e _ hhs => .unchecked hd hcs hhs) ?_
  intro _ u hs _ hgoes' hhs
  obtain ⟨stored, hfind⟩ := hfind
  have hmark : Passes env (markPrepared k) u fun b ms =>
      b = .ok () ∧ ms = [⟨.prepared k, u.engine, u.engine⟩] :=
    passes_markPrepared hgoes'.built ⟨stored, hgoes'.kept k _ (hgoes.kept k _ hfind)⟩ ⟨rfl, rfl⟩
  refine hmark.bind (fun e _ h => nomatch h.1) ?_
  rintro _ v _ - hgoes'' ⟨-, rfl⟩
  refine passes_pure hgoes''.built ?_
  rw [List.append_nil, ← List.append_assoc]
  exact .finished hd hcs hhs

variable [DecidableEq κ]

theorem run_prepareWith_of_not_mem (hk : k ∉ s.prepared)
    (hrun : (definition env k).run s = (.ok d, t)) :
    (prepareWith env check k).run s = (prepareDefined env k check d).run t := by
  rw [← prepared_eq_of_run_definition hrun] at hk
  rw [prepareWith, run_bind_ok hrun, run_bind_ok run_get, if_neg hk]
  rfl

/-- A preparation has the cases of its version check. -/
theorem passes_prepareWith
    (hcheck : ∀ {t : SessionState σ Obj} {d build}, t.registry.BuiltFrom env.schemaOf →
      (env.schemaOf k).define build = .ok d →
        Passes env (check k d) t (C (.versions ∈ t.prepared)))
    (h : s.registry.BuiltFrom env.schemaOf) (hk : k ∉ s.prepared) :
    Passes env (prepareWith env check k) s (Prepares env k (C (.versions ∈ s.prepared))) := by
  rcases hrun : (definition env k).run s with ⟨e | d, t⟩
  · obtain ⟨_, hgoes, rfl, build, hd⟩ := (passes_definition h k).goes hrun
    exact passes_of_run (run_bind_error hrun) hgoes (.undefined hd)
  · obtain ⟨_, hgoes, rfl, build, hd⟩ := (passes_definition h k).goes hrun
    obtain ⟨stored, hfind, -⟩ := find?_of_run_definition hrun
    obtain ⟨hs, hgoes', hhs⟩ := passes_prepareDefined hcheck hgoes.built hd ⟨stored, hfind⟩
    rw [propext (hgoes.prepared_iff (not_marked_nil .versions))] at hhs
    exact passes_of_run (run_prepareWith_of_not_mem hk hrun) (hgoes.trans hgoes') hhs

/-! ## Prepared models -/

/-- A model is prepared, and its definition is known. -/
structure Standing (k : ModelKey κ) (d : TableDefinition (ModelKey.Object Obj k))
    (s : SessionState σ Obj) : Prop where
  mem : k ∈ s.prepared
  find? : ∃ stored, s.registry.find? k = some stored ∧ stored.definition = d

omit [DecidableEq κ] in
theorem Standing.goes (h : Standing k d s) (hgoes : Goes env hs s t) : Standing k d t where
  mem := (hgoes.prepared k).mpr (.inl h.mem)
  find? := by
    obtain ⟨stored, hfind, hd⟩ := h.find?
    exact ⟨stored, hgoes.kept k stored hfind, hd⟩

omit [DecidableEq κ] in
theorem Standing.trail {es : List (Event κ)} (h : Standing k d s) (htrail : Trail es s t) :
    Standing k d t where
  mem := by
    rw [htrail.prepared]
    exact h.mem
  find? := by
    rw [htrail.registry]
    exact h.find?

omit [DecidableEq κ] in
/-- Its definition comes from its schema. -/
theorem Standing.exists_define (h : Standing k d s) (hbuilt : s.registry.BuiltFrom env.schemaOf) :
    ∃ build, (env.schemaOf k).define build = .ok d := by
  obtain ⟨stored, hfind, rfl⟩ := h.find?
  exact ⟨stored.build, hbuilt k stored hfind⟩

/-- It is not prepared again. -/
theorem Standing.run_prepareWith (h : Standing k d s) :
    (prepareWith env check k).run s = (.ok d, s) := by
  obtain ⟨stored, hfind, rfl⟩ := h.find?
  rw [run_prepareWith_of_mem check h.mem, run_definition_of_find? hfind]

/-- A preparation that answers leaves its model standing. -/
theorem standing_of_prepareWith
    (hcheck : ∀ {t : SessionState σ Obj} {d build}, t.registry.BuiltFrom env.schemaOf →
      (env.schemaOf k).define build = .ok d →
        Passes env (check k d) t (C (.versions ∈ t.prepared)))
    (h : s.registry.BuiltFrom env.schemaOf) (hrun : (prepareWith env check k).run s = (.ok d, t)) :
    Standing k d t := by
  by_cases hk : k ∈ s.prepared
  · rw [run_prepareWith_of_mem check hk] at hrun
    have hkt : k ∈ t.prepared := by
      rw [prepared_eq_of_run_definition hrun]
      exact hk
    exact ⟨hkt, find?_of_run_definition hrun⟩
  · rcases hdef : (definition env k).run s with ⟨e | d', u⟩
    · exact nomatch hrun.symm.trans (run_bind_error hdef)
    · obtain ⟨_, hgoes, -, build, hd⟩ := (passes_definition h k).goes hdef
      obtain ⟨stored, hfind, hstored⟩ := find?_of_run_definition hdef
      rw [run_prepareWith_of_not_mem hk hdef] at hrun
      obtain ⟨hs, hgoes', hhs⟩ :=
        (passes_prepareDefined hcheck hgoes.built hd ⟨stored, hfind⟩).goes hrun
      -- What is answered is the definition that was looked up.
      obtain ⟨_, _, -, hrun⟩ := run_bind_eq_ok.mp hrun
      obtain ⟨_, _, -, hrun⟩ := run_bind_eq_ok.mp hrun
      obtain ⟨_, _, -, hrun⟩ := run_bind_eq_ok.mp hrun
      cases hrun
      exact ⟨(hgoes'.prepared k).mpr (.inr hhs.marked), stored, hgoes'.kept k stored hfind, hstored⟩

end PrepareWith

variable [DecidableEq κ]

/-- The version records are prepared by their creation alone, unless they are prepared already. -/
theorem passes_prepareVersions (h : s.registry.BuiltFrom env.schemaOf) :
    Passes env (prepareVersions env) s fun b hs =>
      (∀ e, b = .error e →
        .versions ∉ s.prepared ∧ Prepares env .versions Unchecked (.error e) hs) ∧
      ∀ d, b = .ok d → (∃ build, d = VersionRecord.definition build) ∧
        VersionsReady env (.versions ∈ s.prepared) hs := by
  have hdefined : ∀ d build, (env.schemaOf .versions).define build = .ok d →
      d = VersionRecord.definition build :=
    fun d build hd => Except.ok.inj (hd.symm.trans (define_schema build))
  by_cases hk : .versions ∈ s.prepared
  · refine ((passes_definition h .versions).mono ?_).of_run_eq (run_prepareWith_of_mem _ hk)
    rintro b hs ⟨rfl, build, hd⟩
    refine ⟨fun e hb => ?_, fun d hb => ?_⟩
    · rw [hb] at hd
      exact nomatch hd.symm.trans (define_schema build)
    · rw [hb] at hd
      exact ⟨⟨build, hdefined d build hd⟩, .already hk⟩
  · have hprepares : Passes env (prepareVersions env) s (Prepares env .versions Unchecked) :=
      passes_prepareWith (C := fun _ => Unchecked) (fun ht _ => passes_pure ht .unchecked) h hk
    refine hprepares.mono fun b hs hhs => ⟨fun e hb => ⟨hk, hb ▸ hhs⟩, fun d hb => ?_⟩
    subst hb
    obtain ⟨build, hd⟩ := hhs.defined
    exact ⟨⟨build, hdefined d build hd⟩, .now hk hhs⟩

/-- The cases of a version check, whatever the engine and the upgrader answer. -/
theorem passes_checkVersion (hk : k ≠ .versions) (h : s.registry.BuiltFrom env.schemaOf)
    {d : TableDefinition (ModelKey.Object Obj k)} {build : Nat}
    (hd : (env.schemaOf k).define build = .ok d) :
    Passes env (checkVersion env k d) s (VersionCheck env k (.versions ∈ s.prepared)) := by
  have hversion := ModelSchema.version_of_define hd
  unfold checkVersion
  split
  · rename_i hupgrader
    refine passes_pure h (.notDue fun hdue => ?_)
    have hsome := hdue.2.1
    rw [hupgrader] at hsome
    exact nomatch hsome
  · rename_i upgrader hupgrader
    split
    · rename_i hskip
      refine passes_pure h (.notDue ?_)
      rintro ⟨-, -, hpositive, hconfig⟩
      rw [Bool.or_eq_true, decide_eq_true_iff, hconfig, hversion] at hskip
      exact hskip.elim (Int32.not_le.mpr hpositive) nofun
    · rename_i hskip
      rw [Bool.or_eq_true, decide_eq_true_iff, not_or, Int32.not_le, hversion] at hskip
      have hdue : VersionDue env k :=
        ⟨hk, by rw [hupgrader]; rfl, hskip.1, by simpa using hskip.2⟩
      refine (passes_prepareVersions h).bind ?_ ?_
      · rintro e hs ⟨herror, -⟩
        obtain ⟨hready, hhs⟩ := herror e rfl
        exact .unprepared hdue hready hhs
      · rintro versions t vs - hgoes ⟨-, hok⟩
        obtain ⟨⟨build, rfl⟩, hvs⟩ := hok versions rfl
        refine (passes_storedVersion hgoes.built hd).bind ?_ ?_
        · rintro e _ ⟨m, rfl, hlooked⟩
          exact .consulted hdue hvs (.failed hlooked)
        · rintro stored u _ - hgoes' ⟨m, rfl, hlooked⟩
          refine (passes_settleVersion hgoes'.built hd hupgrader stored).mono fun b hs hhs => ?_
          exact .consulted hdue hvs (.settled hlooked hhs)

theorem passes_versionCheck (h : s.registry.BuiltFrom env.schemaOf)
    {d : TableDefinition (ModelKey.Object Obj k)} {build : Nat}
    (hd : (env.schemaOf k).define build = .ok d) :
    Passes env (versionCheck env k d) s (VersionCheck env k (.versions ∈ s.prepared)) := by
  cases k with
  | versions => exact passes_pure h (.notDue fun hdue => hdue.1 rfl)
  | model k =>
    have hne : ModelKey.model k ≠ .versions := nofun
    exact passes_checkVersion hne h hd

/-- The cases of a preparation, whatever the engine and the upgrader answer. -/
theorem passes_preparation (h : s.registry.BuiltFrom env.schemaOf) (hk : k ∉ s.prepared) :
    Passes env (prepare env k) s (Preparation env k (.versions ∈ s.prepared)) :=
  passes_prepareWith (C := VersionCheck env k) (fun ht hd => passes_versionCheck ht hd) h hk

/-- A prepared model has its definition looked up, and any other is prepared. -/
theorem passes_prepare (h : s.registry.BuiltFrom env.schemaOf) (k : ModelKey κ) :
    Passes env (prepare env k) s fun b hs =>
      (k ∈ s.prepared → hs = [] ∧ ∃ build, (env.schemaOf k).define build = b) ∧
        (k ∉ s.prepared → Preparation env k (.versions ∈ s.prepared) b hs) := by
  by_cases hk : k ∈ s.prepared
  · refine ((passes_definition h k).mono ?_).of_run_eq (run_prepareWith_of_mem _ hk)
    exact fun b hs hhs => ⟨fun _ => hhs, fun hnot => absurd hk hnot⟩
  · exact (passes_preparation h hk).mono fun b hs hhs => ⟨fun hks => absurd hks hk, fun _ => hhs⟩

theorem built_of_prepare (h : s.registry.BuiltFrom env.schemaOf)
    {b : Except MappingError (TableDefinition (ModelKey.Object Obj k))}
    (hrun : (prepare env k).run s = (b, t)) : t.registry.BuiltFrom env.schemaOf := by
  obtain ⟨_, hgoes, -⟩ := (passes_prepare h k).goes hrun
  exact hgoes.built

theorem Standing.run_prepare {d : TableDefinition (ModelKey.Object Obj k)} (h : Standing k d s) :
    (prepare env k).run s = (.ok d, s) :=
  h.run_prepareWith

theorem standing_of_prepare (h : s.registry.BuiltFrom env.schemaOf)
    {d : TableDefinition (ModelKey.Object Obj k)} (hrun : (prepare env k).run s = (.ok d, t)) :
    Standing k d t :=
  standing_of_prepareWith (C := VersionCheck env k) (fun ht hd => passes_versionCheck ht hd) h hrun

/-- Whatever the engine and the upgrader answer, a preparation creates, has the cases of a version
check and ends with its mark; and it fails where its creation or its version check fails. -/
theorem prepare_checksVersion (k : κ) (h : s.registry.BuiltFrom env.schemaOf)
    (hk : .model k ∉ s.prepared) :
    Passes env (prepare env (.model k)) s
      (Preparation env (.model k) (.versions ∈ s.prepared)) :=
  passes_preparation h hk

/-! ## Widgets in their second version -/

/-- An engine that holds a table of widgets in their first version, and that refuses the first
statement by which the version is to be set. -/
def firstVersionEngine : Engine Nat where
  product := "H2"
  execute _ n := (if n = 0 then .error (.execution "disk full") else .ok 1, n + 1)
  insert _ n := (.ok 1, n)
  query _ n := (.ok [[.text "", .text "Widget", .of (.int 1)]], n)

/-- What a session for widgets works with.  Their second version is asked for, and every upgrade
succeeds. -/
def widgetEnvironment : Environment Nat fun _ : Unit => Unit where
  engine := firstVersionEngine
  schema _ := (ModelSchema.named "Widget" ()).withVersion 2
  config := { createTables := false }
  upgrader := some fun _ n => (.ok true, n)

theorem versionDue_widgetEnvironment : VersionDue widgetEnvironment (.model ()) :=
  ⟨nofun, rfl, by decide, rfl⟩

theorem prepare_checksVersion_widget :
    (SessionState.opened widgetEnvironment 0).registry.BuiltFrom widgetEnvironment.schemaOf ∧
      .model () ∉ (SessionState.opened widgetEnvironment 0).prepared ∧
      VersionDue widgetEnvironment (.model ()) ∧
      Passes widgetEnvironment (prepare widgetEnvironment (.model ()))
        (.opened widgetEnvironment 0)
        (Preparation widgetEnvironment (.model ())
          (.versions ∈ (SessionState.opened widgetEnvironment 0).prepared)) := by
  have hbuilt : (SessionState.opened widgetEnvironment 0).registry.BuiltFrom
      widgetEnvironment.schemaOf := Registry.builtFrom_empty
  have hfresh : .model () ∉ (SessionState.opened widgetEnvironment 0).prepared := List.not_mem_nil
  exact ⟨hbuilt, hfresh, versionDue_widgetEnvironment, prepare_checksVersion () hbuilt hfresh⟩

end Session
end TableMapping
