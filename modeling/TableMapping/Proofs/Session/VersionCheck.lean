import TableMapping.Proofs.Model.Definition
import TableMapping.Proofs.Session.Creation
import TableMapping.Proofs.Session.VersionRecords

/-!
# The version record of a table

A version check looks for the record of its table and settles what it finds.  Each of the two steps
has its cases, with all that is asked of the engine and of the upgrader, what they answered and what
comes of it.

* `Looked`: the look-up is refused, or its rows are no records, or its first record is found.
* `Settled`: a missing record is written; a record that is behind is brought forward after an
  upgrade that succeeds, and left alone after one that does not; any other is left alone.
* `Consulted`: the two together.
* `passes_storedVersion`, `passes_settleVersion`: these are the cases of the functions.
-/

namespace TableMapping

namespace Environment

variable {σ κ : Type} {Obj : Models κ} (env : Environment σ Obj) (k : ModelKey κ)

/-- The version record that a model asks for. -/
def record : VersionRecord :=
  ⟨(env.schemaOf k).schemaName.getD "", (env.schemaOf k).tableName, (env.schemaOf k).version⟩

/-- The statement that looks for the version record of a model. -/
def lookup : Statement :=
  VersionRecord.lookup env.dialect (env.record k).schemaName (env.record k).tableName

/-- The upgrade of a model's table from a stored version. -/
def upgradeFrom (version : Int32) : Upgrade :=
  ⟨env.dialect, (env.schemaOf k).schemaName, (env.schemaOf k).tableName, version,
    (env.schemaOf k).version⟩

end Environment

namespace Session

open Runs VersionRecord

variable {σ κ : Type} {Obj : Models κ} {env : Environment σ Obj} {s t : SessionState σ Obj}
  {k : ModelKey κ} {hs : List (Moment σ κ)}

/-! ## The cases -/

variable (env k)

/-- The answer to a statement on the version records. -/
def settledBy (b : Except MappingError UInt64) : Except MappingError Unit :=
  (b.mapError (·.classify VersionRecord.table)).map fun _ => ()

/-- A look-up of the version record of a model: its answer and its moment. -/
inductive Looked : Except MappingError (Option VersionRecord) → Moment σ κ → Prop
  | refused {g g' : σ} {e : MappingError}
      (hask : env.engine.query (env.lookup k) g = (.error e, g')) :
      Looked (.error (e.classify VersionRecord.table))
        ⟨.sent (.versionCheck k) .select (env.lookup k), g, g'⟩
  | unreadable {g g' : σ} {rows : List Row}
      (hask : env.engine.query (env.lookup k) g = (.ok rows, g'))
      (hrows : rows.mapM ofRow? = none) (e : MappingError) :
      Looked (.error e) ⟨.sent (.versionCheck k) .select (env.lookup k), g, g'⟩
  | read {g g' : σ} {rows : List Row} {records : List VersionRecord}
      (hask : env.engine.query (env.lookup k) g = (.ok rows, g'))
      (hrows : rows.mapM ofRow? = some records) :
      Looked (.ok records.head?) ⟨.sent (.versionCheck k) .select (env.lookup k), g, g'⟩

/-- What follows from a stored record: the answer and the moments. -/
inductive Settled : Option VersionRecord → Except MappingError Unit → List (Moment σ κ) → Prop
  | written {g g' : σ} {b : Except MappingError UInt64}
      (hwrite : env.engine.execute (insertion env.dialect (env.record k)) g = (b, g')) :
      Settled none (settledBy b)
        [⟨.sent (.versionCheck k) .insert (insertion env.dialect (env.record k)), g, g'⟩]
  | failed {r : VersionRecord} {upgrader : Upgrader σ} {g g' : σ} {e : MappingError}
      (hbehind : r.version < (env.record k).version) (hupgrader : env.upgrader = some upgrader)
      (hask : upgrader (env.upgradeFrom k r.version) g = (.error e, g')) :
      Settled (some r) (.error e)
        [⟨.upgrading k (env.upgradeFrom k r.version), g, g⟩,
          ⟨.upgraded k (env.upgradeFrom k r.version) (.error e), g, g'⟩]
  | declined {r : VersionRecord} {upgrader : Upgrader σ} {g g' : σ}
      (hbehind : r.version < (env.record k).version) (hupgrader : env.upgrader = some upgrader)
      (hask : upgrader (env.upgradeFrom k r.version) g = (.ok false, g')) :
      Settled (some r)
        (.error (.upgradeFailed (env.record k).tableName r.version (env.record k).version))
        [⟨.upgrading k (env.upgradeFrom k r.version), g, g⟩,
          ⟨.upgraded k (env.upgradeFrom k r.version) (.ok false), g, g'⟩]
  | upgraded {r : VersionRecord} {upgrader : Upgrader σ} {g g' g'' : σ}
      {b : Except MappingError UInt64}
      (hbehind : r.version < (env.record k).version) (hupgrader : env.upgrader = some upgrader)
      (hask : upgrader (env.upgradeFrom k r.version) g = (.ok true, g'))
      (hwrite : env.engine.execute
        (advance env.dialect { r with version := (env.record k).version }) g' = (b, g'')) :
      Settled (some r) (settledBy b)
        [⟨.upgrading k (env.upgradeFrom k r.version), g, g⟩,
          ⟨.upgraded k (env.upgradeFrom k r.version) (.ok true), g, g'⟩,
          ⟨.sent (.versionCheck k) .update
            (advance env.dialect { r with version := (env.record k).version }), g', g''⟩]
  | newer {r : VersionRecord} (h : (env.record k).version < r.version) (g : σ) :
      Settled (some r) (.ok ())
        [⟨.warned (.storedVersionNewer r.version (env.record k).tableName
          (env.record k).version), g, g⟩]
  | current {r : VersionRecord} (h : r.version = (env.record k).version) :
      Settled (some r) (.ok ()) []

/-- A look-up and what follows from it. -/
inductive Consulted : Except MappingError Unit → List (Moment σ κ) → Prop
  | failed {e : MappingError} {m : Moment σ κ} (h : Looked env k (.error e) m) :
      Consulted (.error e) [m]
  | settled {stored : Option VersionRecord} {m : Moment σ κ} {b : Except MappingError Unit}
      {hs : List (Moment σ κ)} (h : Looked env k (.ok stored) m) (h' : Settled env k stored b hs) :
      Consulted b (m :: hs)

variable {env k}

/-! ## The look-up and what follows -/

section Consulted

variable {d : TableDefinition (ModelKey.Object Obj k)} {build versions : Nat}

theorem record_of_define (hd : (env.schemaOf k).define build = .ok d) :
    env.record k = ⟨d.schemaName.getD "", d.tableName, d.version⟩ := by
  rw [Environment.record, ModelSchema.schemaName_of_define hd, ModelSchema.tableName_of_define hd,
    ModelSchema.version_of_define hd]

theorem passes_selectVersions (h : s.registry.BuiltFrom env.schemaOf) (number : UInt64) :
    Passes env (selectPrepared env (.versionCheck k) (VersionRecord.definition versions)
      (query versions number (env.record k).schemaName (env.record k).tableName)) s
      fun b hs => ∃ m, hs = [m] ∧ Looked env k (b.map List.head?) m := by
  have hasked : Passes env (runQuery env (.versionCheck k)
      (VersionRecord.definition versions).tableName (env.lookup k)) s fun b hs =>
        ∃ b' g, env.engine.query (env.lookup k) s.engine = (b', g) ∧
          b = b'.mapError (·.classify VersionRecord.table) ∧
          hs = [⟨.sent (.versionCheck k) .select (env.lookup k), s.engine, g⟩] :=
    passes_runQuery h fun b g hask => ⟨b, g, hask, rfl, rfl⟩
  rw [selectPrepared, toSelect_query]
  refine hasked.bind ?_ ?_
  · rintro e _ ⟨b', g, hask, hb, rfl⟩
    cases b' with
    | ok rows => exact nomatch hb
    | error e' =>
      cases hb
      exact ⟨_, rfl, .refused hask⟩
  · rintro rows t _ - hgoes ⟨b', g, hask, hb, rfl⟩
    cases b' with
    | error e' => exact nomatch hb
    | ok rows' =>
      cases hb
      have hview : IsView versions (query versions number (env.record k).schemaName
          (env.record k).tableName).view := isView_query number _ _
      obtain ⟨b, hrun, hb⟩ := hview.answers_readRows rows t.ledger
      refine passes_mapping hgoes.built ?_
      rw [hrun]
      cases b with
      | error e => exact ⟨_, rfl, .unreadable hask hb.symm e⟩
      | ok records => exact ⟨_, rfl, .read hask hb.symm⟩

theorem passes_storedVersion (h : s.registry.BuiltFrom env.schemaOf)
    (hd : (env.schemaOf k).define build = .ok d) :
    Passes env (storedVersion env k d (VersionRecord.definition versions)) s fun b hs =>
      ∃ m, hs = [m] ∧ Looked env k b m := by
  have hr := record_of_define hd
  have hquery : Passes env (mapping (Session.versionQuery (VersionRecord.definition versions)
      (d.schemaName.getD "") d.tableName)) s fun b hs => hs = [] ∧ ∃ number,
        b = .ok (query versions number (env.record k).schemaName (env.record k).tableName) := by
    refine passes_mapping h ⟨rfl, s.ledger.nextAlias, ?_⟩
    rw [run_versionQuery, hr]
  unfold storedVersion
  refine hquery.bind ?_ ?_
  · rintro e _ ⟨-, number, hb⟩
    exact nomatch hb
  · rintro q t _ - hgoes ⟨rfl, number, hb⟩
    cases hb
    refine (passes_selectVersions hgoes.built number).bind ?_ ?_
    · intro e hs hlooked
      exact hlooked
    · rintro records u _ - hgoes' ⟨m, rfl, hlooked⟩
      exact passes_pure hgoes'.built ⟨m, rfl, hlooked⟩

section Written

variable {P : Except MappingError Unit → List (Moment σ κ) → Prop}

/-- A statement that is made first and then sent. -/
theorem passes_executeMade (h : s.registry.BuiltFrom env.schemaOf) {y : Mapping Statement}
    {st : Statement} {l : Ledger} (hy : y.run s.ledger = (.ok st, l)) {kind : StatementKind}
    (hkind : kind ≠ .select)
    (hP : ∀ b g, env.engine.execute st s.engine = (b, g) →
      P (settledBy b) [⟨.sent (.versionCheck k) kind st, s.engine, g⟩]) :
    Passes env (discard (do
      execute env (.versionCheck k) kind VersionRecord.table (← mapping y))) s P := by
  have hmade : (mapping y : Session σ Obj Statement).run s = (.ok st, { s with ledger := l }) := by
    rw [run_mapping, hy]
  have hgoes : Goes env [] s { s with ledger := l } :=
    goes_of_trail h ⟨(List.append_nil _).symm, rfl, rfl⟩ (.nil _) not_marked_nil
  have hsent : Passes env (execute env (.versionCheck k) kind VersionRecord.table st)
      { s with ledger := l } fun b hs => P (b.map fun _ => ()) hs :=
    passes_execute (s := { s with ledger := l }) h hkind hP
  obtain ⟨hs, hgoes', hhs⟩ := hsent
  refine Passes.discard (passes_of_run (run_bind_ok hmade) (hgoes.trans hgoes') hhs)

theorem passes_insertRecord (h : s.registry.BuiltFrom env.schemaOf) (r : VersionRecord)
    (hP : ∀ b g, env.engine.execute (insertion env.dialect r) s.engine = (b, g) →
      P (settledBy b) [⟨.sent (.versionCheck k) .insert (insertion env.dialect r), s.engine, g⟩]) :
    Passes env (discard (insertPrepared env (.versionCheck k)
      (VersionRecord.definition versions) r)) s P := by
  have hkind : StatementKind.insert ≠ .select := nofun
  exact passes_executeMade h (run_insertStatement versions r env.dialect s.ledger) hkind hP

theorem passes_updateRecord (h : s.registry.BuiltFrom env.schemaOf) (r : VersionRecord)
    (hP : ∀ b g, env.engine.execute (advance env.dialect r) s.engine = (b, g) →
      P (settledBy b) [⟨.sent (.versionCheck k) .update (advance env.dialect r), s.engine, g⟩]) :
    Passes env (discard (updatePrepared env (.versionCheck k)
      (VersionRecord.definition versions) r)) s P := by
  have hkind : StatementKind.update ≠ .select := nofun
  obtain ⟨_, hmade⟩ := run_updateStatement versions r env.dialect s.ledger
  exact passes_executeMade h hmade hkind hP

end Written

theorem passes_settleVersion (h : s.registry.BuiltFrom env.schemaOf)
    (hd : (env.schemaOf k).define build = .ok d) {upgrader : Upgrader σ}
    (hupgrader : env.upgrader = some upgrader) (stored : Option VersionRecord) :
    Passes env (settleVersion env upgrader k d (VersionRecord.definition versions) stored) s
      (Settled env k stored) := by
  have hr := record_of_define hd
  have htable : d.tableName = (env.record k).tableName := ModelSchema.tableName_of_define hd
  have hversion : d.version = (env.record k).version := ModelSchema.version_of_define hd
  have hupgrade : ∀ r : VersionRecord, env.upgradeFrom k r.version =
      ⟨env.dialect, d.schemaName, d.tableName, r.version, d.version⟩ := by
    intro r
    rw [Environment.upgradeFrom, ModelSchema.schemaName_of_define hd,
      ModelSchema.tableName_of_define hd, ModelSchema.version_of_define hd]
  cases stored with
  | none =>
    rw [settleVersion, ← hr]
    exact passes_insertRecord h _ fun b g hwrite => .written hwrite
  | some r =>
    rw [settleVersion]
    by_cases hbehind : r.version < d.version
    · rw [if_pos hbehind, ← hupgrade]
      rw [hversion] at hbehind ⊢
      have hasked : Passes env (upgrade upgrader k (env.upgradeFrom k r.version)) s fun b hs =>
          (∀ e, b = .error e → Settled env k (some r) (.error e) hs) ∧
          (b = .ok () → ∃ g', upgrader (env.upgradeFrom k r.version) s.engine = (.ok true, g') ∧
            hs = [⟨.upgrading k (env.upgradeFrom k r.version), s.engine, s.engine⟩,
              ⟨.upgraded k (env.upgradeFrom k r.version) (.ok true), s.engine, g'⟩]) := by
        refine passes_upgrade h hupgrader fun answer g hask => ?_
        rcases answer with e | _ | _
        · refine ⟨fun e' he => ?_, nofun⟩
          cases he
          exact .failed hbehind hupgrader hask
        · refine ⟨fun e' he => ?_, nofun⟩
          cases he
          exact .declined hbehind hupgrader hask
        · refine ⟨fun e' he => ?_, fun _ => ⟨g, hask, rfl⟩⟩
          cases he
      refine hasked.bind (fun e hs h => h.1 e rfl) ?_
      rintro _ t hs - hgoes ⟨-, hok⟩
      obtain ⟨g', hask, rfl⟩ := hok rfl
      obtain ⟨-, hlast⟩ := hgoes.course.of_cons
      obtain ⟨-, hengine⟩ := hlast.of_singleton
      refine passes_updateRecord hgoes.built _ fun b g hwrite => ?_
      rw [hengine] at hwrite ⊢
      exact .upgraded hbehind hupgrader hask hwrite
    · rw [if_neg hbehind]
      rw [hversion] at hbehind ⊢
      by_cases hnewer : (env.record k).version < r.version
      · rw [if_pos hnewer]
        refine passes_warn h ?_
        rw [List.map_singleton, htable]
        exact .newer hnewer s.engine
      · rw [if_neg hnewer]
        have hcurrent : r.version = (env.record k).version :=
          Int32.le_antisymm (Int32.not_lt.mp hnewer) (Int32.not_lt.mp hbehind)
        exact passes_pure h (.current hcurrent)

end Consulted

end Session
end TableMapping
