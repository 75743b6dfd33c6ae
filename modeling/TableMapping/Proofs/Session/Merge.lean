import TableMapping.Proofs.Sql.MergePlan
import TableMapping.Proofs.Session.Conduct

/-!
# A merge puts a row in the place of the one with its key

The engine is taken to run the statements of a merge by their meaning, on a table that `contents`
sees in its state.  The dialects merge by five different statements or plans; they all leave the
table that `Table.upsert` describes, and to merge an object again changes nothing.

* `RunsCommand`, `CountsRows`, `RunsMerge`: the meaning of the statements, as the engine runs them.
* `leavesTable_performPlan`: the plan of a merge leaves the table with the row.
* `merge_upserts`: a merge in any session, and the same merge again.
-/

namespace TableMapping
namespace Session

open Runs Table TableDefinition

variable {σ κ : Type} {Obj : Models κ}

/-! ## Engines that run statements by their meaning -/

section Meaning

variable {M : Type} (env : Environment σ Obj) (contents : σ → Multiset TableRow)
  (d : TableDefinition M)

/-- Where the meaning of a statement leads to a table, the statement succeeds and leaves it. -/
def RunsCommand (c : Command) : Prop :=
  ∀ g t, c.Takes d.shape (contents g) t →
    ∃ n g', env.engine.execute (d.statementOf env.dialect c) g = (.ok n, g') ∧ contents g' = t

/-- The question how many rows meet conditions is answered, and changes none. -/
def CountsRows (conditions : Assignments) : Prop :=
  ∀ g, ∃ v g', env.engine.query (d.countOf env.dialect conditions) g = (.ok [[v]], g') ∧
    v.integer? = some (Int64.ofNat (meeting conditions (contents g)).card) ∧
      contents g' = contents g

/-- The engine runs the statements that merge a row in its dialect by their meaning. -/
def RunsMerge (row : Assignments) : Prop :=
  match env.dialect.mergeStrategy with
  | .mergeKey => RunsCommand env contents d (.merge row d.primaryKey)
  | .insertOrReplace => RunsCommand env contents d (.insertOrReplace row)
  | .onDuplicateKeyUpdate =>
    RunsCommand env contents d (.insertOrUpdate row
      (if d.otherColumns.isEmpty then d.primaryKey else d.otherColumns))
  | .onConflictDoUpdate =>
    RunsCommand env contents d (.insertOnConflict row d.primaryKey d.otherColumns)
  | .emulated =>
    CountsRows env contents d (row.picked d.primaryKey) ∧
      RunsCommand env contents d
        (.update (row.picked d.updatedColumns) (row.picked d.primaryKey)) ∧
      RunsCommand env contents d (.insert row)

end Meaning

variable {env : Environment σ Obj} {contents : σ → Multiset TableRow} {s u : SessionState σ Obj}

/-! ## The plan of a merge -/

section Plan

variable {M : Type} {d : TableDefinition M} {row : Assignments} {t : Multiset TableRow}

variable (contents) in
/-- A computation succeeds and leaves a table, and it prepares and defines nothing. -/
def LeavesTable (x : Session σ Obj Unit) (s : SessionState σ Obj) (t : Multiset TableRow) : Prop :=
  ∃ u es, x.run s = (.ok (), u) ∧ Trail es s u ∧ contents u.engine = t

theorem LeavesTable.after_bind {α : Type} {x : Session σ Obj α} {f : α → Session σ Obj Unit} {a : α}
    {es : List (Event κ)} (hx : x.run s = (.ok a, u)) (htrail : Trail es s u)
    (hf : LeavesTable contents (f a) u t) : LeavesTable contents (x >>= f) s t := by
  obtain ⟨v, fs, hrun, htrail', ht⟩ := hf
  exact ⟨v, es ++ fs, (run_bind_ok hx).trans hrun, htrail.trans htrail', ht⟩

theorem RunsCommand.leavesTable {c : Command} (h : RunsCommand env contents d c)
    (htakes : c.Takes d.shape (contents s.engine) t) (purpose : Purpose κ) (kind : StatementKind)
    (table : String) :
    LeavesTable contents
      (discard (execute env purpose kind table (d.statementOf env.dialect c))) s t := by
  obtain ⟨n, g', hexecute, ht⟩ := h s.engine t htakes
  have hrun : (discard (execute env purpose kind table (d.statementOf env.dialect c))).run s =
      (.ok (), served s purpose kind (d.statementOf env.dialect c) g') := by
    rw [run_discard, execute, run_send hexecute]
    rfl
  exact ⟨_, _, hrun, ⟨rfl, rfl, rfl⟩, ht⟩

theorem CountsRows.run_runQuery {conditions : Assignments}
    (h : CountsRows env contents d conditions) (s : SessionState σ Obj) (purpose : Purpose κ)
    (table : String) :
    ∃ v u es, (runQuery env purpose table (d.countOf env.dialect conditions)).run s =
        (.ok [[v]], u) ∧ Trail es s u ∧ contents u.engine = contents s.engine ∧
      v.integer? = some (Int64.ofNat (meeting conditions (contents s.engine)).card) := by
  obtain ⟨v, g', hquery, hcount, hsame⟩ := h s.engine
  have hrun := Session.run_runQuery hquery purpose table
  exact ⟨v, _, _, hrun, ⟨rfl, rfl, rfl⟩, hsame, hcount⟩

/-- Where keys are unique, a count by key is positive exactly when the key is taken. -/
theorem count_pos_iff {key : List String} {r : TableRow} (h : UniqueKeys key t) :
    0 < Int64.ofNat (matching key r t).card ↔ matching key r t ≠ 0 := by
  rcases h.matching_eq r with hnew | ⟨r', hold⟩
  · rw [hnew]
    simp
  · rw [hold, Multiset.card_singleton]
    refine ⟨fun _ => Multiset.singleton_ne_zero r', fun _ => ?_⟩
    decide

variable (env) in
/-- Send the statements of a plan. -/
def performPlan (purpose : Purpose κ) (table : String) : MergePlan → Session σ Obj Unit
  | .native statement => discard (execute env purpose .merge table statement)
  | .emulated probe update insert => do
    let rows ← runQuery env purpose table probe
    if 0 < (firstInteger? rows).getD 0 then
      discard (execute env purpose .update table update)
    else
      discard (execute env purpose .insert table insert)

/-- To count by key and then to update or insert leaves the table in which the row is the one with
its key. -/
theorem leavesTable_emulated {schema : ModelSchema M} {build : Nat}
    (hd : schema.define build = .ok d) (hrow : d.shape.Stands row)
    (hcounts : CountsRows env contents d (row.picked d.primaryKey))
    (hupdate : RunsCommand env contents d
      (.update (row.picked d.updatedColumns) (row.picked d.primaryKey)))
    (hinsert : RunsCommand env contents d (.insert row))
    (ht : d.shape.Holds (contents s.engine)) (purpose : Purpose κ) (table : String) :
    LeavesTable contents (performPlan env purpose table
      (.emulated (d.countOf env.dialect (row.picked d.primaryKey))
        (d.statementOf env.dialect
          (.update (row.picked d.updatedColumns) (row.picked d.primaryKey)))
        (d.statementOf env.dialect (.insert row)))) s
      (upsert d.primaryKey (.ofAssignments row) (contents s.engine)) := by
  -- The conditions of the question are those on the key, so its answer tells whether the key is
  -- taken, and it leaves the table to the second statement as it was.
  obtain ⟨v, u, es, hrun, htrail, hsame, hcount⟩ := hcounts.run_runQuery s purpose table
  refine LeavesTable.after_bind hrun htrail ?_
  have hmeets : ∀ r, TableRow.Meets (row.picked d.primaryKey) r ↔
      TableRow.SameKey d.primaryKey (.ofAssignments row) r := fun r => hrow.meets_iff
  have hfirst : (firstInteger? [[v]]).getD 0 =
      Int64.ofNat (matching d.primaryKey (.ofAssignments row) (contents s.engine)).card := by
    rw [← meeting_eq_matching hmeets]
    show v.integer?.getD 0 = _
    rw [hcount, Option.getD_some]
  rw [← hsame] at ht hfirst ⊢
  rw [hfirst]
  have hunique : UniqueKeys d.primaryKey (contents u.engine) := ht.unique
  by_cases hnew : matching d.primaryKey (.ofAssignments row) (contents u.engine) = 0
  · rw [if_neg (mt (count_pos_iff hunique).mp (not_not_intro hnew))]
    exact hinsert.leavesTable (TableShape.takes_insert hrow hnew) ..
  · rw [if_pos ((count_pos_iff hunique).mpr hnew)]
    refine hupdate.leavesTable (TableShape.takes_update ?_ ht hrow hnew) ..
    exact fun c hc hkey => mem_updatedColumns hd hc hkey

/-- The plan of a merge leaves the table in which the row is the one with its key. -/
theorem leavesTable_performPlan {schema : ModelSchema M} {build : Nat}
    (hd : schema.define build = .ok d) (hrow : d.shape.Stands row)
    (hruns : RunsMerge env contents d row) (ht : d.shape.Holds (contents s.engine))
    (purpose : Purpose κ) (table : String) :
    LeavesTable contents (performPlan env purpose table (d.planOf env.dialect row)) s
      (upsert d.primaryKey (.ofAssignments row) (contents s.engine)) := by
  have hothers : ∀ c ∈ d.shape.columns, c ∉ d.shape.key → c ∈ d.otherColumns :=
    fun c hc hkey => mem_otherColumns hd hc hkey
  unfold RunsMerge at hruns
  unfold planOf
  cases hstrategy : env.dialect.mergeStrategy with
  | mergeKey =>
    rw [hstrategy] at hruns
    exact hruns.leavesTable (TableShape.takes_merge ht hrow) ..
  | insertOrReplace =>
    rw [hstrategy] at hruns
    exact hruns.leavesTable (TableShape.takes_insertOrReplace hrow) ..
  | onDuplicateKeyUpdate =>
    rw [hstrategy] at hruns
    refine hruns.leavesTable (TableShape.takes_insertOrUpdate (fun c hc hkey => ?_) ht hrow) ..
    have hother := hothers c hc hkey
    rwa [if_neg]
    rw [List.isEmpty_iff]
    exact List.ne_nil_of_mem hother
  | onConflictDoUpdate =>
    rw [hstrategy] at hruns
    exact hruns.leavesTable (TableShape.takes_insertOnConflict hothers ht hrow) ..
  | emulated =>
    rw [hstrategy] at hruns
    obtain ⟨hcounts, hupdate, hinsert⟩ := hruns
    exact leavesTable_emulated hd hrow hcounts hupdate hinsert ht purpose table

end Plan

/-! ## Merges of a session -/

variable [DecidableEq κ] {k : ModelKey κ} {d : TableDefinition (ModelKey.Object Obj k)}
  {m : ModelKey.Object Obj k} {es : List (Event κ)} {s₀ : SessionState σ Obj}

/-- A merge makes its plan and sends its statements. -/
theorem run_merge {plan : MergePlan} {l : Ledger} (hprep : (prepare env k).run s₀ = (.ok d, s))
    (hplan : (d.mergePlan m env.dialect).run s.ledger = (.ok plan, l)) :
    (merge env k m).run s₀ =
      (performPlan env (.operation k) d.tableName plan).run { s with ledger := l } := by
  have hmapping : (mapping (d.mergePlan m env.dialect) : Session σ Obj _).run s =
      (.ok plan, { s with ledger := l }) := by
    rw [run_mapping, hplan]
  rw [merge, run_bind_ok hprep, run_bind_ok hmapping]
  cases plan <;> rfl

theorem leavesTable_merge {schema : ModelSchema (ModelKey.Object Obj k)} {build : Nat}
    {fvs : List (MappedField (ModelKey.Object Obj k) × Value)}
    (hd : schema.define build = .ok d) (hprep : (prepare env k).run s₀ = (.ok d, s))
    (hkeyed : d.hasPrimaryKey = true) (hstored : IsStored m d.fields fvs)
    (hgiven : ∀ fv ∈ fvs, isGenerated fv.1 fv.2 = false)
    (hrow : d.shape.Stands (assignments fvs))
    (hruns : RunsMerge env contents d (assignments fvs))
    (ht : d.shape.Holds (contents s.engine)) :
    ∃ t es, (merge env k m).run s₀ = (.ok (), t) ∧ Trail es s t ∧
      contents t.engine =
        upsert d.primaryKey (.ofAssignments (assignments fvs)) (contents s.engine) := by
  obtain ⟨l, hplan⟩ := run_mergePlan hd hstored hkeyed hgiven env.dialect s.ledger
  obtain ⟨t, es, hrun, htrail, htable⟩ := leavesTable_performPlan (s := { s with ledger := l })
    hd hrow hruns ht (.operation k) d.tableName
  rw [← run_merge hprep hplan] at hrun
  exact ⟨t, es, hrun, ⟨htrail.trace, htrail.prepared, htrail.registry⟩, htable⟩

/-- In every dialect, whatever the session has done before, the merge of an object makes the row of
its stored values the one with its key, and leaves the other rows as they are; a second merge
changes nothing. -/
theorem merge_upserts (engine : σ) (ledger : Ledger) {registry : Registry (ModelKey.Object Obj)}
    (hbuilt : registry.BuiltFrom env.schemaOf) (ops : List (Operation Obj))
    (hprep : (prepare env k).run
      (Operation.performAll env ops (.openedOver env engine ledger registry)) = (.ok d, s))
    (hkeyed : d.hasPrimaryKey = true)
    (hsteady : ∀ f ∈ d.fields, ∀ a, f.adapter = some a → a.IsSteady)
    {fvs : List (MappedField (ModelKey.Object Obj k) × Value)} {l l' : Ledger}
    (hvalues : (storedValues m d.fields).run l = (.ok fvs, l'))
    (hkey : ∀ fv ∈ fvs, fv.1.isPrimaryKey = true → ∃ x, fv.2 = .of x)
    (hgenerated : ∀ fv ∈ fvs, fv.1.isAutoIncrement = true →
      ∃ x, fv.2 = .of x ∧ x.integer? ≠ some 0)
    (htable : d.shape.Holds (contents s.engine))
    (hruns : RunsMerge env contents d (assignments fvs)) :
    ∃ t, (merge env k m).run
        (Operation.performAll env ops (.openedOver env engine ledger registry)) = (.ok (), t) ∧
      contents t.engine =
        upsert d.primaryKey (.ofAssignments (assignments fvs)) (contents s.engine) ∧
      ∃ u, (merge env k m).run t = (.ok (), u) ∧ contents u.engine = contents t.engine := by
  obtain ⟨_, hgoes, -⟩ := goes_performAll engine ledger hbuilt ops
  have hstanding := standing_of_prepare hgoes.built hprep
  obtain ⟨build, hd⟩ := hstanding.exists_define (built_of_prepare hgoes.built hprep)
  have hstored := isStored_of_run hsteady hvalues
  have hgiven : ∀ fv ∈ fvs, isGenerated fv.1 fv.2 = false :=
    fun fv hfv => isGenerated_eq_false (hgenerated fv hfv)
  have hrow := stands_shape hd hstored.fields hkey hgenerated
  obtain ⟨t, es, hrun, htrail, ht⟩ :=
    leavesTable_merge hd hprep hkeyed hstored hgiven hrow hruns htable
  have htable' : d.shape.Holds (contents t.engine) := by
    rw [ht]
    exact htable.upsert hrow
  obtain ⟨u, _, hrun', -, hu⟩ := leavesTable_merge hd (hstanding.trail htrail).run_prepare
    hkeyed hstored hgiven hrow hruns htable'
  refine ⟨t, hrun, ht, u, hrun', ?_⟩
  rw [hu, ht]
  exact upsert_upsert hrow.sameKey_self

/-! ### Visits -/

/-- A visit of a page. -/
structure Visit where
  id : Int64
  page : String

def visitId : FieldSpec Visit :=
  (FieldSpec.value Int64 "id" (·.id) fun x v => { v with id := x }).withColumn
    { primaryKey := true, autoIncrement := true }

def visitPage : FieldSpec Visit :=
  ((FieldSpec.value String "page" (·.page) fun x v => { v with page := x }).withAdapter
    (.stateless "TEXT" .ok .ok)).withColumn {}

def visitSchema : ModelSchema Visit :=
  ((ModelSchema.named "Visit" ⟨0, ""⟩).addField visitId).addField visitPage

def visitColumn (f : FieldSpec Visit) (dataType : String) (index : Nat) (key : Bool) :
    MappedField Visit where
  columnName := f.name
  fieldName := f.name
  fieldType := f.fieldType
  dataType := dataType
  maxLength := 0
  isPrimaryKey := key
  isAutoIncrement := key
  trim := false
  allowNull := true
  defaultValue := none
  encoding := none
  declaredIndex := index
  build := 0
  adapter := f.adapter
  get := f.get
  set := f.set

def visitDefinition : TableDefinition Visit where
  modelName := "Visit"
  schemaName := none
  tableName := "Visit"
  version := 0
  createIfRequired := true
  memoryTable := false
  fields := [visitColumn visitId "BIGINT" 0 true, visitColumn visitPage "TEXT" 1 false]
  primaryKey := ["id"]
  indexes := []
  declared := ["id", "page"]
  blank := ⟨0, ""⟩

theorem define_visitSchema : visitSchema.define 0 = .ok visitDefinition := by
  have hname : Text.sameName "id" "page" = false := by
    rw [Text.sameName_eq_decide]
    decide
  have hmapped : visitSchema.mapFields 0 0 [] visitSchema.declaredFields =
      .ok visitDefinition.fields := by
    show (if (Text.sameName "id" "page" || false) = true then throw _ else _) = _
    rw [hname]
    rfl
  have hkey : visitSchema.resolveColumns "primary key" visitDefinition.fields
      (visitSchema.keyNames visitDefinition.fields) = .ok ["id"] := by
    have hkeyNames : visitSchema.keyNames visitDefinition.fields = ["id"] := rfl
    rw [hkeyNames]
    simp [ModelSchema.resolveColumns, visitDefinition, visitColumn, visitId, FieldSpec.value,
      FieldSpec.ofAccessors, FieldSpec.withColumn]
  have hflags : visitDefinition.fields.map (ModelSchema.flagKey ["id"]) =
      visitDefinition.fields := by
    simp [ModelSchema.flagKey, visitDefinition, visitColumn, visitId, visitPage, FieldSpec.value,
      FieldSpec.ofAccessors, FieldSpec.withColumn, FieldSpec.withAdapter, hname]
  refine bind_eq_ok.mpr ⟨_, hmapped, bind_eq_ok.mpr ⟨_, hkey, bind_eq_ok.mpr ⟨[], rfl, ?_⟩⟩⟩
  rw [hflags]
  rfl

def visitRow (v : Visit) : Assignments :=
  [("id", .of (.bigInt v.id)), ("page", .text v.page)]

/-- The statement by which MySQL merges a visit. -/
def visitMerge (v : Visit) : Command :=
  .insertOrUpdate (visitRow v) ["page"]

open Classical in
/-- An engine for a table of visits, which merges one visit by the meaning of its statement and
refuses everything else. -/
noncomputable def visitEngine (v : Visit) : Engine (Multiset TableRow) where
  product := "MySQL"
  execute st t :=
    if h : ∃ t', st = visitDefinition.statementOf .mySql (visitMerge v) ∧
        (visitMerge v).Takes visitDefinition.shape t t' then
      (.ok 1, h.choose)
    else (.error (.execution "refused"), t)
  insert _ t := (.error (.execution "refused"), t)
  query _ t := (.error (.execution "refused"), t)

/-- What a session for visits works with.  Their table is there already. -/
noncomputable def visitEnvironment (v : Visit) :
    Environment (Multiset TableRow) fun _ : Unit => Visit where
  engine := visitEngine v
  schema _ := visitSchema
  config := { createTables := false }
  upgrader := none

/-- Two visits. -/
noncomputable def visits : Multiset TableRow :=
  upsert ["id"] (.ofAssignments (visitRow ⟨8, "about"⟩))
    (upsert ["id"] (.ofAssignments (visitRow ⟨7, "start"⟩)) 0)

theorem dialect_visitEnvironment (v : Visit) : (visitEnvironment v).dialect = .mySql := by
  have hdetect : Dialect.detect "MySQL" = .mySql := by decide +kernel
  exact hdetect

theorem runsMerge_visitEnvironment (v : Visit) :
    RunsMerge (visitEnvironment v) id visitDefinition (visitRow v) := by
  rw [RunsMerge, dialect_visitEnvironment]
  intro t t' htakes
  rw [dialect_visitEnvironment]
  have h : ∃ t', visitDefinition.statementOf .mySql (visitMerge v) =
      visitDefinition.statementOf .mySql (visitMerge v) ∧
        (visitMerge v).Takes visitDefinition.shape t t' := ⟨t', rfl, htakes⟩
  exact ⟨1, h.choose, dif_pos h, h.choose_spec.2.unique htakes⟩

theorem stands_visitRow {v : Visit} (h : v.id ≠ 0) :
    visitDefinition.shape.Stands (visitRow v) where
  columns _ := Iff.rfl
  nodup := by
    have hcolumns : (visitRow v).columns = ["id", "page"] := rfl
    rw [hcolumns]
    decide
  key := List.forall_mem_singleton.mpr ⟨.bigInt v.id, List.mem_cons_self⟩
  generated := List.forall_mem_singleton.mpr
    ⟨.bigInt v.id, List.mem_cons_self, fun hzero => h (Option.some.inj hzero)⟩

theorem holds_visits : visitDefinition.shape.Holds visits := by
  have hnone : visitDefinition.shape.Holds 0 :=
    ⟨fun r hr => absurd hr (Multiset.notMem_zero r), fun r => by simp [matching]⟩
  exact (hnone.upsert (stands_visitRow (by decide))).upsert (stands_visitRow (by decide))

theorem run_prepare_visits (v : Visit) :
    ∃ s, (prepare (visitEnvironment v) (.model ())).run (.opened (visitEnvironment v) visits) =
      (.ok visitDefinition, s) ∧ s.engine = visits := by
  obtain ⟨s, hrun, hengine, -⟩ :=
    run_prepare_opened (visitEnvironment v) visits rfl rfl define_visitSchema
  exact ⟨s, hrun, hengine⟩

theorem steady_visitDefinition :
    ∀ f ∈ visitDefinition.fields, ∀ a, f.adapter = some a → a.IsSteady := by
  refine List.forall_mem_cons.mpr ⟨nofun, List.forall_mem_singleton.mpr ?_⟩
  rintro a ⟨⟩
  intro h h' v
  rfl

/-- A visit with the key of another takes its place. -/
theorem merge_upserts_visit :
    ∃ t, (merge (visitEnvironment ⟨7, "home"⟩) (.model ()) ⟨7, "home"⟩).run
        (.opened (visitEnvironment ⟨7, "home"⟩) visits) = (.ok (), t) ∧
      t.engine = upsert ["id"] (.ofAssignments (visitRow ⟨7, "home"⟩)) visits ∧
      ∃ u, (merge (visitEnvironment ⟨7, "home"⟩) (.model ()) ⟨7, "home"⟩).run t = (.ok (), u) ∧
        u.engine = t.engine := by
  obtain ⟨s, hprep, hengine⟩ := run_prepare_visits ⟨7, "home"⟩
  have hvalues : ∃ l', (storedValues (⟨7, "home"⟩ : Visit) visitDefinition.fields).run .start =
      (.ok [(visitColumn visitId "BIGINT" 0 true, .of (.bigInt 7)),
        (visitColumn visitPage "TEXT" 1 false, .text "home")], l') := ⟨_, rfl⟩
  obtain ⟨l', hvalues⟩ := hvalues
  have htable : visitDefinition.shape.Holds (id s.engine) := by
    rw [hengine]
    exact holds_visits
  obtain ⟨t, hrun, ht, hagain⟩ := merge_upserts visits .start Registry.builtFrom_empty [] hprep rfl
    steady_visitDefinition hvalues
    (List.forall_mem_cons.mpr ⟨fun _ => ⟨_, rfl⟩, List.forall_mem_singleton.mpr nofun⟩)
    (List.forall_mem_cons.mpr
      ⟨fun _ => ⟨_, rfl, by decide⟩, List.forall_mem_singleton.mpr nofun⟩)
    htable (runsMerge_visitEnvironment ⟨7, "home"⟩)
  refine ⟨t, hrun, ?_, hagain⟩
  rw [← hengine]
  exact ht

end Session
end TableMapping
