import TableMapping.Proofs.Session.Definition
import TableMapping.Proofs.Sql.Question
import TableMapping.Proofs.Sql.Rendering
import TableMapping.Query.Step

/-!
# Counting and selecting

The engine is taken to answer the two statements of a query by their meaning, on a table that
`contents` sees in its state.  The statements ask about the same rows: conditions are in both, and
the order of the rows is no matter of their number.  But `SELECT DISTINCT` has no counterpart in the
statement that counts, so a query without repeated rows counts rows that it does not select.

* `Query.toSelect_eq`, `Query.toCount_eq`: the questions that a query asks.
* `run_select`, `run_selectCount`: what a session makes of the answers.
* `selectCount_select`: the two agree unless repeated rows are left out and there are some.
* `selectCount_marks`: a table where they do not.
-/

namespace TableMapping

/-! ## The questions of a query -/

namespace Query

variable {M : Type} (q : Query M)

/-- The question for the rows of a query. -/
def selection : Question :=
  .rows q.distinct q.columnNames q.conditions q.order

/-- The question for the number of rows of a query. -/
def counting : Question :=
  .count q.conditions

variable {q} (d : Dialect)

theorem toSelect_eq (hlimit : q.limit = none) (hoffset : q.offset = none) :
    q.toSelect d =
      d.statement (q.selection.fragments q.definition.schemaName q.definition.tableName) := by
  rw [toSelect, selectFragments, hlimit, hoffset, d.pagingClause_none,
    Dialect.statement_append_nothing]
  rfl

theorem toCount_eq : q.toCount d =
    d.statement (q.counting.fragments q.definition.schemaName q.definition.tableName) :=
  rfl

end Query

namespace Session

open Runs Table

variable {σ κ : Type} {Obj : Models κ}

/-! ## Engines that answer questions by their meaning -/

section Meaning

variable (env : Environment σ Obj) (contents : σ → Multiset TableRow) (θ : Collation)

/-- A question is answered by its meaning, and changes no row. -/
def RunsQuestion (schema : Option String) (table : String) (x : Question) : Prop :=
  ∀ g, ∃ rows g', env.engine.query (env.dialect.statement (x.fragments schema table)) g =
      (.ok rows, g') ∧ x.Answered θ (contents g) rows ∧ contents g' = contents g

/-- The engine answers both questions of a query. -/
structure RunsQuery {M : Type} (q : Query M) : Prop where
  selection : RunsQuestion env contents θ q.definition.schemaName q.definition.tableName q.selection
  counting : RunsQuestion env contents θ q.definition.schemaName q.definition.tableName q.counting

end Meaning

/-- Every row is read into one object. -/
theorem length_readRows {M : Type} (view : SelectView M) (rows : List Row) :
    Ensures (fun ms => ms.length = rows.length) (readRows view rows) := by
  induction rows generalizing view with
  | nil => exact ensures_pure rfl
  | cons row rows ih =>
    refine (ensures_true _).bind fun view _ => (ensures_true _).bind fun m _ => ?_
    refine (ih view).bind fun ms hms => ensures_pure ?_
    rw [List.length_cons, List.length_cons, hms]

variable [DecidableEq κ] {env : Environment σ Obj} {contents : σ → Multiset TableRow}
  {θ : Collation} {k : ModelKey κ} {d d' : TableDefinition (ModelKey.Object Obj k)}
  {q : Query (ModelKey.Object Obj k)} {s₀ s u₀ u : SessionState σ Obj}

/-- What a query selects is read from the rows that the engine answers. -/
theorem run_select_of_query {rows : List Row} {g : σ}
    (hprep : (prepare env k).run s₀ = (.ok d, s))
    (hquery : env.engine.query (q.toSelect env.dialect) s.engine = (.ok rows, g)) :
    ∃ t, (select env k q).run s₀ = (((readRows q.view rows).run s.ledger).1, t) ∧
      t.engine = g := by
  have hrows := run_runQuery hquery (.operation k) d.tableName
  refine ⟨{ served s (.operation k) .select (q.toSelect env.dialect) g with
    ledger := ((readRows q.view rows).run s.ledger).2 }, ?_, rfl⟩
  rw [select, run_bind_ok hprep, selectPrepared, run_bind_ok hrows, run_mapping]
  rfl

/-- The count that rows answer, or the complaint that they hold none. -/
def countIn (rows : List Row) : Except MappingError Int64 :=
  match firstInteger? rows with
  | some n => .ok n
  | none => .error (.conversion "COUNT(*)" .noCount)

/-- What a query counts is read from the rows that the engine answers. -/
theorem run_selectCount_of_rows {rows : List Row} {g : σ}
    (hprep : (prepare env k).run s₀ = (.ok d, s))
    (hquery : env.engine.query (q.toCount env.dialect) s.engine = (.ok rows, g)) :
    (selectCount env k q).run s₀ =
      (countIn rows, served s (.operation k) .select (q.toCount env.dialect) g) := by
  have hrows := run_runQuery hquery (.operation k) d.tableName
  rw [selectCount, run_bind_ok hprep, run_bind_ok hrows, countIn]
  cases firstInteger? rows <;> rfl

/-- What a query counts is the number that the engine answers. -/
theorem run_selectCount_of_query {v : Value} {n : Int64} {g : σ}
    (hprep : (prepare env k).run s₀ = (.ok d, s))
    (hquery : env.engine.query (q.toCount env.dialect) s.engine = (.ok [[v]], g))
    (hv : v.integer? = some n) :
    ∃ t, (selectCount env k q).run s₀ = (.ok n, t) ∧ t.engine = g := by
  have hcount : countIn [[v]] = .ok n := by
    have hfirst : firstInteger? [[v]] = some n := hv
    rw [countIn, hfirst]
  rw [run_selectCount_of_rows hprep hquery, hcount]
  exact ⟨_, rfl, rfl⟩

/-- A query without paging selects what answers its question. -/
theorem run_select (hprep : (prepare env k).run s₀ = (.ok d, s)) (hlimit : q.limit = none)
    (hoffset : q.offset = none) (hruns : RunsQuery env contents θ q) :
    ∃ rows t, q.selection.Answered θ (contents s.engine) rows ∧
      (select env k q).run s₀ = (((readRows q.view rows).run s.ledger).1, t) ∧
      contents t.engine = contents s.engine := by
  obtain ⟨rows, g, hquery, hanswered, hsame⟩ := hruns.selection s.engine
  rw [← Query.toSelect_eq env.dialect hlimit hoffset] at hquery
  obtain ⟨t, hrun, rfl⟩ := run_select_of_query hprep hquery
  exact ⟨rows, t, hanswered, hrun, hsame⟩

/-- What a query counts is the number of the rows that its conditions choose. -/
theorem run_selectCount (hprep : (prepare env k).run s₀ = (.ok d, s))
    (hruns : RunsQuery env contents θ q) :
    ∃ n t, (selectCount env k q).run s₀ = (.ok n, t) ∧
      n.toInt = (chosen θ q.conditions (contents s.engine)).card ∧
      contents t.engine = contents s.engine := by
  obtain ⟨rows, g, hquery, hanswered, hsame⟩ := hruns.counting s.engine
  rw [← Query.toCount_eq env.dialect] at hquery
  obtain ⟨v, n, rfl, hv, hn⟩ := hanswered.exists_count
  obtain ⟨t, hrun, rfl⟩ := run_selectCount_of_query hprep hquery hv
  exact ⟨n, t, hrun, hn, hsame⟩

/-- A query without paging selects at most as many objects as its conditions choose rows.  It selects
as many exactly when it does not leave out repeated rows, or when no two chosen rows are the same in
all selected columns. -/
theorem length_select (hprep : (prepare env k).run s₀ = (.ok d, s)) (hlimit : q.limit = none)
    (hoffset : q.offset = none) (hruns : RunsQuery env contents θ q)
    {ms : List (ModelKey.Object Obj k)} {t : SessionState σ Obj}
    (hselect : (select env k q).run s₀ = (.ok ms, t)) :
    ms.length ≤ (chosen θ q.conditions (contents s.engine)).card ∧
      (ms.length = (chosen θ q.conditions (contents s.engine)).card ↔ (q.distinct = true →
        ToldApart θ q.columnNames (chosen θ q.conditions (contents s.engine)))) := by
  obtain ⟨rows, t', hanswered, hread, -⟩ := run_select hprep hlimit hoffset hruns
  rw [hread] at hselect
  have hms : ((readRows q.view rows).run s.ledger).1 = .ok ms := congrArg Prod.fst hselect
  have hlength : ms.length = rows.length :=
    length_readRows q.view rows s.ledger ms _ (Prod.ext hms rfl)
  rw [hlength]
  exact hanswered.length_rows

/-- Whenever the table has the same rows, a query without paging counts every row that its
conditions choose and selects at most as many objects: as many exactly when it does not leave out
repeated rows, or when there are none. -/
theorem selectCount_select (hs : (prepare env k).run s₀ = (.ok d, s))
    (hu : (prepare env k).run u₀ = (.ok d', u)) (hsame : contents u.engine = contents s.engine)
    (hlimit : q.limit = none) (hoffset : q.offset = none) (hruns : RunsQuery env contents θ q) :
    ∃ n s', (selectCount env k q).run s₀ = (.ok n, s') ∧ contents s'.engine = contents s.engine ∧
      n.toInt = (chosen θ q.conditions (contents s.engine)).card ∧
      ∃ rows u', q.selection.Answered θ (contents s.engine) rows ∧
        (select env k q).run u₀ = (((readRows q.view rows).run u.ledger).1, u') ∧
        contents u'.engine = contents s.engine ∧
        ∀ ms, (select env k q).run u₀ = (.ok ms, u') →
          (ms.length : Int) ≤ n.toInt ∧
            ((ms.length : Int) = n.toInt ↔ (q.distinct = true →
              ToldApart θ q.columnNames (chosen θ q.conditions (contents s.engine)))) := by
  obtain ⟨n, s', hcount, hn, hs'⟩ := run_selectCount hs hruns
  obtain ⟨rows, u', hanswered, hselect, hu'⟩ := run_select hu hlimit hoffset hruns
  rw [hsame] at hanswered hu'
  refine ⟨n, s', hcount, hs', hn, rows, u', hanswered, hselect, hu', fun ms hms => ?_⟩
  have hlength := length_select hu hlimit hoffset hruns hms
  rw [hsame] at hlength
  rw [hn, Int.ofNat_le, Int.ofNat_inj]
  exact hlength

/-! ### Marks -/

/-- A mark on a page.  Nothing tells two marks on the same page apart. -/
structure Mark where
  page : String

def markPage : FieldSpec Mark :=
  (FieldSpec.value String "page" (·.page) fun x _ => ⟨x⟩).withColumn {}

def markSchema : ModelSchema Mark :=
  (ModelSchema.named "Mark" ⟨""⟩).addField markPage

def markColumn : MappedField Mark where
  columnName := "page"
  fieldName := "page"
  fieldType := .string
  dataType := "VARCHAR"
  maxLength := 0
  isPrimaryKey := false
  isAutoIncrement := false
  trim := false
  allowNull := true
  defaultValue := none
  encoding := none
  declaredIndex := 0
  build := 0
  adapter := none
  get := markPage.get
  set := markPage.set

def markDefinition : TableDefinition Mark where
  modelName := "Mark"
  schemaName := none
  tableName := "Mark"
  version := 0
  createIfRequired := true
  memoryTable := false
  fields := [markColumn]
  primaryKey := []
  indexes := []
  declared := ["page"]
  blank := ⟨""⟩

theorem define_markSchema : markSchema.define 0 = .ok markDefinition := rfl

/-- Texts are compared letter by letter. -/
def plainCollation : Collation where
  equal
    | .string x, .string y => x = y
    | _, _ => false
  less _ _ := false
  like _ _ := false
  same := ⟨Eq, eq_equivalence⟩

/-- The row of a mark. -/
def markRow (page : String) : TableRow :=
  .ofAssignments [("page", .text page)]

/-- Two marks on one page and one on another. -/
def marks : Multiset TableRow :=
  {markRow "home", markRow "home", markRow "about"}

/-- The query for the marks on the first page. -/
def homeMarks (distinct : Bool) : Query Mark :=
  { Query.ofAlias ⟨1, markDefinition⟩ with
    conditions := [⟨none, "page", .equal, .value (.text "home")⟩], distinct := distinct }

/-- What an engine with these marks answers to the statements of the query. -/
def markAnswer (sql : String) : List Row :=
  if sql = "SELECT COUNT(*) FROM \"Mark\" WHERE \"page\" = $1" then [[.of (.bigInt 2)]]
  else if sql = "SELECT DISTINCT \"page\" FROM \"Mark\" WHERE \"page\" = $1" then
    [[.text "home"]]
  else [[.text "home"], [.text "home"]]

/-- What a session for marks works with.  Their table is there already. -/
def markEnvironment : Environment Unit fun _ : Unit => Mark where
  engine := {
    product := "PostgreSQL"
    execute := fun _ _ => (.error (.execution "refused"), ())
    insert := fun _ _ => (.error (.execution "refused"), ())
    query := fun st _ => (.ok (markAnswer st.sql), ()) }
  schema _ := markSchema
  config := { createTables := false }
  upgrader := none

theorem dialect_markEnvironment : markEnvironment.dialect = .postgres := by
  have hdetect : Dialect.detect "PostgreSQL" = .postgres := by decide +kernel
  exact hdetect

theorem chosen_marks (distinct : Bool) :
    chosen plainCollation (homeMarks distinct).conditions marks =
      {markRow "home", markRow "home"} :=
  rfl

theorem runsQuestion_marks {x : Question} {rows : List Row}
    (hrows : markAnswer (Dialect.postgres.statement (x.fragments none "Mark")).sql = rows)
    (hanswered : x.Answered plainCollation marks rows) :
    RunsQuestion markEnvironment (fun _ => marks) plainCollation none "Mark" x := by
  intro g
  refine ⟨rows, (), ?_, hanswered, rfl⟩
  rw [dialect_markEnvironment, ← hrows]
  rfl

/-- The rows of the query, with repeated ones or without. -/
def homeRows (distinct : Bool) : List Row :=
  if distinct then [[.text "home"]] else [[.text "home"], [.text "home"]]

theorem markAnswer_selection (distinct : Bool) :
    markAnswer ((homeMarks distinct).toSelect .postgres).sql = homeRows distinct := by
  cases distinct with
  | false =>
    have hsql : ((homeMarks false).toSelect .postgres).sql =
        "SELECT \"page\" FROM \"Mark\" WHERE \"page\" = $1" := by decide +kernel
    rw [hsql, markAnswer, if_neg (by decide), if_neg (by decide)]
    rfl
  | true =>
    have hsql : ((homeMarks true).toSelect .postgres).sql =
        "SELECT DISTINCT \"page\" FROM \"Mark\" WHERE \"page\" = $1" := by decide +kernel
    rw [hsql, markAnswer, if_neg (by decide), if_pos rfl]
    rfl

theorem markAnswer_counting (distinct : Bool) :
    markAnswer ((homeMarks distinct).toCount .postgres).sql = [[.of (.bigInt 2)]] := by
  have hsql : ((homeMarks distinct).toCount .postgres).sql =
      "SELECT COUNT(*) FROM \"Mark\" WHERE \"page\" = $1" := by
    cases distinct <;> decide +kernel
  rw [hsql, markAnswer, if_pos rfl]

/-- The engine answers the query by its meaning. -/
theorem runsQuery_homeMarks (distinct : Bool) :
    RunsQuery markEnvironment (fun _ => marks) plainCollation (homeMarks distinct) where
  selection := by
    have hrows := markAnswer_selection distinct
    rw [Query.toSelect_eq .postgres rfl rfl] at hrows
    refine runsQuestion_marks hrows ?_
    cases distinct with
    | false => exact .rows rfl
    | true =>
      have hshown : ∃ r ∈ chosen plainCollation (homeMarks true).conditions marks,
          [some (.text "home")] = r.cells ["page"] := by
        rw [chosen_marks]
        exact ⟨markRow "home", Multiset.mem_cons_self _ _, rfl⟩
      refine .distinct (List.forall_mem_singleton.mpr hshown) ?_
      classical
      rw [chosen_marks]
      exact (Multiset.dedup_cons_of_mem (Multiset.mem_singleton_self _)).symm
  counting := by
    refine runsQuestion_marks (markAnswer_counting distinct) (.count (n := 2) rfl ?_)
    rw [chosen_marks]
    rfl

theorem run_select_homeMarks (distinct : Bool) :
    ∃ t, (select markEnvironment (.model ()) (homeMarks distinct)).run
      (.opened markEnvironment ()) = (.ok ((homeRows distinct).map fun _ => ⟨"home"⟩), t) := by
  obtain ⟨s, hprep, -⟩ :=
    run_prepare_opened markEnvironment () rfl rfl define_markSchema
  have hquery : markEnvironment.engine.query
      ((homeMarks distinct).toSelect markEnvironment.dialect) s.engine =
        (.ok (homeRows distinct), ()) := by
    rw [dialect_markEnvironment, ← markAnswer_selection]
    rfl
  obtain ⟨t, hrun, -⟩ := run_select_of_query hprep hquery
  rw [hrun]
  cases distinct with
  | false => exact ⟨t, rfl⟩
  | true => exact ⟨t, rfl⟩

theorem run_selectCount_homeMarks (distinct : Bool) :
    ∃ t, (selectCount markEnvironment (.model ()) (homeMarks distinct)).run
      (.opened markEnvironment ()) = (.ok 2, t) := by
  obtain ⟨s, hprep, -⟩ :=
    run_prepare_opened markEnvironment () rfl rfl define_markSchema
  have hquery : markEnvironment.engine.query
      ((homeMarks distinct).toCount markEnvironment.dialect) s.engine =
        (.ok [[.of (.bigInt 2)]], ()) := by
    rw [dialect_markEnvironment, ← markAnswer_counting distinct]
    rfl
  obtain ⟨t, hrun, -⟩ := run_selectCount_of_query hprep hquery rfl
  exact ⟨t, hrun⟩

/-- With repeated rows, as many marks are selected as are counted. -/
theorem selectCount_select_marks :
    ∃ n ms s t, (selectCount markEnvironment (.model ()) (homeMarks false)).run
        (.opened markEnvironment ()) = (.ok n, s) ∧
      (select markEnvironment (.model ()) (homeMarks false)).run
        (.opened markEnvironment ()) = (.ok ms, t) ∧
      n.toInt = 2 ∧ (ms.length : Int) = n.toInt := by
  obtain ⟨s, hprep, -⟩ :=
    run_prepare_opened markEnvironment () rfl rfl define_markSchema
  obtain ⟨n, s', hcount, -, hn, rows, t, -, hselect, -, hall⟩ :=
    selectCount_select hprep hprep rfl rfl rfl (runsQuery_homeMarks false)
  obtain ⟨t', hms⟩ := run_select_homeMarks false
  have ht : t' = t := (congrArg Prod.snd (hms.symm.trans hselect))
  rw [ht] at hms
  rw [chosen_marks] at hn
  exact ⟨n, _, s', t, hcount, hms, hn, (hall _ hms).2.mpr nofun⟩

/-- Without repeated rows, two marks are counted and one is selected. -/
theorem selectCount_marks :
    ∃ q l, ((Query.ofAlias ⟨1, markDefinition⟩).steps
        [.compare none ⟨1, 0⟩ (.value .equal (.text "home")), .distinct]).run .start =
          (.ok q, l) ∧
      q.limit = none ∧ q.offset = none ∧
      RunsQuery markEnvironment (fun _ => marks) plainCollation q ∧
      ∃ s t, (selectCount markEnvironment (.model ()) q).run (.opened markEnvironment ()) =
          (.ok 2, s) ∧
        (select markEnvironment (.model ()) q).run (.opened markEnvironment ()) =
          (.ok [⟨"home"⟩], t) := by
  have hsteps : ∃ l, ((Query.ofAlias ⟨1, markDefinition⟩).steps
      [.compare none ⟨1, 0⟩ (.value .equal (.text "home")), .distinct]).run .start =
        (.ok (homeMarks true), l) := ⟨_, rfl⟩
  obtain ⟨l, hsteps⟩ := hsteps
  obtain ⟨s, hcount⟩ := run_selectCount_homeMarks true
  obtain ⟨t, hselect⟩ := run_select_homeMarks true
  exact ⟨homeMarks true, l, hsteps, rfl, rfl, runsQuery_homeMarks true, s, t, hcount, hselect⟩

end Session
end TableMapping
