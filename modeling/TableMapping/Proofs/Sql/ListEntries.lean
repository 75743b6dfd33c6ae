import TableMapping.Proofs.Query.SelectList
import TableMapping.Proofs.Sql.InsertRow

/-!
# Lists without entries

Statements are full of lists, and most of them cannot be empty where a field is mapped: an update
that has nothing else to set writes the key again, and a query selects all columns.  Two lists can.
An insertion leaves out what the engine is to generate, and nothing is left when that is everything.
An index lists the columns that its options name, and the options may name none.

* `ModelSchema.forall₂_indexes`: each index has a column for each name of its options.
* `Dialect.exists_createIndexSql_eq`: the statement of an index ends with the list of its columns.
* `TableDefinition.listEntries_of_define`: which lists have entries.
-/

namespace TableMapping

open Runs

/-! ## Indexes -/

namespace ModelSchema

variable {M : Type} {s : ModelSchema M} {build : Nat} {d : TableDefinition M}

/-- An index is made of its options: it has one column for each name, with the letters of the
name. -/
def IndexedBy (d : TableDefinition M) (options : IndexOptions) (i : IndexDefinition) : Prop :=
  i.kind = options.kind ∧ List.Forall₂ d.Means options.columns i.columnNames

theorem exists_of_defineIndexes {earlier indexes : List IndexDefinition}
    {options : List IndexOptions} (h : s.defineIndexes d.fields earlier options = .ok indexes) :
    ∃ rest, indexes = earlier ++ rest ∧ List.Forall₂ (IndexedBy d) options rest := by
  induction options generalizing earlier with
  | nil =>
    cases h
    exact ⟨[], (List.append_nil _).symm, .nil⟩
  | cons o os ih =>
    rw [defineIndexes] at h
    split at h
    · cases h
    · obtain ⟨columns, hcolumns, h⟩ := bind_eq_ok.mp h
      obtain ⟨rest, rfl, hrest⟩ := ih h
      refine ⟨_, List.append_assoc _ _ _, .cons ⟨rfl, ?_⟩ hrest⟩
      exact forall₂_resolveColumns hcolumns

/-- The indexes of a definition are those that its schema declares. -/
theorem forall₂_indexes (hd : s.define build = .ok d) :
    List.Forall₂ (IndexedBy d) s.indexes d.indexes := by
  obtain ⟨rest, hindexes, hrest⟩ := exists_of_defineIndexes (defineIndexes_of_define hd)
  rwa [hindexes, List.nil_append]

end ModelSchema

/-- The statement that creates an index ends with the list of its columns. -/
theorem Dialect.exists_createIndexSql_eq (dialect : Dialect) (schema : Option String)
    (table : String) (i : IndexDefinition) :
    ∃ words, dialect.createIndexSql schema table i =
      words ++ "(" ++ dialect.columnList i.columnNames ++ ")" := by
  have hlist : ∀ words s : String, words ++ ("(" ++ s ++ ")") = words ++ "(" ++ s ++ ")" := by
    intro words s
    simp only [String.append_assoc]
  cases dialect <;> exact ⟨_, hlist _ _⟩

/-! ## The lists of a definition -/

namespace TableDefinition

variable {M : Type} {s : ModelSchema M} {build : Nat} {d : TableDefinition M} {m : M}
  {dialect : Dialect} {st : Statement} {l l' : Ledger}

/-- The value of a field of an object is left to the engine. -/
def IsLeft (f : MappedField M) (m : M) (l : Ledger) : Prop :=
  ∃ v, f.valueAt m (l.served f) = .ok v ∧ isGenerated f v = true

/-- Nothing is listed exactly when everything is left to the engine. -/
theorem given_eq_nil_iff {fvs : List (MappedField M × Value)}
    (hvalues : ValuesAt m l.served d.fields fvs) :
    given fvs = [] ↔ ∀ f ∈ d.fields, IsLeft f m l := by
  rw [given, List.filter_eq_nil_iff]
  constructor
  · intro hall f hf
    obtain ⟨v, hv, hvalue⟩ := hvalues.exists_mem hf
    have hgenerated := hall _ hv
    rw [Bool.not_eq_true', Bool.not_eq_false] at hgenerated
    exact ⟨v, hvalue, hgenerated⟩
  · intro hleft fv hfv
    have hf : fv.1 ∈ d.fields := hvalues.fields ▸ List.mem_map_of_mem hfv
    obtain ⟨v, hvalue, hgenerated⟩ := hleft _ hf
    rw [hvalues.values fv hfv] at hvalue
    rw [Except.ok.inj hvalue, hgenerated]
    decide

/-- The lists in the statements of a definition, and which of them have entries. -/
structure ListEntries (d : TableDefinition M) (s : ModelSchema M) (dialect : Dialect) : Prop where
  /-- An insertion lists columns and values, unless every column is left to the engine. -/
  insert (m : M) (l l' : Ledger) (st : Statement) :
    (d.insertStatement m dialect).run l = (.ok st, l') →
      ∃ (columns : List String) (values : List Value),
        st = ⟨"INSERT INTO " ++ dialect.qualified d.schemaName d.tableName ++ " (" ++
          dialect.columnList columns ++ ") VALUES(" ++ dialect.valueList 0 values.length ++ ")",
          values⟩ ∧
        values.length = columns.length ∧ (columns = [] ↔ ∀ f ∈ d.fields, IsLeft f m l)
  /-- An update always sets a column. -/
  update (m : M) (l l' : Ledger) (st : Statement) :
    (d.updateStatement m dialect).run l = (.ok st, l') →
      d.updatedColumns ≠ [] ∧ ∃ rest, st.sql = "UPDATE " ++
        dialect.qualified d.schemaName d.tableName ++ " SET " ++
        ", ".intercalate (dialect.equations 0 d.updatedColumns) ++ " WHERE " ++ rest
  /-- An index lists a column for each name of its options. -/
  index : List.Forall₂ (fun (o : IndexOptions) (i : IndexDefinition) =>
    (i.columnNames = [] ↔ o.columns = []) ∧ ∃ words, (d.createIndexStatement i dialect).sql =
      words ++ "(" ++ dialect.columnList i.columnNames ++ ")") s.indexes d.indexes
  /-- A query always selects a column. -/
  select (a : Alias M) (ss : List QueryStep) (q : Query M) (l l' : Ledger) :
    a.definition = d → ((Query.ofAlias a).steps ss).run l = (.ok q, l') →
      d.fields.map (fun f => f.columnName) ≠ [] ∧ ∃ rest, (q.toSelect dialect).sql =
        (if q.distinct then "SELECT DISTINCT " else "SELECT ") ++
          dialect.columnList (d.fields.map fun f => f.columnName) ++ " FROM " ++ rest

/-- **Which lists have entries.**  Where a field is mapped, updates and queries have a column in
each list.  The lists of an insertion are empty exactly when every mapped field is an auto-increment
column with the value NULL or zero, and the list of an index exactly when its options name no
column. -/
theorem listEntries_of_define (hd : s.define build = .ok d) (hfields : d.fields ≠ [])
    (dialect : Dialect) : d.ListEntries s dialect where
  insert m l l' st h := by
    obtain ⟨fvs, hvalues, rfl, -⟩ := values_of_insertStatement hd h
    refine ⟨columnsOf (given fvs), (given fvs).map (·.2), ?_, ?_, ?_⟩
    · rw [statementOf_insert, List.length_map]
    · rw [columnsOf, List.length_map, List.length_map]
    · rw [columnsOf, List.map_eq_nil_iff, given_eq_nil_iff hvalues]
  update m l l' st h := by
    have hkeyed : d.hasPrimaryKey = true := by
      by_contra hkeyless
      have hrefused := run_updateStatement_of_keyless (Bool.eq_false_iff.mpr hkeyless) m dialect l
      cases h.symm.trans hrefused
    obtain ⟨set, found, -, -, rfl⟩ := (writesByKey hd hkeyed dialect m l).update st l' h
    refine ⟨?_, _, rfl⟩
    rw [updatedColumns, ne_eq, List.map_eq_nil_iff]
    exact updatedFields_ne_nil hd hkeyed
  index := by
    refine (ModelSchema.forall₂_indexes hd).imp fun o i hi => ⟨?_, ?_⟩
    · rw [← List.length_eq_zero_iff, ← hi.2.length_eq, List.length_eq_zero_iff]
    · exact dialect.exists_createIndexSql_eq d.schemaName d.tableName i
  select a ss q l l' ha h := by
    have hview : q.view = a.view := Query.view_steps _ ss l q l' h
    subst ha
    rw [← Query.columnNames_eq hview]
    refine ⟨?_, q.exists_sql_toSelect dialect⟩
    rw [Query.columnNames_eq hview, ne_eq, List.map_eq_nil_iff]
    exact hfields

/-! ### A counter -/

/-- A counter has nothing but a number that the engine gives it. -/
structure Counter where
  id : Int64

def counterId : FieldSpec Counter :=
  (FieldSpec.value Int64 "id" (·.id) fun x _ => ⟨x⟩).withColumn
    { primaryKey := true, autoIncrement := true }

/-- The schema of counters declares an index without columns. -/
def counterSchema : ModelSchema Counter :=
  ((ModelSchema.named "Counter" ⟨0⟩).addField counterId).addIndex {}

def counterColumn : MappedField Counter where
  columnName := "id"
  fieldName := "id"
  fieldType := .bigInt
  dataType := "BIGINT"
  maxLength := 0
  isPrimaryKey := true
  isAutoIncrement := true
  trim := false
  allowNull := true
  defaultValue := none
  encoding := none
  declaredIndex := 0
  build := 0
  adapter := none
  get := counterId.get
  set := counterId.set

def counterDefinition : TableDefinition Counter where
  modelName := "Counter"
  schemaName := none
  tableName := "Counter"
  version := 0
  createIfRequired := true
  memoryTable := false
  fields := [counterColumn]
  primaryKey := ["id"]
  indexes := [⟨.standard, "Counter" ++ "_" ++ Numeral.ofNat 0, []⟩]
  declared := ["id"]
  blank := ⟨0⟩

theorem define_counterSchema : counterSchema.define 0 = .ok counterDefinition := by
  have hkey : counterSchema.resolveColumns "primary key" [counterColumn]
      (counterSchema.keyNames [counterColumn]) = .ok ["id"] := by
    have hkeyNames : counterSchema.keyNames [counterColumn] = ["id"] := rfl
    rw [hkeyNames]
    simp [ModelSchema.resolveColumns, counterColumn]
  have hflags : [counterColumn].map (ModelSchema.flagKey ["id"]) = [counterColumn] := by
    simp [ModelSchema.flagKey, counterColumn]
  refine bind_eq_ok.mpr ⟨_, rfl, bind_eq_ok.mpr ⟨_, hkey, ?_⟩⟩
  exact congrArg (fun fields => Except.ok { counterDefinition with fields := fields }) hflags

/-- A number that is given is listed. -/
theorem listEntries_of_define_counter :
    ∃ st l' columns, ∃ values : List Value,
      (counterDefinition.insertStatement ⟨7⟩ .postgres).run .start = (.ok st, l') ∧
      st.params = [.of (.bigInt 7)] ∧ columns ≠ [] ∧
      st = ⟨"INSERT INTO " ++ Dialect.postgres.qualified none "Counter" ++ " (" ++
        Dialect.postgres.columnList columns ++ ") VALUES(" ++
        Dialect.postgres.valueList 0 values.length ++ ")", values⟩ := by
  obtain ⟨st, l', hrun, hparams⟩ : ∃ st l',
      (counterDefinition.insertStatement ⟨7⟩ .postgres).run .start = (.ok st, l') ∧
        st.params = [.of (.bigInt 7)] := ⟨_, _, rfl, rfl⟩
  have hfields : counterDefinition.fields ≠ [] := List.cons_ne_nil _ _
  obtain ⟨columns, values, hst, -, hempty⟩ :=
    (listEntries_of_define define_counterSchema hfields .postgres).insert ⟨7⟩ .start l' st hrun
  refine ⟨st, l', columns, values, hrun, hparams, fun hnil => ?_, hst⟩
  obtain ⟨v, hvalue, hgenerated⟩ := hempty.mp hnil counterColumn (List.mem_singleton_self _)
  have hseven : counterColumn.valueAt ⟨7⟩ (Ledger.start.served counterColumn) =
      .ok (.of (.bigInt 7)) := rfl
  cases hseven.symm.trans hvalue
  exact absurd hgenerated (by decide)

/-- A number that is not, and an index without columns, leave empty lists. -/
theorem insertStatement_empty_counter :
    counterSchema.define 0 = .ok counterDefinition ∧ counterDefinition.fields ≠ [] ∧
      (∃ st l', (counterDefinition.insertStatement ⟨0⟩ .postgres).run .start = (.ok st, l') ∧
        st.sql = "INSERT INTO \"Counter\" () VALUES()" ∧ st.params = []) ∧
      (counterDefinition.createStatements .postgres).map (·.sql) =
        ["CREATE TABLE IF NOT EXISTS \"Counter\"(\"id\" BIGSERIAL, PRIMARY KEY(\"id\"))",
          "CREATE INDEX IF NOT EXISTS \"Counter_0\" ON \"Counter\"()"] := by
  refine ⟨define_counterSchema, List.cons_ne_nil _ _, ⟨_, _, rfl, ?_, rfl⟩, ?_⟩
  · decide +kernel
  · decide +kernel

end TableDefinition
end TableMapping
