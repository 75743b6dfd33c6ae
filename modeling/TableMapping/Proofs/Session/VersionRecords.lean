import TableMapping.Proofs.Sql.Rendering
import TableMapping.Proofs.Sql.Writing
import TableMapping.Proofs.Value.StoredForm
import TableMapping.Session.Basic

/-!
# The statements and the rows of the version records

The version records are mapped like any other model: their definition, their statements and
their objects all come out of the general machinery.  This module says what comes out of it.

* `define_schema`: the definition, which has three columns and the first two of them as its key.
* `run_insertStatement`, `run_updateStatement`, `run_versionQuery` with `toSelect_query`: the
  three statements of a version check are `insertion`, `advance` and `lookup`, and the same two
  conditions `key` find a record in the last two.
* `IsView.answers_readRows`: the rows of a look-up are read by `ofRow?`, or refused.

Reading a row consults no adapter, so it leaves the ledger alone.  `Mapping.Answers` says so of a
computation, together with what it answers.
-/

namespace TableMapping

open Runs

namespace Mapping

variable {α β : Type}

/-- A computation that leaves the ledger alone and answers `o`; it fails when `o` is nothing. -/
def Answers (x : Mapping α) (o : Option α) : Prop :=
  ∀ l, ∃ b, x.run l = (b, l) ∧ b.toOption = o

theorem answers_pure (a : α) : Answers (pure a) (some a) :=
  fun _ => ⟨.ok a, run_pure a, rfl⟩

theorem answers_ofExcept (x : Except MappingError α) : Answers (Mapping.ofExcept x) x.toOption :=
  fun _ => ⟨x, run_ofExcept x, rfl⟩

theorem answers_bind {x : Mapping α} {o : Option α} {f : α → Mapping β} {q : α → Option β}
    (hx : Answers x o) (hf : ∀ a, o = some a → Answers (f a) (q a)) :
    Answers (x >>= f) (o.bind q) := by
  intro l
  obtain ⟨b, hrun, rfl⟩ := hx l
  cases b with
  | error e => exact ⟨.error e, run_bind_error hrun, rfl⟩
  | ok a =>
    rw [run_bind_ok hrun]
    exact hf a rfl l

end Mapping

open Mapping

/-! ## Fields without an adapter -/

/-- The value of a type that a stored value is read as. -/
def Storable.read? (T : Type) [Storable T] (v : Value) : Option T :=
  (v.coerce (Storable.fieldType T)).toOption.bind Storable.ofValue?

theorem Column.toOption_decode {c : Column} {T : Type} [Storable T] (hT : BaseType T)
    (htype : c.fieldType = Storable.fieldType T) (v : Value) :
    (c.decode v).toOption = (v.coerce (Storable.fieldType T)).toOption.map FieldValue.plain := by
  have hne : ∀ e, c.fieldType ≠ .enumeration e := htype ▸ hT.fieldType_ne_enumeration
  rw [Column.decode_of_ne_enumeration hne, htype]
  cases v.coerce (Storable.fieldType T) <;> rfl

/-- A field of the type table reads its column, or refuses the value there; what follows starts
from the object with the field set. -/
theorem MappedField.answers_setValue {M T : Type} [Storable T] {f : MappedField M} {name : String}
    {set : T → M → M} (hT : BaseType T) (htype : f.fieldType = Storable.fieldType T)
    (hadapter : f.adapter = none)
    (hset : f.set = fun x m => do return set (← x.toTyped T name) m) (m : M) (v : Value)
    {β : Type} {k : M → Mapping β} {q : T → Option β} (hk : ∀ x, Answers (k (set x m)) (q x)) :
    Answers (f.setValue m v >>= k) ((Storable.read? T v).bind q) := by
  have hread := Column.fromStorage_of_plain hadapter v
  have hwrite : ∀ x, Answers (Mapping.ofExcept (f.set x m) >>= k)
      ((x.toTyped T name).toOption.bind q) := by
    intro x
    have hx : f.set x m = (x.toTyped T name).map fun y => set y m := by
      rw [hset]
      rfl
    rw [hx]
    cases x.toTyped T name with
    | error e => exact fun _ => ⟨.error e, rfl, rfl⟩
    | ok y => exact hk y
  have htyped : ∀ w, ((FieldValue.plain w).toTyped T name).toOption.bind q =
      (Storable.ofValue? w).bind q := by
    intro w
    rw [FieldValue.toTyped]
    cases (Storable.ofValue? w : Option T) <;> rfl
  have hdecode := answers_ofExcept (f.decode v)
  rw [Column.toOption_decode hT htype] at hdecode
  have h := answers_bind hdecode fun x _ => hwrite x
  rw [Option.bind_map] at h
  simp only [Function.comp_def, htyped] at h
  rwa [MappedField.setValue, hread, bind_assoc, Storable.read?, Option.bind_assoc]

namespace VersionRecord

/-! ## The definition -/

/-- A column of the version records. -/
def column (T : Type) [Storable T] (build index : Nat) (field column dataType : String)
    (length : Nat) (key : Bool) (get : VersionRecord → T)
    (set : T → VersionRecord → VersionRecord) : MappedField VersionRecord where
  columnName := column
  fieldName := field
  fieldType := Storable.fieldType T
  dataType := dataType
  maxLength := length
  isPrimaryKey := key
  isAutoIncrement := false
  trim := false
  allowNull := false
  defaultValue := none
  encoding := none
  declaredIndex := index
  build := build
  adapter := none
  get r := .ok (.plain (Storable.toValue (get r)))
  set v r := do return set (← v.toTyped T field) r

variable (build : Nat)

def schemaNameColumn : MappedField VersionRecord :=
  column String build 0 "schema_name" "schemaName" "VARCHAR" 255 true (·.schemaName)
    fun v r => { r with schemaName := v }

def tableNameColumn : MappedField VersionRecord :=
  column String build 1 "table_name" "tableName" "VARCHAR" 255 true (·.tableName)
    fun v r => { r with tableName := v }

def versionColumn : MappedField VersionRecord :=
  column Int32 build 2 "version" "version" "INT" 0 false (·.version)
    fun v r => { r with version := v }

/-- The definition of the version records. -/
def definition : TableDefinition VersionRecord where
  modelName := "DbVersion"
  schemaName := none
  tableName := table
  version := 0
  createIfRequired := true
  memoryTable := false
  fields := [schemaNameColumn build, tableNameColumn build, versionColumn build]
  primaryKey := ["schemaName", "tableName"]
  indexes := []
  declared := ["schema_name", "table_name", "version"]
  blank := blank

/-- The columns before the key is known. -/
def unkeyed : List (MappedField VersionRecord) :=
  (definition build).fields.map fun f => { f with isPrimaryKey := false }

theorem sameName_columns :
    Text.sameName "schemaName" "tableName" = false ∧ Text.sameName "schemaName" "version" = false ∧
      Text.sameName "tableName" "version" = false := by
  simp only [Text.sameName_eq_decide]
  decide

theorem mapFields_schema :
    schema.mapFields build 0 [] schema.declaredFields = .ok (unkeyed build) := by
  obtain ⟨hst, hsv, htv⟩ := sameName_columns
  show (if (Text.sameName "schemaName" "tableName" || false) = true then throw _ else
    if (Text.sameName "schemaName" "version" || (Text.sameName "tableName" "version" || false)) =
      true then throw _ else _) = _
  rw [hst, hsv, htv]
  rfl

theorem keyNames_schema : schema.keyNames (unkeyed build) = ["schemaName", "tableName"] := by
  have hlisted : (schema.table.bind (·.primaryKey)).map Text.columnNames =
      some ["schemaName", "tableName"] := by decide
  rw [ModelSchema.keyNames, hlisted]

theorem define_schema : schema.define build = .ok (definition build) := by
  obtain ⟨hst, hsv, htv⟩ := sameName_columns
  have hkey : schema.resolveColumns "primary key" (unkeyed build) ["schemaName", "tableName"] =
      .ok ["schemaName", "tableName"] := by
    simp [ModelSchema.resolveColumns, unkeyed, definition, schemaNameColumn, tableNameColumn, column, hst]
    rfl
  have hflags : (unkeyed build).map (ModelSchema.flagKey ["schemaName", "tableName"]) =
      (definition build).fields := by
    simp [unkeyed, ModelSchema.flagKey, definition, schemaNameColumn, tableNameColumn, versionColumn, column,
      hsv, htv]
  rw [← keyNames_schema build] at hkey
  refine bind_eq_ok.mpr ⟨_, mapFields_schema build, bind_eq_ok.mpr ⟨_, hkey,
    bind_eq_ok.mpr ⟨[], rfl, ?_⟩⟩⟩
  rw [keyNames_schema, hflags]
  rfl

/-! ## The statements -/

/-- The conditions that find the record of a table. -/
def key (schema table : String) : List Condition :=
  equalities [("schemaName", .text schema), ("tableName", .text table)]

/-- The statement that looks for the record of a table. -/
def lookup (dialect : Dialect) (schema table : String) : Statement :=
  dialect.statement (.text "SELECT " :: columnFragments ["schemaName", "tableName", "version"] ++
    [.text " FROM ", .table none VersionRecord.table] ++ whereClause (key schema table))

/-- The statement that writes a record. -/
def insertion (dialect : Dialect) (r : VersionRecord) : Statement :=
  dialect.statement ([.text "INSERT INTO", .text " ", .table none table, .text " ("] ++
    columnFragments ["schemaName", "tableName", "version"] ++ [.text ")"] ++
    .text " VALUES(" ::
      valueFragments [.text r.schemaName, .text r.tableName, .of (.int r.version)] ++ [.text ")"])

/-- The fragments that set the version of a record. -/
def advanceFragments (r : VersionRecord) : List Fragment :=
  [.text "UPDATE ", .table none table, .text " SET ", .column "version", .text " = ",
    .param (.of (.int r.version))] ++ whereClause (key r.schemaName r.tableName)

/-- The statement that sets the version of a record. -/
def advance (dialect : Dialect) (r : VersionRecord) : Statement :=
  dialect.statement (advanceFragments r)

example : (lookup .h2 "" "Widget").sql =
    "SELECT schemaName, tableName, version FROM _tide_versions WHERE schemaName = ? AND tableName = ?" := by
  decide

variable (r : VersionRecord) (dialect : Dialect) (l : Ledger)

theorem run_insertStatement :
    ((definition build).insertStatement r dialect).run l = (.ok (insertion dialect r), l) := rfl

theorem run_materialize : (Alias.materialize (definition build)).run l =
    (.ok ⟨l.nextAlias, definition build⟩, { l with nextAlias := l.nextAlias + 1 }) := rfl

variable {index : Nat} {f : MappedField VersionRecord}

theorem targets_definition :
    (definition build).targets = [.mapped 0, .mapped 1, .mapped 2] := rfl

theorem resolveIn_definition (number : UInt64)
    (hf : (definition build).fields[index]? = some f) :
    (definition build).resolveIn number ⟨number, index⟩ = .ok index := by
  rw [TableDefinition.resolveIn, if_pos rfl, targets_definition]
  rcases index with _ | _ | _ | index
  · rfl
  · rfl
  · rfl
  · cases hf

/-- In a query over an alias, the handle of a field stands for the field. -/
theorem condition_definition {number : UInt64} {q : Query VersionRecord}
    (hq : q.view = (⟨number, definition build⟩ : Alias VersionRecord).view)
    (hf : (definition build).fields[index]? = some f) (joiner : Option Joiner) :
    q.condition joiner ⟨number, index⟩ = .ok ⟨q, f, joiner⟩ := by
  have hposition : q.view.definition.resolveIn q.view.number ⟨number, index⟩ = .ok index := by
    rw [hq]
    exact resolveIn_definition build number hf
  have hfield : q.view.resolveField ⟨number, index⟩ = .ok f := by
    rw [SelectView.resolveField, SelectView.resolve, hposition, hq]
    rcases index with _ | _ | _ | index
    · cases hf
      rfl
    · cases hf
      rfl
    · cases hf
      rfl
    · cases hf
  rw [Query.condition, hfield]
  rfl

/-- The query of a version check. -/
def query (number : UInt64) (schema table : String) : Query VersionRecord :=
  { Query.ofAlias ⟨number, definition build⟩ with conditions := key schema table }

theorem run_versionQuery (schema table : String) :
    (Session.versionQuery (definition build) schema table).run l =
      (.ok (query build l.nextAlias schema table), { l with nextAlias := l.nextAlias + 1 }) := by
  let start : Query VersionRecord := .ofAlias ⟨l.nextAlias, definition build⟩
  let half : Query VersionRecord :=
    { start with conditions := equalities [("schemaName", .text schema)] }
  have hschema : start.condition none ⟨l.nextAlias, schemaNameField⟩ =
      .ok ⟨start, schemaNameColumn build, none⟩ := condition_definition build rfl rfl none
  have htable : half.condition (some .and) ⟨l.nextAlias, tableNameField⟩ =
      .ok ⟨half, tableNameColumn build, some .and⟩ := condition_definition build rfl rfl _
  rw [Session.versionQuery, run_bind_ok (run_materialize build l)]
  simp only [Alias.handle]
  rw [hschema, run_bind_ok (run_ofExcept _)]
  refine (run_bind_ok (a := half) rfl).trans ?_
  rw [htable]
  rfl

theorem toSelect_query (number : UInt64) (schema table : String) :
    (query build number schema table).toSelect dialect = lookup dialect schema table := by
  have hpaging : dialect.pagingClause (query build number schema table).limit
      (query build number schema table).offset = "" := dialect.pagingClause_none
  have horder : (query build number schema table).orderFragments = [] := rfl
  have hnames : (query build number schema table).columnNames =
      ["schemaName", "tableName", "version"] := rfl
  have hfrom : (query build number schema table).fromFragments =
      [.text " FROM ", .table none VersionRecord.table] ++ whereClause (key schema table) := rfl
  have hdistinct : (query build number schema table).distinct = false := rfl
  rw [Query.toSelect, Query.selectFragments, horder, hnames, hfrom, hdistinct, hpaging,
    if_neg Bool.false_ne_true, List.append_nil, Dialect.statement_append_nothing,
    lookup, List.append_assoc]

/-- The columns of a record and what they hold. -/
theorem isStored : TableDefinition.IsStored r (definition build).fields
    [(schemaNameColumn build, .text r.schemaName), (tableNameColumn build, .text r.tableName),
      (versionColumn build, .of (.int r.version))] where
  fields := rfl
  stores := by
    intro fv hfv l
    simp only [List.mem_cons, List.not_mem_nil, or_false] at hfv
    rcases hfv with rfl | rfl | rfl
    · exact ⟨l, rfl⟩
    · exact ⟨l, rfl⟩
    · exact ⟨l, rfl⟩

theorem run_updateStatement :
    ∃ l', ((definition build).updateStatement r dialect).run l = (.ok (advance dialect r), l') := by
  obtain ⟨l', hrun⟩ := TableDefinition.run_updateStatement (define_schema build) (isStored build r)
    dialect rfl l
  exact ⟨l', hrun⟩

/-! ## Rows -/

/-- The record that a row holds. -/
def ofRow? : Row → Option VersionRecord
  | [schema, table, version] => do
    let s ← Storable.read? String schema
    let t ← Storable.read? String table
    let n ← Storable.read? Int32 version
    return ⟨s, t, n⟩
  | _ => none

variable {build}

theorem answers_fieldAt {α : Type} (hf : (definition build).fields[index]? = some f)
    {k : MappedField VersionRecord → Mapping α} {o : Option α} (h : Answers (k f) o) :
    Answers (Mapping.ofExcept ((definition build).fieldAt index) >>= k) o := by
  have hfield : (definition build).fieldAt index = .ok f := by
    rw [TableDefinition.fieldAt, hf]
  rw [hfield]
  exact h

theorem answers_object {v : SelectView VersionRecord} {a b c : Value}
    (hdefinition : v.definition = definition build)
    (hcolumns : v.columns = [⟨0, some a⟩, ⟨1, some b⟩, ⟨2, some c⟩]) :
    Answers v.object (ofRow? [a, b, c]) := by
  rw [SelectView.object, hdefinition, hcolumns]
  refine answers_fieldAt (f := schemaNameColumn build) rfl <|
    MappedField.answers_setValue .string rfl rfl rfl _ a fun s => ?_
  refine answers_fieldAt (f := tableNameColumn build) rfl <|
    MappedField.answers_setValue .string rfl rfl rfl _ b fun t => ?_
  refine answers_fieldAt (f := versionColumn build) rfl <|
    MappedField.answers_setValue .int rfl rfl rfl _ c fun n => ?_
  exact answers_pure _

theorem exists_of_length_eq_three {α : Type} {xs : List α} (h : xs.length = 3) :
    ∃ a b c, xs = [a, b, c] := by
  match xs, h with
  | [a, b, c], _ => exact ⟨a, b, c, rfl⟩

/-- A view of the version records, in the order of their columns. -/
structure IsView (build : Nat) (v : SelectView VersionRecord) : Prop where
  definition : v.definition = definition build
  indexes : v.columns.map (·.fieldIndex) = [0, 1, 2]

theorem IsView.length {v : SelectView VersionRecord} (h : IsView build v) :
    v.columns.length = 3 := by
  rw [← List.length_map (·.fieldIndex), h.indexes]
  rfl

theorem IsView.readRow {v : SelectView VersionRecord} (h : IsView build v) (a b c : Value) :
    v.readRow [a, b, c] =
      .ok { v with columns := [⟨0, some a⟩, ⟨1, some b⟩, ⟨2, some c⟩] } := by
  obtain ⟨c₀, c₁, c₂, hcolumns⟩ := exists_of_length_eq_three h.length
  have hindexes := h.indexes
  rw [hcolumns] at hindexes
  cases c₀; cases c₁; cases c₂
  cases hindexes
  have hlength : [a, b, c].length = v.columns.length := h.length.symm
  rw [SelectView.readRow, if_pos hlength, hcolumns]
  rfl

/-- The rows of a look-up are read in order, each into the view that the one before left. -/
theorem IsView.answers_readRows {v : SelectView VersionRecord} (hv : IsView build v)
    (rows : List Row) : Answers (Session.readRows v rows) (rows.mapM ofRow?) := by
  induction rows generalizing v with
  | nil => exact answers_pure []
  | cons row rows ih =>
    rw [Session.readRows, List.mapM_cons]
    by_cases hrow : row.length = 3
    · obtain ⟨a, b, c, rfl⟩ := exists_of_length_eq_three hrow
      have hv' : IsView build { v with columns := [⟨0, some a⟩, ⟨1, some b⟩, ⟨2, some c⟩] } :=
        ⟨hv.definition, rfl⟩
      rw [hv.readRow]
      exact answers_bind (answers_object hv'.definition rfl) fun r _ =>
        answers_bind (ih hv') fun rs _ => answers_pure _
    · have hnone : ofRow? row = none := by
        rw [ofRow?]
        rintro schema table version rfl
        exact hrow rfl
      have hread : v.readRow row = .error (.conversion v.definition.tableName
          (.rowLength row.length v.columns.length)) := by
        rw [SelectView.readRow, hv.length, if_neg hrow]
      rw [hread, hnone]
      exact fun _ => ⟨_, rfl, rfl⟩

theorem isView_query (number : UInt64) (schema table : String) :
    IsView build (query build number schema table).view := ⟨rfl, rfl⟩

end VersionRecord
end TableMapping
