import TableMapping.Proofs.Model.Selection
import TableMapping.Proofs.Sql.DefaultClause
import TableMapping.Proofs.Sql.ListEntries

/-!
# The statement that creates a table

The statement says of every column what its field is declared with, one clause after the other, and
names the primary key at last.  A default value that is not acceptable is not written, and a warning
says so.

* `ColumnText`: the clauses of a column, with `Column.text_definitionFragments`.
* `TableDefinition.statement_createTable`: the statement, put together from them.
* `TableDefinition.Describes`: when the clauses of a column are those of a field.
* `TableDefinition.createStatements_of_define`: a definition is described column by column.
-/

namespace TableMapping

open Runs

/-! ## The clauses of a column -/

/-- The definition of a column, clause by clause, and what is told about its default value. -/
structure ColumnText where
  name : String
  dataType : String
  /-- What makes the engine generate values. -/
  generation : Option String
  notNull : Bool
  default : Option String
  warning : Option Notice

/-- The definition of a column as it is written. -/
def ColumnText.written (c : ColumnText) (d : Dialect) : String :=
  d.identifier c.name ++ " " ++ c.dataType ++ c.generation.elim "" (" " ++ ·) ++
    (if c.notNull then " NOT NULL" else "") ++ c.default.elim "" (" DEFAULT " ++ ·)

namespace Column

/-- The data type of a column with its length. -/
def typeText (c : Column) (d : Dialect) : String :=
  (c.spelledType d).dataType ++ c.lengthText

/-- What the creation of a table makes of a column. -/
def creationText (c : Column) (table : String) (d : Dialect) : ColumnText where
  name := c.columnName
  dataType := c.typeText d
  generation := (c.spelledType d).clause
  notNull := !c.allowNull
  default := c.consideredDefault.filter fun value => (c.defaultNotice? table value).isNone
  warning := c.consideredDefault.bind (c.defaultNotice? table)

variable (c : Column) (table : String) (d : Dialect)

theorem defaultClause_eq : c.defaultClause table =
    (c.creationText table d).default.elim "" (" DEFAULT " ++ ·) := by
  rw [defaultClause, creationText]
  cases c.consideredDefault with
  | none => rfl
  | some value =>
    show (if (c.defaultNotice? table value).isNone then _ else _) = _
    rw [Option.filter_some]
    split <;> rfl

theorem defaultNotices_eq :
    c.defaultNotices table = (c.creationText table d).warning.toList := by
  rw [defaultNotices, creationText]
  cases c.consideredDefault <;> rfl

/-- The fragments of a column are its clauses, and bind nothing. -/
theorem text_definitionFragments (n : Nat) :
    d.text n (c.definitionFragments table d) = (c.creationText table d).written d ∧
      Fragment.bound (c.definitionFragments table d) = [] := by
  have hnull : (if c.allowNull then "" else " NOT NULL") =
      if !c.allowNull then " NOT NULL" else "" := by
    cases c.allowNull <;> rfl
  refine ⟨?_, rfl⟩
  rw [ColumnText.written, ← defaultClause_eq]
  simp only [definitionFragments, hnull, Dialect.text_cons_column, Dialect.text_cons_text,
    Dialect.text_nil, String.append_empty, creationText, typeText, String.append_assoc]
  cases (c.spelledType d).clause <;> rfl

end Column

/-! ## The statement -/

namespace TableDefinition

variable {M : Type} {s : ModelSchema M} {build : Nat} {d : TableDefinition M} {f : MappedField M}
  {value : String}

theorem keyClause_eq (d : TableDefinition M) : d.keyClause =
    if d.primaryKey = [] then []
    else .text ", PRIMARY KEY(" :: columnFragments d.primaryKey ++ [.text ")"] := by
  rw [keyClause, hasPrimaryKey]
  cases d.primaryKey <;> rfl

/-- The statement opens with its words and the table, and goes on with the columns and the key. -/
theorem statement_createTable (d : TableDefinition M) (dialect : Dialect) :
    d.createTableStatement dialect =
      ⟨dialect.createTableWords (d.memoryTable && dialect.hasMemoryTables) ++ " " ++
        dialect.qualified d.schemaName d.tableName ++ "(" ++
        ", ".intercalate (d.fields.map fun f =>
          (f.creationText d.tableName dialect).written dialect) ++
        (if d.primaryKey = [] then ""
          else ", PRIMARY KEY(" ++ dialect.columnList d.primaryKey ++ ")") ++ ")", []⟩ := by
  have hbound : ∀ f : MappedField M,
      Fragment.bound (f.definitionFragments d.tableName dialect) = [] :=
    fun f => (f.text_definitionFragments d.tableName dialect 0).2
  have hcolumns := dialect.text_separated_of_bound 0 ", " d.fields hbound
  simp only [fun f : MappedField M => (f.text_definitionFragments d.tableName dialect 0).1]
    at hcolumns
  have hnone : Fragment.bound (separated ", " (d.fields.map fun f =>
      f.definitionFragments d.tableName dialect)) = [] := by
    rw [Fragment.bound_separated, List.flatMap_map]
    exact List.flatMap_eq_nil_iff.mpr fun f _ => hbound f
  have hkey : dialect.text 0 d.keyClause = (if d.primaryKey = [] then ""
      else ", PRIMARY KEY(" ++ dialect.columnList d.primaryKey ++ ")") ∧
        Fragment.bound d.keyClause = [] := by
    rw [keyClause_eq]
    split
    · exact ⟨rfl, rfl⟩
    · simp [Dialect.text_append, Dialect.text_columnFragments, String.append_assoc]
  rw [createTableStatement, Dialect.statement_eq, createTableFragments]
  simp [Dialect.text_append, hcolumns, hnone, hkey, String.append_assoc]

/-- A default value is to be written: the field has it, it is not blank, and the column is neither
generated by the engine nor part of the primary key. -/
def Considers (d : TableDefinition M) (f : MappedField M) (value : String) : Prop :=
  f.defaultValue = some value ∧ Text.isBlankText value = false ∧ f.isAutoIncrement = false ∧
    f.columnName ∉ d.primaryKey

/-- The clauses of a column are those of a field.  Its default value is written where it is
acceptable, and otherwise a warning gives the first reason against it. -/
structure Describes (d : TableDefinition M) (dialect : Dialect) (f : MappedField M)
    (c : ColumnText) : Prop where
  name : c.name = f.columnName
  dataType : c.dataType = f.typeText dialect
  generation : c.generation = (f.spelledType dialect).clause
  notNull : c.notNull = true ↔ f.allowNull = false
  default (value : String) : c.default = some value ↔ d.Considers f value ∧
    DefaultValue.isProperlyFormatted value = true ∧
      DefaultValue.isValid f.fieldType f.encoding value = true
  warning (n : Notice) : c.warning = some n ↔ ∃ value, d.Considers f value ∧
    (DefaultValue.isProperlyFormatted value = false ∧
        n = .defaultMalformed value d.tableName f.columnName ∨
      DefaultValue.isProperlyFormatted value = true ∧
        DefaultValue.isValid f.fieldType f.encoding value = false ∧
        n = .defaultInvalid value d.tableName f.columnName f.fieldType.label)

/-- Definitions have no blank default values. -/
theorem isBlankText_of_mem (hd : s.define build = .ok d) (hf : f ∈ d.fields)
    (hvalue : f.defaultValue = some value) : Text.isBlankText value = false := by
  obtain ⟨a, -, -, htyped⟩ := ModelSchema.exists_selected_of_mem hd hf
  rw [htyped.defaultValue, Option.filter_eq_some_iff, Bool.not_eq_true'] at hvalue
  exact hvalue.2

theorem consideredDefault_iff (hd : s.define build = .ok d) (hf : f ∈ d.fields) :
    f.consideredDefault = some value ↔ d.Considers f value := by
  have hkey : f.columnName ∉ d.primaryKey ↔ f.isPrimaryKey = false := by
    rw [mem_primaryKey hd, keyFields, columnName_mem_map_filter hd _ hf, Bool.not_eq_true]
  rw [Column.consideredDefault_eq_some_iff, Considers, hkey]
  constructor
  · rintro ⟨hauto, hprimary, hvalue⟩
    exact ⟨hvalue, isBlankText_of_mem hd hf hvalue, hauto, hprimary⟩
  · rintro ⟨hvalue, -, hauto, hprimary⟩
    exact ⟨hauto, hprimary, hvalue⟩

theorem describes_creationText (hd : s.define build = .ok d) (hf : f ∈ d.fields)
    (dialect : Dialect) : d.Describes dialect f (f.creationText d.tableName dialect) where
  name := rfl
  dataType := rfl
  generation := rfl
  notNull := by
    show (!f.allowNull) = true ↔ _
    rw [Bool.not_eq_true']
  default value := by
    rw [← consideredDefault_iff hd hf, ← Column.defaultNotice?_eq_none_iff]
    show Option.filter _ _ = _ ↔ _
    rw [Option.filter_eq_some_iff, Option.isNone_iff_eq_none]
  warning n := by
    show Option.bind _ _ = _ ↔ _
    rw [Option.bind_eq_some_iff]
    simp only [consideredDefault_iff hd hf]
    refine exists_congr fun value => and_congr_right fun _ => ?_
    rw [Column.defaultNotice?]
    cases DefaultValue.isProperlyFormatted value <;>
      cases DefaultValue.isValid f.fieldType f.encoding value <;> simp [eq_comm]

/-- **A definition is described column by column.**  The statement that creates the table opens with
the words of the engine and the name of the table, defines one column for each field in their order,
and lists the columns of the primary key exactly where there are some; it binds nothing.  A column is
NOT NULL exactly when its field takes no NULL, and has a DEFAULT clause exactly when the field has a
default value to be written that is acceptable.  For each default value that is not, there is one
warning, and there are no others but those of the indexes.  The statements of the indexes follow, one
for each in their order. -/
theorem createStatements_of_define (hd : s.define build = .ok d) (dialect : Dialect) :
    (∃ columns, List.Forall₂ (d.Describes dialect) d.fields columns ∧
      d.createTableStatement dialect =
        ⟨dialect.createTableWords (d.memoryTable && dialect.hasMemoryTables) ++ " " ++
          dialect.qualified d.schemaName d.tableName ++ "(" ++
          ", ".intercalate (columns.map fun c => c.written dialect) ++
          (if d.primaryKey = [] then ""
            else ", PRIMARY KEY(" ++ dialect.columnList d.primaryKey ++ ")") ++ ")", []⟩ ∧
      d.createTableNotices = columns.filterMap (·.warning) ∧
      d.createNotices dialect =
        columns.filterMap (·.warning) ++ d.indexes.flatMap dialect.indexNotices) ∧
    ∃ creations, d.createStatements dialect = d.createTableStatement dialect :: creations ∧
      List.Forall₂ (fun i st => st = d.createIndexStatement i dialect ∧ st.params = [] ∧
        ∃ words, st.sql = words ++ "(" ++ dialect.columnList i.columnNames ++ ")")
          d.indexes creations := by
  have hnotices : d.createTableNotices =
      (d.fields.map fun f => f.creationText d.tableName dialect).filterMap (·.warning) := by
    rw [createTableNotices, List.filterMap_map, List.filterMap_eq_flatMap_toList]
    exact List.flatMap_congr fun f _ => f.defaultNotices_eq d.tableName dialect
  refine ⟨⟨d.fields.map fun f => f.creationText d.tableName dialect, ?_, ?_, hnotices, ?_⟩,
    _, rfl, ?_⟩
  · rw [List.forall₂_map_right_iff, List.forall₂_same]
    exact fun f hf => describes_creationText hd hf dialect
  · rw [List.map_map]
    exact d.statement_createTable dialect
  · rw [createNotices, hnotices]
  · rw [List.forall₂_map_right_iff, List.forall₂_same]
    exact fun i _ => ⟨rfl, rfl, dialect.exists_createIndexSql_eq d.schemaName d.tableName i⟩

/-! ### Articles -/

/-- An article of a shop. -/
structure Article where
  id : Int64
  code : String
  stock : Int32

def articleId : FieldSpec Article :=
  (FieldSpec.value Int64 "id" (·.id) fun x a => { a with id := x }).withColumn
    { primaryKey := true, autoIncrement := true, defaultValue := some "7" }

def articleCode : FieldSpec Article :=
  (FieldSpec.value String "code" (·.code) fun x a => { a with code := x }).withColumn
    { length := 4, nullable := false, defaultValue := some "'none" }

def articleStock : FieldSpec Article :=
  (FieldSpec.value Int32 "stock" (·.stock) fun x a => { a with stock := x }).withColumn
    { defaultValue := some "0" }

/-- The schema of articles.  One of its default values is a quote that does not end. -/
def articleSchema : ModelSchema Article :=
  (((ModelSchema.named "Article" ⟨0, "", 0⟩).addField articleId).addField articleCode).addField
    articleStock

def articleColumn (f : FieldSpec Article) (dataType : String) (index : Nat) :
    MappedField Article where
  columnName := f.name
  fieldName := f.name
  fieldType := f.fieldType
  dataType := dataType
  maxLength := f.options.length
  isPrimaryKey := f.options.primaryKey
  isAutoIncrement := f.options.autoIncrement
  trim := false
  allowNull := f.options.nullable
  defaultValue := f.options.defaultValue
  encoding := none
  declaredIndex := index
  build := 0
  adapter := none
  get := f.get
  set := f.set

def articleDefinition : TableDefinition Article where
  modelName := "Article"
  schemaName := none
  tableName := "Article"
  version := 0
  createIfRequired := true
  memoryTable := false
  fields := [articleColumn articleId "BIGINT" 0, articleColumn articleCode "VARCHAR" 1,
    articleColumn articleStock "INT" 2]
  primaryKey := ["id"]
  indexes := []
  declared := ["id", "code", "stock"]
  blank := ⟨0, "", 0⟩

theorem define_articleSchema : articleSchema.define 0 = .ok articleDefinition := by
  have hnames : Text.sameName "id" "code" = false ∧ Text.sameName "id" "stock" = false ∧
      Text.sameName "code" "stock" = false := by
    simp only [Text.sameName_eq_decide]
    decide
  obtain ⟨hcode, hstock, hother⟩ := hnames
  have hmapped : articleSchema.mapFields 0 0 [] articleSchema.declaredFields =
      .ok articleDefinition.fields := by
    show (if (Text.sameName "id" "code" || false) = true then throw _ else
      (if (Text.sameName "id" "stock" || (Text.sameName "code" "stock" || false)) = true then
        throw _ else _)) = _
    rw [hcode, hstock, hother]
    rfl
  have hkey : articleSchema.resolveColumns "primary key" articleDefinition.fields
      (articleSchema.keyNames articleDefinition.fields) = .ok ["id"] := by
    have hkeyNames : articleSchema.keyNames articleDefinition.fields = ["id"] := rfl
    rw [hkeyNames]
    simp [ModelSchema.resolveColumns, articleDefinition, articleColumn, articleId, FieldSpec.value,
      FieldSpec.ofAccessors, FieldSpec.withColumn]
  have hflags : articleDefinition.fields.map (ModelSchema.flagKey ["id"]) =
      articleDefinition.fields := by
    simp [ModelSchema.flagKey, articleDefinition, articleColumn, articleId, articleCode,
      articleStock, FieldSpec.value, FieldSpec.ofAccessors, FieldSpec.withColumn,
      FieldSpec.options, hcode, hstock]
  refine bind_eq_ok.mpr ⟨_, hmapped, bind_eq_ok.mpr ⟨_, hkey, bind_eq_ok.mpr ⟨[], rfl, ?_⟩⟩⟩
  rw [hflags]
  rfl

/-- The stock of an article has a default value.  Its code has none, and a warning says why. -/
theorem createStatements_of_define_article :
    (articleDefinition.createTableStatement .h2).sql =
      "CREATE CACHED TABLE IF NOT EXISTS Article(id BIGINT AUTO_INCREMENT, " ++
        "code VARCHAR(4) NOT NULL, stock INT DEFAULT 0, PRIMARY KEY(id))" ∧
    ∃ id code stock, List.Forall₂ (articleDefinition.Describes .h2) articleDefinition.fields
        [id, code, stock] ∧
      articleDefinition.createTableNotices = [id, code, stock].filterMap (·.warning) ∧
      code.warning = some (.defaultMalformed "'none" "Article" "code") ∧
      stock.default = some "0" := by
  obtain ⟨⟨columns, hcolumns, -, hnotices, -⟩, -⟩ :=
    createStatements_of_define define_articleSchema .h2
  refine ⟨by decide +kernel, ?_⟩
  have hlength := hcolumns.length_eq
  obtain ⟨id, code, stock, rfl⟩ := List.length_eq_three.mp hlength.symm
  have hcode : articleDefinition.Describes .h2 (articleColumn articleCode "VARCHAR" 1) code :=
    hcolumns.get (i := 1) (by decide) (by simp)
  have hstock : articleDefinition.Describes .h2 (articleColumn articleStock "INT" 2) stock :=
    hcolumns.get (i := 2) (by decide) (by simp)
  refine ⟨id, code, stock, hcolumns, hnotices, ?_, ?_⟩
  · refine (hcode.warning _).mpr ⟨"'none", ⟨rfl, by decide, rfl, by decide⟩, .inl ⟨by decide, rfl⟩⟩
  · exact (hstock.default _).mpr ⟨⟨rfl, by decide, rfl, by decide⟩, by decide, by decide⟩

end TableDefinition
end TableMapping
