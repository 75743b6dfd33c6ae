import TableMapping.Sql.Statement

/-!
# Statements that create a table

A table is created with one column per mapped field and, where there is a primary key, one
clause that lists it; one statement per index follows.

A default value is written only for columns that are neither generated nor in the primary
key, and only when it is well-formed and belongs to the type of the field; otherwise it is
left out with a warning.
-/

namespace TableMapping

namespace Column

/-- The data type of a column and the clause behind it in an engine. -/
def spelledType (c : Column) (d : Dialect) : AutoIncrement :=
  let dataType := d.spellDataType c.dataType c.maxLength
  if c.isAutoIncrement then d.autoIncrement dataType else ⟨dataType, none⟩

/-- The length behind the data type. -/
def lengthText (c : Column) : String :=
  if c.maxLength > 0 && !c.isAutoIncrement then "(" ++ Numeral.ofNat c.maxLength ++ ")" else ""

/-- The default value that a definition considers for a column. -/
def consideredDefault (c : Column) : Option String :=
  if c.isAutoIncrement || c.isPrimaryKey then none else c.defaultValue

/-- Why a default value is left out. -/
def defaultNotice? (c : Column) (table value : String) : Option Notice :=
  if !DefaultValue.isProperlyFormatted value then
    some (.defaultMalformed value table c.columnName)
  else if !DefaultValue.isValid c.fieldType c.encoding value then
    some (.defaultInvalid value table c.columnName c.fieldType.label)
  else none

/-- The warnings about the default value of a column. -/
def defaultNotices (c : Column) (table : String) : List Notice :=
  match c.consideredDefault with
  | some value => (c.defaultNotice? table value).toList
  | none => []

/-- The DEFAULT clause of a column. -/
def defaultClause (c : Column) (table : String) : String :=
  match c.consideredDefault with
  | some value => if (c.defaultNotice? table value).isNone then " DEFAULT " ++ value else ""
  | none => ""

/-- The definition of a column. -/
def definitionFragments (c : Column) (table : String) (d : Dialect) : List Fragment :=
  let type := c.spelledType d
  [.column c.columnName, .text " ", .text type.dataType, .text c.lengthText,
    .text (match type.clause with
      | some clause => " " ++ clause
      | none => ""),
    .text (if c.allowNull then "" else " NOT NULL"), .text (c.defaultClause table)]

end Column

namespace TableDefinition

variable {M : Type}

/-- The clause that lists the primary key. -/
def keyClause (d : TableDefinition M) : List Fragment :=
  if d.hasPrimaryKey then .text ", PRIMARY KEY(" :: columnFragments d.primaryKey ++ [.text ")"]
  else []

/-- The statement that creates the table. -/
def createTableFragments (d : TableDefinition M) (dialect : Dialect) : List Fragment :=
  [.text (dialect.createTableWords (d.memoryTable && dialect.hasMemoryTables)), .text " ",
    .table d.schemaName d.tableName, .text "("] ++
    separated ", " (d.fields.map fun f => f.toColumn.definitionFragments d.tableName dialect) ++
    d.keyClause ++ [.text ")"]

/-- The statement that creates the table. -/
def createTableStatement (d : TableDefinition M) (dialect : Dialect) : Statement :=
  dialect.statement (d.createTableFragments dialect)

/-- The warnings about the columns of the table. -/
def createTableNotices (d : TableDefinition M) : List Notice :=
  d.fields.flatMap fun f => f.toColumn.defaultNotices d.tableName

/-- The statement that creates an index. -/
def createIndexStatement (d : TableDefinition M) (i : IndexDefinition) (dialect : Dialect) :
    Statement :=
  Statement.raw (dialect.createIndexSql d.schemaName d.tableName i)

/-- The statement that creates the table, and those of its indexes. -/
def createStatements (d : TableDefinition M) (dialect : Dialect) : List Statement :=
  d.createTableStatement dialect :: d.indexes.map fun i => d.createIndexStatement i dialect

/-- The warnings about the table and its indexes. -/
def createNotices (d : TableDefinition M) (dialect : Dialect) : List Notice :=
  d.createTableNotices ++ d.indexes.flatMap dialect.indexNotices

end TableDefinition
end TableMapping
