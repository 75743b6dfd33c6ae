import TableMapping.Sql.Dialect

/-!
# Statements

A statement is a text with placeholders and the values bound to them in order.  It is put
together from fragments: plain text, names of columns and tables, and values.  The dialect
quotes the names and numbers the placeholders, so a placeholder always carries the position
of its value.

* `Fragment` is one piece, and `StatementBuilder.add` appends one;
* `Dialect.statement` is the statement of a list of fragments;
* `separated` puts a separator between the parts of a list.
-/

namespace TableMapping

/-- A finished statement. -/
structure Statement where
  sql : String
  params : List Value

/-- A statement without values. -/
def Statement.raw (sql : String) : Statement := ⟨sql, []⟩

/-- A piece of a statement. -/
inductive Fragment where
  /-- Text that is written as it is. -/
  | text (s : String)
  /-- The name of a column. -/
  | column (name : String)
  /-- The name of a table with its schema. -/
  | table (schema : Option String) (name : String)
  /-- A value: its placeholder is written and the value is bound. -/
  | param (v : Value)

/-- A statement that is being put together. -/
structure StatementBuilder where
  dialect : Dialect
  sql : String
  params : List Value
  /-- The number of list items since the last reset. -/
  count : Nat

namespace StatementBuilder

/-- A statement of which nothing is written yet. -/
def start (dialect : Dialect) : StatementBuilder := ⟨dialect, "", [], 0⟩

/-- Append text. -/
def append (b : StatementBuilder) (s : String) : StatementBuilder :=
  { b with sql := b.sql ++ s }

/-- Append a value: its placeholder has the position of the value. -/
def pushParam (b : StatementBuilder) (v : Value) : StatementBuilder :=
  { b with
    sql := b.sql ++ b.dialect.placeholder (b.params.length + 1)
    params := b.params ++ [v] }

/-- Append a fragment. -/
def add (b : StatementBuilder) : Fragment → StatementBuilder
  | .text s => b.append s
  | .column name => b.append (b.dialect.identifier name)
  | .table schema name => b.append (b.dialect.qualified schema name)
  | .param v => b.pushParam v

/-- Append fragments in order. -/
def addAll (b : StatementBuilder) (fs : List Fragment) : StatementBuilder :=
  fs.foldl add b

/-- Append text on every call but the first since the last reset: a separator of a list that is
written item by item. -/
def appendExceptFirst (b : StatementBuilder) (s : String) : StatementBuilder :=
  let b' := if b.count > 0 then b.append s else b
  { b' with count := b.count + 1 }

/-- Start a new list. -/
def resetCount (b : StatementBuilder) : StatementBuilder :=
  { b with count := 0 }

/-- The finished statement. -/
def build (b : StatementBuilder) : Statement := ⟨b.sql, b.params⟩

end StatementBuilder

/-- The statement that fragments make. -/
def Dialect.statement (d : Dialect) (fs : List Fragment) : Statement :=
  ((StatementBuilder.start d).addAll fs).build

/-- Parts with a separator between them. -/
def separated (separator : String) : List (List Fragment) → List Fragment
  | [] => []
  | [part] => part
  | part :: parts => part ++ .text separator :: separated separator parts

/-- Names of columns with commas between them. -/
def columnFragments (columns : List String) : List Fragment :=
  separated ", " (columns.map fun c => [.column c])

/-- Values with commas between them. -/
def valueFragments (values : List Value) : List Fragment :=
  separated ", " (values.map fun v => [.param v])

end TableMapping
