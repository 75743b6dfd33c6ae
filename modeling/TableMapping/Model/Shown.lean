import TableMapping.Model.Definition

/-!
# Definitions in messages

The form in which definitions appear in traces: the name of the type and its parts in
braces.
-/

namespace TableMapping
namespace Shown

/-- A truth value. -/
def bool (b : Bool) : String :=
  if b then "true" else "false"

/-- An optional part. -/
def optional {α : Type} (one : α → String) : Option α → String
  | some x => "Some(" ++ one x ++ ")"
  | none => "None"

/-- A list of parts. -/
def list {α : Type} (one : α → String) (xs : List α) : String :=
  "[" ++ ", ".intercalate (xs.map one) ++ "]"

/-- A type with named parts. -/
def parts (name : String) (ps : List (String × String)) : String :=
  name ++ " \x7b " ++ ", ".intercalate (ps.map fun p => p.1 ++ ": " ++ p.2) ++ " \x7d"

/-- A column. -/
def column (c : Column) : String :=
  parts "FieldDefinition"
    [("column_name", Text.quoted c.columnName), ("field_name", Text.quoted c.fieldName),
      ("data_type", Text.quoted c.dataType), ("max_length", Numeral.ofNat c.maxLength),
      ("is_primary_key", bool c.isPrimaryKey), ("is_auto_increment", bool c.isAutoIncrement),
      ("allow_null", bool c.allowNull), ("enum_type", optional Labelled.label c.encoding)]

/-- An index. -/
def index (i : IndexDefinition) : String :=
  parts "IndexDefinition"
    [("kind", Labelled.label i.kind), ("name", Text.quoted i.name),
      ("column_names", list Text.quoted i.columnNames)]

/-- A table definition. -/
def table {M : Type} (d : TableDefinition M) : String :=
  parts "TableDefinition"
    [("schema_name", optional Text.quoted d.schemaName), ("table_name", Text.quoted d.tableName),
      ("version", Numeral.ofInt d.version.toInt),
      ("fields", list (fun f => column f.toColumn) d.fields),
      ("primary_key", list Text.quoted d.primaryKey), ("indexes", list index d.indexes)]

/-- A field key. -/
def fieldKey (index : Nat) : String :=
  "FieldKey(" ++ Numeral.ofNat index ++ ")"

end Shown
end TableMapping
