import TableMapping.Model.Definition

/-!
# Version records

The stored version of each table is a record in a table of its own, which is mapped like any
other model.  Its key is the schema and the name of the table, the empty text standing for
no schema.
-/

namespace TableMapping

/-- The stored version of a table. -/
structure VersionRecord where
  schemaName : String
  tableName : String
  version : Int32
  deriving DecidableEq

namespace VersionRecord

/-- The table of the version records. -/
def table : String := "_tide_versions"

/-- The record that nothing is known of. -/
def blank : VersionRecord := ⟨"", "", 0⟩

/-- The options of a key column. -/
def keyColumn (name : String) : ColumnOptions :=
  { name := some name, length := 255, nullable := false }

/-- The model of the version records. -/
def schema : ModelSchema VersionRecord :=
  (ModelSchema.named "DbVersion" blank)
    |>.withTable { name := some table, primaryKey := some "schemaName, tableName" }
    |>.addField ((FieldSpec.value String "schema_name" (·.schemaName)
        (fun v r => { r with schemaName := v })).withColumn (keyColumn "schemaName"))
    |>.addField ((FieldSpec.value String "table_name" (·.tableName)
        (fun v r => { r with tableName := v })).withColumn (keyColumn "tableName"))
    |>.addField ((FieldSpec.value Int32 "version" (·.version)
        (fun v r => { r with version := v })).withColumn { nullable := false })

/-- The position of the schema's name among the fields. -/
def schemaNameField : Nat := 0

/-- The position of the table's name among the fields. -/
def tableNameField : Nat := 1

end VersionRecord
end TableMapping
