import TableMapping.Query.Query

/-!
# Statements that write one object

Insertion, update, deletion and merge of one object.  Update, deletion and merge go by the
primary key and refuse a definition without one before any value is converted.

A generated key that is left to the engine, an auto-increment field that is NULL or zero,
takes no part in an insertion.  A table that consists of its key alone is updated by writing
the key again.
-/

namespace TableMapping

/-- The statements of one merge. -/
inductive MergePlan where
  | native (s : Statement)
  /-- Count by key, then update or insert. -/
  | emulated (probe update insert : Statement)

/-- All statements of a plan. -/
def MergePlan.statements : MergePlan → List Statement
  | native s => [s]
  | emulated probe update insert => [probe, update, insert]

namespace TableDefinition

variable {M : Type}

/-- Refuse a definition without primary key. -/
def requireKey (d : TableDefinition M) (operation : String) : Except MappingError Unit :=
  if d.hasPrimaryKey then .ok () else .error (.noPrimaryKey d.tableName operation)

/-- The columns and stored values of fields, each converted once and in order. -/
def storedValues (m : M) : List (MappedField M) → Mapping (List (MappedField M × Value))
  | [] => pure []
  | f :: fs => do
    let v ← f.storageValue m
    let rest ← storedValues m fs
    return (f, v) :: rest

/-- Whether a stored value is left to the engine to generate. -/
def isGenerated (f : MappedField M) (v : Value) : Bool :=
  f.isAutoIncrement && (v.isNull || v.integer? == some 0)

/-- The columns of fields and values. -/
def columnsOf (fvs : List (MappedField M × Value)) : List String :=
  fvs.map fun fv => fv.1.columnName

/-- The head of an insertion: the table and its columns. -/
def insertHead (d : TableDefinition M) (words : String) (columns : List String) : List Fragment :=
  [.text words, .text " ", .table d.schemaName d.tableName, .text " ("] ++ columnFragments columns ++
    [.text ")"]

/-- The values of an insertion. -/
def valuesClause (values : List Value) : List Fragment :=
  .text " VALUES(" :: valueFragments values ++ [.text ")"]

/-- An insertion of fields and values. -/
def insertRow (d : TableDefinition M) (words : String) (fvs : List (MappedField M × Value)) :
    List Fragment :=
  d.insertHead words (columnsOf fvs) ++ valuesClause (fvs.map (·.2))

/-- The fields and values that an insertion lists. -/
def insertedValues (d : TableDefinition M) (m : M) : Mapping (List (MappedField M × Value)) := do
  let fvs ← storedValues m d.fields
  return fvs.filter fun fv => !isGenerated fv.1 fv.2

/-- `INSERT INTO t (…) VALUES(…)`. -/
def insertFragments (d : TableDefinition M) (m : M) : Mapping (List Fragment) := do
  return d.insertRow "INSERT INTO" (← d.insertedValues m)

/-- One equality per key field, the columns looked up by the handles of a fresh alias. -/
def keyValues (a : Alias M) (m : M) : List (MappedField M) → Mapping (List (String × Value))
  | [] => pure []
  | f :: fs => do
    let g ← Mapping.ofExcept (a.resolve (a.handleOf f))
    let v ← g.storageValue m
    let rest ← keyValues a m fs
    return (g.columnName, v) :: rest

/-- The conditions that find the row of an object. -/
def keyConditions (d : TableDefinition M) (m : M) : Mapping (List Condition) := do
  let a ← Alias.materialize d
  return equalities (← keyValues a m d.keyFields)

/-- The fields that an update sets: those outside the key, or the key when there are none. -/
def updatedFields (d : TableDefinition M) : List (MappedField M) :=
  if d.otherFields.isEmpty then d.keyFields else d.otherFields

/-- `UPDATE t SET … WHERE …`. -/
def updateFragments (d : TableDefinition M) (m : M) : Mapping (List Fragment) := do
  Mapping.ofExcept (d.requireKey "update")
  let fvs ← storedValues m d.updatedFields
  let conditions ← d.keyConditions m
  return [.text "UPDATE ", .table d.schemaName d.tableName, .text " SET "] ++
    separated ", " (fvs.map fun fv => [.column fv.1.columnName, .text " = ", .param fv.2]) ++
    whereClause conditions

/-- `DELETE FROM t WHERE …`. -/
def deleteFragments (d : TableDefinition M) (m : M) : Mapping (List Fragment) := do
  Mapping.ofExcept (d.requireKey "delete")
  let conditions ← d.keyConditions m
  return [.text "DELETE FROM ", .table d.schemaName d.tableName] ++ whereClause conditions

/-- The statement that counts the rows with the key of an object. -/
def probeFragments (d : TableDefinition M) (m : M) : Mapping (List Fragment) := do
  let conditions ← d.keyConditions m
  return [.text "SELECT COUNT(*) FROM ", .table d.schemaName d.tableName] ++ whereClause conditions

/-- What a merge does in an engine that has a statement for it, given the fields and values of
the object. -/
def mergeRow (d : TableDefinition M) (strategy : MergeStrategy) (fvs : List (MappedField M × Value)) :
    List Fragment :=
  let others := d.otherFields.map fun f => f.columnName
  match strategy with
  | .mergeKey =>
    d.insertHead "MERGE INTO" (columnsOf fvs) ++ .text " KEY(" :: columnFragments d.primaryKey ++
      .text ")" :: valuesClause (fvs.map (·.2))
  | .insertOrReplace => d.insertRow "INSERT OR REPLACE INTO" fvs
  | .onDuplicateKeyUpdate =>
    let updated := if others.isEmpty then d.primaryKey else others
    d.insertRow "INSERT INTO" fvs ++ .text " ON DUPLICATE KEY UPDATE " ::
      separated ", " (updated.map fun c => [.column c, .text " = VALUES(", .column c, .text ")"])
  | .onConflictDoUpdate =>
    d.insertRow "INSERT INTO" fvs ++ .text " ON CONFLICT(" :: columnFragments d.primaryKey ++
      .text ")" ::
      (if others.isEmpty then [.text " DO NOTHING"]
        else
          .text " DO UPDATE SET " ::
            separated ", " (others.map fun c => [.column c, .text " = EXCLUDED.", .column c]))
  | .emulated => []

/-- The statement that inserts an object. -/
def insertStatement (d : TableDefinition M) (m : M) (dialect : Dialect) : Mapping Statement := do
  return dialect.statement (← d.insertFragments m)

/-- The statement that updates an object. -/
def updateStatement (d : TableDefinition M) (m : M) (dialect : Dialect) : Mapping Statement := do
  return dialect.statement (← d.updateFragments m)

/-- The statement that deletes an object. -/
def deleteStatement (d : TableDefinition M) (m : M) (dialect : Dialect) : Mapping Statement := do
  return dialect.statement (← d.deleteFragments m)

/-- The statements that merge an object.  Every field is converted first, also where the
statements of an emulated merge convert them again. -/
def mergePlan (d : TableDefinition M) (m : M) (dialect : Dialect) : Mapping MergePlan := do
  Mapping.ofExcept (d.requireKey "merge")
  let fvs ← storedValues m d.fields
  match dialect.mergeStrategy with
  | .emulated =>
    let probe ← d.probeFragments m
    let update ← d.updateStatement m dialect
    let insert ← d.insertStatement m dialect
    return .emulated (dialect.statement probe) update insert
  | strategy => return .native (dialect.statement (d.mergeRow strategy fvs))

end TableDefinition
end TableMapping
