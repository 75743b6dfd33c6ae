import TableMapping.Model.DataType
import TableMapping.Model.Schema

/-!
# Table definitions

A definition is the mapping of one model to one table: the mapped fields in the order of
their declaration, the primary key and the indexes.  `ModelSchema.define` builds it and
refuses a schema with the first of these faults:

* going through the mapped fields, a type that strict mapping does not allow, or a column
  name that an earlier field has, ASCII case aside;
* a primary key column that no field is mapped to;
* going through the indexes, a name that an earlier index has, or a column that no field is
  mapped to.
-/

namespace TableMapping

/-- A column with the accessors of its field. -/
structure MappedField (M : Type) extends Column where
  /-- Read the field from an object. -/
  get : M → Except MappingError FieldValue
  /-- Write the field into an object. -/
  set : FieldValue → M → Except MappingError M

namespace MappedField

variable {M : Type}

/-- Read the field from an object and convert it to the value of its column. -/
def storageValue (f : MappedField M) (m : M) : Mapping Value := do
  f.toStorage (← Mapping.ofExcept (f.get m))

/-- Convert a value of the column and write it into an object. -/
def setValue (f : MappedField M) (m : M) (raw : Value) : Mapping M := do
  let x ← f.fromStorage raw
  Mapping.ofExcept (f.set x m)

end MappedField

/-- A secondary index. -/
structure IndexDefinition where
  kind : IndexKind
  name : String
  columnNames : List String
  deriving DecidableEq

/-- The mapping of a model to a table. -/
structure TableDefinition (M : Type) where
  modelName : String
  schemaName : Option String
  tableName : String
  version : Int32
  createIfRequired : Bool
  memoryTable : Bool
  /-- The mapped fields in the order of their declaration. -/
  fields : List (MappedField M)
  /-- The columns of the primary key. -/
  primaryKey : List String
  indexes : List IndexDefinition
  /-- The names of all declared fields, mapped or not. -/
  declared : List String
  /-- The object that rows are read into. -/
  blank : M

namespace TableDefinition

variable {M : Type}

/-- Whether there is a primary key. -/
def hasPrimaryKey (d : TableDefinition M) : Bool :=
  !d.primaryKey.isEmpty

/-- The fields of the primary key, in the order of their declaration. -/
def keyFields (d : TableDefinition M) : List (MappedField M) :=
  d.fields.filter fun f => f.isPrimaryKey

/-- The fields that are not in the primary key. -/
def otherFields (d : TableDefinition M) : List (MappedField M) :=
  d.fields.filter fun f => !f.isPrimaryKey

/-- The field mapped to a column, ASCII case aside. -/
def findField? (d : TableDefinition M) (column : String) : Option (MappedField M) :=
  d.fields.find? fun f => Text.sameName f.columnName column

/-- Read the values of a row into an object, from the first field on.  What is missing at
the end of the row stays as it was, and what is too much is dropped. -/
def readInto (m : M) : List (MappedField M) → List Value → Mapping M
  | f :: fs, v :: vs => do
    let m ← f.setValue m v
    readInto m fs vs
  | _, _ => pure m

/-- The object a row holds. -/
def readRow (d : TableDefinition M) (row : List Value) : Mapping M :=
  readInto d.blank d.fields row

end TableDefinition

namespace ModelSchema

variable {M : Type}

/-- The name of the table. -/
def tableName (s : ModelSchema M) : String :=
  (s.table.bind (·.name)).getD s.modelName

/-- Whether only fields with column options are mapped. -/
def annotationsOnly (s : ModelSchema M) : Bool :=
  s.table.any (·.annotationsOnly)

/-- Whether the fields of the parent are mapped. -/
def inheritsColumns (s : ModelSchema M) : Bool :=
  s.table.any (·.inheritColumns)

/-- Whether types outside the type table are refused. -/
def isStrict (s : ModelSchema M) : Bool :=
  s.table.any (·.strictTypeMapping)

/-- Whether a declared field is mapped: a field of the parent only where its columns are
inherited, and any field by its column options or, in the reflective mapping, by being
public. -/
def isMapped (s : ModelSchema M) (index : Nat) (f : FieldSpec M) : Bool :=
  (index < s.fields.length || s.inheritsColumns) &&
    (f.column.isSome || (!s.annotationsOnly && f.isPublic))

/-- The encoding of a field: its own, or that of its enumeration, or by name. -/
def encodingOf (f : FieldSpec M) : Option Encoding :=
  match f.fieldType with
  | .enumeration e => some ((f.encoding.or e.defaultEncoding).getD .standard)
  | _ => none

/-- The data type of a field's column: the adapter's, or that of the type table. -/
def dataTypeOf (s : ModelSchema M) (f : FieldSpec M) : Except MappingError String :=
  match f.adapter with
  | some a => .ok a.dataType
  | none =>
    match f.fieldType.dataType? (encodingOf f) with
    | some dataType => .ok dataType
    | none =>
      if s.isStrict then .error (.unsupportedType s.tableName f.name f.fieldType.label)
      else .ok fallbackDataType

/-- The column of a declared field. -/
def mapField (s : ModelSchema M) (build index : Nat) (f : FieldSpec M) :
    Except MappingError (MappedField M) := do
  let options := f.column.getD {}
  let dataType ← s.dataTypeOf f
  return {
    columnName := options.name.getD f.name
    fieldName := f.name
    fieldType := f.fieldType
    dataType := dataType
    maxLength := options.length
    isPrimaryKey := options.primaryKey
    isAutoIncrement := options.autoIncrement
    trim := options.trim
    allowNull := options.nullable
    defaultValue := options.defaultValue.filter fun d => !Text.isBlankText d
    encoding := encodingOf f
    declaredIndex := index
    build := build
    adapter := f.adapter
    get := f.get
    set := f.set
  }

/-- Map the declared fields from position `index` on, given the fields mapped before. -/
def mapFields (s : ModelSchema M) (build index : Nat) (earlier : List (MappedField M)) :
    List (FieldSpec M) → Except MappingError (List (MappedField M))
  | [] => .ok earlier
  | f :: fs =>
    if s.isMapped index f then do
      let field ← s.mapField build index f
      if earlier.any fun g => Text.sameName g.columnName field.columnName then
        throw (.duplicateColumn s.tableName field.columnName)
      else s.mapFields build (index + 1) (earlier ++ [field]) fs
    else s.mapFields build (index + 1) earlier fs

/-- The columns that names stand for, each spelled as it is mapped. -/
def resolveColumns (s : ModelSchema M) (context : String) (fields : List (MappedField M))
    (names : List String) : Except MappingError (List String) :=
  names.mapM fun name =>
    match fields.find? fun f => Text.sameName f.columnName name with
    | some f => .ok f.columnName
    | none => .error (.unknownColumn s.tableName name context)

/-- The names of the primary key columns: the table's list when it names any, else the
flagged fields. -/
def keyNames (s : ModelSchema M) (fields : List (MappedField M)) : List String :=
  match (s.table.bind (·.primaryKey)).map Text.columnNames with
  | some (name :: names) => name :: names
  | _ => (fields.filter fun f => f.isPrimaryKey).map fun f => f.columnName

/-- Flag exactly the fields whose column is in the primary key. -/
def flagKey (key : List String) (f : MappedField M) : MappedField M :=
  { f with isPrimaryKey := key.any fun k => Text.sameName k f.columnName }

/-- The name of an index: its own when it is not blank, else the table's name and the number
of earlier indexes. -/
def indexName (s : ModelSchema M) (earlier : Nat) (options : IndexOptions) : String :=
  (options.name.filter fun n => !Text.isBlankText n).getD
    (s.tableName ++ "_" ++ Numeral.ofNat earlier)

/-- Define the indexes, given those defined before. -/
def defineIndexes (s : ModelSchema M) (fields : List (MappedField M))
    (earlier : List IndexDefinition) : List IndexOptions → Except MappingError (List IndexDefinition)
  | [] => .ok earlier
  | options :: rest => do
    let name := s.indexName earlier.length options
    if earlier.any fun i => Text.sameName i.name name then
      throw (.duplicateIndex s.tableName name)
    else
      let columnNames ← s.resolveColumns "index" fields options.columns
      s.defineIndexes fields (earlier ++ [⟨options.kind, name, columnNames⟩]) rest

/-- Build the definition of a model. -/
def define (s : ModelSchema M) (build : Nat) : Except MappingError (TableDefinition M) := do
  let mapped ← s.mapFields build 0 [] s.declaredFields
  let key ← s.resolveColumns "primary key" mapped (s.keyNames mapped)
  let fields := mapped.map (flagKey key)
  let indexes ← s.defineIndexes fields [] s.indexes
  return {
    modelName := s.modelName
    schemaName := s.schemaName
    tableName := s.tableName
    version := s.version
    createIfRequired := s.table.all (·.createIfRequired)
    memoryTable := s.table.any (·.memoryTable)
    fields := fields
    primaryKey := key
    indexes := indexes
    declared := s.declaredFields.map fun f => f.name
    blank := s.blank
  }

end ModelSchema
end TableMapping
