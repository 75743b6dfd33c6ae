import TableMapping.Column

/-!
# Model schemas

A model describes itself by a schema: options of its table, its indexes, and one `FieldSpec`
per declared field with the options of its column and the accessors that read it from an
object and write it into one.

Fields come in four sorts: a `value` of a storable type, a member of an `enumeration`, a
`text` form of a type outside the type table, and a `document`.  A model may embed a parent
whose own fields it inherits; `FieldSpec.lift` carries a field of the parent over to the
enclosing model.
-/

namespace TableMapping

/-- What an index enforces and how it is organised. -/
inductive IndexKind where
  | standard
  | unique
  | hash
  | uniqueHash
  deriving DecidableEq, Repr

instance : Labelled IndexKind where
  label
    | .standard => "Standard"
    | .unique => "Unique"
    | .hash => "Hash"
    | .uniqueHash => "UniqueHash"
  all := [.standard, .unique, .hash, .uniqueHash]
  find_label k := by cases k <;> decide

/-- Options of a table.  Their presence makes the mapping follow options rather than the
visibility of the fields. -/
structure TableOptions where
  /-- The table's name; the model's name without it. -/
  name : Option String := none
  /-- The columns of the primary key, between commas and blanks; the flagged fields without
  it. -/
  primaryKey : Option String := none
  /-- Whether the fields of the embedded parent are mapped too. -/
  inheritColumns : Bool := false
  /-- Whether table and indexes are created on first use. -/
  createIfRequired : Bool := true
  /-- Whether a type outside the type table is refused. -/
  strictTypeMapping : Bool := true
  /-- Whether only fields with column options are mapped. -/
  annotationsOnly : Bool := true
  /-- Whether the table is kept in memory by engines that can. -/
  memoryTable : Bool := false

/-- Options of a column. -/
structure ColumnOptions where
  /-- The column's name; the field's name without it. -/
  name : Option String := none
  primaryKey : Bool := false
  autoIncrement : Bool := false
  /-- The greatest length of a text; zero is no limit. -/
  length : Nat := 0
  /-- Whether longer texts are cut when they are written. -/
  trim : Bool := false
  nullable : Bool := true
  /-- The literal or function of the DEFAULT clause. -/
  defaultValue : Option String := none

/-- A declared index. -/
structure IndexOptions where
  /-- The index's name; generated without it. -/
  name : Option String := none
  kind : IndexKind := .standard
  columns : List String := []

/-- A type outside the type table that is stored as text. -/
structure TextForm (T : Type) where
  /-- The name of the type in messages. -/
  label : String
  write : T → String
  read? : String → Option T

/-- A type that is stored as a document. -/
structure DocumentForm (T : Type) where
  /-- The document of a value, when it has one. -/
  write? : T → Option Json
  read? : Json → Option T

/-- A declared field of a model. -/
structure FieldSpec (M : Type) where
  name : String
  isPublic : Bool
  fieldType : FieldType
  column : Option ColumnOptions
  /-- The encoding this field chooses for its enumeration. -/
  encoding : Option Encoding
  adapter : Option Adapter
  /-- Read the field from an object. -/
  get : M → Except MappingError FieldValue
  /-- Write the field into an object. -/
  set : FieldValue → M → Except MappingError M

namespace FieldSpec

variable {M : Type}

/-- A public field with these accessors and nothing chosen. -/
def ofAccessors (name : String) (fieldType : FieldType) (get : M → Except MappingError FieldValue)
    (set : FieldValue → M → Except MappingError M) : FieldSpec M :=
  ⟨name, true, fieldType, none, none, none, get, set⟩

/-- A field of a storable type. -/
def value (T : Type) [Storable T] (name : String) (get : M → T) (set : T → M → M) : FieldSpec M :=
  ofAccessors name (Storable.fieldType T)
    (fun m => .ok (.plain (Storable.toValue (get m))))
    (fun v m => do return set (← v.toTyped T name) m)

/-- A field that holds a member of an enumeration.  An absent member leaves the object as it
is. -/
def enumeration {E : Type} (t : EnumerationType E) (name : String) (get : M → E)
    (set : E → M → M) : FieldSpec M :=
  ofAccessors name (.enumeration t.enumeration)
    (fun m => do return .member (some (← Member.ofTyped t (get m))))
    (fun v m =>
      match v with
      | .member (some x) => do return set (← x.toTyped t) m
      | .member none => .ok m
      | .plain v => .error (.conversion name (.notMember v t.enumeration.name)))

/-- A field of a type outside the type table, written and read as text.  An absent text
leaves the object as it is. -/
def text {T : Type} (form : TextForm T) (name : String) (get : M → T) (set : T → M → M) :
    FieldSpec M :=
  ofAccessors name (.other form.label)
    (fun m => .ok (.plain (.text (form.write (get m)))))
    (fun v m => do
      match ← v.toTyped (Option String) name with
      | none => return m
      | some s =>
        match form.read? s with
        | some x => return set x m
        | none => throw (.conversion name (.invalidText s form.label)))

/-- A field that is carried as a document.  An absent document leaves the object as it is. -/
def document {T : Type} (form : DocumentForm T) (name : String) (get : M → T) (set : T → M → M) :
    FieldSpec M :=
  ofAccessors name .json
    (fun m =>
      match form.write? (get m) with
      | some j => .ok (.plain (.of (.json j)))
      | none => .error (.conversion name (.malformed "document")))
    (fun v m => do
      match ← v.toTyped (Option Json) name with
      | none => return m
      | some j =>
        match form.read? j with
        | some x => return set x m
        | none => throw (.conversion name (.malformed "document")))

/-- The field, not public. -/
def asPrivate (f : FieldSpec M) : FieldSpec M :=
  { f with isPublic := false }

/-- The field with column options. -/
def withColumn (f : FieldSpec M) (options : ColumnOptions) : FieldSpec M :=
  { f with column := some options }

/-- The field with an encoding of its own. -/
def withEncoding (f : FieldSpec M) (encoding : Encoding) : FieldSpec M :=
  { f with encoding := some encoding }

/-- The field with an adapter. -/
def withAdapter (f : FieldSpec M) (a : Adapter) : FieldSpec M :=
  { f with adapter := some a }

/-- The field of an embedded object as a field of the object around it. -/
def lift {P : Type} (f : FieldSpec M) (inner : P → M) (put : M → P → P) : FieldSpec P :=
  { f with
    get := fun p => f.get (inner p)
    set := fun v p => do return put (← f.set v (inner p)) p }

end FieldSpec

/-- The description of a model. -/
structure ModelSchema (M : Type) where
  modelName : String
  table : Option TableOptions
  schemaName : Option String
  /-- The declared version; versions from one on are checked against the stored one. -/
  version : Int32
  indexes : List IndexOptions
  /-- The model's own declared fields. -/
  fields : List (FieldSpec M)
  /-- The fields of the embedded parent. -/
  parentFields : List (FieldSpec M)
  /-- The object that rows are read into. -/
  blank : M

namespace ModelSchema

variable {M : Type}

/-- A model with a name and nothing else. -/
def named (modelName : String) (blank : M) : ModelSchema M :=
  ⟨modelName, none, none, 0, [], [], [], blank⟩

/-- The schema with table options. -/
def withTable (s : ModelSchema M) (options : TableOptions) : ModelSchema M :=
  { s with table := some options }

/-- The schema with a schema name for its table. -/
def withSchemaName (s : ModelSchema M) (name : String) : ModelSchema M :=
  { s with schemaName := some name }

/-- The schema with a version. -/
def withVersion (s : ModelSchema M) (version : Int32) : ModelSchema M :=
  { s with version := version }

/-- The schema with one more index. -/
def addIndex (s : ModelSchema M) (index : IndexOptions) : ModelSchema M :=
  { s with indexes := s.indexes ++ [index] }

/-- The schema with one more field. -/
def addField (s : ModelSchema M) (field : FieldSpec M) : ModelSchema M :=
  { s with fields := s.fields ++ [field] }

/-- The schema with the own fields of an embedded parent.  What the parent inherits itself is
not considered. -/
def inherit {P : Type} (s : ModelSchema M) (parent : ModelSchema P) (inner : M → P)
    (put : P → M → M) : ModelSchema M :=
  { s with parentFields := parent.fields.map fun f => f.lift inner put }

/-- All declared fields, the model's own before the parent's. -/
def declaredFields (s : ModelSchema M) : List (FieldSpec M) :=
  s.fields ++ s.parentFields

/-- The number of declared fields. -/
def declaredLength (s : ModelSchema M) : Nat :=
  s.declaredFields.length

end ModelSchema
end TableMapping
