import TableMapping.Enumeration
import TableMapping.Value.Coercion

/-!
# Field values

A field value is what a field of an object holds on its way to or from its column: a plain
value, or a member of an enumeration, which may be absent.

`Storable` says how a type of the application is written as a value and read from one.  An
optional type is read from any NULL that the mapping knows, and a plain type from none.
-/

namespace TableMapping

/-- What a field holds. -/
inductive FieldValue where
  | plain (v : Value)
  | member (m : Option Member)

/-- A type whose values are stored in columns. -/
class Storable (T : Type) where
  /-- The field type of fields of this type. -/
  fieldType : FieldType
  toValue : T → Value
  /-- The value of this type, when it is one. -/
  ofValue? : Value → Option T

instance : Storable Bool where
  fieldType := .bool
  toValue b := .of (.bool b)
  ofValue?
    | .of (.bool b) => some b
    | _ => none

instance : Storable Int8 where
  fieldType := .tinyInt
  toValue n := .of (.tinyInt n)
  ofValue?
    | .of (.tinyInt n) => some n
    | _ => none

instance : Storable Int16 where
  fieldType := .smallInt
  toValue n := .of (.smallInt n)
  ofValue?
    | .of (.smallInt n) => some n
    | _ => none

instance : Storable Int32 where
  fieldType := .int
  toValue n := .of (.int n)
  ofValue?
    | .of (.int n) => some n
    | _ => none

instance : Storable Int64 where
  fieldType := .bigInt
  toValue n := .of (.bigInt n)
  ofValue?
    | .of (.bigInt n) => some n
    | _ => none

instance : Storable Float32 where
  fieldType := .float
  toValue x := .of (.float x)
  ofValue?
    | .of (.float x) => some x
    | _ => none

instance : Storable Float where
  fieldType := .double
  toValue x := .of (.double x)
  ofValue?
    | .of (.double x) => some x
    | _ => none

instance : Storable FixedPoint where
  fieldType := .decimal
  toValue d := .of (.decimal d)
  ofValue?
    | .of (.decimal d) => some d
    | _ => none

instance : Storable String where
  fieldType := .string
  toValue s := .of (.string s)
  ofValue?
    | .of (.string s) => some s
    | _ => none

instance : Storable ByteArray where
  fieldType := .bytes
  toValue b := .of (.bytes b)
  ofValue?
    | .of (.bytes b) => some b
    | _ => none

instance : Storable Calendar.Date where
  fieldType := .date
  toValue d := .of (.date d)
  ofValue?
    | .of (.date d) => some d
    | _ => none

instance : Storable Calendar.Time where
  fieldType := .time
  toValue t := .of (.time t)
  ofValue?
    | .of (.time t) => some t
    | _ => none

instance : Storable Calendar.DateTime where
  fieldType := .dateTime
  toValue x := .of (.dateTime x)
  ofValue?
    | .of (.dateTime x) => some x
    | _ => none

instance : Storable Uuid where
  fieldType := .uuid
  toValue u := .of (.uuid u)
  ofValue?
    | .of (.uuid u) => some u
    | _ => none

instance : Storable Json where
  fieldType := .json
  toValue j := .of (.json j)
  ofValue?
    | .of (.json j) => some j
    | _ => none

instance {T : Type} [Storable T] : Storable (Option T) where
  fieldType := Storable.fieldType T
  toValue
    | some x => Storable.toValue x
    | none => (Storable.fieldType T).null
  ofValue? v := if v.isNull then some none else (Storable.ofValue? v).map some

namespace FieldValue

/-- The value of a type that a field value holds. -/
def toTyped (T : Type) [Storable T] (column : String) : FieldValue → Except MappingError T
  | plain v =>
    match Storable.ofValue? v with
    | some x => .ok x
    | none => .error (.conversion column (.notA v (Storable.fieldType T).label))
  | member _ => .error (.conversion column .memberForPlainField)

end FieldValue
end TableMapping
