import TableMapping.Value.Basic

/-!
# Enumerations and field types

An enumeration is a named list of members, each with an optional identifier of its own.  A
member is written to a column by name, by position or by identifier; the enumeration may
say which, and a field may say otherwise.

A field type is what a field is declared with: one of the types of the type table, an
enumeration, or a type outside the table that is known by its name only.
-/

namespace TableMapping

/-- How a member of an enumeration is written to its column. -/
inductive Encoding where
  /-- By name. -/
  | name
  /-- By position, counted from zero. -/
  | ordinal
  /-- By the identifier the enumeration gives the member. -/
  | id
  deriving DecidableEq, Repr

instance : Labelled Encoding where
  label
    | .name => "Name"
    | .ordinal => "Ordinal"
    | .id => "EnumId"
  all := [.name, .ordinal, .id]
  find_label e := by cases e <;> decide

/-- The encoding where neither the field nor its enumeration chooses one: by name. -/
def Encoding.standard : Encoding := .name

/-- A declared member of an enumeration. -/
structure MemberDeclaration where
  name : String
  id : Option Int32
  deriving DecidableEq

/-- A declared enumeration. -/
structure Enumeration where
  name : String
  /-- The encoding of every field of this type that does not choose its own. -/
  defaultEncoding : Option Encoding
  members : List MemberDeclaration
  deriving DecidableEq

namespace Enumeration

/-- The position of the first member with this name. -/
def ordinalOf? (e : Enumeration) (name : String) : Option Nat :=
  e.members.findIdx? fun m => m.name == name

end Enumeration

/-- What a field is declared with. -/
inductive FieldType where
  | bool
  | tinyInt
  | smallInt
  | int
  | bigInt
  | float
  | double
  | decimal
  | string
  | bytes
  | date
  | time
  | dateTime
  | uuid
  | json
  | enumeration (e : Enumeration)
  /-- A type outside the table, known by its name. -/
  | other (name : String)
  deriving DecidableEq

namespace FieldType

/-- The kind of the values of a field type. -/
def kind : FieldType → Kind
  | bool => .bool
  | tinyInt => .tinyInt
  | smallInt => .smallInt
  | int => .int
  | bigInt => .bigInt
  | float => .float
  | double => .double
  | decimal => .decimal
  | string => .string
  | bytes => .bytes
  | date => .date
  | time => .time
  | dateTime => .dateTime
  | uuid => .uuid
  | json => .json
  | enumeration _ => .string
  | other _ => .string

/-- The NULL of a field type. -/
def null (t : FieldType) : Value :=
  .null t.kind

/-- The name of a field type in messages. -/
def label : FieldType → String
  | bool => "bool"
  | tinyInt => "i8"
  | smallInt => "i16"
  | int => "i32"
  | bigInt => "i64"
  | float => "f32"
  | double => "f64"
  | decimal => "Decimal"
  | string => "String"
  | bytes => "Vec<u8>"
  | date => "NaiveDate"
  | time => "NaiveTime"
  | dateTime => "NaiveDateTime"
  | uuid => "Uuid"
  | json => "serde_json::Value"
  | enumeration e => e.name
  | other name => name

/-- Whether the values of a field type are numbers. -/
def isNumeric : FieldType → Bool
  | tinyInt | smallInt | int | bigInt | float | double | decimal => true
  | _ => false

end FieldType
end TableMapping
