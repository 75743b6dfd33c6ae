import TableMapping.Adapter
import TableMapping.FieldValue

/-!
# Columns

A column is one mapped field as the engine sees it: its name, its data type and limits, and
how values travel between the field and the column.

On the way to storage an adapter comes first, then the encoding of enumerations, then the
cutting of texts.  The way back is the adapter, or the enumeration, or coercion to the type
of the field.
-/

namespace TableMapping

/-- A column and the field it is mapped from. -/
structure Column where
  columnName : String
  fieldName : String
  fieldType : FieldType
  /-- The data type before an engine spells it. -/
  dataType : String
  /-- The greatest length of a text; zero is no limit. -/
  maxLength : Nat
  isPrimaryKey : Bool
  isAutoIncrement : Bool
  /-- Whether longer texts are cut. -/
  trim : Bool
  allowNull : Bool
  defaultValue : Option String
  /-- The encoding, for fields of an enumeration. -/
  encoding : Option Encoding
  /-- The position of the field among the declared fields. -/
  declaredIndex : Nat
  /-- The definition this column belongs to. -/
  build : Nat
  adapter : Option Adapter

namespace Column

/-- Which adapter the column has. -/
def slot (c : Column) : AdapterSlot :=
  ⟨c.build, c.declaredIndex⟩

/-- The encoding of the members in this column. -/
def effectiveEncoding (c : Column) : Encoding :=
  c.encoding.getD .standard

/-- What an adapter is given: a plain value, or the name of a member. -/
def adapterInput : FieldValue → Value
  | .plain v => v
  | .member (some m) => .text m.name
  | .member none => .null .string

/-- The stored form of a field value in a column without adapter. -/
def encode (c : Column) : FieldValue → Except MappingError Value
  | .member (some m) => m.encode c.effectiveEncoding c.trim c.maxLength c.columnName
  | .member none =>
    .ok (match c.effectiveEncoding with
      | .name => .null .string
      | _ => .null .int)
  | .plain (.of (.string s)) => .ok (.text (cutText c.trim c.maxLength s))
  | .plain v => .ok v

/-- The field value that a stored value stands for in a column without adapter. -/
def decode (c : Column) (raw : Value) : Except MappingError FieldValue :=
  match c.fieldType with
  | .enumeration e => (Member.decode e c.effectiveEncoding raw).map .member
  | t =>
    match raw.coerce t with
    | .ok v => .ok (.plain v)
    | .error reason => .error (.conversion c.columnName reason)

/-- The field value that an adapter's answer stands for: members travel by name. -/
def ofAdapterOutput (c : Column) (v : Value) : Except MappingError FieldValue :=
  match c.fieldType with
  | .enumeration e => (Member.decode e .name v).map .member
  | _ => .ok (.plain v)

/-- Convert a field value to the value bound for the column. -/
def toStorage (c : Column) (x : FieldValue) : Mapping Value :=
  match c.adapter with
  | some a => Mapping.serialize c.slot a (adapterInput x)
  | none => Mapping.ofExcept (c.encode x)

/-- Convert a value of the column back to a field value. -/
def fromStorage (c : Column) (raw : Value) : Mapping FieldValue :=
  match c.adapter with
  | some a => do
    let v ← Mapping.deserialize c.slot a raw
    Mapping.ofExcept (c.ofAdapterOutput v)
  | none => Mapping.ofExcept (c.decode raw)

variable {c : Column}

theorem decode_of_enumeration {e : Enumeration} (h : c.fieldType = .enumeration e) (raw : Value) :
    c.decode raw = (Member.decode e c.effectiveEncoding raw).map .member := by
  unfold decode
  rw [h]

theorem decode_of_ne_enumeration (h : ∀ e, c.fieldType ≠ .enumeration e) (raw : Value) :
    c.decode raw =
      match raw.coerce c.fieldType with
      | .ok v => .ok (.plain v)
      | .error reason => .error (.conversion c.columnName reason) := by
  unfold decode
  split
  · rename_i e he
    exact absurd he (h e)
  · rfl

theorem fromStorage_of_plain (h : c.adapter = none) (raw : Value) :
    c.fromStorage raw = Mapping.ofExcept (c.decode raw) := by
  rw [fromStorage, h]

end Column
end TableMapping
