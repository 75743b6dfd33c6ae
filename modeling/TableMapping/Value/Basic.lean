import TableMapping.Calendar.Time
import TableMapping.Json.Printer
import TableMapping.Labelled
import TableMapping.Number.FixedPoint
import TableMapping.Text.Quoted
import TableMapping.Uuid

/-!
# Values

A value is what is bound to a statement or read from a row: a scalar of one of
twenty-one kinds, or the NULL of a kind.

`Value.isNull` is the mapping's own notion of NULL.  It covers the NULL of every kind but
one: a point in time with a zone is not a kind that fields are stored in, and its NULL
is treated like any other value that cannot be read.

`Value.shown` is the form of a value inside messages.
-/

namespace TableMapping

/-- The kinds of values. -/
inductive Kind where
  | bool
  | tinyInt
  | smallInt
  | int
  | bigInt
  | tinyUnsigned
  | smallUnsigned
  | unsigned
  | bigUnsigned
  | float
  | double
  | string
  | char
  | bytes
  | json
  | date
  | time
  | dateTime
  | dateTimeUtc
  | uuid
  | decimal
  deriving DecidableEq, Repr

namespace Kind

/-- The name of a kind in messages. -/
def label : Kind → String
  | bool => "Bool"
  | tinyInt => "TinyInt"
  | smallInt => "SmallInt"
  | int => "Int"
  | bigInt => "BigInt"
  | tinyUnsigned => "TinyUnsigned"
  | smallUnsigned => "SmallUnsigned"
  | unsigned => "Unsigned"
  | bigUnsigned => "BigUnsigned"
  | float => "Float"
  | double => "Double"
  | string => "String"
  | char => "Char"
  | bytes => "Bytes"
  | json => "Json"
  | date => "ChronoDate"
  | time => "ChronoTime"
  | dateTime => "ChronoDateTime"
  | dateTimeUtc => "ChronoDateTimeUtc"
  | uuid => "Uuid"
  | decimal => "Decimal"

/-- All kinds. -/
def all : List Kind :=
  [bool, tinyInt, smallInt, int, bigInt, tinyUnsigned, smallUnsigned, unsigned, bigUnsigned, float,
    double, string, char, bytes, json, date, time, dateTime, dateTimeUtc, uuid, decimal]

instance : Labelled Kind where
  label := label
  all := all
  find_label k := by cases k <;> decide

end Kind

/-- A value that is not NULL. -/
inductive Scalar where
  | bool (b : Bool)
  | tinyInt (n : Int8)
  | smallInt (n : Int16)
  | int (n : Int32)
  | bigInt (n : Int64)
  | tinyUnsigned (n : UInt8)
  | smallUnsigned (n : UInt16)
  | unsigned (n : UInt32)
  | bigUnsigned (n : UInt64)
  | float (x : Float32)
  | double (x : Float)
  | string (s : String)
  | char (c : Char)
  | bytes (b : ByteArray)
  | json (j : Json)
  | date (d : Calendar.Date)
  | time (t : Calendar.Time)
  | dateTime (x : Calendar.DateTime)
  | uuid (u : Uuid)
  | decimal (d : FixedPoint)

namespace Scalar

/-- The kind of a scalar. -/
def kind : Scalar → Kind
  | bool _ => .bool
  | tinyInt _ => .tinyInt
  | smallInt _ => .smallInt
  | int _ => .int
  | bigInt _ => .bigInt
  | tinyUnsigned _ => .tinyUnsigned
  | smallUnsigned _ => .smallUnsigned
  | unsigned _ => .unsigned
  | bigUnsigned _ => .bigUnsigned
  | float _ => .float
  | double _ => .double
  | string _ => .string
  | char _ => .char
  | bytes _ => .bytes
  | json _ => .json
  | date _ => .date
  | time _ => .time
  | dateTime _ => .dateTime
  | uuid _ => .uuid
  | decimal _ => .decimal

/-- The payload of a scalar as it is shown in a message. -/
def payload : Scalar → String
  | bool b => if b then "true" else "false"
  | tinyInt n => Numeral.ofInt n.toInt
  | smallInt n => Numeral.ofInt n.toInt
  | int n => Numeral.ofInt n.toInt
  | bigInt n => Numeral.ofInt n.toInt
  | tinyUnsigned n => Numeral.ofNat n.toNat
  | smallUnsigned n => Numeral.ofNat n.toNat
  | unsigned n => Numeral.ofNat n.toNat
  | bigUnsigned n => Numeral.ofNat n.toNat
  | float x => Number.singleText .shown x
  | double x => Number.doubleText .shown x
  | string s => Text.quoted s
  | char c => Text.quotedChar c
  | bytes b => "[" ++ ", ".intercalate (b.toList.map fun x => Numeral.ofNat x.toNat) ++ "]"
  | json j => j.shown
  | date d => d.text
  | time t => t.text
  | dateTime x => x.text 'T'
  | uuid u => u.text
  | decimal d => d.text

end Scalar

/-- A value of a statement or a row. -/
inductive Value where
  /-- The NULL of a kind. -/
  | null (k : Kind)
  /-- A scalar. -/
  | of (s : Scalar)

namespace Value

/-- The kind of a value. -/
def kind : Value → Kind
  | null k => k
  | of s => s.kind

/-- Whether a value counts as NULL. -/
def isNull : Value → Bool
  | null k => k != .dateTimeUtc
  | of _ => false

/-- A value as it is shown in a message. -/
def shown : Value → String
  | null k => k.label ++ "(None)"
  | of s => s.kind.label ++ "(Some(" ++ s.payload ++ "))"

/-- A text as a value. -/
abbrev text (s : String) : Value := .of (.string s)

@[simp] theorem isNull_of (s : Scalar) : (of s).isNull = false := rfl

@[simp] theorem kind_of (s : Scalar) : (of s).kind = s.kind := rfl

@[simp] theorem kind_null (k : Kind) : (null k).kind = k := rfl

end Value

/-! ## Values read as numbers and texts -/

namespace Text

/-- The signed numeral a text is, blanks aside. -/
def integer? (s : String) : Option Int :=
  Numeral.integer? (trimBoth s.toList)

end Text

/-- A whole number as a 64-bit number, when it fits. -/
def int64OfInt? (n : Int) : Option Int64 :=
  if -9223372036854775808 ≤ n ∧ n ≤ 9223372036854775807 then some (Int64.ofInt n) else none

namespace Scalar

/-- The number a scalar stands for, when it is integral and fits 64 bits: one of the
integral kinds, a truth value, or a numeral. -/
def integer? : Scalar → Option Int64
  | tinyInt n => some n.toInt64
  | smallInt n => some n.toInt64
  | int n => some n.toInt64
  | bigInt n => some n
  | tinyUnsigned n => int64OfInt? n.toNat
  | smallUnsigned n => int64OfInt? n.toNat
  | unsigned n => int64OfInt? n.toNat
  | bigUnsigned n => int64OfInt? n.toNat
  | bool b => some (if b then 1 else 0)
  | string s => (Text.integer? s).bind int64OfInt?
  | _ => none

/-- The double a scalar stands for: a floating-point number, a numeral, or an integral scalar
rounded to the nearest double. -/
def double? : Scalar → Option Float
  | float x => some x.toFloat
  | double x => some x
  | string s => Number.double? (Text.trimBoth s.toList)
  | s => s.integer?.map Int64.toFloat

/-- The text a scalar is: a text or a single character. -/
def text? : Scalar → Option String
  | string s => some s
  | char c => some (String.singleton c)
  | _ => none

end Scalar

/-- The number a value stands for, when it is integral and fits 64 bits. -/
def Value.integer? : Value → Option Int64
  | .of s => s.integer?
  | .null _ => none

end TableMapping
