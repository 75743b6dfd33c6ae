import TableMapping.Json.Parser
import TableMapping.Value.Basic

/-!
# Values as documents

A value travels as a document with one member, whose key is the name of the value's kind.
NULL travels as null.  Truth values and texts travel as they are, and so do whole numbers of
at most 32 bits; wider ones travel as numerals, floating-point numbers as the digits of their
bits, bytes as digits two by two, and documents as their text, so that nothing is lost on
the way.  The remaining kinds travel in their usual text.

* `Scalar.toDocument`, `Value.payload` and `Value.toDocument` write;
* `Scalar.ofDocument?`, `Value.ofPayload?` and `Value.ofDocument?` read.
-/

namespace TableMapping

/-- Bits in digits of base sixteen, `width` of them. -/
def bitsText (width n : Nat) : String :=
  String.ofList ((Text.hexDigits n).leftpad width '0')

/-- The number that bytes make, the highest byte first. -/
def bigEndian (bytes : List UInt8) : Nat :=
  bytes.foldl (fun n b => 256 * n + b.toNat) 0

namespace Scalar

/-- The document of a scalar; all NaNs have one spelling. -/
def toDocument : Scalar → Json
  | bool b => .bool b
  | tinyInt n => .ofInteger n.toInt64
  | smallInt n => .ofInteger n.toInt64
  | int n => .ofInteger n.toInt64
  | bigInt n => .text (Numeral.ofInt n.toInt)
  | tinyUnsigned n => .ofNatural n.toUInt64
  | smallUnsigned n => .ofNatural n.toUInt64
  | unsigned n => .ofNatural n.toUInt64
  | bigUnsigned n => .text (Numeral.ofNat n.toNat)
  | float x => .text (if x.isNaN then "7fc00000" else bitsText 8 x.toBits.toNat)
  | double x => .text (if x.isNaN then "7ff8000000000000" else bitsText 16 x.toBits.toNat)
  | string s => .text s
  | char c => .text (String.singleton c)
  | bytes b => .text (String.ofList (b.toList.flatMap Text.byteDigits))
  | json j => .text j.print
  | date d => .text d.text
  | time t => .text t.text
  | dateTime x => .text (x.text ' ')
  | uuid u => .text u.text
  | decimal d => .text d.text

/-- Read a whole number of the given range. -/
def ofWhole? (low high : Int) (make : Int → Scalar) (n : Int) : Option Scalar :=
  if low ≤ n ∧ n ≤ high then some (make n) else none

/-- Read a scalar from the text that it travels as. -/
def ofText? (s : String) : Kind → Option Scalar
  | .bigInt =>
    (Numeral.integer? s.toList).bind (ofWhole? (-9223372036854775808) 9223372036854775807 fun n => bigInt (Int64.ofInt n))
  | .bigUnsigned =>
    (Numeral.integer? s.toList).bind (ofWhole? 0 18446744073709551615 fun n => bigUnsigned (UInt64.ofNat n.toNat))
  | .float =>
    (Text.bytesOfDigits? s.toList).map fun b => float (Float32.ofBits (UInt32.ofNat (bigEndian b)))
  | .double =>
    (Text.bytesOfDigits? s.toList).map fun b => double (Float.ofBits (UInt64.ofNat (bigEndian b)))
  | .string => some (string s)
  | .char =>
    match s.toList with
    | [c] => some (char c)
    | _ => none
  | .bytes => (Text.bytesOfDigits? s.toList).map fun b => bytes ⟨b.toArray⟩
  | .json => (Json.parse? s).map json
  | .date => (Calendar.Date.read? s.toList).map date
  | .time => (Calendar.Time.read? s.toList).map time
  | .dateTime => (Calendar.DateTime.read? s.toList).map dateTime
  | .uuid => (Uuid.read? s.toList).map uuid
  | .decimal => (FixedPoint.read? s.toList).map decimal
  | _ => none

/-- Read a scalar from the whole number that it travels as. -/
def ofNumber? (n : Int) : Kind → Option Scalar
  | .tinyInt => ofWhole? (-128) 127 (fun n => tinyInt (Int8.ofInt n)) n
  | .smallInt => ofWhole? (-32768) 32767 (fun n => smallInt (Int16.ofInt n)) n
  | .int => ofWhole? (-2147483648) 2147483647 (fun n => int (Int32.ofInt n)) n
  | .tinyUnsigned => ofWhole? 0 255 (fun n => tinyUnsigned (UInt8.ofNat n.toNat)) n
  | .smallUnsigned => ofWhole? 0 65535 (fun n => smallUnsigned (UInt16.ofNat n.toNat)) n
  | .unsigned => ofWhole? 0 4294967295 (fun n => unsigned (UInt32.ofNat n.toNat)) n
  | _ => none

/-- Read a scalar of a kind from a document. -/
def ofDocument? (k : Kind) : Json → Option Scalar
  | .bool b => if k = .bool then some (bool b) else none
  | .number n => n.int?.bind fun n => ofNumber? n k
  | .text s => ofText? s k
  | _ => none

end Scalar

namespace Value

/-- The document of a value whose kind is known. -/
def payload : Value → Json
  | null _ => .null
  | of s => s.toDocument

/-- The document of a value. -/
def toDocument (v : Value) : Json :=
  .object [(v.kind.label, v.payload)]

/-- Read a value of a kind. -/
def ofPayload? (k : Kind) : Json → Option Value
  | .null => some (null k)
  | j => (Scalar.ofDocument? k j).map of

/-- Read a value. -/
def ofDocument? : Json → Option Value
  | .object [(label, j)] => (Labelled.ofLabel? label).bind fun k => ofPayload? k j
  | _ => none

end Value
end TableMapping
