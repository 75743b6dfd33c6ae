import TableMapping.Error
import TableMapping.Json.Parser

/-!
# Coercion

Engines return values in shapes of their own: integers of 64 bits, truth values as
numbers, dates and decimals as texts.  `coerce` brings a raw value into the kind that the
field type expects, or says why it cannot.

NULL of any kind becomes the NULL of the field type.  A value that has the right kind is
kept as it is.  A text is read with the blanks around it dropped, except for texts, bytes
and documents.  A value of an enumeration is left for the enumeration to decode.
-/

namespace TableMapping
namespace Value

/-- The texts that are read as a truth value. -/
def truthOfWord? (word : String) : Option Bool :=
  if word ∈ ["true", "t", "1", "y", "yes"] then some true
  else if word ∈ ["false", "f", "0", "n", "no"] then some false
  else none

/-- The text of a value with the blanks around it dropped. -/
def trimmedChars (s : String) : List Char :=
  Text.trimBoth s.toList

/-- A reason unless there is an answer. -/
def orReason {α : Type} (reason : Reason) : Option α → Except Reason α
  | some x => .ok x
  | none => .error reason

/-- Read an integer of the given range. -/
def coerceInteger (s : Scalar) (t : FieldType) (low high : Int) (make : Int → Scalar) :
    Except Reason Value :=
  match s.integer? with
  | none => .error (.notInteger (.of s))
  | some n =>
    if low ≤ n.toInt ∧ n.toInt ≤ high then .ok (.of (make n.toInt))
    else .error (.outOfRange n.toInt t)

/-- Read a truth value. -/
def coerceBool (s : Scalar) : Except Reason Bool :=
  let mismatch := Reason.unreadable (.of s) .bool
  match s with
  | .bool b => .ok b
  | .string text => orReason mismatch (truthOfWord? (String.ofList ((trimmedChars text).map Char.toLower)))
  | s => (orReason mismatch s.integer?).map (· != 0)

/-- Read a decimal. -/
def coerceDecimal (s : Scalar) : Except Reason FixedPoint :=
  match s with
  | .decimal d => .ok d
  | .double x =>
    orReason (.malformed "decimal") (FixedPoint.read? (Number.doubleText .plain x).toList)
  | s =>
    match s.text? with
    | some text => orReason (.malformed "decimal") (FixedPoint.read? (trimmedChars text))
    | none => (orReason (.unreadable (.of s) .decimal) s.integer?).map FixedPoint.ofInt64

/-- Read a text. -/
def coerceText (s : Scalar) (t : FieldType) : Except Reason String :=
  match s with
  | .string text => .ok text
  | .char c => .ok (String.singleton c)
  | .double x => .ok (Number.doubleText .plain x)
  | .bytes b => orReason (.malformed "UTF-8") (String.fromUTF8? b)
  | s => (orReason (.unreadable (.of s) t) s.integer?).map fun n => Numeral.ofInt n.toInt

/-- Read bytes. -/
def coerceBytes (s : Scalar) : Except Reason ByteArray :=
  match s with
  | .bytes b => .ok b
  | .string text => .ok text.toUTF8
  | s => .error (.unreadable (.of s) .bytes)

/-- Read a date; the date of a point in time counts. -/
def coerceDate (s : Scalar) : Except Reason Calendar.Date :=
  let mismatch := Reason.unreadable (.of s) .date
  match s with
  | .date d => .ok d
  | s =>
    match s.text? with
    | some text =>
      let cs := trimmedChars text
      orReason mismatch
        ((Calendar.Date.read? cs).or ((Calendar.DateTime.read? cs).map Calendar.DateTime.date))
    | none => .error mismatch

/-- Read a time of day. -/
def coerceTime (s : Scalar) : Except Reason Calendar.Time :=
  match s with
  | .time t => .ok t
  | s =>
    match s.text? with
    | some text => orReason (.malformed "time") (Calendar.Time.read? (trimmedChars text))
    | none => .error (.unreadable (.of s) .time)

/-- Read a point in time. -/
def coerceDateTime (s : Scalar) : Except Reason Calendar.DateTime :=
  let mismatch := Reason.unreadable (.of s) .dateTime
  match s with
  | .dateTime x => .ok x
  | s =>
    match s.text? with
    | some text => orReason mismatch (Calendar.DateTime.read? (trimmedChars text))
    | none => .error mismatch

/-- Read an identifier from its text or its bytes. -/
def coerceUuid (s : Scalar) : Except Reason Uuid :=
  match s with
  | .uuid u => .ok u
  | .bytes b => orReason (.malformed "identifier") (Uuid.ofBytes? b.toList)
  | s =>
    match s.text? with
    | some text => orReason (.malformed "identifier") (Uuid.read? (trimmedChars text))
    | none => .error (.unreadable (.of s) .uuid)

/-- Read a document. -/
def coerceJson (s : Scalar) : Except Reason Json :=
  match s with
  | .json j => .ok j
  | .string text => orReason (.malformed "document") (Json.parse? text)
  | s => .error (.unreadable (.of s) .json)

/-- Read a double. -/
def coerceDouble (s : Scalar) (t : FieldType) : Except Reason Float :=
  orReason (.unreadable (.of s) t) s.double?

/-- Read a scalar as a field type. -/
def coerceScalar (s : Scalar) (t : FieldType) : Except Reason Value :=
  match t with
  | .bool => (coerceBool s).map fun b => .of (.bool b)
  | .tinyInt => coerceInteger s t (-128) 127 fun n => .tinyInt (Int8.ofInt n)
  | .smallInt => coerceInteger s t (-32768) 32767 fun n => .smallInt (Int16.ofInt n)
  | .int => coerceInteger s t (-2147483648) 2147483647 fun n => .int (Int32.ofInt n)
  | .bigInt => coerceInteger s t (-9223372036854775808) 9223372036854775807 fun n => .bigInt (Int64.ofInt n)
  | .float => (coerceDouble s t).map fun x => .of (.float x.toFloat32)
  | .double => (coerceDouble s t).map fun x => .of (.double x)
  | .decimal => (coerceDecimal s).map fun d => .of (.decimal d)
  | .string => (coerceText s t).map Value.text
  | .other _ => (coerceText s t).map Value.text
  | .bytes => (coerceBytes s).map fun b => .of (.bytes b)
  | .date => (coerceDate s).map fun d => .of (.date d)
  | .time => (coerceTime s).map fun x => .of (.time x)
  | .dateTime => (coerceDateTime s).map fun x => .of (.dateTime x)
  | .uuid => (coerceUuid s).map fun u => .of (.uuid u)
  | .json => (coerceJson s).map fun j => .of (.json j)
  | .enumeration _ => .ok (.of s)

/-- Why a NULL that the mapping does not know cannot be read as a field type: integral types
ask for an integer, and an enumeration keeps the value. -/
def coerceUnknownNull (v : Value) (t : FieldType) : Except Reason Value :=
  match t with
  | .tinyInt | .smallInt | .int | .bigInt => .error (.notInteger v)
  | .enumeration _ => .ok v
  | t => .error (.unreadable v t)

/-- Bring a raw value into the kind a field type expects. -/
def coerce (v : Value) (t : FieldType) : Except Reason Value :=
  match v with
  | .of s => coerceScalar s t
  | .null k => if Value.isNull (.null k) then .ok t.null else coerceUnknownNull v t

end Value
end TableMapping
