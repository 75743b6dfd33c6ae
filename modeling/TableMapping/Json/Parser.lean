import TableMapping.Json.Basic
import TableMapping.Text.Hex

/-!
# Reading documents

A document is read at the front of a text by recursion on the number of levels it may
still nest; the items of a list and the members of an object are read by a loop that is
bounded by the length of the text.  At most 127 levels are read.

Whole numbers of 64 bits are read exactly.  Any other number is read from the longest run
of its digits that fits 64 bits, scaled by a power of ten in double arithmetic.
-/

namespace TableMapping
namespace Json

/-- The blanks between the parts of a document. -/
def isSpace (c : Char) : Bool :=
  c == ' ' || c == '\t' || c == '\n' || c == '\r'

/-- Drop the blanks in front. -/
def skipSpace (cs : List Char) : List Char :=
  cs.dropWhile isSpace

/-! ## Texts -/

/-- A part of a text: a character, or the code unit of a numeric escape. -/
inductive TextPart where
  | char (c : Char)
  | unit (n : Nat)

/-- The character behind a backslash. -/
def simpleEscape? (c : Char) : Option Char :=
  if c = '"' then some '"'
  else if c = '\\' then some '\\'
  else if c = '/' then some '/'
  else if c = 'b' then some '\x08'
  else if c = 'f' then some '\x0c'
  else if c = 'n' then some '\n'
  else if c = 'r' then some '\r'
  else if c = 't' then some '\t'
  else none

/-- The code unit of four digits. -/
def hexUnit? (a b c d : Char) : Option Nat := do
  let a ← Text.hexValue? a
  let b ← Text.hexValue? b
  let c ← Text.hexValue? c
  let d ← Text.hexValue? d
  return ((a * 16 + b) * 16 + c) * 16 + d

/-- Read the parts of a text up to its closing quote. -/
def readParts? : List Char → Option (List TextPart × List Char)
  | [] => none
  | '"' :: cs => some ([], cs)
  | '\\' :: 'u' :: a :: b :: c :: d :: cs => do
    let n ← hexUnit? a b c d
    let (parts, rest) ← readParts? cs
    return (.unit n :: parts, rest)
  | '\\' :: e :: cs => do
    let c ← simpleEscape? e
    let (parts, rest) ← readParts? cs
    return (.char c :: parts, rest)
  | c :: cs =>
    if c = '\\' || c.toNat < 0x20 then none
    else do
      let (parts, rest) ← readParts? cs
      return (.char c :: parts, rest)

/-- Put the parts of a text together: two code units of a surrogate pair are one character,
and one of them alone is an error. -/
def joinParts? : List TextPart → Option (List Char)
  | [] => some []
  | .char c :: ps => (joinParts? ps).map (c :: ·)
  | .unit n :: .unit m :: ps =>
    if 0xD800 ≤ n && n < 0xDC00 then
      if 0xDC00 ≤ m && m < 0xE000 then
        (joinParts? ps).map (Char.ofNat (0x10000 + (n - 0xD800) * 0x400 + (m - 0xDC00)) :: ·)
      else none
    else if 0xDC00 ≤ n && n < 0xE000 then none
    else (joinParts? (.unit m :: ps)).map (Char.ofNat n :: ·)
  | .unit n :: ps =>
    if 0xD800 ≤ n && n < 0xE000 then none else (joinParts? ps).map (Char.ofNat n :: ·)

/-- Read a text whose opening quote has been read. -/
def readText? (cs : List Char) : Option (String × List Char) := do
  let (parts, rest) ← readParts? cs
  let chars ← joinParts? parts
  return (String.ofList chars, rest)

/-! ## Numbers -/

/-- Take digits as long as the number they make with `n` fits 64 bits; the second part holds
the digits that are left. -/
def gather (n : Nat) : List Char → Nat × List Char
  | [] => (n, [])
  | c :: cs =>
    let next := n * 10 + (c.toNat - 48)
    if next < 18446744073709551616 then gather next cs else (n, c :: cs)

/-- Scale a double by a power of ten, in steps of at most `10 ^ 308`; none when the result is
beyond the doubles. -/
def scaleByTen? (x : Float) (e : Int) : Option Float :=
  if e.natAbs ≤ 308 then
    let power := Float.ofScientific 1 false e.natAbs
    if 0 ≤ e then
      if (x * power).isInf then none else some (x * power)
    else some (x / power)
  else if x == 0.0 then some x
  else if 0 ≤ e then none
  else scaleByTen? (x / Float.ofScientific 1 false 308) (e + 308)
termination_by e.natAbs
decreasing_by omega

/-- A number as it is written: sign, digits before and behind the point, and exponent. -/
structure WrittenNumber where
  negative : Bool
  whole : List Char
  fraction : Option (List Char)
  exponent : Option Int

/-- Give a double the sign of a number. -/
def WrittenNumber.signed (w : WrittenNumber) (x : Float) : JsonNumber :=
  .real (if w.negative then -x else x)

/-- The double of a number that is not a whole number of 64 bits. -/
def WrittenNumber.real? (w : WrittenNumber) : Option JsonNumber :=
  let (n, wholeLeft) := gather 0 w.whole
  let fraction := w.fraction.getD []
  let (n, fractionLeft) := gather n fraction
  let scale : Int := wholeLeft.length - (fraction.length - fractionLeft.length : Nat)
  let exponent := w.exponent.getD 0
  if 2147483648 ≤ exponent.natAbs then
    if n ≠ 0 && 0 ≤ exponent then none else some (w.signed 0.0)
  else (scaleByTen? (UInt64.ofNat n).toFloat (scale + exponent)).map w.signed

/-- The number that was written. -/
def WrittenNumber.value? (w : WrittenNumber) : Option JsonNumber :=
  match w.fraction, w.exponent with
  | none, none =>
    let n := Numeral.valueFrom 0 w.whole
    if 18446744073709551616 ≤ n then w.real?
    else if !w.negative then some (.natural (UInt64.ofNat n))
    else if n = 0 || 9223372036854775808 < n then some (.real (-(UInt64.ofNat n).toFloat))
    else some (.negative (Int64.ofInt (-(n : Int))))
  | _, _ => w.real?

/-- Read the digits before the point: a zero stands alone. -/
def readWhole? (cs : List Char) : Option (List Char × List Char) :=
  let ds := cs.takeWhile Char.isDigit
  if ds.isEmpty || (ds.head? = some '0' && 1 < ds.length) then none
  else some (ds, cs.dropWhile Char.isDigit)

/-- Read an optional fraction: a point and at least one digit. -/
def readFraction? : List Char → Option (Option (List Char) × List Char)
  | '.' :: cs =>
    let ds := cs.takeWhile Char.isDigit
    if ds.isEmpty then none else some (some ds, cs.dropWhile Char.isDigit)
  | cs => some (none, cs)

/-- Read the digits of an exponent with the given sign. -/
def readExponentDigits? (negative : Bool) (cs : List Char) : Option (Option Int × List Char) :=
  let ds := cs.takeWhile Char.isDigit
  (Numeral.value? ds).map fun n =>
    (some (if negative then -(n : Int) else (n : Int)), cs.dropWhile Char.isDigit)

/-- Read an optional exponent. -/
def readExponent? : List Char → Option (Option Int × List Char)
  | c :: cs =>
    if c = 'e' || c = 'E' then
      match cs with
      | '+' :: rest => readExponentDigits? false rest
      | '-' :: rest => readExponentDigits? true rest
      | rest => readExponentDigits? false rest
    else some (none, c :: cs)
  | [] => some (none, [])

/-- Read a number whose sign has been read. -/
def readUnsigned? (negative : Bool) (cs : List Char) : Option (JsonNumber × List Char) := do
  let (whole, cs) ← readWhole? cs
  let (fraction, cs) ← readFraction? cs
  let (exponent, cs) ← readExponent? cs
  let n ← WrittenNumber.value? ⟨negative, whole, fraction, exponent⟩
  return (n, cs)

/-- Read a number. -/
def readNumber? : List Char → Option (JsonNumber × List Char)
  | '-' :: cs => readUnsigned? true cs
  | cs => readUnsigned? false cs

/-! ## Documents -/

/-- Read a document that is neither a list nor an object. -/
def readScalar? : List Char → Option (Json × List Char)
  | 'n' :: 'u' :: 'l' :: 'l' :: cs => some (.null, cs)
  | 't' :: 'r' :: 'u' :: 'e' :: cs => some (.bool true, cs)
  | 'f' :: 'a' :: 'l' :: 's' :: 'e' :: cs => some (.bool false, cs)
  | '"' :: cs => (readText? cs).map fun (s, rest) => (.text s, rest)
  | cs => (readNumber? cs).map fun (n, rest) => (.number n, rest)

/-- Read the items of a list from one item on, up to the closing bracket. -/
def readItems? (item : List Char → Option (Json × List Char)) :
    Nat → List Char → Option (List Json × List Char)
  | 0, _ => none
  | bound + 1, cs => do
    let (x, cs) ← item (skipSpace cs)
    match skipSpace cs with
    | ',' :: cs =>
      let (xs, cs) ← readItems? item bound cs
      return (x :: xs, cs)
    | ']' :: cs => return ([x], cs)
    | _ => none

/-- Read the members of an object from one member on, up to the closing brace. -/
def readMembers? (item : List Char → Option (Json × List Char)) :
    Nat → List Char → Option (List (String × Json) × List Char)
  | 0, _ => none
  | bound + 1, cs =>
    match skipSpace cs with
    | '"' :: cs => do
      let (key, cs) ← readText? cs
      match skipSpace cs with
      | ':' :: cs =>
        let (x, cs) ← item (skipSpace cs)
        match skipSpace cs with
        | ',' :: cs =>
          let (ms, cs) ← readMembers? item bound cs
          return ((key, x) :: ms, cs)
        | '\x7d' :: cs => return ([(key, x)], cs)
        | _ => none
      | _ => none
    | _ => none

/-- Read a document that may nest `levels` deep. -/
def readDocument? : Nat → List Char → Option (Json × List Char)
  | 0, cs =>
    match cs with
    | '[' :: _ => none
    | '\x7b' :: _ => none
    | cs => readScalar? cs
  | levels + 1, cs =>
    match cs with
    | '[' :: cs =>
      match skipSpace cs with
      | ']' :: cs => some (.list [], cs)
      | cs => (readItems? (readDocument? levels) cs.length cs).map fun (xs, rest) => (.list xs, rest)
    | '\x7b' :: cs =>
      match skipSpace cs with
      | '\x7d' :: cs => some (.object [], cs)
      | cs =>
        (readMembers? (readDocument? levels) cs.length cs).map fun (ms, rest) => (ofMembers ms, rest)
    | cs => readScalar? cs

/-- The number of levels a document may nest. -/
def maxLevels : Nat := 127

/-- Read a text that is a document with blanks around it and nothing else. -/
def parse? (s : String) : Option Json :=
  match readDocument? maxLevels (skipSpace s.toList) with
  | some (j, rest) => if (skipSpace rest).isEmpty then some j else none
  | none => none

end Json
end TableMapping
