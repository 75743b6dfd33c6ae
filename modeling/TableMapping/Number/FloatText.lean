import TableMapping.Number.Numeral
import TableMapping.Number.Shortest

/-!
# Floating-point numbers as text

A number is written with the fewest digits that read back.  Where the decimal point
goes, when an exponent is used and how a whole number ends is the choice of each
output format, kept in one `FloatStyle` per format:

* `FloatStyle.plain` for a number that becomes the text of a column;
* `FloatStyle.shown` for a number inside a message;
* the style of documents stands with the documents.

`float?` reads a number: digits with an optional point and exponent, or the words for
infinity and for no number, the nearest double always.
-/

namespace TableMapping
namespace Number

/-- How an output format writes floating-point numbers.  With `d₁d₂…` the shortest digits
and `0.d₁d₂… · 10 ^ p` the number, `p` is its point position. -/
structure FloatStyle where
  /-- The least point position written without an exponent; none means every one. -/
  positionalFrom : Option Int
  /-- The greatest point position written without an exponent; none means every one. -/
  positionalTo : Option Int
  /-- Whether a whole number without exponent ends in `.0`. -/
  wholeEndsInZero : Bool
  /-- Whether an exponent that is not negative has a plus sign. -/
  plusInExponent : Bool
  /-- What a tie between two shortest decimals does. -/
  tie : Tie

namespace FloatStyle

/-- The text of a number in a text column: never an exponent, and no point in a whole
number. -/
def plain : FloatStyle := ⟨none, none, false, false, .up⟩

/-- A number in a message: an exponent below `1e-4` and from `1e16` on, and `.0` at the end
of whole numbers. -/
def shown : FloatStyle := ⟨some (-3), some 16, true, false, .up⟩

/-- Whether a number with this point position is written without exponent. -/
def isPositional (s : FloatStyle) (p : Int) : Bool :=
  (s.positionalFrom.all fun low => decide (low ≤ p)) && (s.positionalTo.all fun high => decide (p ≤ high))

end FloatStyle

/-- Digits with the decimal point at position `p`. -/
def positional (wholeEndsInZero : Bool) (ds : List Char) (p : Int) : List Char :=
  if p ≤ 0 then ['0', '.'] ++ List.replicate (-p).toNat '0' ++ ds
  else
    let n := p.toNat
    if ds.length ≤ n then
      ds ++ List.replicate (n - ds.length) '0' ++ (if wholeEndsInZero then ['.', '0'] else [])
    else ds.take n ++ ['.'] ++ ds.drop n

/-- Digits as one digit, a fraction and the exponent `p - 1`. -/
def scientific (plusInExponent : Bool) (ds : List Char) (p : Int) : List Char :=
  let mantissa :=
    match ds with
    | d :: rest => if rest.isEmpty then [d] else d :: '.' :: rest
    | [] => []
  mantissa ++ ['e'] ++ (if plusInExponent && 1 ≤ p then ['+'] else []) ++ (Numeral.ofInt (p - 1)).toList

/-- Write a decoded number in a style. -/
def Decoded.text (s : FloatStyle) : Decoded → String
  | .nan => "NaN"
  | .infinite negative => if negative then "-inf" else "inf"
  | .finite negative m =>
    let sign := if negative then ['-'] else []
    if m.significand = 0 then
      String.ofList (sign ++ (if s.wholeEndsInZero then ['0', '.', '0'] else ['0']))
    else
      let d := m.shortest s.tie
      let ds := Numeral.digits d.coefficient
      let p := d.exponent + ds.length
      String.ofList
        (sign ++
          if s.isPositional p then positional s.wholeEndsInZero ds p
          else scientific s.plusInExponent ds p)

/-- Write a double in a style. -/
def doubleText (s : FloatStyle) (x : Float) : String :=
  (Layout.double.decode x.toBits.toNat).text s

/-- Write a single in a style. -/
def singleText (s : FloatStyle) (x : Float32) : String :=
  (Layout.single.decode x.toBits.toNat).text s

/-- The double nearest to `coefficient · 10 ^ exponent`.  Far outside the range of doubles
the answer is known without computing the power. -/
def nearestDouble (coefficient : Nat) (exponent : Int) : Float :=
  let size : Int := (Numeral.digits coefficient).length + exponent
  if coefficient = 0 then 0.0
  else if 310 < size then Float.ofBits 0x7ff0000000000000
  else if size < -330 then 0.0
  else Float.ofScientific coefficient (exponent < 0) exponent.natAbs

/-- Read an exponent: the letter has been seen, a sign may follow, digits must. -/
def exponent? : List Char → Option Int := Numeral.integer?

/-- Read an unsigned number: digits with an optional point, at least one digit, then an
optional exponent. -/
def unsignedDouble? (cs : List Char) : Option Float :=
  let whole := cs.takeWhile Char.isDigit
  let rest := cs.dropWhile Char.isDigit
  let (fraction, rest) :=
    match rest with
    | '.' :: r => (r.takeWhile Char.isDigit, r.dropWhile Char.isDigit)
    | r => ([], r)
  match Numeral.value? (whole ++ fraction) with
  | none => none
  | some coefficient =>
    let scale : Int := fraction.length
    match rest with
    | [] => some (nearestDouble coefficient (-scale))
    | c :: r =>
      if c = 'e' || c = 'E' then
        (exponent? r).map fun e => nearestDouble coefficient (e - scale)
      else none

/-- Read a number without its sign, or one of the words for the numbers without digits. -/
def magnitudeDouble? (cs : List Char) : Option Float :=
  let word := String.ofList (cs.map Char.toLower)
  if word = "inf" || word = "infinity" then some (Float.ofBits 0x7ff0000000000000)
  else if word = "nan" then some (Float.ofBits 0x7ff8000000000000)
  else unsignedDouble? cs

/-- Read a double with an optional sign. -/
def double? : List Char → Option Float
  | '-' :: cs => (magnitudeDouble? cs).map fun x => -x
  | '+' :: cs => magnitudeDouble? cs
  | cs => magnitudeDouble? cs

end Number
end TableMapping
