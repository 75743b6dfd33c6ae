import TableMapping.Number.FloatText
import TableMapping.Text.Blank
import TableMapping.Text.Hex
import TableMapping.Toml.Basic
import TableMapping.Toml.Moment

/-!
# Words in configuration documents

A value that is neither a text nor in brackets is a word: a truth value, a number, or a moment.

Digits may be set apart by single underscores.  Whole numbers have no leading zeros and fit
64 bits; in bases two, eight and sixteen they have no sign.
-/

namespace TableMapping
namespace Toml

/-! ## Numbers -/

/-- Whether characters are digits, set apart by single underscores at most. -/
def isDigitRun (isDigit : Char → Bool) (cs : List Char) : Bool :=
  (Text.runs (· == '_') cs).all fun run => !run.isEmpty && run.all isDigit

/-- Whether characters are the digits of a whole number in base ten. -/
def isWhole (cs : List Char) : Bool :=
  isDigitRun Char.isDigit cs && (cs.length == 1 || cs.head? != some '0')

/-- Take the underscores out. -/
def withoutUnderscores (cs : List Char) : List Char :=
  cs.filter (· != '_')

/-- A whole number that fits 64 bits. -/
def fitting? (n : Int) : Option Toml :=
  if -9223372036854775808 ≤ n ∧ n ≤ 9223372036854775807 then some (.integer n) else none

/-- Read digits of a base. -/
def based? (base : Nat) (cs : List Char) : Option Toml :=
  let value? := fun c => (Text.hexValue? c).filter (· < base)
  if isDigitRun (fun c => (value? c).isSome) cs then
    fitting? (((withoutUnderscores cs).filterMap value?).foldl (fun n d => base * n + d) 0 : Nat)
  else none

/-- Take the sign off a number; true stands for minus. -/
def signed : List Char → Bool × List Char
  | '-' :: cs => (true, cs)
  | '+' :: cs => (false, cs)
  | cs => (false, cs)

/-- Read a whole number. -/
def integer? : List Char → Option Toml
  | '0' :: 'x' :: cs => based? 16 cs
  | '0' :: 'o' :: cs => based? 8 cs
  | '0' :: 'b' :: cs => based? 2 cs
  | cs => do
    let (negative, ds) := signed cs
    if !isWhole ds then none
    let n ← Numeral.value? (withoutUnderscores ds)
    fitting? (if negative then -(n : Int) else n)

/-- Whether a character opens an exponent. -/
def isExponentMark (c : Char) : Bool :=
  c == 'e' || c == 'E'

/-- Whether characters are a number with a fraction, an exponent or both. -/
def isReal (cs : List Char) : Bool :=
  let (mantissa, exponent) := cs.span fun c => !isExponentMark c
  let (whole, fraction) := mantissa.span fun c => c != '.'
  isWhole whole && !(fraction.isEmpty && exponent.isEmpty) &&
    (fraction.isEmpty || isDigitRun Char.isDigit (fraction.drop 1)) &&
    (exponent.isEmpty || isDigitRun Char.isDigit (signed (exponent.drop 1)).2)

/-- Read a number that is not whole.  One that is too great for a double is refused. -/
def real? (cs : List Char) : Option Toml := do
  let (negative, ds) := signed cs
  let sign := fun x : Float => if negative then -x else x
  if ds = ['i', 'n', 'f'] || ds = ['n', 'a', 'n'] then
    return .real (sign (← Number.double? ds))
  if !isReal ds then none
  let x := sign (← Number.double? (withoutUnderscores ds))
  if x == Float.ofBits 0x7ff0000000000000 then none else some (.real x)

/-! ## Words -/

/-- Whether a word may contain a character. -/
def isWordChar (c : Char) : Bool :=
  c.isAlphanum || c == '+' || c == '-' || c == '_' || c == '.' || c == ':'

/-- Split a word off.  A blank between a date and a time belongs to it. -/
def splitWord (cs : List Char) : List Char × List Char :=
  let word := cs.takeWhile isWordChar
  match cs.dropWhile isWordChar with
  | ' ' :: a :: b :: ':' :: rest =>
    if a.isDigit && b.isDigit && (Moment.readDate? word).any (·.2.isEmpty) then
      (word ++ ' ' :: a :: b :: ':' :: rest.takeWhile isWordChar, rest.dropWhile isWordChar)
    else (word, ' ' :: a :: b :: ':' :: rest)
  | rest => (word, rest)

/-- Read a moment. -/
def moment? (cs : List Char) : Option Toml :=
  (Moment.read? Moment.strict cs).map fun cs => .moment (String.ofList cs)

/-- The value that a word is. -/
def word? (cs : List Char) : Option Toml :=
  if cs = ['t', 'r', 'u', 'e'] then some (.bool true)
  else if cs = ['f', 'a', 'l', 's', 'e'] then some (.bool false)
  else ((integer? cs).or (real? cs)).or (moment? cs)

end Toml
end TableMapping
