/-!
# Decimal numerals

Whole numbers are written in base ten without leading zeros and read with an
optional sign and any number of leading zeros.  Reading is exact for every length;
whether the number fits a column is decided by whoever asked for it.

* `digits` writes a number, `value?` reads one;
* `integer?` reads a signed numeral, `ofInt` writes one.
-/

namespace TableMapping
namespace Numeral

/-- The character of a decimal digit. -/
def digitChar (d : Nat) : Char :=
  Char.ofNat (48 + d)

/-- The decimal digits of a number, without leading zeros. -/
def digits (n : Nat) : List Char :=
  if n < 10 then [digitChar n] else digits (n / 10) ++ [digitChar (n % 10)]
termination_by n

/-- The value of a run of digits that starts from `acc`. -/
def valueFrom (acc : Nat) (cs : List Char) : Nat :=
  cs.foldl (fun n c => n * 10 + (c.toNat - 48)) acc

/-- The value of a run of digits; `none` when it is empty or holds another character. -/
def value? (cs : List Char) : Option Nat :=
  if cs.isEmpty || !cs.all Char.isDigit then none else some (valueFrom 0 cs)

/-- Read a numeral with an optional sign. -/
def integer? : List Char → Option Int
  | '-' :: cs => (value? cs).map fun n => -(n : Int)
  | '+' :: cs => (value? cs).map fun n => (n : Int)
  | cs => (value? cs).map fun n => (n : Int)

/-- Write a number in base ten. -/
def ofNat (n : Nat) : String :=
  String.ofList (digits n)

/-- Write a signed number in base ten. -/
def ofInt (n : Int) : String :=
  if n < 0 then String.ofList ('-' :: digits n.natAbs) else ofNat n.natAbs

/-- A number of at least `width` digits, filled up with zeros in front. -/
def padded (width n : Nat) : List Char :=
  let ds := digits n
  List.replicate (width - ds.length) '0' ++ ds

end Numeral
end TableMapping
