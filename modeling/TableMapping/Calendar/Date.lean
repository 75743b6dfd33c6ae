import TableMapping.Number.Numeral
import TableMapping.Text.Blank

/-!
# Calendar dates

A date of the proleptic Gregorian calendar with a year between -262143 and 262142.
The text form has four digits for a year between 0 and 9999 and a sign and at least
four digits for any other year.

Reading is more generous than writing: the parts may be short, blanks may stand before
each of them, and a signed year may have any number of digits.
-/

namespace TableMapping
namespace Calendar

/-- Whether a year has a 29th of February. -/
def isLeapYear (year : Int) : Bool :=
  year % 4 == 0 && (year % 100 != 0 || year % 400 == 0)

/-- The number of days of a month. -/
def daysInMonth (year : Int) (month : Nat) : Nat :=
  if month = 2 then (if isLeapYear year then 29 else 28)
  else if month = 4 || month = 6 || month = 9 || month = 11 then 30
  else 31

/-- Whether a year, month and day are a date. -/
def IsDate (year : Int) (month day : Nat) : Prop :=
  (-262143 ≤ year ∧ year ≤ 262142) ∧ (1 ≤ month ∧ month ≤ 12) ∧
    (1 ≤ day ∧ day ≤ daysInMonth year month)

instance (year : Int) (month day : Nat) : Decidable (IsDate year month day) := by
  unfold IsDate; infer_instance

/-- A day of the calendar. -/
structure Date where
  year : Int
  month : Nat
  day : Nat
  isDate : IsDate year month day
  deriving DecidableEq

namespace Date

/-- The date with these parts, when there is one. -/
def ofParts? (year : Int) (month day : Nat) : Option Date :=
  if h : IsDate year month day then some ⟨year, month, day, h⟩ else none

/-- The first of January 1970. -/
def epoch : Date := ⟨1970, 1, 1, by decide⟩

/-- The year of a date as text. -/
def yearChars (year : Int) : List Char :=
  if 0 ≤ year ∧ year ≤ 9999 then Numeral.padded 4 year.natAbs
  else (if year < 0 then '-' else '+') :: Numeral.padded 4 year.natAbs

/-- The characters of a date: year, month and day with hyphens between them. -/
def chars (d : Date) : List Char :=
  yearChars d.year ++ '-' :: Numeral.padded 2 d.month ++ '-' :: Numeral.padded 2 d.day

/-- A date as text. -/
def text (d : Date) : String :=
  String.ofList d.chars

end Date

/-- Read a run of one to `width` digits after any blanks. -/
def readNumber? (width : Nat) (cs : List Char) : Option (Nat × List Char) :=
  let cs := Text.trimStart cs
  let ds := (cs.take width).takeWhile Char.isDigit
  (Numeral.value? ds).map fun n => (n, cs.drop ds.length)

/-- Read one character. -/
def readMark? (mark : Char) : List Char → Option (List Char)
  | c :: cs => if c = mark then some cs else none
  | [] => none

/-- Read a year: up to four digits, or a sign and any number of digits. -/
def readYear? (cs : List Char) : Option (Int × List Char) :=
  match Text.trimStart cs with
  | '-' :: rest =>
    let ds := rest.takeWhile Char.isDigit
    (Numeral.value? ds).map fun n => (-(n : Int), rest.drop ds.length)
  | '+' :: rest =>
    let ds := rest.takeWhile Char.isDigit
    (Numeral.value? ds).map fun n => ((n : Int), rest.drop ds.length)
  | rest => (readNumber? 4 rest).map fun (n, r) => ((n : Int), r)

/-- Read a date at the front of a text. -/
def readDate? (cs : List Char) : Option (Date × List Char) := do
  let (year, cs) ← readYear? cs
  let cs ← readMark? '-' cs
  let (month, cs) ← readNumber? 2 cs
  let cs ← readMark? '-' cs
  let (day, cs) ← readNumber? 2 cs
  let date ← Date.ofParts? year month day
  return (date, cs)

/-- Read a text that is a date and nothing else. -/
def Date.read? (cs : List Char) : Option Date :=
  match readDate? cs with
  | some (d, []) => some d
  | _ => none

end Calendar
end TableMapping
