import TableMapping.Calendar.Date

/-!
# Moments in configuration documents

A moment is a date, a time of day, or both with or without an offset.  It is kept in its usual
form, with `T` between date and time, without zeros at the end of a fraction, and with an offset
in hours and minutes.

A moment may be written as a word or, in a table that stands for it, as a text.  The two differ
in how far hours and offsets may go; `Bounds` says it.
-/

namespace TableMapping
namespace Toml
namespace Moment

/-- How far the parts of a moment go. -/
structure Bounds where
  /-- The last hour of a day. -/
  hour : Nat
  /-- The greatest offset, in minutes. -/
  offset : Nat
  /-- The greatest number of minutes beside the hours of an offset. -/
  offsetMinute : Nat

/-- The bounds of a word. -/
def strict : Bounds :=
  ⟨23, 1439, 59⟩

/-- The bounds of a text: midnight may be the end of a day, and an offset may be a whole day and
have more minutes than an hour. -/
def wide : Bounds :=
  ⟨24, 1440, 99⟩

/-- A number of exactly `width` digits at the front. -/
def digitsAt? (width : Nat) (cs : List Char) : Option (Nat × List Char) :=
  let ds := cs.take width
  if ds.length = width && ds.all Char.isDigit then
    (Numeral.value? ds).map fun n => (n, cs.drop width)
  else none

/-- Read a date. -/
def readDate? (cs : List Char) : Option (List Char × List Char) := do
  let (year, rest) ← digitsAt? 4 cs
  let rest ← Calendar.readMark? '-' rest
  let (month, rest) ← digitsAt? 2 rest
  let rest ← Calendar.readMark? '-' rest
  let (day, rest) ← digitsAt? 2 rest
  let date ← Calendar.Date.ofParts? year month day
  return (date.chars, rest)

/-- Drop the zeros at the end. -/
def trimZeros (cs : List Char) : List Char :=
  (cs.reverse.dropWhile (· == '0')).reverse

/-- Read a fraction of a second, of which nine digits count. -/
def readFraction? : List Char → Option (List Char × List Char)
  | '.' :: cs =>
    let ds := cs.takeWhile Char.isDigit
    let kept := trimZeros (ds.take 9)
    if ds.isEmpty then none
    else some (if kept.isEmpty then [] else '.' :: kept, cs.dropWhile Char.isDigit)
  | cs => some ([], cs)

/-- Read a time of day. -/
def readTime? (bounds : Bounds) (cs : List Char) : Option (List Char × List Char) := do
  let (hour, rest) ← digitsAt? 2 cs
  let rest ← Calendar.readMark? ':' rest
  let (minute, rest) ← digitsAt? 2 rest
  let rest ← Calendar.readMark? ':' rest
  let (second, rest) ← digitsAt? 2 rest
  let (fraction, rest) ← readFraction? rest
  if hour ≤ bounds.hour && minute < 60 && second ≤ 60 then return (cs.take 8 ++ fraction, rest) else none

/-- Read an optional offset. -/
def readOffset? (bounds : Bounds) : List Char → Option (List Char × List Char)
  | [] => some ([], [])
  | c :: cs =>
    if c = 'Z' || c = 'z' then some (['Z'], cs)
    else if c = '+' || c = '-' then do
      let (hours, rest) ← digitsAt? 2 cs
      let rest ← Calendar.readMark? ':' rest
      let (minutes, rest) ← digitsAt? 2 rest
      let offset := hours * 60 + minutes
      if offset ≤ bounds.offset && minutes ≤ bounds.offsetMinute then
        return ((if offset = 0 then '+' else c) ::
          (Numeral.padded 2 (offset / 60) ++ ':' :: Numeral.padded 2 (offset % 60)), rest)
      else none
    else none

/-- Whether a character may stand between date and time. -/
def isTimeMark (c : Char) : Bool :=
  c == 'T' || c == 't' || c == ' '

/-- The usual form of the moment that characters are. -/
def read? (bounds : Bounds) (cs : List Char) : Option (List Char) :=
  match readTime? bounds cs with
  | some (time, []) => some time
  | _ => do
    let (date, rest) ← readDate? cs
    match rest with
    | [] => return date
    | c :: rest =>
      if !isTimeMark c then none
      let (time, rest) ← readTime? bounds rest
      let (offset, rest) ← readOffset? bounds rest
      if rest.isEmpty then return date ++ 'T' :: (time ++ offset) else none

end Moment
end Toml
end TableMapping
