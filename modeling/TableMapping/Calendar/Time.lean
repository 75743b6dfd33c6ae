import TableMapping.Calendar.Date

/-!
# Times of day and points in time

A time of day counts hours, minutes, seconds and billionths of a second.  The billionths may
run on through a leap second, which is the one behind the second that is counted; it is
written as that next second, the one behind second 59 as second 60.  The fraction is written
with three, six or nine digits, the fewest that hold it, and left out when it is zero.

A point in time is a date and a time of day without a zone.  It is read with a blank or
a `T` between the two.
-/

namespace TableMapping
namespace Calendar

/-- Whether the parts are a time of day.  A second has a billion billionths, and the leap second
behind it as many. -/
def IsTime (hour minute second nano : Nat) : Prop :=
  hour < 24 ∧ minute < 60 ∧ second < 60 ∧ nano < 2000000000

instance (hour minute second nano : Nat) : Decidable (IsTime hour minute second nano) := by
  unfold IsTime; infer_instance

/-- A time of day. -/
structure Time where
  hour : Nat
  minute : Nat
  second : Nat
  nano : Nat
  isTime : IsTime hour minute second nano
  deriving DecidableEq

namespace Time

/-- The time with these parts, when there is one. -/
def ofParts? (hour minute second nano : Nat) : Option Time :=
  if h : IsTime hour minute second nano then some ⟨hour, minute, second, nano, h⟩ else none

/-- The time that a clock with these parts shows, when there is one: second 60 is the leap second
behind second 59. -/
def ofClock? (hour minute second nano : Nat) : Option Time :=
  if second = 60 then ofParts? hour minute 59 (nano + 1000000000)
  else ofParts? hour minute second nano

/-- The start of the day. -/
def midnight : Time := ⟨0, 0, 0, 0, by decide⟩

/-- The fraction of a second with the fewest of three, six or nine digits that hold it. -/
def fractionChars (nano : Nat) : List Char :=
  if nano = 0 then []
  else if nano % 1000000 = 0 then '.' :: Numeral.padded 3 (nano / 1000000)
  else if nano % 1000 = 0 then '.' :: Numeral.padded 6 (nano / 1000)
  else '.' :: Numeral.padded 9 nano

/-- The second that is written: a leap second counts as the next one. -/
def shownSecond (t : Time) : Nat :=
  t.second + t.nano / 1000000000

/-- The fraction that is written. -/
def shownNano (t : Time) : Nat :=
  t.nano % 1000000000

/-- The characters of a time of day. -/
def chars (t : Time) : List Char :=
  Numeral.padded 2 t.hour ++ ':' :: Numeral.padded 2 t.minute ++ ':' ::
    Numeral.padded 2 t.shownSecond ++ fractionChars t.shownNano

/-- A time of day as text. -/
def text (t : Time) : String :=
  String.ofList t.chars

end Time

/-- Read an optional fraction of a second.  Digits behind the ninth are dropped. -/
def readFraction? : List Char → Option (Nat × List Char)
  | '.' :: cs =>
    let ds := cs.takeWhile Char.isDigit
    let kept := ds.take 9
    (Numeral.value? kept).map fun n => (n * Nat.pow 10 (9 - kept.length), cs.drop ds.length)
  | cs => some (0, cs)

/-- Read a time of day at the front of a text. -/
def readTime? (cs : List Char) : Option (Time × List Char) := do
  let (hour, cs) ← readNumber? 2 cs
  let cs ← readMark? ':' cs
  let (minute, cs) ← readNumber? 2 cs
  let cs ← readMark? ':' cs
  let (second, cs) ← readNumber? 2 cs
  let (nano, cs) ← readFraction? cs
  let time ← Time.ofClock? hour minute second nano
  return (time, cs)

/-- Read a text that is a time of day and nothing else. -/
def Time.read? (cs : List Char) : Option Time :=
  match readTime? cs with
  | some (t, []) => some t
  | _ => none

/-- A point in time: a date and a time of day. -/
structure DateTime where
  date : Date
  time : Time
  deriving DecidableEq

namespace DateTime

/-- The characters of a point in time with the given mark between date and time. -/
def chars (mark : Char) (x : DateTime) : List Char :=
  x.date.chars ++ mark :: x.time.chars

/-- A point in time as text, with the given mark between date and time. -/
def text (mark : Char) (x : DateTime) : String :=
  String.ofList (x.chars mark)

/-- Read the time of day behind a date. -/
def withTime? (date : Date) (cs : List Char) : Option DateTime :=
  (Time.read? cs).map fun time => ⟨date, time⟩

/-- Read a text that is a point in time and nothing else. -/
def read? (cs : List Char) : Option DateTime := do
  let (date, cs) ← readDate? cs
  match cs with
  | 'T' :: rest => withTime? date rest
  | rest => withTime? date rest

end DateTime
end Calendar
end TableMapping
