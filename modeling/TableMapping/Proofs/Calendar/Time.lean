import TableMapping.Calendar.Time
import TableMapping.Proofs.Calendar.Date

/-!
# Reading written times

A time of day may be written with a fraction of any length, of which nine digits count, and a point
in time with a blank or a `T` between date and time.  All these texts are read back, a leap second
at the end of a minute and a year with a sign included.  A leap second behind another second is
written as the next second, and read as that.

* `IsFraction`: what a number of billionths may be written as.
* `Time.IsText`, `DateTime.IsText`: the texts of a time and of a point in time, their own among
  them.
* `Time.shown`, `DateTime.shown`: what these texts tell of them.
* `Time.shown_eq_self_iff`: all there is, except for a leap second within a minute.
* `Time.read?_of_isText`, `DateTime.read?_of_isText`: that is read back.
-/

namespace TableMapping
namespace Calendar

open Numeral

/-! ## Fractions -/

/-- What a number of billionths of a second may be written as: nothing where there are none, or a
point and digits.  Digits behind the ninth do not count. -/
inductive IsFraction : Nat → List Char → Prop
  | nothing : IsFraction 0 []
  | digits {ds : List Char} (hne : ds ≠ []) (hds : ∀ c ∈ ds, c.isDigit = true) :
      IsFraction (valueFrom 0 (ds.take 9) * Nat.pow 10 (9 - (ds.take 9).length)) ('.' :: ds)

theorem readFraction?_of_isFraction {nano : Nat} {cs : List Char} (h : IsFraction nano cs) :
    readFraction? cs = some (nano, []) := by
  cases h with
  | nothing => rfl
  | @digits ds hne hds =>
    have hall : ds.takeWhile Char.isDigit = ds := List.takeWhile_eq_self_iff.mpr hds
    have hkept : ds.take 9 ≠ [] := by
      rw [ne_eq, List.take_eq_nil_iff, not_or]
      exact ⟨by decide, hne⟩
    have hvalue := value?_of_isDigit hkept fun c hc => hds c (List.mem_of_mem_take hc)
    simp only [readFraction?, hall, hvalue, Option.map_some, List.drop_length]

/-- A fraction of at most nine digits counts in full. -/
theorem isFraction_padded {width n : Nat} (hwidth : 0 < width) (hle : width ≤ 9)
    (h : n < 10 ^ width) : IsFraction (n * 10 ^ (9 - width)) ('.' :: padded width n) := by
  have hlength := length_padded hwidth h
  have htake : (padded width n).take 9 = padded width n := List.take_of_length_le (by omega)
  have hdigits := IsFraction.digits (padded_ne_nil width n) fun c hc => isDigit_of_mem_padded hc
  rwa [htake, valueFrom_padded, hlength] at hdigits

theorem isFraction_fractionChars {nano : Nat} (h : nano < 1000000000) :
    IsFraction nano (Time.fractionChars nano) := by
  unfold Time.fractionChars
  split
  · rename_i hzero
    rw [hzero]
    exact .nothing
  · split
    · rename_i hthousandths
      have hfraction : IsFraction (nano / 1000000 * 10 ^ (9 - 3))
          ('.' :: padded 3 (nano / 1000000)) :=
        isFraction_padded (by decide) (by decide) (by omega)
      rwa [show nano / 1000000 * 10 ^ (9 - 3) = nano by omega] at hfraction
    · split
      · rename_i hmillionths
        have hfraction : IsFraction (nano / 1000 * 10 ^ (9 - 6)) ('.' :: padded 6 (nano / 1000)) :=
          isFraction_padded (by decide) (by decide) (by omega)
        rwa [show nano / 1000 * 10 ^ (9 - 6) = nano by omega] at hfraction
      · have hfraction : IsFraction (nano * 10 ^ (9 - 9)) ('.' :: padded 9 nano) :=
          isFraction_padded (by decide) (by decide) h
        rwa [show nano * 10 ^ (9 - 9) = nano by omega] at hfraction

theorem not_isBlank_of_isFraction {nano : Nat} {cs : List Char} (h : IsFraction nano cs) :
    ∀ c ∈ cs, Text.isBlank c = false := by
  cases h with
  | nothing => exact List.forall_mem_nil _
  | digits hne hds =>
    exact List.forall_mem_cons.mpr ⟨by decide, fun c hc => Text.isBlank_of_isDigit (hds c hc)⟩

/-! ## Times of day -/

namespace Time

/-- The characters of hour, minute and second. -/
def clockChars (t : Time) : List Char :=
  padded 2 t.hour ++ ':' :: (padded 2 t.minute ++ ':' :: padded 2 t.shownSecond)

/-- A text of a time of day. -/
def IsText (t : Time) (cs : List Char) : Prop :=
  ∃ fraction, IsFraction t.shownNano fraction ∧ cs = t.clockChars ++ fraction

theorem isText_chars (t : Time) : t.IsText t.chars := by
  have hnano : t.shownNano < 1000000000 := Nat.mod_lt _ (by decide)
  refine ⟨fractionChars t.shownNano, isFraction_fractionChars hnano, ?_⟩
  simp only [chars, clockChars, List.append_assoc, List.cons_append]

/-- A time is within a leap second that is not the end of a minute. -/
def LeapsWithin (t : Time) : Prop :=
  1000000000 ≤ t.nano ∧ t.second < 59

instance (t : Time) : Decidable t.LeapsWithin :=
  inferInstanceAs (Decidable (_ ∧ _))

/-- What the texts of a time tell of it.  A leap second within a minute passes for the next second
there. -/
def shown (t : Time) : Time :=
  if h : t.LeapsWithin then
    ⟨t.hour, t.minute, t.second + 1, t.nano - 1000000000, by
      obtain ⟨hhour, hminute, -, hnano⟩ := t.isTime
      exact ⟨hhour, hminute, Nat.add_lt_add_right h.2 1, by omega⟩⟩
  else t

theorem shown_of_leapsWithin {t : Time} (h : t.LeapsWithin) :
    t.shown.second = t.second + 1 ∧ t.shown.nano = t.nano - 1000000000 := by
  rw [shown, dif_pos h]
  exact ⟨rfl, rfl⟩

theorem hour_minute_shown (t : Time) : t.shown.hour = t.hour ∧ t.shown.minute = t.minute := by
  rw [shown]
  split <;> exact ⟨rfl, rfl⟩

theorem shown_eq_self_iff (t : Time) : t.shown = t ↔ ¬t.LeapsWithin := by
  constructor
  · intro heq hleap
    have hnext := (shown_of_leapsWithin hleap).1
    rw [heq] at hnext
    omega
  · exact fun hleap => dif_neg hleap

/-- The clock shows the parts of what is told. -/
theorem ofClock?_shown (t : Time) :
    ofClock? t.hour t.minute t.shownSecond t.shownNano = some t.shown := by
  obtain ⟨hhour, hminute, hsecond, hnano⟩ := t.isTime
  have hparts : ∀ {second nano : Nat} (h : IsTime t.hour t.minute second nano),
      ofParts? t.hour t.minute second nano = some ⟨t.hour, t.minute, second, nano, h⟩ :=
    fun h => dif_pos h
  rw [ofClock?, shownSecond, shownNano]
  by_cases hleap : 1000000000 ≤ t.nano
  · have hdiv : t.nano / 1000000000 = 1 := by omega
    have hmod : t.nano % 1000000000 = t.nano - 1000000000 := by omega
    rw [hdiv, hmod]
    by_cases hwithin : t.LeapsWithin
    · have hbefore := hwithin.2
      rw [if_neg (by omega), hparts ⟨hhour, hminute, by omega, by omega⟩, shown, dif_pos hwithin]
    · have hlast : t.second = 59 := by
        rw [LeapsWithin, not_and] at hwithin
        have hnot := hwithin hleap
        omega
      rw [if_pos (by omega), Nat.sub_add_cancel hleap, t.shown_eq_self_iff.mpr hwithin,
        hparts ⟨hhour, hminute, by omega, hnano⟩]
      simp only [← hlast]
  · have hdiv : t.nano / 1000000000 = 0 := by omega
    have hmod : t.nano % 1000000000 = t.nano := by omega
    rw [hdiv, hmod, Nat.add_zero, if_neg (by omega), hparts t.isTime,
      t.shown_eq_self_iff.mpr fun h => hleap h.1]

/-- A time and what is shown of it have the same text. -/
theorem chars_shown (t : Time) : t.shown.chars = t.chars := by
  by_cases hwithin : t.LeapsWithin
  · obtain ⟨hsecond, hnano⟩ := shown_of_leapsWithin hwithin
    have hle := hwithin.1
    have hlt := t.isTime.2.2.2
    have hsecond' : t.shown.shownSecond = t.shownSecond := by
      rw [shownSecond, shownSecond, hsecond, hnano]
      omega
    have hnano' : t.shown.shownNano = t.shownNano := by
      rw [shownNano, shownNano, hnano]
      omega
    obtain ⟨hhour, hminute⟩ := t.hour_minute_shown
    rw [chars, chars, hsecond', hnano', hhour, hminute]
  · rw [t.shown_eq_self_iff.mpr hwithin]

theorem shownSecond_lt (t : Time) : t.shownSecond < 100 := by
  obtain ⟨-, -, hsecond, hnano⟩ := t.isTime
  rw [shownSecond]
  omega

variable {t : Time} {cs : List Char}

theorem not_isBlank_of_isText (h : t.IsText cs) : ∀ c ∈ cs, Text.isBlank c = false := by
  obtain ⟨fraction, hfraction, rfl⟩ := h
  have hnumber : ∀ n, ∀ c ∈ padded 2 n, Text.isBlank c = false :=
    fun n c hc => Text.isBlank_of_isDigit (isDigit_of_mem_padded hc)
  refine List.forall_mem_append.mpr ⟨?_, not_isBlank_of_isFraction hfraction⟩
  refine List.forall_mem_append.mpr ⟨hnumber t.hour, List.forall_mem_cons.mpr ⟨by decide, ?_⟩⟩
  exact List.forall_mem_append.mpr
    ⟨hnumber t.minute, List.forall_mem_cons.mpr ⟨by decide, hnumber t.shownSecond⟩⟩

theorem isTrimmed_of_isText (h : t.IsText cs) : Text.IsTrimmed cs :=
  .of_forall (not_isBlank_of_isText h)

theorem ne_nil_of_isText (h : t.IsText cs) : cs ≠ [] := by
  obtain ⟨fraction, -, rfl⟩ := h
  exact List.append_ne_nil_of_left_ne_nil
    (List.append_ne_nil_of_left_ne_nil (padded_ne_nil _ _) _) _

end Time

variable {t : Time} {cs : List Char}

/-- A time is read with the number that stands for its hour, whatever blanks are in front. -/
theorem readTime?_of_hour (before : List Char) {fraction : List Char}
    (hfraction : IsFraction t.shownNano fraction)
    (hhour : readNumber? 2 (before ++ (t.clockChars ++ fraction)) =
      readNumber? 2 (t.clockChars ++ fraction)) :
    readTime? (before ++ (t.clockChars ++ fraction)) = some (t.shown, []) := by
  obtain ⟨hour_lt, minute_lt, -, -⟩ := t.isTime
  have hclock : t.clockChars ++ fraction =
      padded 2 t.hour ++ ':' ::
        (padded 2 t.minute ++ ':' :: (padded 2 t.shownSecond ++ fraction)) := by
    simp only [Time.clockChars, List.append_assoc, List.cons_append]
  have hnumber : ∀ {n : Nat}, n < 100 → ∀ rest,
      readNumber? 2 (padded 2 n ++ rest) = some (n, rest) :=
    fun h rest => readNumber?_padded (by decide) h rest
  have hminute := hnumber (by omega : t.minute < 100) (':' :: (padded 2 t.shownSecond ++ fraction))
  have hsecond := hnumber t.shownSecond_lt fraction
  rw [hclock, hnumber (by omega)] at hhour
  rw [hclock, readTime?, hhour]
  simp only [Option.bind_eq_bind, Option.bind_some, readMark?_cons_self, hminute, hsecond,
    readFraction?_of_isFraction hfraction, t.ofClock?_shown]
  rfl

theorem Time.read?_of_isText (h : t.IsText cs) : Time.read? cs = some t.shown := by
  obtain ⟨fraction, hfraction, rfl⟩ := h
  have hread := readTime?_of_hour [] hfraction rfl
  rw [List.nil_append] at hread
  rw [Time.read?, hread]

/-- The blank between date and time does not matter to the time. -/
theorem Time.read?_blank_of_isText (h : t.IsText cs) : Time.read? (' ' :: cs) = some t.shown := by
  obtain ⟨fraction, hfraction, rfl⟩ := h
  have hread := readTime?_of_hour [' '] hfraction (readNumber?_blank 2 _)
  rw [List.singleton_append] at hread
  rw [Time.read?, hread]

/-! ## Points in time -/

namespace DateTime

/-- A text of a point in time. -/
def IsText (x : DateTime) (cs : List Char) : Prop :=
  ∃ mark clock, (mark = ' ' ∨ mark = 'T') ∧ x.time.IsText clock ∧
    cs = x.date.chars ++ mark :: clock

theorem isText_chars (x : DateTime) {mark : Char} (h : mark = ' ' ∨ mark = 'T') :
    x.IsText (x.chars mark) :=
  ⟨mark, x.time.chars, h, x.time.isText_chars, rfl⟩

/-- What the texts of a point in time tell of it. -/
def shown (x : DateTime) : DateTime :=
  ⟨x.date, x.time.shown⟩

theorem shown_eq_self_iff (x : DateTime) : x.shown = x ↔ ¬x.time.LeapsWithin := by
  rw [← x.time.shown_eq_self_iff]
  exact ⟨congrArg DateTime.time, congrArg (DateTime.mk x.date)⟩

variable {x : DateTime}

theorem isTrimmed_of_isText (h : x.IsText cs) : Text.IsTrimmed cs := by
  obtain ⟨mark, clock, -, hclock, rfl⟩ := h
  have htrimmed := x.date.isTrimmed_chars.append (Time.isTrimmed_of_isText hclock)
    x.date.chars_ne_nil (Time.ne_nil_of_isText hclock) [mark]
  rwa [List.append_assoc, List.singleton_append] at htrimmed

theorem read?_of_isText (h : x.IsText cs) : DateTime.read? cs = some x.shown := by
  obtain ⟨mark, clock, hmark, hclock, rfl⟩ := h
  rw [read?, readDate?_chars]
  rcases hmark with rfl | rfl
  · show (Time.read? (' ' :: clock)).map _ = _
    rw [Time.read?_blank_of_isText hclock]
    rfl
  · show (Time.read? clock).map _ = _
    rw [Time.read?_of_isText hclock]
    rfl

/-- The text of a point in time is not that of a date. -/
theorem date_read?_of_isText (h : x.IsText cs) : Date.read? cs = none := by
  obtain ⟨mark, clock, -, -, rfl⟩ := h
  rw [Date.read?, readDate?_chars]

end DateTime

end Calendar
end TableMapping
