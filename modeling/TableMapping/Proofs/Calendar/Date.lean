import TableMapping.Calendar.Date
import TableMapping.Proofs.Text.Blank

/-!
# Reading written dates

A date is read back from its text whatever follows it, for every year of the calendar.

* `readNumber?_padded`: a number that fits its width is read with exactly that width.
* `readYear?_yearChars`: a year with four digits or with a sign.
* `readDate?_chars`: a date in front of anything.
-/

namespace TableMapping
namespace Calendar

open Numeral

/-! ## Numbers and marks -/

theorem trimStart_padded (width n : Nat) (rest : List Char) :
    Text.trimStart (padded width n ++ rest) = padded width n ++ rest := by
  obtain ⟨c, cs, hcs, hc⟩ := exists_cons_padded width n
  rw [hcs, List.cons_append, Text.trimStart_cons (Text.isBlank_of_isDigit hc)]

theorem readNumber?_padded {width n : Nat} (hwidth : 0 < width) (h : n < 10 ^ width)
    (rest : List Char) : readNumber? width (padded width n ++ rest) = some (n, rest) := by
  have hlength := length_padded hwidth h
  have htake : (padded width n ++ rest).take width = padded width n :=
    List.take_left' hlength
  have hdigits : (padded width n).takeWhile Char.isDigit = padded width n :=
    List.takeWhile_eq_self_iff.mpr fun _ hc => isDigit_of_mem_padded hc
  simp only [readNumber?, trimStart_padded, htake, hdigits, value?_padded, List.drop_left,
    Option.map_some]

/-- A blank in front of a number does not matter. -/
theorem readNumber?_blank (width : Nat) (cs : List Char) :
    readNumber? width (' ' :: cs) = readNumber? width cs := by
  have hblank : ∀ c ∈ [' '], Text.isBlank c = true := List.forall_mem_singleton.mpr (by decide)
  have htrim : Text.trimStart (' ' :: cs) = Text.trimStart cs := Text.trimStart_append hblank
  rw [readNumber?, htrim, readNumber?]

@[simp] theorem readMark?_cons_self (mark : Char) (cs : List Char) :
    readMark? mark (mark :: cs) = some cs :=
  if_pos rfl

/-! ## Years -/

theorem takeWhile_padded {c : Char} (hc : c.isDigit = false) (width n : Nat) (rest : List Char) :
    (padded width n ++ c :: rest).takeWhile Char.isDigit = padded width n := by
  rw [List.takeWhile_append_of_pos fun c hc => isDigit_of_mem_padded hc, List.takeWhile_cons, hc,
    if_neg Bool.false_ne_true, List.append_nil]

theorem readYear?_minus (n : Nat) (rest : List Char) :
    readYear? ('-' :: (padded 4 n ++ '-' :: rest)) = some (-(n : Int), '-' :: rest) := by
  have htrim : Text.trimStart ('-' :: (padded 4 n ++ '-' :: rest)) =
      '-' :: (padded 4 n ++ '-' :: rest) := Text.trimStart_cons (by decide) _
  have hdigits := takeWhile_padded (by decide : '-'.isDigit = false) 4 n rest
  rw [readYear?, htrim]
  simp only [hdigits, value?_padded, List.drop_left]
  rfl

theorem readYear?_plus (n : Nat) (rest : List Char) :
    readYear? ('+' :: (padded 4 n ++ '-' :: rest)) = some ((n : Int), '-' :: rest) := by
  have htrim : Text.trimStart ('+' :: (padded 4 n ++ '-' :: rest)) =
      '+' :: (padded 4 n ++ '-' :: rest) := Text.trimStart_cons (by decide) _
  have hdigits := takeWhile_padded (by decide : '-'.isDigit = false) 4 n rest
  rw [readYear?, htrim]
  simp only [hdigits, value?_padded, List.drop_left]
  rfl

/-- A year without sign has up to four digits. -/
theorem readYear?_padded {n : Nat} (h : n < 10000) (rest : List Char) :
    readYear? (padded 4 n ++ rest) = some ((n : Int), rest) := by
  have hnumber : readNumber? 4 (padded 4 n ++ rest) = some (n, rest) :=
    readNumber?_padded (by decide) h rest
  obtain ⟨c, cs, hcs, hc⟩ := exists_cons_padded 4 n
  rw [readYear?, trimStart_padded]
  rw [hcs, List.cons_append] at hnumber ⊢
  split
  · rename_i heq
    cases heq
    exact absurd hc (by decide)
  · rename_i heq
    cases heq
    exact absurd hc (by decide)
  · rw [hnumber]
    rfl

theorem readYear?_yearChars (year : Int) (rest : List Char) :
    readYear? (Date.yearChars year ++ '-' :: rest) = some (year, '-' :: rest) := by
  rw [Date.yearChars]
  split
  · rw [readYear?_padded (by omega)]
    congr 2
    omega
  · split
    · rw [List.cons_append, readYear?_minus]
      congr 2
      omega
    · rw [List.cons_append, readYear?_plus]
      congr 2
      omega

/-! ## Dates -/

namespace Date

variable {d : Date}

theorem daysInMonth_le (year : Int) (month : Nat) : daysInMonth year month ≤ 31 := by
  unfold daysInMonth
  split
  · split <;> decide
  · split <;> decide

theorem month_lt (d : Date) : d.month < 10 ^ 2 := by
  have hmonth := d.isDate.2.1.2
  omega

theorem day_lt (d : Date) : d.day < 10 ^ 2 := by
  have hday := d.isDate.2.2.2
  have hdays := daysInMonth_le d.year d.month
  omega

theorem ofParts?_self (d : Date) : ofParts? d.year d.month d.day = some d :=
  dif_pos d.isDate

theorem eq_of_mem_yearChars {year : Int} {c : Char} (h : c ∈ yearChars year) :
    c.isDigit = true ∨ c = '-' ∨ c = '+' := by
  rw [yearChars] at h
  split at h
  · exact .inl (isDigit_of_mem_padded h)
  · rcases List.mem_cons.mp h with rfl | h
    · split
      · exact .inr (.inl rfl)
      · exact .inr (.inr rfl)
    · exact .inl (isDigit_of_mem_padded h)

theorem chars_ne_nil (d : Date) : d.chars ≠ [] :=
  List.append_ne_nil_of_right_ne_nil _ (List.cons_ne_nil _ _)

/-- There is no blank in the text of a date. -/
theorem isTrimmed_chars (d : Date) : Text.IsTrimmed d.chars := by
  refine .of_forall fun c hc => ?_
  rw [chars, List.mem_append, List.mem_append, List.mem_cons, List.mem_cons] at hc
  rcases hc with (hc | rfl | hc) | rfl | hc
  · rcases eq_of_mem_yearChars hc with hc | rfl | rfl
    · exact Text.isBlank_of_isDigit hc
    · decide
    · decide
  · decide
  · exact Text.isBlank_of_isDigit (isDigit_of_mem_padded hc)
  · decide
  · exact Text.isBlank_of_isDigit (isDigit_of_mem_padded hc)

end Date

/-- A date is read from the front of a text. -/
theorem readDate?_chars (d : Date) (rest : List Char) :
    readDate? (d.chars ++ rest) = some (d, rest) := by
  have hyear := readYear?_yearChars d.year (padded 2 d.month ++ '-' :: (padded 2 d.day ++ rest))
  have hmonth := readNumber?_padded (by decide) d.month_lt ('-' :: (padded 2 d.day ++ rest))
  have hday := readNumber?_padded (by decide) d.day_lt rest
  have hchars : d.chars ++ rest =
      Date.yearChars d.year ++ '-' :: (padded 2 d.month ++ '-' :: (padded 2 d.day ++ rest)) := by
    simp only [Date.chars, List.append_assoc, List.cons_append]
  rw [hchars, readDate?, hyear]
  simp only [Option.bind_eq_bind, Option.bind_some, readMark?_cons_self, hmonth, hday,
    d.ofParts?_self]
  rfl

theorem Date.read?_chars (d : Date) : Date.read? d.chars = some d := by
  have hread := readDate?_chars d []
  rw [List.append_nil] at hread
  rw [Date.read?, hread]

end Calendar
end TableMapping
