import TableMapping.Number.FixedPoint
import TableMapping.Proofs.Text.Blank

/-!
# Reading written decimals

A decimal is read back from its plain text with every digit and its scale.  The one thing that is
lost is the sign of a zero, for a zero that is read digit by digit has none.

* `Progress.read?_whole`, `Progress.read?_places`: the digits before and behind the point, as long
  as they fit.
* `read?_text`: the whole text.
-/

namespace TableMapping
namespace FixedPoint

open Numeral

/-! ## Digits -/

namespace Progress

variable {p : Progress} {c : Char} {ds rest : List Char}

/-- What is read once another digit has been read. -/
def push (p : Progress) (c : Char) : Progress :=
  ⟨p.coefficient * 10 + digitValue c, if p.afterPoint then p.scale + 1 else 0, p.afterPoint, true⟩

/-- A digit that fits is read. -/
theorem read?_cons_digit (hc : c.isDigit = true)
    (hroom : (p.afterPoint && decide (maxScale ≤ p.scale)) = false)
    (hfits : p.coefficient * 10 + digitValue c < coefficientBound) (cs : List Char) :
    p.read? (c :: cs) = (p.push c).read? cs := by
  have hbound : ¬ coefficientBound ≤ p.coefficient * 10 + digitValue c := by omega
  rw [read?, hroom, if_neg Bool.false_ne_true, if_pos hc, if_neg hbound, push]

/-- The coefficient after a run of digits does not get smaller on the way. -/
theorem push_fits (h : valueFrom p.coefficient (c :: ds) < coefficientBound) :
    p.coefficient * 10 + digitValue c < coefficientBound :=
  Nat.lt_of_le_of_lt (le_valueFrom _ ds) h

/-- Before the point, digits are read as long as the number fits. -/
theorem read?_whole (hds : ∀ c ∈ ds, c.isDigit = true) (hne : ds ≠ [])
    (hpoint : p.afterPoint = false) (hfits : valueFrom p.coefficient ds < coefficientBound) :
    p.read? (ds ++ rest) = read? ⟨valueFrom p.coefficient ds, 0, false, true⟩ rest := by
  induction ds generalizing p with
  | nil => exact absurd rfl hne
  | cons c ds ih =>
    obtain ⟨hc, hds⟩ := List.forall_mem_cons.mp hds
    have hroom : (p.afterPoint && decide (maxScale ≤ p.scale)) = false := by rw [hpoint]; rfl
    rw [List.cons_append, read?_cons_digit hc hroom (push_fits hfits)]
    have hpush : p.push c = ⟨p.coefficient * 10 + digitValue c, 0, false, true⟩ := by
      rw [push, hpoint]
      rfl
    rw [hpush]
    cases ds with
    | nil => rfl
    | cons c' ds => exact ih (p := ⟨_, 0, false, true⟩) hds (List.cons_ne_nil _ _) rfl hfits

/-- Behind the point, digits are read as long as there are places left. -/
theorem read?_places (hds : ∀ c ∈ ds, c.isDigit = true) (hpoint : p.afterPoint = true)
    (hany : p.anyDigit = true) (hscale : p.scale + ds.length ≤ maxScale)
    (hfits : valueFrom p.coefficient ds < coefficientBound) :
    p.read? ds = some (valueFrom p.coefficient ds, p.scale + ds.length) := by
  induction ds generalizing p with
  | nil =>
    rw [read?, finish?, hany]
    rfl
  | cons c ds ih =>
    obtain ⟨hc, hds⟩ := List.forall_mem_cons.mp hds
    rw [List.length_cons] at hscale ⊢
    have hroom : (p.afterPoint && decide (maxScale ≤ p.scale)) = false := by
      rw [hpoint, Bool.true_and, decide_eq_false_iff_not]
      omega
    have hpush : p.push c = ⟨p.coefficient * 10 + digitValue c, p.scale + 1, true, true⟩ := by
      rw [push, hpoint]
      rfl
    have hscale' : (p.push c).scale + ds.length ≤ maxScale := by
      rw [hpush]
      show p.scale + 1 + ds.length ≤ maxScale
      omega
    have hrest := ih (p := p.push c) hds (by rw [hpush]) (by rw [hpush]) hscale'
      (by rw [hpush]; exact hfits)
    rw [read?_cons_digit hc hroom (push_fits hfits), hrest, hpush]
    simp only [valueFrom, List.foldl_cons, digitValue, Option.some.injEq, Prod.mk.injEq, true_and]
    omega

end Progress

/-! ## The plain text -/

/-- The digits of a decimal: at least one more than there are places. -/
def plainDigits (d : FixedPoint) : List Char :=
  padded (d.scale + 1) d.coefficient

/-- The digits before the point. -/
def wholeDigits (d : FixedPoint) : List Char :=
  d.plainDigits.take (d.plainDigits.length - d.scale)

/-- The digits behind the point. -/
def placeDigits (d : FixedPoint) : List Char :=
  d.plainDigits.drop (d.plainDigits.length - d.scale)

/-- The characters of a decimal without its sign. -/
def plainChars (d : FixedPoint) : List Char :=
  d.wholeDigits ++ if d.scale = 0 then [] else '.' :: d.placeDigits

theorem toList_text (d : FixedPoint) :
    d.text.toList = (if d.negative then ['-'] else []) ++ d.plainChars := by
  rw [text, String.toList_ofList, plainChars, List.append_assoc]
  rfl

section PlainDigits

variable {d : FixedPoint} {c : Char}

theorem isDigit_of_mem_wholeDigits (h : c ∈ d.wholeDigits) : c.isDigit = true :=
  isDigit_of_mem_padded (List.mem_of_mem_take h)

theorem isDigit_of_mem_placeDigits (h : c ∈ d.placeDigits) : c.isDigit = true :=
  isDigit_of_mem_padded (List.mem_of_mem_drop h)

theorem length_plainDigits (d : FixedPoint) : d.scale + 1 ≤ d.plainDigits.length :=
  le_length_padded _ _

theorem length_placeDigits (d : FixedPoint) : d.placeDigits.length = d.scale := by
  have hlength := d.length_plainDigits
  rw [placeDigits, List.length_drop]
  omega

theorem wholeDigits_ne_nil (d : FixedPoint) : d.wholeDigits ≠ [] := by
  have hlength := d.length_plainDigits
  rw [wholeDigits, ne_eq, List.take_eq_nil_iff, not_or]
  exact ⟨by omega, padded_ne_nil _ _⟩

/-- The digits before and behind the point together have the value of the coefficient. -/
theorem valueFrom_placeDigits (d : FixedPoint) :
    valueFrom (valueFrom 0 d.wholeDigits) d.placeDigits = d.coefficient := by
  rw [← valueFrom_append, wholeDigits, placeDigits, List.take_append_drop]
  exact valueFrom_padded _ _

end PlainDigits

/-- The characters are digits, up to one point. -/
theorem eq_of_mem_plainChars {d : FixedPoint} {c : Char} (h : c ∈ d.plainChars) :
    c.isDigit = true ∨ c = '.' := by
  rw [plainChars, List.mem_append] at h
  rcases h with h | h
  · exact .inl (isDigit_of_mem_wholeDigits h)
  · split at h
    · exact absurd h List.not_mem_nil
    · rcases List.mem_cons.mp h with rfl | h
      · exact .inr rfl
      · exact .inl (isDigit_of_mem_placeDigits h)

/-- The first of them is a digit. -/
theorem exists_plainChars (d : FixedPoint) :
    ∃ c cs, d.plainChars = c :: cs ∧ c.isDigit = true := by
  obtain ⟨c, cs, hcs⟩ := List.exists_cons_of_ne_nil d.wholeDigits_ne_nil
  refine ⟨c, _, by rw [plainChars, hcs, List.cons_append], isDigit_of_mem_wholeDigits (d := d) ?_⟩
  rw [hcs]
  exact List.mem_cons_self

/-- The digits are read with the point where it stands. -/
theorem read?_plainChars (d : FixedPoint) :
    Progress.start.read? d.plainChars = some (d.coefficient, d.scale) := by
  have hvalue := d.valueFrom_placeDigits
  have hfits : valueFrom (valueFrom 0 d.wholeDigits) d.placeDigits < coefficientBound := by
    rw [hvalue]
    exact d.coefficient_lt
  have hwhole : ∀ rest, Progress.start.read? (d.wholeDigits ++ rest) =
      Progress.read? ⟨valueFrom 0 d.wholeDigits, 0, false, true⟩ rest := fun rest =>
    Progress.read?_whole (fun c hc => isDigit_of_mem_wholeDigits hc) d.wholeDigits_ne_nil rfl
      (Nat.lt_of_le_of_lt (le_valueFrom _ _) hfits)
  rw [plainChars, hwhole]
  split
  · rename_i hscale
    have hnone : d.placeDigits = [] :=
      List.eq_nil_of_length_eq_zero (d.length_placeDigits.trans hscale)
    rw [hnone] at hvalue
    rw [hscale, ← hvalue]
    rfl
  · show Progress.read? ⟨valueFrom 0 d.wholeDigits, 0, true, true⟩ d.placeDigits = _
    have hroom : 0 + d.placeDigits.length ≤ maxScale := by
      rw [d.length_placeDigits, Nat.zero_add]
      exact d.scale_le
    rw [Progress.read?_places (fun c hc => isDigit_of_mem_placeDigits hc) rfl rfl hroom hfits,
      hvalue, d.length_placeDigits, Nat.zero_add]

/-! ## Signs -/

/-- The decimal with the sign that reading gives it: a zero has none. -/
def withoutZeroSign (d : FixedPoint) : FixedPoint :=
  ⟨d.negative && d.coefficient != 0, d.coefficient, d.scale, d.coefficient_lt, d.scale_le⟩

theorem withoutZeroSign_eq {d : FixedPoint} (h : d.negative = true → d.coefficient ≠ 0) :
    d.withoutZeroSign = d := by
  rw [withoutZeroSign]
  cases hnegative : d.negative with
  | false =>
    cases d
    cases hnegative
    rfl
  | true =>
    have hzero : (d.coefficient != 0) = true := bne_iff_ne.mpr (h hnegative)
    cases d
    cases hnegative
    rw [hzero]
    rfl

theorem signed?_parts (d : FixedPoint) :
    signed? d.negative (d.coefficient, d.scale) = some d.withoutZeroSign :=
  dif_pos ⟨d.coefficient_lt, d.scale_le⟩

theorem positional?_text (d : FixedPoint) :
    positional? d.text.toList = some d.withoutZeroSign := by
  rw [toList_text]
  cases hnegative : d.negative with
  | true =>
    show (Progress.start.read? d.plainChars).bind (signed? true) = _
    rw [read?_plainChars, Option.bind_some, ← hnegative, signed?_parts]
  | false =>
    obtain ⟨c, cs, hcs, hc⟩ := exists_plainChars d
    have hunsigned : positional? d.plainChars =
        (Progress.start.read? d.plainChars).bind (signed? false) := by
      rw [hcs]
      unfold positional?
      split
      · rename_i heq
        cases heq
        exact absurd hc (by decide)
      · rename_i heq
        cases heq
        exact absurd hc (by decide)
      · rfl
    show positional? d.plainChars = _
    rw [hunsigned, read?_plainChars, Option.bind_some, ← hnegative, signed?_parts]

theorem mem_toList_text {d : FixedPoint} {c : Char} (h : c ∈ d.text.toList) :
    c.isDigit = true ∨ c = '.' ∨ c = '-' := by
  rw [toList_text, List.mem_append] at h
  rcases h with h | h
  · split at h
    · exact .inr (.inr (List.mem_singleton.mp h))
    · exact absurd h List.not_mem_nil
  · rcases eq_of_mem_plainChars h with h | h
    · exact .inl h
    · exact .inr (.inl h)

/-- A decimal is read back from its plain text, up to the sign of a zero. -/
theorem read?_text (d : FixedPoint) : read? d.text.toList = some d.withoutZeroSign := by
  have hplain : ∀ c ∈ d.text.toList, (!(c == 'e' || c == 'E')) = true := by
    intro c hc
    rcases mem_toList_text hc with hc | rfl | rfl
    · have hnot : c ≠ 'e' ∧ c ≠ 'E' := by
        constructor
        · rintro rfl
          exact absurd hc (by decide)
        · rintro rfl
          exact absurd hc (by decide)
      simp [hnot.1, hnot.2]
    · decide
    · decide
  have hbase := List.takeWhile_eq_self_iff.mpr hplain
  have hrest := List.dropWhile_eq_nil_iff.mpr hplain
  simp only [read?, hbase, hrest, positional?_text]

/-- There is no blank in the text of a decimal. -/
theorem isTrimmed_text (d : FixedPoint) : Text.IsTrimmed d.text.toList := by
  refine .of_forall fun c hc => ?_
  rcases mem_toList_text hc with hc | rfl | rfl
  · exact Text.isBlank_of_isDigit hc
  · decide
  · decide

end FixedPoint
end TableMapping
