import Mathlib.Algebra.Group.Nat.Defs
import TableMapping.Number.Numeral

/-!
# Reading written numerals

A number is read back from its digits, with zeros in front of them or with a sign.

* `value?_digits`, `value?_padded`: the digits of a number have its value.
* `length_padded`: a number that fits a width is written with this width.
* `integer?_ofInt`: a signed number is read back from its numeral.
-/

namespace TableMapping
namespace Numeral

theorem isDigit_digitChar {d : Nat} (h : d < 10) : (digitChar d).isDigit = true := by
  have hall : ∀ d < 10, (digitChar d).isDigit = true := by decide
  exact hall d h

theorem toNat_digitChar {d : Nat} (h : d < 10) : (digitChar d).toNat = 48 + d := by
  have hall : ∀ d < 10, (digitChar d).toNat = 48 + d := by decide
  exact hall d h

theorem isDigit_of_mem_digits {n : Nat} {c : Char} (h : c ∈ digits n) : c.isDigit = true := by
  induction n using digits.induct with
  | case1 n hn =>
    rw [digits, if_pos hn, List.mem_singleton] at h
    rw [h]
    exact isDigit_digitChar hn
  | case2 n hn ih =>
    rw [digits, if_neg hn, List.mem_append, List.mem_singleton] at h
    rcases h with h | rfl
    · exact ih h
    · exact isDigit_digitChar (Nat.mod_lt n (by decide))

theorem valueFrom_digits (n : Nat) : valueFrom 0 (digits n) = n := by
  induction n using digits.induct with
  | case1 n hn =>
    rw [digits, if_pos hn, valueFrom, List.foldl_cons, List.foldl_nil, toNat_digitChar hn]
    omega
  | case2 n hn ih =>
    have hlast : n % 10 < 10 := Nat.mod_lt n (by decide)
    rw [valueFrom] at ih
    rw [digits, if_neg hn, valueFrom, List.foldl_append, ih, List.foldl_cons, List.foldl_nil,
      toNat_digitChar hlast]
    omega

theorem digits_ne_nil (n : Nat) : digits n ≠ [] := by
  rw [digits]
  split
  · exact List.cons_ne_nil _ _
  · exact List.append_ne_nil_of_right_ne_nil _ (List.cons_ne_nil _ _)

/-- The first character of a run of digits is a digit. -/
theorem exists_cons_of_isDigit {cs : List Char} (hne : cs ≠ [])
    (h : ∀ c ∈ cs, c.isDigit = true) : ∃ c ds, cs = c :: ds ∧ c.isDigit = true := by
  obtain ⟨c, ds, rfl⟩ := List.exists_cons_of_ne_nil hne
  exact ⟨c, ds, rfl, h c List.mem_cons_self⟩

theorem exists_cons_digits (n : Nat) : ∃ c cs, digits n = c :: cs ∧ c.isDigit = true :=
  exists_cons_of_isDigit (digits_ne_nil n) fun _ hc => isDigit_of_mem_digits hc

/-- Only zero is written with a zero in front. -/
theorem head?_digits {n : Nat} (h : 0 < n) : (digits n).head? ≠ some '0' := by
  induction n using digits.induct with
  | case1 n hn =>
    have hall : ∀ d < 10, 0 < d → some (digitChar d) ≠ some '0' := by decide
    rw [digits, if_pos hn, List.head?_cons]
    exact hall n hn h
  | case2 n hn ih =>
    obtain ⟨c, cs, hcs, -⟩ := exists_cons_digits (n / 10)
    have hhead := ih (by omega)
    rw [hcs] at hhead
    rwa [digits, if_neg hn, hcs, List.cons_append]

/-- A run of digits has a value. -/
theorem value?_of_isDigit {cs : List Char} (hne : cs ≠ []) (h : ∀ c ∈ cs, c.isDigit = true) :
    value? cs = some (valueFrom 0 cs) := by
  have hall : cs.all Char.isDigit = true := List.all_eq_true.mpr h
  have hsome : cs.isEmpty = false := List.isEmpty_eq_false_iff.mpr hne
  rw [value?, hall, hsome]
  rfl

theorem value?_digits (n : Nat) : value? (digits n) = some n := by
  rw [value?_of_isDigit (digits_ne_nil n) fun _ hc => isDigit_of_mem_digits hc, valueFrom_digits]

/-! ## Letter case -/

theorem toLower_digitChar {d : Nat} (h : d < 10) :
    (digitChar d).toLower = digitChar d := by
  have hall : ∀ d < 10, (digitChar d).toLower = digitChar d := by decide
  exact hall d h

theorem map_toLower_digits (n : Nat) :
    (digits n).map Char.toLower = digits n := by
  induction n using digits.induct with
  | case1 n hn => rw [digits, if_pos hn, List.map_singleton, toLower_digitChar hn]
  | case2 n hn ih =>
    rw [digits, if_neg hn, List.map_append, ih, List.map_singleton,
      toLower_digitChar (Nat.mod_lt n (by decide))]

/-! ## Values of parts -/

theorem valueFrom_append (acc : Nat) (cs ds : List Char) :
    valueFrom acc (cs ++ ds) = valueFrom (valueFrom acc cs) ds :=
  List.foldl_append

theorem le_valueFrom (acc : Nat) (cs : List Char) : acc ≤ valueFrom acc cs := by
  induction cs generalizing acc with
  | nil => exact Nat.le_refl acc
  | cons c cs ih =>
    have hrest := ih (acc * 10 + (c.toNat - 48))
    rw [valueFrom] at hrest ⊢
    rw [List.foldl_cons]
    omega

theorem valueFrom_replicate_zero (k : Nat) : valueFrom 0 (List.replicate k '0') = 0 := by
  induction k with
  | zero => rfl
  | succ k ih =>
    rw [List.replicate_succ]
    exact ih

/-! ## Zeros in front -/

theorem isDigit_of_mem_padded {width n : Nat} {c : Char} (h : c ∈ padded width n) :
    c.isDigit = true := by
  rw [padded, List.mem_append] at h
  rcases h with h | h
  · rw [List.eq_of_mem_replicate h]
    decide
  · exact isDigit_of_mem_digits h

theorem padded_ne_nil (width n : Nat) : padded width n ≠ [] :=
  List.append_ne_nil_of_right_ne_nil _ (digits_ne_nil n)

/-- The first character of a numeral is a digit. -/
theorem exists_cons_padded (width n : Nat) :
    ∃ c cs, padded width n = c :: cs ∧ c.isDigit = true :=
  exists_cons_of_isDigit (padded_ne_nil width n) fun _ hc => isDigit_of_mem_padded hc

theorem valueFrom_padded (width n : Nat) : valueFrom 0 (padded width n) = n := by
  rw [padded, valueFrom_append, valueFrom_replicate_zero, valueFrom_digits]

theorem value?_padded (width n : Nat) : value? (padded width n) = some n := by
  rw [value?_of_isDigit (padded_ne_nil width n) fun _ hc => isDigit_of_mem_padded hc,
    valueFrom_padded]

theorem length_digits_le {width n : Nat} (hwidth : 0 < width) (h : n < 10 ^ width) :
    (digits n).length ≤ width := by
  induction n using digits.induct generalizing width with
  | case1 n hn =>
    rw [digits, if_pos hn, List.length_singleton]
    exact hwidth
  | case2 n hn ih =>
    obtain ⟨w, rfl⟩ : ∃ w, width = w + 1 := ⟨width - 1, by omega⟩
    rw [Nat.pow_succ] at h
    have hw : 0 < w := by
      rcases Nat.eq_zero_or_pos w with rfl | hw
      · omega
      · exact hw
    have hshort := ih hw (by omega)
    rw [digits, if_neg hn, List.length_append, List.length_singleton]
    omega

theorem le_length_padded (width n : Nat) : width ≤ (padded width n).length := by
  rw [padded, List.length_append, List.length_replicate]
  omega

theorem length_padded {width n : Nat} (hwidth : 0 < width) (h : n < 10 ^ width) :
    (padded width n).length = width := by
  have hdigits := length_digits_le hwidth h
  rw [padded, List.length_append, List.length_replicate]
  omega

/-! ## Signs -/

/-- A numeral that starts with a digit has no sign. -/
theorem integer?_of_isDigit {c : Char} {cs : List Char} (hc : c.isDigit = true) :
    integer? (c :: cs) = (value? (c :: cs)).map fun n => (n : Int) := by
  unfold integer?
  split
  · rename_i heq
    cases heq
    exact absurd hc (by decide)
  · rename_i heq
    cases heq
    exact absurd hc (by decide)
  · rfl

theorem integer?_digits (n : Nat) : integer? (digits n) = some (n : Int) := by
  obtain ⟨c, cs, hcs⟩ := List.exists_cons_of_ne_nil (digits_ne_nil n)
  have hc : c.isDigit = true := isDigit_of_mem_digits (n := n) (by rw [hcs]; exact List.mem_cons_self)
  have hvalue := value?_digits n
  rw [hcs] at hvalue ⊢
  rw [integer?_of_isDigit hc, hvalue]
  rfl

theorem integer?_ofInt (n : Int) : integer? (ofInt n).toList = some n := by
  rw [ofInt]
  split
  · rename_i hneg
    rw [String.toList_ofList, integer?, value?_digits]
    show some (-(n.natAbs : Int)) = some n
    congr 1
    omega
  · rename_i hpos
    rw [ofNat, String.toList_ofList, integer?_digits]
    congr 1
    omega

/-- The characters of a signed numeral are digits, up to a minus sign in front. -/
theorem exists_toList_ofInt (n : Int) :
    ∃ sign k, (ofInt n).toList = sign ++ digits k ∧ (sign = [] ∨ sign = ['-']) := by
  rw [ofInt]
  split
  · exact ⟨['-'], n.natAbs, String.toList_ofList, .inr rfl⟩
  · exact ⟨[], n.natAbs, String.toList_ofList, .inl rfl⟩

end Numeral
end TableMapping
