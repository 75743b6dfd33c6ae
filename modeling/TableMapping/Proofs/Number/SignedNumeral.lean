import Mathlib.Data.Nat.Digits.Lemmas
import TableMapping.Proofs.Number.Numeral

/-!
# What a signed numeral says

A numeral is a run of digits, of any length and with any zeros in front, behind an optional sign.  The
digits are those of a number in base ten, the last one counting ones.  The reader of numerals takes
exactly these texts, and finds the number that they write.

* `place`: the number that a run of digits writes.
* `Writes`: the numerals of a number.
* `integer?_eq_some_iff`: what the reader takes.
-/

namespace TableMapping
namespace Numeral

variable {cs : List Char} {n : Int}

/-- The number that digits write in base ten: the last digit counts ones, the one before it tens, and
so on. -/
def place (cs : List Char) : Nat :=
  Nat.ofDigits 10 (cs.reverse.map fun c => c.toNat - 48)

/-- A text that is nothing but digits, and at least one. -/
structure IsRun (cs : List Char) : Prop where
  ne_nil : cs ≠ []
  isDigit : ∀ c ∈ cs, c.isDigit = true

/-- A text writes a number: digits behind an optional sign. -/
inductive Writes : List Char → Int → Prop
  | unsigned {cs : List Char} (h : IsRun cs) : Writes cs (place cs)
  | plus {cs : List Char} (h : IsRun cs) : Writes ('+' :: cs) (place cs)
  | minus {cs : List Char} (h : IsRun cs) : Writes ('-' :: cs) (-(place cs : Int))

theorem valueFrom_eq (acc : Nat) (cs : List Char) :
    valueFrom acc cs = place cs + 10 ^ cs.length * acc := by
  induction cs generalizing acc with
  | nil => simp [valueFrom, place]
  | cons c cs ih =>
    have hplace : place (c :: cs) = place cs + 10 ^ cs.length * (c.toNat - 48) := by
      simp [place, Nat.ofDigits_append, Nat.ofDigits_singleton]
    rw [hplace]
    calc valueFrom acc (c :: cs) = valueFrom (acc * 10 + (c.toNat - 48)) cs := rfl
      _ = place cs + 10 ^ cs.length * (acc * 10 + (c.toNat - 48)) := ih _
      _ = place cs + 10 ^ cs.length * (c.toNat - 48) + 10 ^ (c :: cs).length * acc := by
        rw [List.length_cons, pow_succ]
        ring

theorem value?_eq_some_iff {m : Nat} : value? cs = some m ↔ IsRun cs ∧ m = place cs := by
  have hvalue : IsRun cs → value? cs = some (place cs) := by
    intro h
    rw [value?_of_isDigit h.ne_nil h.isDigit, valueFrom_eq, Nat.mul_zero, Nat.add_zero]
  constructor
  · intro h
    have hrun : IsRun cs := by
      rw [value?] at h
      split at h
      · cases h
      · rename_i hcs
        simp only [Bool.or_eq_true, Bool.not_eq_true', not_or, Bool.not_eq_false,
          List.isEmpty_iff, List.all_eq_true] at hcs
        exact ⟨hcs.1, hcs.2⟩
    rw [hvalue hrun] at h
    exact ⟨hrun, (Option.some.inj h).symm⟩
  · rintro ⟨hrun, rfl⟩
    exact hvalue hrun

theorem map_value?_eq_some_iff {f : Nat → Int} :
    (value? cs).map f = some n ↔ IsRun cs ∧ n = f (place cs) := by
  rw [Option.map_eq_some_iff]
  constructor
  · rintro ⟨m, hm, rfl⟩
    obtain ⟨hrun, rfl⟩ := value?_eq_some_iff.mp hm
    exact ⟨hrun, rfl⟩
  · rintro ⟨hrun, rfl⟩
    exact ⟨place cs, value?_eq_some_iff.mpr ⟨hrun, rfl⟩, rfl⟩

theorem integer?_plus (cs : List Char) :
    integer? ('+' :: cs) = (value? cs).map fun m : Nat => (m : Int) := by
  rw [integer?]
  cases value? cs <;> rfl

theorem integer?_minus (cs : List Char) :
    integer? ('-' :: cs) = (value? cs).map fun m : Nat => -(m : Int) := by
  rw [integer?]
  cases value? cs <;> rfl

/-- Without a sign in front only the digits count. -/
theorem integer?_unsigned (hplus : ∀ ds, cs ≠ '+' :: ds) (hminus : ∀ ds, cs ≠ '-' :: ds) :
    integer? cs = (value? cs).map fun m : Nat => (m : Int) := by
  unfold integer?
  split
  · exact absurd rfl (hminus _)
  · exact absurd rfl (hplus _)
  · cases value? cs <;> rfl

/-- The first character of a run is not a sign. -/
theorem IsRun.ne_cons (h : IsRun cs) {c : Char} (hc : c.isDigit = false) (ds : List Char) :
    cs ≠ c :: ds := by
  rintro rfl
  rw [h.isDigit c List.mem_cons_self] at hc
  exact Bool.noConfusion hc

/-- The reader takes the numerals of a number, and nothing else. -/
theorem integer?_eq_some_iff : integer? cs = some n ↔ Writes cs n := by
  constructor
  · intro h
    by_cases hplus : ∃ ds, cs = '+' :: ds
    · obtain ⟨ds, rfl⟩ := hplus
      rw [integer?_plus] at h
      obtain ⟨hrun, rfl⟩ := map_value?_eq_some_iff.mp h
      exact .plus hrun
    by_cases hminus : ∃ ds, cs = '-' :: ds
    · obtain ⟨ds, rfl⟩ := hminus
      rw [integer?_minus] at h
      obtain ⟨hrun, rfl⟩ := map_value?_eq_some_iff.mp h
      exact .minus hrun
    · rw [integer?_unsigned (fun ds hds => hplus ⟨ds, hds⟩) fun ds hds => hminus ⟨ds, hds⟩] at h
      obtain ⟨hrun, rfl⟩ := map_value?_eq_some_iff.mp h
      exact .unsigned hrun
  · rintro (h | h | h)
    · rw [integer?_unsigned (h.ne_cons rfl) (h.ne_cons rfl)]
      exact map_value?_eq_some_iff.mpr ⟨h, rfl⟩
    · rw [integer?_plus]
      exact map_value?_eq_some_iff.mpr ⟨h, rfl⟩
    · rw [integer?_minus]
      exact map_value?_eq_some_iff.mpr ⟨h, rfl⟩

/-- A number is written by its numeral. -/
theorem writes_ofInt (n : Int) : Writes (ofInt n).toList n :=
  integer?_eq_some_iff.mp (integer?_ofInt n)

/-- A numeral has no characters but digits and a sign. -/
theorem Writes.isDigit_or_sign (h : Writes cs n) {c : Char} (hc : c ∈ cs) :
    c.isDigit = true ∨ c = '+' ∨ c = '-' := by
  cases h with
  | unsigned h => exact .inl (h.isDigit c hc)
  | plus h =>
    rcases List.mem_cons.mp hc with rfl | hc
    · exact .inr (.inl rfl)
    · exact .inl (h.isDigit c hc)
  | minus h =>
    rcases List.mem_cons.mp hc with rfl | hc
    · exact .inr (.inr rfl)
    · exact .inl (h.isDigit c hc)

end Numeral
end TableMapping
