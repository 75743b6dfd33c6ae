import TableMapping.Proofs.Number.SignedNumeral
import TableMapping.Proofs.Value.DriverShape

/-!
# Whole numbers in other kinds

A whole number comes back from an engine in any of the eight integral kinds, as a truth value or as a
numeral.  Coercion to an integral type goes by way of a 64-bit number and then narrows it; on both
stages a number that does not fit is refused, so the answer is the number itself or an error.

* `Scalar.Integral`, `Scalar.Denotes`: the number that a scalar stands for.
* `Fits`: the numbers of a signed type of so many bits.
* `integer?_of_denotes`: the 64-bit number in the middle.
* `coerceInteger_of_denotes`: the two stages, for all integral types at once.
* `coerce_denotes`: what becomes of a whole number.
-/

namespace TableMapping

open Text

/-! ## Numbers -/

/-- A number is one of a signed type of so many bits. -/
def Fits (bits : Nat) (n : Int) : Prop :=
  -2 ^ (bits - 1) ≤ n ∧ n < 2 ^ (bits - 1)

instance (bits : Nat) (n : Int) : Decidable (Fits bits n) :=
  inferInstanceAs (Decidable (_ ∧ _))

/-- The number of bits of the integral types. -/
def FieldType.bits? : FieldType → Option Nat
  | .tinyInt => some 8
  | .smallInt => some 16
  | .int => some 32
  | .bigInt => some 64
  | _ => none

namespace Scalar

/-- The number that a scalar of an integral kind is. -/
inductive Integral : Scalar → Int → Prop
  | tinyInt (n : Int8) : Integral (.tinyInt n) n.toInt
  | smallInt (n : Int16) : Integral (.smallInt n) n.toInt
  | int (n : Int32) : Integral (.int n) n.toInt
  | bigInt (n : Int64) : Integral (.bigInt n) n.toInt
  | tinyUnsigned (n : UInt8) : Integral (.tinyUnsigned n) n.toNat
  | smallUnsigned (n : UInt16) : Integral (.smallUnsigned n) n.toNat
  | unsigned (n : UInt32) : Integral (.unsigned n) n.toNat
  | bigUnsigned (n : UInt64) : Integral (.bigUnsigned n) n.toNat

/-- The whole number that a scalar stands for. -/
inductive Denotes : Scalar → Int → Prop
  | integral {s : Scalar} {n : Int} (h : s.Integral n) : Denotes s n
  /-- A truth value is one or zero. -/
  | truth (b : Bool) : Denotes (.bool b) (if b then 1 else 0)
  /-- A text with a numeral in it, and blanks around the numeral. -/
  | numeral {text : String} {cs : List Char} {n : Int} (htext : Surrounds text cs)
      (hcs : Numeral.Writes cs n) : Denotes (.string text) n

end Scalar

/-- A decimal is a whole number. -/
def FixedPoint.IsWhole (d : FixedPoint) (n : Int) : Prop :=
  (if d.negative then -(d.coefficient : Int) else d.coefficient) = n * 10 ^ d.scale

/-! ## The 64-bit number in the middle -/

section Middle

variable {s : Scalar} {n : Int}

theorem fits_64_iff :
    Fits 64 n ↔ -9223372036854775808 ≤ n ∧ n ≤ 9223372036854775807 := by
  have hpow : (2 : Int) ^ (64 - 1) = 9223372036854775808 := by norm_num
  rw [Fits, hpow]
  omega

theorem Fits.mono {bits bits' : Nat} (h : Fits bits n) (hbits : bits ≤ bits') : Fits bits' n := by
  have hpow : (2 : Int) ^ (bits - 1) ≤ 2 ^ (bits' - 1) :=
    pow_le_pow_right₀ (by decide) (Nat.sub_le_sub_right hbits 1)
  obtain ⟨hlow, hhigh⟩ := h
  exact ⟨by omega, by omega⟩

theorem int64OfInt?_of_fits (h : Fits 64 n) : int64OfInt? n = some (Int64.ofInt n) :=
  if_pos (fits_64_iff.mp h)

theorem int64OfInt?_of_not_fits (h : ¬Fits 64 n) : int64OfInt? n = none :=
  if_neg fun hn => h (fits_64_iff.mpr hn)

theorem toInt_ofInt_of_fits (h : Fits 64 n) : (Int64.ofInt n).toInt = n :=
  Int64.toInt_ofInt_of_le h.1 h.2

/-- No numeral starts or ends with a blank. -/
theorem isTrimmed_of_writes {cs : List Char} (h : Numeral.Writes cs n) : IsTrimmed cs := by
  refine .of_forall fun c hc => ?_
  rcases h.isDigit_or_sign hc with hdigit | rfl | rfl
  · exact isBlank_of_isDigit hdigit
  · rfl
  · rfl

namespace Scalar

theorem integer?_of_integral (h : s.Integral n) : s.integer? = int64OfInt? n := by
  cases h with
  | tinyInt n =>
    rw [← n.toInt_toInt64, int64OfInt?_toInt]
    rfl
  | smallInt n =>
    rw [← n.toInt_toInt64, int64OfInt?_toInt]
    rfl
  | int n =>
    rw [← n.toInt_toInt64, int64OfInt?_toInt]
    rfl
  | bigInt n =>
    rw [int64OfInt?_toInt]
    rfl
  | _ => rfl

/-- Every scalar that stands for a whole number goes by way of the 64-bit number, if there is one. -/
theorem integer?_of_denotes (h : s.Denotes n) : s.integer? = int64OfInt? n := by
  cases h with
  | integral h => exact integer?_of_integral h
  | truth b => cases b <;> rfl
  | numeral htext hcs =>
    show (Text.integer? _).bind int64OfInt? = _
    rw [Text.integer?, trimBoth_of_surrounds htext (isTrimmed_of_writes hcs),
      Numeral.integer?_eq_some_iff.mpr hcs, Option.bind_some]

end Scalar
end Middle

namespace Value

variable {s : Scalar} {n : Int} {t : FieldType}

/-! ## The two stages -/

/-- A whole number is narrowed to so many bits when it fits, and refused otherwise: as no integer
when it does not fit 64 bits, and as out of range when it does. -/
theorem coerceInteger_of_denotes {bits : Nat} {make : Int → Scalar} (hbits : bits ≤ 64)
    (h : s.Denotes n) :
    coerceInteger s t (-2 ^ (bits - 1)) (2 ^ (bits - 1) - 1) make =
      if Fits bits n then .ok (.of (make n))
      else .error (if Fits 64 n then .outOfRange n t else .notInteger (.of s)) := by
  rw [coerceInteger, Scalar.integer?_of_denotes h]
  have hrange : (-2 ^ (bits - 1) ≤ n ∧ n ≤ 2 ^ (bits - 1) - 1) ↔ Fits bits n := by
    rw [Fits]
    omega
  by_cases hwide : Fits 64 n
  · rw [int64OfInt?_of_fits hwide]
    simp only [toInt_ofInt_of_fits hwide, hrange, if_pos hwide]
  · have hnarrow : ¬Fits bits n := fun hn => hwide (hn.mono hbits)
    rw [int64OfInt?_of_not_fits hwide]
    simp only [if_neg hwide, if_neg hnarrow]

/-- The scalar of an integral type with this number. -/
def integerOf : FieldType → Int → Scalar
  | .tinyInt, n => .tinyInt (Int8.ofInt n)
  | .smallInt, n => .smallInt (Int16.ofInt n)
  | .int, n => .int (Int32.ofInt n)
  | _, n => .bigInt (Int64.ofInt n)

section

variable {bits : Nat} (ht : t.bits? = some bits)

include ht

theorem integral_integerOf (hn : Fits bits n) :
    (integerOf t n).kind = t.kind ∧ (integerOf t n).Integral n := by
  cases t <;> cases ht
  case tinyInt =>
    have h := Scalar.Integral.tinyInt (Int8.ofInt n)
    rw [Int8.toInt_ofInt_of_le hn.1 hn.2] at h
    exact ⟨rfl, h⟩
  case smallInt =>
    have h := Scalar.Integral.smallInt (Int16.ofInt n)
    rw [Int16.toInt_ofInt_of_le hn.1 hn.2] at h
    exact ⟨rfl, h⟩
  case int =>
    have h := Scalar.Integral.int (Int32.ofInt n)
    rw [Int32.toInt_ofInt_of_le hn.1 hn.2] at h
    exact ⟨rfl, h⟩
  case bigInt =>
    have h := Scalar.Integral.bigInt (Int64.ofInt n)
    rw [Int64.toInt_ofInt_of_le hn.1 hn.2] at h
    exact ⟨rfl, h⟩

/-- The bounds of an integral type are those of its bits. -/
theorem coerce_eq_coerceInteger (s : Scalar) :
    bits ≤ 64 ∧ (Value.of s).coerce t =
      coerceInteger s t (-2 ^ (bits - 1)) (2 ^ (bits - 1) - 1) (integerOf t) := by
  cases t <;> cases ht <;> exact ⟨by decide, rfl⟩

theorem coerce_integral (h : s.Denotes n) :
    (Value.of s).coerce t =
      if Fits bits n then .ok (.of (integerOf t n))
      else .error (if Fits 64 n then .outOfRange n t else .notInteger (.of s)) := by
  obtain ⟨hbits, hcoerce⟩ := coerce_eq_coerceInteger ht s
  rw [hcoerce, coerceInteger_of_denotes hbits h]

end

/-! ## Other types -/

/-- Of a scalar of an integral kind only the 64-bit number counts. -/
theorem map_orReason_of_integral {α : Type} (h : s.Integral n) (reason : Reason)
    (f : Int64 → α) :
    (orReason reason s.integer?).map f =
      if Fits 64 n then .ok (f (Int64.ofInt n)) else .error reason := by
  rw [Scalar.integer?_of_integral h]
  by_cases hn : Fits 64 n
  · rw [int64OfInt?_of_fits hn, if_pos hn]
    rfl
  · rw [int64OfInt?_of_not_fits hn, if_neg hn]
    rfl

theorem ofInt_bne_zero (hn : Fits 64 n) : (Int64.ofInt n != 0) = decide (n ≠ 0) := by
  by_cases hzero : n = 0
  · subst hzero
    rfl
  · have hne : Int64.ofInt n ≠ 0 := by
      intro heq
      rw [← toInt_ofInt_of_fits hn, heq] at hzero
      exact hzero rfl
    rw [bne_iff_ne.mpr hne, decide_eq_true hzero]

theorem coerce_bool_of_integral (h : s.Integral n) :
    (Value.of s).coerce .bool = if Fits 64 n then .ok (.of (.bool (decide (n ≠ 0))))
      else .error (.unreadable (.of s) .bool) := by
  have hread : (Value.of s).coerce .bool =
      (orReason (.unreadable (.of s) .bool) s.integer?).map fun k => .of (.bool (k != 0)) := by
    cases h <;> dsimp only [coerce, coerceScalar, coerceBool] <;> cases Scalar.integer? _ <;> rfl
  rw [hread, map_orReason_of_integral h]
  by_cases hn : Fits 64 n
  · rw [if_pos hn, if_pos hn, ofInt_bne_zero hn]
  · rw [if_neg hn, if_neg hn]

theorem coerce_string_of_integral (h : s.Integral n) :
    (Value.of s).coerce .string = if Fits 64 n then .ok (.text (Numeral.ofInt n))
      else .error (.unreadable (.of s) .string) := by
  have hread : (Value.of s).coerce .string =
      (orReason (.unreadable (.of s) .string) s.integer?).map fun k =>
        .text (Numeral.ofInt k.toInt) := by
    cases h <;> dsimp only [coerce, coerceScalar, coerceText] <;> cases Scalar.integer? _ <;> rfl
  rw [hread, map_orReason_of_integral h]
  by_cases hn : Fits 64 n
  · rw [if_pos hn, if_pos hn, toInt_ofInt_of_fits hn]
  · rw [if_neg hn, if_neg hn]

theorem coerce_decimal_of_integral (h : s.Integral n) :
    (Value.of s).coerce .decimal =
      if Fits 64 n then .ok (.of (.decimal (.ofInt64 (Int64.ofInt n))))
      else .error (.unreadable (.of s) .decimal) := by
  have hread : (Value.of s).coerce .decimal =
      (orReason (.unreadable (.of s) .decimal) s.integer?).map fun k =>
        .of (.decimal (.ofInt64 k)) := by
    cases h <;> dsimp only [coerce, coerceScalar, coerceDecimal, Scalar.text?] <;>
      cases Scalar.integer? _ <;> rfl
  rw [hread, map_orReason_of_integral h]

/-- The decimal of a number is that number. -/
theorem isWhole_ofInt64 (hn : Fits 64 n) : (FixedPoint.ofInt64 (Int64.ofInt n)).IsWhole n := by
  have hsign : (Int64.ofInt n < 0) ↔ n < 0 := by
    rw [Int64.lt_iff_toInt_lt, toInt_ofInt_of_fits hn, Int64.toInt_zero]
  show (if decide (Int64.ofInt n < 0) then -((Int64.ofInt n).toInt.natAbs : Int)
    else (Int64.ofInt n).toInt.natAbs) = n * 10 ^ 0
  rw [toInt_ofInt_of_fits hn]
  by_cases hneg : n < 0
  · rw [decide_eq_true (hsign.mpr hneg), if_pos rfl]
    omega
  · rw [decide_eq_false fun h => hneg (hsign.mp h), if_neg Bool.false_ne_true]
    omega

end Value

open Value

/-- **Whole numbers are coerced exactly.**  A scalar that stands for a whole number, whatever its
kind, is coerced to an integral type as the scalar of this type that is the number, if there is one,
and refused otherwise.  A scalar of an integral kind is true when its number is not zero, and its
text and its decimal are those of the number; but where the number does not fit 64 bits all three are
refused. -/
theorem coerce_denotes :
    (∀ (s : Scalar) (n : Int), s.Denotes n → ∀ (t : FieldType) (bits : Nat), t.bits? = some bits →
      (Fits bits n →
        ∃ v, v.kind = t.kind ∧ v.Integral n ∧ (Value.of s).coerce t = .ok (.of v)) ∧
      (¬Fits bits n → (Value.of s).coerce t =
        .error (if Fits 64 n then .outOfRange n t else .notInteger (.of s)))) ∧
    ∀ (s : Scalar) (n : Int), s.Integral n →
      (Fits 64 n →
        (Value.of s).coerce .bool = .ok (.of (.bool (decide (n ≠ 0)))) ∧
        (∃ text, Numeral.Writes text.toList n ∧ (Value.of s).coerce .string = .ok (.text text)) ∧
        ∃ d : FixedPoint, d.IsWhole n ∧ (Value.of s).coerce .decimal = .ok (.of (.decimal d))) ∧
      (¬Fits 64 n → ∀ t ∈ [FieldType.bool, .string, .decimal],
        (Value.of s).coerce t = .error (.unreadable (.of s) t)) := by
  refine ⟨fun s n h t bits ht => ⟨fun hn => ?_, fun hn => ?_⟩, fun s n h => ⟨fun hn => ?_, ?_⟩⟩
  · obtain ⟨hkind, hintegral⟩ := integral_integerOf ht hn
    refine ⟨integerOf t n, hkind, hintegral, ?_⟩
    rw [coerce_integral ht h, if_pos hn]
  · rw [coerce_integral ht h, if_neg hn]
  · refine ⟨?_, ⟨Numeral.ofInt n, Numeral.writes_ofInt n, ?_⟩,
      ⟨.ofInt64 (Int64.ofInt n), isWhole_ofInt64 hn, ?_⟩⟩
    · rw [coerce_bool_of_integral h, if_pos hn]
    · rw [coerce_string_of_integral h, if_pos hn]
    · rw [coerce_decimal_of_integral h, if_pos hn]
  · intro hn t ht
    simp only [List.mem_cons, List.not_mem_nil, or_false] at ht
    rcases ht with rfl | rfl | rfl
    · rw [coerce_bool_of_integral h, if_neg hn]
    · rw [coerce_string_of_integral h, if_neg hn]
    · rw [coerce_decimal_of_integral h, if_neg hn]

/-- The least number of eight bits is read from a numeral with blanks and zeros in front, and the
first number that does not fit 64 bits is refused. -/
theorem coerce_denotes_bounds :
    (Scalar.string " -0128").Denotes (-128) ∧ Fits 8 (-128) ∧
    (∃ v, v.kind = .tinyInt ∧ v.Integral (-128) ∧
      (Value.text " -0128").coerce .tinyInt = .ok (.of v)) ∧
    (Scalar.bigUnsigned 9223372036854775808).Integral 9223372036854775808 ∧
    ¬Fits 64 9223372036854775808 ∧
    (Value.of (.bigUnsigned 9223372036854775808)).coerce .decimal =
      .error (.unreadable (.of (.bigUnsigned 9223372036854775808)) .decimal) := by
  obtain ⟨hdenotes, hintegral⟩ := coerce_denotes
  have hrun : Numeral.IsRun ['0', '1', '2', '8'] :=
    ⟨List.cons_ne_nil _ _, List.all_eq_true.mp rfl⟩
  have hnumeral : (Scalar.string " -0128").Denotes (-128) :=
    .numeral ⟨[' '], [], List.all_eq_true.mp rfl, List.all_eq_true.mp rfl, rfl⟩ (.minus hrun)
  have hleast : Fits 8 (-128) := by decide
  have hlarge : (Scalar.bigUnsigned 9223372036854775808).Integral 9223372036854775808 :=
    .bigUnsigned 9223372036854775808
  have hnot : ¬Fits 64 9223372036854775808 := by decide
  exact ⟨hnumeral, hleast, (hdenotes _ _ hnumeral .tinyInt 8 rfl).1 hleast, hlarge, hnot,
    (hintegral _ _ hlarge).2 hnot .decimal (by decide)⟩

end TableMapping
