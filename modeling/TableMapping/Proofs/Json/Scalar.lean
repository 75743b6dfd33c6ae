import Mathlib.Data.List.Forall2
import TableMapping.Json.Parser
import TableMapping.Json.Printer
import TableMapping.Proofs.Uuid

/-!
# Reading written texts and numbers

A text is written character by character, and what is read from one written character is one part
that stands for it: the character itself, or the code unit of a control that has no short escape.
Such a code unit is never half of a surrogate pair, so the parts are put together one by one.

A whole number is written without a zero in front, and the reader takes its digits up to a
character that no number goes on with.

* `Json.readParts?_escaped`: one character in front of anything.
* `Json.readText?_escaped`: a text up to its closing quote.
* `Json.readNumber?_text`: a whole number of 64 bits.
-/

namespace TableMapping
namespace Json

variable {c : Char} {cs rest : List Char} {p : TextPart} {ps : List TextPart}

/-! ## Texts -/

/-- What is read where a character was written. -/
inductive TextPart.StandsFor : TextPart → Char → Prop where
  | char (c : Char) : StandsFor (.char c) c
  | unit {c : Char} (h : c.toNat < 0x20) : StandsFor (.unit c.toNat) c

theorem hexUnit?_control {n : Nat} (h : n < 0x20) :
    hexUnit? '0' '0' (Text.hexDigit (n / 16)) (Text.hexDigit (n % 16)) = some n := by
  have hzero : Text.hexValue? '0' = some 0 := by decide
  have hvalue : ((0 * 16 + 0) * 16 + n / 16) * 16 + n % 16 = n := by omega
  rw [hexUnit?, hzero, Text.hexValue?_hexDigit (by omega), Text.hexValue?_hexDigit (by omega)]
  simp only [Option.bind_eq_bind, Option.bind_some, hvalue]
  rfl

/-- A character is written with a letter for it, with its digits, or as it is. -/
theorem escaped_cases (c : Char) :
    (∃ e, e ≠ 'u' ∧ simpleEscape? e = some c ∧ escaped c = ['\\', e]) ∨
      (c.toNat < 0x20 ∧ escaped c =
        ['\\', 'u', '0', '0', Text.hexDigit (c.toNat / 16), Text.hexDigit (c.toNat % 16)]) ∨
      (c ≠ '"' ∧ c ≠ '\\' ∧ 0x20 ≤ c.toNat ∧ escaped c = [c]) := by
  rw [escaped]
  split_ifs with hquote hbackslash hback htab hline hform hreturn hcontrol
  · exact .inl ⟨'"', by decide, by rw [hquote]; rfl, rfl⟩
  · exact .inl ⟨'\\', by decide, by rw [hbackslash]; rfl, rfl⟩
  · exact .inl ⟨'b', by decide, by rw [hback]; rfl, rfl⟩
  · exact .inl ⟨'t', by decide, by rw [htab]; rfl, rfl⟩
  · exact .inl ⟨'n', by decide, by rw [hline]; rfl, rfl⟩
  · exact .inl ⟨'f', by decide, by rw [hform]; rfl, rfl⟩
  · exact .inl ⟨'r', by decide, by rw [hreturn]; rfl, rfl⟩
  · exact .inr (.inl ⟨hcontrol, rfl⟩)
  · exact .inr (.inr ⟨hquote, hbackslash, Nat.le_of_not_lt hcontrol, rfl⟩)

theorem readParts?_letter {e : Char} (he : e ≠ 'u') (h : simpleEscape? e = some c)
    (cs : List Char) :
    readParts? ('\\' :: e :: cs) = (readParts? cs).map fun q => (.char c :: q.1, q.2) := by
  rw [readParts?, h]
  · cases readParts? cs <;> rfl
  · exact fun _ _ _ _ _ hu _ => he hu

theorem readParts?_digits {n : Nat} (h : n < 0x20) (cs : List Char) :
    readParts? ('\\' :: 'u' :: '0' :: '0' :: Text.hexDigit (n / 16) :: Text.hexDigit (n % 16) ::
      cs) = (readParts? cs).map fun q => (.unit n :: q.1, q.2) := by
  rw [readParts?, hexUnit?_control h]
  cases readParts? cs <;> rfl

theorem readParts?_plain (hquote : c ≠ '"') (hbackslash : c ≠ '\\') (h : 0x20 ≤ c.toNat)
    (cs : List Char) :
    readParts? (c :: cs) = (readParts? cs).map fun q => (.char c :: q.1, q.2) := by
  have hplain : (decide (c = '\\') || decide (c.toNat < 0x20)) = false := by
    rw [decide_eq_false hbackslash, decide_eq_false (Nat.not_lt.mpr h)]
    rfl
  rw [readParts?, hplain]
  · cases readParts? cs <;> rfl
  · exact hquote
  · exact fun _ _ _ _ _ hc _ => hbackslash hc
  · exact fun _ _ hc _ => hbackslash hc

/-- A character that is written in front of anything is read as one part. -/
theorem readParts?_escaped (c : Char) (cs : List Char) :
    ∃ p, TextPart.StandsFor p c ∧
      readParts? (escaped c ++ cs) = (readParts? cs).map fun q => (p :: q.1, q.2) := by
  rcases escaped_cases c with ⟨e, he, hletter, hc⟩ | ⟨hcontrol, hc⟩ | ⟨hquote, hbackslash, hle, hc⟩
  · exact ⟨.char c, .char c, by rw [hc]; exact readParts?_letter he hletter cs⟩
  · exact ⟨.unit c.toNat, .unit hcontrol, by rw [hc]; exact readParts?_digits hcontrol cs⟩
  · exact ⟨.char c, .char c, by rw [hc]; exact readParts?_plain hquote hbackslash hle cs⟩

/-- The characters of a text in front of its closing quote are read as parts that stand for them. -/
theorem readParts?_flatMap (cs rest : List Char) :
    ∃ ps, List.Forall₂ TextPart.StandsFor ps cs ∧
      readParts? (cs.flatMap escaped ++ '"' :: rest) = some (ps, rest) := by
  induction cs with
  | nil => exact ⟨[], .nil, rfl⟩
  | cons c cs ih =>
    obtain ⟨ps, hps, hread⟩ := ih
    obtain ⟨p, hp, hc⟩ := readParts?_escaped c (cs.flatMap escaped ++ '"' :: rest)
    refine ⟨p :: ps, .cons hp hps, ?_⟩
    rw [List.flatMap_cons, List.append_assoc, hc, hread, Option.map_some]

/-- The code unit of a control is no half of a pair. -/
theorem joinParts?_unit {n : Nat} (h : n < 0x20) (ps : List TextPart) :
    joinParts? (.unit n :: ps) = (joinParts? ps).map (Char.ofNat n :: ·) := by
  have hsmall : ∀ low high, 0x20 ≤ low → (decide (low ≤ n) && decide (n < high)) = false := by
    intro low high hlow
    rw [decide_eq_false (by omega), Bool.false_and]
  by_cases hnext : ∃ m qs, ps = .unit m :: qs
  · obtain ⟨m, qs, rfl⟩ := hnext
    rw [joinParts?, hsmall 0xD800 0xDC00 (by decide), hsmall 0xDC00 0xE000 (by decide)]
    rfl
  · rw [joinParts?, hsmall 0xD800 0xE000 (by decide)]
    · rfl
    · exact fun m qs h => hnext ⟨m, qs, h⟩

theorem joinParts?_cons (h : p.StandsFor c) (ps : List TextPart) :
    joinParts? (p :: ps) = (joinParts? ps).map (c :: ·) := by
  cases h with
  | char => rw [joinParts?]
  | unit h => rw [joinParts?_unit h, Char.ofNat_toNat]

theorem joinParts?_of_forall₂ (h : List.Forall₂ TextPart.StandsFor ps cs) :
    joinParts? ps = some cs := by
  induction h with
  | nil => rfl
  | cons hp _ ih => rw [joinParts?_cons hp, ih, Option.map_some]

theorem readText?_escaped (s : String) (rest : List Char) :
    readText? (s.toList.flatMap escaped ++ '"' :: rest) = some (s, rest) := by
  obtain ⟨ps, hps, hread⟩ := readParts?_flatMap s.toList rest
  rw [readText?, hread]
  simp only [Option.bind_eq_bind, Option.bind_some, joinParts?_of_forall₂ hps]
  rw [String.ofList_toList]
  rfl

/-! ## Numbers -/

/-- What stands behind a number and does not go on with it. -/
def EndsNumber (rest : List Char) : Prop :=
  ∀ c ∈ rest.head?, c.isDigit = false ∧ c ≠ '.' ∧ c ≠ 'e' ∧ c ≠ 'E'

theorem endsNumber_nil : EndsNumber [] :=
  nofun

theorem takeWhile_isDigit_digits (n : Nat) (hrest : EndsNumber rest) :
    (Numeral.digits n ++ rest).takeWhile Char.isDigit = Numeral.digits n := by
  rw [List.takeWhile_append_of_pos fun _ hc => Numeral.isDigit_of_mem_digits hc]
  cases rest with
  | nil => rw [List.takeWhile_nil, List.append_nil]
  | cons c rest =>
    rw [List.takeWhile_cons, (hrest c rfl).1, if_neg Bool.false_ne_true, List.append_nil]

theorem dropWhile_isDigit_digits (n : Nat) (hrest : EndsNumber rest) :
    (Numeral.digits n ++ rest).dropWhile Char.isDigit = rest := by
  rw [List.dropWhile_append_of_pos fun _ hc => Numeral.isDigit_of_mem_digits hc]
  cases rest with
  | nil => rw [List.dropWhile_nil]
  | cons c rest => rw [List.dropWhile_cons, (hrest c rfl).1, if_neg Bool.false_ne_true]

theorem readWhole?_digits (n : Nat) (hrest : EndsNumber rest) :
    readWhole? (Numeral.digits n ++ rest) = some (Numeral.digits n, rest) := by
  have hsome : (Numeral.digits n).isEmpty = false :=
    List.isEmpty_eq_false_iff.mpr (Numeral.digits_ne_nil n)
  have hzero : ¬((Numeral.digits n).head? = some '0' ∧ 1 < (Numeral.digits n).length) := by
    rintro ⟨hhead, hlength⟩
    rcases Nat.eq_zero_or_pos n with rfl | hn
    · rw [Numeral.digits, if_pos (by decide)] at hlength
      exact absurd hlength (by decide)
    · exact Numeral.head?_digits hn hhead
  rw [readWhole?, takeWhile_isDigit_digits n hrest, dropWhile_isDigit_digits n hrest]
  simp [hsome, hzero]

theorem readFraction?_of_endsNumber (hrest : EndsNumber rest) :
    readFraction? rest = some (none, rest) := by
  rw [readFraction?]
  rintro cs rfl
  exact (hrest '.' rfl).2.1 rfl

theorem readExponent?_of_endsNumber (hrest : EndsNumber rest) :
    readExponent? rest = some (none, rest) := by
  cases rest with
  | nil => rw [readExponent?]
  | cons c rest =>
    obtain ⟨-, -, hsmall, hcapital⟩ := hrest c rfl
    rw [readExponent?.eq_def]
    simp [hsmall, hcapital]

theorem readUnsigned?_digits (negative : Bool) (n : Nat) (hrest : EndsNumber rest) :
    readUnsigned? negative (Numeral.digits n ++ rest) =
      (WrittenNumber.value? ⟨negative, Numeral.digits n, none, none⟩).map fun x => (x, rest) := by
  rw [readUnsigned?, readWhole?_digits n hrest]
  simp only [Option.bind_eq_bind, Option.bind_some, readFraction?_of_endsNumber hrest,
    readExponent?_of_endsNumber hrest]
  cases WrittenNumber.value? ⟨negative, Numeral.digits n, none, none⟩ <;> rfl

theorem value?_natural {n : Nat} (h : n < 18446744073709551616) :
    WrittenNumber.value? ⟨false, Numeral.digits n, none, none⟩ =
      some (.natural (UInt64.ofNat n)) := by
  rw [WrittenNumber.value?]
  simp only [Numeral.valueFrom_digits, if_neg (Nat.not_le.mpr h)]
  rfl

theorem value?_negative {n : Nat} (hpos : 0 < n) (h : n ≤ 9223372036854775808) :
    WrittenNumber.value? ⟨true, Numeral.digits n, none, none⟩ =
      some (.negative (Int64.ofInt (-(n : Int)))) := by
  have hrange : ¬18446744073709551616 ≤ n := by omega
  have hnonzero : ¬n = 0 := by omega
  rw [WrittenNumber.value?]
  simp [Numeral.valueFrom_digits, hrange, hnonzero, h]

end Json

/-- A whole number of 64 bits, held as documents hold it: with a sign only below zero. -/
def JsonNumber.IsWhole : JsonNumber → Prop
  | .natural _ => True
  | .negative n => n < 0
  | .real _ => False

namespace Json

/-- Characters that a written number starts with. -/
def StartsNumber (c : Char) : Prop :=
  c = '-' ∨ c.isDigit = true

theorem toList_text_natural (n : UInt64) :
    (JsonNumber.natural n).text.toList = Numeral.digits n.toNat := by
  rw [JsonNumber.text, Numeral.ofNat, String.toList_ofList]

theorem toList_text_negative {n : Int64} (h : n < 0) :
    (JsonNumber.negative n).text.toList = '-' :: Numeral.digits n.toInt.natAbs := by
  have hneg : n.toInt < 0 := Int64.lt_iff_toInt_lt.mp h
  rw [JsonNumber.text, Numeral.ofInt, if_pos hneg, String.toList_ofList]

/-- A number starts with its sign or with a digit. -/
theorem exists_cons_text {n : JsonNumber} (h : n.IsWhole) :
    ∃ c cs, n.text.toList = c :: cs ∧ StartsNumber c := by
  cases n with
  | natural n =>
    obtain ⟨c, cs, hcs, hdigit⟩ := Numeral.exists_cons_digits n.toNat
    exact ⟨c, cs, (toList_text_natural n).trans hcs, .inr hdigit⟩
  | negative n => exact ⟨'-', _, toList_text_negative h, .inl rfl⟩
  | real x => exact h.elim

theorem readNumber?_text {n : JsonNumber} (h : n.IsWhole) (hrest : EndsNumber rest) :
    readNumber? (n.text.toList ++ rest) = some (n, rest) := by
  cases n with
  | natural n =>
    have hsign : ∀ cs, Numeral.digits n.toNat ++ rest = '-' :: cs → False := by
      intro cs heq
      obtain ⟨c, ds, hds, hdigit⟩ := Numeral.exists_cons_digits n.toNat
      rw [hds] at heq
      rw [(List.cons.inj heq).1] at hdigit
      cases hdigit
    rw [toList_text_natural, readNumber?, readUnsigned?_digits false _ hrest,
      value?_natural n.toNat_lt, UInt64.ofNat_toNat, Option.map_some]
    exact hsign
  | negative n =>
    have hneg : n.toInt < 0 := Int64.lt_iff_toInt_lt.mp h
    have hlow : -2 ^ 63 ≤ n.toInt := n.le_toInt
    have habs : -(n.toInt.natAbs : Int) = n.toInt := by omega
    rw [toList_text_negative h, List.cons_append, readNumber?, readUnsigned?_digits true _ hrest,
      value?_negative (by omega) (by omega), habs, Int64.ofInt_toInt, Option.map_some]
  | real x => exact h.elim

end Json
end TableMapping
