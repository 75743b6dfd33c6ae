import TableMapping.Proofs.Text.Blank
import TableMapping.Uuid

/-!
# Reading written identifiers

An identifier is read back from its hyphenated form and from its bytes.

* `Text.bytesOfDigits?_flatMap`: bytes are read back from their digits.
* `Uuid.withoutHyphens?_groups`: five groups with hyphens between them.
* `Uuid.read?_text`: the hyphenated form.
-/

namespace TableMapping

namespace Text

theorem hexValue?_hexDigit {n : Nat} (h : n < 16) : hexValue? (hexDigit n) = some n := by
  have hall : ∀ n < 16, hexValue? (hexDigit n) = some n := by decide
  exact hall n h

theorem isBlank_hexDigit {n : Nat} (h : n < 16) : isBlank (hexDigit n) = false := by
  have hall : ∀ n < 16, isBlank (hexDigit n) = false := by decide
  exact hall n h

theorem byte_div_lt (b : UInt8) : b.toNat / 16 < 16 := by
  have hb := b.toNat_lt
  omega

theorem byte_mod_lt (b : UInt8) : b.toNat % 16 < 16 :=
  Nat.mod_lt _ (by decide)

theorem bytesOfDigits?_append (b : UInt8) (rest : List Char) :
    bytesOfDigits? (byteDigits b ++ rest) = (bytesOfDigits? rest).map (b :: ·) := by
  have hbyte : 16 * (b.toNat / 16) + b.toNat % 16 = b.toNat := Nat.div_add_mod _ _
  show (do
    let high ← hexValue? (hexDigit (b.toNat / 16))
    let low ← hexValue? (hexDigit (b.toNat % 16))
    let bytes ← bytesOfDigits? rest
    return UInt8.ofNat (16 * high + low) :: bytes) = _
  rw [hexValue?_hexDigit (byte_div_lt b), hexValue?_hexDigit (byte_mod_lt b)]
  simp only [Option.bind_eq_bind, Option.bind_some, hbyte, UInt8.ofNat_toNat]
  cases bytesOfDigits? rest <;> rfl

theorem bytesOfDigits?_flatMap (bs : List UInt8) :
    bytesOfDigits? (bs.flatMap byteDigits) = some bs := by
  induction bs with
  | nil => rfl
  | cons b bs ih => rw [List.flatMap_cons, bytesOfDigits?_append, ih, Option.map_some]

theorem length_flatMap_byteDigits (bs : List UInt8) :
    (bs.flatMap byteDigits).length = 2 * bs.length := by
  induction bs with
  | nil => rfl
  | cons b bs ih =>
    rw [List.flatMap_cons, List.length_append, ih, List.length_cons]
    show 2 + 2 * bs.length = 2 * (bs.length + 1)
    omega

theorem isBlank_of_mem_flatMap_byteDigits {bs : List UInt8} {c : Char}
    (h : c ∈ bs.flatMap byteDigits) : isBlank c = false := by
  obtain ⟨b, -, hc⟩ := List.mem_flatMap.mp h
  rcases List.mem_cons.mp hc with rfl | hc
  · exact isBlank_hexDigit (byte_div_lt b)
  · rw [List.mem_singleton.mp hc]
    exact isBlank_hexDigit (byte_mod_lt b)

end Text

namespace Uuid

theorem ofBytes?_bytes (u : Uuid) : ofBytes? u.bytes = some u :=
  dif_pos u.length_bytes

theorem length_digits (u : Uuid) : u.digits.length = 32 := by
  rw [digits, Text.length_flatMap_byteDigits, u.length_bytes]

/-- The digits are found between the hyphens. -/
theorem withoutHyphens?_groups {a b c d e : List Char} (ha : a.length = 8) (hb : b.length = 4)
    (hc : c.length = 4) (hd : d.length = 4) :
    withoutHyphens? (a ++ '-' :: (b ++ '-' :: (c ++ '-' :: (d ++ '-' :: e)))) =
      some (a ++ b ++ c ++ d ++ e) := by
  simp (disch := omega) [withoutHyphens?, List.drop_append, List.drop_of_length_le, ha, hb, hc,
    hd]

theorem toList_text (u : Uuid) :
    u.text.toList = u.digits.take 8 ++ '-' :: ((u.digits.drop 8).take 4 ++ '-' ::
      ((u.digits.drop 12).take 4 ++ '-' :: ((u.digits.drop 16).take 4 ++ '-' ::
        u.digits.drop 20))) := by
  simp only [text, String.toList_ofList, List.append_assoc, List.cons_append]

/-- The five groups are the digits. -/
theorem append_groups (ds : List Char) :
    ds.take 8 ++ (ds.drop 8).take 4 ++ (ds.drop 12).take 4 ++ (ds.drop 16).take 4 ++ ds.drop 20 =
      ds := by
  have hsplit : ∀ n m, (ds.drop n).take m ++ ds.drop (n + m) = ds.drop n := by
    intro n m
    rw [← List.drop_drop, List.take_append_drop]
  rw [List.append_assoc, hsplit 16 4, List.append_assoc, hsplit 12 4, List.append_assoc, hsplit 8 4,
    List.take_append_drop]

theorem hyphenated?_text (u : Uuid) : hyphenated? u.text.toList = some u := by
  have hlength := u.length_digits
  have hgroup : ∀ n, n + 4 ≤ 32 → ((u.digits.drop n).take 4).length = 4 := by
    intro n hn
    rw [List.length_take, List.length_drop]
    omega
  have hfirst : (u.digits.take 8).length = 8 := by
    rw [List.length_take]
    omega
  have htext : u.text.toList.length = 36 := by
    rw [toList_text]
    simp only [List.length_append, List.length_cons, List.length_take, List.length_drop]
    omega
  have hdigits : withoutHyphens? u.text.toList = some u.digits := by
    rw [toList_text, withoutHyphens?_groups hfirst (hgroup 8 (by decide)) (hgroup 12 (by decide))
      (hgroup 16 (by decide)), append_groups]
  rw [hyphenated?, if_pos htext, hdigits]
  show (Text.bytesOfDigits? u.digits).bind ofBytes? = _
  rw [digits, Text.bytesOfDigits?_flatMap, Option.bind_some, ofBytes?_bytes]

/-- An identifier is read back from its hyphenated form. -/
theorem read?_text (u : Uuid) : read? u.text.toList = some u := by
  have hhyphenated := u.hyphenated?_text
  have hlength : u.text.toList.length = 36 := by
    rw [hyphenated?] at hhyphenated
    split at hhyphenated
    · assumption
    · exact nomatch hhyphenated
  unfold read?
  rw [if_neg (by omega), if_pos hlength, hhyphenated]

/-- There is no blank in the text of an identifier. -/
theorem isTrimmed_text (u : Uuid) : Text.IsTrimmed u.text.toList := by
  refine .of_forall fun c hc => ?_
  have hdigit : ∀ ds : List Char, (∀ c ∈ ds, c ∈ u.digits) → ∀ c ∈ ds, Text.isBlank c = false :=
    fun ds hds c hc => Text.isBlank_of_mem_flatMap_byteDigits (hds c hc)
  have hhyphen : Text.isBlank '-' = false := by decide
  rw [toList_text] at hc
  simp only [List.mem_append, List.mem_cons] at hc
  rcases hc with hc | rfl | hc | rfl | hc | rfl | hc | rfl | hc
  · exact hdigit _ (fun c => List.mem_of_mem_take) c hc
  · exact hhyphen
  · exact hdigit _ (fun c hc => List.mem_of_mem_drop (List.mem_of_mem_take hc)) c hc
  · exact hhyphen
  · exact hdigit _ (fun c hc => List.mem_of_mem_drop (List.mem_of_mem_take hc)) c hc
  · exact hhyphen
  · exact hdigit _ (fun c hc => List.mem_of_mem_drop (List.mem_of_mem_take hc)) c hc
  · exact hhyphen
  · exact hdigit _ (fun c => List.mem_of_mem_drop) c hc

end Uuid
end TableMapping
