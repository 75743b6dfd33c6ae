import Mathlib.Data.List.TakeWhile
import TableMapping.Value.Coercion

/-!
# Texts without quotes

Most field types are read from texts that have no room for a quote: numerals, truth values, dates
and times, identifiers.  So a text that is coerced to one of them holds no quote.  Only texts, bytes,
documents and the members of enumerations may hold one.

Each reader has a lemma of its own.  A reader of the front of a text never takes a quote: if there
is one, it is in what is left.  A reader of a whole text refuses it.

* `Calendar.mem_of_readDate?`, `Calendar.mem_of_readTime?`: readers of the front.
* `Numeral.notMem_of_integer?`, `Number.notMem_of_double?`, `FixedPoint.notMem_of_read?`,
  `Uuid.notMem_of_read?`: readers of a whole text.
* `Value.notMem_of_coerce`: coercion.
-/

namespace TableMapping

variable {cs rest : List Char}

/-! ## Blanks and digits -/

namespace Text

variable {c : Char}

/-- A condition that the first character left does not satisfy tells it from all that satisfy it. -/
theorem ne_of_dropWhile_eq_cons {p : Char → Bool} {d : Char} (hc : p c = true)
    (h : cs.dropWhile p = d :: rest) : c ≠ d := by
  rintro rfl
  have hhead := List.head?_dropWhile_not p cs
  rw [h] at hhead
  exact nomatch hc.symm.trans hhead

theorem notMem_of_takeWhile {p : Char → Bool} (hfront : c ∉ cs.takeWhile p)
    (hback : c ∉ cs.dropWhile p) : c ∉ cs := by
  rw [← List.takeWhile_append_dropWhile (p := p) (l := cs)]
  exact fun h => (List.mem_append.mp h).elim hfront hback

theorem mem_trimStart (hc : isBlank c = false) (h : c ∈ cs) : c ∈ trimStart cs := by
  refine Decidable.not_not.mp fun hback => ?_
  refine absurd h (notMem_of_takeWhile (fun hfront => ?_) hback)
  exact nomatch hc.symm.trans (List.mem_takeWhile_imp hfront)

/-- The blanks around a text are all that is dropped. -/
theorem mem_trimBoth (hc : isBlank c = false) (h : c ∈ cs) : c ∈ trimBoth cs :=
  List.mem_reverse.mpr (mem_trimStart hc (List.mem_reverse.mpr (mem_trimStart hc h)))

/-- A character that is no quote does not put one in front. -/
theorem notMem_cons (hc : '\'' ≠ c) (h : '\'' ∉ cs) : '\'' ∉ c :: cs :=
  fun hmem => (List.mem_cons.mp hmem).elim hc h

theorem isBlank_quote : isBlank '\'' = false := by decide

theorem isDigit_quote : Char.isDigit '\'' = false := by decide

theorem notMem_takeWhile_isDigit : '\'' ∉ cs.takeWhile Char.isDigit :=
  fun h => nomatch isDigit_quote.symm.trans (List.mem_takeWhile_imp h)

theorem toLower_quote : Char.toLower '\'' = '\'' := by decide

/-- A quote is in both letter cases the same. -/
theorem notMem_of_map_toLower {word : List Char} (hword : '\'' ∉ word)
    (h : cs.map Char.toLower = word) : '\'' ∉ cs := by
  intro hquote
  have hmem : Char.toLower '\'' ∈ cs.map Char.toLower := List.mem_map_of_mem hquote
  rw [toLower_quote, h] at hmem
  exact hword hmem

/-- A word that a text is up to letter case. -/
theorem notMem_of_word {word : String} (hword : '\'' ∉ word.toList)
    (h : String.ofList (cs.map Char.toLower) = word) : '\'' ∉ cs := by
  rw [← h, String.toList_ofList] at hword
  exact notMem_of_map_toLower hword rfl

end Text

open Text

/-! ## Numerals -/

namespace Numeral

theorem notMem_of_value? {n : Nat} (h : value? cs = some n) : '\'' ∉ cs := by
  intro hquote
  rw [value?] at h
  split at h
  · exact nomatch h
  · rename_i hdigits
    rw [Bool.not_eq_true, Bool.or_eq_false_iff, Bool.not_eq_false', List.all_eq_true] at hdigits
    exact nomatch isDigit_quote.symm.trans (hdigits.2 _ hquote)

theorem notMem_of_map_value? {α β : Type} {g : Nat → β} {f : β → α} {a : α}
    (h : ((value? cs).bind fun n => some (g n)).map f = some a) : '\'' ∉ cs := by
  obtain ⟨b, hb, -⟩ := Option.map_eq_some_iff.mp h
  obtain ⟨n, hn, -⟩ := Option.bind_eq_some_iff.mp hb
  exact notMem_of_value? hn

theorem notMem_of_integer? {n : Int} (h : integer? cs = some n) : '\'' ∉ cs := by
  unfold integer? at h
  split at h
  · exact notMem_cons (by decide) (notMem_of_map_value? h)
  · exact notMem_cons (by decide) (notMem_of_map_value? h)
  · exact notMem_of_map_value? h

end Numeral

/-! ## Dates and times -/

namespace Calendar

/-- What is in a text and not in front of it is behind. -/
theorem mem_drop_of_prefix {ds : List Char} (hfront : ds <+: cs) (hds : '\'' ∉ ds)
    (h : '\'' ∈ cs) : '\'' ∈ cs.drop ds.length := by
  rw [← List.prefix_iff_eq_append.mp hfront] at h
  exact (List.mem_append.mp h).resolve_left hds

theorem mem_of_readNumber? {width n : Nat} (h : readNumber? width cs = some (n, rest))
    (hquote : '\'' ∈ cs) : '\'' ∈ rest := by
  unfold readNumber? at h
  obtain ⟨k, -, heq⟩ := Option.map_eq_some_iff.mp h
  cases heq
  exact mem_drop_of_prefix ((List.takeWhile_prefix _).trans (List.take_prefix _ _))
    notMem_takeWhile_isDigit (mem_trimStart isBlank_quote hquote)

theorem mem_of_readMark? {mark : Char} (hmark : '\'' ≠ mark) (h : readMark? mark cs = some rest)
    (hquote : '\'' ∈ cs) : '\'' ∈ rest := by
  cases cs with
  | nil => exact nomatch h
  | cons c cs =>
    rw [readMark?] at h
    split at h
    · rename_i hc
      cases h
      exact (List.mem_cons.mp hquote).resolve_left (hc ▸ hmark)
    · exact nomatch h

/-- The digits behind a sign or a point. -/
theorem mem_drop_of_cons {c : Char} {ds : List Char} (hc : '\'' ≠ c) (hquote : '\'' ∈ c :: ds) :
    '\'' ∈ ds.drop (ds.takeWhile Char.isDigit).length :=
  mem_drop_of_prefix (List.takeWhile_prefix _) notMem_takeWhile_isDigit
    ((List.mem_cons.mp hquote).resolve_left hc)

theorem mem_of_readYear? {year : Int} (h : readYear? cs = some (year, rest))
    (hquote : '\'' ∈ cs) : '\'' ∈ rest := by
  have htrim := mem_trimStart isBlank_quote hquote
  unfold readYear? at h
  split at h
  · rename_i ds hcs
    rw [hcs] at htrim
    obtain ⟨n, -, heq⟩ := Option.map_eq_some_iff.mp h
    cases heq
    exact mem_drop_of_cons (by decide) htrim
  · rename_i ds hcs
    rw [hcs] at htrim
    obtain ⟨n, -, heq⟩ := Option.map_eq_some_iff.mp h
    cases heq
    exact mem_drop_of_cons (by decide) htrim
  · obtain ⟨⟨n, r⟩, hn, heq⟩ := Option.map_eq_some_iff.mp h
    cases heq
    exact mem_of_readNumber? hn htrim

theorem mem_of_readDate? {d : Date} (h : readDate? cs = some (d, rest)) (hquote : '\'' ∈ cs) :
    '\'' ∈ rest := by
  unfold readDate? at h
  simp only [Option.bind_eq_bind, Option.bind_eq_some_iff] at h
  obtain ⟨⟨year, r₁⟩, hyear, r₂, hmark, ⟨month, r₃⟩, hmonth, r₄, hmark', ⟨day, r₅⟩, hday, date, -,
    heq⟩ := h
  cases heq
  have h₁ := mem_of_readYear? hyear hquote
  have h₂ := mem_of_readMark? (by decide) hmark h₁
  have h₃ := mem_of_readNumber? hmonth h₂
  have h₄ := mem_of_readMark? (by decide) hmark' h₃
  exact mem_of_readNumber? hday h₄

theorem Date.notMem_of_read? {d : Date} (h : Date.read? cs = some d) : '\'' ∉ cs := by
  unfold Date.read? at h
  split at h
  · rename_i hread
    exact fun hquote => absurd (mem_of_readDate? hread hquote) List.not_mem_nil
  · exact nomatch h

theorem mem_of_readFraction? {nano : Nat} (h : readFraction? cs = some (nano, rest))
    (hquote : '\'' ∈ cs) : '\'' ∈ rest := by
  unfold readFraction? at h
  split at h
  · rename_i ds
    obtain ⟨n, -, heq⟩ := Option.map_eq_some_iff.mp h
    cases heq
    exact mem_drop_of_cons (by decide) hquote
  · cases h
    exact hquote

theorem mem_of_readTime? {t : Time} (h : readTime? cs = some (t, rest)) (hquote : '\'' ∈ cs) :
    '\'' ∈ rest := by
  unfold readTime? at h
  simp only [Option.bind_eq_bind, Option.bind_eq_some_iff] at h
  obtain ⟨⟨hour, r₁⟩, hhour, r₂, hmark, ⟨minute, r₃⟩, hminute, r₄, hmark', ⟨second, r₅⟩, hsecond,
    ⟨nano, r₆⟩, hnano, time, -, heq⟩ := h
  cases heq
  have h₁ := mem_of_readNumber? hhour hquote
  have h₂ := mem_of_readMark? (by decide) hmark h₁
  have h₃ := mem_of_readNumber? hminute h₂
  have h₄ := mem_of_readMark? (by decide) hmark' h₃
  have h₅ := mem_of_readNumber? hsecond h₄
  exact mem_of_readFraction? hnano h₅

theorem Time.notMem_of_read? {t : Time} (h : Time.read? cs = some t) : '\'' ∉ cs := by
  unfold Time.read? at h
  split at h
  · rename_i hread
    exact fun hquote => absurd (mem_of_readTime? hread hquote) List.not_mem_nil
  · exact nomatch h

theorem DateTime.notMem_of_withTime? {d : Date} {x : DateTime}
    (h : DateTime.withTime? d cs = some x) : '\'' ∉ cs := by
  obtain ⟨t, ht, -⟩ := Option.map_eq_some_iff.mp h
  exact Time.notMem_of_read? ht

theorem DateTime.notMem_of_read? {x : DateTime} (h : DateTime.read? cs = some x) : '\'' ∉ cs := by
  intro hquote
  unfold DateTime.read? at h
  simp only [Option.bind_eq_bind, Option.bind_eq_some_iff] at h
  obtain ⟨⟨d, r⟩, hdate, h⟩ := h
  have hr : '\'' ∈ r := mem_of_readDate? hdate hquote
  simp only at h
  split at h
  · exact notMem_cons (by decide) (DateTime.notMem_of_withTime? h) hr
  · exact DateTime.notMem_of_withTime? h hr

end Calendar

/-! ## Decimals -/

namespace FixedPoint

theorem Progress.notMem_of_round? {p : Progress} {parts : Nat × Nat}
    (h : p.round? cs = some parts) : '\'' ∉ cs := by
  intro hquote
  unfold Progress.round? at h
  split at h
  · rename_i hall
    exact absurd (List.all_eq_true.mp hall _ hquote) (by decide)
  · exact nomatch h

theorem Progress.notMem_of_read? {p : Progress} {parts : Nat × Nat}
    (h : p.read? cs = some parts) : '\'' ∉ cs := by
  fun_induction Progress.read? p cs with
  | case1 => exact List.not_mem_nil
  | case2 | case3 => exact notMem_of_round? h
  | case4 => exact nomatch h
  | case5 p c cs _ hdigit _ _ ih =>
    refine notMem_cons ?_ (ih h)
    rintro rfl
    exact nomatch isDigit_quote.symm.trans hdigit
  | case6 p c cs _ _ hpoint ih =>
    rw [Bool.and_eq_true, decide_eq_true_eq] at hpoint
    exact notMem_cons (by rw [hpoint.1]; decide) (ih h)
  | case7 p c cs _ _ _ hunderscore ih =>
    rw [Bool.and_eq_true, decide_eq_true_eq] at hunderscore
    exact notMem_cons (by rw [hunderscore.1]; decide) (ih h)
  | case8 => exact nomatch h

theorem notMem_of_positional? {d : FixedPoint} (h : positional? cs = some d) : '\'' ∉ cs := by
  unfold positional? at h
  split at h
  all_goals obtain ⟨parts, hparts, -⟩ := Option.bind_eq_some_iff.mp h
  · exact notMem_cons (by decide) (Progress.notMem_of_read? hparts)
  · exact notMem_cons (by decide) (Progress.notMem_of_read? hparts)
  · exact Progress.notMem_of_read? hparts

theorem notMem_of_unsignedExponent? {n : Nat} (h : unsignedExponent? cs = some n) : '\'' ∉ cs := by
  unfold unsignedExponent? at h
  split at h
  · exact notMem_cons (by decide) (Numeral.notMem_of_value? h)
  · exact Numeral.notMem_of_value? h

theorem notMem_of_read? {d : FixedPoint} (h : read? cs = some d) : '\'' ∉ cs := by
  unfold read? at h
  simp only at h
  split at h
  · rename_i hback
    exact notMem_of_takeWhile (notMem_of_positional? h) (hback ▸ List.not_mem_nil)
  · rename_i c e hback
    simp only [Option.bind_eq_bind, Option.bind_eq_some_iff] at h
    obtain ⟨base, hbase, n, hn, -⟩ := h
    have he : '\'' ∉ '-' :: e := notMem_cons (by decide) (notMem_of_unsignedExponent? hn)
    have hc : '\'' ≠ c := ne_of_dropWhile_eq_cons (by decide) hback
    exact notMem_of_takeWhile (notMem_of_positional? hbase) (hback ▸ notMem_cons hc he)
  · rename_i c e _ hback
    simp only [Option.bind_eq_bind, Option.bind_eq_some_iff] at h
    obtain ⟨base, hbase, n, hn, -⟩ := h
    have hc : '\'' ≠ c := ne_of_dropWhile_eq_cons (by decide) hback
    exact notMem_of_takeWhile (notMem_of_positional? hbase)
      (hback ▸ notMem_cons hc (notMem_of_unsignedExponent? hn))

end FixedPoint

/-! ## Floating-point numbers -/

namespace Number

/-- What stands behind the digits and the fraction decides. -/
theorem notMem_of_behindFraction
    (hrest : (match cs.dropWhile Char.isDigit with
      | '.' :: r => (r.takeWhile Char.isDigit, r.dropWhile Char.isDigit)
      | r => ([], r)).2 = rest) (h : '\'' ∉ rest) : '\'' ∉ cs := by
  refine notMem_of_takeWhile notMem_takeWhile_isDigit ?_
  rw [← hrest] at h
  split at h
  · rename_i hback
    rw [hback]
    exact notMem_cons (by decide) (notMem_of_takeWhile notMem_takeWhile_isDigit h)
  · exact h

theorem notMem_of_unsignedDouble? {x : Float} (h : unsignedDouble? cs = some x) : '\'' ∉ cs := by
  unfold unsignedDouble? at h
  simp only at h
  split at h
  · exact nomatch h
  · split at h
    · rename_i hrest
      exact notMem_of_behindFraction hrest List.not_mem_nil
    · split at h
      · rename_i hrest hletter
        obtain ⟨e, he, -⟩ := Option.map_eq_some_iff.mp h
        refine notMem_of_behindFraction hrest
          (notMem_cons ?_ (Numeral.notMem_of_integer? he))
        rintro rfl
        exact absurd hletter (by decide)
      · exact nomatch h

theorem notMem_of_magnitudeDouble? {x : Float} (h : magnitudeDouble? cs = some x) : '\'' ∉ cs := by
  unfold magnitudeDouble? at h
  simp only at h
  split at h
  · rename_i hword
    rcases (Bool.or_eq_true _ _).mp hword with hword | hword
    · exact notMem_of_word (by decide) (of_decide_eq_true hword)
    · exact notMem_of_word (by decide) (of_decide_eq_true hword)
  · split at h
    · rename_i hword
      exact notMem_of_word (by decide) hword
    · exact notMem_of_unsignedDouble? h

theorem notMem_of_double? {x : Float} (h : double? cs = some x) : '\'' ∉ cs := by
  unfold double? at h
  split at h
  · obtain ⟨y, hy, -⟩ := Option.map_eq_some_iff.mp h
    exact notMem_cons (by decide) (notMem_of_magnitudeDouble? hy)
  · exact notMem_cons (by decide) (notMem_of_magnitudeDouble? h)
  · exact notMem_of_magnitudeDouble? h

end Number

/-! ## Identifiers -/

namespace Text

theorem hexValue?_quote : hexValue? '\'' = none := by decide

theorem notMem_of_bytesOfDigits? {bytes : List UInt8} (h : bytesOfDigits? cs = some bytes) :
    '\'' ∉ cs := by
  fun_induction bytesOfDigits? cs generalizing bytes with
  | case1 => exact List.not_mem_nil
  | case2 => exact nomatch h
  | case3 a b cs ih =>
    simp only [Option.bind_eq_bind, Option.bind_eq_some_iff] at h
    obtain ⟨high, hhigh, low, hlow, bytes, hbytes, -⟩ := h
    refine notMem_cons ?_ (notMem_cons ?_ (ih hbytes))
    · rintro rfl
      exact nomatch hexValue?_quote.symm.trans hhigh
    · rintro rfl
      exact nomatch hexValue?_quote.symm.trans hlow

end Text

namespace Uuid

theorem notMem_of_take {n : Nat} (hfront : '\'' ∉ cs.take n) (hback : '\'' ∉ cs.drop n) :
    '\'' ∉ cs := by
  rw [← List.take_append_drop n cs]
  exact fun h => (List.mem_append.mp h).elim hfront hback

theorem notMem_drop_of_hyphen {n : Nat} (hhyphen : cs.drop n = '-' :: rest)
    (hback : '\'' ∉ cs.drop (n + 1)) : '\'' ∉ cs.drop n := by
  rw [← List.drop_drop, hhyphen] at hback
  rw [hhyphen]
  exact notMem_cons (by decide) hback

theorem notMem_drop_of_group {n width : Nat} (hgroup : '\'' ∉ (cs.drop n).take width)
    (hback : '\'' ∉ cs.drop (n + width)) : '\'' ∉ cs.drop n :=
  notMem_of_take hgroup (by rwa [List.drop_drop])

theorem notMem_of_withoutHyphens? {ds : List Char} (h : withoutHyphens? cs = some ds)
    (hds : '\'' ∉ ds) : '\'' ∉ cs := by
  unfold withoutHyphens? at h
  split at h
  · rename_i h₈ h₁₃ h₁₈ h₂₃
    cases h
    simp only [List.mem_append, not_or] at hds
    obtain ⟨⟨⟨⟨hfirst, hsecond⟩, hthird⟩, hfourth⟩, hlast⟩ := hds
    have hfifth : '\'' ∉ cs.drop 23 := notMem_drop_of_hyphen h₂₃ hlast
    have hfrom₁₈ := notMem_drop_of_hyphen h₁₈ (notMem_drop_of_group hfourth hfifth)
    have hfrom₁₃ := notMem_drop_of_hyphen h₁₃ (notMem_drop_of_group hthird hfrom₁₈)
    have hfrom₈ := notMem_drop_of_hyphen h₈ (notMem_drop_of_group hsecond hfrom₁₃)
    exact notMem_of_take hfirst hfrom₈
  · exact nomatch h

theorem notMem_of_hyphenated? {u : Uuid} (h : hyphenated? cs = some u) : '\'' ∉ cs := by
  unfold hyphenated? at h
  split at h
  · simp only [Option.bind_eq_bind, Option.bind_eq_some_iff] at h
    obtain ⟨ds, hds, bytes, hbytes, -⟩ := h
    exact notMem_of_withoutHyphens? hds (Text.notMem_of_bytesOfDigits? hbytes)
  · exact nomatch h

theorem notMem_of_read? {u : Uuid} (h : read? cs = some u) : '\'' ∉ cs := by
  unfold read? at h
  split at h
  · obtain ⟨bytes, hbytes, -⟩ := Option.bind_eq_some_iff.mp h
    exact Text.notMem_of_bytesOfDigits? hbytes
  split at h
  · exact notMem_of_hyphenated? h
  split at h
  · split at h
    · split at h
      · rename_i inner hlast
        refine notMem_cons (by decide) ?_
        obtain ⟨front, rfl⟩ := List.getLast?_eq_some_iff.mp hlast
        rw [List.dropLast_concat] at h
        intro hquote
        rcases List.mem_append.mp hquote with hfront | hbrace
        · exact notMem_of_hyphenated? h hfront
        · exact absurd hbrace (by decide)
      · exact nomatch h
    · exact nomatch h
  split at h
  · rename_i hurn
    rw [Bool.and_eq_true, List.isPrefixOf_iff_prefix] at hurn
    have hword := List.prefix_iff_eq_take.mp hurn.2
    rw [← List.map_take] at hword
    exact notMem_of_take (notMem_of_map_toLower (by decide) hword.symm) (notMem_of_hyphenated? h)
  · exact nomatch h

end Uuid

/-! ## Coercion -/

namespace Value

variable {s : String} {w : Value}

theorem eq_of_orReason {α : Type} {reason : Reason} {o : Option α} {x : α}
    (h : orReason reason o = .ok x) : o = some x := by
  cases o with
  | none => exact nomatch h
  | some y => cases h; rfl

theorem ok_of_map {α β : Type} {x : Except Reason α} {f : α → β} {y : β} (h : x.map f = .ok y) :
    ∃ a, x = .ok a := by
  cases x with
  | error _ => exact nomatch h
  | ok a => exact ⟨a, rfl⟩

theorem notMem_of_trimmedChars (h : '\'' ∉ trimmedChars s) : '\'' ∉ s.toList :=
  fun hquote => h (mem_trimBoth isBlank_quote hquote)

theorem notMem_of_truthOfWord? {b : Bool}
    (h : truthOfWord? (String.ofList (cs.map Char.toLower)) = some b) : '\'' ∉ cs := by
  have hwords : ∀ word ∈ ["true", "t", "1", "y", "yes"] ++ ["false", "f", "0", "n", "no"],
      '\'' ∉ word.toList := by decide
  have hmem : String.ofList (cs.map Char.toLower) ∈
      ["true", "t", "1", "y", "yes"] ++ ["false", "f", "0", "n", "no"] := by
    unfold truthOfWord? at h
    split at h
    · rename_i hword
      exact List.mem_append_left _ hword
    · split at h
      · rename_i hword
        exact List.mem_append_right _ hword
      · exact nomatch h
  exact notMem_of_word (hwords _ hmem) rfl

theorem notMem_of_coerceBool {b : Bool} (h : coerceBool (.string s) = .ok b) : '\'' ∉ s.toList :=
  notMem_of_trimmedChars (notMem_of_truthOfWord? (eq_of_orReason h))

theorem notMem_of_coerceInteger {t : FieldType} {low high : Int} {make : Int → Scalar}
    (h : coerceInteger (.string s) t low high make = .ok w) : '\'' ∉ s.toList := by
  unfold coerceInteger at h
  split at h
  · exact nomatch h
  · rename_i n hn
    obtain ⟨k, hk, -⟩ := Option.bind_eq_some_iff.mp hn
    exact notMem_of_trimmedChars (Numeral.notMem_of_integer? hk)

theorem notMem_of_coerceDate {d : Calendar.Date} (h : coerceDate (.string s) = .ok d) :
    '\'' ∉ s.toList := by
  refine notMem_of_trimmedChars ?_
  rcases Option.or_eq_some_iff.mp (eq_of_orReason h) with hdate | ⟨-, hmoment⟩
  · exact Calendar.Date.notMem_of_read? hdate
  · obtain ⟨x, hx, -⟩ := Option.map_eq_some_iff.mp hmoment
    exact Calendar.DateTime.notMem_of_read? hx

end Value

/-- Whether a text that is read as a field type may hold a quote. -/
def FieldType.admitsQuotes : FieldType → Bool
  | .string | .bytes | .json | .enumeration _ | .other _ => true
  | _ => false

/-- A text that is coerced to any other type holds no quote. -/
theorem Value.notMem_of_coerce {s : String} {t : FieldType} {w : Value}
    (h : (Value.text s).coerce t = .ok w) (ht : t.admitsQuotes = false) : '\'' ∉ s.toList := by
  replace h : coerceScalar (.string s) t = .ok w := h
  cases t with
  | tinyInt | smallInt | int | bigInt =>
    rw [coerceScalar] at h
    exact notMem_of_coerceInteger h
  | bool =>
    obtain ⟨b, hb⟩ := ok_of_map h
    exact notMem_of_coerceBool hb
  | float | double =>
    obtain ⟨x, hx⟩ := ok_of_map h
    exact notMem_of_trimmedChars (Number.notMem_of_double? (eq_of_orReason hx))
  | decimal =>
    obtain ⟨d, hd⟩ := ok_of_map h
    exact notMem_of_trimmedChars (FixedPoint.notMem_of_read? (eq_of_orReason hd))
  | date =>
    obtain ⟨d, hd⟩ := ok_of_map h
    exact notMem_of_coerceDate hd
  | time =>
    obtain ⟨x, hx⟩ := ok_of_map h
    exact notMem_of_trimmedChars (Calendar.Time.notMem_of_read? (eq_of_orReason hx))
  | dateTime =>
    obtain ⟨x, hx⟩ := ok_of_map h
    exact notMem_of_trimmedChars (Calendar.DateTime.notMem_of_read? (eq_of_orReason hx))
  | uuid =>
    obtain ⟨u, hu⟩ := ok_of_map h
    exact notMem_of_trimmedChars (Uuid.notMem_of_read? (eq_of_orReason hu))
  | string | bytes | json | enumeration | other => exact nomatch ht

end TableMapping
