import Mathlib.Data.List.TakeWhile
import TableMapping.Proofs.Number.Numeral
import TableMapping.Text.Blank

/-!
# Texts with blanks around them

A text that neither starts nor ends with a blank is what is left of it when blanks around it are
dropped.  Digits are no blanks, so this is true of every numeral.

* `Surrounds`: a text with blanks around another.
* `trimBoth_of_surrounds`: what is left of such a text.
-/

namespace TableMapping
namespace Text

variable {cs ds : List Char} {s : String} {c : Char}

/-- A text that neither starts nor ends with a blank. -/
structure IsTrimmed (cs : List Char) : Prop where
  head : ∀ c ∈ cs.head?, isBlank c = false
  last : ∀ c ∈ cs.getLast?, isBlank c = false

/-- A text consists of these characters and of blanks around them. -/
def Surrounds (s : String) (cs : List Char) : Prop :=
  ∃ before after, (∀ c ∈ before, isBlank c = true) ∧ (∀ c ∈ after, isBlank c = true) ∧
    s.toList = before ++ cs ++ after

/-- No blanks at all are blanks around a text. -/
theorem surrounds_self (s : String) : Surrounds s s.toList :=
  ⟨[], [], List.forall_mem_nil _, List.forall_mem_nil _, (List.append_nil _).symm⟩

/-! ## Dropping blanks -/

theorem trimStart_append (h : ∀ c ∈ cs, isBlank c = true) : trimStart (cs ++ ds) = trimStart ds :=
  List.dropWhile_append_of_pos h

theorem trimStart_of_head (h : ∀ c ∈ cs.head?, isBlank c = false) : trimStart cs = cs := by
  cases cs with
  | nil => rfl
  | cons c cs =>
    have hc : isBlank c = false := h c rfl
    rw [trimStart, List.dropWhile_cons, hc]
    rfl

theorem trimStart_cons (h : isBlank c = false) (cs : List Char) : trimStart (c :: cs) = c :: cs :=
  trimStart_of_head fun _ hc => by rwa [← Option.some.inj hc]

theorem trimStart_eq_nil (h : ∀ c ∈ cs, isBlank c = true) : trimStart cs = [] :=
  List.dropWhile_eq_nil_iff.mpr h

theorem trimBoth_of_surrounds (h : Surrounds s cs) (hcs : IsTrimmed cs) : trimBoth s.toList = cs := by
  obtain ⟨before, after, hbefore, hafter, heq⟩ := h
  rw [heq, trimBoth, List.append_assoc, trimStart_append hbefore]
  cases cs with
  | nil => rw [List.nil_append, trimStart_eq_nil hafter]; rfl
  | cons c cs =>
    have hlast : ∀ b ∈ (c :: cs).reverse.head?, isBlank b = false := by
      rw [List.head?_reverse]
      exact hcs.last
    have hreverse : ∀ b ∈ after.reverse, isBlank b = true :=
      fun b hb => hafter b (List.mem_reverse.mp hb)
    rw [List.cons_append, trimStart_cons (hcs.head c rfl), ← List.cons_append, List.reverse_append,
      trimStart_append hreverse, trimStart_of_head hlast, List.reverse_reverse]

/-! ## Digits -/

theorem toNat_of_isDigit (h : c.isDigit = true) : 48 ≤ c.toNat ∧ c.toNat ≤ 57 := by
  simp only [Char.isDigit, Bool.and_eq_true, decide_eq_true_eq, ge_iff_le] at h
  exact ⟨h.1, h.2⟩

theorem isBlank_of_isDigit (h : c.isDigit = true) : isBlank c = false := by
  obtain ⟨hlow, hhigh⟩ := toNat_of_isDigit h
  simp [isBlank]
  omega

theorem IsTrimmed.of_forall (h : ∀ c ∈ cs, isBlank c = false) : IsTrimmed cs where
  head c hc := h c (List.mem_of_mem_head? hc)
  last c hc := h c (List.mem_of_mem_getLast? hc)

/-- Only the two ends of a text matter. -/
theorem IsTrimmed.append (hcs : IsTrimmed cs) (hds : IsTrimmed ds) (hcs_ne : cs ≠ [])
    (hds_ne : ds ≠ []) (mid : List Char) : IsTrimmed (cs ++ mid ++ ds) where
  head c hc := by
    obtain ⟨a, as, rfl⟩ := List.exists_cons_of_ne_nil hcs_ne
    exact hcs.head c hc
  last c hc := by
    rw [List.getLast?_append, List.getLast?_eq_some_getLast hds_ne, Option.some_or] at hc
    refine hds.last c ?_
    rwa [List.getLast?_eq_some_getLast hds_ne]

theorem isTrimmed_ofInt (n : Int) : IsTrimmed (Numeral.ofInt n).toList := by
  refine .of_forall fun c hc => ?_
  obtain ⟨sign, k, heq, hsign⟩ := Numeral.exists_toList_ofInt n
  rw [heq, List.mem_append] at hc
  rcases hc with hc | hc
  · rcases hsign with rfl | rfl
    · exact absurd hc List.not_mem_nil
    · rw [List.mem_singleton.mp hc]
      decide
  · exact isBlank_of_isDigit (Numeral.isDigit_of_mem_digits hc)

end Text
end TableMapping
