import TableMapping.Model.DataType
import TableMapping.Sql.Identifier

/-!
# Literals

A literal is a text between quotes in which every quote is written twice.  An engine that meets an
opening quote reads up to the first quote that is not one of a pair, and takes what stands behind it
for the next piece of the statement.  So whether a text between quotes is one literal depends on
how the quotes inside it stand together.

* `Sql.IsPaired`: every quote belongs to a pair.
* `Sql.readQuoted?`: what an engine reads, with `readQuoted?_eq_some_iff`.
* `Sql.exists_readQuoted?_iff`: a text is read to its end exactly when the quotes inside are paired.
* `DefaultValue.literal_of_readQuoted?`: the text of a default value is the one that is read.
* `DefaultValue.mem_undoubled`: of every run of quotes at least one is left when pairs are undone.
-/

namespace TableMapping

/-! ## Quotes in pairs -/

namespace Sql

variable {quote c : Char} {cs text rest : List Char}

/-- Every quote belongs to a pair of quotes that stand together. -/
inductive IsPaired (quote : Char) : List Char → Prop
  | nil : IsPaired quote []
  | pair {cs : List Char} (h : IsPaired quote cs) : IsPaired quote (quote :: quote :: cs)
  | char {c : Char} {cs : List Char} (hc : c ≠ quote) (h : IsPaired quote cs) :
    IsPaired quote (c :: cs)

theorem isPaired_doubled (quote : Char) (text : List Char) :
    IsPaired quote (doubled quote text) := by
  induction text with
  | nil => exact .nil
  | cons c text ih =>
    rw [doubled]
    split
    · exact .pair ih
    · rename_i hc
      exact .char hc ih

theorem isPaired_iff : IsPaired quote cs ↔ ∃ text, cs = doubled quote text := by
  constructor
  · intro h
    induction h with
    | nil => exact ⟨[], rfl⟩
    | pair _ ih =>
      obtain ⟨text, rfl⟩ := ih
      exact ⟨quote :: text, by rw [doubled, if_pos rfl]⟩
    | @char c _ hc _ ih =>
      obtain ⟨text, rfl⟩ := ih
      exact ⟨c :: text, by rw [doubled, if_neg hc]⟩
  · rintro ⟨text, rfl⟩
    exact isPaired_doubled quote text

/-- A text without quotes has all its quotes in pairs. -/
theorem isPaired_of_notMem (h : quote ∉ cs) : IsPaired quote cs := by
  induction cs with
  | nil => exact .nil
  | cons c cs ih =>
    obtain ⟨hc, hcs⟩ := not_or.mp (mt List.mem_cons.mpr h)
    exact .char (Ne.symm hc) (ih hcs)

/-! ## What an engine reads -/

/-- Read on behind an opening quote: the text up to the first quote that is not one of a pair, and
what stands behind that quote. -/
def readInside? (quote : Char) : List Char → Option (List Char × List Char)
  | [] => none
  | [c] => if c = quote then some ([], []) else none
  | c :: d :: cs =>
    if c = quote then
      if d = quote then (readInside? quote cs).map fun r => (quote :: r.1, r.2)
      else some ([], d :: cs)
    else (readInside? quote (d :: cs)).map fun r => (c :: r.1, r.2)

/-- Read a quoted text at the front of a text, and give what stands behind it. -/
def readQuoted? (quote : Char) : List Char → Option (List Char × List Char)
  | [] => none
  | c :: cs => if c = quote then readInside? quote cs else none

theorem readInside?_close (h : rest.head? ≠ some quote) :
    readInside? quote (quote :: rest) = some ([], rest) := by
  cases rest with
  | nil => rw [readInside?, if_pos rfl]
  | cons c rest => rw [readInside?, if_pos rfl, if_neg fun hc => h (congrArg some hc)]

theorem readInside?_pair (quote : Char) (cs : List Char) :
    readInside? quote (quote :: quote :: cs) =
      (readInside? quote cs).map fun r => (quote :: r.1, r.2) := by
  rw [readInside?, if_pos rfl, if_pos rfl]

theorem readInside?_char (hc : c ≠ quote) (cs : List Char) :
    readInside? quote (c :: cs) = (readInside? quote cs).map fun r => (c :: r.1, r.2) := by
  cases cs with
  | nil => exact if_neg hc
  | cons d cs => rw [readInside?, if_neg hc]

theorem readInside?_doubled (h : rest.head? ≠ some quote) (text : List Char) :
    readInside? quote (doubled quote text ++ quote :: rest) = some (text, rest) := by
  induction text with
  | nil => exact readInside?_close h
  | cons c text ih =>
    rw [doubled]
    split
    · rename_i hc
      rw [hc, List.cons_append, List.cons_append, readInside?_pair, ih]
      rfl
    · rename_i hc
      rw [List.cons_append, readInside?_char hc, ih]
      rfl

theorem eq_of_readInside? (h : readInside? quote cs = some (text, rest)) :
    cs = doubled quote text ++ quote :: rest ∧ rest.head? ≠ some quote := by
  fun_induction readInside? quote cs generalizing text rest with
  | case1 => exact nomatch h
  | case2 =>
    cases h
    exact ⟨rfl, nofun⟩
  | case3 => exact nomatch h
  | case4 cs ih =>
    obtain ⟨⟨t, r⟩, hread, heq⟩ := Option.map_eq_some_iff.mp h
    cases heq
    obtain ⟨rfl, hrest⟩ := ih hread
    exact ⟨by rw [doubled, if_pos rfl]; rfl, hrest⟩
  | case5 d cs hd =>
    cases h
    exact ⟨rfl, fun heq => hd (Option.some.inj heq)⟩
  | case6 c d cs hc ih =>
    obtain ⟨⟨t, r⟩, hread, heq⟩ := Option.map_eq_some_iff.mp h
    cases heq
    obtain ⟨hcs, hrest⟩ := ih hread
    exact ⟨by rw [hcs, doubled, if_neg hc]; rfl, hrest⟩

/-- A quoted text is read at the front of a text exactly where its quotes are doubled and the
closing one is followed by no other. -/
theorem readQuoted?_eq_some_iff : readQuoted? quote cs = some (text, rest) ↔
    cs = quote :: (doubled quote text ++ quote :: rest) ∧ rest.head? ≠ some quote := by
  constructor
  · intro h
    cases cs with
    | nil => exact nomatch h
    | cons c cs =>
      rw [readQuoted?] at h
      split at h
      · rename_i hc
        obtain ⟨rfl, hrest⟩ := eq_of_readInside? h
        exact ⟨by rw [hc], hrest⟩
      · exact nomatch h
  · rintro ⟨rfl, hrest⟩
    rw [readQuoted?, if_pos rfl, readInside?_doubled hrest]

/-- A text is one quoted text, read to its end, exactly when it stands between two quotes and every
quote inside belongs to a pair. -/
theorem exists_readQuoted?_iff : (∃ text, readQuoted? quote cs = some (text, [])) ↔
    ∃ inner, cs = quote :: (inner ++ [quote]) ∧ IsPaired quote inner := by
  constructor
  · rintro ⟨text, h⟩
    obtain ⟨rfl, -⟩ := readQuoted?_eq_some_iff.mp h
    exact ⟨doubled quote text, rfl, isPaired_doubled quote text⟩
  · rintro ⟨inner, rfl, hpaired⟩
    obtain ⟨text, rfl⟩ := isPaired_iff.mp hpaired
    exact ⟨text, readQuoted?_eq_some_iff.mpr ⟨rfl, nofun⟩⟩

end Sql

/-! ## Default values -/

namespace DefaultValue

open Sql

variable {cs inner text : List Char}

/-- A default value ends where it seems to: it holds no quote, or it stands between two quotes and
every quote inside belongs to a pair. -/
def IsSelfContained (cs : List Char) : Prop :=
  '\'' ∉ cs ∨ ∃ inner, cs = '\'' :: (inner ++ ['\'']) ∧ IsPaired '\'' inner

theorem isQuoted_iff : isQuoted cs = true ↔ ∃ inner, cs = '\'' :: (inner ++ ['\'']) := by
  rw [isQuoted, Bool.and_eq_true, Bool.and_eq_true, decide_eq_true_eq, beq_iff_eq, beq_iff_eq]
  constructor
  · rintro ⟨⟨hlength, hhead⟩, hlast⟩
    obtain ⟨cs', rfl⟩ := List.head?_eq_some_iff.mp hhead
    have hne : cs' ≠ [] := by
      rintro rfl
      exact absurd hlength (by decide)
    rw [List.getLast?_cons_of_ne_nil hne] at hlast
    obtain ⟨inner, rfl⟩ := List.getLast?_eq_some_iff.mp hlast
    exact ⟨inner, rfl⟩
  · rintro ⟨inner, rfl⟩
    refine ⟨⟨?_, rfl⟩, ?_⟩
    · rw [List.length_cons, List.length_append, List.length_singleton]
      omega
    · rw [← List.cons_append, List.getLast?_append]
      rfl

theorem literal_quoted (inner : List Char) :
    literal ('\'' :: (inner ++ ['\''])) = String.ofList (undoubled inner) := by
  rw [literal, List.drop_succ_cons, List.drop_zero, List.dropLast_concat]

theorem undoubled_cons {c : Char} (hc : c ≠ '\'') (cs : List Char) :
    undoubled (c :: cs) = c :: undoubled cs := by
  rw [undoubled.eq_def]
  split
  · rename_i heq
    exact absurd (List.cons.inj heq).1 hc
  · rename_i heq
    cases heq
    rfl
  · rename_i heq
    exact nomatch heq

theorem undoubled_doubled (text : List Char) : undoubled (doubled '\'' text) = text := by
  induction text with
  | nil => rfl
  | cons c text ih =>
    rw [doubled]
    split
    · rename_i hc
      rw [undoubled, ih, hc]
    · rename_i hc
      rw [undoubled_cons hc, ih]

/-- The text of a default value that is one literal is what an engine reads. -/
theorem literal_of_readQuoted? (h : readQuoted? '\'' cs = some (text, [])) :
    literal cs = String.ofList text := by
  obtain ⟨rfl, -⟩ := readQuoted?_eq_some_iff.mp h
  rw [literal_quoted, undoubled_doubled]

/-- Of every run of quotes at least one is left. -/
theorem mem_undoubled (h : '\'' ∈ cs) : '\'' ∈ undoubled cs := by
  fun_induction undoubled cs with
  | case1 cs ih => exact List.mem_cons_self
  | case2 c cs _ ih =>
    rcases List.mem_cons.mp h with hc | hcs
    · rw [hc]
      exact List.mem_cons_self
    · exact List.mem_cons_of_mem c (ih hcs)
  | case3 => exact h

end DefaultValue
end TableMapping
