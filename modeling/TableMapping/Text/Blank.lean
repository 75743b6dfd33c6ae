/-!
# Blank characters and the words between them

A text read from a column may carry white space on both sides, and a list of
columns is written with commas and white space in any mixture.  Both rules speak
of the same blank characters: the twenty-five code points with the property
`White_Space`, which is more than the seven that `Char.isWhitespace` knows.

* `trim` removes the blanks at both ends and nothing else;
* `words` is the list of the non-empty runs between separators.
-/

namespace TableMapping
namespace Text

/-- The code points with the property `White_Space`. -/
def isBlank (c : Char) : Bool :=
  let n := c.toNat
  (9 ≤ n && n ≤ 13) || n == 32 || n == 0x85 || n == 0xA0 || n == 0x1680 ||
    (0x2000 ≤ n && n ≤ 0x200A) || n == 0x2028 || n == 0x2029 || n == 0x202F ||
    n == 0x205F || n == 0x3000

/-- Drop the blanks in front. -/
def trimStart (cs : List Char) : List Char :=
  cs.dropWhile isBlank

/-- Drop the blanks at both ends. -/
def trimBoth (cs : List Char) : List Char :=
  (trimStart (trimStart cs).reverse).reverse

/-- A text without the blanks at its two ends. -/
def trim (s : String) : String :=
  String.ofList (trimBoth s.toList)

/-- Whether a text holds nothing but blanks. -/
def isBlankText (s : String) : Bool :=
  s.toList.all isBlank

/-- Drop the mark of the encoding at the front of a text. -/
def dropByteOrderMark : List Char → List Char
  | '\ufeff' :: cs => cs
  | cs => cs

/-- The runs between separators, the empty ones included.  There is always at least one. -/
def runs {α : Type} (sep : α → Bool) : List α → List (List α)
  | [] => [[]]
  | c :: cs =>
    if sep c then [] :: runs sep cs
    else
      match runs sep cs with
      | [] => [[c]]
      | w :: ws => (c :: w) :: ws

/-- The non-empty runs of characters between separators, in order. -/
def words (sep : Char → Bool) (s : String) : List String :=
  ((runs sep s.toList).filter fun w => !w.isEmpty).map String.ofList

/-- Whether a character separates the names of a column list. -/
def isColumnSeparator (c : Char) : Bool :=
  c == ',' || isBlank c

/-- The names of a column list written with commas and blanks. -/
def columnNames (s : String) : List String :=
  words isColumnSeparator s

/-! ## Runs -/

section Runs

variable {α : Type} {sep : α → Bool} {c : α} {cs w : List α}

@[simp] theorem runs_nil (sep : α → Bool) : runs sep [] = [[]] := rfl

theorem runs_ne_nil (sep : α → Bool) (cs : List α) : runs sep cs ≠ [] := by
  cases cs with
  | nil => simp
  | cons c cs =>
    unfold runs
    split
    · simp
    · split <;> simp

theorem runs_cons_of_sep (h : sep c = true) (cs : List α) :
    runs sep (c :: cs) = [] :: runs sep cs := by
  simp [runs, h]

/-- A run that goes on before what is read already. -/
theorem runs_cons_of_not_sep (h : sep c = false) {ws : List (List α)}
    (hruns : runs sep cs = w :: ws) : runs sep (c :: cs) = (c :: w) :: ws := by
  rw [runs, h, hruns]
  rfl

/-- At a separator the runs of a text fall apart. -/
theorem runs_append (hc : sep c = true) (cs ds : List α) :
    runs sep (cs ++ c :: ds) = runs sep cs ++ runs sep ds := by
  induction cs with
  | nil => rw [List.nil_append, runs_cons_of_sep hc, runs_nil, List.singleton_append]
  | cons a cs ih =>
    rw [List.cons_append]
    cases ha : sep a with
    | true => rw [runs_cons_of_sep ha, runs_cons_of_sep ha, ih, List.cons_append]
    | false =>
      obtain ⟨w, ws, hruns⟩ := List.exists_cons_of_ne_nil (runs_ne_nil sep cs)
      rw [hruns, List.cons_append] at ih
      rw [runs_cons_of_not_sep ha ih, runs_cons_of_not_sep ha hruns, List.cons_append]

/-- A text without separators is one run. -/
theorem runs_eq_singleton (h : ∀ c ∈ cs, sep c = false) : runs sep cs = [cs] := by
  induction cs with
  | nil => rfl
  | cons c cs ih =>
    obtain ⟨hc, hcs⟩ := List.forall_mem_cons.mp h
    exact runs_cons_of_not_sep hc (ih hcs)

end Runs

end Text
end TableMapping
