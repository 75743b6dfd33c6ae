import TableMapping.Declaration.Options
import TableMapping.Model.Definition

/-!
# Lists of columns

A primary key and the columns of an index are each written as one text.  Commas and blanks stand
between the names in any number, so the text is not made of parts of its own; what counts is that a
run of separators adds no name, wherever it stands.

* `Text.words_before`, `Text.words_after`, `Text.words_append_between`: separators around a text and
  between two texts; `Text.isWord_of_mem_words`: what is read of any text.
* `Text.Joins`: names with commas and blanks between them, and `Text.Joins.columnNames`: the names
  read back.
* `Text.ListsColumns`: a text as the two places understand it, the option of a table that names its
  primary key and the entry of an index that names its columns.
* `Text.listsColumns_split`: both understand every text alike, and read back what was joined.
-/

namespace TableMapping
namespace Text

/-! ## Runs -/

section Runs

variable {α : Type} {sep : α → Bool} {cs w : List α}

/-- A run holds no separator. -/
theorem not_sep_of_mem_runs (h : w ∈ runs sep cs) : ∀ c ∈ w, sep c = false := by
  induction cs generalizing w with
  | nil =>
    rw [List.mem_singleton.mp h]
    exact List.forall_mem_nil _
  | cons c cs ih =>
    cases hc : sep c with
    | true =>
      rw [runs_cons_of_sep hc, List.mem_cons] at h
      rcases h with rfl | h
      · exact List.forall_mem_nil _
      · exact ih h
    | false =>
      obtain ⟨v, vs, hruns⟩ := List.exists_cons_of_ne_nil (runs_ne_nil sep cs)
      rw [hruns] at ih
      rw [runs_cons_of_not_sep hc hruns, List.mem_cons] at h
      rcases h with rfl | h
      · exact List.forall_mem_cons.mpr ⟨hc, ih List.mem_cons_self⟩
      · exact ih (List.mem_cons_of_mem _ h)

end Runs

/-! ## Words -/

section Words

variable {sep : Char → Bool} {s t : String}

/-- Nothing but separators. -/
def IsBetween (sep : Char → Bool) (s : String) : Prop :=
  ∀ c ∈ s.toList, sep c = true

/-- What a list of names may hold: a text that is not empty and has no separator. -/
def IsWord (sep : Char → Bool) (s : String) : Prop :=
  s ≠ "" ∧ ∀ c ∈ s.toList, sep c = false

theorem words_ofList_append {c : Char} (hc : sep c = true) (cs ds : List Char) :
    words sep (String.ofList (cs ++ c :: ds)) =
      words sep (String.ofList cs) ++ words sep (String.ofList ds) := by
  simp only [words, String.toList_ofList, runs_append hc, List.filter_append, List.map_append]

/-- Separators in front of a text add no name. -/
theorem words_before (hs : IsBetween sep s) (t : String) : words sep (s ++ t) = words sep t := by
  have hlist : ∀ cs : List Char, (∀ c ∈ cs, sep c = true) → ∀ ds,
      words sep (String.ofList (cs ++ ds)) = words sep (String.ofList ds) := by
    intro cs hcs ds
    induction cs with
    | nil => rfl
    | cons c cs ih =>
      obtain ⟨hc, hcs⟩ := List.forall_mem_cons.mp hcs
      rw [List.cons_append, ← ih hcs]
      exact words_ofList_append hc [] (cs ++ ds)
  rw [← String.ofList_toList (s := s ++ t), String.toList_append, hlist s.toList hs,
    String.ofList_toList]

/-- A separator parts the names before it from those after it, and so does a run of them. -/
theorem words_append_between {gap : String} (hgap : IsBetween sep gap) (hne : gap ≠ "")
    (s t : String) : words sep (s ++ gap ++ t) = words sep s ++ words sep t := by
  obtain ⟨c, cs, hcs⟩ := List.exists_cons_of_ne_nil (mt String.toList_eq_nil_iff.mp hne)
  have hsep : ∀ d ∈ c :: cs, sep d = true := by
    rw [← hcs]
    exact hgap
  obtain ⟨hc, hrest⟩ := List.forall_mem_cons.mp hsep
  have hbetween : IsBetween sep (String.ofList cs) := by
    rw [IsBetween, String.toList_ofList]
    exact hrest
  have htext : s ++ gap ++ t = String.ofList (s.toList ++ c :: (cs ++ t.toList)) := by
    apply String.toList_injective
    simp [hcs]
  have hafter : String.ofList (cs ++ t.toList) = String.ofList cs ++ t := by
    apply String.toList_injective
    simp
  rw [htext, words_ofList_append hc, String.ofList_toList, hafter, words_before hbetween]

/-- Separators behind a text add no name. -/
theorem words_after (ht : IsBetween sep t) (s : String) : words sep (s ++ t) = words sep s := by
  by_cases hne : t = ""
  · rw [hne, String.append_empty]
  · have hwords := words_append_between ht hne s ""
    rwa [String.append_empty, show words sep "" = [] from rfl, List.append_nil] at hwords

theorem IsWord.words (hs : IsWord sep s) : words sep s = [s] := by
  have hkept : s.toList.isEmpty = false :=
    List.isEmpty_eq_false_iff.mpr (mt String.toList_eq_nil_iff.mp hs.1)
  simp only [Text.words, runs_eq_singleton hs.2, List.filter, hkept, Bool.not_false, List.map_cons,
    List.map_nil, String.ofList_toList]

/-- Whatever the text, what it lists are words. -/
theorem isWord_of_mem_words {w : String} (hw : w ∈ words sep s) : IsWord sep w := by
  obtain ⟨cs, hcs, rfl⟩ := List.mem_map.mp hw
  obtain ⟨hruns, hkept⟩ := List.mem_filter.mp hcs
  constructor
  · intro hempty
    have hnil : cs = [] := by
      rw [← String.toList_ofList (l := cs), hempty]
      rfl
    rw [hnil] at hkept
    exact nomatch hkept
  · rw [String.toList_ofList]
    exact not_sep_of_mem_runs hruns

end Words

/-! ## Column lists -/

section Columns

variable {s : String} {names : List String}

/-- Nothing but commas and blanks. -/
def IsSpacing (s : String) : Prop :=
  ∀ c ∈ s.toList, c = ',' ∨ isBlank c = true

/-- A text that is not empty and has neither a comma nor a blank. -/
def IsColumnName (s : String) : Prop :=
  s ≠ "" ∧ ∀ c ∈ s.toList, c ≠ ',' ∧ isBlank c = false

theorem isColumnSeparator_iff {c : Char} :
    isColumnSeparator c = true ↔ c = ',' ∨ isBlank c = true := by
  rw [isColumnSeparator, Bool.or_eq_true, beq_iff_eq]

theorem isColumnSeparator_eq_false_iff {c : Char} :
    isColumnSeparator c = false ↔ c ≠ ',' ∧ isBlank c = false := by
  rw [isColumnSeparator, Bool.or_eq_false_iff, beq_eq_false_iff_ne]

theorem IsSpacing.isBetween (h : IsSpacing s) : IsBetween isColumnSeparator s :=
  fun c hc => isColumnSeparator_iff.mpr (h c hc)

theorem isWord_iff_isColumnName : IsWord isColumnSeparator s ↔ IsColumnName s :=
  and_congr_right fun _ => forall₂_congr fun _ _ => isColumnSeparator_eq_false_iff

instance (s : String) : Decidable (IsSpacing s) :=
  decidable_of_iff (s.toList.all isColumnSeparator = true)
    (List.all_eq_true.trans (forall₂_congr fun _ _ => isColumnSeparator_iff))

instance (s : String) : Decidable (IsColumnName s) :=
  decidable_of_iff ((s != "" && s.toList.all fun c => !isColumnSeparator c) = true) <| by
    simp only [Bool.and_eq_true, bne_iff_ne, List.all_eq_true, Bool.not_eq_true',
      isColumnSeparator_eq_false_iff, IsColumnName]

/-- Names in a row, with commas and blanks between each two. -/
inductive Joins : List String → String → Prop where
  | none : Joins [] ""
  | one (name : String) : Joins [name] name
  | more {names : List String} {text : String} (name gap : String) (hgap : IsSpacing gap)
      (hne : gap ≠ "") (hnames : names ≠ []) (htext : Joins names text) :
      Joins (name :: names) (name ++ gap ++ text)

theorem Joins.columnNames {text : String} (h : Joins names text)
    (hnames : ∀ n ∈ names, IsColumnName n) : columnNames text = names := by
  induction h with
  | none => rfl
  | one name => exact (isWord_iff_isColumnName.mpr (hnames name List.mem_cons_self)).words
  | more name gap hgap hne _ _ ih =>
    obtain ⟨hname, hrest⟩ := List.forall_mem_cons.mp hnames
    have hparts := words_append_between hgap.isBetween hne name
    rw [Text.columnNames, hparts, (isWord_iff_isColumnName.mpr hname).words, ← Text.columnNames,
      ih hrest, List.singleton_append]

/-- A text that the option of a table and the entry of an index both understand as these names.  A
table whose primary key names no column is left with the fields that are flagged. -/
structure ListsColumns (text : String) (names : List String) : Prop where
  columnNames_eq : columnNames text = names
  key : ∀ {M : Type} (schema : ModelSchema M) (fields : List (MappedField M)),
    schema.table.bind (·.primaryKey) = some text →
    schema.keyNames fields = if names = [] then
      (fields.filter fun f => f.isPrimaryKey).map fun f => f.columnName else names
  index : ∀ i : IndexOptions,
    Declaration.takeIndexEntry i ⟨some "columns", .literal (.text text)⟩ =
      .ok { i with columns := names }

theorem listsColumns_columnNames (text : String) : ListsColumns text (columnNames text) where
  columnNames_eq := rfl
  key schema fields htext := by
    rw [ModelSchema.keyNames, htext, Option.map_some]
    cases columnNames text with
    | nil => rfl
    | cons name names => rfl
  index _ := rfl

/-- **Column lists.**  The option and the entry understand every text alike, as a list of names.  Of
names that are joined by commas and blanks, with more of them around, they understand the names that
were joined. -/
theorem listsColumns_split :
    (∀ names before text after, (∀ n ∈ names, IsColumnName n) → Joins names text →
      IsSpacing before → IsSpacing after → ListsColumns (before ++ text ++ after) names) ∧
    ∀ text, ∃ names, ListsColumns text names ∧ ∀ n ∈ names, IsColumnName n := by
  constructor
  · intro names before text after hnames htext hbefore hafter
    have hread : columnNames (before ++ text ++ after) = names := by
      rw [columnNames, words_after hafter.isBetween, words_before hbefore.isBetween]
      exact htext.columnNames hnames
    rw [← hread]
    exact listsColumns_columnNames _
  · intro text
    refine ⟨columnNames text, listsColumns_columnNames text, fun n hn => ?_⟩
    exact isWord_iff_isColumnName.mp (isWord_of_mem_words hn)

/-- Three columns, with a blank of another script in front of them. -/
theorem listsColumns_three :
    (∀ n ∈ ["shelf", "größe", "id"], IsColumnName n) ∧ IsSpacing "\u3000, " ∧ IsSpacing "\t" ∧
      ListsColumns ("\u3000, " ++ ("shelf" ++ " ,," ++ ("größe" ++ "\n" ++ "id")) ++ "\t")
        ["shelf", "größe", "id"] := by
  have hnames : ∀ n ∈ ["shelf", "größe", "id"], IsColumnName n :=
    List.forall_mem_cons.mpr ⟨by decide, List.forall_mem_cons.mpr ⟨by decide,
      List.forall_mem_singleton.mpr (by decide)⟩⟩
  have hbefore : IsSpacing "\u3000, " := by decide
  have hafter : IsSpacing "\t" := by decide
  have htext : Joins ["shelf", "größe", "id"] ("shelf" ++ " ,," ++ ("größe" ++ "\n" ++ "id")) :=
    .more "shelf" " ,," (by decide) (by decide) (by decide)
      (.more "größe" "\n" (by decide) (by decide) (by decide) (.one "id"))
  exact ⟨hnames, hbefore, hafter, listsColumns_split.1 _ _ _ _ hnames htext hbefore hafter⟩

end Columns

end Text
end TableMapping
