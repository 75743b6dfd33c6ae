import Mathlib.Data.Multiset.Filter
import TableMapping.Value.Basic

/-!
# Rows and tables

A row holds values in some columns, a table is a multiset of rows.  The rows of a table are told
apart by a key, some of the columns; NULL is in no key.

* `Table.upsert`: a row takes the place of the row with its key, or is new.
* `Table.others_upsert`: the rows with other keys are as they were.
* `Table.UniqueKeys.upsert`: keys that are unique stay so.
-/

namespace TableMapping

/-! ## Rows -/

/-- A row of a table: what each of its columns holds. -/
abbrev TableRow := String → Option Value

/-- Columns with their values, as a statement lists them. -/
abbrev Assignments := List (String × Value)

/-- The columns that are listed. -/
def Assignments.columns (cells : Assignments) : List String :=
  cells.map (·.1)

/-- What is assigned to some of the columns. -/
def Assignments.picked (cells : Assignments) (columns : List String) : Assignments :=
  cells.filter fun cell => decide (cell.1 ∈ columns)

namespace TableRow

/-- The row that holds what is assigned. -/
def ofAssignments (cells : Assignments) : TableRow :=
  fun c => cells.lookup c

/-- A row in which columns have been assigned. -/
def assign (r : TableRow) (cells : Assignments) : TableRow :=
  fun c => (cells.lookup c).or (r c)

/-- Rows with the same values in the columns of a key.  NULL is not the same as anything. -/
def SameKey (key : List String) (r r' : TableRow) : Prop :=
  ∀ c ∈ key, ∃ x, r c = some (.of x) ∧ r' c = some (.of x)

/-- A row has all of the values.  Nothing has the value NULL. -/
def Meets (conditions : Assignments) (r : TableRow) : Prop :=
  ∀ cell ∈ conditions, ∃ x, cell.2 = .of x ∧ r cell.1 = some (.of x)

variable {key : List String} {r r' r'' : TableRow}

theorem SameKey.symm (h : SameKey key r r') : SameKey key r' r := by
  intro c hc
  obtain ⟨x, hx, hx'⟩ := h c hc
  exact ⟨x, hx', hx⟩

theorem SameKey.trans (h : SameKey key r r') (h' : SameKey key r' r'') : SameKey key r r'' := by
  intro c hc
  obtain ⟨x, hx, hx'⟩ := h c hc
  obtain ⟨y, hy, hy'⟩ := h' c hc
  rw [← hx', hy] at hx
  exact ⟨y, hx, hy'⟩

end TableRow

namespace Assignments

variable {cells : Assignments} {columns : List String} {c : String} {v : Value}

theorem lookup_picked (cells : Assignments) (columns : List String) (c : String) :
    (cells.picked columns).lookup c = if c ∈ columns then cells.lookup c else none := by
  induction cells with
  | nil => rw [picked, List.filter_nil, List.lookup_nil, ite_self]
  | cons cell cells ih =>
    obtain ⟨c', v⟩ := cell
    rw [picked] at ih
    rw [picked, List.filter_cons]
    by_cases hc : c = c'
    · subst hc
      by_cases hmem : c ∈ columns
      · simp [hmem]
      · simpa [hmem] using ih
    · have hskip : ∀ cells', List.lookup c ((c', v) :: cells') = List.lookup c cells' := by
        intro cells'
        rw [List.lookup_cons, beq_eq_false_iff_ne.mpr hc]
      rw [hskip, ← ih]
      split
      · exact hskip _
      · rfl

theorem mem_columns_of_lookup (h : cells.lookup c = some v) : c ∈ cells.columns := by
  obtain ⟨before, after, rfl, -⟩ := List.lookup_eq_some_iff.mp h
  rw [columns, List.map_append, List.map_cons]
  exact List.mem_append_right _ List.mem_cons_self

/-- Where no column is listed twice, a column holds what it is listed with. -/
theorem lookup_of_mem (hnodup : cells.columns.Nodup) (h : (c, v) ∈ cells) :
    cells.lookup c = some v := by
  obtain ⟨before, after, rfl⟩ := List.append_of_mem h
  rw [columns, List.map_append, List.map_cons] at hnodup
  refine List.lookup_eq_some_iff.mpr ⟨before, after, rfl, fun cell hcell => ?_⟩
  rw [bne_iff_ne]
  rintro rfl
  have hdisjoint := (List.nodup_append.mp hnodup).2.2
  exact hdisjoint _ (List.mem_map_of_mem hcell) _ List.mem_cons_self rfl

end Assignments

/-! ## Tables -/

namespace Table

open TableRow Classical

variable {key : List String} {row r : TableRow} {t : Multiset TableRow}

/-- The rows with the key of a row. -/
noncomputable def matching (key : List String) (row : TableRow) (t : Multiset TableRow) :
    Multiset TableRow :=
  t.filter (SameKey key row)

/-- The rows with other keys. -/
noncomputable def others (key : List String) (row : TableRow) (t : Multiset TableRow) :
    Multiset TableRow :=
  t.filter fun r => ¬SameKey key row r

/-- The rows that meet conditions. -/
noncomputable def meeting (conditions : Assignments) (t : Multiset TableRow) :
    Multiset TableRow :=
  t.filter (Meets conditions)

/-- The rows that miss a condition. -/
noncomputable def missing (conditions : Assignments) (t : Multiset TableRow) :
    Multiset TableRow :=
  t.filter fun r => ¬Meets conditions r

/-- No two rows have the same key. -/
def UniqueKeys (key : List String) (t : Multiset TableRow) : Prop :=
  ∀ r, (matching key r t).card ≤ 1

/-- The table in which a row is the one with its key. -/
noncomputable def upsert (key : List String) (row : TableRow) (t : Multiset TableRow) :
    Multiset TableRow :=
  row ::ₘ others key row t

theorem matching_add_others (key : List String) (row : TableRow) (t : Multiset TableRow) :
    matching key row t + others key row t = t :=
  Multiset.filter_add_not (SameKey key row) t

theorem meeting_eq_matching {conditions : Assignments}
    (h : ∀ r, Meets conditions r ↔ SameKey key row r) (t : Multiset TableRow) :
    meeting conditions t = matching key row t :=
  Multiset.filter_congr fun r _ => h r

theorem missing_eq_others {conditions : Assignments}
    (h : ∀ r, Meets conditions r ↔ SameKey key row r) (t : Multiset TableRow) :
    missing conditions t = others key row t :=
  Multiset.filter_congr fun r _ => not_congr (h r)

theorem UniqueKeys.matching_eq (h : UniqueKeys key t) (row : TableRow) :
    matching key row t = 0 ∨ ∃ r, matching key row t = {r} := by
  rcases Nat.eq_zero_or_pos (matching key row t).card with hnone | hsome
  · exact .inl (Multiset.card_eq_zero.mp hnone)
  · exact .inr (Multiset.card_eq_one.mp (Nat.le_antisymm (h row) hsome))

theorem others_of_matching_eq_zero (h : matching key row t = 0) : others key row t = t := by
  have hsplit := matching_add_others key row t
  rwa [h, Multiset.zero_add] at hsplit

theorem upsert_of_matching_eq_zero (h : matching key row t = 0) :
    upsert key row t = row ::ₘ t := by
  rw [upsert, others_of_matching_eq_zero h]

theorem sameKey_of_matching (h : matching key row t = {r}) : r ∈ t ∧ SameKey key row r := by
  have hr : r ∈ matching key row t := by
    rw [h]
    exact Multiset.mem_singleton_self r
  exact Multiset.mem_filter.mp hr

theorem mem_of_mem_others (h : r ∈ others key row t) : r ∈ t :=
  (Multiset.mem_filter.mp h).1

/-- The rows with other keys are as they were. -/
theorem others_upsert (hrow : SameKey key row row) :
    others key row (upsert key row t) = others key row t := by
  have hall : others key row (others key row t) = others key row t := by
    refine Multiset.filter_eq_self.mpr fun r hr => ?_
    exact (Multiset.mem_filter.mp hr).2
  rw [others] at hall
  rw [others, upsert, Multiset.filter_cons_of_neg (p := fun r => ¬SameKey key row r) _
    (not_not_intro hrow)]
  exact hall

theorem upsert_upsert (hrow : SameKey key row row) :
    upsert key row (upsert key row t) = upsert key row t := by
  rw [upsert, others_upsert hrow, upsert]

theorem UniqueKeys.upsert (h : UniqueKeys key t) (row : TableRow) :
    UniqueKeys key (Table.upsert key row t) := by
  intro r
  by_cases hr : SameKey key r row
  · have hnone : matching key r (others key row t) = 0 := by
      refine Multiset.filter_eq_nil.mpr fun r' hr' hsame => ?_
      exact (Multiset.mem_filter.mp hr').2 (hr.symm.trans hsame)
    rw [matching] at hnone
    rw [matching, Table.upsert, Multiset.filter_cons_of_pos _ hr, hnone]
    exact Nat.le_refl 1
  · rw [matching, Table.upsert, Multiset.filter_cons_of_neg _ hr]
    exact (Multiset.card_le_card (Multiset.filter_le_filter _ (Multiset.filter_le _ t))).trans (h r)

end Table

end TableMapping
