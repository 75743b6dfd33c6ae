import Mathlib.Data.List.Basic
import TableMapping.Proofs.Sql.Command
import TableMapping.Proofs.Sql.Rendering

/-!
# How lists are spelled

A list in a statement is spelled part by part with a separator between the parts, and a part that
binds values counts on from the parts before it.  So a list of columns is the list of their names, a
list of values is a list of placeholders, and a list of equations has a placeholder in each.

* `Dialect.text`: the text of fragments behind a number of values.
* `Dialect.text_separated`: the text of parts that bind one number of values each, and
  `Dialect.text_separated_of_bound`, the case of parts that bind none.
* `Dialect.text_columnFragments`, `Dialect.text_valueFragments`, `Dialect.text_equations`: the lists
  of a statement.
* `Dialect.statement_insert`, `Dialect.statement_update`, `Dialect.statement_where`: the statements
  that write a row or find one, with their texts and their values.
-/

namespace TableMapping

namespace Dialect

variable (d : Dialect) (n : Nat)

/-- The text of fragments behind `n` values. -/
def text (fs : List Fragment) : String :=
  String.ofList (d.written n fs)

theorem sql_statement (fs : List Fragment) : (d.statement fs).sql = d.text 0 fs := by
  rw [← String.toList_inj, toList_sql_statement, text, String.toList_ofList]

theorem statement_eq (fs : List Fragment) : d.statement fs = ⟨d.text 0 fs, Fragment.bound fs⟩ := by
  rw [← sql_statement, ← params_statement]

@[simp] theorem text_nil : d.text n [] = "" := rfl

theorem text_append (fs gs : List Fragment) :
    d.text n (fs ++ gs) = d.text n fs ++ d.text (n + (Fragment.bound fs).length) gs := by
  rw [text, written_append, String.ofList_append]
  rfl

@[simp] theorem text_cons_text (s : String) (fs : List Fragment) :
    d.text n (.text s :: fs) = s ++ d.text n fs := by
  rw [text, written, String.ofList_append, Fragment.written, String.ofList_toList]
  rfl

@[simp] theorem text_cons_column (name : String) (fs : List Fragment) :
    d.text n (.column name :: fs) = d.identifier name ++ d.text n fs := by
  rw [text, written, String.ofList_append, Fragment.written, String.ofList_toList]
  rfl

@[simp] theorem text_cons_table (schema : Option String) (name : String) (fs : List Fragment) :
    d.text n (.table schema name :: fs) = d.qualified schema name ++ d.text n fs := by
  rw [text, written, String.ofList_append, Fragment.written, String.ofList_toList]
  rfl

@[simp] theorem text_cons_param (v : Value) (fs : List Fragment) :
    d.text n (.param v :: fs) = d.placeholder (n + 1) ++ d.text (n + 1) fs := by
  rw [text, written, String.ofList_append, Fragment.written, String.ofList_toList]
  rfl

/-! ## Lists -/

/-- Parts that bind `k` values each count on from one another. -/
theorem text_separated {α : Type} (separator : String) {k : Nat} (xs : List α)
    {part : α → List Fragment} (hbound : ∀ x, (Fragment.bound (part x)).length = k) :
    d.text n (separated separator (xs.map part)) =
      separator.intercalate (xs.mapIdx fun i x => d.text (n + i * k) (part x)) := by
  induction xs generalizing n with
  | nil => rfl
  | cons x xs ih =>
    cases xs with
    | nil => simp [separated]
    | cons y xs =>
      have hrest : ∀ i, n + k + i * k = n + (i + 1) * k := by
        intro i
        rw [Nat.add_mul, Nat.one_mul, Nat.add_assoc, Nat.add_comm k]
      rw [List.map_cons, List.map_cons, separated_cons_cons, text_append, hbound, text_cons_text,
        ← List.map_cons, ih]
      simp only [List.mapIdx_cons, String.intercalate_cons_cons, hrest, Nat.zero_mul, Nat.add_zero,
        String.append_assoc]

/-- Parts that bind nothing are written each like the first. -/
theorem text_separated_of_bound {α : Type} (separator : String) (xs : List α)
    {part : α → List Fragment} (hbound : ∀ x, Fragment.bound (part x) = []) :
    d.text n (separated separator (xs.map part)) =
      separator.intercalate (xs.map fun x => d.text n (part x)) := by
  have hnone : ∀ x, (Fragment.bound (part x)).length = 0 := fun x => by rw [hbound, List.length_nil]
  rw [text_separated d n separator xs hnone]
  simp only [Nat.mul_zero, Nat.add_zero]
  congr 1
  refine List.ext_getElem ?_ fun i _ _ => ?_
  · rw [List.length_mapIdx, List.length_map]
  · rw [List.getElem_mapIdx, List.getElem_map]

theorem text_columnFragments (columns : List String) :
    d.text n (columnFragments columns) = d.columnList columns := by
  have hname : (fun c => d.text n [.column c]) = d.identifier := by
    funext c
    rw [text_cons_column, text_nil, String.append_empty]
  rw [columnFragments, text_separated_of_bound d n ", " columns fun _ => rfl, hname, columnList]

/-- `k` placeholders behind `n` values. -/
def valueList (k : Nat) : String :=
  ", ".intercalate ((List.range' (n + 1) k).map d.placeholder)

theorem text_valueFragments (values : List Value) :
    d.text n (valueFragments values) = d.valueList n values.length := by
  have hplace : ∀ i v, d.text (n + i * 1) [.param v] = d.placeholder (n + i + 1) := by
    intro i v
    rw [text_cons_param, text_nil, String.append_empty, Nat.mul_one]
  have hbound : ∀ v, (Fragment.bound [.param v]).length = 1 := fun _ => rfl
  rw [valueFragments, text_separated d n ", " values hbound, valueList]
  simp only [hplace]
  congr 1
  refine List.ext_getElem ?_ fun i _ _ => ?_
  · rw [List.length_mapIdx, List.length_map, List.length_range']
  · rw [List.getElem_mapIdx, List.getElem_map, List.getElem_range', Nat.one_mul, Nat.add_right_comm]

/-- One equation for each column, the placeholders counted on behind `n` values. -/
def equations (columns : List String) : List String :=
  columns.mapIdx fun i c => d.identifier c ++ " = " ++ d.placeholder (n + i + 1)

/-- Columns are set and compared alike, whatever fragments an equation is made of. -/
theorem text_equations (separator : String) (cells : Assignments)
    (part : String × Value → List Fragment)
    (hpart : ∀ cell n, d.text n (part cell) = d.identifier cell.1 ++ " = " ++ d.placeholder (n + 1))
    (hbound : ∀ cell, Fragment.bound (part cell) = [cell.2]) :
    d.text n (separated separator (cells.map part)) =
      separator.intercalate (d.equations n cells.columns) := by
  have hone : ∀ cell, (Fragment.bound (part cell)).length = 1 := by
    intro cell
    rw [hbound, List.length_singleton]
  rw [text_separated d n separator cells hone, equations, Assignments.columns]
  simp only [hpart, Nat.mul_one]
  congr 1
  refine List.ext_getElem ?_ fun i _ _ => ?_
  · rw [List.length_mapIdx, List.length_mapIdx, List.length_map]
  · rw [List.getElem_mapIdx, List.getElem_mapIdx, List.getElem_map]

end Dialect

/-- Equalities with values are one list that is joined by AND. -/
theorem whereClause_equalities {cells : Assignments} (h : cells ≠ []) :
    whereClause (equalities cells) = .text " WHERE " :: separated " AND "
      (cells.map fun cell => [.column cell.1, .text " ", .text "=", .text " ", .param cell.2]) := by
  obtain ⟨⟨c, v⟩, cells, rfl⟩ := List.exists_cons_of_ne_nil h
  rw [List.map_cons, separated_cons, equalities, whereClause, Condition.tailFragments,
    List.flatMap_map, List.flatMap_map]
  rfl

theorem Dialect.text_whereClause (d : Dialect) (n : Nat) {cells : Assignments} (h : cells ≠ []) :
    d.text n (whereClause (equalities cells)) =
      " WHERE " ++ " AND ".intercalate (d.equations n cells.columns) := by
  rw [whereClause_equalities h, text_cons_text]
  congr 1
  refine d.text_equations n " AND " cells _ (fun cell n => ?_) fun _ => rfl
  have hwords : " = " = " " ++ ("=" ++ " ") := rfl
  simp only [text_cons_column, text_cons_text, text_cons_param, text_nil, String.append_empty, hwords,
    String.append_assoc]

namespace Fragment

@[simp] theorem bound_columnFragments (columns : List String) :
    bound (columnFragments columns) = [] := by
  rw [columnFragments, bound_separated, List.flatMap_map]
  exact List.flatMap_eq_nil_iff.mpr fun _ _ => rfl

@[simp] theorem bound_valueFragments (values : List Value) :
    bound (valueFragments values) = values := by
  rw [valueFragments, bound_separated, List.flatMap_map]
  exact List.flatMap_singleton' values

/-- Equations bind the values of their cells. -/
theorem bound_equations (separator : String) (cells : Assignments)
    (part : String × Value → List Fragment) (hbound : ∀ cell, bound (part cell) = [cell.2]) :
    bound (separated separator (cells.map part)) = cells.map (·.2) := by
  rw [bound_separated, List.flatMap_map]
  simp only [hbound]
  exact List.flatMap_pure_eq_map _ _

theorem bound_whereClause {cells : Assignments} (h : cells ≠ []) :
    bound (whereClause (equalities cells)) = cells.map (·.2) := by
  rw [whereClause_equalities h]
  exact bound_equations " AND " cells _ fun _ => rfl

end Fragment

/-! ## Statements -/

namespace Dialect

variable (d : Dialect) (schema : Option String) (table : String)

/-- `INSERT INTO t (c, …) VALUES(p, …)`. -/
theorem statement_insert (cells : Assignments) :
    d.statement (Command.fragments schema table (.insert cells)) =
      ⟨"INSERT INTO " ++ d.qualified schema table ++ " (" ++ d.columnList cells.columns ++
        ") VALUES(" ++ d.valueList 0 cells.length ++ ")", cells.map (·.2)⟩ := by
  have hhead : ∀ s, "INSERT INTO" ++ (" " ++ s) = "INSERT INTO " ++ s :=
    fun _ => String.append_assoc.symm
  have hvalues : ∀ s, ")" ++ (" VALUES(" ++ s) = ") VALUES(" ++ s :=
    fun _ => String.append_assoc.symm
  rw [statement_eq, Command.fragments, Command.rowFragments, TableDefinition.valuesClause]
  simp [text_append, text_columnFragments, text_valueFragments, String.append_assoc, hhead, hvalues]

/-- `UPDATE t SET c = p, … WHERE c = p AND …`. -/
theorem statement_update {cells conditions : Assignments} (h : conditions ≠ []) :
    d.statement (Command.fragments schema table (.update cells conditions)) =
      ⟨"UPDATE " ++ d.qualified schema table ++ " SET " ++
        ", ".intercalate (d.equations 0 cells.columns) ++ " WHERE " ++
        " AND ".intercalate (d.equations cells.length conditions.columns),
        cells.map (·.2) ++ conditions.map (·.2)⟩ := by
  have hset := d.text_equations 0 ", " cells
    (fun cell => [.column cell.1, .text " = ", .param cell.2])
    (fun cell n => by simp [String.append_assoc]) fun _ => rfl
  have hbound := Fragment.bound_equations ", " cells
    (fun cell => [.column cell.1, .text " = ", .param cell.2]) fun _ => rfl
  rw [statement_eq, Command.fragments]
  simp [text_append, hset, hbound, text_whereClause _ _ h, Fragment.bound_whereClause h,
    String.append_assoc]

/-- A statement that consists of words, a table and conditions: `DELETE FROM t WHERE c = p AND …`,
and the same with the words of a count. -/
theorem statement_where (words : String) {conditions : Assignments} (h : conditions ≠ []) :
    d.statement ([.text words, .table schema table] ++ whereClause (equalities conditions)) =
      ⟨words ++ d.qualified schema table ++ " WHERE " ++
        " AND ".intercalate (d.equations 0 conditions.columns), conditions.map (·.2)⟩ := by
  rw [statement_eq]
  simp [text_whereClause _ _ h, Fragment.bound_whereClause h, String.append_assoc]

end Dialect
end TableMapping
