import TableMapping.Proofs.Query.Stepping
import TableMapping.Proofs.Sql.Spelling

/-!
# What a query selects

A query starts from a view of all columns of its alias, and no step takes one away: comparisons,
orders and limits are put beside the view.

* `Query.view_steps`: steps keep the view.
* `Query.columnNames_eq`: the view of an alias has the columns of the definition, in their order.
* `Query.exists_sql_toSelect`: these are what the statement of a query selects.
-/

namespace TableMapping

open Runs

namespace Query

variable {M : Type} {q : Query M} {a : Alias M}

theorem Takes.view_eq {s : QueryStep} {q' : Query M} (h : q.Takes s q') : q'.view = q.view := by
  cases h <;> rfl

/-- Whatever steps a query takes, it keeps its view. -/
theorem view_steps (q : Query M) (ss : List QueryStep) :
    Ensures (fun q' => q'.view = q.view) (q.steps ss) :=
  ensures_steps (P := fun _ q' => q'.view = q.view) [] rfl
    (fun _ _ _ _ h htakes => htakes.view_eq.trans h) ss

/-- A query with the view of an alias selects all columns. -/
theorem columnNames_eq (h : q.view = a.view) :
    q.columnNames = a.definition.fields.map fun f => f.columnName := by
  have hname : (List.range a.definition.fields.length).map (fun i =>
      (a.definition.fields[i]?).map fun f => f.columnName) =
        (a.definition.fields.map fun f => f.columnName).map some := by
    refine List.ext_getElem ?_ fun i hi _ => ?_
    · rw [List.length_map, List.length_range, List.length_map, List.length_map]
    · rw [List.length_map, List.length_range] at hi
      rw [List.getElem_map, List.getElem_range, List.getElem_map, List.getElem_map,
        List.getElem?_eq_getElem hi, Option.map_some]
  have hnames : q.columnNames = ((List.range a.definition.fields.length).map fun i =>
      (a.definition.fields[i]?).map fun f => f.columnName).filterMap id := by
    rw [columnNames, definition, h, Alias.view, List.filterMap_map, List.filterMap_map]
    rfl
  rw [hnames, hname, List.filterMap_map]
  exact List.filterMap_some

/-- Behind its first words, the statement of a query lists the columns of the query. -/
theorem exists_sql_toSelect (q : Query M) (dialect : Dialect) :
    ∃ rest, (q.toSelect dialect).sql = (if q.distinct then "SELECT DISTINCT " else "SELECT ") ++
      dialect.columnList q.columnNames ++ " FROM " ++ rest := by
  rw [toSelect, Dialect.sql_statement, selectFragments, fromFragments]
  simp only [List.cons_append, List.append_assoc, Dialect.text_cons_text, Dialect.text_append,
    Dialect.text_columnFragments, Fragment.bound_columnFragments, String.append_assoc]
  exact ⟨_, rfl⟩

end Query
end TableMapping
