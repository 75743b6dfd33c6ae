import TableMapping.Proofs.Sql.Table
import TableMapping.Sql.Write

/-!
# What the statements of a merge mean

The engines document each statement by what it does to the rows of a table.  Here the only
constraint of a table is its primary key, and `Command.Takes` is what the documents say: which
table a statement leads to.  It is silent about statements that an engine refuses, and about rows
that leave something to the engine.

* `Command.Takes.unique`: a statement leads to one table at most.
* `TableShape.takes_merge`, `TableShape.takes_insertOrReplace`, `TableShape.takes_insertOrUpdate`,
  `TableShape.takes_insertOnConflict`, `TableShape.takes_update`, `TableShape.takes_insert`: the
  statements that write a whole row lead to the same table.
-/

namespace TableMapping

/-! ## Statements -/

/-- A statement that writes rows. -/
inductive Command where
  /-- `INSERT INTO t (…) VALUES(…)`. -/
  | insert (cells : Assignments)
  /-- `MERGE INTO t (…) KEY(…) VALUES(…)`. -/
  | merge (cells : Assignments) (key : List String)
  /-- `INSERT OR REPLACE INTO t (…) VALUES(…)`. -/
  | insertOrReplace (cells : Assignments)
  /-- `INSERT … ON DUPLICATE KEY UPDATE c = VALUES(c)`. -/
  | insertOrUpdate (cells : Assignments) (updated : List String)
  /-- `INSERT … ON CONFLICT(…) DO UPDATE SET c = EXCLUDED.c`, or `DO NOTHING` when no column is to
  be updated. -/
  | insertOnConflict (cells : Assignments) (target updated : List String)
  /-- `UPDATE t SET c = v WHERE c = v AND …`. -/
  | update (cells conditions : Assignments)

namespace Command

/-- The fragments of a row that is given to a table. -/
def rowFragments (words : String) (schema : Option String) (table : String) (cells : Assignments) :
    List Fragment :=
  [.text words, .text " ", .table schema table, .text " ("] ++ columnFragments cells.columns ++
    [.text ")"] ++ TableDefinition.valuesClause (cells.map (·.2))

/-- The fragments of a statement. -/
def fragments (schema : Option String) (table : String) : Command → List Fragment
  | insert cells => rowFragments "INSERT INTO" schema table cells
  | merge cells key =>
    [.text "MERGE INTO", .text " ", .table schema table, .text " ("] ++
      columnFragments cells.columns ++ [.text ")"] ++ .text " KEY(" :: columnFragments key ++
      .text ")" :: TableDefinition.valuesClause (cells.map (·.2))
  | insertOrReplace cells => rowFragments "INSERT OR REPLACE INTO" schema table cells
  | insertOrUpdate cells updated =>
    rowFragments "INSERT INTO" schema table cells ++ .text " ON DUPLICATE KEY UPDATE " ::
      separated ", " (updated.map fun c => [.column c, .text " = VALUES(", .column c, .text ")"])
  | insertOnConflict cells target updated =>
    rowFragments "INSERT INTO" schema table cells ++ .text " ON CONFLICT(" ::
      columnFragments target ++ .text ")" ::
      (if updated.isEmpty then [.text " DO NOTHING"]
        else
          .text " DO UPDATE SET " ::
            separated ", " (updated.map fun c => [.column c, .text " = EXCLUDED.", .column c]))
  | update cells conditions =>
    [.text "UPDATE ", .table schema table, .text " SET "] ++
      separated ", " (cells.map fun cell => [.column cell.1, .text " = ", .param cell.2]) ++
      whereClause (equalities conditions)

/-- The fragments of the question how many rows meet conditions. -/
def countFragments (schema : Option String) (table : String) (conditions : Assignments) :
    List Fragment :=
  [.text "SELECT COUNT(*) FROM ", .table schema table] ++ whereClause (equalities conditions)

end Command

/-- The columns of a table, those of its primary key, and those that the engine generates values
for. -/
structure TableShape where
  columns : List String
  key : List String
  generated : List String

namespace TableShape

/-- A table that a statement may find: it has no columns but its own, and its keys are unique. -/
structure Holds (shape : TableShape) (t : Multiset TableRow) : Prop where
  columns : ∀ r ∈ t, ∀ c, c ∉ shape.columns → r c = none
  unique : Table.UniqueKeys shape.key t

/-- A row that goes into a table as it is given: each column is listed once, no column of the key
is NULL, and nothing is left to be generated. -/
structure Stands (shape : TableShape) (cells : Assignments) : Prop where
  columns : ∀ c, c ∈ cells.columns ↔ c ∈ shape.columns
  nodup : cells.columns.Nodup
  key : ∀ c ∈ shape.key, ∃ x, (c, .of x) ∈ cells
  generated : ∀ c ∈ shape.generated, ∃ x, (c, .of x) ∈ cells ∧ x.integer? ≠ some 0

end TableShape

open TableRow Table in
/-- The table that a statement leads to. -/
inductive Command.Takes (shape : TableShape) (t : Multiset TableRow) :
    Command → Multiset TableRow → Prop
  /-- A row is inserted unless its key is taken. -/
  | insert {cells : Assignments} (hcells : shape.Stands cells)
      (hnew : matching shape.key (ofAssignments cells) t = 0) :
      Takes shape t (.insert cells) (ofAssignments cells ::ₘ t)
  /-- No row has the values in the columns of the list: a row is inserted. -/
  | mergeNew {cells : Assignments} {key : List String} (hcells : shape.Stands cells)
      (hnew : matching key (ofAssignments cells) t = 0)
      (hunique : UniqueKeys shape.key (ofAssignments cells ::ₘ t)) :
      Takes shape t (.merge cells key) (ofAssignments cells ::ₘ t)
  /-- One row has the values in the columns of the list: it is updated. -/
  | mergeOld {cells : Assignments} {key : List String} {r : TableRow} (hcells : shape.Stands cells)
      (hold : matching key (ofAssignments cells) t = {r})
      (hunique : UniqueKeys shape.key (r.assign cells ::ₘ others key (ofAssignments cells) t)) :
      Takes shape t (.merge cells key) (r.assign cells ::ₘ others key (ofAssignments cells) t)
  /-- The rows whose key the new row has are deleted first. -/
  | insertOrReplace {cells : Assignments} (hcells : shape.Stands cells) :
      Takes shape t (.insertOrReplace cells)
        (ofAssignments cells ::ₘ others shape.key (ofAssignments cells) t)
  /-- The key is not taken: the row is inserted. -/
  | insertOrUpdateNew {cells : Assignments} {updated : List String} (hcells : shape.Stands cells)
      (hnew : matching shape.key (ofAssignments cells) t = 0) :
      Takes shape t (.insertOrUpdate cells updated) (ofAssignments cells ::ₘ t)
  /-- The key is taken: the row that has it gets the new values of some columns. -/
  | insertOrUpdateOld {cells : Assignments} {updated : List String} {r : TableRow}
      (hcells : shape.Stands cells) (hold : matching shape.key (ofAssignments cells) t = {r})
      (hunique : UniqueKeys shape.key
        (r.assign (cells.picked updated) ::ₘ others shape.key (ofAssignments cells) t)) :
      Takes shape t (.insertOrUpdate cells updated)
        (r.assign (cells.picked updated) ::ₘ others shape.key (ofAssignments cells) t)
  /-- There is no conflict: the row is inserted. -/
  | insertOnConflictNew {cells : Assignments} {target updated : List String}
      (hcells : shape.Stands cells) (htarget : ∀ c, c ∈ target ↔ c ∈ shape.key)
      (hnew : matching shape.key (ofAssignments cells) t = 0) :
      Takes shape t (.insertOnConflict cells target updated) (ofAssignments cells ::ₘ t)
  /-- There is a conflict, and nothing is to be done. -/
  | insertOnConflictNothing {cells : Assignments} {target : List String} {r : TableRow}
      (hcells : shape.Stands cells) (htarget : ∀ c, c ∈ target ↔ c ∈ shape.key)
      (hold : matching shape.key (ofAssignments cells) t = {r}) :
      Takes shape t (.insertOnConflict cells target []) t
  /-- There is a conflict: the row in the table gets the new values of some columns. -/
  | insertOnConflictOld {cells : Assignments} {target updated : List String} {r : TableRow}
      (hcells : shape.Stands cells) (htarget : ∀ c, c ∈ target ↔ c ∈ shape.key)
      (hold : matching shape.key (ofAssignments cells) t = {r}) (hupdated : updated ≠ [])
      (hunique : UniqueKeys shape.key
        (r.assign (cells.picked updated) ::ₘ others shape.key (ofAssignments cells) t)) :
      Takes shape t (.insertOnConflict cells target updated)
        (r.assign (cells.picked updated) ::ₘ others shape.key (ofAssignments cells) t)
  /-- Every row that meets the conditions gets the values. -/
  | update {cells conditions : Assignments} {t' : Multiset TableRow}
      (hkey : ∀ cell ∈ cells, cell.1 ∈ shape.key → ∃ x, cell.2 = .of x)
      (ht' : t' = (meeting conditions t).map (·.assign cells) + missing conditions t)
      (hunique : UniqueKeys shape.key t') :
      Takes shape t (.update cells conditions) t'

namespace Command

open TableRow Table

variable {shape : TableShape} {t t' t'' : Multiset TableRow} {c : Command}

/-- A statement leads to one table at most. -/
theorem Takes.unique (h : Takes shape t c t') (h' : Takes shape t c t'') : t' = t'' := by
  have hclash : ∀ {key row} {r : TableRow}, matching key row t = 0 → matching key row t = {r} →
      False := by
    intro key row r hnew hold
    exact Multiset.singleton_ne_zero r (hold.symm.trans hnew)
  have hsame : ∀ {key row} {r r' : TableRow}, matching key row t = {r} →
      matching key row t = {r'} → r = r' := by
    intro key row r r' hr hr'
    exact Multiset.singleton_inj.mp (hr.symm.trans hr')
  cases h with
  | insert => cases h' with | insert => rfl
  | mergeNew _ hnew => cases h' with
    | mergeNew => rfl
    | mergeOld _ hold => exact (hclash hnew hold).elim
  | mergeOld _ hold => cases h' with
    | mergeNew _ hnew => exact (hclash hnew hold).elim
    | mergeOld _ hold' => rw [hsame hold hold']
  | insertOrReplace => cases h' with | insertOrReplace => rfl
  | insertOrUpdateNew _ hnew => cases h' with
    | insertOrUpdateNew => rfl
    | insertOrUpdateOld _ hold => exact (hclash hnew hold).elim
  | insertOrUpdateOld _ hold => cases h' with
    | insertOrUpdateNew _ hnew => exact (hclash hnew hold).elim
    | insertOrUpdateOld _ hold' => rw [hsame hold hold']
  | insertOnConflictNew _ _ hnew => cases h' with
    | insertOnConflictNew => rfl
    | insertOnConflictNothing _ _ hold => exact (hclash hnew hold).elim
    | insertOnConflictOld _ _ hold => exact (hclash hnew hold).elim
  | insertOnConflictNothing _ _ hold => cases h' with
    | insertOnConflictNew _ _ hnew => exact (hclash hnew hold).elim
    | insertOnConflictNothing => rfl
    | insertOnConflictOld _ _ _ hupdated => exact absurd rfl hupdated
  | insertOnConflictOld _ _ hold hupdated => cases h' with
    | insertOnConflictNew _ _ hnew => exact (hclash hnew hold).elim
    | insertOnConflictNothing => exact absurd rfl hupdated
    | insertOnConflictOld _ _ hold' => rw [hsame hold hold']
  | update _ ht' => cases h' with
    | update _ ht'' => rw [ht', ht'']

end Command

/-! ## Statements that write a whole row -/

namespace TableShape

open TableRow Table

variable {shape : TableShape} {cells : Assignments} {updated : List String} {r : TableRow}
  {t : Multiset TableRow}

theorem Stands.of_mem (h : shape.Stands cells) {cell : String × Value} (hcell : cell ∈ cells)
    (hkey : cell.1 ∈ shape.key) : ∃ x, cell.2 = .of x := by
  obtain ⟨x, hx⟩ := h.key cell.1 hkey
  have hlookup := Assignments.lookup_of_mem h.nodup hx
  rw [Assignments.lookup_of_mem h.nodup hcell] at hlookup
  exact ⟨x, Option.some.inj hlookup⟩

theorem Stands.sameKey_self (h : shape.Stands cells) :
    SameKey shape.key (ofAssignments cells) (ofAssignments cells) := by
  intro c hc
  obtain ⟨x, hx⟩ := h.key c hc
  have hlookup := Assignments.lookup_of_mem h.nodup hx
  exact ⟨x, hlookup, hlookup⟩

theorem Stands.ofAssignments_eq_none (h : shape.Stands cells) {c : String}
    (hc : c ∉ shape.columns) : ofAssignments cells c = none := by
  cases hlookup : ofAssignments cells c with
  | none => rfl
  | some v => exact absurd ((h.columns c).mp (Assignments.mem_columns_of_lookup hlookup)) hc

/-- A row with the key of another becomes the other when it gets all other values of it. -/
theorem Stands.assign_picked (h : shape.Stands cells)
    (hupdated : ∀ c ∈ shape.columns, c ∉ shape.key → c ∈ updated)
    (hkey : SameKey shape.key (ofAssignments cells) r)
    (hr : ∀ c, c ∉ shape.columns → r c = none) :
    r.assign (cells.picked updated) = ofAssignments cells := by
  funext c
  rw [assign, Assignments.lookup_picked]
  by_cases hc : c ∈ shape.columns
  · split
    · obtain ⟨cell, hcell, rfl⟩ := List.mem_map.mp ((h.columns c).mpr hc)
      rw [ofAssignments, Assignments.lookup_of_mem h.nodup hcell, Option.some_or]
    · rename_i hkept
      have hmem : c ∈ shape.key := by_contra fun hother => hkept (hupdated c hc hother)
      obtain ⟨x, hx, hx'⟩ := hkey c hmem
      rw [hx, hx', Option.none_or]
  · have hnone := h.ofAssignments_eq_none hc
    rw [hr c hc, hnone]
    rw [ofAssignments] at hnone
    rw [hnone, ite_self, Option.none_or]

theorem Stands.assign (h : shape.Stands cells)
    (hkey : SameKey shape.key (ofAssignments cells) r)
    (hr : ∀ c, c ∉ shape.columns → r c = none) : r.assign cells = ofAssignments cells := by
  have hpicked : cells.picked cells.columns = cells := by
    refine List.filter_eq_self.mpr fun cell hcell => ?_
    exact decide_eq_true (List.mem_map_of_mem hcell)
  have hassign := h.assign_picked (fun c hc _ => (h.columns c).mpr hc) hkey hr
  rwa [hpicked] at hassign

/-- The conditions on the key find the rows with that key. -/
theorem Stands.meets_iff (h : shape.Stands cells) :
    Meets (cells.picked shape.key) r ↔ SameKey shape.key (ofAssignments cells) r := by
  constructor
  · intro hmeets c hc
    obtain ⟨x, hx⟩ := h.key c hc
    have hmem : (c, .of x) ∈ cells.picked shape.key :=
      List.mem_filter.mpr ⟨hx, decide_eq_true hc⟩
    obtain ⟨y, hy, hr⟩ := hmeets _ hmem
    cases hy
    exact ⟨x, Assignments.lookup_of_mem h.nodup hx, hr⟩
  · intro hsame cell hcell
    obtain ⟨hcell, hc⟩ := List.mem_filter.mp hcell
    obtain ⟨x, hx, hr⟩ := hsame cell.1 (of_decide_eq_true hc)
    have hlookup := Assignments.lookup_of_mem h.nodup hcell
    rw [ofAssignments, hlookup] at hx
    exact ⟨x, Option.some.inj hx, hr⟩

theorem Holds.upsert (ht : shape.Holds t) (hcells : shape.Stands cells) :
    shape.Holds (upsert shape.key (ofAssignments cells) t) where
  columns r hr c hc := by
    rcases Multiset.mem_cons.mp hr with rfl | hr
    · exact hcells.ofAssignments_eq_none hc
    · exact ht.columns r (mem_of_mem_others hr) c hc
  unique := ht.unique.upsert _

theorem takes_insert (hcells : shape.Stands cells)
    (hnew : matching shape.key (ofAssignments cells) t = 0) :
    Command.Takes shape t (.insert cells) (upsert shape.key (ofAssignments cells) t) := by
  rw [upsert_of_matching_eq_zero hnew]
  exact .insert hcells hnew

theorem takes_insertOrReplace (hcells : shape.Stands cells) :
    Command.Takes shape t (.insertOrReplace cells) (upsert shape.key (ofAssignments cells) t) :=
  .insertOrReplace hcells

theorem takes_merge (ht : shape.Holds t) (hcells : shape.Stands cells) :
    Command.Takes shape t (.merge cells shape.key)
      (upsert shape.key (ofAssignments cells) t) := by
  have hunique := ht.unique.upsert (ofAssignments cells)
  rcases ht.unique.matching_eq (ofAssignments cells) with hnew | ⟨r, hold⟩
  · rw [upsert_of_matching_eq_zero hnew] at hunique ⊢
    exact .mergeNew hcells hnew hunique
  · obtain ⟨hr, hkey⟩ := sameKey_of_matching hold
    have hassign := hcells.assign hkey (ht.columns r hr)
    have htakes := Command.Takes.mergeOld hcells hold (by rwa [hassign])
    rwa [hassign] at htakes

section Updated

variable (hupdated : ∀ c ∈ shape.columns, c ∉ shape.key → c ∈ updated)

include hupdated

theorem takes_insertOrUpdate (ht : shape.Holds t) (hcells : shape.Stands cells) :
    Command.Takes shape t (.insertOrUpdate cells updated)
      (upsert shape.key (ofAssignments cells) t) := by
  have hunique := ht.unique.upsert (ofAssignments cells)
  rcases ht.unique.matching_eq (ofAssignments cells) with hnew | ⟨r, hold⟩
  · rw [upsert_of_matching_eq_zero hnew]
    exact .insertOrUpdateNew hcells hnew
  · obtain ⟨hr, hkey⟩ := sameKey_of_matching hold
    have hassign := hcells.assign_picked hupdated hkey (ht.columns r hr)
    have htakes := Command.Takes.insertOrUpdateOld hcells hold (by rwa [hassign])
    rwa [hassign] at htakes

/-- Where nothing is to be updated, the row with the key is the row already. -/
theorem takes_insertOnConflict (ht : shape.Holds t) (hcells : shape.Stands cells) :
    Command.Takes shape t (.insertOnConflict cells shape.key updated)
      (upsert shape.key (ofAssignments cells) t) := by
  have hunique := ht.unique.upsert (ofAssignments cells)
  rcases ht.unique.matching_eq (ofAssignments cells) with hnew | ⟨r, hold⟩
  · rw [upsert_of_matching_eq_zero hnew]
    exact .insertOnConflictNew hcells (fun _ => Iff.rfl) hnew
  · obtain ⟨hr, hkey⟩ := sameKey_of_matching hold
    have hassign := hcells.assign_picked hupdated hkey (ht.columns r hr)
    by_cases hnothing : updated = []
    · subst hnothing
      -- All columns are in the key, so the row of the table and the new one agree everywhere.
      have hpicked : cells.picked [] = [] :=
        List.filter_eq_nil_iff.mpr fun cell _ hcell => nomatch of_decide_eq_true hcell
      have hrow : r = ofAssignments cells := by
        rw [← hassign, hpicked]
        rfl
      have hsame : upsert shape.key (ofAssignments cells) t = t := by
        rw [Table.upsert, ← Multiset.singleton_add, ← hrow, ← hold, hrow, matching_add_others]
      rw [hsame]
      exact .insertOnConflictNothing hcells (fun _ => Iff.rfl) hold
    · have htakes := Command.Takes.insertOnConflictOld hcells (fun _ => Iff.rfl) hold hnothing
        (by rwa [hassign])
      rwa [hassign] at htakes

theorem takes_update (ht : shape.Holds t) (hcells : shape.Stands cells)
    (hold : matching shape.key (ofAssignments cells) t ≠ 0) :
    Command.Takes shape t (.update (cells.picked updated) (cells.picked shape.key))
      (upsert shape.key (ofAssignments cells) t) := by
  obtain ⟨r, hold⟩ := (ht.unique.matching_eq (ofAssignments cells)).resolve_left hold
  obtain ⟨hr, hkey⟩ := sameKey_of_matching hold
  have hassign := hcells.assign_picked hupdated hkey (ht.columns r hr)
  have hmeets := fun r => hcells.meets_iff (r := r)
  refine .update ?_ ?_ (ht.unique.upsert _)
  · intro cell hcell hc
    exact hcells.of_mem (List.mem_filter.mp hcell).1 hc
  · rw [meeting_eq_matching hmeets, missing_eq_others hmeets, hold, Multiset.map_singleton, hassign,
      Multiset.singleton_add]
    rfl

end Updated

end TableShape
end TableMapping
