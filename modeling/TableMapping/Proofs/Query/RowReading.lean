import Mathlib.Data.List.Induction
import TableMapping.Proofs.Model.RoundTrip
import TableMapping.Proofs.Query.Resolution

/-!
# Rows read through a view

A view takes a row whole or not at all: a row of any other length than the view has columns is
refused before one of its values is kept.  What a view holds after any rows is therefore the last row
that was accepted, and nothing of an earlier one.  The columns of a view stand in the order of the
fields, so the object that it makes of this row is the one that the definition reads from the row by
itself.

* `Alias.viewOf`: the view of an alias that holds one row, or none.
* `Alias.Binds.readRow_eq`: what one row makes of any view of the alias.
* `Alias.afterRows_view`: what any rows make of a new view.
* `Alias.object_viewOf`: the object of a row, by the two ways to read it.
-/

namespace TableMapping

open Runs

variable {M : Type}

/-! ## Adapters that answer to the value alone -/

/-- An adapter reads a value in one way, whatever it has served before. -/
def Adapter.ReadsSteadily (a : Adapter) : Prop :=
  ∀ h h' v, a.deserialize h v = a.deserialize h' v

theorem Adapter.readsSteadily_stateless (dataType : String)
    (serialize deserialize : Value → Except MappingError Value) :
    (Adapter.stateless dataType serialize deserialize).ReadsSteadily :=
  fun _ _ _ => rfl

theorem Column.steady_fromStorage {c : Column} (h : ∀ a, c.adapter = some a → a.ReadsSteadily)
    (raw : Value) : Steady (c.fromStorage raw) := by
  rw [Column.fromStorage]
  split
  · rename_i a ha
    refine Steady.bind (fun l l' => ?_) fun v => Mapping.steady_ofExcept _
    rw [Mapping.run_deserialize, Mapping.run_deserialize]
    exact h a ha _ _ raw
  · exact Mapping.steady_ofExcept _

theorem TableDefinition.steady_readInto {fs : List (MappedField M)}
    (h : ∀ f ∈ fs, ∀ a, f.adapter = some a → a.ReadsSteadily) (m : M) (row : List Value) :
    Steady (TableDefinition.readInto m fs row) := by
  induction fs generalizing m row with
  | nil => exact steady_pure m
  | cons f fs ih =>
    cases row with
    | nil => exact steady_pure m
    | cons v row =>
      obtain ⟨hf, hfs⟩ := List.forall_mem_cons.mp h
      have hset : Steady (f.setValue m v) :=
        (Column.steady_fromStorage hf v).bind fun _ => Mapping.steady_ofExcept _
      exact hset.bind fun m' => ih hfs m' row

/-! ## One row after the other -/

namespace SelectView

/-- A view after a row was handed to it: one that refused the row stays as it was. -/
def afterRow (v : SelectView M) (row : List Value) : SelectView M :=
  match v.readRow row with
  | .ok v' => v'
  | .error _ => v

/-- A view after rows were handed to it. -/
def afterRows (v : SelectView M) (rows : List (List Value)) : SelectView M :=
  rows.foldl afterRow v

theorem afterRows_append (v : SelectView M) (rows : List (List Value)) (row : List Value) :
    v.afterRows (rows ++ [row]) = (v.afterRows rows).afterRow row :=
  List.foldl_concat ..

/-- Columns that hold the values of a row are copied as the row is read. -/
theorem copyInto_zipWith {d : TableDefinition M} {fs : List (MappedField M)} {k : Nat}
    (hfs : d.fields.drop k = fs) (m : M) (row : List Value) :
    copyInto d m ((List.range' k fs.length).zipWith (fun i v => ⟨i, some v⟩) row) =
      TableDefinition.readInto m fs row := by
  induction fs generalizing k m row with
  | nil => rfl
  | cons f fs ih =>
    cases row with
    | nil =>
      rw [List.zipWith_nil_right]
      rfl
    | cons v row =>
      have hfield : d.fieldAt k = .ok f := by
        rw [TableDefinition.fieldAt, ← Nat.add_zero k, ← List.getElem?_drop, hfs]
        rfl
      have hrest : d.fields.drop (k + 1) = fs := by
        rw [← List.tail_drop, hfs, List.tail_cons]
      rw [List.length_cons, List.range'_succ, List.zipWith_cons_cons, copyInto]
      dsimp only
      rw [hfield, Mapping.ofExcept_ok_bind, TableDefinition.readInto]
      congr 1
      funext m'
      exact ih hrest m' row

end SelectView

namespace Alias

variable {a : Alias M} {v : SelectView M}

/-- The view of an alias that holds a row, or none. -/
def viewOf (a : Alias M) : Option (List Value) → SelectView M
  | none => a.view
  | some row =>
    { a.view with
      columns := (List.range a.definition.fields.length).zipWith (fun i v => ⟨i, some v⟩) row }

/-- The last of some rows that has one value for each column. -/
def lastAccepted (a : Alias M) (rows : List (List Value)) : Option (List Value) :=
  (rows.filter fun row => row.length = a.definition.fields.length).getLast?

theorem lastAccepted_append (a : Alias M) (rows : List (List Value)) (row : List Value) :
    a.lastAccepted (rows ++ [row]) =
      if row.length = a.definition.fields.length then some row else a.lastAccepted rows := by
  rw [lastAccepted, List.filter_append, List.filter_singleton]
  by_cases hrow : row.length = a.definition.fields.length
  · rw [if_pos hrow, decide_eq_true hrow, cond_true, List.getLast?_concat]
  · rw [if_neg hrow, decide_eq_false hrow, cond_false, List.append_nil, lastAccepted]

theorem length_of_lastAccepted {rows : List (List Value)} {row : List Value}
    (h : a.lastAccepted rows = some row) : row.length = a.definition.fields.length :=
  of_decide_eq_true (List.mem_filter.mp (List.mem_of_getLast? h)).2

theorem Binds.length_columns (hv : a.Binds v) :
    v.columns.length = a.definition.fields.length := by
  obtain ⟨-, -, hindexes⟩ := hv.eq
  rw [← List.length_map (fun c : SelectColumn => c.fieldIndex), hindexes, List.length_range]

/-- A row of the right length takes the place of all that a view held before; any other row is
refused. -/
theorem Binds.readRow_eq (hv : a.Binds v) (row : List Value) :
    v.readRow row =
      if row.length = a.definition.fields.length then .ok (a.viewOf (some row))
      else .error (.conversion a.definition.tableName
        (.rowLength row.length a.definition.fields.length)) := by
  obtain ⟨hnumber, hdefinition, hindexes⟩ := hv.eq
  have hcolumns : v.columns.zipWith (fun c x => { c with current := some x }) row =
      (List.range a.definition.fields.length).zipWith (fun i x => ⟨i, some x⟩) row := by
    rw [← hindexes, List.zipWith_map_left]
  rw [SelectView.readRow, hv.length_columns, hdefinition]
  split
  · rw [hcolumns, hnumber]
    rfl
  · rfl

theorem Binds.afterRow_eq (hv : a.Binds v) (row : List Value) :
    v.afterRow row =
      if row.length = a.definition.fields.length then a.viewOf (some row) else v := by
  rw [SelectView.afterRow, hv.readRow_eq]
  by_cases hrow : row.length = a.definition.fields.length
  · rw [if_pos hrow, if_pos hrow]
  · rw [if_neg hrow, if_neg hrow]

theorem Binds.afterRow (hv : a.Binds v) (row : List Value) : a.Binds (v.afterRow row) := by
  rw [SelectView.afterRow]
  split
  · rename_i v' hrow
    exact hv.readRow hrow
  · exact hv

theorem binds_afterRows (a : Alias M) (rows : List (List Value)) :
    a.Binds (a.view.afterRows rows) := by
  induction rows using List.reverseRecOn with
  | nil => exact .view
  | append_singleton rows row ih =>
    rw [SelectView.afterRows_append]
    exact ih.afterRow row

/-- A view holds the last row that was accepted. -/
theorem afterRows_view (a : Alias M) (rows : List (List Value)) :
    a.view.afterRows rows = a.viewOf (a.lastAccepted rows) := by
  induction rows using List.reverseRecOn with
  | nil => rfl
  | append_singleton rows row ih =>
    rw [SelectView.afterRows_append, (a.binds_afterRows rows).afterRow_eq, lastAccepted_append, ih]
    split <;> rfl

theorem current_view (a : Alias M) :
    a.view.columns.map (fun c => c.current) =
      List.replicate a.definition.fields.length none := by
  have hcurrent : a.view.columns.map (fun c => c.current) =
      (List.range a.definition.fields.length).map fun _ => none := List.map_map
  rw [hcurrent, List.map_const', List.length_range]

theorem current_viewOf {row : List Value} (h : row.length = a.definition.fields.length) :
    (a.viewOf (some row)).columns.map (fun c => c.current) = row.map some := by
  have hcurrent : (a.viewOf (some row)).columns.map (fun c => c.current) =
      (List.range a.definition.fields.length).zipWith (fun _ v => some v) row := List.map_zipWith
  rw [hcurrent]
  refine List.ext_getElem ?_ fun i hi hi' => ?_
  · rw [List.length_zipWith, List.length_range, List.length_map, h, Nat.min_self]
  · rw [List.getElem_zipWith, List.getElem_map]

/-- The object of a view that holds a row is the one that the definition reads from the row. -/
theorem object_viewOf (a : Alias M) (row : List Value) :
    (a.viewOf (some row)).object = a.definition.readRow row := by
  show SelectView.copyInto a.definition a.definition.blank
    ((List.range a.definition.fields.length).zipWith (fun i v => ⟨i, some v⟩) row) = _
  rw [List.range_eq_range', SelectView.copyInto_zipWith List.drop_zero]
  rfl

/-- Whatever rows were handed to a view before: a row is accepted exactly when it has one value for
each column, a refused row changes nothing, the view holds the last row that was accepted and nothing
else, and the object made of that row is the one that the definition reads from it by itself. -/
theorem afterRows_reads_apart (a : Alias M) (rows : List (List Value)) :
    (∀ row, (∃ v, (a.view.afterRows rows).readRow row = .ok v) ↔
        row.length = a.definition.fields.length) ∧
      (∀ row, row.length ≠ a.definition.fields.length →
        (a.view.afterRows rows).readRow row = .error (.conversion a.definition.tableName
            (.rowLength row.length a.definition.fields.length)) ∧
          a.view.afterRows (rows ++ [row]) = a.view.afterRows rows) ∧
      (a.view.afterRows rows).columns.map (fun c => c.current) =
        (a.lastAccepted rows).elim (List.replicate a.definition.fields.length none)
          (fun row => row.map some) ∧
      ∀ row, a.lastAccepted rows = some row →
        (a.view.afterRows rows).object = a.definition.readRow row ∧
          ((∀ f ∈ a.definition.fields, ∀ r, f.adapter = some r → r.ReadsSteadily) → ∀ l l',
            ((a.view.afterRows rows).object.run l).1 = ((a.definition.readRow row).run l').1) := by
  have hbinds := a.binds_afterRows rows
  refine ⟨fun row => ?_, fun row hrow => ⟨?_, ?_⟩, ?_, fun row hlast => ?_⟩
  · rw [hbinds.readRow_eq]
    split
    · rename_i hrow
      exact ⟨fun _ => hrow, fun _ => ⟨_, rfl⟩⟩
    · rename_i hrow
      exact ⟨nofun, fun h => absurd h hrow⟩
  · rw [hbinds.readRow_eq, if_neg hrow]
  · rw [SelectView.afterRows_append, hbinds.afterRow_eq, if_neg hrow]
  · rw [afterRows_view]
    cases hlast : a.lastAccepted rows with
    | none => exact a.current_view
    | some row => exact current_viewOf (length_of_lastAccepted hlast)
  · have hobject : (a.view.afterRows rows).object = a.definition.readRow row := by
      rw [afterRows_view, hlast, object_viewOf]
    refine ⟨hobject, fun hsteady l l' => ?_⟩
    rw [hobject]
    exact TableDefinition.steady_readInto hsteady _ _ l l'

/-! ### Two notes -/

/-- Of two notes and a row that is too short, the view holds the second note. -/
theorem afterRows_reads_apart_notes :
    ∃ d, ModelSchema.noteSchema.define 0 = .ok d ∧
      (∀ f ∈ d.fields, ∀ r, f.adapter = some r → r.ReadsSteadily) ∧
      ∀ l, (((⟨1, d⟩ : Alias ModelSchema.Note).view.afterRows
          [[.text "call home", .of (.bool false)], [.text "buy milk", .of (.bool true)],
            [.text "sleep"]]).object.run l).1 = .ok ⟨"buy milk", true, false⟩ := by
  obtain ⟨d, hd, hfields⟩ := ModelSchema.define_noteSchema
  have hspecs : ModelSchema.noteSchema.declaredFields =
      [ModelSchema.noteText, ModelSchema.noteDraft, ModelSchema.notePinned].map (·.spec) := rfl
  obtain ⟨-, hblank⟩ := ModelSchema.columns_define hspecs hd
  have hsteady : ∀ f ∈ d.fields, ∀ r, f.adapter = some r → r.ReadsSteadily := by
    rw [hfields]
    refine List.forall_mem_cons.mpr ⟨nofun, List.forall_mem_singleton.mpr fun r hr => ?_⟩
    cases hr
    exact Adapter.readsSteadily_stateless _ _ _
  have hlast : (⟨1, d⟩ : Alias ModelSchema.Note).lastAccepted
      [[.text "call home", .of (.bool false)], [.text "buy milk", .of (.bool true)],
        [.text "sleep"]] = some [.text "buy milk", .of (.bool true)] := by
    rw [lastAccepted, hfields]
    rfl
  have hread : ((d.readRow [.text "buy milk", .of (.bool true)]).run .start).1 =
      .ok ⟨"buy milk", true, false⟩ := by
    rw [TableDefinition.readRow, hfields, hblank]
    rfl
  refine ⟨d, hd, hsteady, fun l => ?_⟩
  obtain ⟨-, -, -, hobject⟩ := afterRows_reads_apart (⟨1, d⟩ : Alias ModelSchema.Note)
    [[.text "call home", .of (.bool false)], [.text "buy milk", .of (.bool true)], [.text "sleep"]]
  rw [(hobject _ hlast).2 hsteady l .start, hread]

end Alias
end TableMapping
