import TableMapping.Proofs.Sql.WriteByKey

/-!
# The lookup of key columns

The conditions that find a row do not take the columns from the key fields themselves: each field
is looked up by the handle that a fresh alias has for it, and the lookup may fail.  In a definition
that a model has it does not, so the only failures are those of the conversions.

* `TableDefinition.AsksFor`: conditions that ask for values, all of them together.
* `TableDefinition.keyLookup_of_define`: the lookup answers the field itself; the conditions fail
  where a conversion does, and otherwise ask for the values of the key.
-/

namespace TableMapping
namespace TableDefinition

open ModelSchema

variable {M : Type} {s : ModelSchema M} {build : Nat} {d : TableDefinition M}
  {fvs : List (MappedField M × Value)}

/-- One condition per field and value, in their order: the column of the field equals the value, and
this together with what stands before it. -/
structure AsksFor (fvs : List (MappedField M × Value)) (cs : List Condition) : Prop where
  each : List.Forall₂ (fun fv c => c.column = fv.1.columnName ∧ c.compare = .equal ∧
    c.right = .value fv.2) fvs cs
  first : ∀ c ∈ cs.head?, c.joiner = none
  others : ∀ c ∈ cs.tail, c.joiner = some .and

theorem asksFor_equalities (fvs : List (MappedField M × Value)) :
    AsksFor fvs (equalities (assignments fvs)) := by
  cases fvs with
  | nil => exact ⟨.nil, by simp [assignments, equalities], by simp [assignments, equalities]⟩
  | cons fv fvs =>
    have hcons : equalities (assignments (fv :: fvs)) =
        ⟨none, fv.1.columnName, .equal, .value fv.2⟩ ::
          fvs.map fun fv => ⟨some .and, fv.1.columnName, .equal, .value fv.2⟩ := by
      rw [assignments, List.map_cons, equalities, List.map_map]
      rfl
    rw [hcons]
    refine ⟨.cons ⟨rfl, rfl, rfl⟩ ?_, ?_, ?_⟩
    · exact List.forall₂_map_right_iff.mpr (List.forall₂_same.mpr fun _ _ => ⟨rfl, rfl, rfl⟩)
    · rintro c ⟨⟩
      rfl
    · intro c hc
      obtain ⟨fv, -, rfl⟩ := List.mem_map.mp hc
      rfl

theorem AsksFor.map_column {cs : List Condition} (h : AsksFor fvs cs) :
    cs.map (·.column) = (fvs.map (·.1)).map fun f => f.columnName := by
  rw [List.map_map]
  exact List.forall₂_eq_eq_eq ▸ List.forall₂_map_left_iff.mpr
    (List.forall₂_map_right_iff.mpr (h.each.flip.imp fun _ _ hc => hc.1))

/-- **The key lookup.**  The handle of a key field leads back to the field in every alias, so no
lookup fails: the conditions fail exactly where the conversion of a key field does.  Otherwise they
ask, field by field, for the values of the key. -/
theorem keyLookup_of_define (hd : s.define build = .ok d) (m : M) (l : Ledger) :
    (∀ a : Alias M, a.definition = d → ∀ f ∈ d.keyFields, a.resolve (a.handleOf f) = .ok f) ∧
    (∀ e, (∃ l', (d.keyConditions m).run l = (.error e, l')) ↔ FirstFault m d.keyFields l e) ∧
    ∀ cs l', (d.keyConditions m).run l = (.ok cs, l') →
      ∃ fvs, ValuesAt m l.served d.keyFields fvs ∧ AsksFor fvs cs := by
  refine ⟨fun a ha f hf => ?_, fun e => ?_, fun cs l' h => ?_⟩
  · exact ModelSchema.resolve_handleOf hd (List.mem_filter.mp hf).1 ha
  · exact (converts_keyConditions hd).run_eq_error_iff
  · obtain ⟨fvs, hvalues, rfl, -⟩ := values_of_keyConditions hd h
    exact ⟨fvs, hvalues, asksFor_equalities fvs⟩

/-! ### Items on shelves -/

/-- Of the columns the key takes its own, in their order. -/
theorem keyColumns_eq_filter (hd : s.define build = .ok d) :
    d.keyColumns = (d.fields.map fun f => f.columnName).filter (· ∈ d.primaryKey) := by
  rw [keyColumns, keyFields, List.filter_map]
  congr 1
  refine List.filter_congr fun f hf => ?_
  rw [Bool.eq_iff_iff, Function.comp_apply, decide_eq_true_iff, mem_primaryKey hd, keyFields,
    columnName_mem_map_filter hd _ hf]

theorem keyColumns_item {d : TableDefinition Item}
    (hd : (itemSchema "SHELF, item_id").define 0 = .ok d) :
    d.keyColumns = ["Item_Id", "shelf"] := by
  have hcolumns : d.fields.map (fun f => f.columnName) = ["Item_Id", "label", "shelf"] :=
    columnNames_of_define hd
  rw [keyColumns_eq_filter hd, hcolumns,
    primaryKey_item hd effectiveKey_shelf_id meansItem_shelf_id]
  decide

/-- Items are numbers and texts without adapters, so nothing is in the way of their conversion. -/
theorem not_firstFault_item {d : TableDefinition Item}
    (hd : (itemSchema "SHELF, item_id").define 0 = .ok d) {m : Item} {fs : List (MappedField Item)}
    {l : Ledger} {e : MappingError} (hfs : ∀ f ∈ fs, f ∈ d.fields) : ¬FirstFault m fs l e := by
  intro h
  induction h with
  | later _ _ ih => exact ih (List.forall_mem_cons.mp hfs).2
  | here hfault =>
    obtain ⟨a, ha, hcolumn, -⟩ := exists_selected_of_mem hd (hfs _ List.mem_cons_self)
    have hplain : a.adapter = none ∧
        ∃ x, a.get m = .ok x ∧ ∀ member, x ≠ .member (some member) := by
      rw [selected_itemSchema, List.mem_cons, List.mem_cons, List.mem_singleton] at ha
      rcases ha with rfl | rfl | rfl
      · exact ⟨rfl, _, rfl, nofun⟩
      · exact ⟨rfl, _, rfl, nofun⟩
      · exact ⟨rfl, _, rfl, nofun⟩
    obtain ⟨hadapter, x, hx, hmember⟩ := hplain
    rw [← hcolumn.adapter] at hadapter
    rw [← hcolumn.get] at hx
    rcases hfault with hget | ⟨-, hsome, -⟩ | ⟨hget, -, -, -⟩
    · exact nomatch hget.symm.trans hx
    · exact nomatch hsome.symm.trans hadapter
    · exact hmember _ (Except.ok.inj (hx.symm.trans hget))

/-- The key of the items, a column of their own and one that they inherit: their note, between the
two, has no column, and the order is that of the fields. -/
theorem keyLookup_of_define_item :
    ∃ d : TableDefinition Item, (itemSchema "SHELF, item_id").define 0 = .ok d ∧
      ∃ cs l', (d.keyConditions ⟨7, "box", "heavy", "dock"⟩).run .start = (.ok cs, l') ∧
        cs.map (·.column) = ["Item_Id", "shelf"] ∧ cs.map (·.joiner) = [none, some .and] := by
  obtain ⟨d, hd⟩ := exists_define_itemSchema effectiveKey_shelf_id meansItem_shelf_id
  obtain ⟨-, hfault, hanswer⟩ := keyLookup_of_define hd ⟨7, "box", "heavy", "dock"⟩ .start
  rcases hrun : (d.keyConditions ⟨7, "box", "heavy", "dock"⟩).run .start with ⟨e | cs, l'⟩
  · have hkey : ∀ f ∈ d.keyFields, f ∈ d.fields := fun f hf => (List.mem_filter.mp hf).1
    exact absurd ((hfault e).mp ⟨l', hrun⟩) (not_firstFault_item hd hkey)
  · obtain ⟨fvs, hvalues, hcs⟩ := hanswer cs l' hrun
    have hcolumns : cs.map (·.column) = ["Item_Id", "shelf"] := by
      rw [hcs.map_column, hvalues.fields]
      exact keyColumns_item hd
    obtain ⟨c, c', rfl⟩ : ∃ c c', cs = [c, c'] := by
      refine List.length_eq_two.mp ?_
      rw [← List.length_map, hcolumns]
      rfl
    have hfirst := hcs.first c rfl
    have hsecond := hcs.others c' List.mem_cons_self
    exact ⟨d, hd, _, _, hrun, hcolumns, by rw [List.map_cons, List.map_singleton, hfirst, hsecond]⟩

end TableDefinition
end TableMapping
