import TableMapping.Proofs.Model.Invariant
import TableMapping.Proofs.Query.Issuing

/-!
# What a handle stands for

A handle carries the number of its alias and a position among the declared fields.  An alias knows
its own handles by the number; behind it, the position decides.

* `ModelSchema.target_of_unmapped`: what stands for a field without a column.
* `Alias.Resolution`: what a handle stands for, told by the alias that issued it.
* `Alias.Binds`: the views of an alias, with whatever rows they have read, resolve as it does.
* `LibraryRun.resolve_iff`: in a run, all aliases resolve all handles so.
-/

namespace TableMapping

open Runs

namespace ModelSchema

variable {M : Type} {s : ModelSchema M} {build : Nat} {d : TableDefinition M}

/-! ## Declared fields -/

/-- At the place of a field without a column stands its name. -/
theorem target_of_unmapped {k : Nat} {name : String} (hname : d.declared[k]? = some name)
    (hno : ∀ f ∈ d.fields, f.declaredIndex ≠ k) : d.targets[k]? = some (.unmapped name) := by
  have hnone : (d.fields.findIdx? fun f => f.declaredIndex == k) = none := by
    rw [List.findIdx?_eq_none_iff]
    exact fun f hf => beq_eq_false_iff_ne.mpr (hno f hf)
  rw [TableDefinition.targets, List.getElem?_mapIdx, hname, Option.map_some, hnone]

end ModelSchema

namespace Alias

variable {M : Type} {s : ModelSchema M} {build k : Nat} {a : Alias M} {h : Handle}
  {v : SelectView M}

/-! ## One alias -/

/-- What the handle of the declared field `k` stands for in an alias; `issued` says whether the
alias issued it. -/
inductive Resolution (a : Alias M) (issued : Prop) (k : Nat) :
    Except MappingError (MappedField M) → Prop
  | mapped {f : MappedField M} (hissued : issued) (hf : f ∈ a.definition.fields)
      (hk : f.declaredIndex = k) : Resolution a issued k (.ok f)
  | unmapped {name : String} (hissued : issued) (hname : a.definition.declared[k]? = some name)
      (hno : ∀ f ∈ a.definition.fields, f.declaredIndex ≠ k) :
      Resolution a issued k (.error (.unmappedField a.definition.tableName name))
  | foreign (h : ¬issued ∨ a.definition.declared.length ≤ k) :
      Resolution a issued k (.error (.unresolvableField a.definition.tableName))

theorem resolve_of_target_eq_none
    (htarget : h.owner = a.number → a.definition.targets[h.index]? = none) :
    a.resolve h = .error (.unresolvableField a.definition.tableName) := by
  have hnone : (if h.owner = a.number then a.definition.targets[h.index]? else none) = none := by
    split
    · rename_i howner
      exact htarget howner
    · rfl
  rw [resolve, TableDefinition.resolveIn, hnone]
  rfl

theorem resolution_resolve (hd : s.define build = .ok a.definition) (h : Handle) :
    a.Resolution (h.owner = a.number) h.index (a.resolve h) := by
  by_cases howner : h.owner = a.number
  · by_cases hk : h.index < a.definition.declared.length
    · by_cases hmapped : ∃ f ∈ a.definition.fields, f.declaredIndex = h.index
      · obtain ⟨f, hf, hindex⟩ := hmapped
        have hself : h = a.handleOf f := by
          rw [handleOf, handle, hindex, ← howner]
        rw [hself, ModelSchema.resolve_handleOf hd hf rfl]
        exact .mapped rfl hf rfl
      · have hno : ∀ f ∈ a.definition.fields, f.declaredIndex ≠ h.index :=
          fun f hf hindex => hmapped ⟨f, hf, hindex⟩
        have hname := List.getElem?_eq_getElem hk
        have htarget := ModelSchema.target_of_unmapped hname hno
        have hresolve : a.resolve h = .error (.unmappedField a.definition.tableName
            a.definition.declared[h.index]) := by
          rw [resolve, TableDefinition.resolveIn, if_pos howner, htarget]
          rfl
        rw [hresolve]
        exact .unmapped howner hname hno
    · have hpast := Nat.le_of_not_lt hk
      rw [resolve_of_target_eq_none fun _ => ?_]
      · exact .foreign (.inr hpast)
      · rw [TableDefinition.targets, List.getElem?_mapIdx, List.getElem?_eq_none hpast]
        rfl
  · rw [resolve_of_target_eq_none fun hown => absurd hown howner]
    exact .foreign (.inl howner)

namespace Resolution

variable {issued : Prop} {x : Except MappingError (MappedField M)}

theorem eq_ok_iff (hplaced : Placed a.definition.declared.length a.definition.fields)
    (h : a.Resolution issued k x) (f : MappedField M) :
    x = .ok f ↔ issued ∧ f ∈ a.definition.fields ∧ f.declaredIndex = k := by
  cases h with
  | @mapped g hissued hg hgk =>
    rw [Except.ok.injEq]
    constructor
    · rintro rfl
      exact ⟨hissued, hg, hgk⟩
    · rintro ⟨-, hf, hfk⟩
      exact hplaced.eq_of_declaredIndex hg hf (hgk.trans hfk.symm)
  | unmapped _ _ hno =>
    constructor
    · exact nofun
    · rintro ⟨-, hf, hfk⟩
      exact absurd hfk (hno f hf)
  | foreign hforeign =>
    constructor
    · exact nofun
    · rintro ⟨hissued, hf, rfl⟩
      have hbound := hplaced.bounded f hf
      rcases hforeign with hforeign | hpast
      · exact absurd hissued hforeign
      · omega

theorem eq_unmapped_iff (h : a.Resolution issued k x) (table name : String) :
    x = .error (.unmappedField table name) ↔
      table = a.definition.tableName ∧ issued ∧ a.definition.declared[k]? = some name ∧
        ∀ f ∈ a.definition.fields, f.declaredIndex ≠ k := by
  cases h with
  | mapped _ hg hgk =>
    constructor
    · exact nofun
    · rintro ⟨-, -, -, hno⟩
      exact absurd hgk (hno _ hg)
  | unmapped hissued hname hno =>
    rw [Except.error.injEq, MappingError.unmappedField.injEq]
    constructor
    · rintro ⟨rfl, rfl⟩
      exact ⟨rfl, hissued, hname, hno⟩
    · rintro ⟨rfl, -, hname', -⟩
      exact ⟨rfl, Option.some.inj (hname.symm.trans hname')⟩
  | foreign hforeign =>
    constructor
    · exact nofun
    · rintro ⟨-, hissued, hname, -⟩
      obtain ⟨hk, -⟩ := List.getElem?_eq_some_iff.mp hname
      rcases hforeign with hforeign | hpast
      · exact absurd hissued hforeign
      · omega

theorem eq_unresolvable_iff (hplaced : Placed a.definition.declared.length a.definition.fields)
    (h : a.Resolution issued k x) (table : String) :
    x = .error (.unresolvableField table) ↔
      table = a.definition.tableName ∧ (¬issued ∨ a.definition.declared.length ≤ k) := by
  cases h with
  | mapped hissued hg hgk =>
    have hbound := hplaced.bounded _ hg
    constructor
    · exact nofun
    · rintro ⟨-, hforeign | hpast⟩
      · exact absurd hissued hforeign
      · omega
  | unmapped hissued hname hno =>
    obtain ⟨hk, -⟩ := List.getElem?_eq_some_iff.mp hname
    constructor
    · exact nofun
    · rintro ⟨-, hforeign | hpast⟩
      · exact absurd hissued hforeign
      · omega
  | foreign hforeign =>
    rw [Except.error.injEq, MappingError.unresolvableField.injEq]
    constructor
    · rintro rfl
      exact ⟨rfl, hforeign⟩
    · rintro ⟨rfl, -⟩
      rfl

end Resolution

/-! ## Views -/

/-- The views bound from an alias, before and after they read rows. -/
inductive Binds (a : Alias M) : SelectView M → Prop
  | view : Binds a a.view
  | readRow {v v' : SelectView M} {row : List Value} (h : Binds a v)
      (hrow : v.readRow row = .ok v') : Binds a v'

/-- A view has the number and the definition of its alias and one column for each mapped field. -/
theorem Binds.eq (hv : a.Binds v) :
    v.number = a.number ∧ v.definition = a.definition ∧
      v.columns.map (fun c => c.fieldIndex) = List.range a.definition.fields.length := by
  induction hv with
  | view =>
    refine ⟨rfl, rfl, ?_⟩
    rw [Alias.view, List.map_map]
    exact List.map_id _
  | @readRow v v' row _ hrow ih =>
    rw [SelectView.readRow] at hrow
    split at hrow
    · rename_i hlength
      cases hrow
      obtain ⟨hnumber, hdefinition, hindexes⟩ := ih
      refine ⟨hnumber, hdefinition, ?_⟩
      rw [← hindexes, List.map_zipWith]
      apply List.ext_getElem
      · rw [List.length_zipWith, List.length_map, hlength, Nat.min_self]
      · intro i hi hi'
        rw [List.getElem_zipWith, List.getElem_map]
    · cases hrow

theorem lt_of_resolveIn {d : TableDefinition M} {number : UInt64} {position : Nat}
    (hposition : d.resolveIn number h = .ok position) : position < d.fields.length := by
  rw [TableDefinition.resolveIn] at hposition
  split at hposition
  · rename_i htarget
    cases hposition
    obtain ⟨-, htarget⟩ := Option.ite_none_right_eq_some.mp htarget
    rw [TableDefinition.targets, List.getElem?_mapIdx, Option.map_eq_some_iff] at htarget
    obtain ⟨name, -, htarget⟩ := htarget
    split at htarget
    · rename_i hfind
      cases htarget
      exact (List.findIdx?_eq_some_iff_getElem.mp hfind).1
    · cases htarget
  · cases hposition
  · cases hposition

/-- A view resolves a handle as its alias does. -/
theorem Binds.resolve_eq (hv : a.Binds v) (h : Handle) :
    v.resolveField h = a.resolve h ∧ ∀ e, v.resolve h = .error e ↔ a.resolve h = .error e := by
  obtain ⟨hnumber, hdefinition, hindexes⟩ := hv.eq
  cases hresolved : a.definition.resolveIn a.number h with
  | error e =>
    have hview : v.resolve h = .error e := by
      rw [SelectView.resolve, hnumber, hdefinition, hresolved]
      rfl
    have halias : a.resolve h = .error e := by
      rw [resolve, hresolved]
      rfl
    rw [SelectView.resolveField, hview, halias]
    exact ⟨rfl, fun e' => by rw [Except.error.injEq, Except.error.injEq]⟩
  | ok position =>
    have hlt := lt_of_resolveIn hresolved
    have hlength : v.columns.length = a.definition.fields.length := by
      rw [← List.length_map (f := fun c : SelectColumn => c.fieldIndex), hindexes,
        List.length_range]
    have hcolumn := List.getElem?_eq_getElem (hlength.symm ▸ hlt : position < v.columns.length)
    have hindex : v.columns[position].fieldIndex = position := by
      have hget := congrArg (·[position]?) hindexes
      simpa [hcolumn, hlt] using hget
    have hview : v.resolve h = .ok v.columns[position] := by
      rw [SelectView.resolve, hnumber, hdefinition]
      refine bind_eq_ok.mpr ⟨position, hresolved, ?_⟩
      rw [hcolumn]
      rfl
    have halias : a.resolve h = .ok a.definition.fields[position] := by
      rw [resolve, hresolved]
      show a.definition.fieldAt position = _
      rw [TableDefinition.fieldAt, List.getElem?_eq_getElem hlt]
    refine ⟨?_, fun e => ⟨fun he => ?_, fun he => ?_⟩⟩
    · rw [SelectView.resolveField, hview, halias, hdefinition]
      show a.definition.fieldAt v.columns[position].fieldIndex = _
      rw [hindex, TableDefinition.fieldAt, List.getElem?_eq_getElem hlt]
    · cases hview.symm.trans he
    · cases halias.symm.trans he

end Alias

/-! ## All aliases of a run -/

/-- In a run, the handle `k` of the alias `b` stands for a field of the alias `a` exactly when both
are the same alias and the declared field `k` is mapped.  It is refused by the name of the field
when that is not mapped, and otherwise because it is none of the handles of `a`. -/
theorem LibraryRun.resolve_iff {l : Ledger} {as : List AnyAlias} (h : LibraryRun l as)
    (hfew : as.length < UInt64.size) {M N : Type} {a : Alias M} {b : Alias N} {i j : Nat}
    (ha : as[i]? = some ⟨M, a⟩) (hb : as[j]? = some ⟨N, b⟩) (k : Nat) :
    (∀ f, a.resolve (b.handle k) = .ok f ↔
        i = j ∧ f ∈ a.definition.fields ∧ f.declaredIndex = k) ∧
      (∀ table name, a.resolve (b.handle k) = .error (.unmappedField table name) ↔
          table = a.definition.tableName ∧ i = j ∧ a.definition.declared[k]? = some name ∧
            ∀ f ∈ a.definition.fields, f.declaredIndex ≠ k) ∧
      (∀ table, a.resolve (b.handle k) = .error (.unresolvableField table) ↔
          table = a.definition.tableName ∧ (i ≠ j ∨ a.definition.declared.length ≤ k)) ∧
      ∀ v, a.Binds v → v.resolveField (b.handle k) = a.resolve (b.handle k) ∧
        ∀ e, v.resolve (b.handle k) = .error e ↔ a.resolve (b.handle k) = .error e := by
  obtain ⟨s, build, hd⟩ := h.isDefined _ (List.mem_of_getElem? ha)
  have hplaced := ModelSchema.placed_of_define hd
  have howner : (b.handle k).owner = a.number ↔ i = j := by
    constructor
    · exact fun heq => h.eq_of_number_eq hfew ha hb heq.symm
    · rintro rfl
      cases Option.some.inj (ha.symm.trans hb)
      rfl
  have hresolution := Alias.resolution_resolve hd (b.handle k)
  rw [howner] at hresolution
  exact ⟨hresolution.eq_ok_iff hplaced, hresolution.eq_unmapped_iff,
    hresolution.eq_unresolvable_iff hplaced, fun v hv => hv.resolve_eq _⟩

/-! ### Two aliases of items -/

namespace ModelSchema

theorem declared_itemSchema {key : String} {build : Nat} {d : TableDefinition Item}
    (hd : (itemSchema key).define build = .ok d) :
    d.declared = ["id", "label", "note", "shelf"] ∧ d.tableName = "Item" := by
  obtain ⟨_, -, -, -, hdeclared, -⟩ := define_eq_ok hd
  exact ⟨hdeclared, tableName_of_define hd⟩

/-- No column stands where the note of an item is declared. -/
theorem declaredIndex_ne_note {key : String} {build : Nat} {d : TableDefinition Item}
    (hd : (itemSchema key).define build = .ok d) : ∀ f ∈ d.fields, f.declaredIndex ≠ 2 := by
  intro f hf hnote
  have hcolumns := forall₂_define hd
  obtain ⟨i, hi, rfl⟩ := List.getElem_of_mem hf
  have hi' : i < (itemSchema key).selected.length := hcolumns.length_eq ▸ hi
  have hplace : (itemSchema key).declaredFields[d.fields[i].declaredIndex]? =
      some (itemSchema key).selected[i] := (hcolumns.get hi' hi).place
  rw [hnote] at hplace
  have hitem : itemNote = (itemSchema key).selected[i] := Option.some.inj hplace
  have hselected : itemNote ∈ (itemSchema key).selected := hitem ▸ List.getElem_mem hi'
  exact nomatch (List.mem_filter.mp hselected).2

theorem exists_shelf {key : String} {build : Nat} {d : TableDefinition Item}
    (hd : (itemSchema key).define build = .ok d) :
    ∃ f ∈ d.fields, f.columnName = "shelf" ∧ f.declaredIndex = 3 := by
  have hcolumns := forall₂_define hd
  rw [selected_itemSchema] at hcolumns
  have hlength : 2 < d.fields.length := hcolumns.length_eq ▸ (by decide : 2 < 3)
  have hshelf : (itemSchema key).IsColumnOf itemShelf d.fields[2] :=
    hcolumns.get (by decide) hlength
  have hname := getElem?_declared_of_forall₂ (forall₂_define hd) (List.getElem_mem hlength)
  rw [hshelf.fieldName] at hname
  refine ⟨d.fields[2], List.getElem_mem hlength, hshelf.columnName, ?_⟩
  have hnames : (itemSchema key).declaredFields.map (fun a => a.name) =
      ["id", "label", "note", "shelf"] := rfl
  have hnodup : ["id", "label", "note", "shelf"].Nodup := by decide
  rw [hnames] at hname
  have hlast : 3 < ["id", "label", "note", "shelf"].length := by decide
  exact ((List.getElem?_inj hlast hnodup).mp hname.symm).symm

/-- An alias of items knows its own handle of the shelf, refuses that of the note by its name, and
does not know the handles of another alias of items. -/
theorem resolve_items : ∃ (d : TableDefinition Item) (l : Ledger) (f : MappedField Item),
    (itemSchema "SHELF, item_id").define 0 = .ok d ∧
      LibraryRun l [⟨Item, ⟨1, d⟩⟩, ⟨Item, ⟨2, d⟩⟩] ∧ f.columnName = "shelf" ∧
        (⟨1, d⟩ : Alias Item).resolve ⟨1, 3⟩ = .ok f ∧
        (⟨1, d⟩ : Alias Item).resolve ⟨1, 2⟩ = .error (.unmappedField "Item" "note") ∧
        (⟨1, d⟩ : Alias Item).resolve ⟨2, 3⟩ = .error (.unresolvableField "Item") := by
  obtain ⟨d, hd⟩ := exists_define_itemSchema effectiveKey_shelf_id meansItem_shelf_id
  obtain ⟨f, hf, hname, hindex⟩ := exists_shelf hd
  obtain ⟨hdeclared, htable⟩ := declared_itemSchema hd
  obtain ⟨l, hrun⟩ : ∃ l, LibraryRun l [⟨Item, ⟨1, d⟩⟩, ⟨Item, ⟨2, d⟩⟩] :=
    ⟨_, (LibraryRun.start.step (.materialize hd .start)).step (.materialize hd _)⟩
  have hfew : ([⟨Item, ⟨1, d⟩⟩, ⟨Item, ⟨2, d⟩⟩] : List AnyAlias).length < UInt64.size :=
    (by decide : 2 < UInt64.size)
  have hown : ([⟨Item, ⟨1, d⟩⟩, ⟨Item, ⟨2, d⟩⟩] : List AnyAlias)[0]? = some ⟨Item, ⟨1, d⟩⟩ := rfl
  have hother : ([⟨Item, ⟨1, d⟩⟩, ⟨Item, ⟨2, d⟩⟩] : List AnyAlias)[1]? = some ⟨Item, ⟨2, d⟩⟩ := rfl
  have hresolve := hrun.resolve_iff hfew hown hown
  have hforeign := hrun.resolve_iff hfew hown hother
  refine ⟨d, l, f, hd, hrun, hname, ?_, ?_, ?_⟩
  · exact ((hresolve 3).1 f).mpr ⟨rfl, hf, hindex⟩
  · refine ((hresolve 2).2.1 "Item" "note").mpr ⟨htable.symm, rfl, ?_, declaredIndex_ne_note hd⟩
    rw [hdeclared]
    rfl
  · exact ((hforeign 3).2.2.1 "Item").mpr ⟨htable.symm, .inl (by decide)⟩

end ModelSchema
end TableMapping
