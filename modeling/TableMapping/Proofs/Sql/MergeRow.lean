import Mathlib.Logic.Function.Iterate
import TableMapping.Proofs.Sql.InsertRow
import TableMapping.Proofs.Sql.MergePlan

/-!
# The row of an emulated merge

A merge that is emulated converts the object four times: first for nothing, and then for the probe,
for the update and for the insertion.  Each part takes the key from a pass of its own.  An adapter
that counts its calls gives every part another key, so that the probe asks for one row, the update
changes a second and the insertion adds a third.

* `TableDefinition.turned`: what adapters have served after some conversions of an object.
* `TableDefinition.emulates_of_mergePlan`: the parts of a plan with the values of their passes.
* `TableDefinition.OneRow`: the parts bind the same key.
* `TableDefinition.oneRow_of_mergePlan_iff`: when they do.
-/

namespace TableMapping

/-- Without adapter, or with one that answers to the value alone, a field has one value. -/
theorem MappedField.valueAt_congr {M : Type} {f : MappedField M}
    (hsteady : ∀ a, f.adapter = some a → a.IsSteady) (m : M) (served served' : List AdapterCall) :
    f.valueAt m served = f.valueAt m served' := by
  rw [valueAt, valueAt]
  cases hadapter : f.adapter with
  | none => rfl
  | some a =>
    have hanswer : ∀ v, a.serialize served v = a.serialize served' v :=
      hsteady a hadapter served served'
    simp only [hanswer]

namespace TableDefinition

open Runs

variable {M : Type} {s : ModelSchema M} {build : Nat} {d : TableDefinition M} {m : M}
  {dialect : Dialect} {f : MappedField M} {fs : List (MappedField M)}
  {probed set found listed : List (MappedField M × Value)} {plan : MergePlan} {n : Nat}
  {l l₀ l₁ l' : Ledger}

/-! ## Turns -/

/-- The calls that the adapter of a field has served after `n` more conversions of an object. -/
def turned (m : M) (l : Ledger) (n : Nat) (f : MappedField M) : List AdapterCall :=
  (f.turn m)^[n] (l.served f)

/-- A conversion of the field is one more turn. -/
theorem served_eq_turned_succ (h : l₀.served f = turned m l n f)
    (hcalls : l₁.calls = (l₀.serve (MappedField.calls m fs)).calls)
    (hnodup : (fs.map fun f => f.slot).Nodup) (hf : f ∈ fs) :
    l₁.served f = turned m l (n + 1) f := by
  rw [Ledger.served_congr hcalls, Ledger.served_serve_of_mem _ hnodup hf, h, turned, turned,
    Function.iterate_succ_apply']

/-- Conversions of other fields are none. -/
theorem served_eq_turned (h : l₀.served f = turned m l n f)
    (hcalls : l₁.calls = (l₀.serve (MappedField.calls m fs)).calls)
    (hf : f.slot ∉ fs.map fun f => f.slot) : l₁.served f = turned m l n f := by
  rw [Ledger.served_congr hcalls, Ledger.served_serve_of_notMem _ hf, h]

/-- How often a key field is converted for the list of what an update sets: once if the table has no
other columns. -/
def setTurns (d : TableDefinition M) : Nat :=
  if d.otherFields.isEmpty then 1 else 0

theorem slot_notMem_otherFields (hd : s.define build = .ok d) (hf : f ∈ d.keyFields) :
    f.slot ∉ d.otherFields.map fun f => f.slot := by
  intro hmem
  obtain ⟨g, hg, hslot⟩ := List.mem_map.mp hmem
  obtain ⟨hf, hkey⟩ := List.mem_filter.mp hf
  obtain ⟨hg, hother⟩ := List.mem_filter.mp hg
  have hsame : g = f := List.inj_on_of_nodup_map (ModelSchema.nodup_slots hd) hg hf hslot
  rw [hsame, hkey] at hother
  exact nomatch hother

/-- The list of what is set takes `setTurns` turns of a key field. -/
theorem served_of_updatedFields (hd : s.define build = .ok d)
    (hcalls : l₁.calls = (l₀.serve (MappedField.calls m d.updatedFields)).calls)
    (hf : f ∈ d.keyFields) (h : l₀.served f = turned m l n f) :
    l₁.served f = turned m l (n + d.setTurns) f := by
  rw [updatedFields] at hcalls
  rw [setTurns]
  by_cases hempty : d.otherFields.isEmpty = true
  · rw [if_pos hempty] at hcalls ⊢
    exact served_eq_turned_succ h hcalls (nodup_slots_filter hd _) hf
  · rw [if_neg hempty] at hcalls ⊢
    exact served_eq_turned h hcalls (slot_notMem_otherFields hd hf)

/-! ## The parts of a plan -/

/-- What the parts of an emulated merge bind for the key.  Each key field has been converted once
before the probe, and once more for the probe, for the conditions of the update, and for the list of
what it sets when there are no other columns. -/
structure Emulates (d : TableDefinition M) (dialect : Dialect) (m : M) (l : Ledger)
    (plan : MergePlan) (probed set found listed : List (MappedField M × Value)) : Prop where
  plan : plan = .emulated
    ⟨"SELECT COUNT(*) FROM " ++ dialect.qualified d.schemaName d.tableName ++ " WHERE " ++
      " AND ".intercalate (dialect.equations 0 d.keyColumns), probed.map (·.2)⟩
    ⟨"UPDATE " ++ dialect.qualified d.schemaName d.tableName ++ " SET " ++
      ", ".intercalate (dialect.equations 0 d.updatedColumns) ++ " WHERE " ++
      " AND ".intercalate (dialect.equations d.updatedColumns.length d.keyColumns),
      set.map (·.2) ++ found.map (·.2)⟩
    ⟨"INSERT INTO " ++ dialect.qualified d.schemaName d.tableName ++ " (" ++
      dialect.columnList (columnsOf listed) ++ ") VALUES(" ++ dialect.valueList 0 listed.length ++
      ")", listed.map (·.2)⟩
  probed : ValuesAt m (turned m l 1) d.keyFields probed
  set : set.map (·.1) = d.updatedFields
  found : ValuesAt m (turned m l (2 + d.setTurns)) d.keyFields found
  sublist : (listed.map (·.1)).Sublist d.fields
  listed : ∀ fv ∈ listed, fv.1 ∈ d.keyFields →
    fv.1.valueAt m (turned m l (3 + d.setTurns) fv.1) = .ok fv.2

theorem emulates_of_mergePlan (hd : s.define build = .ok d)
    (hemulated : dialect.mergeStrategy = .emulated)
    (h : (d.mergePlan m dialect).run l = (.ok plan, l')) :
    ∃ probed set found listed, d.Emulates dialect m l plan probed set found listed := by
  obtain ⟨hkeyed, all, probe, update, insert, l₁, l₂, l₃, rfl, hall, hprobe, hupdate, hinsert⟩ :=
    passes_of_mergePlan hemulated h
  obtain ⟨-, hcalls₁⟩ := (run_storedValues_eq_ok_iff (ModelSchema.nodup_slots hd)).mp hall
  obtain ⟨conditions, _, hconditions, hprobe⟩ := run_bind_eq_ok.mp hprobe
  cases hprobe
  obtain ⟨probed, hprobed, rfl, hcalls₂⟩ := values_of_keyConditions hd hconditions
  obtain ⟨set, found, hset, hfound, rfl, hcalls₃⟩ := values_of_updateStatement hd hupdate
  obtain ⟨fvs, hfvs, rfl, -⟩ := values_of_insertStatement hd hinsert
  -- The turns of a key field, pass by pass.
  have hkeys : ∀ f ∈ d.keyFields, f ∈ d.fields := fun f hf => (List.mem_filter.mp hf).1
  have hnodup := nodup_slots_filter hd fun f => f.isPrimaryKey
  have hone : ∀ f ∈ d.keyFields, l₁.served f = turned m l 1 f := fun f hf =>
    served_eq_turned_succ rfl (congrArg Ledger.calls hcalls₁) (ModelSchema.nodup_slots hd)
      (hkeys f hf)
  have htwo : ∀ f ∈ d.keyFields, l₂.served f = turned m l 2 f := fun f hf =>
    served_eq_turned_succ (hone f hf) hcalls₂ hnodup hf
  have hwhere : ∀ f ∈ d.keyFields,
      (l₂.serve (MappedField.calls m d.updatedFields)).served f =
        turned m l (2 + d.setTurns) f := fun f hf =>
    served_of_updatedFields hd rfl hf (htwo f hf)
  have hlast : ∀ f ∈ d.keyFields, l₃.served f = turned m l (3 + d.setTurns) f := by
    intro f hf
    rw [Nat.add_right_comm 2 1]
    exact served_eq_turned_succ (hwhere f hf) hcalls₃ hnodup hf
  refine ⟨probed, set, found, given fvs, ?_, hprobed.congr hone, hset.fields, hfound.congr hwhere,
    ?_, ?_⟩
  · rw [statement_byKey hd hkeyed hprobed.fields,
      statementOf_update hd hkeyed hset.fields hfound.fields, statementOf_insert]
  · rw [← hfvs.fields]
    exact List.filter_sublist.map _
  · intro fv hfv hkey
    rw [← hlast _ hkey]
    exact hfvs.values fv (List.mem_filter.mp hfv).1

/-! ## One row -/

/-- Probe, update and insertion bind the same value for every column of the key, the insertion where
it lists the column. -/
def OneRow (d : TableDefinition M) (probed found listed : List (MappedField M × Value)) : Prop :=
  ∀ f ∈ d.keyFields, ∀ v, (f, v) ∈ probed → (f, v) ∈ found ∧ ∀ w, (f, w) ∈ listed → w = v

/-- The parts speak of one row exactly when every key field has the same value at its turns. -/
theorem Emulates.oneRow_iff (h : d.Emulates dialect m l plan probed set found listed) :
    d.OneRow probed found listed ↔ ∀ f ∈ d.keyFields,
      f.valueAt m (turned m l 1 f) = f.valueAt m (turned m l (2 + d.setTurns) f) ∧
      (f ∈ listed.map (·.1) →
        f.valueAt m (turned m l 1 f) = f.valueAt m (turned m l (3 + d.setTurns) f)) := by
  constructor
  · intro hone f hf
    obtain ⟨v, hv, hvalue⟩ := h.probed.exists_mem hf
    obtain ⟨hfound, hlisted⟩ := hone f hf v hv
    refine ⟨hvalue.trans (h.found.values _ hfound).symm, fun hmem => ?_⟩
    obtain ⟨⟨g, w⟩, hw, rfl⟩ := List.mem_map.mp hmem
    rw [hvalue, h.listed _ hw hf, hlisted w hw]
  · intro hsame f hf v hv
    obtain ⟨hwhere, hinsert⟩ := hsame f hf
    have hvalue : f.valueAt m (turned m l 1 f) = .ok v := h.probed.values _ hv
    constructor
    · obtain ⟨w, hw, hvalue'⟩ := h.found.exists_mem hf
      rw [← hwhere, hvalue] at hvalue'
      rwa [Except.ok.inj hvalue']
    · intro w hw
      have hvalue' : f.valueAt m (turned m l (3 + d.setTurns) f) = .ok w := h.listed _ hw hf
      rw [← hinsert (List.mem_map_of_mem hw), hvalue] at hvalue'
      exact (Except.ok.inj hvalue').symm

/-- **The row of an emulated merge.**  The probe binds the key as it is converted after one
conversion of the object, the conditions of the update after two or, where the update sets the key
itself, three, and the insertion after one more.  So they speak of one row exactly when the adapters
of the key answer alike at these turns, and in particular when they answer to the value alone. -/
theorem oneRow_of_mergePlan_iff (hd : s.define build = .ok d)
    (hemulated : dialect.mergeStrategy = .emulated)
    (h : (d.mergePlan m dialect).run l = (.ok plan, l')) :
    ∃ probed set found listed, d.Emulates dialect m l plan probed set found listed ∧
      (d.OneRow probed found listed ↔ ∀ f ∈ d.keyFields,
        f.valueAt m (turned m l 1 f) = f.valueAt m (turned m l (2 + d.setTurns) f) ∧
        (f ∈ listed.map (·.1) →
          f.valueAt m (turned m l 1 f) = f.valueAt m (turned m l (3 + d.setTurns) f))) ∧
      ((∀ f ∈ d.keyFields, ∀ a, f.adapter = some a → a.IsSteady) →
        d.OneRow probed found listed) := by
  obtain ⟨probed, set, found, listed, hparts⟩ := emulates_of_mergePlan hd hemulated h
  refine ⟨probed, set, found, listed, hparts, hparts.oneRow_iff, fun hsteady => ?_⟩
  refine hparts.oneRow_iff.mpr fun f hf => ?_
  have hsame := MappedField.valueAt_congr (hsteady f hf) m
  exact ⟨hsame _ _, fun _ => hsame _ _⟩

/-! ### A parcel -/

/-- The adapter of the key of a parcel answers to the probe and to the update with two numbers. -/
theorem oneRow_of_mergePlan_iff_parcel :
    ∃ plan l' probed set found listed,
      (parcelDefinition.mergePlan ⟨0, "box", "dock"⟩ .ansi).run .start = (.ok plan, l') ∧
      parcelDefinition.Emulates .ansi ⟨0, "box", "dock"⟩ .start plan probed set found listed ∧
      ¬ parcelDefinition.OneRow probed found listed := by
  have hnumbers : "box" ++ "#" ++ Numeral.ofNat 2 ≠ "box" ++ "#" ++ Numeral.ofNat 3 := by
    decide +kernel
  obtain ⟨plan, l', hrun⟩ : ∃ plan l',
      (parcelDefinition.mergePlan ⟨0, "box", "dock"⟩ .ansi).run .start = (.ok plan, l') :=
    ⟨_, _, rfl⟩
  obtain ⟨probed, set, found, listed, hparts, hiff, -⟩ :=
    oneRow_of_mergePlan_iff define_parcelSchema rfl hrun
  refine ⟨plan, l', probed, set, found, listed, hrun, hparts, fun hone => ?_⟩
  obtain ⟨hsame, -⟩ := hiff.mp hone (parcelColumn parcelCode "TEXT" 1) (List.mem_singleton_self _)
  have hprobe : (parcelColumn parcelCode "TEXT" 1).valueAt ⟨0, "box", "dock"⟩
      (turned ⟨0, "box", "dock"⟩ .start 1 (parcelColumn parcelCode "TEXT" 1)) =
        .ok (.text ("box" ++ "#" ++ Numeral.ofNat 2)) := rfl
  have hwhere : (parcelColumn parcelCode "TEXT" 1).valueAt ⟨0, "box", "dock"⟩
      (turned ⟨0, "box", "dock"⟩ .start (2 + parcelDefinition.setTurns)
        (parcelColumn parcelCode "TEXT" 1)) =
          .ok (.text ("box" ++ "#" ++ Numeral.ofNat 3)) := rfl
  rw [hprobe, hwhere] at hsame
  injection hsame with htext
  injection htext with hscalar
  injection hscalar with heq
  exact hnumbers heq

/-- The probe asks for one parcel, the update changes another, and the insertion adds a third. -/
theorem mergePlan_threeKeys_parcel :
    parcelSchema.define 0 = .ok parcelDefinition ∧ ∃ probe update insert l',
      (parcelDefinition.mergePlan ⟨0, "box", "dock"⟩ .ansi).run .start =
        (.ok (.emulated probe update insert), l') ∧
      probe.sql = "SELECT COUNT(*) FROM Parcel WHERE code = ?" ∧
      probe.params = [.text "box#2"] ∧
      update.sql = "UPDATE Parcel SET number = ?, place = ? WHERE code = ?" ∧
      update.params = [.of (.bigInt 0), .text "dock", .text "box#3"] ∧
      insert.sql = "INSERT INTO Parcel (code, place) VALUES(?, ?)" ∧
      insert.params = [.text "box#4", .text "dock"] := by
  have htwo : "box#2" = "box" ++ "#" ++ Numeral.ofNat 2 := by decide +kernel
  have hthree : "box#3" = "box" ++ "#" ++ Numeral.ofNat 3 := by decide +kernel
  have hfour : "box#4" = "box" ++ "#" ++ Numeral.ofNat 4 := by decide +kernel
  rw [htwo, hthree, hfour]
  exact ⟨define_parcelSchema, _, _, _, _, rfl, by decide +kernel, rfl, by decide +kernel, rfl,
    by decide +kernel, rfl⟩

end TableDefinition
end TableMapping
