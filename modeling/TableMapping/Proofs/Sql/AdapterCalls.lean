import TableMapping.Proofs.Sql.Conversion

/-!
# The calls that adapters serve

What an adapter answers may depend on the calls it has served.  A conversion of a field makes one
call, and it is served by an adapter that no other field has.  So the values of fields in a row are
known from the calls served before the row, and of two rows the second finds each adapter one turn
further for every time its field is in the first.

* `MappedField.valueAt`: the stored form of a field, given the calls its adapter has served, and
  `MappedField.turn`, these calls after one more conversion.
* `TableDefinition.ValuesAt`: the values of fields in a row.
* `TableDefinition.run_storedValues_eq_ok_iff`: a row of conversions, with its values and its calls.
* `Ledger.served_serve_of_mem`, `Ledger.served_serve_of_notMem`: what a row leaves for the next.
-/

namespace TableMapping

open Runs

namespace MappedField

variable {M : Type} {m : M}

/-- What the conversion of a field asks of its adapter.  Nothing is asked where there is none, or
where the field cannot be read. -/
def request? (f : MappedField M) (m : M) : Option AdapterCall :=
  match f.adapter, f.get m with
  | some _, .ok x => some (.serialize (Column.adapterInput x))
  | _, _ => none

/-- The stored form of a field of an object, when its adapter has served these calls. -/
def valueAt (f : MappedField M) (m : M) (served : List AdapterCall) : Except MappingError Value := do
  let x ← f.get m
  match f.adapter with
  | some a => a.serialize served (Column.adapterInput x)
  | none => f.encode x

/-- The calls that an adapter has served after one more conversion of its field. -/
def turn (f : MappedField M) (m : M) (served : List AdapterCall) : List AdapterCall :=
  (f.request? m).toList ++ served

/-- The calls that the conversions of fields make. -/
def calls (m : M) (fs : List (MappedField M)) : List (AdapterSlot × AdapterCall) :=
  fs.filterMap fun f => (f.request? m).map fun call => (f.slot, call)

theorem calls_cons (f : MappedField M) (fs : List (MappedField M)) :
    calls m (f :: fs) = calls m [f] ++ calls m fs :=
  List.filterMap_append (l := [f])

end MappedField

namespace Ledger

variable (l : Ledger) (calls calls' : List (AdapterSlot × AdapterCall))

/-- The ledger behind more calls. -/
def serve : Ledger :=
  { l with calls := calls.reverse ++ l.calls }

@[simp] theorem serve_nil : l.serve [] = l := rfl

theorem serve_append : l.serve (calls ++ calls') = (l.serve calls).serve calls' := by
  rw [serve, List.reverse_append, List.append_assoc]
  rfl

/-- The calls that the adapter of a field has served. -/
def served {M : Type} (f : MappedField M) : List AdapterCall :=
  l.history f.slot

theorem served_congr {M : Type} {l l' : Ledger} (h : l.calls = l'.calls) :
    l.served (M := M) = l'.served := by
  funext f
  rw [served, history, h]
  rfl

end Ledger

open MappedField in
/-- A conversion is the answer for the calls served so far, and it is one more turn. -/
theorem MappedField.run_storageValue_eq {M : Type} (f : MappedField M) (m : M) (l : Ledger) :
    (f.storageValue m).run l = (f.valueAt m (l.served f), l.serve (calls m [f])) := by
  cases hget : f.get m with
  | error e =>
    have hcalls : calls m [f] = [] := by
      cases hadapter : f.adapter <;> simp [calls, request?, hadapter, hget]
    rw [hcalls, valueAt, hget, storageValue, hget]
    rfl
  | ok x =>
    rw [run_storageValue hget, Column.toStorage, valueAt, hget]
    cases hadapter : f.adapter with
    | none =>
      have hcalls : calls m [f] = [] := by simp [calls, request?, hadapter]
      rw [hcalls]
      rfl
    | some a =>
      have hcalls : calls m [f] = [(f.slot, .serialize (Column.adapterInput x))] := by
        simp [calls, request?, hadapter, hget]
      rw [hcalls, Mapping.run_serialize]
      rfl

namespace Ledger

variable {M : Type} {m : M} {f g : MappedField M} {fs : List (MappedField M)} (l : Ledger)

theorem served_serve_single :
    (l.serve (MappedField.calls m [f])).served g =
      if f.slot = g.slot then f.turn m (l.served g) else l.served g := by
  rw [MappedField.turn]
  cases hrequest : f.request? m with
  | none =>
    have hcalls : MappedField.calls m [f] = [] := by simp [MappedField.calls, hrequest]
    rw [hcalls, serve_nil, Option.toList_none, List.nil_append, ite_self]
  | some call =>
    have hcalls : MappedField.calls m [f] = [(f.slot, call)] := by
      simp [MappedField.calls, hrequest]
    have hserve : l.serve [(f.slot, call)] = l.record f.slot call := rfl
    rw [hcalls, hserve, served, served]
    by_cases hslot : f.slot = g.slot
    · rw [if_pos hslot, ← hslot, history_record]
      rfl
    · rw [if_neg hslot, history, record, List.filter_cons_of_neg (by simpa using hslot), history]

/-- Adapters of other fields have served nothing. -/
theorem served_serve_of_notMem (h : g.slot ∉ fs.map fun f => f.slot) :
    (l.serve (MappedField.calls m fs)).served g = l.served g := by
  induction fs generalizing l with
  | nil => rfl
  | cons f fs ih =>
    rw [List.map_cons, List.mem_cons, not_or] at h
    obtain ⟨hf, hfs⟩ := h
    rw [MappedField.calls_cons, serve_append, ih _ hfs, served_serve_single, if_neg (Ne.symm hf)]

/-- The adapter of a field of the row is one turn further. -/
theorem served_serve_of_mem (hnodup : (fs.map fun f => f.slot).Nodup) (hf : f ∈ fs) :
    (l.serve (MappedField.calls m fs)).served f = f.turn m (l.served f) := by
  induction fs generalizing l with
  | nil => exact absurd hf List.not_mem_nil
  | cons g fs ih =>
    rw [List.map_cons, List.nodup_cons] at hnodup
    obtain ⟨hg, hnodup⟩ := hnodup
    rw [MappedField.calls_cons, serve_append]
    rcases List.mem_cons.mp hf with rfl | hf
    · rw [served_serve_of_notMem _ hg, served_serve_single, if_pos rfl]
    · have hslot : g.slot ≠ f.slot := by
        intro heq
        rw [heq] at hg
        exact hg (List.mem_map_of_mem hf)
      rw [ih _ hnodup hf, served_serve_single, if_neg hslot]

end Ledger

/-! ## Conversions in a row -/

namespace TableDefinition

variable {M : Type} {m : M} {f : MappedField M} {fs : List (MappedField M)}
  {fvs : List (MappedField M × Value)} {served : MappedField M → List AdapterCall} {l l' : Ledger}

/-- Fields with the values of an object, when their adapters have served these calls. -/
structure ValuesAt (m : M) (served : MappedField M → List AdapterCall) (fs : List (MappedField M))
    (fvs : List (MappedField M × Value)) : Prop where
  fields : fvs.map (·.1) = fs
  values : ∀ fv ∈ fvs, fv.1.valueAt m (served fv.1) = .ok fv.2

theorem valuesAt_cons_iff {v : Value} : ValuesAt m served (f :: fs) ((f, v) :: fvs) ↔
    f.valueAt m (served f) = .ok v ∧ ValuesAt m served fs fvs := by
  constructor
  · rintro ⟨hfields, hvalues⟩
    obtain ⟨hv, hvalues⟩ := List.forall_mem_cons.mp hvalues
    exact ⟨hv, (List.cons.inj hfields).2, hvalues⟩
  · rintro ⟨hv, rfl, hvalues⟩
    exact ⟨rfl, List.forall_mem_cons.mpr ⟨hv, hvalues⟩⟩

/-- Only the adapters of the fields matter. -/
theorem ValuesAt.congr {served' : MappedField M → List AdapterCall} (h : ValuesAt m served fs fvs)
    (hserved : ∀ f ∈ fs, served f = served' f) : ValuesAt m served' fs fvs := by
  refine ⟨h.fields, fun fv hfv => ?_⟩
  have hf : fv.1 ∈ fs := h.fields ▸ List.mem_map_of_mem hfv
  rw [← hserved fv.1 hf]
  exact h.values fv hfv

/-- Each field has one value. -/
theorem ValuesAt.exists_mem (h : ValuesAt m served fs fvs) (hf : f ∈ fs) :
    ∃ v, (f, v) ∈ fvs ∧ f.valueAt m (served f) = .ok v := by
  rw [← h.fields] at hf
  obtain ⟨⟨g, v⟩, hfv, rfl⟩ := List.mem_map.mp hf
  exact ⟨v, hfv, h.values _ hfv⟩

/-- Conversions in a row answer with the values for the calls served before, and serve one turn of
each field. -/
theorem run_storedValues_eq_ok_iff (hnodup : (fs.map fun f => f.slot).Nodup) :
    (storedValues m fs).run l = (.ok fvs, l') ↔
      ValuesAt m l.served fs fvs ∧ l' = l.serve (MappedField.calls m fs) := by
  induction fs generalizing fvs l with
  | nil =>
    constructor
    · rintro ⟨⟩
      exact ⟨⟨rfl, List.forall_mem_nil _⟩, rfl⟩
    · rintro ⟨⟨hfields, -⟩, rfl⟩
      rw [List.map_eq_nil_iff.mp hfields]
      rfl
  | cons f fs ih =>
    rw [List.map_cons, List.nodup_cons] at hnodup
    obtain ⟨hf, hnodup⟩ := hnodup
    -- The adapters of the other fields know nothing of the call for `f`.
    have hserved : ∀ g ∈ fs, (l.serve (MappedField.calls m [f])).served g = l.served g := by
      intro g hg
      rw [Ledger.served_serve_single, if_neg]
      intro hslot
      rw [hslot] at hf
      exact hf (List.mem_map_of_mem hg)
    have hcalls : l.serve (MappedField.calls m (f :: fs)) =
        (l.serve (MappedField.calls m [f])).serve (MappedField.calls m fs) := by
      rw [MappedField.calls_cons, Ledger.serve_append]
    have hrun := f.run_storageValue_eq m l
    rw [hcalls]
    constructor
    · intro h
      obtain ⟨v, l₁, hv, h⟩ := run_bind_eq_ok.mp h
      obtain ⟨rest, l₂, hrest, h⟩ := run_bind_eq_ok.mp h
      cases h
      obtain ⟨hvalue, rfl⟩ := Prod.mk.inj (hrun.symm.trans hv)
      obtain ⟨hvalues, rfl⟩ := (ih hnodup).mp hrest
      exact ⟨valuesAt_cons_iff.mpr ⟨hvalue, hvalues.congr hserved⟩, rfl⟩
    · rintro ⟨hvalues, rfl⟩
      match fvs, hvalues with
      | (g, v) :: fvs, hvalues =>
        cases (List.cons.inj hvalues.fields).1
        obtain ⟨hvalue, hvalues⟩ := valuesAt_cons_iff.mp hvalues
        rw [hvalue] at hrun
        have hrest := (ih hnodup).mpr ⟨hvalues.congr fun g hg => (hserved g hg).symm, rfl⟩
        rw [storedValues, run_bind_ok hrun, run_bind_ok hrest, run_pure]

end TableDefinition

/-- The fields of a definition have adapters of their own. -/
theorem ModelSchema.nodup_slots {M : Type} {s : ModelSchema M} {build : Nat}
    {d : TableDefinition M} (hd : s.define build = .ok d) :
    (d.fields.map fun f => f.slot).Nodup := by
  refine List.pairwise_map.mpr ((placed_of_define hd).ordered.imp ?_)
  intro f g horder heq
  have hindex : f.declaredIndex = g.declaredIndex := congrArg AdapterSlot.position heq
  omega

end TableMapping
