import TableMapping.Proofs.Sql.Writing

/-!
# The conversions of a statement

A statement that writes an object converts the fields that it needs, some of them more than once,
and this is the only thing about it that can fail.  So it is known beforehand which conversions a
statement consists of, and it fails with the first of them that does.

* `MappedField.Fault`: the three causes for which a field cannot be converted.
* `TableDefinition.FirstFault`: in a row of conversions, the first that cannot be made.
* `TableDefinition.Converts`: a computation that comes down to a row of conversions, with
  `Converts.bind` for a sequence.
* `TableDefinition.Converts.run_eq_error_iff`: it fails exactly where a conversion does.
* `TableDefinition.converts_insertStatement`, `converts_updateStatement`,
  `converts_deleteStatement`, `converts_mergePlan`: the conversions of each statement.
-/

namespace TableMapping

open Runs

namespace Mapping

variable {α β : Type} {x : Mapping α} {f : α → Mapping β} {l l' : Ledger}

/-- What a run comes to when its answer does not matter: the failure, if it is one, and the calls
that adapters have served. -/
def outcome (x : Mapping α) (l : Ledger) :
    Except MappingError Unit × List (AdapterSlot × AdapterCall) :=
  ((x.run l).1.map fun _ => (), (x.run l).2.calls)

theorem outcome_of_run {b : Except MappingError α} (h : x.run l = (b, l')) :
    x.outcome l = (b.map fun _ => (), l'.calls) := by
  rw [outcome, h]

theorem exists_run_eq_error_iff {e : MappingError} :
    (∃ l', x.run l = (.error e, l')) ↔ (x.outcome l).1 = .error e := by
  rw [outcome]
  rcases x.run l with ⟨e' | a, l₁⟩
  · constructor
    · rintro ⟨_, ⟨⟩⟩
      rfl
    · intro heq
      cases heq
      exact ⟨l₁, rfl⟩
  · constructor
    · rintro ⟨_, ⟨⟩⟩
    · exact fun heq => nomatch heq

theorem outcome_bind_error {e : MappingError} (h : x.run l = (.error e, l')) :
    (x >>= f).outcome l = (.error e, l'.calls) :=
  outcome_of_run (run_bind_error h)

theorem outcome_bind_ok {a : α} (h : x.run l = (.ok a, l')) :
    (x >>= f).outcome l = (f a).outcome l' := by
  rw [outcome, run_bind_ok h, outcome]

/-- What is made of the answer does not matter. -/
theorem outcome_bind_pure {g : α → β} : (x >>= fun a => pure (g a)).outcome l = x.outcome l := by
  rcases h : x.run l with ⟨e | a, l'⟩
  · rw [outcome_bind_error h, outcome_of_run h]
    rfl
  · rw [outcome_bind_ok h, outcome_of_run h]
    rfl

theorem outcome_discard : (discard x).outcome l = x.outcome l := by
  rw [outcome, run_discard, outcome]
  rcases x.run l with ⟨e | a, l'⟩ <;> rfl

end Mapping

/-! ## One conversion -/

namespace MappedField

variable {M : Type} {f : MappedField M} {m : M} {l l' : Ledger} {e : MappingError}

/-- Why a field of an object cannot be converted: it cannot be read, because its accessor fails or
holds no member that is known, its adapter refuses the value, or it is to be written by an identifier
that the member does not have. -/
inductive Fault (f : MappedField M) (m : M) (l : Ledger) : MappingError → Prop
  | accessor {e : MappingError} (hget : f.get m = .error e) : Fault f m l e
  | adapter {e : MappingError} {x : FieldValue} {a : Adapter} (hget : f.get m = .ok x)
      (hadapter : f.adapter = some a)
      (hserialize : a.serialize (l.history f.slot) (Column.adapterInput x) = .error e) :
      Fault f m l e
  | missingId {member : Member} (hget : f.get m = .ok (.member (some member)))
      (hadapter : f.adapter = none) (hencoding : f.effectiveEncoding = .id)
      (hid : member.declaration.id = none) :
      Fault f m l (.missingEnumId f.columnName member.enumeration.name member.name)

/-- Without adapter, only a member without identifier cannot be written. -/
theorem encode_eq_error_iff {c : Column} {x : FieldValue} :
    c.encode x = .error e ↔
      ∃ member : Member, x = .member (some member) ∧ c.effectiveEncoding = .id ∧
        member.declaration.id = none ∧
        e = .missingEnumId c.columnName member.enumeration.name member.name := by
  constructor
  · intro h
    unfold Column.encode at h
    split at h
    · rename_i member
      refine ⟨member, rfl, ?_⟩
      unfold Member.encode at h
      split at h
      · exact nomatch h
      · exact nomatch h
      · rename_i hencoding
        split at h
        · exact nomatch h
        · rename_i hid
          exact ⟨hencoding, hid, (Except.error.inj h).symm⟩
    · exact nomatch h
    · exact nomatch h
    · exact nomatch h
  · rintro ⟨member, rfl, hencoding, hid, rfl⟩
    simp only [Column.encode, Member.encode, hencoding, hid]

theorem run_storageValue_eq_error_iff :
    (∃ l', (f.storageValue m).run l = (.error e, l')) ↔ f.Fault m l e := by
  cases hget : f.get m with
  | error e' =>
    have hrun : (f.storageValue m).run l = (.error e', l) := by
      rw [storageValue, hget]
      rfl
    rw [hrun]
    constructor
    · rintro ⟨_, ⟨⟩⟩
      exact .accessor hget
    · rintro (hget' | ⟨hget', -, -⟩ | ⟨hget', -, -, -⟩)
      · cases hget.symm.trans hget'
        exact ⟨l, rfl⟩
      · cases hget.symm.trans hget'
      · cases hget.symm.trans hget'
  | ok x =>
    rw [run_storageValue hget, Column.toStorage]
    cases hadapter : f.adapter with
    | some a =>
      rw [Mapping.run_serialize]
      constructor
      · rintro ⟨_, hrun⟩
        exact .adapter hget hadapter (congrArg Prod.fst hrun)
      · rintro (hget' | ⟨hget', hadapter', hserialize⟩ | ⟨-, hadapter', -, -⟩)
        · cases hget.symm.trans hget'
        · cases hget.symm.trans hget'
          cases hadapter.symm.trans hadapter'
          exact ⟨_, by rw [hserialize]⟩
        · cases hadapter.symm.trans hadapter'
    | none =>
      rw [Mapping.run_ofExcept]
      constructor
      · rintro ⟨_, hrun⟩
        obtain ⟨member, rfl, hencoding, hid, rfl⟩ :=
          encode_eq_error_iff.mp (congrArg Prod.fst hrun)
        exact .missingId hget hadapter hencoding hid
      · rintro (hget' | ⟨-, hadapter', -⟩ | ⟨hget', -, hencoding, hid⟩)
        · cases hget.symm.trans hget'
        · cases hadapter.symm.trans hadapter'
        · cases hget.symm.trans hget'
          exact ⟨l, by rw [encode_eq_error_iff.mpr ⟨_, rfl, hencoding, hid, rfl⟩]⟩

/-- A conversion asks nothing of the ledger but what adapters have served. -/
theorem outcome_storageValue (h : l.calls = l'.calls) :
    (f.storageValue m).outcome l = (f.storageValue m).outcome l' := by
  cases hget : f.get m with
  | error e =>
    have hrun : ∀ l, (f.storageValue m).run l = (.error e, l) := by
      intro l
      rw [storageValue, hget]
      rfl
    rw [Mapping.outcome_of_run (hrun l), Mapping.outcome_of_run (hrun l'), h]
  | ok x =>
    have hhistory : l.history f.slot = l'.history f.slot := by
      rw [Ledger.history, h, Ledger.history]
    rw [Mapping.outcome, Mapping.outcome, run_storageValue hget, run_storageValue hget]
    unfold Column.toStorage
    cases f.adapter with
    | some a => simp only [Mapping.run_serialize, hhistory, Ledger.record, h]
    | none => simp only [Mapping.run_ofExcept, h]

end MappedField

/-! ## Conversions in a row -/

namespace TableDefinition

variable {M : Type} {m : M} {f : MappedField M} {fs gs : List (MappedField M)} {l l' : Ledger}
  {e : MappingError}

/-- Of the conversions of fields in a row, the first that cannot be made fails with `e`. -/
inductive FirstFault (m : M) : List (MappedField M) → Ledger → MappingError → Prop
  | here {f : MappedField M} {fs : List (MappedField M)} {l : Ledger} {e : MappingError}
      (h : f.Fault m l e) : FirstFault m (f :: fs) l e
  | later {f : MappedField M} {fs : List (MappedField M)} {l l' : Ledger} {e : MappingError}
      {v : Value} (h : (f.storageValue m).run l = (.ok v, l')) (hfs : FirstFault m fs l' e) :
      FirstFault m (f :: fs) l e

theorem run_storedValues_eq_error_iff :
    (∃ l', (storedValues m fs).run l = (.error e, l')) ↔ FirstFault m fs l e := by
  induction fs generalizing l with
  | nil =>
    constructor
    · rintro ⟨_, hrun⟩
      cases hrun
    · intro h
      cases h
  | cons f fs ih =>
    rcases hf : (f.storageValue m).run l with ⟨e' | v, l₁⟩
    · rw [storedValues, run_bind_error hf]
      have hfault := MappedField.run_storageValue_eq_error_iff.mp ⟨l₁, hf⟩
      constructor
      · rintro ⟨_, ⟨⟩⟩
        exact .here hfault
      · rintro (hfault' | ⟨hok, -⟩)
        · obtain ⟨l₂, hrun⟩ := MappedField.run_storageValue_eq_error_iff.mpr hfault'
          exact ⟨l₁, by rw [Except.error.inj (congrArg Prod.fst (hf.symm.trans hrun))]⟩
        · cases hf.symm.trans hok
    · rw [storedValues, run_bind_ok hf]
      constructor
      · rintro ⟨l₃, hrun⟩
        rcases hrest : (storedValues m fs).run l₁ with ⟨e' | fvs, l₂⟩
        · rw [run_bind_error hrest] at hrun
          cases hrun
          exact .later hf (ih.mp ⟨_, hrest⟩)
        · rw [run_bind_ok hrest] at hrun
          cases hrun
      · rintro (hfault | ⟨hok, hfs⟩)
        · obtain ⟨_, hrun⟩ := MappedField.run_storageValue_eq_error_iff.mpr hfault
          cases hf.symm.trans hrun
        · cases hf.symm.trans hok
          obtain ⟨l₂, hrest⟩ := ih.mpr hfs
          exact ⟨l₂, run_bind_error hrest⟩

/-- Where a field cannot be converted whatever adapters have served before, the row fails. -/
theorem exists_firstFault_of_mem (hf : f ∈ fs) (h : ∀ l, ∃ e, f.Fault m l e) (l : Ledger) :
    ∃ e, FirstFault m fs l e := by
  induction fs generalizing l with
  | nil => exact absurd hf List.not_mem_nil
  | cons g fs ih =>
    rcases hg : (g.storageValue m).run l with ⟨e | v, l₁⟩
    · exact ⟨e, .here (MappedField.run_storageValue_eq_error_iff.mp ⟨l₁, hg⟩)⟩
    · rcases List.mem_cons.mp hf with rfl | hf
      · obtain ⟨e, hfault⟩ := h l
        exact ⟨e, .here hfault⟩
      · obtain ⟨e, hfs⟩ := ih hf l₁
        exact ⟨e, .later hg hfs⟩

/-! ## Computations that convert fields -/

section Converts

variable {α β : Type} {x : Mapping α} {g : α → Mapping β}

/-- A computation comes down to the conversions of fields in a row: it fails where they do, and
otherwise adapters have served the same calls. -/
def Converts (m : M) (fs : List (MappedField M)) (x : Mapping α) : Prop :=
  ∀ l l', l.calls = l'.calls → x.outcome l = (storedValues m fs).outcome l'

theorem converts_pure (a : α) : Converts m [] (pure a : Mapping α) := by
  intro l l' hcalls
  rw [storedValues, Mapping.outcome_of_run (run_pure a), Mapping.outcome_of_run (run_pure _), hcalls]
  rfl

theorem storedValues_append (m : M) (fs gs : List (MappedField M)) :
    storedValues m (fs ++ gs) = do
      let fvs ← storedValues m fs
      let gvs ← storedValues m gs
      return fvs ++ gvs := by
  induction fs with
  | nil => simp [storedValues]
  | cons f fs ih => simp [storedValues, ih]

/-- A sequence comes down to the conversions of its parts. -/
theorem Converts.bind (hx : Converts m fs x) (hg : ∀ a, Converts m gs (g a)) :
    Converts m (fs ++ gs) (x >>= g) := by
  intro l l' hcalls
  have hfs := hx l l' hcalls
  rw [storedValues_append]
  rcases hrun : x.run l with ⟨e | a, l₁⟩
  · rcases hstored : (storedValues m fs).run l' with ⟨e' | fvs, l₁'⟩
    · rw [Mapping.outcome_of_run hrun, Mapping.outcome_of_run hstored] at hfs
      rw [Mapping.outcome_bind_error hrun, Mapping.outcome_bind_error hstored]
      exact hfs
    · rw [Mapping.outcome_of_run hrun, Mapping.outcome_of_run hstored] at hfs
      exact nomatch hfs
  · rcases hstored : (storedValues m fs).run l' with ⟨e' | fvs, l₁'⟩
    · rw [Mapping.outcome_of_run hrun, Mapping.outcome_of_run hstored] at hfs
      exact nomatch hfs
    · rw [Mapping.outcome_of_run hrun, Mapping.outcome_of_run hstored] at hfs
      rw [Mapping.outcome_bind_ok hrun, Mapping.outcome_bind_ok hstored, Mapping.outcome_bind_pure]
      exact hg a l₁ l₁' (congrArg Prod.snd hfs)

theorem Converts.bind_pure (hx : Converts m fs x) (g : α → β) :
    Converts m fs (x >>= fun a => pure (g a)) := by
  intro l l' hcalls
  rw [Mapping.outcome_bind_pure]
  exact hx l l' hcalls

theorem Converts.discard (hx : Converts m fs x) : Converts m fs (discard x) := by
  intro l l' hcalls
  rw [Mapping.outcome_discard]
  exact hx l l' hcalls

theorem converts_storageValue : Converts m [f] (f.storageValue m) := by
  intro l l' hcalls
  have hstored : storedValues m [f] = f.storageValue m >>= fun v => pure [(f, v)] := by
    simp [storedValues]
  rw [hstored, Mapping.outcome_bind_pure]
  exact MappedField.outcome_storageValue hcalls

theorem converts_storedValues : Converts m fs (storedValues m fs) := by
  induction fs with
  | nil => exact converts_pure _
  | cons f fs ih => exact converts_storageValue.bind fun v => ih.bind_pure _

/-- A computation that converts fields fails exactly where a conversion fails. -/
theorem Converts.run_eq_error_iff (hx : Converts m fs x) :
    (∃ l', x.run l = (.error e, l')) ↔ FirstFault m fs l e := by
  rw [← run_storedValues_eq_error_iff, Mapping.exists_run_eq_error_iff, hx l l rfl,
    ← Mapping.exists_run_eq_error_iff]

end Converts

/-! ## The statements -/

section Statements

variable {s : ModelSchema M} {build : Nat} {d : TableDefinition M} {dialect : Dialect}

/-- With a primary key nothing is refused. -/
theorem requireKey_bind {α : Type} (hkeyed : d.hasPrimaryKey = true) (operation : String)
    (x : Unit → Mapping α) : Mapping.ofExcept (d.requireKey operation) >>= x = x () := by
  rw [requireKey, if_pos hkeyed]
  rfl

theorem run_requireKey_bind_error {α : Type} (hkeyless : d.hasPrimaryKey = false)
    (operation : String) (x : Unit → Mapping α) (l : Ledger) :
    (Mapping.ofExcept (d.requireKey operation) >>= x).run l =
      (.error (.noPrimaryKey d.tableName operation), l) := by
  refine run_bind_error ?_
  rw [requireKey, hkeyless]
  rfl

theorem run_updateStatement_of_keyless (hkeyless : d.hasPrimaryKey = false) (m : M)
    (dialect : Dialect) (l : Ledger) :
    (d.updateStatement m dialect).run l = (.error (.noPrimaryKey d.tableName "update"), l) :=
  run_bind_error (run_requireKey_bind_error hkeyless "update" _ l)

theorem run_deleteStatement_of_keyless (hkeyless : d.hasPrimaryKey = false) (m : M)
    (dialect : Dialect) (l : Ledger) :
    (d.deleteStatement m dialect).run l = (.error (.noPrimaryKey d.tableName "delete"), l) :=
  run_bind_error (run_requireKey_bind_error hkeyless "delete" _ l)

theorem converts_keyConditions (hd : s.define build = .ok d) :
    Converts m d.keyFields (d.keyConditions m) := by
  intro l l' hcalls
  rw [keyConditions_eq hd, Mapping.outcome_bind_ok Mapping.run_nextAlias]
  exact converts_storedValues.bind_pure _ _ l' hcalls

theorem converts_insertFragments (d : TableDefinition M) (m : M) :
    Converts m d.fields (d.insertFragments m) :=
  (converts_storedValues.bind_pure _).bind_pure _

theorem converts_insertStatement (d : TableDefinition M) (m : M) (dialect : Dialect) :
    Converts m d.fields (d.insertStatement m dialect) :=
  (converts_insertFragments d m).bind_pure _

theorem converts_updateStatement (hd : s.define build = .ok d) (hkeyed : d.hasPrimaryKey = true) :
    Converts m (d.updatedFields ++ d.keyFields) (d.updateStatement m dialect) := by
  rw [updateStatement, updateFragments, requireKey_bind hkeyed]
  exact (converts_storedValues.bind fun fvs => (converts_keyConditions hd).bind_pure _).bind_pure _

theorem converts_deleteStatement (hd : s.define build = .ok d) (hkeyed : d.hasPrimaryKey = true) :
    Converts m d.keyFields (d.deleteStatement m dialect) := by
  rw [deleteStatement, deleteFragments, requireKey_bind hkeyed]
  exact ((converts_keyConditions hd).bind_pure _).bind_pure _

/-- The conversions of a merge.  Where it is emulated, the object is converted once more for each of
its three statements. -/
def mergedFields (d : TableDefinition M) (dialect : Dialect) : List (MappedField M) :=
  d.fields ++
    match dialect.mergeStrategy with
    | .emulated => d.keyFields ++ ((d.updatedFields ++ d.keyFields) ++ d.fields)
    | _ => []

theorem converts_mergePlan (hd : s.define build = .ok d) (hkeyed : d.hasPrimaryKey = true) :
    Converts m (d.mergedFields dialect) (d.mergePlan m dialect) := by
  rw [mergePlan, requireKey_bind hkeyed, mergedFields]
  refine converts_storedValues.bind fun fvs => ?_
  cases dialect.mergeStrategy with
  | emulated =>
    refine ((converts_keyConditions hd).bind_pure _).bind fun probe => ?_
    exact (converts_updateStatement hd hkeyed).bind fun update =>
      (converts_insertStatement d m dialect).bind_pure _
  | _ => exact converts_pure _

end Statements

end TableDefinition
end TableMapping
