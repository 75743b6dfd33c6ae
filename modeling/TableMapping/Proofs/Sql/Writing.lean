import TableMapping.Proofs.Model.Definition
import TableMapping.Proofs.Model.RoundTrip
import TableMapping.Proofs.Sql.Command

/-!
# The statements that write an object

A statement converts the fields of an object that it needs, some of them more than once.  Where
adapters answer to the value alone, all conversions of a field give one value, and a statement is
the one of `Command` for these values.

* `MappedField.Stores`: whatever was converted before, a field is stored as a value.
* `TableDefinition.IsStored`: the values of fields of an object.
* `TableDefinition.run_insertStatement`, `TableDefinition.run_updateStatement`: the statements of an
  object are those of its values.
* `TableDefinition.run_keyConditions`: and so are the conditions that find its row.
-/

namespace TableMapping

open Runs

/-- An adapter writes a value in one way, whatever it has served before. -/
def Adapter.IsSteady (a : Adapter) : Prop :=
  ∀ h h' v, a.serialize h v = a.serialize h' v

namespace MappedField

variable {M : Type} {f : MappedField M} {m : M} {v : Value} {l l' : Ledger}

/-- Whatever was converted before, the field of an object is stored as a value. -/
def Stores (f : MappedField M) (m : M) (v : Value) : Prop :=
  ∀ l, ∃ l', (f.storageValue m).run l = (.ok v, l')

theorem stores_of_run (hsteady : ∀ a, f.adapter = some a → a.IsSteady)
    (h : (f.storageValue m).run l = (.ok v, l')) : f.Stores m v := by
  intro l₂
  obtain ⟨x, hget, hstore⟩ := get_of_run_storageValue h
  rw [run_storageValue hget]
  rw [Column.toStorage] at hstore ⊢
  cases hadapter : f.adapter with
  | none =>
    rw [hadapter] at hstore
    cases hencode : f.encode x with
    | error e =>
      rw [hencode] at hstore
      exact nomatch congrArg Prod.fst hstore
    | ok w =>
      rw [hencode] at hstore
      cases hstore
      exact ⟨l₂, rfl⟩
  | some a =>
    rw [hadapter] at hstore
    simp only [Mapping.run_serialize] at hstore ⊢
    -- The ledgers differ in what the adapter has served; a steady adapter does not ask.
    obtain ⟨hanswer, -⟩ := Prod.mk.inj hstore
    rw [hsteady a hadapter _ (l.history f.slot), hanswer]
    exact ⟨_, rfl⟩

end MappedField

namespace TableDefinition

variable {M : Type} {d : TableDefinition M} {m : M} {fs : List (MappedField M)}
  {fvs : List (MappedField M × Value)} {l l' : Ledger}

/-! ## The values of an object -/

/-- Fields with the values that an object is stored with. -/
structure IsStored (m : M) (fs : List (MappedField M)) (fvs : List (MappedField M × Value)) :
    Prop where
  fields : fvs.map (·.1) = fs
  stores : ∀ fv ∈ fvs, fv.1.Stores m fv.2

/-- What is assigned to the columns of fields. -/
def assignments (fvs : List (MappedField M × Value)) : Assignments :=
  fvs.map fun fv => (fv.1.columnName, fv.2)

@[simp] theorem columns_assignments (fvs : List (MappedField M × Value)) :
    (assignments fvs).columns = columnsOf fvs :=
  List.map_map

theorem columns_of_fields (hfields : fvs.map (·.1) = fs) :
    (assignments fvs).columns = fs.map fun f => f.columnName := by
  rw [columns_assignments, columnsOf, ← hfields, List.map_map]
  rfl

@[simp] theorem values_assignments (fvs : List (MappedField M × Value)) :
    (assignments fvs).map (·.2) = fvs.map (·.2) :=
  List.map_map

theorem fields_of_storedValues (h : (storedValues m fs).run l = (.ok fvs, l')) :
    fvs.map (·.1) = fs := by
  induction fs generalizing fvs l with
  | nil =>
    cases h
    rfl
  | cons f fs ih =>
    obtain ⟨v, l₁, -, h⟩ := run_bind_eq_ok.mp h
    obtain ⟨rest, l₂, hrest, h⟩ := run_bind_eq_ok.mp h
    cases h
    rw [List.map_cons, ih hrest]

theorem isStored_of_run (hsteady : ∀ f ∈ fs, ∀ a, f.adapter = some a → a.IsSteady)
    (h : (storedValues m fs).run l = (.ok fvs, l')) : IsStored m fs fvs := by
  induction fs generalizing fvs l with
  | nil =>
    cases h
    exact ⟨rfl, List.forall_mem_nil _⟩
  | cons f fs ih =>
    obtain ⟨v, _, hv, h⟩ := run_bind_eq_ok.mp h
    obtain ⟨rest, _, hrest, h⟩ := run_bind_eq_ok.mp h
    cases h
    obtain ⟨hf, hfs⟩ := List.forall_mem_cons.mp hsteady
    obtain ⟨rfl, hstores⟩ := ih hfs hrest
    exact ⟨rfl, List.forall_mem_cons.mpr ⟨MappedField.stores_of_run hf hv, hstores⟩⟩

theorem IsStored.filter (h : IsStored m fs fvs) (p : MappedField M → Bool) :
    IsStored m (fs.filter p) (fvs.filter fun fv => p fv.1) where
  fields := by
    rw [← h.fields, List.filter_map]
    rfl
  stores fv hfv := h.stores fv (List.mem_filter.mp hfv).1

theorem IsStored.run_storedValues (h : IsStored m fs fvs) (l : Ledger) :
    ∃ l', (storedValues m fs).run l = (.ok fvs, l') := by
  induction fvs generalizing fs l with
  | nil =>
    rw [← h.fields]
    exact ⟨l, rfl⟩
  | cons fv fvs ih =>
    obtain ⟨rfl, hstores⟩ := h
    obtain ⟨hfv, hfvs⟩ := List.forall_mem_cons.mp hstores
    obtain ⟨l₁, hv⟩ := hfv l
    obtain ⟨l₂, hrest⟩ := ih ⟨rfl, hfvs⟩ l₁
    rw [List.map_cons, storedValues, run_bind_ok hv, run_bind_ok hrest]
    exact ⟨l₂, rfl⟩

/-- The handles of fields lead back to them, so the values found through them are those of the
fields. -/
theorem keyValues_eq {a : Alias M} (hresolve : ∀ f ∈ fs, a.resolve (a.handleOf f) = .ok f) :
    keyValues a m fs = storedValues m fs >>= fun fvs => pure (assignments fvs) := by
  induction fs with
  | nil => rfl
  | cons f fs ih =>
    obtain ⟨hf, hfs⟩ := List.forall_mem_cons.mp hresolve
    rw [keyValues, storedValues, hf, Mapping.ofExcept_ok_bind, ih hfs]
    simp only [bind_assoc, pure_bind]
    rfl

/-! ## Statements -/

/-- The columns that are not in the primary key. -/
def otherColumns (d : TableDefinition M) : List String :=
  d.otherFields.map fun f => f.columnName

/-- The columns that an update sets. -/
def updatedColumns (d : TableDefinition M) : List String :=
  d.updatedFields.map fun f => f.columnName

/-- A statement on the table of a definition. -/
def statementOf (d : TableDefinition M) (dialect : Dialect) (c : Command) : Statement :=
  dialect.statement (c.fragments d.schemaName d.tableName)

/-- The question how many rows of the table meet conditions. -/
def countOf (d : TableDefinition M) (dialect : Dialect) (conditions : Assignments) : Statement :=
  dialect.statement (Command.countFragments d.schemaName d.tableName conditions)

theorem run_requireKey (hkeyed : d.hasPrimaryKey = true) (operation : String) (l : Ledger) :
    (Mapping.ofExcept (d.requireKey operation)).run l = (.ok (), l) := by
  rw [requireKey, if_pos hkeyed, Mapping.run_ofExcept]

/-- What is not refused has a primary key, and nothing has happened before. -/
theorem of_run_requireKey {operation : String} {u : Unit}
    (h : (Mapping.ofExcept (d.requireKey operation)).run l = (.ok u, l')) :
    d.hasPrimaryKey = true ∧ l' = l := by
  rw [Mapping.run_ofExcept, requireKey] at h
  obtain ⟨hanswer, rfl⟩ := Prod.mk.inj h
  split at hanswer
  · rename_i hkeyed
    exact ⟨hkeyed, rfl⟩
  · cases hanswer

section Defined

variable {s : ModelSchema M} {build : Nat}

/-- A column belongs to one field, so a property of fields is one of columns. -/
theorem columnName_mem_map_filter (hd : s.define build = .ok d) (p : MappedField M → Bool)
    {f : MappedField M} (hf : f ∈ d.fields) :
    f.columnName ∈ (d.fields.filter p).map (fun g => g.columnName) ↔ p f = true := by
  constructor
  · intro hmem
    obtain ⟨g, hg, hname⟩ := List.mem_map.mp hmem
    obtain ⟨hg, hp⟩ := List.mem_filter.mp hg
    have hsame : Text.sameName g.columnName f.columnName = true := by
      rw [hname, Text.sameName_self]
    rwa [← (ModelSchema.placed_of_define hd).eq_of_sameName hg hf hsame]
  · intro hp
    exact List.mem_map_of_mem (List.mem_filter.mpr ⟨hf, hp⟩)

theorem mem_primaryKey (hd : s.define build = .ok d) {c : String} :
    c ∈ d.primaryKey ↔ c ∈ d.keyFields.map fun f => f.columnName := by
  rw [ModelSchema.mem_primaryKey_iff hd, keyFields, List.mem_map]
  constructor
  · rintro ⟨f, hf, hprimary, rfl⟩
    exact ⟨f, List.mem_filter.mpr ⟨hf, hprimary⟩, rfl⟩
  · rintro ⟨f, hf, rfl⟩
    obtain ⟨hf, hprimary⟩ := List.mem_filter.mp hf
    exact ⟨f, hf, hprimary, rfl⟩

theorem picked_assignments (hd : s.define build = .ok d) (hfields : fvs.map (·.1) = d.fields)
    (p : MappedField M → Bool) {columns : List String}
    (hcolumns : ∀ c, c ∈ columns ↔ c ∈ (d.fields.filter p).map fun g => g.columnName) :
    (assignments fvs).picked columns = assignments (fvs.filter fun fv => p fv.1) := by
  rw [Assignments.picked, assignments, List.filter_map, assignments]
  congr 1
  refine List.filter_congr fun fv hfv => ?_
  have hf : fv.1 ∈ d.fields := by
    rw [← hfields]
    exact List.mem_map_of_mem hfv
  rw [Bool.eq_iff_iff, ← columnName_mem_map_filter hd p hf, ← hcolumns]
  exact decide_eq_true_iff

theorem updatedFields_eq_filter (d : TableDefinition M) :
    ∃ p : MappedField M → Bool, d.updatedFields = d.fields.filter p := by
  rw [updatedFields]
  split
  · exact ⟨fun f => f.isPrimaryKey, rfl⟩
  · exact ⟨fun f => !f.isPrimaryKey, rfl⟩

/-- The conditions that find the row of an object are those of its key values, behind the number of
a fresh alias. -/
theorem keyConditions_eq (hd : s.define build = .ok d) (m : M) :
    d.keyConditions m = do
      let _ ← Mapping.nextAlias
      let fvs ← storedValues m d.keyFields
      return equalities (assignments fvs) := by
  have hkeys : ∀ number : UInt64, keyValues ⟨number, d⟩ m d.keyFields =
      storedValues m d.keyFields >>= fun fvs => pure (assignments fvs) :=
    fun _ => keyValues_eq fun f hf =>
      ModelSchema.resolve_handleOf hd (List.mem_filter.mp hf).1 rfl
  simp only [keyConditions, Alias.materialize, bind_assoc, pure_bind, hkeys]

variable (hd : s.define build = .ok d) (hstored : IsStored m d.fields fvs)

include hd hstored

theorem run_keyConditions (l : Ledger) :
    ∃ l', (d.keyConditions m).run l =
      (.ok (equalities ((assignments fvs).picked d.primaryKey)), l') := by
  obtain ⟨l', hvalues⟩ := (hstored.filter fun f => f.isPrimaryKey).run_storedValues
    { l with nextAlias := l.nextAlias + 1 }
  rw [picked_assignments hd hstored.fields (fun f => f.isPrimaryKey) fun c => mem_primaryKey hd,
    keyConditions_eq hd, run_bind_ok Mapping.run_nextAlias, keyFields, run_bind_ok hvalues]
  exact ⟨l', rfl⟩

theorem run_updateStatement (dialect : Dialect) (hkeyed : d.hasPrimaryKey = true) (l : Ledger) :
    ∃ l', (d.updateStatement m dialect).run l =
      (.ok (d.statementOf dialect (.update ((assignments fvs).picked d.updatedColumns)
        ((assignments fvs).picked d.primaryKey))), l') := by
  have hrequire := run_requireKey hkeyed "update" l
  obtain ⟨p, hp⟩ := updatedFields_eq_filter d
  have hupdated : (assignments fvs).picked d.updatedColumns =
      assignments (fvs.filter fun fv => p fv.1) :=
    picked_assignments hd hstored.fields p fun c => by rw [updatedColumns, hp]
  obtain ⟨l₁, hvalues⟩ := (hstored.filter p).run_storedValues l
  obtain ⟨l₂, hconditions⟩ := run_keyConditions hd hstored l₁
  have hfragments : (d.updateFragments m).run l =
      (.ok (Command.fragments d.schemaName d.tableName
        (.update ((assignments fvs).picked d.updatedColumns)
          ((assignments fvs).picked d.primaryKey))), l₂) := by
    have hset : (assignments (fvs.filter fun fv => p fv.1)).map (fun cell =>
        [Fragment.column cell.1, .text " = ", .param cell.2]) =
          (fvs.filter fun fv => p fv.1).map fun fv =>
            [Fragment.column fv.1.columnName, .text " = ", .param fv.2] := List.map_map
    rw [hupdated, updateFragments, run_bind_ok hrequire, hp, run_bind_ok hvalues,
      run_bind_ok hconditions, Command.fragments, hset, run_pure]
  rw [updateStatement, run_bind_ok hfragments]
  exact ⟨l₂, rfl⟩

end Defined

/-- The values that an insertion lists; the others are left to the engine. -/
def given (fvs : List (MappedField M × Value)) : List (MappedField M × Value) :=
  fvs.filter fun fv => !isGenerated fv.1 fv.2

/-- An insertion leaves out what the engine is to generate. -/
theorem run_insertStatement_of_error {e : MappingError}
    (h : (storedValues m d.fields).run l = (.error e, l')) (dialect : Dialect) :
    (d.insertStatement m dialect).run l = (.error e, l') := by
  have hinserted : (d.insertedValues m).run l = (.error e, l') := run_bind_error h
  have hfragments : (d.insertFragments m).run l = (.error e, l') := run_bind_error hinserted
  exact run_bind_error hfragments

theorem run_insertStatement_of_values (hvalues : (storedValues m d.fields).run l = (.ok fvs, l'))
    (dialect : Dialect) :
    (d.insertStatement m dialect).run l =
      (.ok (d.statementOf dialect (.insert (assignments (given fvs)))), l') := by
  have hinserted : (d.insertedValues m).run l = (.ok (given fvs), l') := by
    rw [insertedValues, run_bind_ok hvalues]
    rfl
  have hfragments : (d.insertFragments m).run l =
      (.ok (d.insertRow "INSERT INTO" (given fvs)), l') := by
    rw [insertFragments, run_bind_ok hinserted, run_pure]
  have hrow : d.insertRow "INSERT INTO" (given fvs) =
      Command.fragments d.schemaName d.tableName (.insert (assignments (given fvs))) := by
    rw [Command.fragments, Command.rowFragments, columns_assignments, values_assignments]
    rfl
  rw [insertStatement, run_bind_ok hfragments, hrow]
  rfl

theorem run_insertStatement (hstored : IsStored m d.fields fvs) (dialect : Dialect) (l : Ledger) :
    ∃ l', (d.insertStatement m dialect).run l =
      (.ok (d.statementOf dialect (.insert (assignments (given fvs)))), l') := by
  obtain ⟨l', hvalues⟩ := hstored.run_storedValues l
  exact ⟨l', run_insertStatement_of_values hvalues dialect⟩

end TableDefinition
end TableMapping
