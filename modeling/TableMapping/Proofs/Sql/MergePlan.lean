import TableMapping.Proofs.Sql.Writing

/-!
# The plan of a merge

A merge converts every field of an object, and an emulated merge makes three statements out of
them.  For an object that asks for no generated value the plan is made of its stored values.

* `TableDefinition.run_mergePlan_native`, `TableDefinition.run_mergePlan_emulated`: the plan of any
  object, by one statement and by three.
* `TableDefinition.passes_of_mergePlan`: an emulated merge is taken apart into its passes.
* `TableDefinition.run_mergePlan`: the plan consists of the statements of `Command` for these
  values.
* `TableDefinition.stands_shape`: the values are a row that stands as it is given.
* `TableDefinition.mem_otherColumns`, `TableDefinition.mem_updatedColumns`: what is to be updated
  covers all columns outside the key.
-/

namespace TableMapping
namespace TableDefinition

open Runs

variable {M : Type} {d : TableDefinition M} {m : M} {fvs : List (MappedField M × Value)}

/-- The statements that merge a row. -/
def planOf (d : TableDefinition M) (dialect : Dialect) (row : Assignments) : MergePlan :=
  match dialect.mergeStrategy with
  | .mergeKey => .native (d.statementOf dialect (.merge row d.primaryKey))
  | .insertOrReplace => .native (d.statementOf dialect (.insertOrReplace row))
  | .onDuplicateKeyUpdate =>
    .native (d.statementOf dialect (.insertOrUpdate row
      (if d.otherColumns.isEmpty then d.primaryKey else d.otherColumns)))
  | .onConflictDoUpdate =>
    .native (d.statementOf dialect (.insertOnConflict row d.primaryKey d.otherColumns))
  | .emulated =>
    .emulated (d.countOf dialect (row.picked d.primaryKey))
      (d.statementOf dialect (.update (row.picked d.updatedColumns) (row.picked d.primaryKey)))
      (d.statementOf dialect (.insert row))

theorem isGenerated_eq_false {f : MappedField M} {v : Value}
    (h : f.isAutoIncrement = true → ∃ x, v = .of x ∧ x.integer? ≠ some 0) :
    isGenerated f v = false := by
  rw [isGenerated, Bool.and_eq_false_iff]
  cases hauto : f.isAutoIncrement with
  | false => exact .inl rfl
  | true =>
    obtain ⟨x, rfl, hzero⟩ := h hauto
    refine .inr (Bool.or_eq_false_iff.mpr ⟨rfl, ?_⟩)
    exact beq_eq_false_iff_ne.mpr hzero

/-- An engine that has a statement for it merges by one statement. -/
theorem native_mergeRow (d : TableDefinition M) (fvs : List (MappedField M × Value))
    (dialect : Dialect) (hnative : dialect.mergeStrategy ≠ .emulated) :
    .native (dialect.statement (d.mergeRow dialect.mergeStrategy fvs)) =
      d.planOf dialect (assignments fvs) := by
  unfold planOf mergeRow
  cases hstrategy : dialect.mergeStrategy with
  | emulated => exact absurd hstrategy hnative
  | _ =>
    simp only [statementOf, Command.fragments, Command.rowFragments, columns_assignments,
      values_assignments]
    rfl

theorem run_mergePlan_native {dialect : Dialect} (hnative : dialect.mergeStrategy ≠ .emulated)
    (hkeyed : d.hasPrimaryKey = true) {l l' : Ledger}
    (hvalues : (storedValues m d.fields).run l = (.ok fvs, l')) :
    (d.mergePlan m dialect).run l = (.ok (d.planOf dialect (assignments fvs)), l') := by
  rw [mergePlan, run_bind_ok (run_requireKey hkeyed _ l), run_bind_ok hvalues,
    ← native_mergeRow d fvs dialect hnative]
  split
  · rename_i hemulated
    exact absurd hemulated hnative
  · rfl

/-- The passes of an emulated merge: all fields, the probe, the update and the insertion. -/
theorem passes_of_mergePlan {dialect : Dialect} (hemulated : dialect.mergeStrategy = .emulated)
    {plan : MergePlan} {l l' : Ledger} (h : (d.mergePlan m dialect).run l = (.ok plan, l')) :
    d.hasPrimaryKey = true ∧ ∃ fvs probe update insert l₁ l₂ l₃,
      plan = .emulated (dialect.statement probe) update insert ∧
      (storedValues m d.fields).run l = (.ok fvs, l₁) ∧
      (d.probeFragments m).run l₁ = (.ok probe, l₂) ∧
      (d.updateStatement m dialect).run l₂ = (.ok update, l₃) ∧
      (d.insertStatement m dialect).run l₃ = (.ok insert, l') := by
  rw [mergePlan, hemulated] at h
  obtain ⟨_, _, hrequire, hpasses⟩ := run_bind_eq_ok.mp h
  obtain ⟨hkeyed, rfl⟩ := of_run_requireKey hrequire
  obtain ⟨fvs, l₁, hvalues, h⟩ := run_bind_eq_ok.mp hpasses
  obtain ⟨probe, l₂, hprobe, h⟩ := run_bind_eq_ok.mp h
  obtain ⟨update, l₃, hupdate, h⟩ := run_bind_eq_ok.mp h
  obtain ⟨insert, l₄, hinsert, h⟩ := run_bind_eq_ok.mp h
  cases h
  exact ⟨hkeyed, fvs, probe, update, insert, l₁, l₂, l₃, rfl, hvalues, hprobe, hupdate, hinsert⟩

/-- An emulated merge makes its statements one after the other, the insertion at last. -/
theorem run_mergePlan_emulated {s : ModelSchema M} {build : Nat} (hd : s.define build = .ok d)
    (hstored : IsStored m d.fields fvs) (hkeyed : d.hasPrimaryKey = true) {dialect : Dialect}
    (hemulated : dialect.mergeStrategy = .emulated) (l : Ledger) :
    ∃ l', (d.mergePlan m dialect).run l =
      (.ok (.emulated (d.countOf dialect ((assignments fvs).picked d.primaryKey))
        (d.statementOf dialect (.update ((assignments fvs).picked d.updatedColumns)
          ((assignments fvs).picked d.primaryKey)))
        (d.statementOf dialect (.insert (assignments (given fvs))))), l') := by
  obtain ⟨l₁, hvalues⟩ := hstored.run_storedValues l
  obtain ⟨l₂, hconditions⟩ := run_keyConditions hd hstored l₁
  have hprobe : (d.probeFragments m).run l₁ =
      (.ok (Command.countFragments d.schemaName d.tableName
        ((assignments fvs).picked d.primaryKey)), l₂) := by
    rw [probeFragments, run_bind_ok hconditions]
    rfl
  obtain ⟨l₃, hupdate⟩ := run_updateStatement hd hstored dialect hkeyed l₂
  obtain ⟨l₄, hinsert⟩ := run_insertStatement hstored dialect l₃
  rw [mergePlan, run_bind_ok (run_requireKey hkeyed _ l), run_bind_ok hvalues, hemulated]
  simp only
  rw [run_bind_ok hprobe, run_bind_ok hupdate, run_bind_ok hinsert]
  exact ⟨l₄, rfl⟩

theorem run_mergePlan {s : ModelSchema M} {build : Nat} (hd : s.define build = .ok d)
    (hstored : IsStored m d.fields fvs) (hkeyed : d.hasPrimaryKey = true)
    (hgiven : ∀ fv ∈ fvs, isGenerated fv.1 fv.2 = false) (dialect : Dialect) (l : Ledger) :
    ∃ l', (d.mergePlan m dialect).run l = (.ok (d.planOf dialect (assignments fvs)), l') := by
  by_cases hstrategy : dialect.mergeStrategy = .emulated
  · obtain ⟨l', hplan⟩ := run_mergePlan_emulated hd hstored hkeyed hstrategy l
    have hall : given fvs = fvs := by
      refine List.filter_eq_self.mpr fun fv hfv => ?_
      rw [hgiven fv hfv]
      rfl
    rw [hall] at hplan
    rw [planOf, hstrategy]
    exact ⟨l', hplan⟩
  · obtain ⟨l', hvalues⟩ := hstored.run_storedValues l
    exact ⟨l', run_mergePlan_native hstrategy hkeyed hvalues⟩

/-! ## The row of an object -/

/-- What an engine knows of the table of a definition. -/
def shape (d : TableDefinition M) : TableShape where
  columns := d.fields.map fun f => f.columnName
  key := d.primaryKey
  generated := (d.fields.filter fun f => f.isAutoIncrement).map fun f => f.columnName

theorem exists_mem_of_mem_fields (hfields : fvs.map (·.1) = d.fields) {f : MappedField M}
    (hf : f ∈ d.fields) : ∃ v, (f, v) ∈ fvs := by
  rw [← hfields] at hf
  obtain ⟨⟨g, v⟩, hgv, rfl⟩ := List.mem_map.mp hf
  exact ⟨v, hgv⟩

theorem mem_assignments {fv : MappedField M × Value} (h : fv ∈ fvs) :
    (fv.1.columnName, fv.2) ∈ assignments fvs :=
  List.mem_map_of_mem h

/-- The values of an object whose key is not NULL, and that asks for no generated value, are a row
that stands as it is given. -/
theorem stands_shape {s : ModelSchema M} {build : Nat} (hd : s.define build = .ok d)
    (hfields : fvs.map (·.1) = d.fields)
    (hkey : ∀ fv ∈ fvs, fv.1.isPrimaryKey = true → ∃ x, fv.2 = .of x)
    (hgenerated : ∀ fv ∈ fvs, fv.1.isAutoIncrement = true →
      ∃ x, fv.2 = .of x ∧ x.integer? ≠ some 0) :
    d.shape.Stands (assignments fvs) := by
  have hcolumns : (assignments fvs).columns = d.shape.columns := columns_of_fields hfields
  refine ⟨fun c => by rw [hcolumns], ?_, fun c hc => ?_, fun c hc => ?_⟩
  · rw [hcolumns]
    exact (ModelSchema.placed_of_define hd).nodup_columnNames
  · obtain ⟨f, hf, hprimary, rfl⟩ := (ModelSchema.mem_primaryKey_iff hd).mp hc
    obtain ⟨v, hfv⟩ := exists_mem_of_mem_fields hfields hf
    obtain ⟨x, hx⟩ := hkey _ hfv hprimary
    cases hx
    exact ⟨x, mem_assignments hfv⟩
  · obtain ⟨f, hf, rfl⟩ := List.mem_map.mp hc
    obtain ⟨hf, hauto⟩ := List.mem_filter.mp hf
    obtain ⟨v, hfv⟩ := exists_mem_of_mem_fields hfields hf
    obtain ⟨x, hx, hzero⟩ := hgenerated _ hfv hauto
    cases hx
    exact ⟨x, mem_assignments hfv, hzero⟩

/-- The columns outside the key are among those that are set. -/
theorem mem_otherColumns {s : ModelSchema M} {build : Nat} (hd : s.define build = .ok d)
    {c : String} (hc : c ∈ d.shape.columns) (hkey : c ∉ d.shape.key) : c ∈ d.otherColumns := by
  obtain ⟨f, hf, rfl⟩ := List.mem_map.mp hc
  rw [otherColumns, otherFields, columnName_mem_map_filter hd _ hf, Bool.not_eq_true']
  refine Bool.eq_false_iff.mpr fun hprimary => hkey ?_
  exact (ModelSchema.mem_primaryKey_iff hd).mpr ⟨f, hf, hprimary, rfl⟩

theorem mem_updatedColumns {s : ModelSchema M} {build : Nat} (hd : s.define build = .ok d)
    {c : String} (hc : c ∈ d.shape.columns) (hkey : c ∉ d.shape.key) : c ∈ d.updatedColumns := by
  have hother := mem_otherColumns hd hc hkey
  obtain ⟨f, hf, -⟩ := List.mem_map.mp hother
  have hsome : d.otherFields.isEmpty = false := by
    rw [List.isEmpty_eq_false_iff]
    exact List.ne_nil_of_mem hf
  rw [updatedColumns, updatedFields, hsome]
  exact hother

end TableDefinition
end TableMapping
