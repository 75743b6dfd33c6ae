import TableMapping.Proofs.Session.Merge

/-!
# The row of a new object

An insertion and a merge each convert the fields of an object on their own.  An insertion leaves out
the columns whose values the engine is to generate.  A merge that counts first ends with that
insertion, while a merge by one statement gives all values, also those that stand for a value to be
generated.

* `TableDefinition.mem_columns_given`: what an insertion lists.
* `TableDefinition.NewRow`: what both make of an object, and when it is the same.
* `TableDefinition.newRow_of_values`: this holds for every object whose fields can be converted, and
  for the others both fail alike.
-/

namespace TableMapping
namespace TableDefinition

open Runs

variable {M : Type} {s : ModelSchema M} {build : Nat} {d : TableDefinition M} {m : M}
  {dialect : Dialect} {fs : List (MappedField M)} {fvs : List (MappedField M × Value)}
  {l l' : Ledger}

/-! ## Given values -/

/-- A column is missing in an insertion exactly when its value is to be generated. -/
theorem mem_columns_given (hd : s.define build = .ok d) (hfields : fvs.map (·.1) = d.fields)
    {fv : MappedField M × Value} (hfv : fv ∈ fvs) :
    fv.1.columnName ∈ (assignments (given fvs)).columns ↔ isGenerated fv.1 fv.2 = false := by
  have hnodup : (columnsOf fvs).Nodup := by
    rw [← columns_assignments, columns_of_fields hfields]
    exact (ModelSchema.placed_of_define hd).nodup_columnNames
  rw [columns_assignments, columnsOf, List.mem_map]
  constructor
  · rintro ⟨gv, hgv, hname⟩
    obtain ⟨hgv, hgiven⟩ := List.mem_filter.mp hgv
    have hsame : gv = fv := List.inj_on_of_nodup_map hnodup hgv hfv hname
    rw [hsame, Bool.not_eq_true'] at hgiven
    exact hgiven
  · intro hgiven
    refine ⟨fv, List.mem_filter.mpr ⟨hfv, ?_⟩, rfl⟩
    rw [hgiven]
    rfl

/-- An insertion lists all values exactly when none is to be generated. -/
theorem assignments_given_eq_iff :
    assignments (given fvs) = assignments fvs ↔ ∀ fv ∈ fvs, isGenerated fv.1 fv.2 = false := by
  constructor
  · intro heq fv hfv
    have hlength : (given fvs).length = fvs.length := by
      have hcells := congrArg List.length heq
      rwa [assignments, assignments, List.length_map, List.length_map] at hcells
    have hgiven := List.length_filter_eq_length_iff.mp hlength fv hfv
    rwa [Bool.not_eq_true'] at hgiven
  · intro hgiven
    have hall : given fvs = fvs := by
      refine List.filter_eq_self.mpr fun fv hfv => ?_
      rw [hgiven fv hfv]
      rfl
    rw [hall]

/-! ## Insertion and merge -/

theorem run_mergePlan_of_error {e : MappingError} (hkeyed : d.hasPrimaryKey = true)
    (h : (storedValues m d.fields).run l = (.error e, l')) (dialect : Dialect) :
    (d.mergePlan m dialect).run l = (.error e, l') := by
  rw [mergePlan, run_bind_ok (run_requireKey hkeyed "merge" l)]
  exact run_bind_error h

/-- An emulated merge ends with the insertion of the object. -/
theorem insert_of_mergePlan (hemulated : dialect.mergeStrategy = .emulated) {plan : MergePlan}
    (h : (d.mergePlan m dialect).run l = (.ok plan, l')) :
    ∃ probe update insert l₁, plan = .emulated probe update insert ∧
      (d.insertStatement m dialect).run l₁ = (.ok insert, l') := by
  obtain ⟨-, fvs, probe, update, insert, l₁, l₂, l₃, rfl, -, -, -, hinsert⟩ :=
    passes_of_mergePlan hemulated h
  exact ⟨_, update, insert, l₃, rfl, hinsert⟩

/-- What an insertion and a merge make of an object that has these values. -/
structure NewRow (d : TableDefinition M) (m : M) (dialect : Dialect) (l l' : Ledger)
    (fvs : List (MappedField M × Value)) : Prop where
  insert : (d.insertStatement m dialect).run l =
    (.ok (d.statementOf dialect (.insert (assignments (given fvs)))), l')
  missing : ∀ fv ∈ fvs,
    fv.1.columnName ∈ (assignments (given fvs)).columns ↔ isGenerated fv.1 fv.2 = false
  /-- A merge by one statement gives a value to every column. -/
  native : dialect.mergeStrategy ≠ .emulated →
    (d.mergePlan m dialect).run l = (.ok (d.planOf dialect (assignments fvs)), l')
  listed : (assignments fvs).columns = d.fields.map fun f => f.columnName
  same : assignments (given fvs) = assignments fvs ↔ ∀ fv ∈ fvs, isGenerated fv.1 fv.2 = false
  /-- An emulated merge converts the fields again, at last as an insertion does. -/
  emulated : dialect.mergeStrategy = .emulated → ∀ plan l₁,
    (d.mergePlan m dialect).run l = (.ok plan, l₁) →
      ∃ probe update insert l₂, plan = .emulated probe update insert ∧
        (d.insertStatement m dialect).run l₂ = (.ok insert, l₁)
  steady : dialect.mergeStrategy = .emulated →
    (∀ f ∈ d.fields, ∀ a, f.adapter = some a → a.IsSteady) →
      ∃ probe update l₁, (d.mergePlan m dialect).run l =
        (.ok (.emulated probe update
          (d.statementOf dialect (.insert (assignments (given fvs))))), l₁)

/-- Insertion and merge fail alike on an object that has no values.  Of an object that has, an
emulated merge inserts the row of its insertion, and any other merge does so exactly when no value
is to be generated. -/
theorem newRow_of_values (hd : s.define build = .ok d) (hkeyed : d.hasPrimaryKey = true) (m : M)
    (dialect : Dialect) (l : Ledger) :
    (∀ e l', (storedValues m d.fields).run l = (.error e, l') →
      (d.insertStatement m dialect).run l = (.error e, l') ∧
        (d.mergePlan m dialect).run l = (.error e, l')) ∧
      ∀ fvs l', (storedValues m d.fields).run l = (.ok fvs, l') → d.NewRow m dialect l l' fvs := by
  constructor
  · intro e l' herror
    exact ⟨run_insertStatement_of_error herror dialect,
      run_mergePlan_of_error hkeyed herror dialect⟩
  · intro fvs l' hvalues
    have hfields := fields_of_storedValues hvalues
    exact {
      insert := run_insertStatement_of_values hvalues dialect
      missing := fun fv hfv => mem_columns_given hd hfields hfv
      native := fun hnative => run_mergePlan_native hnative hkeyed hvalues
      listed := columns_of_fields hfields
      same := assignments_given_eq_iff
      emulated := fun hemulated plan l₁ hplan => insert_of_mergePlan hemulated hplan
      steady := fun hemulated hsteady => by
        have hstored := isStored_of_run hsteady hvalues
        obtain ⟨l₁, hplan⟩ := run_mergePlan_emulated hd hstored hkeyed hemulated l
        exact ⟨_, _, l₁, hplan⟩ }

end TableDefinition

/-! ### A visit without a number -/

namespace Session

open TableDefinition

theorem newRow_visit :
    visitSchema.define 0 = .ok visitDefinition ∧
      ∃ l', visitDefinition.NewRow ⟨0, "home"⟩ .postgres .start l'
        [(visitColumn visitId "BIGINT" 0 true, .of (.bigInt 0)),
          (visitColumn visitPage "TEXT" 1 false, .text "home")] := by
  have hvalues : ∃ l', (storedValues (⟨0, "home"⟩ : Visit) visitDefinition.fields).run .start =
      (.ok [(visitColumn visitId "BIGINT" 0 true, .of (.bigInt 0)),
        (visitColumn visitPage "TEXT" 1 false, .text "home")], l') := ⟨_, rfl⟩
  obtain ⟨l', hvalues⟩ := hvalues
  obtain ⟨-, hrow⟩ :=
    newRow_of_values define_visitSchema rfl (⟨0, "home"⟩ : Visit) .postgres .start
  exact ⟨define_visitSchema, l', hrow _ l' hvalues⟩

/-- Where the insertion leaves the number of a visit to the engine, the merge stores zero. -/
theorem mergePlan_zero_visit :
    visitSchema.define 0 = .ok visitDefinition ∧ ∃ insert merge l₁ l₂,
      (visitDefinition.insertStatement ⟨0, "home"⟩ .postgres).run .start = (.ok insert, l₁) ∧
      (visitDefinition.mergePlan ⟨0, "home"⟩ .postgres).run .start = (.ok (.native merge), l₂) ∧
      insert.sql = "INSERT INTO \"Visit\" (\"page\") VALUES($1)" ∧
      insert.params = [.text "home"] ∧
      merge.sql = "INSERT INTO \"Visit\" (\"id\", \"page\") VALUES($1, $2) " ++
        "ON CONFLICT(\"id\") DO UPDATE SET \"page\" = EXCLUDED.\"page\"" ∧
      merge.params = [.of (.bigInt 0), .text "home"] :=
  ⟨define_visitSchema, _, _, _, _, rfl, rfl, by decide +kernel, rfl, by decide +kernel, rfl⟩

end Session
end TableMapping
