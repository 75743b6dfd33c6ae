import TableMapping.Proofs.Sql.WriteByKey

/-!
# Inserting the row of an object

An insertion converts every field of an object once.  The values it finds decide which columns are
listed, and the list of values comes from the same pass, so that each column has its own value in
the same place.

* `TableDefinition.values_of_insertStatement`: an insertion comes from one pass over the fields.
* `TableDefinition.isGenerated_iff`: what is left to the engine.
* `TableDefinition.insertsRow_of_define`: text, values, calls and failures of an insertion.
-/

namespace TableMapping

/-- A field that has a value makes its adapter serve one call. -/
theorem MappedField.exists_turn_eq {M : Type} {f : MappedField M} {m : M} {v : Value}
    {served : List AdapterCall} (hvalue : f.valueAt m served = .ok v)
    (hadapter : f.adapter.isSome = true) :
    ∃ x, f.turn m served = .serialize x :: served := by
  obtain ⟨a, ha⟩ := Option.isSome_iff_exists.mp hadapter
  obtain ⟨x, hget, -⟩ := Runs.bind_eq_ok.mp hvalue
  refine ⟨Column.adapterInput x, ?_⟩
  rw [turn, request?, ha, hget]
  rfl

namespace TableDefinition

open Runs

variable {M : Type} {s : ModelSchema M} {build : Nat} {d : TableDefinition M} {m : M}
  {dialect : Dialect} {st : Statement} {l l' : Ledger}

/-- A statement that inserts comes from the values of all fields. -/
theorem values_of_insertStatement (hd : s.define build = .ok d)
    (h : (d.insertStatement m dialect).run l = (.ok st, l')) :
    ∃ fvs, ValuesAt m l.served d.fields fvs ∧
      st = d.statementOf dialect (.insert (assignments (given fvs))) ∧
      l' = l.serve (MappedField.calls m d.fields) := by
  rcases hrun : (storedValues m d.fields).run l with ⟨e | fvs, l₁⟩
  · cases h.symm.trans (run_insertStatement_of_error hrun dialect)
  · cases h.symm.trans (run_insertStatement_of_values hrun dialect)
    obtain ⟨hvalues, rfl⟩ := (run_storedValues_eq_ok_iff (ModelSchema.nodup_slots hd)).mp hrun
    exact ⟨fvs, hvalues, rfl, rfl⟩

theorem statementOf_insert (d : TableDefinition M) (dialect : Dialect)
    (listed : List (MappedField M × Value)) :
    d.statementOf dialect (.insert (assignments listed)) =
      ⟨"INSERT INTO " ++ dialect.qualified d.schemaName d.tableName ++ " (" ++
        dialect.columnList (columnsOf listed) ++ ") VALUES(" ++
        dialect.valueList 0 listed.length ++ ")", listed.map (·.2)⟩ := by
  rw [statementOf, Dialect.statement_insert, columns_assignments, values_assignments, assignments,
    List.length_map]

/-- The engine is to generate the values of auto-increment columns that are NULL or zero. -/
theorem isGenerated_iff {f : MappedField M} {v : Value} : isGenerated f v = true ↔
    f.isAutoIncrement = true ∧ (v.isNull = true ∨ v.integer? = some 0) := by
  rw [isGenerated, Bool.and_eq_true, Bool.or_eq_true, beq_iff_eq]

/-- What an insertion makes of an object. -/
structure InsertsRow (d : TableDefinition M) (dialect : Dialect) (m : M) (l l' : Ledger)
    (st : Statement) (fvs listed : List (MappedField M × Value)) : Prop where
  /-- Every field has been converted, by the calls that its adapter had served before. -/
  values : ValuesAt m l.served d.fields fvs
  /-- The columns are listed in the order of the fields. -/
  sublist : listed.Sublist fvs
  omitted : ∀ fv ∈ fvs, fv ∉ listed ↔
    fv.1.isAutoIncrement = true ∧ (fv.2.isNull = true ∨ fv.2.integer? = some 0)
  statement : st = ⟨"INSERT INTO " ++ dialect.qualified d.schemaName d.tableName ++ " (" ++
    dialect.columnList (columnsOf listed) ++ ") VALUES(" ++ dialect.valueList 0 listed.length ++ ")",
    listed.map (·.2)⟩
  /-- No call has been served but one for each field with an adapter, in the order of the fields. -/
  ledger : l' = l.serve (MappedField.calls m d.fields)
  turns : ∀ f ∈ d.fields, f.adapter.isSome = true →
    ∃ x, l'.served f = .serialize x :: l.served f

/-- **The row that is inserted.**  An insertion fails with the first conversion that does.  If none
does, it lists all columns in the order of the fields, those that the engine is to generate left out,
and binds the value of each in the same place; and every adapter has served one call. -/
theorem insertsRow_of_define (hd : s.define build = .ok d) (dialect : Dialect) (m : M)
    (l : Ledger) :
    (∀ e, (∃ l', (d.insertStatement m dialect).run l = (.error e, l')) ↔
      FirstFault m d.fields l e) ∧
    ∀ st l', (d.insertStatement m dialect).run l = (.ok st, l') →
      ∃ fvs listed, d.InsertsRow dialect m l l' st fvs listed := by
  refine ⟨fun e => (converts_insertStatement d m dialect).run_eq_error_iff, fun st l' h => ?_⟩
  obtain ⟨fvs, hvalues, rfl, rfl⟩ := values_of_insertStatement hd h
  refine ⟨fvs, given fvs, hvalues, List.filter_sublist, ?_, statementOf_insert _ _ _, rfl, ?_⟩
  · intro fv hfv
    rw [given, List.mem_filter, ← isGenerated_iff, not_and]
    cases isGenerated fv.1 fv.2 <;> simp [hfv]
  · intro f hf hadapter
    obtain ⟨v, -, hvalue⟩ := hvalues.exists_mem hf
    rw [l.served_serve_of_mem (ModelSchema.nodup_slots hd) hf]
    exact MappedField.exists_turn_eq hvalue hadapter

/-- A parcel whose number is to be generated. -/
theorem insertsRow_of_define_parcel :
    ∃ st l' fvs listed, (parcelDefinition.insertStatement ⟨0, "box", "dock"⟩ .postgres).run .start =
        (.ok st, l') ∧
      st.sql = "INSERT INTO \"Parcel\" (\"code\", \"place\") VALUES($1, $2)" ∧
      st.params = [.text "box#1", .text "dock"] ∧
      parcelDefinition.InsertsRow .postgres ⟨0, "box", "dock"⟩ .start l' st fvs listed := by
  have hcode : "box" ++ "#" ++ Numeral.ofNat 1 = "box#1" := by decide +kernel
  obtain ⟨st, l', hrun, hsql, hparams⟩ : ∃ st l',
      (parcelDefinition.insertStatement ⟨0, "box", "dock"⟩ .postgres).run .start = (.ok st, l') ∧
        st.sql = "INSERT INTO \"Parcel\" (\"code\", \"place\") VALUES($1, $2)" ∧
        st.params = [.text ("box" ++ "#" ++ Numeral.ofNat 1), .text "dock"] :=
    ⟨_, _, rfl, by decide +kernel, rfl⟩
  obtain ⟨fvs, listed, hrow⟩ :=
    (insertsRow_of_define define_parcelSchema .postgres ⟨0, "box", "dock"⟩ .start).2 st l' hrun
  exact ⟨st, l', fvs, listed, hrun, hsql, hparams.trans (by rw [hcode]), hrow⟩

end TableDefinition
end TableMapping
