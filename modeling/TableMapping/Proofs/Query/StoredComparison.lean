import TableMapping.Proofs.Model.FieldForm
import TableMapping.Proofs.Query.Resolution
import TableMapping.Proofs.Sql.ConditionText
import TableMapping.Proofs.Sql.MergeRow
import TableMapping.Query.Step

/-!
# Comparing with what is stored

A value that a query compares a column with comes from the caller, and a value that is written into
the column comes from an object, by the accessor of the field.  Behind that both take one way: the
adapter of the field, or its encoding and the cutting of texts.  So where the caller has what the
accessor reads, and the adapter answers to the value alone, the query binds what the statements of the
object bind, or fails as they do.

* `OpenCondition.answer_compareValue`, `OpenCondition.answer_between`,
  `OpenCondition.answer_isMember`: a comparator answers as the conversion of the field does.
* `TableDefinition.stores_of_valuesAt`, `TableDefinition.standsFor_of_valuesAt`: the value of a field in
  a statement is that of its conversion, at the place of its column.
* `ModelSchema.comparesStored_of_define`: both together.
-/

namespace TableMapping

open Runs

variable {M : Type}

/-! ## Conversions -/

theorem Column.steady_toStorage {c : Column} (h : ∀ r, c.adapter = some r → r.IsSteady)
    (x : FieldValue) : Steady (c.toStorage x) := by
  rw [Column.toStorage]
  split
  · rename_i r hr
    intro l l'
    rw [Mapping.run_serialize, Mapping.run_serialize]
    exact h r hr _ _ _
  · exact Mapping.steady_ofExcept _

namespace OpenCondition

variable {c : OpenCondition M} {o o' : M} {x x' : Value}

section Steady

variable (hsteady : ∀ r, c.field.adapter = some r → r.IsSteady)

include hsteady

/-- What the accessor reads is converted as the field is. -/
theorem answer_toStorage {y : FieldValue} (hget : c.field.get o = .ok y) (l l' : Ledger) :
    ((c.field.toStorage y).run l).1 = ((c.field.storageValue o).run l').1 := by
  rw [MappedField.run_storageValue hget]
  exact Column.steady_toStorage hsteady y l l'

theorem answer_compareValue (hget : c.field.get o = .ok (.plain x)) (compare : Comparison)
    (l l' : Ledger) :
    ((c.compareValue compare x).run l).1 =
      ((c.field.storageValue o).run l').1.map fun w => c.close compare (.value w) := by
  rw [compareValue, fst_run_bind (fun _ => steady_pure _) l l, answer_toStorage hsteady hget l l']
  rfl

theorem answer_between (hget : c.field.get o = .ok (.plain x))
    (hget' : c.field.get o' = .ok (.plain x')) (l l' : Ledger) :
    ((c.between x x').run l).1 = do
      let v ← ((c.field.storageValue o).run l').1
      let w ← ((c.field.storageValue o').run l').1
      return c.close .between (.range v w) := by
  have hhigh : ∀ v, Steady (c.field.toStorage (.plain x') >>= fun w =>
      pure (c.close .between (.range v w)) : Mapping (Query M)) :=
    fun v => (Column.steady_toStorage hsteady _).bind fun _ => steady_pure _
  rw [between, fst_run_bind hhigh l l, answer_toStorage hsteady hget l l']
  congr 1
  funext v
  rw [fst_run_bind (fun _ => steady_pure _) l l, answer_toStorage hsteady hget' l l']
  rfl

/-- A member that cannot be named fails on both ways alike. -/
theorem answer_isMember {E : Type} {t : EnumerationType E} {y : E}
    (hget : c.field.get o = do return .member (some (← Member.ofTyped t y))) (l l' : Ledger) :
    ((c.isMember t y).run l).1 =
      ((c.field.storageValue o).run l').1.map fun w => c.close .equal (.value w) := by
  cases hm : Member.ofTyped t y with
  | error e =>
    rw [hm] at hget
    rw [isMember, hm, MappedField.storageValue, hget]
    rfl
  | ok m =>
    rw [hm] at hget
    have hstorage := answer_toStorage hsteady hget l l'
    have hmember : (c.isMember t y).run l = (c.field.toStorage (.member (some m)) >>= fun w =>
        pure (c.close .equal (.value w)) : Mapping (Query M)).run l := by
      rw [isMember, hm]
      rfl
    rw [hmember, fst_run_bind (fun _ => steady_pure _) l l, hstorage]
    rfl

end Steady

end OpenCondition

/-! ## The values of statements -/

/-- Wherever a column is listed, a value stands in the same place. -/
def StandsFor (columns : List String) (values : List Value) (column : String) (w : Value) : Prop :=
  values.length = columns.length ∧ ∀ k : Nat, columns[k]? = some column → values[k]? = some w

namespace TableDefinition

variable {s : ModelSchema M} {build : Nat} {d : TableDefinition M} {o : M} {f : MappedField M}
  {fs : List (MappedField M)} {fvs listed : List (MappedField M × Value)} {w : Value}
  {served : MappedField M → List AdapterCall}

/-- The value of a field in a statement is the one that its conversion always has. -/
theorem stores_of_valuesAt (hsteady : ∀ r, f.adapter = some r → r.IsSteady)
    (h : ValuesAt o served fs fvs) (hf : f ∈ fs) :
    ∃ w, f.Stores o w ∧ (f, w) ∈ fvs := by
  obtain ⟨w, hmem, hvalue⟩ := h.exists_mem hf
  refine ⟨w, fun l => ⟨l.serve (MappedField.calls o [f]), ?_⟩, hmem⟩
  rw [MappedField.run_storageValue_eq, MappedField.valueAt_congr hsteady o _ (served f), hvalue]

/-- In a row of values each column has one field and one value. -/
theorem eq_of_columnName (hd : s.define build = .ok d) (h : ValuesAt o served fs fvs)
    (hfs : ∀ g ∈ fs, g ∈ d.fields) (hw : (f, w) ∈ fvs) {fv : MappedField M × Value}
    (hfv : fv ∈ fvs) (hname : fv.1.columnName = f.columnName) : fv = (f, w) := by
  have hmem : ∀ gv ∈ fvs, gv.1 ∈ d.fields :=
    fun gv hgv => hfs _ (h.fields ▸ List.mem_map_of_mem hgv)
  have hsame : Text.sameName fv.1.columnName f.columnName = true := by
    rw [hname, Text.sameName_self]
  have hfield : fv.1 = f :=
    (ModelSchema.placed_of_define hd).eq_of_sameName (hmem _ hfv) (hmem _ hw) hsame
  have hvalue := h.values _ hfv
  rw [hfield] at hvalue
  exact Prod.ext hfield (Except.ok.inj (hvalue.symm.trans (h.values _ hw)))

/-- So its value stands in its place. -/
theorem standsFor_of_valuesAt (hd : s.define build = .ok d) (h : ValuesAt o served fs fvs)
    (hfs : ∀ g ∈ fs, g ∈ d.fields) (hw : (f, w) ∈ fvs) (hlisted : ∀ fv ∈ listed, fv ∈ fvs) :
    StandsFor (columnsOf listed) (listed.map (·.2)) f.columnName w := by
  refine ⟨by rw [columnsOf, List.length_map, List.length_map], fun k hk => ?_⟩
  rw [columnsOf, List.getElem?_map, Option.map_eq_some_iff] at hk
  obtain ⟨fv, hfv, hname⟩ := hk
  have hmem := hlisted fv (List.mem_of_getElem? hfv)
  rw [List.getElem?_map, hfv, eq_of_columnName hd h hfs hw hmem hname]
  rfl

/-- The column of a field is listed unless the engine is to generate its value. -/
theorem mem_columnsOf_given (hd : s.define build = .ok d) (h : ValuesAt o served fs fvs)
    (hfs : ∀ g ∈ fs, g ∈ d.fields) (hw : (f, w) ∈ fvs) :
    f.columnName ∈ columnsOf (given fvs) ↔ isGenerated f w = false := by
  constructor
  · intro hcolumn
    obtain ⟨fv, hfv, hname⟩ := List.mem_map.mp hcolumn
    obtain ⟨hmem, hkept⟩ := List.mem_filter.mp hfv
    rw [eq_of_columnName hd h hfs hw hmem hname] at hkept
    exact (Bool.not_eq_true' _).mp hkept
  · intro hgenerated
    have hkept : (f, w) ∈ given fvs :=
      List.mem_filter.mpr ⟨hw, (Bool.not_eq_true' _).mpr hgenerated⟩
    exact List.mem_map.mpr ⟨(f, w), hkept, rfl⟩

/-! ## Statements of an object -/

/-- What the statements of an object bind for a field: the value that the field is stored with. -/
structure BindsStored (d : TableDefinition M) (f : MappedField M) (o : M) : Prop where
  /-- An insertion lists the column, unless the engine is to generate it, with the value. -/
  insert (dialect : Dialect) (st : Statement) (l l' : Ledger) :
    (d.insertStatement o dialect).run l = (.ok st, l') → ∃ w columns, f.Stores o w ∧
      st.sql = "INSERT INTO " ++ dialect.qualified d.schemaName d.tableName ++ " (" ++
        dialect.columnList columns ++ ") VALUES(" ++ dialect.valueList 0 columns.length ++ ")" ∧
      StandsFor columns st.params f.columnName w ∧
      (f.columnName ∈ columns ↔ isGenerated f w = false)
  /-- An update binds the value of a key field behind all values that it sets. -/
  update (dialect : Dialect) (st : Statement) (l l' : Ledger) : f.isPrimaryKey = true →
    (d.updateStatement o dialect).run l = (.ok st, l') → ∃ w set found, f.Stores o w ∧
      st = ⟨"UPDATE " ++ dialect.qualified d.schemaName d.tableName ++ " SET " ++
        ", ".intercalate (dialect.equations 0 d.updatedColumns) ++ " WHERE " ++
        " AND ".intercalate (dialect.equations d.updatedColumns.length d.keyColumns),
        set ++ found⟩ ∧
      set.length = d.updatedColumns.length ∧ f.columnName ∈ d.keyColumns ∧
      StandsFor d.keyColumns found f.columnName w
  delete (dialect : Dialect) (st : Statement) (l l' : Ledger) : f.isPrimaryKey = true →
    (d.deleteStatement o dialect).run l = (.ok st, l') → ∃ w, f.Stores o w ∧
      st.sql = "DELETE FROM " ++ dialect.qualified d.schemaName d.tableName ++ " WHERE " ++
        " AND ".intercalate (dialect.equations 0 d.keyColumns) ∧
      f.columnName ∈ d.keyColumns ∧ StandsFor d.keyColumns st.params f.columnName w

theorem columnsOf_of_fields (hfields : fvs.map (·.1) = fs) :
    columnsOf fvs = fs.map fun f => f.columnName := by
  rw [columnsOf, ← hfields, List.map_map]
  rfl

theorem bindsStored_of_define (hd : s.define build = .ok d) (hf : f ∈ d.fields)
    (hsteady : ∀ r, f.adapter = some r → r.IsSteady) (o : M) : d.BindsStored f o := by
  have hkeyField : f.isPrimaryKey = true → f ∈ d.keyFields :=
    fun hprimary => List.mem_filter.mpr ⟨hf, hprimary⟩
  have hkeyFields : ∀ g ∈ d.keyFields, g ∈ d.fields := fun g hg => (List.mem_filter.mp hg).1
  have hkeyed : f.isPrimaryKey = true → d.hasPrimaryKey = true := by
    intro hprimary
    have hcolumn : f.columnName ∈ d.primaryKey :=
      (mem_primaryKey hd).mpr (List.mem_map_of_mem (hkeyField hprimary))
    rw [hasPrimaryKey, Bool.not_eq_true', List.isEmpty_eq_false_iff]
    exact List.ne_nil_of_mem hcolumn
  -- The conditions of an update and of a deletion come from a pass over the key.
  have hpass : ∀ served found, f.isPrimaryKey = true → ValuesAt o served d.keyFields found →
      ∃ w, f.Stores o w ∧ f.columnName ∈ d.keyColumns ∧
        StandsFor d.keyColumns (found.map (·.2)) f.columnName w := by
    intro served found hprimary hfound
    obtain ⟨w, hstores, hw⟩ := stores_of_valuesAt hsteady hfound (hkeyField hprimary)
    have hstands := standsFor_of_valuesAt hd hfound hkeyFields hw fun _ hfv => hfv
    rw [columnsOf_of_fields hfound.fields] at hstands
    exact ⟨w, hstores, List.mem_map_of_mem (hkeyField hprimary), hstands⟩
  exact {
    insert := by
      intro dialect st l l' h
      obtain ⟨fvs, hvalues, rfl, -⟩ := values_of_insertStatement hd h
      obtain ⟨w, hstores, hw⟩ := stores_of_valuesAt hsteady hvalues hf
      have hgiven : ∀ fv ∈ given fvs, fv ∈ fvs := fun fv hfv => (List.mem_filter.mp hfv).1
      have hstands := standsFor_of_valuesAt hd hvalues (fun _ hg => hg) hw hgiven
      rw [statementOf_insert]
      refine ⟨w, columnsOf (given fvs), hstores, ?_, hstands,
        mem_columnsOf_given hd hvalues (fun _ hg => hg) hw⟩
      rw [columnsOf, List.length_map]
    update := by
      intro dialect st l l' hprimary h
      obtain ⟨set, found, hset, hfound, rfl, -⟩ := values_of_updateStatement hd h
      obtain ⟨w, hstores, hcolumn, hstands⟩ := hpass _ _ hprimary hfound
      have hlength : (set.map (·.2)).length = d.updatedColumns.length := by
        rw [updatedColumns, ← hset.fields, List.length_map, List.length_map, List.length_map]
      rw [statementOf_update hd (hkeyed hprimary) hset.fields hfound.fields]
      exact ⟨w, _, _, hstores, rfl, hlength, hcolumn, hstands⟩
    delete := by
      intro dialect st l l' hprimary h
      obtain ⟨found, hfound, rfl⟩ := values_of_deleteStatement hd h
      obtain ⟨w, hstores, hcolumn, hstands⟩ := hpass _ _ hprimary hfound
      rw [statement_byKey hd (hkeyed hprimary) hfound.fields]
      exact ⟨w, hstores, rfl, hcolumn, hstands⟩ }

end TableDefinition

/-! ## Queries -/

namespace Query

/-- The parameters of both statements of a query are the values of its chain. -/
theorem params_eq (q : Query M) (dialect : Dialect) :
    (q.toSelect dialect).params = Fragment.bound (whereClause q.conditions) ∧
      (q.toCount dialect).params = Fragment.bound (whereClause q.conditions) := by
  have horder : Fragment.bound q.orderFragments = [] := by
    rw [orderFragments]
    split
    · rfl
    · rw [Fragment.bound_cons_text, Fragment.bound_separated, List.flatMap_map,
        List.flatMap_eq_nil_iff]
      intro o _
      split <;> rfl
  constructor
  · rw [toSelect, Dialect.params_statement, selectFragments, fromFragments]
    simp [horder]
  · rw [toCount, Dialect.params_statement, countFragments, fromFragments]
    simp

end Query

/-- What a query compares a field with, given what an object holds, is what is stored of the object:
for each comparator the answer is that of the conversion of the field, its failure included. -/
structure Query.ComparesStored (s : ModelSchema M) (a : Alias M) (q : Query M) (f : MappedField M)
    (joiner : Option Joiner) (o : M) : Prop where
  value (test : ValueTest) (x : Value) (l l' : Ledger) : f.get o = .ok (.plain x) →
    ((q.step (.compare joiner (a.handleOf f) (.value test x))).run l).1 =
      ((f.storageValue o).run l').1.map fun w =>
        OpenCondition.close ⟨q, f, joiner⟩ test.comparison (.value w)
  /-- The bounds come from two objects, or from one. -/
  between (o' : M) (x x' : Value) (l l' : Ledger) : f.get o = .ok (.plain x) →
    f.get o' = .ok (.plain x') →
      ((q.step (.compare joiner (a.handleOf f) (.between x x'))).run l).1 = do
        let v ← ((f.storageValue o).run l').1
        let w ← ((f.storageValue o').run l').1
        return OpenCondition.close ⟨q, f, joiner⟩ .between (.range v w)
  /-- The member is the one that a field of its type holds. -/
  member {E : Type} (t : EnumerationType E) (spec : FieldSpec M) (get : M → E) (set : E → M → M)
    (l l' : Ledger) : s.declaredFields[f.declaredIndex]? = some spec →
      spec.Declared (.enumeration t) get set →
        ((q.step (.compare joiner (a.handleOf f) (.member t (get o)))).run l).1 =
          ((f.storageValue o).run l').1.map fun w =>
            OpenCondition.close ⟨q, f, joiner⟩ .equal (.value w)
  /-- The operand is bound behind the values that the query has bound before. -/
  bound (compare : Comparison) (right : Operand) (dialect : Dialect) : right.Fits compare →
    ((OpenCondition.close ⟨q, f, joiner⟩ compare right).toSelect dialect).params =
        (q.toSelect dialect).params ++ right.values ∧
      ((OpenCondition.close ⟨q, f, joiner⟩ compare right).toCount dialect).params =
        (q.toCount dialect).params ++ right.values

namespace ModelSchema

variable {s : ModelSchema M} {build : Nat} {a : Alias M} {q : Query M} {f : MappedField M}

/-- **Comparing with what is stored.**  For a field whose adapter answers to the value alone, what a
comparator makes of what an object holds is what the field is stored with, or the failure of its
conversion; and this is what the statements of the object bind for it. -/
theorem comparesStored_of_define (hd : s.define build = .ok a.definition)
    (hf : f ∈ a.definition.fields) (hsteady : ∀ r, f.adapter = some r → r.IsSteady)
    (hq : a.Binds q.view) (joiner : Option Joiner) (o : M) :
    q.ComparesStored s a f joiner o ∧ a.definition.BindsStored f o := by
  have hresolve : q.view.resolveField (a.handleOf f) = .ok f :=
    (hq.resolve_eq _).1.trans (resolve_handleOf hd hf rfl)
  have hstep : ∀ k : Comparator, q.step (.compare joiner (a.handleOf f) k) =
      OpenCondition.closeWith ⟨q, f, joiner⟩ k := by
    intro k
    rw [Query.step, Query.condition, hresolve]
    rfl
  refine ⟨?_, TableDefinition.bindsStored_of_define hd hf hsteady o⟩
  exact {
    value := by
      intro test x l l' hget
      rw [hstep]
      exact OpenCondition.answer_compareValue (c := ⟨q, f, joiner⟩) hsteady hget _ l l'
    between := by
      intro o' x x' l l' hget hget'
      rw [hstep]
      exact OpenCondition.answer_between (c := ⟨q, f, joiner⟩) hsteady hget hget' l l'
    member := by
      intro E t spec get set l l' hspec hdeclared
      obtain ⟨spec', -, hcolumn, -⟩ := exists_selected_of_mem hd hf
      cases Option.some.inj (hspec.symm.trans hcolumn.place)
      rw [hstep]
      refine OpenCondition.answer_isMember (c := ⟨q, f, joiner⟩) hsteady ?_ l l'
      rw [hcolumn.get]
      exact hdeclared.get_eq o
    bound := by
      intro compare right dialect hright
      obtain ⟨hselect, hcount⟩ := q.params_eq dialect
      obtain ⟨hselect', hcount'⟩ :=
        (OpenCondition.close ⟨q, f, joiner⟩ compare right).params_eq dialect
      rw [hselect, hcount, hselect', hcount']
      exact ⟨bound_whereClause_concat _ hright, bound_whereClause_concat _ hright⟩ }

/-! ### A pinned note -/

theorem storageValue_pinned (l : Ledger) :
    ((pinnedColumn.storageValue ⟨"buy milk", true, false⟩).run l).1 = .ok (.of (.bool true)) := by
  have hpinned : ("Pinned" == "Pinned") = true := by decide
  show Except.ok (Value.of (.bool ("Pinned" == "Pinned"))) = _
  rw [hpinned]

/-- Whether a note is pinned is asked for as its adapter stores it. -/
theorem comparesStored_of_define_note :
    ∃ (d : TableDefinition Note) (q : Query Note) (l : Ledger), noteSchema.define 0 = .ok d ∧
      ((Query.ofAlias ⟨1, d⟩).step (.compare none ⟨1, 2⟩ (.member pinning true))).run .start =
        (.ok q, l) ∧
      (q.toSelect .postgres).params = [.of (.bool true)] ∧
      d.BindsStored pinnedColumn ⟨"buy milk", true, false⟩ := by
  obtain ⟨d, hd, hfields⟩ := define_noteSchema
  have hf : pinnedColumn ∈ d.fields := by
    rw [hfields]
    exact List.mem_cons_of_mem _ List.mem_cons_self
  have hsteady : ∀ r, pinnedColumn.adapter = some r → r.IsSteady := by
    rintro r ⟨⟩
    exact fun _ _ _ => rfl
  obtain ⟨hcompares, hbinds⟩ := comparesStored_of_define (a := ⟨1, d⟩) (q := .ofAlias ⟨1, d⟩) hd hf
    hsteady .view none ⟨"buy milk", true, false⟩
  have hanswer := hcompares.member pinning notePinned.spec notePinned.get notePinned.set .start
    .start rfl notePinned.declared
  rw [storageValue_pinned] at hanswer
  have hnone : ((Query.ofAlias ⟨1, d⟩).toSelect .postgres).params = [] :=
    ((Query.ofAlias ⟨1, d⟩).params_eq .postgres).1
  obtain ⟨hparams, -⟩ := hcompares.bound .equal (.value (.of (.bool true))) .postgres (.value rfl _)
  rw [hnone] at hparams
  exact ⟨d, _, _, hd, Prod.ext hanswer rfl, hparams, hbinds⟩

end ModelSchema
end TableMapping
