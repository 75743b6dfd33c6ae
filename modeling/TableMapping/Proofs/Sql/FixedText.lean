import TableMapping.Proofs.Session.NewRow
import TableMapping.Proofs.Sql.KeyColumns
import TableMapping.Proofs.Sql.Rendering

/-!
# The text of a statement and the object it writes

A value reaches a statement as a fragment of its own, so that two objects of a model make statements
of one skeleton, and with it of one text.  Of the values themselves the text tells only which of
them an insertion leaves to the engine.

* `Condition.blank`, `Fragment.skeleton_whereClause`: conditions without their values.
* `TableDefinition.related_keyConditions`: all objects are found by the same conditions, values
  apart.
* `TableDefinition.FixedText`: what the statements of two objects have in common.
* `TableDefinition.fixedText_of_define`: any two objects of a definition have it.
-/

namespace TableMapping

open Runs

/-! ## Conditions -/

/-- An operand whose values are left blank. -/
def Operand.blank : Operand → Operand
  | .value _ => .value (.null .bool)
  | .range _ _ => .range (.null .bool) (.null .bool)
  | right => right

/-- A condition whose values are left blank. -/
def Condition.blank (c : Condition) : Condition :=
  { c with right := c.right.blank }

namespace Fragment

theorem skeleton_condition (c : Condition) : skeleton c.fragments = c.blank.fragments := by
  have hright : skeleton c.right.fragments = c.right.blank.fragments := by
    cases c.right <;> rfl
  rw [Condition.fragments, skeleton_append]
  split
  · rename_i hoperand
    rw [hright, Condition.fragments, Condition.blank, if_pos hoperand]
    rfl
  · rename_i hoperand
    rw [Condition.fragments, Condition.blank, if_neg hoperand]
    rfl

theorem skeleton_tailFragments (cs : List Condition) :
    skeleton (Condition.tailFragments cs) = Condition.tailFragments (cs.map Condition.blank) := by
  induction cs with
  | nil => rfl
  | cons c cs ih =>
    have hcons : Condition.tailFragments (c :: cs) =
        .text (c.joiner.getD .and).sql :: c.fragments ++ Condition.tailFragments cs := rfl
    rw [hcons, skeleton_append, skeleton_cons, skeleton_condition, ih]
    rfl

theorem skeleton_whereClause (cs : List Condition) :
    skeleton (whereClause cs) = whereClause (cs.map Condition.blank) := by
  cases cs with
  | nil => rfl
  | cons c cs =>
    rw [whereClause, skeleton_append, skeleton_cons, skeleton_condition, skeleton_tailFragments]
    rfl

end Fragment

/-- Equalities are told apart by their columns. -/
theorem blank_equalities {cells cells' : Assignments} (h : cells.columns = cells'.columns) :
    (equalities cells).map Condition.blank = (equalities cells').map Condition.blank := by
  have hblank : ∀ cells : Assignments, (equalities cells).map Condition.blank =
      equalities (cells.columns.map fun column => (column, .null .bool)) := by
    intro cells
    cases cells with
    | nil => rfl
    | cons cell cells =>
      simp only [equalities, Assignments.columns, List.map_cons, List.map_map]
      rfl
  rw [hblank, hblank, h]

/-- Two statements have the same text. -/
def Statement.SameText (st st' : Statement) : Prop :=
  st.sql = st'.sql

namespace MergePlan

/-- The texts of the statements of a plan. -/
def texts (plan : MergePlan) : List String :=
  plan.statements.map fun st => st.sql

/-- Two emulated merges count and update by the same texts, and their insertions are related. -/
inductive Alike (R : Statement → Statement → Prop) : MergePlan → MergePlan → Prop
  | emulated {probe probe' update update' insert insert' : Statement}
      (hprobe : probe.SameText probe') (hupdate : update.SameText update')
      (hinsert : R insert insert') :
      Alike R (.emulated probe update insert) (.emulated probe' update' insert')

theorem Alike.texts_eq {plan plan' : MergePlan} (h : Alike Statement.SameText plan plan') :
    plan.texts = plan'.texts := by
  cases h with
  | emulated hprobe hupdate hinsert =>
    simp only [texts, statements, List.map_cons, List.map_nil]
    rw [hprobe, hupdate, hinsert]

end MergePlan

namespace TableDefinition

variable {M : Type} {s : ModelSchema M} {build : Nat} {d : TableDefinition M} {a b : M}

/-! ## Values of objects -/

/-- Which values the engine is to generate. -/
def generated (fvs : List (MappedField M × Value)) : List Bool :=
  fvs.map fun fv => isGenerated fv.1 fv.2

theorem related_storedValues (a b : M) (fs : List (MappedField M)) :
    Related (fun fvs gvs => fvs.map (·.1) = gvs.map (·.1)) (storedValues a fs)
      (storedValues b fs) := by
  intro l l' fvs gvs l₁ l₁' hfvs hgvs
  rw [fields_of_storedValues hfvs, fields_of_storedValues hgvs]

/-- The key columns are asked for alike, whatever the object. -/
theorem related_keyConditions (hd : s.define build = .ok d) (a b : M) :
    Related (fun cs cs' => cs.map Condition.blank = cs'.map Condition.blank) (d.keyConditions a)
      (d.keyConditions b) := by
  intro l l' cs cs' l₁ l₁' hcs hcs'
  obtain ⟨cells, hcells, rfl⟩ := columns_of_keyConditions hd hcs
  obtain ⟨cells', hcells', rfl⟩ := columns_of_keyConditions hd hcs'
  exact blank_equalities (hcells.trans hcells'.symm)

/-! ## Fragments of statements -/

section Rows

variable {fvs gvs : List (MappedField M × Value)}

theorem columnsOf_eq (h : fvs.map (·.1) = gvs.map (·.1)) : columnsOf fvs = columnsOf gvs := by
  have hcolumns : ∀ fvs : List (MappedField M × Value),
      columnsOf fvs = (fvs.map (·.1)).map fun f => f.columnName := by
    intro fvs
    rw [List.map_map]
    rfl
  rw [hcolumns, h, hcolumns]

theorem skeleton_valuesClause (h : fvs.map (·.1) = gvs.map (·.1)) :
    Fragment.skeleton (valuesClause (fvs.map (·.2))) =
      Fragment.skeleton (valuesClause (gvs.map (·.2))) := by
  have hlength : fvs.length = gvs.length := by
    rw [← List.length_map (f := (·.1)), h, List.length_map]
  simp only [valuesClause, Fragment.skeleton_append, Fragment.skeleton_cons,
    Fragment.skeleton_valueFragments, List.length_map, hlength]

theorem skeleton_insertRow (d : TableDefinition M) (words : String)
    (h : fvs.map (·.1) = gvs.map (·.1)) :
    Fragment.skeleton (d.insertRow words fvs) = Fragment.skeleton (d.insertRow words gvs) := by
  rw [insertRow, insertRow, Fragment.skeleton_append, Fragment.skeleton_append,
    skeleton_valuesClause h, columnsOf_eq h]

theorem skeleton_mergeRow (d : TableDefinition M) (strategy : MergeStrategy)
    (h : fvs.map (·.1) = gvs.map (·.1)) :
    Fragment.skeleton (d.mergeRow strategy fvs) = Fragment.skeleton (d.mergeRow strategy gvs) := by
  cases strategy <;>
    simp only [mergeRow, Fragment.skeleton_append, Fragment.skeleton_cons, skeleton_insertRow d _ h,
      skeleton_valuesClause h, columnsOf_eq h]

/-- Where the same values are left to the engine, the same fields are listed. -/
theorem fields_given (hfields : fvs.map (·.1) = gvs.map (·.1))
    (hgenerated : generated fvs = generated gvs) :
    (given fvs).map (·.1) = (given gvs).map (·.1) := by
  have hgiven : ∀ fvs : List (MappedField M × Value), (given fvs).map (·.1) =
      (((fvs.map (·.1)).zip (generated fvs)).filter fun fg => !fg.2).map (·.1) := by
    intro fvs
    rw [generated, List.zip_map', List.filter_map, List.map_map]
    rfl
  rw [hgiven, hgiven, hfields, hgenerated]

/-- What an update sets, by its columns. -/
theorem skeleton_set (h : fvs.map (·.1) = gvs.map (·.1)) :
    Fragment.skeleton (separated ", "
        (fvs.map fun fv => [.column fv.1.columnName, .text " = ", .param fv.2])) =
      Fragment.skeleton (separated ", "
        (gvs.map fun fv => [.column fv.1.columnName, .text " = ", .param fv.2])) := by
  have hparts : ∀ fvs : List (MappedField M × Value),
      (fvs.map fun fv => [Fragment.column fv.1.columnName, .text " = ", .param fv.2]).map
          Fragment.skeleton =
        (columnsOf fvs).map fun c => [.column c, .text " = ", .param (.null .bool)] := by
    intro fvs
    rw [columnsOf, List.map_map, List.map_map]
    rfl
  rw [Fragment.skeleton_separated, Fragment.skeleton_separated, hparts, hparts, columnsOf_eq h]

end Rows

/-! ## Statements of two objects -/

/-- Computations of fragments make statements of one text when the fragments have one skeleton. -/
theorem related_statement {x y : Mapping (List Fragment)}
    (h : Related (fun fs gs => Fragment.skeleton fs = Fragment.skeleton gs) x y)
    (dialect : Dialect) :
    Related Statement.SameText (do return dialect.statement (← x))
      (do return dialect.statement (← y)) :=
  h.bind fun _ _ heq => .pure (dialect.sql_statement_eq heq)

theorem related_probeFragments (hd : s.define build = .ok d) (a b : M) :
    Related (fun fs gs => Fragment.skeleton fs = Fragment.skeleton gs) (d.probeFragments a)
      (d.probeFragments b) := by
  refine (related_keyConditions hd a b).bind fun cs cs' hcs => .pure ?_
  simp only [Fragment.skeleton_append, Fragment.skeleton_whereClause, hcs]

theorem related_updateStatement (hd : s.define build = .ok d) (a b : M) (dialect : Dialect) :
    Related Statement.SameText (d.updateStatement a dialect) (d.updateStatement b dialect) := by
  refine related_statement ?_ dialect
  refine (related_true _ _).bind fun _ _ _ => ?_
  refine (related_storedValues a b _).bind fun fvs gvs hfields => ?_
  refine (related_keyConditions hd a b).bind fun cs cs' hcs => .pure ?_
  simp only [Fragment.skeleton_append, Fragment.skeleton_whereClause, hcs, skeleton_set hfields]

theorem related_deleteStatement (hd : s.define build = .ok d) (a b : M) (dialect : Dialect) :
    Related Statement.SameText (d.deleteStatement a dialect) (d.deleteStatement b dialect) := by
  refine related_statement ?_ dialect
  refine (related_true _ _).bind fun _ _ _ => ?_
  refine (related_keyConditions hd a b).bind fun cs cs' hcs => .pure ?_
  simp only [Fragment.skeleton_append, Fragment.skeleton_whereClause, hcs]

/-! ## Insertions and merges -/

/-- An insertion is made of the values that it converts. -/
theorem insert_of_values {m : M} {dialect : Dialect} {l l₁ l₂ : Ledger} {st : Statement}
    {fvs : List (MappedField M × Value)} (h : (d.insertStatement m dialect).run l = (.ok st, l₂))
    (hvalues : (storedValues m d.fields).run l = (.ok fvs, l₁)) :
    st = dialect.statement (d.insertRow "INSERT INTO" (given fvs)) := by
  obtain ⟨fragments, l₃, hfragments, h⟩ := run_bind_eq_ok.mp h
  obtain ⟨listed, l₄, hlisted, hfragments⟩ := run_bind_eq_ok.mp hfragments
  obtain ⟨fvs', l₅, hvalues', hlisted⟩ := run_bind_eq_ok.mp hlisted
  cases hvalues.symm.trans hvalues'
  cases hlisted
  cases hfragments
  cases h
  rfl

/-- The fields of two objects leave the same values to the engine, whenever they are converted. -/
def SameGenerated (d : TableDefinition M) (a b : M) : Prop :=
  ∀ f ∈ d.fields,
    Related (fun v w => isGenerated f v = isGenerated f w) (f.storageValue a) (f.storageValue b)

theorem related_generated {fs : List (MappedField M)}
    (h : ∀ f ∈ fs, Related (fun v w => isGenerated f v = isGenerated f w) (f.storageValue a)
      (f.storageValue b)) :
    Related (fun fvs gvs => fvs.map (·.1) = gvs.map (·.1) ∧ generated fvs = generated gvs)
      (storedValues a fs) (storedValues b fs) := by
  induction fs with
  | nil => exact .pure ⟨rfl, rfl⟩
  | cons f fs ih =>
    obtain ⟨hf, hfs⟩ := List.forall_mem_cons.mp h
    refine hf.bind fun v w hvw => (ih hfs).bind fun fvs gvs hrest => .pure ?_
    obtain ⟨hfields, hgenerated⟩ := hrest
    exact ⟨congrArg (f :: ·) hfields, congrArg₂ List.cons hvw hgenerated⟩

/-- A field without adapter is stored as it is read. -/
theorem related_isGenerated_of_encode {f : MappedField M} {x y : FieldValue} {v w : Value}
    (hadapter : f.adapter = none) (ha : f.get a = .ok x) (hb : f.get b = .ok y)
    (hv : f.encode x = .ok v) (hw : f.encode y = .ok w) (h : isGenerated f v = isGenerated f w) :
    Related (fun v w => isGenerated f v = isGenerated f w) (f.storageValue a)
      (f.storageValue b) := by
  have hrun : ∀ (m : M) (x : FieldValue) (v : Value) (l : Ledger), f.get m = .ok x →
      f.encode x = .ok v → (f.storageValue m).run l = (.ok v, l) := by
    intro m x v l hget hencode
    rw [MappedField.run_storageValue hget, Column.toStorage, hadapter]
    simp only
    rw [hencode, Mapping.run_ofExcept]
  intro l l' v' w' l₁ l₁' hv' hw'
  cases (hrun a x v l ha hv).symm.trans hv'
  cases (hrun b y w l' hb hw).symm.trans hw'
  exact h

theorem related_insertStatement (h : d.SameGenerated a b) (dialect : Dialect) :
    Related Statement.SameText (d.insertStatement a dialect) (d.insertStatement b dialect) := by
  refine related_statement ?_ dialect
  refine Related.bind (R := fun fvs gvs => fvs.map (·.1) = gvs.map (·.1)) ?_
    fun fvs gvs hfields => .pure (skeleton_insertRow d _ hfields)
  exact (related_generated h).bind fun fvs gvs hrow => .pure (fields_given hrow.1 hrow.2)

theorem related_mergePlan_native (d : TableDefinition M) (a b : M) {dialect : Dialect}
    (hnative : dialect.mergeStrategy ≠ .emulated) :
    Related (fun plan plan' => plan.texts = plan'.texts) (d.mergePlan a dialect)
      (d.mergePlan b dialect) := by
  refine (related_true _ _).bind fun _ _ _ => ?_
  refine (related_storedValues a b _).bind fun fvs gvs hfields => ?_
  split
  · rename_i hemulated
    exact absurd hemulated hnative
  · refine .pure (congrArg (fun sql => [sql]) ?_)
    exact dialect.sql_statement_eq (skeleton_mergeRow d _ hfields)

/-- The parts of two emulated merges are related when those that find and update the row of an
object have the same text. -/
theorem related_mergePlan_emulated (hd : s.define build = .ok d) (a b : M) {dialect : Dialect}
    (hemulated : dialect.mergeStrategy = .emulated) {R : Statement → Statement → Prop}
    (hinsert : Related R (d.insertStatement a dialect) (d.insertStatement b dialect)) :
    Related (MergePlan.Alike R) (d.mergePlan a dialect) (d.mergePlan b dialect) := by
  refine (related_true _ _).bind fun _ _ _ => ?_
  refine (related_storedValues a b _).bind fun _ _ _ => ?_
  rw [hemulated]
  refine (related_probeFragments hd a b).bind fun probe probe' hprobe => ?_
  refine (related_updateStatement hd a b dialect).bind fun update update' hupdate => ?_
  refine hinsert.bind fun insert insert' hinsert => .pure ?_
  exact .emulated (dialect.sql_statement_eq hprobe) hupdate hinsert

/-- What the statements of two objects have in common. -/
structure FixedText (d : TableDefinition M) (a b : M) (dialect : Dialect) : Prop where
  update : Related Statement.SameText (d.updateStatement a dialect) (d.updateStatement b dialect)
  delete : Related Statement.SameText (d.deleteStatement a dialect) (d.deleteStatement b dialect)
  /-- An insertion shows which values it leaves to the engine, and nothing else. -/
  insert : ∀ l l' l₁ l₁' fvs gvs, (storedValues a d.fields).run l = (.ok fvs, l₁) →
    (storedValues b d.fields).run l' = (.ok gvs, l₁') → generated fvs = generated gvs →
      ∀ l₂ l₂' st st', (d.insertStatement a dialect).run l = (.ok st, l₂) →
        (d.insertStatement b dialect).run l' = (.ok st', l₂') → st.SameText st'
  native : dialect.mergeStrategy ≠ .emulated →
    Related (fun plan plan' => plan.texts = plan'.texts) (d.mergePlan a dialect)
      (d.mergePlan b dialect)
  /-- An emulated merge ends with an insertion. -/
  emulated : dialect.mergeStrategy = .emulated →
    Related (MergePlan.Alike fun st st' =>
        (∃ l l₁, (d.insertStatement a dialect).run l = (.ok st, l₁)) ∧
          ∃ l l₁, (d.insertStatement b dialect).run l = (.ok st', l₁))
      (d.mergePlan a dialect) (d.mergePlan b dialect)
  /-- With the same fields NULL or zero, no text differs. -/
  same : d.SameGenerated a b →
    Related Statement.SameText (d.insertStatement a dialect) (d.insertStatement b dialect) ∧
      Related (fun plan plan' => plan.texts = plan'.texts) (d.mergePlan a dialect)
        (d.mergePlan b dialect)

/-- The text of a statement that writes an object does not depend on the values of the object. -/
theorem fixedText_of_define (hd : s.define build = .ok d) (a b : M) (dialect : Dialect) :
    d.FixedText a b dialect where
  update := related_updateStatement hd a b dialect
  delete := related_deleteStatement hd a b dialect
  insert l l' l₁ l₁' fvs gvs hfvs hgvs hgenerated l₂ l₂' st st' hst hst' := by
    rw [insert_of_values hst hfvs, insert_of_values hst' hgvs]
    have hfields := related_storedValues a b d.fields l l' fvs gvs l₁ l₁' hfvs hgvs
    exact dialect.sql_statement_eq (skeleton_insertRow d _ (fields_given hfields hgenerated))
  native hnative := related_mergePlan_native d a b hnative
  emulated hemulated := by
    refine related_mergePlan_emulated hd a b hemulated ?_
    exact fun l l' st st' l₁ l₁' hst hst' => ⟨⟨l, l₁, hst⟩, l', l₁', hst'⟩
  same hsame := by
    have hinsert := related_insertStatement hsame dialect
    refine ⟨hinsert, ?_⟩
    by_cases hemulated : dialect.mergeStrategy = .emulated
    · intro l l' plan plan' l₁ l₁' hplan hplan'
      have halike := related_mergePlan_emulated hd a b hemulated hinsert
      exact (halike l l' plan plan' l₁ l₁' hplan hplan').texts_eq
    · exact related_mergePlan_native d a b hemulated

end TableDefinition
end TableMapping
