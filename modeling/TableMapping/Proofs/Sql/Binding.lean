import TableMapping.Proofs.Sql.Placeholder
import TableMapping.Proofs.Sql.Writing

/-!
# The parameters of the statements that write an object

These statements are put together from legible fragments, so their placeholders are those of their
parameters.

* `Fragment.legible_whereClause`: the conditions of any statement.
* `TableDefinition.legible_insertRow`, `TableDefinition.legible_mergeRow`: the rows.
* `TableDefinition.ensures_insertStatement` and its like: the statements.
-/

namespace TableMapping

open Runs

/-! ## Names -/

/-- The names that a condition writes. -/
def Condition.names (c : Condition) : List String :=
  match c.right with
  | .column name => [c.column, name]
  | _ => [c.column]

/-- The names that the statements on a table write. -/
def TableDefinition.names {M : Type} (d : TableDefinition M) : List String :=
  d.schemaName.toList ++ d.tableName :: d.fields.map (fun f => f.columnName) ++ d.primaryKey

namespace Fragment

variable {d : Dialect}

/-! ## Conditions -/

theorem isWords_sql (c : Comparison) : isWords c.sql = true := by
  cases c <;> decide

theorem legible_condition {c : Condition} (h : ∀ name ∈ c.names, d.Spells name) :
    Legible d c.fragments := by
  have hcolumn : d.Spells c.column := by
    refine h c.column ?_
    rw [Condition.names]
    split <;> exact List.mem_cons_self
  have hcompared : Legible d [.column c.column, .text " ", .text c.compare.sql] := by
    have hwords : Legible d [.text " ", .text c.compare.sql] :=
      (legible_text (isWords_sql c.compare)).cons_text (by decide)
    exact (legible_column hcolumn).append hwords (.inr rfl)
  have hright : Legible d c.right.fragments ∧ c.right.fragments.head?.all isText = true := by
    rw [Condition.names] at h
    cases hright : c.right with
    | none => exact ⟨legible_nil d, rfl⟩
    | value v => exact ⟨(legible_param v).cons_text (by decide), rfl⟩
    | column name =>
      rw [hright] at h
      have hname : d.Spells name := h name (List.mem_cons_of_mem _ List.mem_cons_self)
      exact ⟨(legible_column hname).cons_text (by decide), rfl⟩
    | range low high =>
      have hhigh := (legible_param high (d := d)).cons_text (by decide : isWords " AND " = true)
      exact ⟨((legible_param low).append hhigh (.inr rfl)).cons_text (by decide), rfl⟩
  rw [Condition.fragments]
  split
  · exact hcompared.append hright.1 (.inr hright.2)
  · exact hcompared.append (legible_nil d) (.inr rfl)

theorem legible_whereClause {cs : List Condition}
    (h : ∀ c ∈ cs, ∀ name ∈ c.names, d.Spells name) : Legible d (whereClause cs) := by
  have htail : ∀ cs : List Condition, (∀ c ∈ cs, ∀ name ∈ c.names, d.Spells name) →
      Legible d (Condition.tailFragments cs) ∧
        (Condition.tailFragments cs).head?.all isText = true := by
    intro cs hcs
    induction cs with
    | nil => exact ⟨legible_nil d, rfl⟩
    | cons c cs ih =>
      obtain ⟨hc, hrest⟩ := List.forall_mem_cons.mp hcs
      obtain ⟨htail, hhead⟩ := ih hrest
      have hjoiner : isWords (c.joiner.getD .and).sql = true := by
        cases c.joiner.getD .and <;> decide
      have hcondition := (legible_condition hc).cons_text hjoiner
      exact ⟨hcondition.append htail (.inr hhead), rfl⟩
  cases cs with
  | nil => exact legible_nil d
  | cons c cs =>
    obtain ⟨hc, hrest⟩ := List.forall_mem_cons.mp h
    obtain ⟨htail, hhead⟩ := htail cs hrest
    have hcondition := (legible_condition hc).cons_text (by decide : isWords " WHERE " = true)
    exact hcondition.append htail (.inr hhead)

/-- A WHERE clause starts with words. -/
theorem head?_whereClause (cs : List Condition) : (whereClause cs).head?.all isText = true := by
  cases cs <;> rfl

end Fragment

/-! ## Statements that write one object -/

namespace TableDefinition

open Fragment

variable {M : Type} {d : TableDefinition M} {dialect : Dialect} {fvs : List (MappedField M × Value)}

theorem mem_names {name : String} : name ∈ d.names ↔ name ∈ d.schemaName ∨ name = d.tableName ∨
    (∃ f ∈ d.fields, f.columnName = name) ∨ name ∈ d.primaryKey := by
  rw [names, List.mem_append, List.mem_append, List.mem_cons, List.mem_map, Option.mem_toList,
    or_assoc, or_assoc]
  rfl

theorem mem_of_fieldAt {position : Nat} {f : MappedField M} (hf : d.fieldAt position = .ok f) :
    f ∈ d.fields := by
  rw [fieldAt] at hf
  split at hf
  · rename_i hget
    cases hf
    exact List.mem_of_getElem? hget
  · cases hf

theorem ensures_storedValues (m : M) (fs : List (MappedField M)) :
    Ensures (fun fvs => ∀ fv ∈ fvs, fv.1 ∈ fs) (storedValues m fs) := by
  intro l fvs l' h fv hfv
  rw [← fields_of_storedValues h]
  exact List.mem_map_of_mem hfv

/-- Values are taken for columns of the table. -/
theorem ensures_keyValues (a : Alias M) (m : M) (fs : List (MappedField M)) :
    Ensures (fun cells => ∀ cell ∈ cells, ∃ f ∈ a.definition.fields, f.columnName = cell.1)
      (keyValues a m fs) := by
  induction fs with
  | nil => exact ensures_pure (List.forall_mem_nil _)
  | cons f fs ih =>
    refine Ensures.bind (P := fun g => g ∈ a.definition.fields) ?_ fun g hg => ?_
    · refine Mapping.ensures_ofExcept fun g h => ?_
      obtain ⟨position, -, hg⟩ := bind_eq_ok.mp h
      exact mem_of_fieldAt hg
    · refine (ensures_true _).bind fun v _ => ih.bind fun rest hrest => ensures_pure ?_
      exact List.forall_mem_cons.mpr ⟨⟨g, hg, rfl⟩, hrest⟩

theorem names_of_mem_equalities {cells : Assignments} {c : Condition} (h : c ∈ equalities cells) :
    ∃ cell ∈ cells, c.names = [cell.1] := by
  cases cells with
  | nil => exact absurd h List.not_mem_nil
  | cons cell cells =>
    rcases List.mem_cons.mp h with rfl | h
    · exact ⟨cell, List.mem_cons_self, rfl⟩
    · obtain ⟨cell', hcell', rfl⟩ := List.mem_map.mp h
      exact ⟨cell', List.mem_cons_of_mem _ hcell', rfl⟩

variable (hnames : ∀ name ∈ d.names, dialect.Spells name)

include hnames

theorem ensures_keyConditions (m : M) :
    Ensures (fun cs => Legible dialect (whereClause cs)) (d.keyConditions m) := by
  refine Ensures.bind (P := fun a => a.definition = d) ?_ fun a ha => ?_
  · intro l a l' h
    cases h
    rfl
  · refine (ensures_keyValues a m _).bind fun cells hcells => ensures_pure ?_
    refine legible_whereClause fun c hc name hname => hnames name (mem_names.mpr ?_)
    obtain ⟨cell, hcell, hcolumns⟩ := names_of_mem_equalities hc
    rw [hcolumns, List.mem_singleton] at hname
    obtain ⟨f, hf, hcolumn⟩ := hcells cell hcell
    rw [ha] at hf
    exact .inr (.inr (.inl ⟨f, hf, hcolumn.trans hname.symm⟩))

theorem spells_columnsOf (hfields : ∀ fv ∈ fvs, fv.1 ∈ d.fields) :
    ∀ c ∈ columnsOf fvs, dialect.Spells c := by
  intro c hc
  obtain ⟨fv, hfv, rfl⟩ := List.mem_map.mp hc
  exact hnames _ (mem_names.mpr (.inr (.inr (.inl ⟨fv.1, hfields fv hfv, rfl⟩))))

theorem spells_primaryKey : ∀ c ∈ d.primaryKey, dialect.Spells c :=
  fun c hc => hnames c (mem_names.mpr (.inr (.inr (.inr hc))))

theorem legible_table : Legible dialect [.table d.schemaName d.tableName] :=
  legible_singleton ⟨fun s hs => hnames s (mem_names.mpr (.inl hs)),
    hnames _ (mem_names.mpr (.inr (.inl rfl)))⟩

theorem legible_insertHead {words : String} (hwords : isWords words = true)
    {columns : List String} (hcolumns : ∀ c ∈ columns, dialect.Spells c) :
    Legible dialect (d.insertHead words columns) := by
  have hend : Legible dialect [.text ")"] := legible_text (by decide)
  have hopen : Legible dialect [.text " ("] := legible_text (by decide)
  have hhead := (((legible_table hnames).append hopen (.inr rfl)).cons_text
    (by decide : isWords " " = true)).cons_text hwords
  exact (hhead.append (legible_columnFragments hcolumns) (.inl rfl)).append hend (.inr rfl)

omit hnames in
theorem legible_valuesClause (values : List Value) : Legible dialect (valuesClause values) := by
  have hend : Legible dialect [.text ")"] := legible_text (by decide)
  exact ((legible_valueFragments values).cons_text (by decide)).append hend (.inr rfl)

theorem legible_insertRow {words : String} (hwords : isWords words = true)
    (hfields : ∀ fv ∈ fvs, fv.1 ∈ d.fields) : Legible dialect (d.insertRow words fvs) :=
  (legible_insertHead hnames hwords (spells_columnsOf hnames hfields)).append
    (legible_valuesClause _) (.inr rfl)

theorem legible_mergeRow (strategy : MergeStrategy) (hfields : ∀ fv ∈ fvs, fv.1 ∈ d.fields) :
    Legible dialect (d.mergeRow strategy fvs) := by
  have hkey := spells_primaryKey hnames
  have hothers : ∀ c ∈ d.otherFields.map (fun f => f.columnName), dialect.Spells c := by
    intro c hc
    obtain ⟨f, hf, hcolumn⟩ := List.mem_map.mp hc
    exact hnames c (mem_names.mpr (.inr (.inr (.inl ⟨f, (List.mem_filter.mp hf).1, hcolumn⟩))))
  have hend : Legible dialect [.text ")"] := legible_text (by decide)
  have hpair : ∀ (words c : String), isWords words = true → dialect.Spells c →
      Legible dialect [.column c, .text words, .column c] := by
    intro words c hwords hc
    exact (legible_column hc).append ((legible_column hc).cons_text hwords) (.inr rfl)
  cases strategy with
  | mergeKey =>
    have hhead := legible_insertHead hnames (by decide : isWords "MERGE INTO" = true)
      (spells_columnsOf hnames hfields)
    have hlisted := (legible_columnFragments hkey).cons_text (by decide : isWords " KEY(" = true)
    have hclause : Legible dialect (valuesClause (fvs.map (·.2))) := legible_valuesClause _
    have hvalues := hclause.cons_text (by decide : isWords ")" = true)
    exact (hhead.append hlisted (.inr rfl)).append hvalues (.inr rfl)
  | insertOrReplace => exact legible_insertRow hnames (by decide) hfields
  | onDuplicateKeyUpdate =>
    have hrow := legible_insertRow hnames (by decide : isWords "INSERT INTO" = true) hfields
    have hupdated : ∀ c ∈ if (d.otherFields.map fun f => f.columnName).isEmpty then d.primaryKey
        else d.otherFields.map fun f => f.columnName, dialect.Spells c := by
      split
      · exact hkey
      · exact hothers
    have hset := legible_separated (by decide : isWords ", " = true)
      (List.forall_mem_map.mpr fun c hc =>
        (hpair " = VALUES(" c (by decide) (hupdated c hc)).append hend (.inr rfl))
    exact hrow.append (hset.cons_text (by decide)) (.inr rfl)
  | onConflictDoUpdate =>
    have hrow := legible_insertRow hnames (by decide : isWords "INSERT INTO" = true) hfields
    have hlisted := (legible_columnFragments hkey).cons_text
      (by decide : isWords " ON CONFLICT(" = true)
    have hset := legible_separated (by decide : isWords ", " = true)
      (List.forall_mem_map.mpr fun c hc => hpair " = EXCLUDED." c (by decide) (hothers c hc))
    refine (hrow.append hlisted (.inr rfl)).append ?_ (.inr rfl)
    refine Legible.cons_text ?_ (by decide)
    split
    · exact legible_text (by decide)
    · exact hset.cons_text (by decide)
  | emulated => exact legible_nil dialect

omit hnames in
/-- Computations of legible fragments make statements that bind their parameters. -/
theorem ensures_statement {x : Mapping (List Fragment)} (h : Ensures (Legible dialect) x) :
    Ensures (fun st => st.IsBound dialect) (do return dialect.statement (← x)) :=
  h.bind fun _ hfragments => ensures_pure (Dialect.isBound_statement hfragments)

theorem ensures_insertStatement (m : M) :
    Ensures (fun st => st.IsBound dialect) (d.insertStatement m dialect) := by
  refine ensures_statement ?_
  refine Ensures.bind (P := fun fvs => ∀ fv ∈ fvs, fv.1 ∈ d.fields) ?_ fun fvs hfields =>
    ensures_pure (legible_insertRow hnames (by decide) hfields)
  refine (ensures_storedValues m d.fields).bind fun fvs hfields => ensures_pure ?_
  exact fun fv hfv => hfields fv (List.mem_filter.mp hfv).1

theorem ensures_updateStatement (m : M) :
    Ensures (fun st => st.IsBound dialect) (d.updateStatement m dialect) := by
  refine ensures_statement ?_
  have hupdated : ∀ f ∈ d.updatedFields, f ∈ d.fields := by
    obtain ⟨p, hp⟩ := updatedFields_eq_filter d
    rw [hp]
    exact fun f hf => (List.mem_filter.mp hf).1
  refine (ensures_true _).bind fun _ _ => ?_
  refine (ensures_storedValues m _).bind fun fvs hfields => ?_
  refine (ensures_keyConditions hnames m).bind fun cs hcs => ensures_pure ?_
  have hset : Legible dialect (separated ", "
      (fvs.map fun fv => [.column fv.1.columnName, .text " = ", .param fv.2])) := by
    refine legible_separated (by decide) (List.forall_mem_map.mpr fun fv hfv => ?_)
    have hcolumn := spells_columnsOf hnames (fun fv hfv => hupdated fv.1 (hfields fv hfv)) _
      (List.mem_map_of_mem hfv)
    exact (legible_column hcolumn).append ((legible_param fv.2).cons_text (by decide)) (.inr rfl)
  have hwords : Legible dialect [.text " SET "] := legible_text (by decide)
  have hhead := ((legible_table hnames).append hwords (.inr rfl)).cons_text
    (by decide : isWords "UPDATE " = true)
  exact (hhead.append hset (.inl rfl)).append hcs (.inr (head?_whereClause cs))

theorem ensures_deleteStatement (m : M) :
    Ensures (fun st => st.IsBound dialect) (d.deleteStatement m dialect) := by
  refine ensures_statement ?_
  refine (ensures_true _).bind fun _ _ => ?_
  refine (ensures_keyConditions hnames m).bind fun cs hcs => ensures_pure ?_
  have hhead := (legible_table hnames).cons_text (by decide : isWords "DELETE FROM " = true)
  exact hhead.append hcs (.inr (head?_whereClause cs))

theorem ensures_mergePlan (m : M) :
    Ensures (fun plan => ∀ st ∈ plan.statements, st.IsBound dialect) (d.mergePlan m dialect) := by
  refine (ensures_true _).bind fun _ _ => ?_
  refine (ensures_storedValues m d.fields).bind fun fvs hfields => ?_
  split
  · have hprobe : Ensures (Legible dialect) (d.probeFragments m) := by
      refine (ensures_keyConditions hnames m).bind fun cs hcs => ensures_pure ?_
      have hhead := (legible_table hnames).cons_text
        (by decide : isWords "SELECT COUNT(*) FROM " = true)
      exact hhead.append hcs (.inr (head?_whereClause cs))
    refine hprobe.bind fun probe hprobe => ?_
    refine (ensures_updateStatement hnames m).bind fun update hupdate => ?_
    refine (ensures_insertStatement hnames m).bind fun insert hinsert => ensures_pure ?_
    simp only [MergePlan.statements, List.forall_mem_cons]
    exact ⟨Dialect.isBound_statement hprobe, hupdate, hinsert, List.forall_mem_nil _⟩
  · refine ensures_pure (List.forall_mem_singleton.mpr ?_)
    exact Dialect.isBound_statement (legible_mergeRow hnames _ hfields)

end TableDefinition

end TableMapping
