import TableMapping.Proofs.Model.Invariant
import TableMapping.Proofs.Sql.Writing
import TableMapping.Sql.Create

/-!
# The key in the statements

The statements that create a table and that merge into it list the primary key as it was resolved
from its names.  The conditions of an update and of a deletion go through the flagged fields.  The
columns are the same, but the list has a column as often as the names say, while the conditions have
it once.

* `ModelSchema.forall₂_primaryKey`: each name of the key stands for one column, and
  `ModelSchema.nodup_primaryKey_iff`, by which no column is repeated exactly when no name is.
* `TableDefinition.columns_of_keyConditions`: the conditions ask once for each flagged column.
* `TableDefinition.keyedBy_of_define`: what the statements list and ask for.
* `ModelSchema.define_keyedBy`: both together.
-/

namespace TableMapping

open Runs

/-! ## Reading a statement -/

namespace Statement

/-- Behind some words of a statement, columns are listed in brackets. -/
def Lists (st : Statement) (dialect : Dialect) (words : String) (columns : List String) : Prop :=
  ∃ before after, st = dialect.statement
    (before ++ .text words :: columnFragments columns ++ .text ")" :: after)

/-- A statement ends with a WHERE clause that compares columns with values, one after the other. -/
def Asks (st : Statement) (dialect : Dialect) (columns : List String) : Prop :=
  ∃ before, ∃ cells : Assignments, cells.columns = columns ∧
    st = dialect.statement (before ++ whereClause (equalities cells))

end Statement

/-! ## The columns of the key -/

/-- A relation between the elements of lists carries over to the lists that correspond to them. -/
theorem pairwise_iff_of_forall₂ {α β : Type} {R : α → β → Prop} {P : α → α → Prop}
    {Q : β → β → Prop} {as : List α} {bs : List β} (h : List.Forall₂ R as bs)
    (hPQ : ∀ a a' b b', R a b → R a' b' → (P a a' ↔ Q b b')) :
    as.Pairwise P ↔ bs.Pairwise Q := by
  rw [List.pairwise_iff_getElem, List.pairwise_iff_getElem]
  have hlength := h.length_eq
  constructor
  · intro hP i j hi hj hij
    have hi' : i < as.length := by omega
    have hj' : j < as.length := by omega
    exact (hPQ _ _ _ _ (h.get hi' hi) (h.get hj' hj)).mp (hP i j hi' hj' hij)
  · intro hQ i j hi hj hij
    have hi' : i < bs.length := by omega
    have hj' : j < bs.length := by omega
    exact (hPQ _ _ _ _ (h.get hi hi') (h.get hj hj')).mpr (hQ i j hi' hj' hij)

/-- A name, whatever the case of its letters, stands for a column of a definition. -/
def TableDefinition.Means {M : Type} (d : TableDefinition M) (name column : String) : Prop :=
  Text.sameName column name = true ∧ ∃ f ∈ d.fields, f.columnName = column

namespace ModelSchema

variable {M : Type} {s : ModelSchema M} {build : Nat} {d : TableDefinition M}

/-- Each name of the key stands for the column that the key lists in its place. -/
theorem forall₂_primaryKey (h : s.define build = .ok d) :
    List.Forall₂ d.Means s.effectiveKey d.primaryKey := by
  obtain ⟨mapped, hmapped, hkey, hfields, -⟩ := define_eq_ok h
  rw [keyNames_eq (forall₂_of_mapFields hmapped)] at hkey
  refine (forall₂_resolveColumns hkey).imp ?_
  rintro name _ ⟨hsame, f, hf, rfl⟩
  refine ⟨hsame, flagKey d.primaryKey f, ?_, rfl⟩
  rw [hfields]
  exact List.mem_map_of_mem hf

/-- Names stand for the same column exactly when they have the same letters. -/
theorem eq_iff_sameName (h : s.define build = .ok d) {a a' c c' : String} (hc : d.Means a c)
    (hc' : d.Means a' c') : c = c' ↔ Text.sameName a a' = true := by
  obtain ⟨ha, f, hf, rfl⟩ := hc
  obtain ⟨ha', g, hg, rfl⟩ := hc'
  constructor
  · intro heq
    rw [Text.sameName_iff] at ha ha' ⊢
    rw [← ha, ← ha', heq]
  · intro hsame
    have hcolumns : Text.sameName f.columnName g.columnName = true := by
      rw [Text.sameName_iff] at ha ha' hsame ⊢
      rw [ha, ha', hsame]
    rw [(placed_of_define h).eq_of_sameName hf hg hcolumns]

/-- The key is the list of columns that its names stand for. -/
theorem primaryKey_eq (h : s.define build = .ok d) {columns : List String}
    (hcolumns : List.Forall₂ d.Means s.effectiveKey columns) : d.primaryKey = columns := by
  have hunique : Relator.RightUnique d.Means := by
    intro name c c' hc hc'
    rw [eq_iff_sameName h hc hc', Text.sameName_self]
  exact hunique.forall₂ (forall₂_primaryKey h) hcolumns

/-- A key lists no column twice exactly when its names differ, letter case put aside. -/
theorem nodup_primaryKey_iff (h : s.define build = .ok d) :
    d.primaryKey.Nodup ↔ s.effectiveKey.Pairwise fun a b => Text.sameName a b = false := by
  refine (pairwise_iff_of_forall₂ (forall₂_primaryKey h) ?_).symm
  intro a a' c c' hc hc'
  have hsame := eq_iff_sameName h hc hc'
  rw [ne_eq, hsame, Bool.not_eq_true]

end ModelSchema

/-! ## The statements -/

namespace TableDefinition

variable {M : Type} {s : ModelSchema M} {build : Nat} {d : TableDefinition M} {m : M}
  {l l' : Ledger}

/-- The columns of the flagged fields. -/
def keyColumns (d : TableDefinition M) : List String :=
  d.keyFields.map fun f => f.columnName

/-- What the statements on a table list as its key, and which columns they ask for to find the row
of an object. -/
structure KeyedBy (d : TableDefinition M) (listed asked : List String) : Prop where
  create (dialect : Dialect) : d.hasPrimaryKey = true →
    (d.createTableStatement dialect).Lists dialect ", PRIMARY KEY(" listed
  mergeKey (m : M) (l l' : Ledger) (plan : MergePlan) :
    (d.mergePlan m .h2).run l = (.ok plan, l') →
      ∃ st, plan = .native st ∧ st.Lists .h2 " KEY(" listed
  onConflict (m : M) (l l' : Ledger) (plan : MergePlan) :
    (d.mergePlan m .postgres).run l = (.ok plan, l') →
      ∃ st, plan = .native st ∧ st.Lists .postgres " ON CONFLICT(" listed
  update (dialect : Dialect) (m : M) (l l' : Ledger) (st : Statement) :
    (d.updateStatement m dialect).run l = (.ok st, l') → st.Asks dialect asked
  delete (dialect : Dialect) (m : M) (l l' : Ledger) (st : Statement) :
    (d.deleteStatement m dialect).run l = (.ok st, l') → st.Asks dialect asked

theorem nodup_keyColumns (hd : s.define build = .ok d) : d.keyColumns.Nodup := by
  have hsublist : d.keyColumns.Sublist (d.fields.map fun f => f.columnName) :=
    List.filter_sublist.map _
  exact hsublist.nodup (ModelSchema.placed_of_define hd).nodup_columnNames

/-- The conditions that find the row of an object ask for each flagged column once. -/
theorem columns_of_keyConditions (hd : s.define build = .ok d) {conditions : List Condition}
    (h : (d.keyConditions m).run l = (.ok conditions, l')) :
    ∃ cells : Assignments, cells.columns = d.keyColumns ∧ conditions = equalities cells := by
  rw [keyConditions_eq hd] at h
  obtain ⟨number, l₁, -, h⟩ := run_bind_eq_ok.mp h
  obtain ⟨fvs, l₂, hvalues, h⟩ := run_bind_eq_ok.mp h
  cases h
  exact ⟨assignments fvs, columns_of_fields (fields_of_storedValues hvalues), rfl⟩

theorem lists_createTableStatement (dialect : Dialect) (hkeyed : d.hasPrimaryKey = true) :
    (d.createTableStatement dialect).Lists dialect ", PRIMARY KEY(" d.primaryKey := by
  have hclause : d.keyClause =
      .text ", PRIMARY KEY(" :: columnFragments d.primaryKey ++ [.text ")"] := if_pos hkeyed
  rw [createTableStatement, createTableFragments, hclause, ← List.append_assoc, List.append_assoc]
  exact ⟨_, [.text ")"], rfl⟩

/-- A merge by one statement comes from the values of all fields. -/
theorem exists_of_mergePlan {dialect : Dialect} (hnative : dialect.mergeStrategy ≠ .emulated)
    {plan : MergePlan} (h : (d.mergePlan m dialect).run l = (.ok plan, l')) :
    ∃ fvs, plan = .native (dialect.statement (d.mergeRow dialect.mergeStrategy fvs)) := by
  obtain ⟨_, l₁, -, h⟩ := run_bind_eq_ok.mp h
  obtain ⟨fvs, l₂, -, h⟩ := run_bind_eq_ok.mp h
  refine ⟨fvs, ?_⟩
  split at h
  · rename_i hemulated
    exact absurd hemulated hnative
  · cases h
    rfl

theorem asks_updateStatement (hd : s.define build = .ok d) {dialect : Dialect} {st : Statement}
    (h : (d.updateStatement m dialect).run l = (.ok st, l')) : st.Asks dialect d.keyColumns := by
  obtain ⟨fragments, l₁, hfragments, h⟩ := run_bind_eq_ok.mp h
  cases h
  obtain ⟨_, l₂, -, hfragments⟩ := run_bind_eq_ok.mp hfragments
  obtain ⟨fvs, l₃, -, hfragments⟩ := run_bind_eq_ok.mp hfragments
  obtain ⟨conditions, l₄, hconditions, hfragments⟩ := run_bind_eq_ok.mp hfragments
  obtain ⟨cells, hcolumns, rfl⟩ := columns_of_keyConditions hd hconditions
  cases hfragments
  exact ⟨_, cells, hcolumns, rfl⟩

theorem asks_deleteStatement (hd : s.define build = .ok d) {dialect : Dialect} {st : Statement}
    (h : (d.deleteStatement m dialect).run l = (.ok st, l')) : st.Asks dialect d.keyColumns := by
  obtain ⟨fragments, l₁, hfragments, h⟩ := run_bind_eq_ok.mp h
  cases h
  obtain ⟨_, l₂, -, hfragments⟩ := run_bind_eq_ok.mp hfragments
  obtain ⟨conditions, l₃, hconditions, hfragments⟩ := run_bind_eq_ok.mp hfragments
  obtain ⟨cells, hcolumns, rfl⟩ := columns_of_keyConditions hd hconditions
  cases hfragments
  exact ⟨_, cells, hcolumns, rfl⟩

theorem keyedBy_of_define (hd : s.define build = .ok d) : d.KeyedBy d.primaryKey d.keyColumns where
  create dialect hkeyed := lists_createTableStatement dialect hkeyed
  mergeKey m l l' plan h := by
    obtain ⟨fvs, rfl⟩ := exists_of_mergePlan (by decide) h
    exact ⟨_, rfl, _, _, rfl⟩
  onConflict m l l' plan h := by
    obtain ⟨fvs, rfl⟩ := exists_of_mergePlan (by decide) h
    exact ⟨_, rfl, _, _, rfl⟩
  update dialect m l l' st h := asks_updateStatement hd h
  delete dialect m l l' st h := asks_deleteStatement hd h

end TableDefinition

namespace ModelSchema

variable {M : Type} {s : ModelSchema M} {build : Nat} {d : TableDefinition M}

/-- The statements list the columns that the names of the key stand for, in their order, and ask
for the same columns once each; the lists repeat a column exactly when the names do. -/
theorem define_keyedBy (h : s.define build = .ok d) :
    d.KeyedBy d.primaryKey d.keyColumns ∧ List.Forall₂ d.Means s.effectiveKey d.primaryKey ∧
      (∀ c, c ∈ d.primaryKey ↔ c ∈ d.keyColumns) ∧ d.keyColumns.Nodup ∧
      (d.primaryKey.Nodup ↔ s.effectiveKey.Pairwise fun a b => Text.sameName a b = false) :=
  ⟨TableDefinition.keyedBy_of_define h, forall₂_primaryKey h,
    fun _ => TableDefinition.mem_primaryKey h, TableDefinition.nodup_keyColumns h,
    nodup_primaryKey_iff h⟩

/-- The key of the items lists their columns by name. -/
theorem primaryKey_item {key : String} {d : TableDefinition Item}
    (h : (itemSchema key).define build = .ok d) {names columns : List String}
    (hkey : (itemSchema key).effectiveKey = names)
    (hnames : List.Forall₂ MeansItem names columns) : d.primaryKey = columns := by
  have hfields : d.fields.map (fun f => f.columnName) = ["Item_Id", "label", "shelf"] :=
    columnNames_of_define h
  refine primaryKey_eq h ?_
  rw [hkey]
  refine hnames.imp ?_
  rintro name c ⟨hc, hsame⟩
  rw [← hfields] at hc
  exact ⟨hsame, List.mem_map.mp hc⟩

/-- Names in an order of their own: the list keeps it, and the conditions ask for the same. -/
theorem define_keyedBy_item :
    ∃ d : TableDefinition Item, (itemSchema "SHELF, item_id").define 0 = .ok d ∧
      d.KeyedBy ["shelf", "Item_Id"] d.keyColumns ∧
        (∀ c, c ∈ ["shelf", "Item_Id"] ↔ c ∈ d.keyColumns) ∧ d.keyColumns.Nodup := by
  obtain ⟨d, hd⟩ := exists_define_itemSchema effectiveKey_shelf_id meansItem_shelf_id
  obtain ⟨hkeyed, -, hsame, hnodup, -⟩ := define_keyedBy hd
  rw [primaryKey_item hd effectiveKey_shelf_id meansItem_shelf_id] at hkeyed hsame
  exact ⟨d, hd, hkeyed, hsame, hnodup⟩

/-- A column that is named twice, in different letters, is listed twice. -/
theorem primaryKey_repeated_item :
    ∃ d : TableDefinition Item, (itemSchema "shelf, SHELF").define 0 = .ok d ∧
      d.primaryKey = ["shelf", "shelf"] ∧ ¬d.primaryKey.Nodup ∧
        (Dialect.h2.statement d.keyClause).sql = ", PRIMARY KEY(shelf, shelf)" := by
  have hkey : (itemSchema "shelf, SHELF").effectiveKey = ["shelf", "SHELF"] :=
    effectiveKey_itemSchema (by decide)
  have hupper : Text.sameName "shelf" "SHELF" = true := by
    rw [Text.sameName_eq_decide]
    decide
  have hnames : List.Forall₂ MeansItem ["shelf", "SHELF"] ["shelf", "shelf"] :=
    .cons ⟨by simp, Text.sameName_self _⟩ (.cons ⟨by simp, hupper⟩ .nil)
  obtain ⟨d, hd⟩ := exists_define_itemSchema hkey hnames
  have hlisted : d.primaryKey = ["shelf", "shelf"] := primaryKey_item hd hkey hnames
  refine ⟨d, hd, hlisted, ?_, ?_⟩
  · rw [hlisted]
    decide
  · rw [TableDefinition.keyClause, TableDefinition.hasPrimaryKey, hlisted]
    decide

end ModelSchema
end TableMapping
