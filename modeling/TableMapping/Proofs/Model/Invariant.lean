import TableMapping.Proofs.Model.Faults

/-!
# How the parts of a definition fit

A definition holds four lists: the declared fields, the columns, the primary key and the indexes.
They are filled one after the other, the primary key replaces flags that were set before, and names
are looked up with letter case put aside.  `TableDefinition.Conforms` says how the lists fit in the
end, and `ModelSchema.define_conforms` that they do for every schema that is accepted.

* `ModelSchema.forall₂_define` and `ModelSchema.placed_of_define` speak of the columns.
* `ModelSchema.mem_primaryKey_iff` speaks of the key and its flags.
* `ModelSchema.indexesOver_defineIndexes` speaks of the indexes: one more index keeps what holds of
  those before it.
-/

namespace TableMapping

open Runs

/-- Indexes with different names over columns that fields are mapped to. -/
structure IndexesOver {M : Type} (fields : List (MappedField M)) (indexes : List IndexDefinition) :
    Prop where
  named : indexes.Pairwise fun i j => Text.sameName i.name j.name = false
  columns : ∀ i ∈ indexes, ∀ c ∈ i.columnNames, ∃ f ∈ fields, f.columnName = c

namespace IndexesOver

variable {M : Type} {fields : List (MappedField M)} {indexes : List IndexDefinition}
  {i : IndexDefinition}

theorem nil : IndexesOver fields [] :=
  ⟨.nil, List.forall_mem_nil _⟩

/-- An index behind the others, whose name none of them has. -/
theorem concat (h : IndexesOver fields indexes)
    (hnew : (indexes.any fun j => Text.sameName j.name i.name) = false)
    (hcolumns : ∀ c ∈ i.columnNames, ∃ f ∈ fields, f.columnName = c) :
    IndexesOver fields (indexes ++ [i]) := by
  rw [List.any_eq_false] at hnew
  refine ⟨?_, ?_⟩
  · refine List.pairwise_append.mpr ⟨h.named, List.pairwise_singleton _ _, ?_⟩
    intro j hj i' hi'
    rw [List.mem_singleton.mp hi']
    exact Bool.eq_false_iff.mpr (hnew j hj)
  · intro j hj
    rcases List.mem_append.mp hj with hj | hj
    · exact h.columns j hj
    · rw [List.mem_singleton.mp hj]
      exact hcolumns

end IndexesOver

/-- What a definition has from its schema, and how its parts fit. -/
structure TableDefinition.Conforms {M : Type} (d : TableDefinition M) (s : ModelSchema M) :
    Prop where
  /-- The selected fields have one column each, in the order of their declaration. -/
  fields : List.Forall₂ s.IsColumnOf s.selected d.fields
  ordered : d.fields.Pairwise fun f g => f.declaredIndex < g.declaredIndex
  declared : d.declared = s.declaredFields.map fun a => a.name
  place : ∀ f ∈ d.fields, d.declared[f.declaredIndex]? = some f.fieldName
  columnNames : d.fields.Pairwise fun f g => Text.sameName f.columnName g.columnName = false
  flags : ∀ f ∈ d.fields, f.isPrimaryKey = true ↔ f.columnName ∈ d.primaryKey
  keyColumns : ∀ c ∈ d.primaryKey, ∃ f ∈ d.fields, f.columnName = c
  indexColumns : ∀ i ∈ d.indexes, ∀ c ∈ i.columnNames, ∃ f ∈ d.fields, f.columnName = c
  indexNames : d.indexes.Pairwise fun i j => Text.sameName i.name j.name = false

namespace ModelSchema

variable {M : Type} {s : ModelSchema M} {build : Nat} {d : TableDefinition M}

theorem indexesOver_defineIndexes {fields : List (MappedField M)}
    {earlier indexes : List IndexDefinition} {rest : List IndexOptions}
    (h : s.defineIndexes fields earlier rest = .ok indexes)
    (hearlier : IndexesOver fields earlier) : IndexesOver fields indexes := by
  induction rest generalizing earlier with
  | nil =>
    cases h
    exact hearlier
  | cons options rest ih =>
    rw [defineIndexes] at h
    split at h
    · cases h
    · rename_i hnew
      obtain ⟨columns, hcolumns, h⟩ := bind_eq_ok.mp h
      refine ih h (hearlier.concat (Bool.eq_false_iff.mpr hnew) fun c hc => ?_)
      exact mem_of_resolveColumns hcolumns hc

/-- A column stands where the name of its field stands. -/
theorem getElem?_declared_of_forall₂ {specs : List (FieldSpec M)} {fields : List (MappedField M)}
    (h : List.Forall₂ s.IsColumnOf specs fields) {f : MappedField M} (hf : f ∈ fields) :
    (s.declaredFields.map fun a => a.name)[f.declaredIndex]? = some f.fieldName := by
  obtain ⟨i, hi, rfl⟩ := List.getElem_of_mem hf
  have hcolumn : s.IsColumnOf _ fields[i] := h.get (h.length_eq ▸ hi) hi
  rw [List.getElem?_map, hcolumn.place, Option.map_some, hcolumn.fieldName]

/-- In every definition of a schema the parts fit. -/
theorem define_conforms (h : s.define build = .ok d) : d.Conforms s := by
  have hplaced := placed_of_define h
  have hcolumns := forall₂_define h
  have hindexes := indexesOver_defineIndexes (defineIndexes_of_define h) .nil
  obtain ⟨_, -, -, -, hdeclared, -⟩ := define_eq_ok h
  refine {
    fields := hcolumns
    ordered := hplaced.ordered
    declared := hdeclared
    place := fun f hf => by rw [hdeclared, getElem?_declared_of_forall₂ hcolumns hf]
    columnNames := hplaced.named
    flags := fun f hf => ?_
    keyColumns := fun c hc => ?_
    indexColumns := hindexes.columns
    indexNames := hindexes.named }
  · rw [mem_primaryKey_iff h]
    constructor
    · exact fun hflag => ⟨f, hf, hflag, rfl⟩
    · rintro ⟨g, hg, hflag, hname⟩
      -- a flagged column of that name is this one
      have hsame : Text.sameName g.columnName f.columnName = true := by
        rw [hname, Text.sameName_self]
      rwa [← hplaced.eq_of_sameName hg hf hsame]
  · obtain ⟨f, hf, -, hname⟩ := (mem_primaryKey_iff h).mp hc
    exact ⟨f, hf, hname⟩

/-! ### Items on shelves -/

/-- An item, the shelf it stands on, and a note that has no column. -/
structure Item where
  id : Int64
  label : String
  note : String
  shelf : String

def itemId : FieldSpec Item :=
  (FieldSpec.value Int64 "id" (·.id) fun x m => { m with id := x }).withColumn
    { name := some "Item_Id", autoIncrement := true }

def itemLabel : FieldSpec Item :=
  (FieldSpec.value String "label" (·.label) fun x m => { m with label := x }).withColumn {}

def itemNote : FieldSpec Item :=
  FieldSpec.value String "note" (·.note) fun x m => { m with note := x }

def shelfName : FieldSpec String :=
  (FieldSpec.value String "shelf" id fun x _ => x).withColumn {}

/-- The parent of an item is its shelf. -/
def shelfSchema : ModelSchema String :=
  (named "Shelf" "").addField shelfName

/-- The column that items inherit. -/
def itemShelf : FieldSpec Item :=
  shelfName.lift (·.shelf) fun x m => { m with shelf := x }

/-- The table of items lists its primary key. -/
def itemSchema (key : String) : ModelSchema Item :=
  let table := (named "Item" ⟨0, "", "", ""⟩).withTable
    { primaryKey := some key, inheritColumns := true }
  let own := ((table.addField itemId).addField itemLabel).addField itemNote
  let indexed := (own.addIndex { columns := ["LABEL"], kind := .unique }).addIndex
    { name := some "by_shelf", columns := ["shelf", "label"] }
  indexed.inherit shelfSchema (·.shelf) fun x m => { m with shelf := x }

theorem effectiveKey_itemSchema {key name : String} {names : List String}
    (h : Text.columnNames key = name :: names) : (itemSchema key).effectiveKey = name :: names :=
  effectiveKey_of_listed rfl h

theorem selected_itemSchema (key : String) :
    (itemSchema key).selected = [itemId, itemLabel, itemShelf] := rfl

theorem namedIndexes_itemSchema (key : String) :
    (itemSchema key).namedIndexes =
      [("Item_0", { columns := ["LABEL"], kind := .unique }),
        ("by_shelf", { name := some "by_shelf", columns := ["shelf", "label"] })] := by
  have hgenerated : (itemSchema key).indexName 0 { columns := ["LABEL"], kind := .unique } =
      "Item_0" := by
    show "Item" ++ "_" ++ Numeral.ofNat 0 = "Item_0"
    decide +kernel
  have hblank : Text.isBlankText "by_shelf" = false := by decide +kernel
  have hnamed : (itemSchema key).indexName 1
      { name := some "by_shelf", columns := ["shelf", "label"] } = "by_shelf" := by
    simp [indexName, Option.filter, hblank]
  rw [← hgenerated]
  nth_rewrite 2 [← hnamed]
  rfl

/-- A name, whatever the case of its letters, stands for a column of the items. -/
def MeansItem (name column : String) : Prop :=
  column ∈ ["Item_Id", "label", "shelf"] ∧ Text.sameName column name = true

theorem unknownColumns_itemSchema (key : String) {names columns : List String}
    (h : List.Forall₂ MeansItem names columns) :
    (itemSchema key).unknownColumns "primary key" names = [] := by
  induction h with
  | nil => rfl
  | @cons name c names columns hc _ ih =>
    have hany : ((itemSchema key).selected.any fun a => Text.sameName a.columnName name) = true := by
      have hcolumn : (["Item_Id", "label", "shelf"].any fun c => Text.sameName c name) = true :=
        List.any_eq_true.mpr ⟨c, hc.1, hc.2⟩
      exact hcolumn
    rw [unknownColumns, List.flatMap_cons, if_pos hany, List.nil_append]
    exact ih

/-- Items have a table when their columns have the names that the key lists. -/
theorem exists_define_itemSchema {key : String} {names columns : List String}
    (hkey : (itemSchema key).effectiveKey = names) (hnames : List.Forall₂ MeansItem names columns) :
    ∃ d : TableDefinition Item, (itemSchema key).define 0 = .ok d := by
  have hfaults : (itemSchema key).faults = [] := by
    rw [faults, hkey, unknownColumns_itemSchema key hnames, namedIndexes_itemSchema,
      selected_itemSchema]
    simp only [inTurn, fieldFaults, indexFaults, unknownColumns, selected_itemSchema,
      Text.sameName_eq_decide]
    rfl
  exact exists_define_of_faults hfaults 0

theorem effectiveKey_shelf_id :
    (itemSchema "SHELF, item_id").effectiveKey = ["SHELF", "item_id"] :=
  effectiveKey_itemSchema (by decide)

theorem meansItem_shelf_id : List.Forall₂ MeansItem ["SHELF", "item_id"] ["shelf", "Item_Id"] := by
  have hshelf : Text.sameName "shelf" "SHELF" = true := by
    rw [Text.sameName_eq_decide]
    decide
  have hid : Text.sameName "Item_Id" "item_id" = true := by
    rw [Text.sameName_eq_decide]
    decide
  exact .cons ⟨by simp, hshelf⟩ (.cons ⟨by simp, hid⟩ .nil)

/-- The key of the items is spelled as their columns are. -/
theorem define_conforms_item :
    ∃ d : TableDefinition Item, (itemSchema "SHELF, item_id").define 0 = .ok d ∧
      d.Conforms (itemSchema "SHELF, item_id") ∧
        d.fields.map (fun f => f.columnName) = ["Item_Id", "label", "shelf"] := by
  obtain ⟨d, hd⟩ := exists_define_itemSchema effectiveKey_shelf_id meansItem_shelf_id
  exact ⟨d, hd, define_conforms hd, columnNames_of_define hd⟩

end ModelSchema
end TableMapping
