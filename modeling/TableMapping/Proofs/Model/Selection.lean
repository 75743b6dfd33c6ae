import TableMapping.Proofs.Model.Definition

/-!
# What a schema selects

The rule by which a schema chooses its columns can be said without positions.  On offer are the
model's own fields and, where columns are inherited, those of the parent; of these the schema takes
the ones with column options and, unless it goes by annotations only, the public ones.
`ModelSchema.mapFields` asks the same at every position in turn.

* `ModelSchema.selected`: the fields that get a column, in the order of their declaration.
* `ModelSchema.mappedFrom_zero`: the positions that are mapped are those of the selected fields.
* `ModelSchema.forall₂_define`, `ModelSchema.forall₂_isTypedBy`: a definition has one column for
  each selected field, in order, with the data type that the field is declared with.
* `ModelSchema.effectiveKey`: the names that the primary key is made of, and
  `ModelSchema.keyNames_eq`, which finds them among the columns.
-/

namespace TableMapping

open Runs

namespace FieldSpec

variable {M : Type}

/-- The options of a field's column. -/
def options (a : FieldSpec M) : ColumnOptions :=
  a.column.getD {}

/-- The name of a field's column. -/
def columnName (a : FieldSpec M) : String :=
  a.options.name.getD a.name

end FieldSpec

namespace ModelSchema

variable {M : Type} {s : ModelSchema M} {build index : Nat} {a : FieldSpec M} {f : MappedField M}
  {fs : List (FieldSpec M)} {d : TableDefinition M}

/-! ## Selected fields -/

/-- Whether the mapping takes a field that is on offer. -/
def selects (s : ModelSchema M) (a : FieldSpec M) : Bool :=
  if s.annotationsOnly then a.column.isSome else a.isPublic || a.column.isSome

/-- The declared fields that are on offer. -/
def offered (s : ModelSchema M) : List (FieldSpec M) :=
  s.fields ++ if s.inheritsColumns then s.parentFields else []

/-- The fields that get a column. -/
def selected (s : ModelSchema M) : List (FieldSpec M) :=
  s.offered.filter s.selects

/-- The fields among those from a position on that are mapped. -/
def mappedFrom (s : ModelSchema M) (index : Nat) : List (FieldSpec M) → List (FieldSpec M)
  | [] => []
  | a :: fs =>
    if s.isMapped index a then a :: s.mappedFrom (index + 1) fs else s.mappedFrom (index + 1) fs

theorem isMapped_eq (s : ModelSchema M) (index : Nat) (a : FieldSpec M) :
    s.isMapped index a = ((index < s.fields.length || s.inheritsColumns) && s.selects a) := by
  rw [isMapped, selects]
  cases s.annotationsOnly <;> cases a.column.isSome <;> simp

theorem mappedFrom_append (s : ModelSchema M) (index : Nat) (fs gs : List (FieldSpec M)) :
    s.mappedFrom index (fs ++ gs) =
      s.mappedFrom index fs ++ s.mappedFrom (index + fs.length) gs := by
  induction fs generalizing index with
  | nil => rfl
  | cons a fs ih =>
    have hnext : index + 1 + fs.length = index + (fs.length + 1) := by omega
    rw [List.cons_append, mappedFrom, mappedFrom, ih, List.length_cons, hnext]
    split <;> rfl

/-- Where all positions are on offer or none is, the rule decides. -/
theorem mappedFrom_eq (offers : Bool)
    (h : ∀ i, index ≤ i → i < index + fs.length →
      (decide (i < s.fields.length) || s.inheritsColumns) = offers) :
    s.mappedFrom index fs = if offers then fs.filter s.selects else [] := by
  induction fs generalizing index with
  | nil => simp [mappedFrom]
  | cons a fs ih =>
    have hhead := h index (Nat.le_refl index) (by simp)
    have htail : s.mappedFrom (index + 1) fs = if offers then fs.filter s.selects else [] :=
      ih fun i hi hlt => h i (by omega) (by rw [List.length_cons]; omega)
    rw [mappedFrom, htail, isMapped_eq, hhead]
    cases offers with
    | false => rfl
    | true => cases hselects : s.selects a <;> simp [hselects]

theorem mappedFrom_zero (s : ModelSchema M) : s.mappedFrom 0 s.declaredFields = s.selected := by
  have hown : s.mappedFrom 0 s.fields = s.fields.filter s.selects := by
    refine (mappedFrom_eq true fun i _ hi => ?_).trans (if_pos rfl)
    rw [Nat.zero_add] at hi
    simp [hi]
  have hparent : s.mappedFrom (0 + s.fields.length) s.parentFields =
      if s.inheritsColumns then s.parentFields.filter s.selects else [] := by
    refine mappedFrom_eq _ fun i hi _ => ?_
    have hbehind : ¬i < s.fields.length := by omega
    simp [hbehind]
  rw [declaredFields, mappedFrom_append, hown, hparent, selected, offered, List.filter_append]
  split <;> rfl

/-! ## Their columns -/

/-- A column is that of a declared field: it stands at the place of the field and has what the
field is declared with. -/
structure IsColumnOf (s : ModelSchema M) (a : FieldSpec M) (f : MappedField M) : Prop where
  place : s.declaredFields[f.declaredIndex]? = some a
  fieldName : f.fieldName = a.name
  columnName : f.columnName = a.columnName
  fieldType : f.fieldType = a.fieldType
  maxLength : f.maxLength = a.options.length
  isAutoIncrement : f.isAutoIncrement = a.options.autoIncrement
  trim : f.trim = a.options.trim
  allowNull : f.allowNull = a.options.nullable
  adapter : f.adapter = a.adapter
  get : f.get = a.get
  set : f.set = a.set

/-- The column of a field before the primary key is known: it is flagged as its options say. -/
structure IsMappingOf (s : ModelSchema M) (a : FieldSpec M) (f : MappedField M) : Prop
    extends s.IsColumnOf a f where
  flag : f.isPrimaryKey = a.options.primaryKey

theorem isMappingOf_mapField (hplace : s.declaredFields[index]? = some a)
    (h : s.mapField build index a = .ok f) : s.IsMappingOf a f := by
  obtain ⟨dataType, -, heq⟩ := bind_eq_ok.mp h
  cases Except.ok.inj heq
  exact ⟨⟨hplace, rfl, rfl, rfl, rfl, rfl, rfl, rfl, rfl, rfl, rfl⟩, rfl⟩

theorem IsColumnOf.flagKey (h : s.IsColumnOf a f) (key : List String) :
    s.IsColumnOf a (flagKey key f) :=
  ⟨h.place, h.fieldName, h.columnName, h.fieldType, h.maxLength, h.isAutoIncrement, h.trim,
    h.allowNull, h.adapter, h.get, h.set⟩

/-- The column has the data type, the encoding and the default value that its field is declared
with.  A blank default value is none. -/
structure IsTypedBy (s : ModelSchema M) (a : FieldSpec M) (f : MappedField M) : Prop where
  dataType : s.dataTypeOf a = .ok f.dataType
  encoding : f.encoding = encodingOf a
  defaultValue : f.defaultValue = a.options.defaultValue.filter fun v => !Text.isBlankText v

theorem isTypedBy_mapField (h : s.mapField build index a = .ok f) (key : List String) :
    s.IsTypedBy a (ModelSchema.flagKey key f) := by
  obtain ⟨dataType, hdataType, heq⟩ := bind_eq_ok.mp h
  cases Except.ok.inj heq
  exact ⟨hdataType, rfl, rfl⟩

/-- Mapping the declared fields from a position on gives one column for each that is mapped, and a
relation between fields and their columns holds of all. -/
theorem forall₂_mapFields {R : FieldSpec M → MappedField M → Prop}
    (hmap : ∀ i a f, s.declaredFields[i]? = some a → s.mapField build i a = .ok f → R a f)
    {specs : List (FieldSpec M)} {earlier mapped : List (MappedField M)}
    (hplaces : s.declaredFields.drop index = fs) (hearlier : List.Forall₂ R specs earlier)
    (h : s.mapFields build index earlier fs = .ok mapped) :
    List.Forall₂ R (specs ++ s.mappedFrom index fs) mapped := by
  induction fs generalizing index specs earlier with
  | nil =>
    cases h
    rwa [mappedFrom, List.append_nil]
  | cons a fs ih =>
    have hplace : s.declaredFields[index]? = some a := by
      rw [← List.head?_drop, hplaces, List.head?_cons]
    have hrest : s.declaredFields.drop (index + 1) = fs := by
      rw [← List.tail_drop, hplaces, List.tail_cons]
    rw [mapFields] at h
    rw [mappedFrom]
    by_cases hmapped : s.isMapped index a = true
    · rw [if_pos hmapped] at h ⊢
      obtain ⟨field, hfield, h⟩ := bind_eq_ok.mp h
      split at h
      · cases h
      · have hone := List.Forall₂.cons (hmap index a field hplace hfield) .nil
        have hmore := ih hrest (List.rel_append hearlier hone) h
        rwa [List.append_assoc, List.singleton_append] at hmore
    · rw [if_neg hmapped] at h ⊢
      exact ih hrest hearlier h

theorem columnNames_of_forall₂ {specs : List (FieldSpec M)} {fields : List (MappedField M)}
    (h : List.Forall₂ s.IsColumnOf specs fields) :
    fields.map (fun f => f.columnName) = specs.map fun a => a.columnName := by
  induction h with
  | nil => rfl
  | cons hf _ ih => rw [List.map_cons, List.map_cons, ih, hf.columnName]

theorem forall₂_selected {R : FieldSpec M → MappedField M → Prop}
    (hmap : ∀ i a f, s.declaredFields[i]? = some a → s.mapField build i a = .ok f → R a f)
    {mapped : List (MappedField M)} (h : s.mapFields build 0 [] s.declaredFields = .ok mapped) :
    List.Forall₂ R s.selected mapped := by
  have hcolumns := forall₂_mapFields hmap List.drop_zero .nil h
  rwa [List.nil_append, mappedFrom_zero] at hcolumns

theorem forall₂_of_mapFields {mapped : List (MappedField M)}
    (h : s.mapFields build 0 [] s.declaredFields = .ok mapped) :
    List.Forall₂ s.IsMappingOf s.selected mapped :=
  forall₂_selected (fun _ _ _ hplace hfield => isMappingOf_mapField hplace hfield) h

/-- A definition has one column for each selected field, in the order of their declaration. -/
theorem forall₂_define (h : s.define build = .ok d) :
    List.Forall₂ s.IsColumnOf s.selected d.fields := by
  obtain ⟨mapped, hmapped, -, hfields, -⟩ := define_eq_ok h
  rw [hfields, List.forall₂_map_right_iff]
  exact (forall₂_of_mapFields hmapped).imp fun _ _ hf => hf.toIsColumnOf.flagKey d.primaryKey

theorem forall₂_isTypedBy (h : s.define build = .ok d) :
    List.Forall₂ s.IsTypedBy s.selected d.fields := by
  obtain ⟨mapped, hmapped, -, hfields, -⟩ := define_eq_ok h
  rw [hfields, List.forall₂_map_right_iff]
  exact forall₂_selected (fun _ _ _ _ hfield => isTypedBy_mapField hfield d.primaryKey) hmapped

/-- Every column of a definition is that of a selected field. -/
theorem exists_selected_of_mem (h : s.define build = .ok d) (hf : f ∈ d.fields) :
    ∃ a ∈ s.selected, s.IsColumnOf a f ∧ s.IsTypedBy a f := by
  obtain ⟨i, hi, rfl⟩ := List.getElem_of_mem hf
  have hcolumns := forall₂_define h
  have hplace : i < s.selected.length := hcolumns.length_eq ▸ hi
  exact ⟨_, List.getElem_mem hplace, hcolumns.get hplace hi, (forall₂_isTypedBy h).get hplace hi⟩

/-- The columns of a definition have the names that the selected fields say. -/
theorem columnNames_of_define (h : s.define build = .ok d) :
    d.fields.map (fun f => f.columnName) = s.selected.map fun a => a.columnName :=
  columnNames_of_forall₂ (forall₂_define h)

/-! ## The names of the key -/

/-- The names that the primary key is made of: those of the table's list, or the columns of the
flagged fields when it lists none. -/
def effectiveKey (s : ModelSchema M) : List String :=
  let listed := (s.table.bind (·.primaryKey)).elim [] Text.columnNames
  if listed.isEmpty then
    (s.selected.filter fun a => a.options.primaryKey).map fun a => a.columnName
  else listed

theorem effectiveKey_of_listed {list name : String} {names : List String}
    (htable : s.table.bind (·.primaryKey) = some list)
    (hnames : Text.columnNames list = name :: names) : s.effectiveKey = name :: names := by
  rw [effectiveKey, htable, Option.elim_some, hnames]
  rfl

theorem flaggedNames_of_forall₂ {specs : List (FieldSpec M)} {mapped : List (MappedField M)}
    (h : List.Forall₂ s.IsMappingOf specs mapped) :
    (mapped.filter fun f => f.isPrimaryKey).map (fun f => f.columnName) =
      (specs.filter fun a => a.options.primaryKey).map fun a => a.columnName := by
  induction h with
  | nil => rfl
  | cons hf _ ih =>
    rw [List.filter_cons, List.filter_cons, hf.flag]
    split
    · rw [List.map_cons, List.map_cons, ih, hf.columnName]
    · exact ih

theorem keyNames_eq {mapped : List (MappedField M)}
    (h : List.Forall₂ s.IsMappingOf s.selected mapped) : s.keyNames mapped = s.effectiveKey := by
  have hflagged := flaggedNames_of_forall₂ h
  rw [keyNames, effectiveKey]
  cases s.table.bind (·.primaryKey) with
  | none => exact hflagged
  | some list =>
    rw [Option.map_some, Option.elim_some]
    cases Text.columnNames list with
    | nil => exact hflagged
    | cons name names => rfl

end ModelSchema
end TableMapping
