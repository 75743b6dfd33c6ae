import TableMapping.Proofs.Sql.AdapterCalls
import TableMapping.Proofs.Sql.KeyColumns
import TableMapping.Proofs.Sql.Spelling

/-!
# Writing the row with the key of an object

An update and a deletion find the row of an object by its key, and without a key they are refused
before anything is converted.  The list of what is set and the chain of conditions come from two
passes over the fields, and the placeholders of the conditions count on from the list.

* `TableDefinition.values_of_keyConditions`: the conditions that find a row, with their values.
* `TableDefinition.values_of_updateStatement`, `TableDefinition.values_of_deleteStatement`: the
  statements of the values that their passes find.
* `TableDefinition.fields_split`, `TableDefinition.updatedFields_of_keyOnly`: what is set.
* `TableDefinition.perm_updatedColumns_keyColumns`: the two passes have every column once.
* `TableDefinition.writesByKey_of_define`: text, values and failures of both statements.
-/

namespace TableMapping
namespace TableDefinition

open Runs

variable {M : Type} {s : ModelSchema M} {build : Nat} {d : TableDefinition M} {m : M}
  {dialect : Dialect} {fs : List (MappedField M)} {fvs : List (MappedField M × Value)}
  {st : Statement} {served : MappedField M → List AdapterCall} {l l' : Ledger}

/-! ## The passes -/

theorem nodup_slots_filter (hd : s.define build = .ok d) (p : MappedField M → Bool) :
    ((d.fields.filter p).map fun f => f.slot).Nodup :=
  (List.filter_sublist.map _).nodup (ModelSchema.nodup_slots hd)

theorem nodup_slots_updatedFields (hd : s.define build = .ok d) :
    (d.updatedFields.map fun f => f.slot).Nodup := by
  obtain ⟨p, hp⟩ := updatedFields_eq_filter d
  rw [hp]
  exact nodup_slots_filter hd p

/-- A key has a field. -/
theorem keyFields_ne_nil (hd : s.define build = .ok d) (hkeyed : d.hasPrimaryKey = true) :
    d.keyFields ≠ [] := by
  intro hnil
  have hempty : d.primaryKey = [] := by
    refine List.eq_nil_iff_forall_not_mem.mpr fun c hc => ?_
    rw [mem_primaryKey hd, hnil] at hc
    exact List.not_mem_nil hc
  simp [hasPrimaryKey, hempty] at hkeyed

/-- So an update has something to set, if only the key. -/
theorem updatedFields_ne_nil (hd : s.define build = .ok d) (hkeyed : d.hasPrimaryKey = true) :
    d.updatedFields ≠ [] := by
  rw [updatedFields]
  by_cases hempty : d.otherFields.isEmpty = true
  · rw [if_pos hempty]
    exact keyFields_ne_nil hd hkeyed
  · rw [if_neg hempty]
    exact fun hnil => hempty (List.isEmpty_iff.mpr hnil)

/-- The conditions that find the row of an object compare its key columns with their values. -/
theorem values_of_keyConditions (hd : s.define build = .ok d) {conditions : List Condition}
    (h : (d.keyConditions m).run l = (.ok conditions, l')) :
    ∃ fvs, ValuesAt m l.served d.keyFields fvs ∧ conditions = equalities (assignments fvs) ∧
      l'.calls = (l.serve (MappedField.calls m d.keyFields)).calls := by
  rw [keyConditions_eq hd, run_bind_ok Mapping.run_nextAlias] at h
  obtain ⟨fvs, l₁, hrun, h⟩ := run_bind_eq_ok.mp h
  cases h
  obtain ⟨hvalues, rfl⟩ := (run_storedValues_eq_ok_iff (nodup_slots_filter hd _)).mp hrun
  -- The number of the alias is the only other thing that the ledger knows more.
  exact ⟨fvs, hvalues, rfl, rfl⟩

theorem values_of_updateStatement (hd : s.define build = .ok d)
    (h : (d.updateStatement m dialect).run l = (.ok st, l')) :
    ∃ set found, ValuesAt m l.served d.updatedFields set ∧
      ValuesAt m (l.serve (MappedField.calls m d.updatedFields)).served d.keyFields found ∧
      st = d.statementOf dialect (.update (assignments set) (assignments found)) ∧
      l'.calls = ((l.serve (MappedField.calls m d.updatedFields)).serve
        (MappedField.calls m d.keyFields)).calls := by
  obtain ⟨fragments, l₁, hfragments, h⟩ := run_bind_eq_ok.mp h
  cases h
  obtain ⟨_, l₂, hrequire, hfragments⟩ := run_bind_eq_ok.mp hfragments
  obtain ⟨set, l₃, hrun, hfragments⟩ := run_bind_eq_ok.mp hfragments
  obtain ⟨conditions, l₄, hconditions, hfragments⟩ := run_bind_eq_ok.mp hfragments
  cases hfragments
  obtain ⟨-, rfl⟩ := of_run_requireKey hrequire
  obtain ⟨hset, rfl⟩ := (run_storedValues_eq_ok_iff (nodup_slots_updatedFields hd)).mp hrun
  obtain ⟨found, hfound, rfl, hcalls⟩ := values_of_keyConditions hd hconditions
  refine ⟨set, found, hset, hfound, ?_, hcalls⟩
  have hcells : (assignments set).map (fun cell =>
      [Fragment.column cell.1, .text " = ", .param cell.2]) =
        set.map fun fv => [Fragment.column fv.1.columnName, .text " = ", .param fv.2] :=
    List.map_map
  rw [statementOf, Command.fragments, hcells]

theorem values_of_deleteStatement (hd : s.define build = .ok d)
    (h : (d.deleteStatement m dialect).run l = (.ok st, l')) :
    ∃ found, ValuesAt m l.served d.keyFields found ∧
      st = dialect.statement ([.text "DELETE FROM ", .table d.schemaName d.tableName] ++
        whereClause (equalities (assignments found))) := by
  obtain ⟨fragments, l₁, hfragments, h⟩ := run_bind_eq_ok.mp h
  cases h
  obtain ⟨_, l₂, hrequire, hfragments⟩ := run_bind_eq_ok.mp hfragments
  obtain ⟨conditions, l₃, hconditions, hfragments⟩ := run_bind_eq_ok.mp hfragments
  cases hfragments
  obtain ⟨-, rfl⟩ := of_run_requireKey hrequire
  obtain ⟨found, hfound, rfl, -⟩ := values_of_keyConditions hd hconditions
  exact ⟨found, hfound, rfl⟩

/-! ## The texts -/

theorem assignments_ne_nil (hd : s.define build = .ok d) (hkeyed : d.hasPrimaryKey = true)
    (hfields : fvs.map (·.1) = d.keyFields) : assignments fvs ≠ [] := by
  intro hnil
  have hcolumns := columns_of_fields hfields
  rw [hnil] at hcolumns
  exact keyFields_ne_nil hd hkeyed (List.map_eq_nil_iff.mp hcolumns.symm)

/-- A statement that finds a row by its key, behind some words. -/
theorem statement_byKey (hd : s.define build = .ok d) (hkeyed : d.hasPrimaryKey = true)
    (hfields : fvs.map (·.1) = d.keyFields) (dialect : Dialect) (words : String) :
    dialect.statement ([.text words, .table d.schemaName d.tableName] ++
        whereClause (equalities (assignments fvs))) =
      ⟨words ++ dialect.qualified d.schemaName d.tableName ++ " WHERE " ++
        " AND ".intercalate (dialect.equations 0 d.keyColumns), fvs.map (·.2)⟩ := by
  rw [Dialect.statement_where _ _ _ _ (assignments_ne_nil hd hkeyed hfields),
    columns_of_fields hfields, values_assignments]
  rfl

theorem statementOf_update (hd : s.define build = .ok d) (hkeyed : d.hasPrimaryKey = true)
    {set found : List (MappedField M × Value)} (hset : set.map (·.1) = d.updatedFields)
    (hfound : found.map (·.1) = d.keyFields) (dialect : Dialect) :
    d.statementOf dialect (.update (assignments set) (assignments found)) =
      ⟨"UPDATE " ++ dialect.qualified d.schemaName d.tableName ++ " SET " ++
        ", ".intercalate (dialect.equations 0 d.updatedColumns) ++ " WHERE " ++
        " AND ".intercalate (dialect.equations d.updatedColumns.length d.keyColumns),
        set.map (·.2) ++ found.map (·.2)⟩ := by
  have hlength : (assignments set).length = d.updatedColumns.length := by
    rw [updatedColumns, ← hset, assignments, List.length_map, List.length_map, List.length_map]
  rw [statementOf, Dialect.statement_update _ _ _ (assignments_ne_nil hd hkeyed hfound), hlength,
    columns_of_fields hset, columns_of_fields hfound, values_assignments, values_assignments]
  rfl

/-! ## The columns -/

/-- The key is what is asked for, and all else is what may be set. -/
theorem fields_split (hd : s.define build = .ok d) :
    d.keyFields = d.fields.filter (fun f => d.primaryKey.contains f.columnName) ∧
      d.otherFields = d.fields.filter (fun f => !d.primaryKey.contains f.columnName) := by
  have hkey : ∀ f ∈ d.fields, f.isPrimaryKey = d.primaryKey.contains f.columnName := by
    intro f hf
    rw [Bool.eq_iff_iff, List.contains_iff_mem, mem_primaryKey hd, keyFields,
      columnName_mem_map_filter hd _ hf]
  refine ⟨List.filter_congr hkey, List.filter_congr fun f hf => ?_⟩
  rw [hkey f hf]

/-- A table with nothing but its key has its key set. -/
theorem updatedFields_of_keyOnly (hother : d.otherFields = []) :
    d.updatedFields = d.keyFields := by
  rw [updatedFields, hother]
  rfl

theorem updatedFields_of_others (hother : d.otherFields ≠ []) :
    d.updatedFields = d.otherFields := by
  rw [updatedFields, List.isEmpty_eq_false_iff.mpr hother]
  rfl

/-- What is set and what is asked for are together all columns, unless there are none but those of
the key. -/
theorem perm_updatedColumns_keyColumns (hother : d.otherFields ≠ []) :
    (d.updatedColumns ++ d.keyColumns).Perm (d.fields.map fun f => f.columnName) := by
  rw [updatedColumns, updatedFields_of_others hother, keyColumns, ← List.map_append]
  refine List.Perm.map _ ?_
  have hsplit := List.filter_append_perm (fun f : MappedField M => f.isPrimaryKey) d.fields
  exact List.perm_append_comm.trans hsplit

/-! ## The statements -/

/-- How an update and a deletion find a row by the key of an object. -/
structure WritesByKey (d : TableDefinition M) (dialect : Dialect) (m : M) (l : Ledger) : Prop where
  updateFails (e : MappingError) : (∃ l', (d.updateStatement m dialect).run l = (.error e, l')) ↔
    FirstFault m (d.updatedFields ++ d.keyFields) l e
  deleteFails (e : MappingError) : (∃ l', (d.deleteStatement m dialect).run l = (.error e, l')) ↔
    FirstFault m d.keyFields l e
  update (st : Statement) (l' : Ledger) :
    (d.updateStatement m dialect).run l = (.ok st, l') →
      ∃ set found, ValuesAt m l.served d.updatedFields set ∧
        ValuesAt m (l.serve (MappedField.calls m d.updatedFields)).served d.keyFields found ∧
        st = ⟨"UPDATE " ++ dialect.qualified d.schemaName d.tableName ++ " SET " ++
          ", ".intercalate (dialect.equations 0 d.updatedColumns) ++ " WHERE " ++
          " AND ".intercalate (dialect.equations d.updatedColumns.length d.keyColumns),
          set.map (·.2) ++ found.map (·.2)⟩
  delete (st : Statement) (l' : Ledger) :
    (d.deleteStatement m dialect).run l = (.ok st, l') →
      ∃ found, ValuesAt m l.served d.keyFields found ∧
        st = ⟨"DELETE FROM " ++ dialect.qualified d.schemaName d.tableName ++ " WHERE " ++
          " AND ".intercalate (dialect.equations 0 d.keyColumns), found.map (·.2)⟩

theorem writesByKey (hd : s.define build = .ok d) (hkeyed : d.hasPrimaryKey = true)
    (dialect : Dialect) (m : M) (l : Ledger) : d.WritesByKey dialect m l where
  updateFails e := (converts_updateStatement hd hkeyed).run_eq_error_iff
  deleteFails e := (converts_deleteStatement hd hkeyed).run_eq_error_iff
  update st l' h := by
    obtain ⟨set, found, hset, hfound, rfl, -⟩ := values_of_updateStatement hd h
    exact ⟨set, found, hset, hfound, statementOf_update hd hkeyed hset.fields hfound.fields dialect⟩
  delete st l' h := by
    obtain ⟨found, hfound, rfl⟩ := values_of_deleteStatement hd h
    exact ⟨found, hfound, statement_byKey hd hkeyed hfound.fields dialect _⟩

/-- **Writing by key.**  Without primary key both statements are refused and no adapter has served a
call.  With one they fail with the first conversion that does, and otherwise consist of the columns
that are set and those that are asked for, in the order of the fields, each with the value of its
field in the place of its placeholder.  Where there are other columns than those of the key, these
are set and the update names every column once; otherwise the key is set. -/
theorem writesByKey_of_define (hd : s.define build = .ok d) (dialect : Dialect) (m : M)
    (l : Ledger) :
    (d.hasPrimaryKey = false →
      (d.updateStatement m dialect).run l = (.error (.noPrimaryKey d.tableName "update"), l) ∧
      (d.deleteStatement m dialect).run l = (.error (.noPrimaryKey d.tableName "delete"), l)) ∧
    (d.hasPrimaryKey = true → d.WritesByKey dialect m l) ∧
    (∀ f ∈ d.fields, f ∈ d.keyFields ↔ f.columnName ∈ d.primaryKey) ∧
    (d.keyFields = d.fields.filter (fun f => d.primaryKey.contains f.columnName) ∧
      d.otherFields = d.fields.filter (fun f => !d.primaryKey.contains f.columnName)) ∧
    (d.otherFields = [] → d.updatedFields = d.keyFields) ∧
    (d.otherFields ≠ [] →
      d.updatedFields = d.otherFields ∧
      (d.updatedColumns ++ d.keyColumns).Perm (d.fields.map fun f => f.columnName) ∧
      (d.updatedColumns ++ d.keyColumns).Nodup) := by
  refine ⟨fun hkeyless => ⟨?_, ?_⟩, fun hkeyed => writesByKey hd hkeyed dialect m l, ?_,
    fields_split hd, updatedFields_of_keyOnly, ?_⟩
  · exact run_updateStatement_of_keyless hkeyless m dialect l
  · exact run_deleteStatement_of_keyless hkeyless m dialect l
  · intro f hf
    rw [mem_primaryKey hd, keyFields, columnName_mem_map_filter hd _ hf, List.mem_filter]
    exact ⟨And.right, fun hkey => ⟨hf, hkey⟩⟩
  · intro hother
    have hperm := perm_updatedColumns_keyColumns hother
    exact ⟨updatedFields_of_others hother, hperm,
      hperm.nodup_iff.mpr (ModelSchema.placed_of_define hd).nodup_columnNames⟩

/-! ### A parcel, and a tag that is all key -/

/-- A parcel on its way. -/
structure Parcel where
  number : Int64
  code : String
  place : String

/-- An adapter that counts what it is asked, and that writes the count behind every text. -/
def countingAdapter : Adapter where
  dataType := "TEXT"
  serialize served
    | .of (.string text) => .ok (.text (text ++ "#" ++ Numeral.ofNat (served.length + 1)))
    | v => .ok v
  deserialize _ v := .ok v

def parcelNumber : FieldSpec Parcel :=
  (FieldSpec.value Int64 "number" (·.number) fun x p => { p with number := x }).withColumn
    { autoIncrement := true }

def parcelCode : FieldSpec Parcel :=
  ((FieldSpec.value String "code" (·.code) fun x p => { p with code := x }).withColumn
    { primaryKey := true }).withAdapter countingAdapter

def parcelPlace : FieldSpec Parcel :=
  FieldSpec.value String "place" (·.place) fun x p => { p with place := x }

def parcelSchema : ModelSchema Parcel :=
  (((ModelSchema.named "Parcel" ⟨0, "", ""⟩).addField parcelNumber).addField parcelCode).addField
    parcelPlace

def parcelColumn (f : FieldSpec Parcel) (dataType : String) (index : Nat) : MappedField Parcel where
  columnName := f.name
  fieldName := f.name
  fieldType := f.fieldType
  dataType := dataType
  maxLength := 0
  isPrimaryKey := (f.column.getD {}).primaryKey
  isAutoIncrement := (f.column.getD {}).autoIncrement
  trim := false
  allowNull := true
  defaultValue := none
  encoding := none
  declaredIndex := index
  build := 0
  adapter := f.adapter
  get := f.get
  set := f.set

def parcelDefinition : TableDefinition Parcel where
  modelName := "Parcel"
  schemaName := none
  tableName := "Parcel"
  version := 0
  createIfRequired := true
  memoryTable := false
  fields := [parcelColumn parcelNumber "BIGINT" 0, parcelColumn parcelCode "TEXT" 1,
    parcelColumn parcelPlace "VARCHAR" 2]
  primaryKey := ["code"]
  indexes := []
  declared := ["number", "code", "place"]
  blank := ⟨0, "", ""⟩

theorem define_parcelSchema : parcelSchema.define 0 = .ok parcelDefinition := by
  have hnames : Text.sameName "number" "code" = false ∧ Text.sameName "number" "place" = false ∧
      Text.sameName "code" "place" = false ∧ Text.sameName "code" "number" = false := by
    simp only [Text.sameName_eq_decide]
    decide
  obtain ⟨hcode, hplace, hother, hback⟩ := hnames
  have hmapped : parcelSchema.mapFields 0 0 [] parcelSchema.declaredFields =
      .ok parcelDefinition.fields := by
    show (if (Text.sameName "number" "code" || false) = true then throw _ else
      (if (Text.sameName "number" "place" || (Text.sameName "code" "place" || false)) = true then
        throw _ else _)) = _
    rw [hcode, hplace, hother]
    rfl
  have hkey : parcelSchema.resolveColumns "primary key" parcelDefinition.fields
      (parcelSchema.keyNames parcelDefinition.fields) = .ok ["code"] := by
    have hkeyNames : parcelSchema.keyNames parcelDefinition.fields = ["code"] := rfl
    rw [hkeyNames]
    simp [ModelSchema.resolveColumns, parcelDefinition, parcelColumn, parcelCode, FieldSpec.value,
      FieldSpec.ofAccessors, FieldSpec.withColumn, FieldSpec.withAdapter, parcelNumber, hcode]
  have hflags : parcelDefinition.fields.map (ModelSchema.flagKey ["code"]) =
      parcelDefinition.fields := by
    simp [ModelSchema.flagKey, parcelDefinition, parcelColumn, parcelNumber, parcelCode,
      parcelPlace, FieldSpec.value, FieldSpec.ofAccessors, FieldSpec.withColumn,
      FieldSpec.withAdapter, hback, hother]
  refine bind_eq_ok.mpr ⟨_, hmapped, bind_eq_ok.mpr ⟨_, hkey, bind_eq_ok.mpr ⟨[], rfl, ?_⟩⟩⟩
  rw [hflags]
  rfl

/-- A tag that has nothing but its key. -/
structure Tag where
  name : String

def tagName : FieldSpec Tag :=
  (FieldSpec.value String "name" (·.name) fun x _ => ⟨x⟩).withColumn { primaryKey := true }

def tagSchema : ModelSchema Tag :=
  (ModelSchema.named "Tag" ⟨""⟩).addField tagName

def tagColumn : MappedField Tag where
  columnName := "name"
  fieldName := "name"
  fieldType := .string
  dataType := "VARCHAR"
  maxLength := 0
  isPrimaryKey := true
  isAutoIncrement := false
  trim := false
  allowNull := true
  defaultValue := none
  encoding := none
  declaredIndex := 0
  build := 0
  adapter := none
  get := tagName.get
  set := tagName.set

def tagDefinition : TableDefinition Tag where
  modelName := "Tag"
  schemaName := none
  tableName := "Tag"
  version := 0
  createIfRequired := true
  memoryTable := false
  fields := [tagColumn]
  primaryKey := ["name"]
  indexes := []
  declared := ["name"]
  blank := ⟨""⟩

theorem define_tagSchema : tagSchema.define 0 = .ok tagDefinition := by
  have hkey : tagSchema.resolveColumns "primary key" [tagColumn]
      (tagSchema.keyNames [tagColumn]) = .ok ["name"] := by
    have hkeyNames : tagSchema.keyNames [tagColumn] = ["name"] := rfl
    rw [hkeyNames]
    simp [ModelSchema.resolveColumns, tagColumn]
  have hflags : [tagColumn].map (ModelSchema.flagKey ["name"]) = [tagColumn] := by
    simp [ModelSchema.flagKey, tagColumn]
  refine bind_eq_ok.mpr ⟨_, rfl, bind_eq_ok.mpr ⟨_, hkey, bind_eq_ok.mpr ⟨[], rfl, ?_⟩⟩⟩
  exact congrArg (fun fields => Except.ok { tagDefinition with fields := fields }) hflags

/-- The key of a parcel is written as it is found behind the list of what is set.  A tag has its key
set, and is found by it. -/
theorem writesByKey_of_define_parcel :
    (∃ st l', (parcelDefinition.updateStatement ⟨0, "box", "dock"⟩ .postgres).run .start =
        (.ok st, l') ∧
      st.sql = "UPDATE \"Parcel\" SET \"number\" = $1, \"place\" = $2 WHERE \"code\" = $3" ∧
      st.params = [.of (.bigInt 0), .text "dock", .text "box#1"]) ∧
    tagDefinition.updatedFields = tagDefinition.keyFields ∧
    ∃ st l', (tagDefinition.updateStatement ⟨"red"⟩ .postgres).run .start = (.ok st, l') ∧
      st.sql = "UPDATE \"Tag\" SET \"name\" = $1 WHERE \"name\" = $2" ∧
      st.params = [.text "red", .text "red"] := by
  have hcode : "box" ++ "#" ++ Numeral.ofNat 1 = "box#1" := by decide +kernel
  obtain ⟨st, l', hrun, hparams⟩ : ∃ st l',
      (parcelDefinition.updateStatement ⟨0, "box", "dock"⟩ .postgres).run .start = (.ok st, l') ∧
        st.params = [.of (.bigInt 0), .text "dock", .text ("box" ++ "#" ++ Numeral.ofNat 1)] :=
    ⟨_, _, rfl, rfl⟩
  obtain ⟨tagged, l'', htag, htagParams⟩ : ∃ st l',
      (tagDefinition.updateStatement ⟨"red"⟩ .postgres).run .start = (.ok st, l') ∧
        st.params = [.text "red", .text "red"] := ⟨_, _, rfl, rfl⟩
  have hparcel := (writesByKey_of_define define_parcelSchema .postgres ⟨0, "box", "dock"⟩ .start).2.1
  obtain ⟨-, hkeyed, -, -, honly, -⟩ :=
    writesByKey_of_define define_tagSchema .postgres ⟨"red"⟩ .start
  refine ⟨⟨st, l', hrun, ?_, hparams.trans (by rw [hcode])⟩, honly rfl,
    tagged, l'', htag, ?_, htagParams⟩
  · obtain ⟨set, found, -, -, heq⟩ := (hparcel rfl).update st l' hrun
    rw [heq]
    dsimp only
    decide +kernel
  · obtain ⟨set, found, -, -, heq⟩ := (hkeyed rfl).update tagged l'' htag
    rw [heq]
    dsimp only
    decide +kernel

end TableDefinition
end TableMapping
