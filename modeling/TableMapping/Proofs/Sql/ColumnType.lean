import TableMapping.Proofs.Number.Numeral
import TableMapping.Proofs.Sql.CreateTable

/-!
# Lengths in the type of a column

A length gets into the type of a column at two places that do not know of each other.  The options
of the column give one, which is written behind the data type.  The spelling of a data type may
bring one of its own: MySQL has no type for identifiers and spells it as a text of 36 characters.

* `Sql.lengthsIn`: the number of lengths in a text.
* `Dialect.spellDataType_cases`: the one data type that is spelled with a length.
* `Column.lengthsIn_typeText`: how many lengths the type of a column has.
* `TableDefinition.lengthsIn_of_define`: where this is one at most.
-/

namespace TableMapping

/-! ## Lengths in a text -/

namespace Sql

/-- Whether a number in parentheses stands ahead. -/
def opensLength : List Char → Bool
  | '(' :: c :: cs => c.isDigit && (cs.dropWhile Char.isDigit).head? == some ')'
  | _ => false

/-- The number of lengths, that is of numbers in parentheses, in a text. -/
def lengthsIn : List Char → Nat
  | [] => 0
  | c :: cs => (if opensLength (c :: cs) then 1 else 0) + lengthsIn cs

variable {cs ds : List Char}

theorem lengthsIn_append_of_notMem (h : '(' ∉ cs) : lengthsIn (cs ++ ds) = lengthsIn ds := by
  induction cs with
  | nil => rfl
  | cons c cs ih =>
    rw [List.mem_cons, not_or] at h
    have hclosed : opensLength (c :: (cs ++ ds)) = false := by
      rw [opensLength]
      exact fun _ _ heq => h.1 (List.cons.inj heq).1.symm
    rw [List.cons_append, lengthsIn, hclosed, ih h.2]
    exact Nat.zero_add _

/-- A number in parentheses is one length. -/
theorem lengthsIn_parenthesized (n : Nat) (ds : List Char) :
    lengthsIn (("(" ++ Numeral.ofNat n ++ ")").toList ++ ds) = 1 + lengthsIn ds := by
  have htext : ("(" ++ Numeral.ofNat n ++ ")").toList ++ ds =
      '(' :: (Numeral.digits n ++ ')' :: ds) := by
    simp [Numeral.ofNat]
  have hdigit : ∀ c ∈ Numeral.digits n, c.isDigit = true :=
    fun _ hc => Numeral.isDigit_of_mem_digits hc
  have hopens : opensLength ('(' :: (Numeral.digits n ++ ')' :: ds)) = true := by
    obtain ⟨c, cs, hcs⟩ := List.exists_cons_of_ne_nil (Numeral.digits_ne_nil n)
    rw [hcs, List.forall_mem_cons] at hdigit
    rw [hcs, List.cons_append, opensLength, hdigit.1, List.dropWhile_append_of_pos hdigit.2]
    rfl
  have hnone : '(' ∉ Numeral.digits n := fun hc => by
    have hfalse : '('.isDigit = false := by decide
    rw [hdigit _ hc] at hfalse
    cases hfalse
  have hclose : '(' ∉ [')'] := by decide
  rw [htext, lengthsIn, hopens, lengthsIn_append_of_notMem hnone, ← List.singleton_append,
    lengthsIn_append_of_notMem hclose]
  rfl

example : lengthsIn "CHAR(36) DECIMAL(10,2) TEXT()".toList = 1 := by decide

end Sql

open Sql

/-! ## The types of columns -/

/-- No data type of the type table has a length, and one of them is for identifiers. -/
theorem FieldType.of_dataType? {t : FieldType} {encoding : Option Encoding} {dataType : String}
    (h : t.dataType? encoding = some dataType) :
    '(' ∉ dataType.toList ∧ (dataType = "UUID" ↔ t = .uuid) := by
  have hother : ∀ name, '(' ∉ name.toList → name ≠ "UUID" → t ≠ .uuid →
      '(' ∉ name.toList ∧ (name = "UUID" ↔ t = .uuid) :=
    fun _ hname huuid ht => ⟨hname, fun h => absurd h huuid, fun h => absurd h ht⟩
  cases t with
  | uuid =>
    cases h
    exact ⟨by decide, fun _ => rfl, fun _ => rfl⟩
  | enumeration e =>
    rw [dataType?] at h
    split at h <;> cases h <;> exact hother _ (by decide) (by decide) (by simp)
  | other name => cases h
  | _ =>
    cases h
    exact hother _ (by decide) (by decide) (by simp)

namespace Dialect

variable {dataType : String}

/-- Of the data types without a length, one dialect spells one with a length. -/
theorem spellDataType_cases (d : Dialect) (h : '(' ∉ dataType.toList) (maxLength : Nat) :
    (d = .mySql ∧ dataType = "UUID") ∧ d.spellDataType dataType maxLength = "CHAR(36)" ∨
      ¬(d = .mySql ∧ dataType = "UUID") ∧
        '(' ∉ (d.spellDataType dataType maxLength).toList := by
  cases d with
  | mySql =>
    rw [spellDataType]
    by_cases huuid : dataType = "UUID"
    · have hvarchar : ¬(dataType = "VARCHAR" ∧ maxLength = 0) := fun hboth => by
        have hname := huuid.symm.trans hboth.1
        exact absurd hname (by decide)
      rw [if_neg hvarchar, if_pos huuid]
      exact .inl ⟨⟨rfl, huuid⟩, rfl⟩
    · refine .inr ⟨fun hboth => huuid hboth.2, ?_⟩
      split
      · decide
      · exact h
  | postgres =>
    refine .inr ⟨nofun, ?_⟩
    rw [spellDataType]
    split_ifs
    · decide
    · decide
    · decide
    · exact h
  | ansi | h2 | sqlite => exact .inr ⟨nofun, h⟩

/-- A generated key brings no length. -/
theorem notMem_autoIncrement (d : Dialect) (h : '(' ∉ dataType.toList) :
    '(' ∉ (d.autoIncrement dataType).dataType.toList := by
  cases d with
  | postgres =>
    rw [autoIncrement]
    split_ifs <;> decide
  | sqlite =>
    rw [autoIncrement]
    decide
  | ansi | h2 | mySql => exact h

end Dialect

namespace Column

theorem lengthsIn_spelledType (c : Column) (d : Dialect) (h : '(' ∉ c.dataType.toList)
    (ds : List Char) :
    lengthsIn ((c.spelledType d).dataType.toList ++ ds) =
      (if d = .mySql ∧ c.dataType = "UUID" then 1 else 0) + lengthsIn ds := by
  rcases d.spellDataType_cases h c.maxLength with ⟨hspells, heq⟩ | ⟨hspells, hnone⟩
  · have htype : (c.spelledType d).dataType = "CHAR" ++ ("(" ++ Numeral.ofNat 36 ++ ")") := by
      rw [spelledType, heq, hspells.1]
      cases c.isAutoIncrement <;> decide +kernel
    rw [htype, if_pos hspells, String.toList_append, List.append_assoc,
      lengthsIn_append_of_notMem (by decide), lengthsIn_parenthesized]
  · have hnone' : '(' ∉ (c.spelledType d).dataType.toList := by
      rw [spelledType]
      split
      · exact d.notMem_autoIncrement hnone
      · exact hnone
    rw [if_neg hspells, Nat.zero_add, lengthsIn_append_of_notMem hnone']

/-- The type of a column has the length that its spelling brings, and the one that its options give
where the engine does not generate its values. -/
theorem lengthsIn_typeText (c : Column) (d : Dialect) (h : '(' ∉ c.dataType.toList) :
    lengthsIn (c.typeText d).toList =
      (if d = .mySql ∧ c.dataType = "UUID" then 1 else 0) +
        if 0 < c.maxLength ∧ c.isAutoIncrement = false then 1 else 0 := by
  have hoptions : lengthsIn c.lengthText.toList =
      if 0 < c.maxLength ∧ c.isAutoIncrement = false then 1 else 0 := by
    rw [lengthText]
    simp only [gt_iff_lt, Bool.and_eq_true, decide_eq_true_eq, Bool.not_eq_true']
    split
    · rw [← List.append_nil (String.toList _), lengthsIn_parenthesized]
      rfl
    · rfl
  rw [typeText, String.toList_append, lengthsIn_spelledType c d h, hoptions]

end Column

/-! ## The columns of a definition -/

namespace TableDefinition

variable {M : Type} {s : ModelSchema M} {build : Nat} {d : TableDefinition M} {f : MappedField M}

/-- The data type of a field without an adapter has no length, and identifiers have one of their
own. -/
theorem dataType_of_define (hd : s.define build = .ok d) (hf : f ∈ d.fields)
    (hplain : f.adapter = none) :
    '(' ∉ f.dataType.toList ∧ (f.dataType = "UUID" ↔ f.fieldType = .uuid) := by
  obtain ⟨a, -, hcolumn, htyped⟩ := ModelSchema.exists_selected_of_mem hd hf
  have hdataType := htyped.dataType
  rw [ModelSchema.dataTypeOf, ← hcolumn.adapter, hplain, ← hcolumn.fieldType] at hdataType
  cases htable : f.fieldType.dataType? (ModelSchema.encodingOf a) with
  | some dataType =>
    rw [htable] at hdataType
    cases Except.ok.inj hdataType
    exact FieldType.of_dataType? htable
  | none =>
    -- Only a type outside the table has none there.
    have hother := f.fieldType.isNone_dataType? (ModelSchema.encodingOf a)
    rw [htable] at hdataType hother
    simp only at hdataType
    split at hdataType
    · cases hdataType
    · rw [← Except.ok.inj hdataType]
      refine ⟨by decide, fun h => absurd h (by decide), fun h => ?_⟩
      rw [h] at hother
      cases hother

/-- **A column type has one length at most, but for one kind of column.**  The statement that creates
a table is made of the columns with their types.  Where the field has no adapter, the type holds one
length at most exactly when the column is not an identifier of MySQL, with a length in its options
and with values that the engine does not generate; that column has the length of the spelling and
its own behind it. -/
theorem lengthsIn_of_define (hd : s.define build = .ok d) (dialect : Dialect) :
    (∃ opening closing, (d.createTableStatement dialect).sql =
      opening ++ ", ".intercalate (d.fields.map fun f =>
        (f.creationText d.tableName dialect).written dialect) ++ closing) ∧
    ∀ f ∈ d.fields, f.adapter = none →
      (lengthsIn (f.creationText d.tableName dialect).dataType.toList ≤ 1 ↔
        ¬(dialect = .mySql ∧ f.fieldType = .uuid ∧ 0 < f.maxLength ∧
          f.isAutoIncrement = false)) := by
  refine ⟨?_, fun f hf hplain => ?_⟩
  · rw [statement_createTable]
    exact ⟨_, _, String.append_assoc ..⟩
  · obtain ⟨hnone, huuid⟩ := dataType_of_define hd hf hplain
    have hcount : lengthsIn (f.creationText d.tableName dialect).dataType.toList =
        (if dialect = .mySql ∧ f.dataType = "UUID" then 1 else 0) +
          if 0 < f.maxLength ∧ f.isAutoIncrement = false then 1 else 0 :=
      f.lengthsIn_typeText dialect hnone
    rw [hcount, ← huuid, ← and_assoc]
    by_cases hspells : dialect = .mySql ∧ f.dataType = "UUID" <;>
      by_cases hgives : 0 < f.maxLength ∧ f.isAutoIncrement = false <;> simp [hspells, hgives]

/-! ### Devices -/

/-- A device with an identifier. -/
structure Device where
  id : Uuid

def deviceId : FieldSpec Device :=
  (FieldSpec.value Uuid "id" (·.id) fun x _ => ⟨x⟩).withColumn { length := 36 }

def deviceSchema : ModelSchema Device :=
  (ModelSchema.named "Device" ⟨.zero⟩).addField deviceId

def deviceColumn : MappedField Device where
  columnName := "id"
  fieldName := "id"
  fieldType := .uuid
  dataType := "UUID"
  maxLength := 36
  isPrimaryKey := false
  isAutoIncrement := false
  trim := false
  allowNull := true
  defaultValue := none
  encoding := none
  declaredIndex := 0
  build := 0
  adapter := none
  get := deviceId.get
  set := deviceId.set

def deviceDefinition : TableDefinition Device where
  modelName := "Device"
  schemaName := none
  tableName := "Device"
  version := 0
  createIfRequired := true
  memoryTable := false
  fields := [deviceColumn]
  primaryKey := []
  indexes := []
  declared := ["id"]
  blank := ⟨.zero⟩

theorem define_deviceSchema : deviceSchema.define 0 = .ok deviceDefinition := rfl

/-- SQLite writes the identifier of a device with the one length of its options. -/
theorem lengthsIn_of_define_device :
    (deviceDefinition.createTableStatement .sqlite).sql =
      "CREATE TABLE IF NOT EXISTS Device(id UUID(36))" ∧
    lengthsIn (deviceColumn.creationText "Device" .sqlite).dataType.toList ≤ 1 := by
  obtain ⟨-, hcolumns⟩ := lengthsIn_of_define define_deviceSchema .sqlite
  refine ⟨by decide +kernel, ?_⟩
  exact (hcolumns deviceColumn List.mem_cons_self rfl).mpr nofun

/-- MySQL is told the length of the identifier twice. -/
theorem lengthsIn_mySql_device :
    deviceSchema.define 0 = .ok deviceDefinition ∧
      deviceColumn ∈ deviceDefinition.fields ∧ deviceColumn.adapter = none ∧
      (deviceDefinition.createTableStatement .mySql).sql =
        "CREATE TABLE IF NOT EXISTS \x60Device\x60(\x60id\x60 CHAR(36)(36))" ∧
      (deviceColumn.creationText "Device" .mySql).dataType = "CHAR(36)(36)" ∧
      lengthsIn (deviceColumn.creationText "Device" .mySql).dataType.toList = 2 :=
  ⟨define_deviceSchema, List.mem_cons_self, rfl, by decide +kernel, by decide +kernel,
    by decide +kernel⟩

end TableDefinition
end TableMapping
