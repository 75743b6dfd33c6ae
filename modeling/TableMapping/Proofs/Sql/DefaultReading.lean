import TableMapping.Proofs.Enumeration.NameReading
import TableMapping.Proofs.Runs
import TableMapping.Proofs.Sql.DefaultClause
import TableMapping.Proofs.Value.Projection

/-!
# Reading literal defaults

An engine gives back the text of a literal default in every row that leaves the column out, and
there it is read like any stored value.  The check that comes before the clause and the reading agree
for all plain types, because the one tries the other, and for the names of members.  For the numbers
of members the check asks only whether there is a number, and the reading asks for a member as well.

* `Member.HasNumber`: the number by which a member is stored.
* `Member.decode_numeral`: what a text that is a number is read as.
* `TableDefinition.fromStorage_literal`: what a literal default is read as.
-/

namespace TableMapping

open DefaultValue

/-! ## Members by number -/

/-- A member is stored by this number. -/
def Member.HasNumber (m : Member) (encoding : Encoding) (n : Int64) : Prop :=
  match encoding with
  | .name => False
  | .ordinal => (m.ordinal : Int) = n.toInt
  | .id => m.declaration.id.map Int32.toInt64 = some n

namespace Enumeration

variable {e : Enumeration} {encoding : Encoding} {n : Int64} {i : Nat} {text : String}

/-- The position that a number stands for. -/
def ordinalOfInt64? (e : Enumeration) (encoding : Encoding) (n : Int64) : Option Nat :=
  match encoding with
  | .name => none
  | .ordinal => e.ordinalOfNumber? n
  | .id => e.ordinalOfId? n

theorem ordinalOfValue?_of_integer? {v : Value} (hencoding : encoding ≠ .name)
    (hn : v.integer? = some n) : e.ordinalOfValue? encoding v = e.ordinalOfInt64? encoding n := by
  cases encoding with
  | name => exact absurd rfl hencoding
  | ordinal | id => rw [ordinalOfValue?, hn, Option.bind_some, ordinalOfInt64?]

/-- The position found is that of a member with the number. -/
theorem exists_of_ordinalOfInt64? (h : e.ordinalOfInt64? encoding n = some i) :
    ∃ m : Member, m.enumeration = e ∧ m.ordinal = i ∧ m.HasNumber encoding n := by
  cases encoding with
  | name => exact nomatch h
  | ordinal =>
    rw [ordinalOfInt64?, ordinalOfNumber?] at h
    split at h
    · rename_i hrange
      cases h
      refine ⟨⟨e, n.toInt.toNat, by omega⟩, rfl, rfl, ?_⟩
      exact Int.toNat_of_nonneg hrange.1
    · exact nomatch h
  | id =>
    obtain ⟨hlt, hid, -⟩ := List.findIdx?_eq_some_iff_getElem.mp h
    exact ⟨⟨e, i, hlt⟩, rfl, rfl, beq_iff_eq.mp hid⟩

/-- Where no position is found, no member has the number. -/
theorem not_hasNumber_of_ordinalOfInt64? (h : e.ordinalOfInt64? encoding n = none) (m : Member)
    (hm : m.enumeration = e) : ¬ m.HasNumber encoding n := by
  intro hnumber
  subst hm
  cases encoding with
  | name => exact hnumber
  | ordinal =>
    have hlt := m.ordinal_lt
    have hordinal : (m.ordinal : Int) = n.toInt := hnumber
    rw [ordinalOfInt64?, ordinalOfNumber?, if_pos (by omega)] at h
    exact nomatch h
  | id =>
    have hnone := List.findIdx?_eq_none_iff.mp h m.declaration (List.get_mem _ _)
    rw [beq_eq_false_iff_ne] at hnone
    exact hnone hnumber

end Enumeration

namespace Member

variable {e : Enumeration} {encoding : Encoding} {n : Int64}

/-- A text that is a number is read as a member with this number, or refused where there is none. -/
theorem decode_numeral {s : String} (hencoding : encoding ≠ .name)
    (hn : (Value.text s).integer? = some n) :
    (∃ m : Member, m.enumeration = e ∧ m.HasNumber encoding n ∧
      decode e encoding (.text s) = .ok (some m)) ∨
    ((∀ m : Member, m.enumeration = e → ¬ m.HasNumber encoding n) ∧
      decode e encoding (.text s) = .error (.unknownEnumValue e.name (Value.text s).shown)) := by
  have hvalue := Enumeration.ordinalOfValue?_of_integer? (e := e) hencoding hn
  cases hi : e.ordinalOfInt64? encoding n with
  | some i =>
    obtain ⟨m, rfl, rfl, hnumber⟩ := Enumeration.exists_of_ordinalOfInt64? hi
    exact .inl ⟨m, rfl, hnumber, decode_of_ordinalOfValue? rfl (hvalue.trans hi)⟩
  | none =>
    refine .inr ⟨Enumeration.not_hasNumber_of_ordinalOfInt64? hi, ?_⟩
    rw [decode, Value.isNull_of, if_neg Bool.false_ne_true, hvalue, hi, Option.bind_none]

end Member

/-! ## Accepted literals -/

/-- A plain type is checked by trying to read it. -/
theorem DefaultValue.exists_coerce_of_isReadable {text : String} {t : FieldType}
    {encoding : Option Encoding} (hplain : t.IsPlain)
    (h : isReadable t encoding text = true) : ∃ w, (Value.text text).coerce t = .ok w := by
  cases t with
  | enumeration e => exact absurd rfl (hplain e)
  | string | bytes | other => exact ⟨_, rfl⟩
  | _ => exact exists_of_isOk h

namespace Column

variable {c : Column} {text : String}

/-- A name is checked against the names of the members. -/
theorem exists_decode_name {e : Enumeration} (ht : c.fieldType = .enumeration e)
    (hname : c.effectiveEncoding = .name) (h : isReadable c.fieldType c.encoding text = true) :
    ∃ m : Member, m.enumeration = e ∧ m.name = text ∧
      c.decode (.text text) = .ok (.member (some m)) := by
  have hsome : (e.ordinalOf? text).isSome = true := by
    rw [ht] at h
    unfold isReadable at h
    rwa [show c.encoding.getD .standard = .name from hname] at h
  obtain ⟨i, hi⟩ := Option.isSome_iff_exists.mp hsome
  obtain ⟨hlt, hmember, -⟩ := List.findIdx?_eq_some_iff_getElem.mp hi
  have htext : e.ordinalOfText? text = some i := by
    rw [Enumeration.ordinalOfText?, hi]
  refine ⟨⟨e, i, hlt⟩, rfl, beq_iff_eq.mp hmember, ?_⟩
  rw [decode_of_enumeration ht, hname, Member.decode_eq_some (m := ⟨e, i, hlt⟩) htext]
  rfl

/-- A number is checked to be a number. -/
theorem exists_integer?_of_isReadable {e : Enumeration} (ht : c.fieldType = .enumeration e)
    (hnumber : c.effectiveEncoding ≠ .name)
    (h : isReadable c.fieldType c.encoding text = true) :
    ∃ n, (Value.text text).integer? = some n := by
  refine Option.isSome_iff_exists.mp ?_
  rw [ht] at h
  unfold isReadable at h
  simp only at h
  split at h
  · rename_i hname
    exact absurd hname hnumber
  · exact h

end Column

/-! ## Literal defaults -/

namespace TableDefinition

variable {M : Type}

/-- **Reading a literal default.**  Take a column without adapter and the text of a literal that its
DEFAULT clause writes.  A plain field reads the text as a value.  A field of an enumeration that is
stored by name reads it as the member of this name.  A field of an enumeration that is stored by
number finds a number in the text; it reads a member with this number, and refuses the text exactly
when there is none. -/
theorem fromStorage_literal (d : TableDefinition M) {f : MappedField M} (hf : f ∈ d.fields)
    (dialect : Dialect) (hplain : f.adapter = none) {cs : List Char}
    (hdefault : f.DefaultsTo d.tableName cs) (hquoted : isQuoted cs = true) (l : Ledger) :
    (∃ front value back, Text.trimBoth value.toList = cs ∧
      (d.createTableStatement dialect).sql = front ++ (" DEFAULT " ++ value) ++ back) ∧
    (f.fieldType.IsPlain →
      ∃ w, (f.fromStorage (.text (literal cs))).run l = (.ok (.plain w), l)) ∧
    ∀ e, f.fieldType = .enumeration e →
      (f.effectiveEncoding = .name → ∃ m : Member, m.enumeration = e ∧ m.name = literal cs ∧
        (f.fromStorage (.text (literal cs))).run l = (.ok (.member (some m)), l)) ∧
      (f.effectiveEncoding ≠ .name → ∃ n, (Value.text (literal cs)).integer? = some n ∧
        ((∃ m : Member, m.enumeration = e ∧ m.HasNumber f.effectiveEncoding n ∧
          (f.fromStorage (.text (literal cs))).run l = (.ok (.member (some m)), l)) ∨
        ((∀ m : Member, m.enumeration = e → ¬ m.HasNumber f.effectiveEncoding n) ∧
          (f.fromStorage (.text (literal cs))).run l =
            (.error (.unknownEnumValue e.name (Value.text (literal cs)).shown), l)))) := by
  obtain ⟨-, -, value, -, rfl, -, hvalid⟩ := Column.defaultsTo_iff.mp hdefault
  rw [isValid_of_isQuoted hquoted] at hvalid
  rw [Column.fromStorage_of_plain hplain, Mapping.run_ofExcept]
  refine ⟨?_, fun htype => ?_, fun e he => ⟨fun hname => ?_, fun hnumber => ?_⟩⟩
  · obtain ⟨front, back, hsql⟩ := d.exists_sql_createTableStatement_eq hf dialect
    obtain ⟨value', hclause, hvalue⟩ := hdefault
    exact ⟨front, value', back, hvalue, hclause ▸ hsql⟩
  · obtain ⟨w, hw⟩ := exists_coerce_of_isReadable htype hvalid
    exact ⟨w, by rw [Column.decode_of_ne_enumeration htype, hw]⟩
  · obtain ⟨m, hm, hmname, hdecode⟩ := Column.exists_decode_name he hname hvalid
    exact ⟨m, hm, hmname, by rw [hdecode]⟩
  · obtain ⟨n, hn⟩ := Column.exists_integer?_of_isReadable he hnumber hvalid
    refine ⟨n, hn, ?_⟩
    rw [Column.decode_of_enumeration he]
    rcases Member.decode_numeral (e := e) hnumber hn with ⟨m, hm, hmn, hdecode⟩ | ⟨hnone, hdecode⟩
    · exact .inl ⟨m, hm, hmn, by rw [hdecode]; rfl⟩
    · exact .inr ⟨hnone, by rw [hdecode]; rfl⟩

/-! ### A shirt -/

/-- The sizes of a shirt. -/
inductive Size where
  | small
  | large

/-- The sizes are stored by their position. -/
def sizeType : EnumerationType Size where
  enumeration := ⟨"Size", some .ordinal, [⟨"Small", none⟩, ⟨"Large", none⟩]⟩
  ordinal
    | .small => 0
    | .large => 1
  ofOrdinal?
    | 0 => some .small
    | 1 => some .large
    | _ => none

/-- A shirt of some size. -/
structure Shirt where
  size : Size

def shirtSchema (default : String) : ModelSchema Shirt :=
  (ModelSchema.named "Shirt" ⟨.small⟩).addField
    ((FieldSpec.enumeration sizeType "size" Shirt.size fun size _ => ⟨size⟩).withColumn
      { defaultValue := some default })

/-- The number of a size is read as this size. -/
theorem fromStorage_literal_size :
    ∃ d f, (shirtSchema "'1'").define 0 = .ok d ∧ f ∈ d.fields ∧ f.adapter = none ∧
      f.DefaultsTo d.tableName "'1'".toList ∧ isQuoted "'1'".toList = true ∧
      ∃ m : Member, m.name = "Large" ∧
        (f.fromStorage (.text (literal "'1'".toList))).run .start =
          (.ok (.member (some m)), .start) := by
  obtain ⟨d, f, hd, hfields, hplain, htype, hencoding, hclause⟩ :
      ∃ d f, (shirtSchema "'1'").define 0 = .ok d ∧ d.fields = [f] ∧ f.adapter = none ∧
        f.fieldType = .enumeration sizeType.enumeration ∧ f.effectiveEncoding = .ordinal ∧
        f.defaultClause d.tableName = " DEFAULT '1'" :=
    ⟨_, _, rfl, rfl, rfl, rfl, rfl, rfl⟩
  have hf : f ∈ d.fields := hfields ▸ List.mem_singleton_self f
  have hdefault : f.DefaultsTo d.tableName "'1'".toList := ⟨"'1'", hclause, rfl⟩
  have hquoted : isQuoted "'1'".toList = true := by decide
  refine ⟨d, f, hd, hf, hplain, hdefault, hquoted, ?_⟩
  obtain ⟨-, -, hread⟩ := fromStorage_literal d hf .h2 hplain hdefault hquoted .start
  obtain ⟨n, hn, hnumber⟩ := (hread _ htype).2 (by rw [hencoding]; nofun)
  have hone : (Value.text (literal "'1'".toList)).integer? = some 1 := by decide
  cases hone.symm.trans hn
  rw [hencoding] at hnumber
  rcases hnumber with ⟨⟨e, i, hi⟩, rfl, hordinal, hrun⟩ | ⟨hnone, -⟩
  · obtain rfl : i = 1 := Int.ofNat.inj hordinal
    exact ⟨_, rfl, hrun⟩
  · exact absurd rfl (hnone ⟨sizeType.enumeration, 1, by decide⟩ rfl)

/-- A number that no size has is accepted all the same, and refused in every row. -/
theorem fromStorage_literal_noSize :
    ∃ d f, (shirtSchema "'7'").define 0 = .ok d ∧ f ∈ d.fields ∧ f.adapter = none ∧
      (d.createTableStatement .h2).sql =
        "CREATE CACHED TABLE IF NOT EXISTS Shirt(size INT DEFAULT '7')" ∧
      f.DefaultsTo d.tableName "'7'".toList ∧ isQuoted "'7'".toList = true ∧
      (f.fromStorage (.text (literal "'7'".toList))).run .start =
        (.error (.unknownEnumValue "Size" "String(Some(\"7\"))"), .start) := by
  obtain ⟨d, f, hd, hfields, hplain, htype, hencoding, hclause, hsql⟩ :
      ∃ d f, (shirtSchema "'7'").define 0 = .ok d ∧ d.fields = [f] ∧ f.adapter = none ∧
        f.fieldType = .enumeration sizeType.enumeration ∧ f.effectiveEncoding = .ordinal ∧
        f.defaultClause d.tableName = " DEFAULT '7'" ∧
        (d.createTableStatement .h2).sql =
          "CREATE CACHED TABLE IF NOT EXISTS Shirt(size INT DEFAULT '7')" :=
    ⟨_, _, rfl, rfl, rfl, rfl, rfl, rfl, rfl⟩
  refine ⟨d, f, hd, hfields ▸ List.mem_singleton_self f, hplain, hsql, ⟨"'7'", hclause, rfl⟩,
    by decide, ?_⟩
  rw [Column.fromStorage_of_plain hplain, Column.decode_of_enumeration htype, hencoding]
  rfl

end TableDefinition
end TableMapping
