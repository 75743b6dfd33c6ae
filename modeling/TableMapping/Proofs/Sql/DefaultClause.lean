import TableMapping.Proofs.Sql.Literal
import TableMapping.Proofs.Sql.Rendering
import TableMapping.Proofs.Value.Unquoted
import TableMapping.Sql.Create

/-!
# DEFAULT clauses

A default value becomes part of the statement that creates its table, letter by letter.  What is
checked before is whether quotes stand at both of its ends or nowhere, and whether the text between
them can be read as the type of the field.  This leaves one gap: a literal that a quote inside of it
ends early.  It is open for the types that are read from texts with quotes, and closed for all
others by the readers of their texts.

* `TableDefinition.exists_sql_createTableStatement_eq`: the clause stands in the statement.
* `Column.defaultsTo_iff`: which values the clause writes.
* `DefaultValue.isReadable_iff_of_mem`: which types take a text with quotes.
* `TableDefinition.default_endsEarly_iff`: when what is written is more than one literal.
-/

namespace TableMapping

open Sql Text

/-! ## Where the clause stands -/

/-- The parts stand between their separators. -/
theorem mem_separated (separator : String) {parts : List (List Fragment)} {part : List Fragment}
    {x : Fragment} (hpart : part ∈ parts) (hx : x ∈ part) : x ∈ separated separator parts := by
  fun_induction separated separator parts with
  | case1 => exact absurd hpart List.not_mem_nil
  | case2 p => rwa [List.mem_singleton.mp hpart] at hx
  | case3 p parts _ ih =>
    rcases List.mem_cons.mp hpart with rfl | hpart
    · exact List.mem_append_left _ hx
    · exact List.mem_append_right _ (List.mem_cons_of_mem _ (ih hpart))

/-- A text among the fragments of a statement stands in it. -/
theorem Dialect.exists_sql_statement_eq {d : Dialect} {fs : List Fragment} {s : String}
    (h : .text s ∈ fs) : ∃ front back, (d.statement fs).sql = front ++ s ++ back := by
  obtain ⟨before, after, rfl⟩ := List.append_of_mem h
  refine ⟨String.ofList (d.written 0 before),
    String.ofList (d.written (Fragment.bound before).length after), ?_⟩
  rw [← String.toList_inj, toList_sql_statement, written_append, Nat.zero_add, written]
  simp only [String.toList_append, String.toList_ofList, List.append_assoc]
  rfl

namespace TableDefinition

variable {M : Type}

/-- The DEFAULT clause of a column stands in the statement that creates the table. -/
theorem exists_sql_createTableStatement_eq (d : TableDefinition M) {f : MappedField M}
    (hf : f ∈ d.fields) (dialect : Dialect) :
    ∃ front back,
      (d.createTableStatement dialect).sql = front ++ f.defaultClause d.tableName ++ back := by
  have hclause : .text (f.defaultClause d.tableName) ∈
      f.toColumn.definitionFragments d.tableName dialect :=
    List.mem_of_getLast? rfl
  have hcolumns := mem_separated ", " (List.mem_map_of_mem
    (f := fun f => f.toColumn.definitionFragments d.tableName dialect) hf) hclause
  refine Dialect.exists_sql_statement_eq ?_
  rw [createTableFragments]
  exact List.mem_append_left _ (List.mem_append_left _ (List.mem_append_right _ hcolumns))

end TableDefinition

/-! ## What is accepted -/

/-- Whether a text with a quote in it can be read as a field type. -/
def FieldType.TakesQuotes (t : FieldType) (encoding : Option Encoding) (text : String) : Prop :=
  match t with
  | .string | .bytes | .other _ => True
  | .json => ∃ j, Json.parse? text = some j
  | .enumeration e => encoding.getD .standard = .name ∧ ∃ m ∈ e.members, m.name = text
  | _ => False

namespace DefaultValue

variable {cs : List Char} {value text : String} {t : FieldType} {encoding : Option Encoding}

theorem isProperlyFormatted_iff : isProperlyFormatted value = true ↔
    isQuoted (trimBoth value.toList) = true ∨ '\'' ∉ trimBoth value.toList := by
  simp only [isProperlyFormatted, Bool.or_eq_true, List.isEmpty_iff, Bool.not_eq_true',
    List.contains_eq_mem, decide_eq_false_iff_not]
  constructor
  · rintro ((hnil | hquoted) | hplain)
    · rw [hnil]
      exact .inr List.not_mem_nil
    · exact .inl hquoted
    · exact .inr hplain
  · rintro (hquoted | hplain)
    · exact .inl (.inr hquoted)
    · exact .inr hplain

theorem isValid_of_isQuoted (h : isQuoted (trimBoth value.toList) = true) :
    isValid t encoding value = isReadable t encoding (literal (trimBoth value.toList)) := by
  have hne : (trimBoth value.toList).isEmpty = false := by
    obtain ⟨inner, hinner⟩ := isQuoted_iff.mp h
    rw [hinner]
    rfl
  simp only [isValid, hne, h, Bool.false_eq_true, if_true, if_false]

/-- A default value stands between two quotes, and inside there is one that is not one of a pair:
the literal that begins the value ends before it. -/
def EndsEarly (cs : List Char) : Prop :=
  ∃ inner, cs = '\'' :: (inner ++ ['\'']) ∧ ¬ IsPaired '\'' inner

theorem EndsEarly.isQuoted (h : EndsEarly cs) : isQuoted cs = true := by
  obtain ⟨inner, hcs, -⟩ := h
  exact isQuoted_iff.mpr ⟨inner, hcs⟩

theorem EndsEarly.not_isSelfContained (h : EndsEarly cs) : ¬ IsSelfContained cs := by
  obtain ⟨inner, rfl, hinner⟩ := h
  rintro (hplain | ⟨inner', heq, hpaired⟩)
  · exact hplain List.mem_cons_self
  · rw [List.append_cancel_right (List.cons.inj heq).2] at hinner
    exact hinner hpaired

/-- What is well-formed by its ends is one literal or ends early. -/
theorem endsEarly_of_not_isSelfContained (h : isProperlyFormatted value = true)
    (hnot : ¬ IsSelfContained (trimBoth value.toList)) : EndsEarly (trimBoth value.toList) := by
  rcases isProperlyFormatted_iff.mp h with hquoted | hplain
  · obtain ⟨inner, hinner⟩ := isQuoted_iff.mp hquoted
    exact ⟨inner, hinner, fun hpaired => hnot (.inr ⟨inner, hinner, hpaired⟩)⟩
  · exact absurd (.inl hplain) hnot

theorem EndsEarly.mem_literal (h : EndsEarly cs) : '\'' ∈ (literal cs).toList := by
  obtain ⟨inner, rfl, hinner⟩ := h
  rw [literal_quoted, String.toList_ofList]
  refine mem_undoubled (Decidable.not_not.mp fun hplain => ?_)
  exact hinner (isPaired_of_notMem hplain)

/-- The text of a value that is one literal is what an engine reads. -/
theorem IsSelfContained.readQuoted? (h : IsSelfContained cs) (hquoted : isQuoted cs = true) :
    Sql.readQuoted? '\'' cs = some ((literal cs).toList, []) := by
  rcases h with hplain | hinner
  · obtain ⟨inner, rfl⟩ := isQuoted_iff.mp hquoted
    exact absurd List.mem_cons_self hplain
  · obtain ⟨text, htext⟩ := exists_readQuoted?_iff.mpr hinner
    rw [literal_of_readQuoted? htext, String.toList_ofList, htext]

theorem exists_of_isOk {x : Except Reason Value} (h : x.isOk = true) : ∃ v, x = .ok v := by
  cases x with
  | error _ => exact nomatch h
  | ok v => exact ⟨v, rfl⟩

theorem notMem_of_integer? {n : Int64} (h : (Text.integer? text).bind int64OfInt? = some n) :
    '\'' ∉ text.toList := by
  obtain ⟨k, hk, -⟩ := Option.bind_eq_some_iff.mp h
  exact fun hquote => Numeral.notMem_of_integer? hk (mem_trimBoth isBlank_quote hquote)

theorem isSome_ordinalOf? {e : Enumeration} :
    (e.ordinalOf? text).isSome = true ↔ ∃ m ∈ e.members, m.name = text := by
  rw [Enumeration.ordinalOf?, List.findIdx?_isSome, List.any_eq_true]
  simp only [beq_iff_eq]

/-- Texts, bytes, documents and names may hold quotes.  The numbers of members are read from texts
without quotes, and so are all other types. -/
theorem isReadable_iff_of_mem (hquote : '\'' ∈ text.toList) :
    isReadable t encoding text = true ↔ t.TakesQuotes encoding text := by
  cases t with
  | string | bytes | other => exact iff_of_true rfl trivial
  | json =>
    show ((Value.orReason (.malformed "document") (Json.parse? text)).map _).isOk = true ↔
      ∃ j, Json.parse? text = some j
    cases Json.parse? text with
    | none => exact iff_of_false nofun fun ⟨_, hj⟩ => nomatch hj
    | some j => exact iff_of_true rfl ⟨j, rfl⟩
  | enumeration e =>
    rw [isReadable, FieldType.TakesQuotes]
    cases encoding.getD .standard with
    | name => exact isSome_ordinalOf?.trans ⟨fun h => ⟨rfl, h⟩, And.right⟩
    | ordinal | id =>
      refine iff_of_false (fun h => ?_) fun h => nomatch h.1
      obtain ⟨n, hn⟩ := Option.isSome_iff_exists.mp h
      exact notMem_of_integer? hn hquote
  | _ =>
    refine iff_of_false (fun h => ?_) id
    obtain ⟨v, hv⟩ := exists_of_isOk h
    exact Value.notMem_of_coerce hv rfl hquote

end DefaultValue

/-! ## What the clause writes -/

namespace Column

variable {c : Column} {table value : String} {cs : List Char}

theorem consideredDefault_eq_some_iff : c.consideredDefault = some value ↔
    c.isAutoIncrement = false ∧ c.isPrimaryKey = false ∧ c.defaultValue = some value := by
  rw [consideredDefault]
  cases c.isAutoIncrement <;> cases c.isPrimaryKey <;> simp

theorem defaultNotice?_eq_none_iff : c.defaultNotice? table value = none ↔
    DefaultValue.isProperlyFormatted value = true ∧
      DefaultValue.isValid c.fieldType c.encoding value = true := by
  rw [defaultNotice?]
  cases DefaultValue.isProperlyFormatted value <;>
    cases DefaultValue.isValid c.fieldType c.encoding value <;> simp

theorem defaultClause_eq_append_iff : c.defaultClause table = " DEFAULT " ++ value ↔
    c.consideredDefault = some value ∧ c.defaultNotice? table value = none := by
  have hempty : "" ≠ " DEFAULT " ++ value := by
    intro h
    rw [← String.toList_inj, String.toList_append] at h
    exact nomatch h
  rw [defaultClause]
  cases c.consideredDefault with
  | none => exact ⟨fun h => absurd h hempty, fun h => nomatch h.1⟩
  | some v =>
    rw [Option.some_inj]
    cases hnotice : c.defaultNotice? table v with
    | none =>
      simp only [hnotice, Option.isNone_none, if_true]
      refine (String.append_right_inj _).trans ⟨?_, And.left⟩
      rintro rfl
      exact ⟨rfl, hnotice⟩
    | some notice =>
      simp only [hnotice, Option.isNone_some, Bool.false_eq_true, if_false]
      refine ⟨fun h => absurd h hempty, ?_⟩
      rintro ⟨rfl, hnone⟩
      exact nomatch hnotice.symm.trans hnone

theorem defaultClause_eq_empty_or (c : Column) (table : String) :
    c.defaultClause table = "" ∨ ∃ value, c.defaultClause table = " DEFAULT " ++ value := by
  rw [defaultClause]
  split
  · split
    · exact .inr ⟨_, rfl⟩
    · exact .inl rfl
  · exact .inl rfl

/-- The DEFAULT clause of a column writes this text, blanks around it aside. -/
def DefaultsTo (c : Column) (table : String) (cs : List Char) : Prop :=
  ∃ value, c.defaultClause table = " DEFAULT " ++ value ∧ trimBoth value.toList = cs

theorem defaultsTo_iff : c.DefaultsTo table cs ↔
    c.isAutoIncrement = false ∧ c.isPrimaryKey = false ∧
      ∃ value, c.defaultValue = some value ∧ trimBoth value.toList = cs ∧
        DefaultValue.isProperlyFormatted value = true ∧
        DefaultValue.isValid c.fieldType c.encoding value = true := by
  constructor
  · rintro ⟨value, hclause, hvalue⟩
    obtain ⟨hconsidered, hnotice⟩ := defaultClause_eq_append_iff.mp hclause
    obtain ⟨hauto, hkey, hdefault⟩ := consideredDefault_eq_some_iff.mp hconsidered
    exact ⟨hauto, hkey, value, hdefault, hvalue, defaultNotice?_eq_none_iff.mp hnotice⟩
  · rintro ⟨hauto, hkey, value, hdefault, hvalue, haccepted⟩
    have hconsidered := consideredDefault_eq_some_iff.mpr ⟨hauto, hkey, hdefault⟩
    have hnotice : c.defaultNotice? table value = none := defaultNotice?_eq_none_iff.mpr haccepted
    exact ⟨value, defaultClause_eq_append_iff.mpr ⟨hconsidered, hnotice⟩, hvalue⟩

end Column
/-! ## Defaults that end early -/

namespace TableDefinition

open DefaultValue

variable {M : Type}

/-- **What a DEFAULT clause writes.**  The clause of every column stands in the statement that
creates the table, and it is empty or writes a value.  A value that is one literal is read to its
end, as the text that was checked.  A value that is neither one literal nor free of quotes is written
exactly when the column is neither generated nor part of the primary key, the value has quotes at
both ends and one between them that is not one of a pair, and the type of the field takes the text
with that quote in it: it is a text, bytes, a type outside the table, a document, or the name of a
member. -/
theorem default_endsEarly_iff (d : TableDefinition M) {f : MappedField M} (hf : f ∈ d.fields)
    (dialect : Dialect) :
    (∃ front back,
      (d.createTableStatement dialect).sql = front ++ f.defaultClause d.tableName ++ back) ∧
    (f.defaultClause d.tableName = "" ∨
      ∃ value, f.defaultClause d.tableName = " DEFAULT " ++ value) ∧
    (∀ cs, f.DefaultsTo d.tableName cs → IsSelfContained cs →
      '\'' ∉ cs ∨ readQuoted? '\'' cs = some ((literal cs).toList, [])) ∧
    ∀ cs, (f.DefaultsTo d.tableName cs ∧ ¬ IsSelfContained cs) ↔
      (f.isAutoIncrement = false ∧ f.isPrimaryKey = false ∧
        ∃ value, f.defaultValue = some value ∧ trimBoth value.toList = cs) ∧
      EndsEarly cs ∧ f.fieldType.TakesQuotes f.encoding (literal cs) := by
  refine ⟨d.exists_sql_createTableStatement_eq hf dialect,
    f.defaultClause_eq_empty_or d.tableName, fun cs hdefault hself => ?_, fun cs => ⟨?_, ?_⟩⟩
  · obtain ⟨-, -, value, -, rfl, hformatted, -⟩ := Column.defaultsTo_iff.mp hdefault
    rcases isProperlyFormatted_iff.mp hformatted with hquoted | hplain
    · exact .inr (hself.readQuoted? hquoted)
    · exact .inl hplain
  · rintro ⟨hdefault, hnot⟩
    obtain ⟨hauto, hkey, value, hvalue, rfl, hformatted, hvalid⟩ :=
      Column.defaultsTo_iff.mp hdefault
    have hearly := endsEarly_of_not_isSelfContained hformatted hnot
    rw [isValid_of_isQuoted hearly.isQuoted, isReadable_iff_of_mem hearly.mem_literal] at hvalid
    exact ⟨⟨hauto, hkey, value, hvalue, rfl⟩, hearly, hvalid⟩
  · rintro ⟨⟨hauto, hkey, value, hvalue, rfl⟩, hearly, htakes⟩
    refine ⟨Column.defaultsTo_iff.mpr ⟨hauto, hkey, value, hvalue, rfl, ?_, ?_⟩,
      hearly.not_isSelfContained⟩
    · exact isProperlyFormatted_iff.mpr (.inl hearly.isQuoted)
    · rw [isValid_of_isQuoted hearly.isQuoted]
      exact (isReadable_iff_of_mem hearly.mem_literal).mpr htakes

/-! ### A banner -/

/-- A banner that says something. -/
structure Banner where
  words : String

def bannerSchema (default : String) : ModelSchema Banner :=
  (ModelSchema.named "Banner" ⟨""⟩).addField
    ((FieldSpec.value String "words" Banner.words fun words _ => ⟨words⟩).withColumn
      { defaultValue := some default })

/-- A doubled quote does not end the literal. -/
theorem default_endsEarly_iff_doubled :
    ∃ d f, (bannerSchema "'it''s'").define 0 = .ok d ∧ f ∈ d.fields ∧
      f.DefaultsTo d.tableName "'it''s'".toList ∧
      readQuoted? '\'' "'it''s'".toList = some ("it's".toList, []) := by
  obtain ⟨d, f, hd, hfields, hclause⟩ : ∃ d f, (bannerSchema "'it''s'").define 0 = .ok d ∧
      d.fields = [f] ∧ f.defaultClause d.tableName = " DEFAULT 'it''s'" :=
    ⟨_, _, rfl, rfl, rfl⟩
  have hf : f ∈ d.fields := hfields ▸ List.mem_singleton_self f
  have hdefault : f.DefaultsTo d.tableName "'it''s'".toList := ⟨"'it''s'", hclause, rfl⟩
  have hself : IsSelfContained "'it''s'".toList :=
    .inr ⟨"it''s".toList, rfl, .char (by decide) (.char (by decide) (.pair
      (.char (by decide) .nil)))⟩
  refine ⟨d, f, hd, hf, hdefault, ?_⟩
  rcases (default_endsEarly_iff d hf .h2).2.2.1 _ hdefault hself with hplain | hread
  · exact absurd hplain (by decide)
  · exact hread

/-- A single quote does, and the statement goes on behind it. -/
theorem default_endsEarly_single :
    ∃ d f, (bannerSchema "'it's'").define 0 = .ok d ∧ f ∈ d.fields ∧
      (d.createTableStatement .h2).sql =
        "CREATE CACHED TABLE IF NOT EXISTS Banner(words VARCHAR DEFAULT 'it's')" ∧
      f.DefaultsTo d.tableName "'it's'".toList ∧ ¬ IsSelfContained "'it's'".toList ∧
      readQuoted? '\'' "'it's'".toList = some ("it".toList, "s'".toList) := by
  obtain ⟨d, f, hd, hfields, hclause, hsql⟩ : ∃ d f, (bannerSchema "'it's'").define 0 = .ok d ∧
      d.fields = [f] ∧ f.defaultClause d.tableName = " DEFAULT 'it's'" ∧
      (d.createTableStatement .h2).sql =
        "CREATE CACHED TABLE IF NOT EXISTS Banner(words VARCHAR DEFAULT 'it's')" :=
    ⟨_, _, rfl, rfl, rfl, rfl⟩
  have hread : readQuoted? '\'' "'it's'".toList = some ("it".toList, "s'".toList) := by decide
  refine ⟨d, f, hd, hfields ▸ List.mem_singleton_self f, hsql, ⟨"'it's'", hclause, rfl⟩, ?_, hread⟩
  intro hself
  have hend := hself.readQuoted? (by decide)
  rw [hread] at hend
  exact nomatch hend

end TableDefinition
end TableMapping
