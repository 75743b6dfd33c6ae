import TableMapping.Proofs.Sql.ConditionReading
import TableMapping.Proofs.Sql.Quoting
import TableMapping.Sql.Create

/-!
# The statement that creates an index

The dialects put their keywords in different orders, and one that has no hash index for what is asked
for writes a regular index and warns.  What does not depend on the dialect is what the index enforces
and what it is over.

A name that is written without quotes may itself be a keyword, so "the statement has a keyword" is said
of the parts that it is put together from.  Where names are quoted it is said of the text as well: an
engine that reads it finds these keywords and these names.

* `IndexText`: the parts of the statement, with `Dialect.createIndexSql_eq`.
* `Dialect.unique_mem_keywords`, `Dialect.hash_mem_keywords`: two of its keywords.
* `Dialect.tokens_createIndexSql`: what an engine reads.
* `Dialect.exists_createsIndex`: what the statement says, and when there is a warning.
-/

namespace TableMapping

/-! ## The parts of the statement -/

/-- A statement that creates an index: its keywords, and its names as they are written. -/
structure IndexText where
  /-- The keywords in front of the name. -/
  opening : List String
  name : String
  /-- The keywords between the name and ON. -/
  options : List String
  table : String
  /-- The keywords behind the table. -/
  method : List String
  columns : List String

/-- Keywords with a blank behind each. -/
def wordsText (words : List String) : String :=
  String.join (words.map (· ++ " "))

namespace IndexText

/-- The keywords of a statement, in their order. -/
def keywords (t : IndexText) : List String :=
  t.opening ++ t.options ++ "ON" :: t.method

/-- A statement as it is written. -/
def written (t : IndexText) : String :=
  wordsText t.opening ++ t.name ++ " " ++ wordsText t.options ++ "ON " ++ t.table ++
    (if t.method = [] then "" else " ") ++ wordsText t.method ++
    "(" ++ ", ".intercalate t.columns ++ ")"

end IndexText

namespace Dialect

/-- The keywords in front of the name of an index. -/
def indexOpening (d : Dialect) (unique hash : Bool) : List String :=
  "CREATE" :: (if unique then ["UNIQUE"] else []) ++ (if d = h2 ∧ hash then ["HASH"] else []) ++
    "INDEX" :: if d = mySql then [] else ["IF", "NOT", "EXISTS"]

/-- The keywords between the name of an index and ON. -/
def indexOptions (d : Dialect) (hash : Bool) : List String :=
  if d = mySql ∧ hash then ["USING", "HASH"] else []

/-- The keywords behind the table of an index. -/
def indexMethod (d : Dialect) (hash : Bool) : List String :=
  if d = postgres ∧ hash then ["USING", "HASH"] else []

/-- The statement that creates an index, part by part. -/
def indexText (d : Dialect) (schema : Option String) (table : String) (i : IndexDefinition) :
    IndexText where
  opening := d.indexOpening i.kind.isUnique (d.usesHash i)
  name := d.identifier i.name
  options := d.indexOptions (d.usesHash i)
  table := d.qualified schema table
  method := d.indexMethod (d.usesHash i)
  columns := i.columnNames.map d.identifier

theorem createIndexSql_eq (d : Dialect) (schema : Option String) (table : String)
    (i : IndexDefinition) :
    d.createIndexSql schema table i = (d.indexText schema table i).written := by
  have hopening : ∀ unique hash : Bool, wordsText (d.indexOpening unique hash) =
      "CREATE " ++ (if unique then "UNIQUE " else "") ++ (if d = h2 ∧ hash then "HASH " else "") ++
        if d = mySql then "INDEX " else "INDEX IF NOT EXISTS " := by
    intro unique hash
    cases d <;> cases unique <;> cases hash <;> decide
  have hoptions : ∀ hash : Bool, " " ++ wordsText (d.indexOptions hash) ++ "ON " =
      (if d = mySql ∧ hash then " USING HASH" else "") ++ " ON " := by
    intro hash
    cases d <;> cases hash <;> decide
  have hmethod : ∀ hash : Bool,
      (if d.indexMethod hash = [] then "" else " ") ++ wordsText (d.indexMethod hash) =
        if d = postgres ∧ hash then " USING HASH " else "" := by
    intro hash
    cases d <;> cases hash <;> decide
  calc d.createIndexSql schema table i
    _ = "CREATE " ++ (if i.kind.isUnique then "UNIQUE " else "") ++
        (if d = h2 ∧ d.usesHash i then "HASH " else "") ++
        (if d = mySql then "INDEX " else "INDEX IF NOT EXISTS ") ++ d.identifier i.name ++
        ((if d = mySql ∧ d.usesHash i then " USING HASH" else "") ++ " ON ") ++
        d.qualified schema table ++ (if d = postgres ∧ d.usesHash i then " USING HASH " else "") ++
        "(" ++ d.columnList i.columnNames ++ ")" := by
      cases d <;> simp [createIndexSql, String.append_assoc]
    _ = (d.indexText schema table i).written := by
      rw [IndexText.written, indexText, hopening, ← hoptions, ← hmethod, columnList]
      simp only [String.append_assoc]

/-! ## Keywords -/

/-- The keywords of the statements that create an index. -/
def indexKeywords : List String :=
  ["CREATE", "UNIQUE", "HASH", "INDEX", "IF", "NOT", "EXISTS", "USING", "ON"]

theorem mem_indexKeywords (d : Dialect) (schema : Option String) (table : String)
    (i : IndexDefinition) : ∀ w ∈ (d.indexText schema table i).keywords, w ∈ indexKeywords := by
  have hwords : ∀ unique hash : Bool, ∀ w ∈ d.indexOpening unique hash ++ d.indexOptions hash ++
      "ON" :: d.indexMethod hash, w ∈ indexKeywords := by
    intro unique hash
    cases d <;> cases unique <;> cases hash <;> decide
  exact hwords _ _

theorem unique_mem_keywords (d : Dialect) (schema : Option String) (table : String)
    (i : IndexDefinition) :
    "UNIQUE" ∈ (d.indexText schema table i).keywords ↔ i.kind.isUnique = true := by
  have hwords : ∀ unique hash : Bool, "UNIQUE" ∈ d.indexOpening unique hash ++ d.indexOptions hash ++
      "ON" :: d.indexMethod hash ↔ unique = true := by
    intro unique hash
    cases d <;> cases unique <;> cases hash <;> decide
  exact hwords _ _

theorem hash_mem_keywords (d : Dialect) (schema : Option String) (table : String)
    (i : IndexDefinition) :
    "HASH" ∈ (d.indexText schema table i).keywords ↔ d.usesHash i = true := by
  have hwords : ∀ unique hash : Bool, "HASH" ∈ d.indexOpening unique hash ++ d.indexOptions hash ++
      "ON" :: d.indexMethod hash ↔ (d = h2 ∨ d = mySql ∨ d = postgres) ∧ hash = true := by
    intro unique hash
    cases d <;> cases unique <;> cases hash <;> decide
  refine (hwords _ _).trans ⟨fun h => h.2, fun h => ⟨?_, h⟩⟩
  cases d with
  | ansi | sqlite => exact nomatch h
  | h2 => exact .inl rfl
  | mySql => exact .inr (.inl rfl)
  | postgres => exact .inr (.inr rfl)

end Dialect

theorem IndexKind.isUnique_iff {k : IndexKind} :
    k.isUnique = true ↔ k = .unique ∨ k = .uniqueHash := by
  cases k <;> decide

theorem IndexKind.asksForHash_iff {k : IndexKind} :
    k.asksForHash = true ↔ k = .hash ∨ k = .uniqueHash := by
  cases k <;> decide

namespace Dialect

variable {d : Dialect} {quote : Char} {cs : List Char} {ts : List Token} {schema : Option String}
  {table : String} {i : IndexDefinition}

theorem usesHash_postgres_iff :
    postgres.usesHash i = true ↔ i.kind = .hash ∧ i.columnNames.length = 1 := by
  rw [usesHash, Bool.and_eq_true, beq_iff_eq, beq_iff_eq]

/-- Hash values are used only where they are asked for. -/
theorem asksForHash_of_usesHash (h : d.usesHash i = true) : i.kind.asksForHash = true := by
  cases d with
  | ansi | sqlite => exact nomatch h
  | h2 | mySql => exact h
  | postgres =>
    rw [(usesHash_postgres_iff.mp h).1]
    rfl

/-- The warning about an index that is regular although hash values were asked for. -/
def hashNotice (d : Dialect) (i : IndexDefinition) : Notice :=
  if d = postgres then .hashRestricted i.name else .hashUnsupported d.name i.name

theorem indexNotices_eq (d : Dialect) (i : IndexDefinition) : d.indexNotices i =
    if i.kind.asksForHash = true ∧ d.usesHash i = false then [d.hashNotice i] else [] := by
  have htest : (i.kind.asksForHash && !d.usesHash i) = true ↔
      i.kind.asksForHash = true ∧ d.usesHash i = false := by
    rw [Bool.and_eq_true, Bool.not_eq_true']
  rw [indexNotices.eq_def]
  refine ite_congr (propext htest) (fun _ => ?_) fun _ => rfl
  cases d <;> rfl

/-! ## Reading the statement -/

/-- A blank ends what was read. -/
theorem Yields.read_blank (h : d.Yields .gap cs ts) : d.read .gap (cs ++ [' ']) = (ts, .gap) := by
  obtain ⟨us, m, hread, hm, hyield⟩ := h
  rw [read_append hread (Dialect.read_blank hm), hyield]
  rfl

theorem read_wordsText (d : Dialect) {words : List String} (h : ∀ w ∈ words, w ∈ indexKeywords) :
    d.read .gap (wordsText words).toList = (words.map .word, .gap) := by
  have hsome : indexKeywords.all (fun word => word.toList ≠ []) = true := by decide
  have hwords : indexKeywords.all (fun word => word.toList.all d.isWordChar) = true := by
    cases d <;> decide
  induction words with
  | nil => rfl
  | cons w words ih =>
    obtain ⟨hw, hrest⟩ := List.forall_mem_cons.mp h
    have hword : d.Yields .gap w.toList [.word w] :=
      yields_word (of_decide_eq_true (List.all_eq_true.mp hsome w hw))
        (List.all_eq_true.mp (List.all_eq_true.mp hwords w hw))
    rw [wordsText, List.map_cons, String.join_cons, String.toList_append, String.toList_append]
    exact read_append hword.read_blank (ih hrest)

/-- The pieces of the name of a table. -/
def tableTokens (schema : Option String) (table : String) : List Token :=
  match writtenSchema schema with
  | some s => [.name s, .word ".", .name table]
  | none => [.name table]

/-- The pieces of a list of columns in parentheses. -/
def columnTokens : List String → List Token
  | [] => [.word "()"]
  | c :: cs => .word "(" :: .name c :: cs.flatMap (fun c => [.word ",", .name c]) ++ [.word ")"]

theorem finished_closing (name : String) :
    (ReadMode.closing name.toList).finished = [.name name] := by
  rw [ReadMode.finished, String.ofList_toList]

/-- A mark behind a name starts a piece. -/
theorem readChar_closing {c : Char} (hc : d.isWordChar c = true) (name : String) :
    d.readChar (.closing name.toList) c = ([.name name], .word [c]) := by
  have hquote : d.identifierQuote? ≠ some c := by
    rw [isWordChar, Bool.and_eq_true, Bool.and_eq_true, bne_iff_ne] at hc
    exact hc.1.1
  have hextend : d.extend? (.closing name.toList) c = none := if_neg hquote
  have hstart := readChar_word hc
  rw [readChar_start rfl] at hstart
  rw [readChar_start hextend, (Prod.mk.inj hstart).2, finished_closing]

theorem read_identifier (hq : d.identifierQuote? = some quote) {m : ReadMode} (hm : m.IsOpen)
    (name : String) : d.read m (d.identifier name).toList = (m.finished, .closing name.toList) := by
  rw [identifier, hq]
  exact read_quotedIdentifier hq hm name

theorem read_qualified (hq : d.identifierQuote? = some quote) (schema : Option String)
    (table : String) : ∃ us, d.read .gap (d.qualified schema table).toList =
      (us, .closing table.toList) ∧ us ++ [.name table] = tableTokens schema table := by
  have hpoint : d.isWordChar '.' = true := by cases d <;> rfl
  rw [toList_qualified, tableTokens]
  cases writtenSchema schema with
  | none =>
    rw [List.append_nil]
    exact ⟨[], read_identifier (m := .gap) hq trivial table, rfl⟩
  | some s =>
    have hfirst := read_identifier (m := .gap) hq trivial s
    have hsecond := read_identifier (m := .word ['.']) hq trivial table
    exact ⟨_, read_append hfirst (read_cons (readChar_closing hpoint s) hsecond), rfl⟩

/-- Behind a column a list goes on with other columns, up to its parenthesis. -/
theorem yields_behindColumn (hq : d.identifierQuote? = some quote) (c : String)
    (columns : List String) :
    d.Yields (.closing c.toList) (d.behindColumn columns ++ [')'])
      (columns.flatMap (fun c => [.word ",", .name c]) ++ [.word ")"]) := by
  have hend : d.isWordChar ')' = true := by cases d <;> rfl
  have hcomma : d.isWordChar ',' = true := by cases d <;> rfl
  induction columns generalizing c with
  | nil =>
    refine ⟨_, _, read_singleton (readChar_closing hend c), nofun, ?_⟩
    rw [finished_closing]
    rfl
  | cons c' columns ih =>
    obtain ⟨us, m, hread, hm, hyield⟩ := ih c'
    have hblank : d.read (.word [',']) [' '] = ([.word ","], .gap) := Dialect.read_blank nofun
    have hname := read_append (read_identifier (m := .gap) hq trivial c') hread
    have hlist := read_cons (readChar_closing hcomma c) (read_append hblank hname)
    refine ⟨.name c :: .word "," :: us, m, ?_, hm, ?_⟩
    · rw [behindColumn, toList_columnList_cons, List.cons_append, List.cons_append,
        List.append_assoc]
      exact hlist
    · rw [finished_closing] at hyield ⊢
      rw [List.cons_append, List.cons_append, hyield]
      rfl

/-- A list of columns is read from wherever its parenthesis starts a piece. -/
theorem yields_columns (hq : d.identifierQuote? = some quote) {m : ReadMode}
    (hm : d.readChar m '(' = (m.finished, .word ['('])) (columns : List String) :
    d.Yields m ('(' :: (d.columnList columns).toList ++ [')']) (columnTokens columns) := by
  cases columns with
  | nil =>
    -- without columns the two parentheses stand together and are one piece
    have hend : d.extend? (.word ['(']) ')' = some (.word ['(', ')']) := by cases d <;> rfl
    refine ⟨_, _, read_cons hm (read_singleton (readChar_extend hend)), nofun, ?_⟩
    rw [List.append_nil]
    rfl
  | cons c columns =>
    obtain ⟨us, m', hread, hm', hyield⟩ := yields_behindColumn hq c columns
    have hname := read_append (read_identifier (m := .word ['(']) hq trivial c) hread
    refine ⟨m.finished ++ (.word "(" :: us), m', ?_, hm', ?_⟩
    · rw [toList_columnList_cons, List.cons_append, List.append_assoc]
      exact read_cons hm hname
    · rw [finished_closing] at hyield
      rw [List.append_assoc, List.cons_append, hyield]
      rfl

/-- What stands behind the name of a table: the words of a method, and the columns. -/
theorem yields_method (hq : d.identifierQuote? = some quote) (table : String) {words : List String}
    (hwords : ∀ w ∈ words, w ∈ indexKeywords) (columns : List String) :
    d.Yields (.closing table.toList) (((if words = [] then "" else " ") ++ wordsText words).toList ++
      '(' :: (d.columnList columns).toList ++ [')']) (words.map .word ++ columnTokens columns) := by
  have hparenthesis : d.isWordChar '(' = true := by cases d <;> rfl
  by_cases hnone : words = []
  · subst hnone
    have hopen := readChar_closing hparenthesis table
    rw [← finished_closing] at hopen
    exact yields_columns hq hopen columns
  · have hblank : d.read (.closing table.toList) " ".toList =
        ((ReadMode.closing table.toList).finished, .gap) := Dialect.read_blank nofun
    obtain ⟨us, m, hread, hm, hyield⟩ := yields_columns hq (readChar_word hparenthesis) columns
    rw [if_neg hnone, String.toList_append, List.append_assoc, List.append_assoc]
    refine ⟨_, m, read_append hblank (read_append (d.read_wordsText hwords) hread), hm, ?_⟩
    rw [List.append_assoc, List.append_assoc, hyield]
    rfl

/-- Where names are quoted, an engine reads the keywords and the names of the parts. -/
theorem tokens_createIndexSql (hq : d.identifierQuote? = some quote) (schema : Option String)
    (table : String) (i : IndexDefinition) :
    d.tokens (d.createIndexSql schema table i) =
      (d.indexText schema table i).opening.map .word ++ .name i.name ::
        ((d.indexText schema table i).options.map .word ++ .word "ON" ::
          (tableTokens schema table ++
            ((d.indexText schema table i).method.map .word ++ columnTokens i.columnNames))) := by
  have hkeywords := d.mem_indexKeywords schema table i
  simp only [IndexText.keywords, List.forall_mem_append, List.forall_mem_cons] at hkeywords
  obtain ⟨⟨hopening, hoptions⟩, hon, hmethod⟩ := hkeywords
  have htext : (d.createIndexSql schema table i).toList =
      (wordsText (d.indexText schema table i).opening).toList ++
        (((d.identifier i.name).toList ++ [' ']) ++
          ((wordsText (d.indexText schema table i).options).toList ++
            ((wordsText ["ON"]).toList ++ ((d.qualified schema table).toList ++
              (((if (d.indexText schema table i).method = [] then "" else " ") ++
                wordsText (d.indexText schema table i).method).toList ++
                '(' :: (d.columnList i.columnNames).toList ++ [')']))))) := by
    rw [createIndexSql_eq, IndexText.written]
    simp only [String.toList_append, List.append_assoc]
    rfl
  have hname := (yields_identifier hq i.name).read_blank
  have hon := d.read_wordsText (List.forall_mem_singleton.mpr hon)
  obtain ⟨us, htable, hus⟩ := read_qualified hq schema table
  obtain ⟨vs, m, hread, hm, hyield⟩ := yields_method hq table hmethod i.columnNames
  have hall := read_append (d.read_wordsText hopening) (read_append hname
    (read_append (d.read_wordsText hoptions) (read_append hon (read_append htable hread))))
  have hsql := (congrArg (d.read .gap) htext).trans hall
  refine tokens_of_yields ⟨_, m, hsql, hm, ?_⟩
  rw [finished_closing] at hyield
  simp only [List.append_assoc, hyield, ← hus]
  rfl

end Dialect

/-- The text of a quoted name. -/
def Token.name? : Token → Option String
  | .name text => some text
  | _ => none

@[simp] theorem Token.name?_name (text : String) : (Token.name text).name? = some text := rfl

@[simp] theorem Token.name?_word (text : String) : (Token.word text).name? = none := rfl

namespace Dialect

variable {d : Dialect} {quote : Char} {w : String}

theorem names_map_word (words : List String) :
    (words.map Token.word).filterMap Token.name? = [] := by
  rw [List.filterMap_eq_nil_iff, List.forall_mem_map]
  exact fun _ _ => rfl

theorem names_tableTokens (schema : Option String) (table : String) :
    (tableTokens schema table).filterMap Token.name? = (writtenSchema schema).toList ++ [table] := by
  rw [tableTokens]
  cases writtenSchema schema <;> rfl

theorem names_columnTokens (columns : List String) :
    (columnTokens columns).filterMap Token.name? = columns := by
  cases columns with
  | nil => rfl
  | cons c columns =>
    have hnames : (columns.flatMap fun c => [Token.word ",", .name c]).filterMap Token.name? =
        columns := by
      rw [List.filterMap_flatMap]
      exact List.flatMap_singleton' columns
    show c :: (columns.flatMap (fun c => [Token.word ",", .name c]) ++ [Token.word ")"]).filterMap
      Token.name? = c :: columns
    rw [List.filterMap_append, hnames]
    exact congrArg _ (List.append_nil columns)

/-- The marks between the names are no keywords. -/
theorem word_notMem_tableTokens (hw : w ∈ indexKeywords) (schema : Option String) (table : String) :
    Token.word w ∉ tableTokens schema table := by
  have hpoint : w ≠ "." := ne_of_mem_of_not_mem hw (by decide)
  rw [tableTokens]
  cases writtenSchema schema <;> simp [hpoint]

theorem word_notMem_columnTokens (hw : w ∈ indexKeywords) (columns : List String) :
    Token.word w ∉ columnTokens columns := by
  have hmarks : ∀ mark ∈ ["()", "(", ",", ")"], w ≠ mark := by
    intro mark hmark
    exact ne_of_mem_of_not_mem hw (by revert mark; decide)
  simp only [List.forall_mem_cons] at hmarks
  obtain ⟨hboth, hopen, hcomma, hclose, -⟩ := hmarks
  cases columns <;> simp [columnTokens, hboth, hopen, hcomma, hclose]

/-! ## What the statement says -/

/-- A statement that is put together from these parts creates an index as it is defined. -/
structure CreatesIndex (d : Dialect) (schema : Option String) (table : String) (i : IndexDefinition)
    (t : IndexText) : Prop where
  text : d.createIndexSql schema table i = t.written
  keywords : ∀ w ∈ t.keywords, w ∈ indexKeywords
  name_eq : t.name = d.identifier i.name
  table_eq : t.table = d.qualified schema table
  columns_eq : t.columns = i.columnNames.map d.identifier
  unique : "UNIQUE" ∈ t.keywords ↔ i.kind = .unique ∨ i.kind = .uniqueHash
  hash : "HASH" ∈ t.keywords → i.kind = .hash ∨ i.kind = .uniqueHash
  hash_postgres : d = postgres →
    ("HASH" ∈ t.keywords ↔ i.kind = .hash ∧ i.columnNames.length = 1)
  /-- There is one warning, which names the index, where hash values are asked for and not used. -/
  warned : (i.kind = .hash ∨ i.kind = .uniqueHash) → "HASH" ∉ t.keywords →
    d.indexNotices i = [.hashRestricted i.name] ∨
      d.indexNotices i = [.hashUnsupported d.name i.name]
  /-- Otherwise there is none. -/
  quiet : (i.kind = .hash ∨ i.kind = .uniqueHash → "HASH" ∈ t.keywords) → d.indexNotices i = []
  /-- Where names are quoted, an engine reads the keywords of the parts. -/
  read_keywords (quote : Char) : d.identifierQuote? = some quote → ∀ w ∈ indexKeywords,
    (.word w ∈ d.tokens (d.createIndexSql schema table i) ↔ w ∈ t.keywords)
  /-- And it reads the names of the index, of the table and of the columns, in this order. -/
  read_names (quote : Char) : d.identifierQuote? = some quote →
    (d.tokens (d.createIndexSql schema table i)).filterMap Token.name? =
      i.name :: ((writtenSchema schema).toList ++ table :: i.columnNames)

/-- **An index is created with what it enforces.**  Whatever the dialect and the names are, the
statement has the keyword UNIQUE exactly for the two unique kinds, and it names the index, the table
with its schema, and all columns in their order.  It has the keyword HASH only where hash values are
asked for, in PostgreSQL exactly for a hash index that is not unique and has one column; where they are
asked for and the keyword is missing, there is one warning, and otherwise none. -/
theorem exists_createsIndex (d : Dialect) (schema : Option String) (table : String)
    (i : IndexDefinition) : ∃ t, d.CreatesIndex schema table i t := by
  have hhash := d.hash_mem_keywords schema table i
  refine ⟨d.indexText schema table i, {
    text := d.createIndexSql_eq schema table i
    keywords := d.mem_indexKeywords schema table i
    name_eq := rfl
    table_eq := rfl
    columns_eq := rfl
    unique := (d.unique_mem_keywords schema table i).trans IndexKind.isUnique_iff
    hash := fun h => IndexKind.asksForHash_iff.mp (asksForHash_of_usesHash (hhash.mp h))
    hash_postgres := ?_
    warned := fun hkind hword => ?_
    quiet := fun hword => ?_
    read_keywords := fun quote hq w hw => ?_
    read_names := fun quote hq => ?_ }⟩
  · rintro rfl
    exact hhash.trans usesHash_postgres_iff
  · rw [hhash, Bool.not_eq_true] at hword
    rw [indexNotices_eq, if_pos ⟨IndexKind.asksForHash_iff.mpr hkind, hword⟩, hashNotice]
    split
    · exact .inl rfl
    · exact .inr rfl
  · rw [indexNotices_eq, if_neg]
    rintro ⟨hkind, hregular⟩
    rw [hhash.mp (hword (IndexKind.asksForHash_iff.mp hkind))] at hregular
    exact nomatch hregular
  · have htable := word_notMem_tableTokens hw schema table
    have hcolumns := word_notMem_columnTokens hw i.columnNames
    rw [tokens_createIndexSql hq]
    simp [IndexText.keywords, htable, hcolumns]
  · rw [tokens_createIndexSql hq]
    simp only [List.filterMap_append, List.filterMap_cons, Token.name?_name, Token.name?_word,
      names_map_word, names_tableTokens, names_columnTokens, List.nil_append, List.append_assoc,
      List.singleton_append]

/-- A unique index over two columns stays unique without hash values. -/
example : postgres.createIndexSql (some "s") "t" ⟨.uniqueHash, "ix", ["a", "b"]⟩ =
    "CREATE UNIQUE INDEX IF NOT EXISTS \"ix\" ON \"s\".\"t\"(\"a\", \"b\")" := by decide

end Dialect
end TableMapping
