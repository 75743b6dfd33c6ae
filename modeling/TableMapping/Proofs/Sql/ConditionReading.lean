import TableMapping.Proofs.Sql.Rendering
import TableMapping.Proofs.Sql.Token
import TableMapping.Sql.Condition

/-!
# Reading conditions back

Where names are quoted, the text of a WHERE clause and the values that are bound with it say what
its conditions are.  The pieces of the text have blanks between them, and each condition is known by
the words behind its column: a comparison with bounds has an AND of its own, which is read with it.

* `Condition.Fits`: the operands that a comparison has.
* `readWhere`: the reader of a WHERE clause, condition by condition.
* `spelledOut`: what is kept of the joiners.
* `Dialect.yields_condition`, `Dialect.yields_tailFragments`: each condition is read back.
* `Dialect.readConditions_whereClause`: and so is every chain.
-/

namespace TableMapping

/-! ## What is read -/

namespace Comparison

/-- Whether a comparison has one operand, a value or a column. -/
def isBinary : Comparison → Bool
  | between | isNull | isNotNull => false
  | _ => true

/-- The comparison with one operand that a word stands for. -/
def ofWord? (word : String) : Option Comparison :=
  [equal, notEqual, greaterThan, greaterEqual, lessThan, lessEqual, like].find?
    fun c => c.sql = word

end Comparison

namespace Joiner

/-- The word of a joiner. -/
def word : Joiner → String
  | and => "AND"
  | or => "OR"

/-- The joiner that a word stands for. -/
def ofWord? (word : String) : Option Joiner :=
  [and, or].find? fun j => j.word = word

theorem ofWord?_word (j : Joiner) : ofWord? j.word = some j := by
  cases j <;> rfl

end Joiner

/-- An operand fits a comparison. -/
inductive Operand.Fits : Comparison → Operand → Prop
  | isNull : Fits .isNull .none
  | isNotNull : Fits .isNotNull .none
  | between (low high : Value) : Fits .between (.range low high)
  | value {c : Comparison} (hc : c.isBinary = true) (v : Value) : Fits c (.value v)
  | column {c : Comparison} (hc : c.isBinary = true) (name : String) : Fits c (.column name)

/-- A condition whose operand fits its comparison. -/
def Condition.Fits (c : Condition) : Prop :=
  c.right.Fits c.compare

/-- Conditions with their joiners spelled out: the first has none, and a later one that does not say
is joined by AND. -/
def spelledOut : List Condition → List Condition
  | [] => []
  | c :: cs =>
    { c with joiner := none } :: cs.map fun c => { c with joiner := some (c.joiner.getD .and) }

/-! ## The reader -/

mutual

/-- Read what stands behind a condition: nothing, or a joiner and a column. -/
def readTail : List Token → List Value → Option (List Condition)
  | [], [] => some []
  | .word word :: .name column :: ts, vs =>
    (Joiner.ofWord? word).bind fun joiner => readComparison (some joiner) column ts vs
  | _, _ => none

/-- Read what stands behind a column: the words of a comparison and its operand. -/
def readComparison (joiner : Option Joiner) (column : String) :
    List Token → List Value → Option (List Condition)
  | .word "IS" :: .word "NULL" :: ts, vs =>
    (readTail ts vs).map (⟨joiner, column, .isNull, .none⟩ :: ·)
  | .word "IS" :: .word "NOT" :: .word "NULL" :: ts, vs =>
    (readTail ts vs).map (⟨joiner, column, .isNotNull, .none⟩ :: ·)
  | .word "BETWEEN" :: .placeholder _ :: .word "AND" :: .placeholder _ :: ts, low :: high :: vs =>
    (readTail ts vs).map (⟨joiner, column, .between, .range low high⟩ :: ·)
  | .word word :: .placeholder _ :: ts, v :: vs =>
    (Comparison.ofWord? word).bind fun compare =>
      (readTail ts vs).map (⟨joiner, column, compare, .value v⟩ :: ·)
  | .word word :: .name other :: ts, vs =>
    (Comparison.ofWord? word).bind fun compare =>
      (readTail ts vs).map (⟨joiner, column, compare, .column other⟩ :: ·)
  | _, _ => none

end

/-- Read a WHERE clause. -/
def readWhere : List Token → List Value → Option (List Condition)
  | .word "WHERE" :: .name column :: ts, vs => readComparison none column ts vs
  | _, _ => none

namespace Dialect

/-- Read the text of a WHERE clause and the values bound with it. -/
def readConditions (d : Dialect) (text : String) (values : List Value) : Option (List Condition) :=
  readWhere (d.tokens text) values

/-! ## Pieces with blanks between them -/

/-- From a mode outside of quotes, characters yield pieces, the last one included. -/
def Yields (d : Dialect) (m : ReadMode) (cs : List Char) (ts : List Token) : Prop :=
  ∃ us m', d.read m cs = (us, m') ∧ m'.IsSettled ∧ us ++ m'.finished = m.finished ++ ts

variable {d : Dialect} {m : ReadMode} {cs cs' : List Char} {ts ts' : List Token}

theorem yields_nil (hm : m.IsSettled) : d.Yields m [] [] :=
  ⟨[], m, rfl, hm, (List.append_nil _).symm⟩

/-- What is read from wherever the first part ends is read behind it. -/
theorem Yields.append (h : d.Yields m cs ts)
    (h' : ∀ m' : ReadMode, m'.IsSettled → d.Yields m' cs' ts') :
    d.Yields m (cs ++ cs') (ts ++ ts') := by
  obtain ⟨us, m₁, hread, hm₁, hyield⟩ := h
  obtain ⟨us', m₂, hread', hm₂, hyield'⟩ := h' m₁ hm₁
  refine ⟨us ++ us', m₂, read_append hread hread', hm₂, ?_⟩
  rw [List.append_assoc, hyield', ← List.append_assoc, hyield, List.append_assoc]

/-- Behind a blank a new piece starts. -/
theorem Yields.behind_blank (h : d.Yields .gap cs ts) (hm : m.IsSettled) :
    d.Yields m (' ' :: cs) ts := by
  obtain ⟨us, m', hread, hm', hyield⟩ := h
  refine ⟨m.finished ++ us, m', ?_, hm', ?_⟩
  · exact read_append (read_blank hm) hread
  · rw [List.append_assoc, hyield]
    rfl

theorem Yields.append_blank (h : d.Yields m cs ts) (h' : d.Yields .gap cs' ts') :
    d.Yields m (cs ++ ' ' :: cs') (ts ++ ts') :=
  h.append fun _ hm => h'.behind_blank hm

theorem yields_identifier {q : Char} (hq : d.identifierQuote? = some q) (name : String) :
    d.Yields .gap (d.identifier name).toList [.name name] := by
  rw [identifier, hq]
  refine ⟨_, _, read_quotedIdentifier (m := .gap) hq trivial name, nofun, ?_⟩
  rw [ReadMode.finished, ReadMode.finished, String.ofList_toList]

theorem yields_placeholder (d : Dialect) (n : Nat) :
    d.Yields .gap (d.placeholder n).toList [.placeholder (d.placeholder n)] := by
  refine ⟨_, _, d.read_placeholder (m := .gap) trivial n, nofun, ?_⟩
  rw [ReadMode.finished, ReadMode.finished, String.ofList_toList]

theorem yields_word {word : String} (hsome : word.toList ≠ [])
    (hword : ∀ c ∈ word.toList, d.isWordChar c = true) :
    d.Yields .gap word.toList [.word word] := by
  have hread : d.read .gap word.toList = ([], .word word.toList) := by
    cases hcs : word.toList with
    | nil => exact absurd hcs hsome
    | cons c cs =>
      rw [hcs] at hword
      obtain ⟨hc, hcs⟩ := List.forall_mem_cons.mp hword
      exact read_cons (readChar_word hc) (read_word hcs)
  refine ⟨_, _, hread, nofun, ?_⟩
  rw [ReadMode.finished, ReadMode.finished, String.ofList_toList]

/-- The words of conditions. -/
def conditionWords : List String :=
  ["WHERE", "AND", "OR", "BETWEEN", "IS", "NOT", "NULL", "=", "<>", ">", ">=", "<", "<=", "LIKE"]

theorem yields_conditionWord (d : Dialect) {word : String} (h : word ∈ conditionWords) :
    d.Yields .gap word.toList [.word word] := by
  have hsome : conditionWords.all (fun word => word.toList ≠ []) = true := by decide
  have hwords : conditionWords.all (fun word => word.toList.all d.isWordChar) = true := by
    cases d <;> decide
  have hword := List.all_eq_true.mp (List.all_eq_true.mp hwords word h)
  exact yields_word (of_decide_eq_true (List.all_eq_true.mp hsome word h)) hword

theorem sql_mem_conditionWords {c : Comparison} (hc : c.isBinary = true) :
    c.sql ∈ conditionWords := by
  cases c <;> first | decide | cases hc

theorem yields_joiner (hm : m.IsSettled) (j : Joiner) (h : d.Yields .gap cs ts) :
    d.Yields m (j.sql.toList ++ cs) (.word j.word :: ts) := by
  have hword : d.Yields .gap j.word.toList [.word j.word] :=
    d.yields_conditionWord (by cases j <;> decide)
  have htext : j.sql.toList ++ cs = ' ' :: (j.word.toList ++ ' ' :: cs) := by
    cases j <;> rfl
  rw [htext]
  exact (hword.append_blank h).behind_blank hm

/-! ## Conditions -/

/-- The text of a condition, up to its operand. -/
theorem written_condition (c : Condition) (n : Nat) :
    d.written n c.fragments = (d.identifier c.column).toList ++ ' ' :: (c.compare.sql.toList ++
      d.written n (if c.compare.hasOperand then c.right.fragments else [])) := by
  have hhead : d.written n [.column c.column, .text " ", .text c.compare.sql] =
      (d.identifier c.column).toList ++ ' ' :: c.compare.sql.toList := by
    simp only [written, Fragment.written, List.append_nil]
    rfl
  rw [Condition.fragments, written_append, hhead, List.append_assoc]
  rfl

theorem hasOperand_of_isBinary {c : Comparison} (hc : c.isBinary = true) : c.hasOperand = true := by
  cases c <;> first | rfl | cases hc

/-- A condition is read back from its text and its values, and what follows is read behind it. -/
theorem yields_condition {q : Char} (hq : d.identifierQuote? = some q) {c : Condition}
    (hc : c.Fits) (n : Nat) :
    ∃ ts, d.Yields .gap (d.written n c.fragments) (.name c.column :: ts) ∧
      ∀ joiner rest vs, readComparison joiner c.column (ts ++ rest)
          (Fragment.bound c.fragments ++ vs) =
        (readTail rest vs).map (⟨joiner, c.column, c.compare, c.right⟩ :: ·) := by
  rw [written_condition]
  obtain ⟨joiner, column, compare, right⟩ := c
  have hcolumn := yields_identifier hq column
  simp only
  cases hc with
  | isNull =>
    refine ⟨[.word "IS", .word "NULL"], ?_, fun joiner rest vs => rfl⟩
    have htext : d.written n (if Comparison.isNull.hasOperand then Operand.none.fragments else []) =
        [] := rfl
    rw [htext, List.append_nil]
    have hwords := (d.yields_conditionWord (by decide : "IS" ∈ conditionWords)).append_blank
      (d.yields_conditionWord (by decide : "NULL" ∈ conditionWords))
    exact hcolumn.append_blank hwords
  | isNotNull =>
    refine ⟨[.word "IS", .word "NOT", .word "NULL"], ?_, fun joiner rest vs => rfl⟩
    have htext : d.written n (if Comparison.isNotNull.hasOperand then Operand.none.fragments
        else []) = [] := rfl
    rw [htext, List.append_nil]
    have hwords := (d.yields_conditionWord (by decide : "NOT" ∈ conditionWords)).append_blank
      (d.yields_conditionWord (by decide : "NULL" ∈ conditionWords))
    exact hcolumn.append_blank
      ((d.yields_conditionWord (by decide : "IS" ∈ conditionWords)).append_blank hwords)
  | between low high =>
    refine ⟨[.word "BETWEEN", .placeholder (d.placeholder (n + 1)), .word "AND",
      .placeholder (d.placeholder (n + 2))], ?_, fun joiner rest vs => rfl⟩
    have htext : d.written n (if Comparison.between.hasOperand then
        (Operand.range low high).fragments else []) =
          ' ' :: ((d.placeholder (n + 1)).toList ++ ' ' :: ("AND".toList ++
            ' ' :: (d.placeholder (n + 2)).toList)) := by
      have hoperand : (if Comparison.between.hasOperand then (Operand.range low high).fragments
          else []) = [.text " ", .param low, .text " AND ", .param high] := rfl
      rw [hoperand]
      simp only [written, Fragment.written, List.append_nil]
      rfl
    have hand := d.yields_conditionWord (by decide : "AND" ∈ conditionWords)
    have hbounds := (d.yields_placeholder (n + 1)).append_blank
      (hand.append_blank (d.yields_placeholder (n + 2)))
    have hbetween := d.yields_conditionWord (by decide : "BETWEEN" ∈ conditionWords)
    rw [htext]
    exact hcolumn.append_blank (hbetween.append_blank hbounds)
  | value hbinary v =>
    have htext : d.written n (if compare.hasOperand then (Operand.value v).fragments else []) =
        ' ' :: (d.placeholder (n + 1)).toList := by
      rw [if_pos (hasOperand_of_isBinary hbinary)]
      exact congrArg (' ' :: ·) (List.append_nil _)
    rw [htext]
    refine ⟨[.word compare.sql, .placeholder (d.placeholder (n + 1))], ?_, fun joiner rest vs => ?_⟩
    · have hsql := d.yields_conditionWord (sql_mem_conditionWords hbinary)
      exact hcolumn.append_blank (hsql.append_blank (d.yields_placeholder _))
    · cases compare <;> first | rfl | cases hbinary
  | column hbinary name =>
    have htext : d.written n (if compare.hasOperand then (Operand.column name).fragments else []) =
        ' ' :: (d.identifier name).toList := by
      rw [if_pos (hasOperand_of_isBinary hbinary)]
      exact congrArg (' ' :: ·) (List.append_nil _)
    rw [htext]
    refine ⟨[.word compare.sql, .name name], ?_, fun joiner rest vs => ?_⟩
    · have hsql := d.yields_conditionWord (sql_mem_conditionWords hbinary)
      exact hcolumn.append_blank (hsql.append_blank (yields_identifier hq name))
    · cases compare <;> first | rfl | cases hbinary

/-- Words in front of fragments, and fragments behind them. -/
theorem written_words (words : String) (fs gs : List Fragment) (n : Nat) :
    d.written n (.text words :: (fs ++ gs)) = words.toList ++ (d.written n fs ++
        d.written (n + (Fragment.bound fs).length) gs) ∧
      Fragment.bound (.text words :: (fs ++ gs)) = Fragment.bound fs ++ Fragment.bound gs := by
  rw [← written_append, ← Fragment.bound_append]
  exact ⟨rfl, rfl⟩

/-- The conditions behind the first are read back one after the other. -/
theorem yields_tailFragments {q : Char} (hq : d.identifierQuote? = some q) {cs : List Condition}
    (hcs : ∀ c ∈ cs, c.Fits) (n : Nat) :
    ∃ ts, (∀ m : ReadMode, m.IsSettled → d.Yields m (d.written n (Condition.tailFragments cs)) ts) ∧
      readTail ts (Fragment.bound (Condition.tailFragments cs)) =
        some (cs.map fun c => { c with joiner := some (c.joiner.getD .and) }) := by
  induction cs generalizing n with
  | nil => exact ⟨[], fun m hm => yields_nil hm, rfl⟩
  | cons c cs ih =>
    obtain ⟨hc, hcs⟩ := List.forall_mem_cons.mp hcs
    obtain ⟨us, hcondition, hread⟩ := yields_condition hq hc n
    obtain ⟨ts, htail, hrest⟩ := ih hcs (n + (Fragment.bound c.fragments).length)
    have hfragments : Condition.tailFragments (c :: cs) =
        .text (c.joiner.getD .and).sql :: (c.fragments ++ Condition.tailFragments cs) := rfl
    obtain ⟨hwritten, hbound⟩ := d.written_words (c.joiner.getD .and).sql c.fragments
      (Condition.tailFragments cs) n
    rw [hfragments, hwritten, hbound]
    refine ⟨.word (c.joiner.getD .and).word :: .name c.column :: (us ++ ts), fun m hm => ?_, ?_⟩
    · exact yields_joiner hm _ (hcondition.append htail)
    · rw [readTail, Joiner.ofWord?_word, Option.bind_some, hread, hrest]
      rfl

theorem tokens_of_yields {text : String} (h : d.Yields .gap text.toList ts) :
    d.tokens text = ts := by
  obtain ⟨us, m', hread, -, hyield⟩ := h
  rw [tokens, hread]
  exact hyield

/-- A chain is read back from its text and its values. -/
theorem readConditions_written {q : Char} (hq : d.identifierQuote? = some q) {cs : List Condition}
    (hsome : cs ≠ []) (hcs : ∀ c ∈ cs, c.Fits) (n : Nat) {text : String}
    (htext : text.toList = d.written n (whereClause cs)) :
    d.readConditions text (Fragment.bound (whereClause cs)) = some (spelledOut cs) := by
  cases cs with
  | nil => exact absurd rfl hsome
  | cons c cs =>
    obtain ⟨hc, hcs⟩ := List.forall_mem_cons.mp hcs
    obtain ⟨us, hcondition, hread⟩ := yields_condition hq hc n
    obtain ⟨ts, htail, hrest⟩ :=
      yields_tailFragments hq hcs (n + (Fragment.bound c.fragments).length)
    have hfragments : whereClause (c :: cs) =
        .text " WHERE " :: (c.fragments ++ Condition.tailFragments cs) := rfl
    obtain ⟨hwritten, hbound⟩ := d.written_words " WHERE " c.fragments
      (Condition.tailFragments cs) n
    have htokens : d.tokens text = .word "WHERE" :: .name c.column :: (us ++ ts) := by
      refine tokens_of_yields ?_
      rw [htext, hfragments, hwritten]
      have hwhere := d.yields_conditionWord (by decide : "WHERE" ∈ conditionWords)
      exact (hwhere.append_blank (hcondition.append htail)).behind_blank nofun
    rw [readConditions, htokens, hfragments, hbound, readWhere, hread, hrest]
    rfl

/-- Where names are quoted, a chain of conditions is read back from the text and the values that it
adds to a statement, whatever its columns are called and however many values there were before.  So
chains that add the same are the same. -/
theorem readConditions_whereClause (d : Dialect) (hd : d = .mySql ∨ d = .postgres) :
    (∀ (b : StatementBuilder) (cs : List Condition), b.dialect = d → cs ≠ [] →
      (∀ c ∈ cs, c.Fits) → ∃ added values, b.Adds (whereClause cs) added values ∧
        d.readConditions added values = some (spelledOut cs)) ∧
      ∀ (b b' : StatementBuilder) (cs cs' : List Condition) (added : String) (values : List Value),
        b.dialect = d → b'.dialect = d → cs ≠ [] → cs' ≠ [] → (∀ c ∈ cs, c.Fits) →
          (∀ c ∈ cs', c.Fits) → b.Adds (whereClause cs) added values →
            b'.Adds (whereClause cs') added values → spelledOut cs = spelledOut cs' := by
  obtain ⟨q, hq⟩ : ∃ q, d.identifierQuote? = some q := by
    rcases hd with rfl | rfl
    · exact ⟨_, rfl⟩
    · exact ⟨_, rfl⟩
  have hread : ∀ (b : StatementBuilder) (cs : List Condition) (added : String)
      (values : List Value), b.dialect = d → cs ≠ [] → (∀ c ∈ cs, c.Fits) →
        b.Adds (whereClause cs) added values →
          d.readConditions added values = some (spelledOut cs) := by
    intro b cs added values hb hsome hcs hadds
    obtain ⟨htext, rfl⟩ := b.adds_iff.mp hadds
    rw [hb] at htext
    exact readConditions_written hq hsome hcs _ htext
  constructor
  · intro b cs hb hsome hcs
    obtain ⟨added, values, hadds⟩ := b.exists_adds (whereClause cs)
    exact ⟨added, values, hadds, hread b cs added values hb hsome hcs hadds⟩
  · intro b b' cs cs' added values hb hb' hsome hsome' hcs hcs' hadds hadds'
    have hfirst := hread b cs added values hb hsome hcs hadds
    have hsecond := hread b' cs' added values hb' hsome' hcs' hadds'
    exact Option.some.inj (hfirst.symm.trans hsecond)

/-! ### A chain with hostile names -/

/-- A column between bounds, and one with a name that looks like a condition. -/
def hostileChain : List Condition :=
  [⟨some .or, "a\x60b", .between, .range (.of (.bigInt 1)) (.of (.bigInt 9))⟩,
    ⟨none, "\x60 IS NULL OR \x60", .isNull, .none⟩]

theorem readConditions_hostileChain :
    ∃ added values,
      (⟨.mySql, "SELECT 1 FROM t", [.text "x"], 0⟩ : StatementBuilder).Adds
        (whereClause hostileChain) added values ∧
      mySql.readConditions added values =
        some [⟨none, "a\x60b", .between, .range (.of (.bigInt 1)) (.of (.bigInt 9))⟩,
          ⟨some .and, "\x60 IS NULL OR \x60", .isNull, .none⟩] := by
  refine (readConditions_whereClause .mySql (.inl rfl)).1 _ _ rfl (List.cons_ne_nil _ _) ?_
  exact List.forall_mem_cons.mpr ⟨.between _ _, List.forall_mem_singleton.mpr .isNull⟩

end Dialect
end TableMapping
