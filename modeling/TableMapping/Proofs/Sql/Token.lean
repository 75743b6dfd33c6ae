import TableMapping.Proofs.Number.Numeral
import TableMapping.Sql.Statement

/-!
# Reading the text of a statement

An engine reads a statement character by character and finds words, quoted names and placeholders.
Inside a quoted name nothing but a quote counts, and a quote that is written twice belongs to the
name.

* `ReadMode`, `Dialect.readChar`, `Dialect.read`: the reader and what it finds on the way.
* `Dialect.tokens`: what it finds in a text.
* `Dialect.read_append`: a text is read piece by piece.
* `Dialect.read_quotedIdentifier`, `Dialect.read_placeholder`, `Dialect.read_word`: the pieces.
-/

namespace TableMapping

/-- A piece of a statement as an engine reads it. -/
inductive Token where
  | word (text : String)
  /-- A quoted name, without the quotes. -/
  | name (text : String)
  | placeholder (text : String)
  deriving DecidableEq

/-- What a reader has seen of the piece it is in. -/
inductive ReadMode where
  /-- Between two pieces. -/
  | gap
  | word (seen : List Char)
  | quoted (seen : List Char)
  /-- Behind a quote, which ends the name unless another quote follows. -/
  | closing (seen : List Char)
  | placeholder (seen : List Char)

namespace ReadMode

/-- The piece that is complete when it does not go on. -/
def finished : ReadMode → List Token
  | gap => []
  | word seen => [.word (String.ofList seen)]
  | quoted _ => []
  | closing seen => [.name (String.ofList seen)]
  | placeholder seen => [.placeholder (String.ofList seen)]

/-- Whether the reader is outside of quotes. -/
def IsSettled (m : ReadMode) : Prop :=
  ∀ seen, m ≠ quoted seen

/-- Whether any quote or mark starts a new piece. -/
def IsOpen : ReadMode → Prop
  | gap | word _ => True
  | _ => False

theorem IsOpen.isSettled {m : ReadMode} (h : m.IsOpen) : m.IsSettled := by
  rintro seen rfl
  exact h

end ReadMode

namespace Dialect

/-! ## The reader -/

/-- The character that starts a placeholder. -/
def placeholderMark : Dialect → Char
  | postgres => '$'
  | _ => '?'

/-- Whether a character can stand in a word. -/
def isWordChar (d : Dialect) (c : Char) : Bool :=
  d.identifierQuote? != some c && c != d.placeholderMark && c != ' '

/-- How a piece goes on with a character, when it does. -/
def extend? (d : Dialect) : ReadMode → Char → Option ReadMode
  | .gap, _ => none
  | .word seen, c => if d.isWordChar c then some (.word (seen ++ [c])) else none
  | .quoted seen, c =>
    some (if d.identifierQuote? = some c then .closing seen else .quoted (seen ++ [c]))
  | .closing seen, c => if d.identifierQuote? = some c then some (.quoted (seen ++ [c])) else none
  | .placeholder seen, c => if c.isDigit then some (.placeholder (seen ++ [c])) else none

/-- What a character starts. -/
def start (d : Dialect) (c : Char) : ReadMode :=
  if d.identifierQuote? = some c then .quoted []
  else if c = d.placeholderMark then .placeholder [c]
  else if c = ' ' then .gap
  else .word [c]

/-- Read one character: the pieces that end before it, and what the reader is in behind it. -/
def readChar (d : Dialect) (m : ReadMode) (c : Char) : List Token × ReadMode :=
  match d.extend? m c with
  | some m' => ([], m')
  | none => (m.finished, d.start c)

/-- Read characters: the pieces that have ended, and what the reader is in behind them. -/
def read (d : Dialect) : ReadMode → List Char → List Token × ReadMode
  | m, [] => ([], m)
  | m, c :: cs =>
    let (ts, m) := d.readChar m c
    let (rest, m) := d.read m cs
    (ts ++ rest, m)

/-- The pieces of a text. -/
def tokens (d : Dialect) (sql : String) : List Token :=
  let (ts, m) := d.read .gap sql.toList
  ts ++ m.finished

variable {d : Dialect} {m m' m'' : ReadMode} {cs cs' : List Char} {ts ts' : List Token} {c : Char}

/-! ## Piece by piece -/

theorem read_append (h : d.read m cs = (ts, m')) (h' : d.read m' cs' = (ts', m'')) :
    d.read m (cs ++ cs') = (ts ++ ts', m'') := by
  induction cs generalizing m ts with
  | nil =>
    cases h
    exact h'
  | cons c cs ih =>
    rcases hc : d.readChar m c with ⟨us, n⟩
    rcases hcs : d.read n cs with ⟨vs, n'⟩
    rw [read, hc] at h
    simp only [hcs, Prod.mk.injEq] at h
    obtain ⟨rfl, rfl⟩ := h
    rw [List.cons_append, read, hc]
    simp only [ih hcs, List.append_assoc]

theorem read_singleton (h : d.readChar m c = (ts, m')) : d.read m [c] = (ts, m') := by
  rw [read, h]
  simp only [read, List.append_nil]

theorem read_cons (h : d.readChar m c = (ts, m')) (h' : d.read m' cs = (ts', m'')) :
    d.read m (c :: cs) = (ts ++ ts', m'') :=
  read_append (read_singleton h) h'

theorem readChar_extend (h : d.extend? m c = some m') : d.readChar m c = ([], m') := by
  rw [readChar, h]

theorem readChar_start (h : d.extend? m c = none) : d.readChar m c = (m.finished, d.start c) := by
  rw [readChar, h]

/-- Outside of other pieces, what cannot stand in a word starts a piece. -/
theorem extend?_eq_none (hm : m.IsOpen) (hc : d.isWordChar c = false) : d.extend? m c = none := by
  cases m with
  | gap => rfl
  | word seen => exact if_neg (Bool.eq_false_iff.mp hc)
  | quoted | closing | placeholder => exact hm.elim

theorem isWordChar_quote {q : Char} (hq : d.identifierQuote? = some q) :
    d.isWordChar q = false := by
  rw [isWordChar, hq, bne_self_eq_false]
  rfl

theorem isWordChar_placeholderMark (d : Dialect) : d.isWordChar d.placeholderMark = false := by
  rw [isWordChar, bne_self_eq_false, Bool.and_false]
  rfl

/-! ## Blanks and words -/

/-- A blank ends every piece outside of quotes. -/
theorem read_blank (hm : m.IsSettled) : d.read m [' '] = (m.finished, .gap) := by
  have hquote : d.identifierQuote? ≠ some ' ' := by cases d <;> decide
  have hmark : ' ' ≠ d.placeholderMark := by cases d <;> decide
  have hword : d.isWordChar ' ' = false := by cases d <;> rfl
  have hstart : d.start ' ' = .gap := by
    rw [start, if_neg hquote, if_neg hmark, if_pos rfl]
  have hextend : d.extend? m ' ' = none := by
    cases m with
    | gap => rfl
    | word seen => exact if_neg (Bool.eq_false_iff.mp hword)
    | quoted seen => exact absurd rfl (hm seen)
    | closing seen => exact if_neg hquote
    | placeholder seen => rfl
  rw [read_singleton (readChar_start hextend), hstart]

/-- A piece that goes on with each of some characters goes on with all of them. -/
theorem read_extend (mode : List Char → ReadMode)
    (h : ∀ c ∈ cs, ∀ seen, d.extend? (mode seen) c = some (mode (seen ++ [c])))
    (seen : List Char) : d.read (mode seen) cs = ([], mode (seen ++ cs)) := by
  induction cs generalizing seen with
  | nil => rw [List.append_nil, read]
  | cons c cs ih =>
    obtain ⟨hc, hcs⟩ := List.forall_mem_cons.mp h
    rw [read_cons (readChar_extend (hc seen)) (ih hcs _), List.append_assoc]
    rfl

/-- A character of a word starts one. -/
theorem readChar_word (hc : d.isWordChar c = true) : d.readChar .gap c = ([], .word [c]) := by
  have hstart : d.start c = .word [c] := by
    rw [isWordChar, Bool.and_eq_true, Bool.and_eq_true, bne_iff_ne, bne_iff_ne, bne_iff_ne] at hc
    obtain ⟨⟨hquote, hmark⟩, hblank⟩ := hc
    rw [start, if_neg hquote, if_neg hmark, if_neg hblank]
  rw [readChar_start rfl, hstart]
  rfl

theorem read_word {seen : List Char} (h : ∀ c ∈ cs, d.isWordChar c = true) :
    d.read (.word seen) cs = ([], .word (seen ++ cs)) :=
  read_extend .word (fun c hc _ => if_pos (h c hc)) seen

/-! ## Names -/

/-- A name is read up to the quote behind it, and what was doubled in it counts once. -/
theorem read_doubled {q : Char} (hq : d.identifierQuote? = some q) (seen : List Char) :
    d.read (.quoted seen) (Sql.doubled q cs ++ [q]) = ([], .closing (seen ++ cs)) := by
  induction cs generalizing seen with
  | nil =>
    rw [List.append_nil]
    exact read_singleton (readChar_extend (congrArg some (if_pos hq)))
  | cons c cs ih =>
    rw [Sql.doubled]
    split
    · rename_i hc
      have hfirst : d.readChar (.quoted seen) q = ([], .closing seen) :=
        readChar_extend (congrArg some (if_pos hq))
      have hsecond : d.readChar (.closing seen) q = ([], .quoted (seen ++ [q])) :=
        readChar_extend (if_pos hq)
      rw [hc, List.cons_append, List.cons_append, read_cons hfirst (read_cons hsecond (ih _)),
        List.append_assoc]
      rfl
    · rename_i hc
      have hother : d.identifierQuote? ≠ some c := by
        rw [hq, ne_eq, Option.some.injEq]
        exact fun heq => hc heq.symm
      have hfirst : d.readChar (.quoted seen) c = ([], .quoted (seen ++ [c])) :=
        readChar_extend (congrArg some (if_neg hother))
      rw [List.cons_append, read_cons hfirst (ih _), List.append_assoc]
      rfl

theorem read_quotedIdentifier {q : Char} (hq : d.identifierQuote? = some q) (hm : m.IsOpen)
    (name : String) :
    d.read m (Sql.quotedIdentifier q name).toList = (m.finished, .closing name.toList) := by
  have hopen := readChar_start (extend?_eq_none hm (isWordChar_quote hq))
  rw [start, if_pos hq] at hopen
  rw [Sql.quotedIdentifier, String.toList_ofList, List.cons_append,
    read_cons hopen (read_doubled hq []), List.append_nil, List.nil_append]

/-! ## Placeholders -/

/-- A placeholder is its mark and, where parameters are numbered, a number. -/
theorem toList_placeholder (d : Dialect) (n : Nat) : ∃ digits : List Char,
    (d.placeholder n).toList = d.placeholderMark :: digits ∧ ∀ c ∈ digits, c.isDigit = true := by
  cases d with
  | postgres =>
    refine ⟨Numeral.digits n, ?_, fun c hc => Numeral.isDigit_of_mem_digits hc⟩
    rw [placeholder, Numeral.ofNat, String.toList_append, String.toList_ofList,
      String.toList_ofList]
    rfl
  | _ => exact ⟨[], String.toList_ofList, List.forall_mem_nil _⟩

theorem read_digits {seen : List Char} (h : ∀ c ∈ cs, c.isDigit = true) :
    d.read (.placeholder seen) cs = ([], .placeholder (seen ++ cs)) :=
  read_extend .placeholder (fun c hc _ => if_pos (h c hc)) seen

theorem read_placeholder (d : Dialect) (hm : m.IsOpen) (n : Nat) :
    d.read m (d.placeholder n).toList = (m.finished, .placeholder (d.placeholder n).toList) := by
  have hquote : d.identifierQuote? ≠ some d.placeholderMark := by cases d <;> decide
  have hopen := readChar_start (extend?_eq_none hm d.isWordChar_placeholderMark)
  rw [start, if_neg hquote, if_pos rfl] at hopen
  obtain ⟨digits, htext, hdigits⟩ := d.toList_placeholder n
  rw [htext, read_cons hopen (read_digits hdigits), List.append_nil]
  rfl

end Dialect
end TableMapping
