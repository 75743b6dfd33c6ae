import Mathlib.Data.List.Chain
import TableMapping.Proofs.Sql.Rendering
import TableMapping.Proofs.Sql.Token
import TableMapping.Query.Query
import TableMapping.Sql.Write

/-!
# Placeholders and parameters

In the text of a statement the words of the statement itself hold no placeholder, and quotes keep
those in names apart.  What remains are the placeholders of the values, each with the position at
which its value is bound.

* `Dialect.placeholders`: the placeholders of a text, outside of quotes.
* `Statement.IsBound`: the placeholders of a statement stand for its parameters, one by one.
* `Fragment.Legible`: fragments that are read as they were put together.
* `Dialect.finds_written`: the placeholders of such fragments.
-/

namespace TableMapping

/-! ## The placeholders of a text -/

/-- The text of a placeholder. -/
def Token.placeholder? : Token → Option String
  | .placeholder text => some text
  | _ => none

/-- The placeholders among the pieces of a text. -/
def placeholdersOf (ts : List Token) : List String :=
  ts.filterMap Token.placeholder?

@[simp] theorem placeholdersOf_append (ts us : List Token) :
    placeholdersOf (ts ++ us) = placeholdersOf ts ++ placeholdersOf us :=
  List.filterMap_append

namespace Dialect

/-- The placeholders of a text, outside of quotes. -/
def placeholders (d : Dialect) (sql : String) : List String :=
  placeholdersOf (d.tokens sql)

/-- The parameter that a placeholder stands for, counted from zero: a number says it, and without
numbers the place among the placeholders does. -/
def parameterOf? (d : Dialect) (place : Nat) (text : String) : Option Nat :=
  match d with
  | postgres =>
    (Numeral.value? (text.toList.drop 1)).bind fun n => if n = 0 then none else some (n - 1)
  | _ => some place

/-- The values that the placeholders of a statement stand for. -/
def bindings (d : Dialect) (st : Statement) : List (Option Value) :=
  (d.placeholders st.sql).mapIdx fun place text =>
    (d.parameterOf? place text).bind fun i => st.params[i]?

theorem parameterOf?_placeholder (d : Dialect) (place : Nat) :
    d.parameterOf? place (d.placeholder (place + 1)) = some place := by
  cases d with
  | postgres =>
    have hdigits : (postgres.placeholder (place + 1)).toList.drop 1 =
        Numeral.digits (place + 1) := by
      rw [placeholder, Numeral.ofNat, String.toList_append, String.toList_ofList,
        String.toList_ofList]
      rfl
    rw [parameterOf?, hdigits, Numeral.value?_digits]
    rfl
  | _ => rfl

end Dialect

/-- Outside of quotes stand the placeholders of all positions, each once and in order, and each
stands for the parameter at its position. -/
structure Statement.IsBound (st : Statement) (d : Dialect) : Prop where
  placeholders : d.placeholders st.sql = (List.range' 1 st.params.length).map d.placeholder
  bindings : d.bindings st = st.params.map some

theorem isBound_of_placeholders {st : Statement} {d : Dialect}
    (h : d.placeholders st.sql = (List.range' 1 st.params.length).map d.placeholder) :
    st.IsBound d := by
  refine ⟨h, ?_⟩
  rw [Dialect.bindings, h]
  apply List.ext_getElem
  · rw [List.length_mapIdx, List.length_map, List.length_range', List.length_map]
  · intro i hi hi'
    rw [List.length_map] at hi'
    rw [List.getElem_mapIdx, List.getElem_map, List.getElem_range', List.getElem_map, Nat.one_mul,
      Nat.add_comm, d.parameterOf?_placeholder, Option.bind_some, List.getElem?_eq_getElem hi']

/-! ## Plain text and names -/

namespace Dialect

/-- A character that neither quotes nor starts a placeholder. -/
def IsPlain (d : Dialect) (c : Char) : Prop :=
  d.identifierQuote? ≠ some c ∧ c ≠ d.placeholderMark

/-- A name that is written without quotes has no placeholder in it. -/
def Spells (d : Dialect) (name : String) : Prop :=
  d.identifierQuote? = none → '?' ∉ name.toList

/-- Reading characters finds placeholders, the one at the end included. -/
def Finds (d : Dialect) (m : ReadMode) (cs : List Char) (ps : List String) (m' : ReadMode) : Prop :=
  ∃ ts, d.read m cs = (ts, m') ∧
    placeholdersOf (ts ++ m'.finished) = placeholdersOf m.finished ++ ps

variable {d : Dialect} {m m' m'' : ReadMode} {cs cs' : List Char} {ps ps' : List String} {c : Char}

theorem finds_nil (d : Dialect) (m : ReadMode) : d.Finds m [] [] m :=
  ⟨[], rfl, (List.append_nil _).symm⟩

theorem Finds.append (h : d.Finds m cs ps m') (h' : d.Finds m' cs' ps' m'') :
    d.Finds m (cs ++ cs') (ps ++ ps') m'' := by
  obtain ⟨ts, hread, hfound⟩ := h
  obtain ⟨ts', hread', hfound'⟩ := h'
  refine ⟨ts ++ ts', read_append hread hread', ?_⟩
  rw [placeholdersOf_append] at hfound
  rw [List.append_assoc, placeholdersOf_append, hfound', ← List.append_assoc, hfound,
    List.append_assoc]

theorem IsOpen.placeholdersOf_finished (hm : m.IsOpen) : placeholdersOf m.finished = [] := by
  cases m with
  | gap | word => rfl
  | quoted | closing | placeholder => exact hm.elim

/-- Outside of quotes, a plain character starts or continues a word, or it is a blank. -/
theorem finds_char (hm : m.IsSettled) (hc : d.IsPlain c)
    (hdigit : m.IsOpen ∨ c.isDigit = false) : ∃ m', d.Finds m [c] [] m' ∧ m'.IsOpen := by
  obtain ⟨hquote, hmark⟩ := hc
  have hstart : (d.start c).IsOpen := by
    rw [start, if_neg hquote, if_neg hmark]
    split <;> trivial
  cases hextend : d.extend? m c with
  | none =>
    refine ⟨d.start c, ⟨_, read_singleton (readChar_start hextend), ?_⟩, hstart⟩
    rw [placeholdersOf_append, IsOpen.placeholdersOf_finished hstart]
  | some m' =>
    have hread := read_singleton (readChar_extend hextend)
    cases m with
    | gap => cases hextend
    | word seen =>
      obtain ⟨-, hword⟩ := Option.ite_none_right_eq_some.mp hextend
      cases hword
      exact ⟨_, ⟨_, hread, rfl⟩, trivial⟩
    | quoted seen => exact absurd rfl (hm seen)
    | closing seen => exact absurd (Option.ite_none_right_eq_some.mp hextend).1 hquote
    | placeholder seen =>
      obtain ⟨hc, -⟩ := Option.ite_none_right_eq_some.mp hextend
      rcases hdigit with hopen | hdigit
      · exact hopen.elim
      · exact absurd hc (Bool.eq_false_iff.mp hdigit)

theorem finds_plain (hm : m.IsOpen) (h : ∀ c ∈ cs, d.IsPlain c) :
    ∃ m', d.Finds m cs [] m' ∧ m'.IsOpen := by
  induction cs generalizing m with
  | nil => exact ⟨m, finds_nil d m, hm⟩
  | cons c cs ih =>
    obtain ⟨hc, hcs⟩ := List.forall_mem_cons.mp h
    obtain ⟨n, hfirst, hn⟩ := finds_char hm.isSettled hc (.inl hm)
    obtain ⟨m', hrest, hm'⟩ := ih hn hcs
    exact ⟨m', hfirst.append hrest, hm'⟩

theorem finds_identifier (hm : m.IsOpen) {name : String} (hname : d.Spells name) :
    ∃ m', d.Finds m (d.identifier name).toList [] m' ∧ m'.IsSettled := by
  rw [identifier]
  cases hq : d.identifierQuote? with
  | some q =>
    refine ⟨_, ⟨_, read_quotedIdentifier hq hm name, ?_⟩, nofun⟩
    rw [placeholdersOf_append]
    rfl
  | none =>
    have hmark : d.placeholderMark = '?' := by
      cases d with
      | mySql | postgres => exact nomatch hq
      | ansi | h2 | sqlite => rfl
    have hplain : ∀ c ∈ name.toList, d.IsPlain c := by
      intro c hc
      rw [IsPlain, hq, hmark]
      exact ⟨nofun, fun heq => hname hq (heq ▸ hc)⟩
    obtain ⟨m', hfinds, hm'⟩ := finds_plain hm hplain
    exact ⟨m', hfinds, hm'.isSettled⟩

theorem finds_qualified (hm : m.IsOpen) {schema : Option String} {table : String}
    (hschema : ∀ s ∈ schema, d.Spells s) (htable : d.Spells table) :
    ∃ m', d.Finds m (d.qualified schema table).toList [] m' ∧ m'.IsSettled := by
  rw [qualified]
  split
  · rename_i s hs
    have hdot : d.IsPlain '.' := by cases d <;> exact ⟨by decide, by decide⟩
    obtain ⟨m₁, hfirst, hm₁⟩ := finds_identifier hm (hschema s (Option.mem_filter_iff.mp hs).1)
    obtain ⟨m₂, hsecond, hm₂⟩ := finds_char hm₁ hdot (.inr rfl)
    obtain ⟨m₃, hthird, hm₃⟩ := finds_identifier hm₂ htable
    refine ⟨m₃, ?_, hm₃⟩
    rw [String.toList_append, String.toList_append]
    exact (hfirst.append hsecond).append hthird
  · exact finds_identifier hm htable

theorem finds_placeholder (d : Dialect) (hm : m.IsOpen) (n : Nat) :
    ∃ m', d.Finds m (d.placeholder n).toList [d.placeholder n] m' ∧ m'.IsSettled := by
  refine ⟨_, ⟨_, d.read_placeholder hm n, ?_⟩, nofun⟩
  rw [placeholdersOf_append, ReadMode.finished, String.ofList_toList]
  rfl

end Dialect

/-! ## Legible fragments -/

namespace Fragment

/-- Words of a statement: they are plain in every dialect, and do not go on with a number. -/
def isWords (s : String) : Bool :=
  !s.isEmpty && s.toList.all (fun c => c ∉ ['"', '\x60', '?', '$']) &&
    s.toList.head?.all fun c => !c.isDigit

theorem isWords_iff {s : String} : isWords s = true ↔ s.toList ≠ [] ∧
    (∀ c ∈ s.toList, c ∉ ['"', '\x60', '?', '$']) ∧ ∀ c ∈ s.toList.head?, c.isDigit = false := by
  have hsome : (!s.isEmpty) = true ↔ s.toList ≠ [] := by
    rw [Bool.not_eq_true', String.isEmpty_eq_false_iff, ne_eq, ne_eq, String.toList_eq_nil_iff]
  have hplain : s.toList.all (fun c => c ∉ ['"', '\x60', '?', '$']) = true ↔
      ∀ c ∈ s.toList, c ∉ ['"', '\x60', '?', '$'] := by
    simp only [List.all_eq_true, decide_eq_true_eq]
  have hhead : (s.toList.head?.all fun c => !c.isDigit) = true ↔
      ∀ c ∈ s.toList.head?, c.isDigit = false := by
    cases s.toList.head? <;> simp
  rw [isWords, Bool.and_eq_true, Bool.and_eq_true, hsome, hplain, hhead, and_assoc]

/-- A fragment that is read as it was meant: words of the statement, a name, or a value. -/
def IsLegible (d : Dialect) : Fragment → Prop
  | .text s => isWords s = true
  | .column name => d.Spells name
  | .table schema name => (∀ s ∈ schema, d.Spells s) ∧ d.Spells name
  | .param _ => True

def isText : Fragment → Bool
  | .text _ => true
  | _ => false

/-- Fragments that are read one by one: two names or values never stand side by side. -/
structure Legible (d : Dialect) (fs : List Fragment) : Prop where
  each : ∀ f ∈ fs, f.IsLegible d
  apart : fs.IsChain fun f g => f.isText = true ∨ g.isText = true

variable {d : Dialect} {fs gs : List Fragment} {f : Fragment} {s : String}

theorem legible_nil (d : Dialect) : Legible d [] :=
  ⟨List.forall_mem_nil _, .nil⟩

theorem legible_singleton (h : f.IsLegible d) : Legible d [f] :=
  ⟨List.forall_mem_singleton.mpr h, .singleton _⟩

theorem Legible.append (h : Legible d fs) (h' : Legible d gs)
    (hjoin : fs.getLast?.all isText = true ∨ gs.head?.all isText = true) :
    Legible d (fs ++ gs) := by
  refine ⟨List.forall_mem_append.mpr ⟨h.each, h'.each⟩, List.isChain_append.mpr ?_⟩
  refine ⟨h.apart, h'.apart, fun f hf g hg => ?_⟩
  rcases hjoin with hlast | hhead
  · rw [hf] at hlast
    exact .inl hlast
  · rw [hg] at hhead
    exact .inr hhead

theorem legible_column {name : String} (h : d.Spells name) : Legible d [.column name] :=
  legible_singleton h

theorem legible_param (v : Value) : Legible d [.param v] :=
  legible_singleton trivial

theorem legible_text (hs : isWords s = true) : Legible d [.text s] :=
  legible_singleton hs

theorem Legible.cons_text (h : Legible d fs) (hs : isWords s = true) :
    Legible d (.text s :: fs) :=
  (legible_text hs).append h (.inl rfl)

/-- Words before and behind a separator are kept apart by it. -/
theorem legible_separated (hs : isWords s = true) {parts : List (List Fragment)}
    (h : ∀ part ∈ parts, Legible d part) : Legible d (separated s parts) := by
  induction parts with
  | nil => exact legible_nil d
  | cons part parts ih =>
    obtain ⟨hpart, hparts⟩ := List.forall_mem_cons.mp h
    cases parts with
    | nil => exact hpart
    | cons next parts =>
      have hrest : Legible d (.text s :: separated s (next :: parts)) :=
        (ih hparts).cons_text hs
      exact hpart.append hrest (.inr rfl)

theorem legible_columnFragments {columns : List String} (h : ∀ c ∈ columns, d.Spells c) :
    Legible d (columnFragments columns) := by
  exact legible_separated rfl (List.forall_mem_map.mpr fun c hc => legible_column (h c hc))

theorem legible_valueFragments (values : List Value) : Legible d (valueFragments values) :=
  legible_separated rfl (List.forall_mem_map.mpr fun v _ => legible_param v)

end Fragment

namespace Dialect

open Fragment

variable {d : Dialect} {m : ReadMode} {fs : List Fragment}

/-- What no dialect quotes or marks with is plain. -/
theorem isPlain_of_notMem (d : Dialect) {c : Char} (h : c ∉ ['"', '\x60', '?', '$']) :
    d.IsPlain c := by
  have hmark : d.placeholderMark ∈ ['"', '\x60', '?', '$'] := by cases d <;> decide
  have hquote : ∀ q, d.identifierQuote? = some q → q ∈ ['"', '\x60', '?', '$'] := by
    intro q hq
    cases d with
    | mySql | postgres =>
      cases hq
      decide
    | ansi | h2 | sqlite => exact nomatch hq
  refine ⟨fun hq => h (hquote c hq), ?_⟩
  rintro rfl
  exact h hmark

theorem finds_text (hm : m.IsSettled) {cs : List Char} (hplain : ∀ c ∈ cs, d.IsPlain c)
    (hdigit : ∀ c ∈ cs.head?, c.isDigit = false) :
    ∃ m', d.Finds m cs [] m' ∧ m'.IsSettled ∧ (cs ≠ [] → m'.IsOpen) := by
  cases cs with
  | nil => exact ⟨m, finds_nil d m, hm, fun hnil => absurd rfl hnil⟩
  | cons c cs =>
    obtain ⟨hc, hcs⟩ := List.forall_mem_cons.mp hplain
    obtain ⟨n, hfirst, hn⟩ := finds_char hm hc (.inr (hdigit c rfl))
    obtain ⟨m', hrest, hm'⟩ := finds_plain hn hcs
    exact ⟨m', hfirst.append hrest, hm'.isSettled, fun _ => hm'⟩

theorem finds_fragment {f : Fragment} (hf : f.IsLegible d) (hm : m.IsSettled)
    (hopen : f.isText = true ∨ m.IsOpen) (n : Nat) :
    ∃ m', d.Finds m (f.written d n)
        ((List.range' (n + 1) (bound [f]).length).map d.placeholder) m' ∧
      m'.IsSettled ∧ (f.isText = true → m'.IsOpen) := by
  cases f with
  | text s =>
    obtain ⟨hsome, hplain, hdigit⟩ := isWords_iff.mp hf
    obtain ⟨m', hfinds, hm', hopen'⟩ :=
      finds_text hm (fun c hc => d.isPlain_of_notMem (hplain c hc)) hdigit
    exact ⟨m', hfinds, hm', fun _ => hopen' hsome⟩
  | column name =>
    obtain ⟨m', hfinds, hm'⟩ := finds_identifier (hopen.resolve_left nofun) hf
    exact ⟨m', hfinds, hm', nofun⟩
  | table schema name =>
    obtain ⟨m', hfinds, hm'⟩ := finds_qualified (hopen.resolve_left nofun) hf.1 hf.2
    exact ⟨m', hfinds, hm', nofun⟩
  | param v =>
    obtain ⟨m', hfinds, hm'⟩ := d.finds_placeholder (hopen.resolve_left nofun) (n + 1)
    exact ⟨m', hfinds, hm', nofun⟩

/-- The placeholders of legible fragments are those of their values. -/
theorem finds_written (h : Legible d fs) (hm : m.IsSettled)
    (hopen : fs.head?.all isText = true ∨ m.IsOpen) (n : Nat) :
    ∃ m', d.Finds m (d.written n fs)
        ((List.range' (n + 1) (bound fs).length).map d.placeholder) m' ∧ m'.IsSettled := by
  induction fs generalizing m n with
  | nil => exact ⟨m, finds_nil d m, hm⟩
  | cons f fs ih =>
    obtain ⟨hf, heach⟩ := List.forall_mem_cons.mp h.each
    obtain ⟨hjoin, hchain⟩ := List.isChain_cons.mp h.apart
    obtain ⟨m₁, hfirst, hm₁, htext⟩ := finds_fragment hf hm hopen n
    have hopen₁ : fs.head?.all isText = true ∨ m₁.IsOpen := by
      cases hhead : fs.head? with
      | none => exact .inl rfl
      | some g => exact (hjoin g hhead).symm.imp_right htext
    obtain ⟨m', hrest, hm'⟩ := ih ⟨heach, hchain⟩ hm₁ hopen₁ (n + (bound [f]).length)
    refine ⟨m', ?_, hm'⟩
    have hpositions : List.range' (n + 1) (bound (f :: fs)).length =
        List.range' (n + 1) (bound [f]).length ++
          List.range' (n + (bound [f]).length + 1) (bound fs).length := by
      rw [← List.singleton_append, bound_append, List.length_append, Nat.add_right_comm n,
        List.range'_append_1]
    rw [hpositions, List.map_append]
    exact hfirst.append hrest

/-! ## Statements of legible fragments -/

theorem placeholders_append {sql added : String} {ps : List String} {m' : ReadMode}
    (h : d.Finds (d.read .gap sql.toList).2 added.toList ps m') :
    d.placeholders (sql ++ added) = d.placeholders sql ++ ps := by
  rcases hsql : d.read .gap sql.toList with ⟨ts, n⟩
  rw [hsql] at h
  obtain ⟨us, hadded, hfound⟩ := h
  have hread := read_append hsql hadded
  rw [placeholders, tokens, String.toList_append, hread, placeholders, tokens, hsql]
  simp only [List.append_assoc]
  rw [placeholdersOf_append, hfound, ← List.append_assoc, ← placeholdersOf_append]

theorem placeholders_of_finds {sql : String} {ps : List String} {m' : ReadMode}
    (h : d.Finds .gap sql.toList ps m') : d.placeholders sql = ps := by
  obtain ⟨ts, hread, hfound⟩ := h
  rw [placeholders, tokens, hread]
  exact hfound

/-- A statement of legible fragments binds its parameters. -/
theorem isBound_statement (h : Legible d fs) : (d.statement fs).IsBound d := by
  obtain ⟨m', hfinds, -⟩ := finds_written h (m := .gap) nofun (.inr trivial) 0
  rw [← d.toList_sql_statement] at hfinds
  refine isBound_of_placeholders ?_
  rw [placeholders_of_finds hfinds, d.params_statement]

end Dialect

namespace StatementBuilder

open Fragment

/-- What is added to a statement goes on with its parameters: its placeholders have the positions
behind those of the parameters before.  Unless the text before ends inside of quotes, they are the
next placeholders of the statement. -/
structure Continues (b b' : StatementBuilder) (added : String) (values : List Value) : Prop where
  sql : b'.sql = b.sql ++ added
  params : b'.params = b.params ++ values
  placeholders : b.dialect.placeholders added =
    (List.range' (b.params.length + 1) values.length).map b.dialect.placeholder
  next : (b.dialect.read .gap b.sql.toList).2.IsSettled →
    b.dialect.placeholders b'.sql = b.dialect.placeholders b.sql ++ b.dialect.placeholders added
  bound : (b.dialect.read .gap b.sql.toList).2.IsSettled → b.build.IsBound b.dialect →
    b'.build.IsBound b.dialect

theorem continues_addAll (b : StatementBuilder) {fs : List Fragment} (h : Legible b.dialect fs)
    (htext : fs.head?.all isText = true) :
    ∃ added, b.Continues (b.addAll fs) added (Fragment.bound fs) := by
  obtain ⟨added, values, hadds⟩ := b.exists_adds fs
  obtain ⟨hadded, rfl⟩ := b.adds_iff.mp hadds
  obtain ⟨hsql, hparams⟩ := hadds
  obtain ⟨_, halone, -⟩ := Dialect.finds_written h (m := .gap) nofun (.inr trivial) b.params.length
  rw [← hadded] at halone
  have hplaceholders := Dialect.placeholders_of_finds halone
  have hnext : (b.dialect.read .gap b.sql.toList).2.IsSettled →
      b.dialect.placeholders (b.addAll fs).sql =
        b.dialect.placeholders b.sql ++ b.dialect.placeholders added := by
    intro hsettled
    obtain ⟨_, hbehind, -⟩ := Dialect.finds_written h hsettled (.inl htext) b.params.length
    rw [← hadded] at hbehind
    rw [hsql, Dialect.placeholders_append hbehind, hplaceholders]
  refine ⟨added, hsql, hparams, hplaceholders, hnext, fun hsettled hbound => ?_⟩
  refine isBound_of_placeholders ?_
  have hbefore : b.dialect.placeholders b.sql =
      (List.range' 1 b.params.length).map b.dialect.placeholder := hbound.placeholders
  show b.dialect.placeholders (b.addAll fs).sql =
    (List.range' 1 (b.addAll fs).params.length).map b.dialect.placeholder
  rw [hnext hsettled, hbefore, hplaceholders, ← List.map_append, hparams, List.length_append,
    ← List.range'_append_1, Nat.add_comm 1]

end StatementBuilder
end TableMapping
