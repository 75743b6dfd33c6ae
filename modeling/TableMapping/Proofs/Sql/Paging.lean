import TableMapping.Proofs.Number.Numeral
import TableMapping.Proofs.Sql.Spelling
import TableMapping.Query.Query

/-!
# Pages of a result

Engines write the bounds of a page differently, and two of them have no word for the rest of a
result: where rows are skipped and none are left out, MySQL takes the largest number that it knows,
and SQLite takes a negative one.  Here the clause is read by the grammar of its engine, and what is
read keeps the same rows everywhere.

* `Page.rows`: the rows of a page.
* `Dialect.readPage?`: the page that the words of a clause say, and
  `Dialect.readPage?_pagingClause`, by which every clause is read.
* `Dialect.rows_writtenPage`: the largest number is as good as no bound.
* `Dialect.rows_pagingClause`: what a clause keeps, and that it only adds to its statement.
-/

namespace TableMapping

/-! ## Words of a clause -/

namespace Text

/-- The words between the blanks of a clause. -/
def clauseWords (s : String) : List String :=
  words (· == ' ') s

/-- Words with a blank between them are read one after the other. -/
theorem clauseWords_append (s t : String) :
    clauseWords (s ++ (" " ++ t)) = clauseWords s ++ clauseWords t := by
  have hchars : (s ++ (" " ++ t)).toList = s.toList ++ ' ' :: t.toList := by
    rw [String.toList_append, String.toList_append]
    rfl
  rw [clauseWords, words, hchars, runs_append rfl, List.filter_append, List.map_append]
  rfl

/-- A numeral is one word. -/
theorem clauseWords_ofNat (n : Nat) : clauseWords (Numeral.ofNat n) = [Numeral.ofNat n] := by
  have hdigits : ∀ c ∈ Numeral.digits n, (c == ' ') = false := by
    intro c hc
    refine beq_false_of_ne ?_
    rintro rfl
    exact absurd (Numeral.isDigit_of_mem_digits hc) (by decide)
  have hsome : (Numeral.digits n).isEmpty = false :=
    List.isEmpty_eq_false_iff.mpr (Numeral.digits_ne_nil n)
  rw [clauseWords, words, Numeral.ofNat, String.toList_ofList, runs_eq_singleton hdigits,
    List.filter_cons, hsome]
  rfl

end Text

/-! ## Pages -/

/-- A page of a result: the rows behind the first `skipped`, and of these at most `kept`, where a
number is given. -/
structure Page where
  skipped : Nat
  kept : Option Nat
  deriving DecidableEq

namespace Page

/-- The rows of a page. -/
def rows {α : Type} (p : Page) (result : List α) : List α :=
  match p.kept with
  | some n => (result.drop p.skipped).take n
  | none => result.drop p.skipped

/-- The page that bounds ask for. -/
def asked (limit offset : Option UInt64) : Page :=
  ⟨offset.elim 0 UInt64.toNat, limit.map UInt64.toNat⟩

theorem rows_asked {α : Type} (limit offset : Option UInt64) (result : List α) :
    (asked limit offset).rows result =
      (result.drop (offset.elim 0 UInt64.toNat)).take (limit.elim result.length UInt64.toNat) := by
  cases limit with
  | some n => rfl
  | none =>
    have hall : (result.drop (offset.elim 0 UInt64.toNat)).length ≤ result.length := by
      rw [List.length_drop]
      exact Nat.sub_le _ _
    exact (List.take_of_length_le hall).symm

/-- To keep at least as many rows as there are is to keep them all. -/
theorem rows_of_length_le {α : Type} {result : List α} {skipped n : Nat} (h : result.length ≤ n) :
    rows ⟨skipped, some n⟩ result = rows ⟨skipped, none⟩ result := by
  refine List.take_of_length_le ?_
  rw [List.length_drop]
  exact (Nat.sub_le _ _).trans h

end Page

/-! ## The grammars -/

namespace Dialect

open Text

/-- The number of rows that a limit lets through.  In SQLite -1 lets all of them through. -/
def readLimit? (d : Dialect) (numeral : String) : Option (Option Nat) :=
  if d = .sqlite ∧ numeral = "-1" then some none
  else (Numeral.value? numeral.toList).map some

/-- The page behind the numerals of a limit and an offset. -/
def readBounds? (d : Dialect) (limit offset : Option String) : Option Page := do
  let kept ← limit.elim (some none) d.readLimit?
  let skipped ← offset.elim (some 0) fun m => Numeral.value? m.toList
  return ⟨skipped, kept⟩

/-- The page that a clause says in the grammar of an engine: `[OFFSET m ROWS] [FETCH FIRST n ROWS
ONLY]` in the standard, and `[LIMIT n] [OFFSET m]` elsewhere.  MySQL and SQLite take an offset behind
a limit only. -/
def readPage? (d : Dialect) (clause : String) : Option Page :=
  match d with
  | .ansi =>
    match clauseWords clause with
    | [] => d.readBounds? none none
    | ["OFFSET", m, "ROWS"] => d.readBounds? none (some m)
    | ["FETCH", "FIRST", n, "ROWS", "ONLY"] => d.readBounds? (some n) none
    | ["OFFSET", m, "ROWS", "FETCH", "FIRST", n, "ROWS", "ONLY"] => d.readBounds? (some n) (some m)
    | _ => none
  | .h2 | .postgres =>
    match clauseWords clause with
    | [] => d.readBounds? none none
    | ["LIMIT", n] => d.readBounds? (some n) none
    | ["OFFSET", m] => d.readBounds? none (some m)
    | ["LIMIT", n, "OFFSET", m] => d.readBounds? (some n) (some m)
    | _ => none
  | .mySql | .sqlite =>
    match clauseWords clause with
    | [] => d.readBounds? none none
    | ["LIMIT", n] => d.readBounds? (some n) none
    | ["LIMIT", n, "OFFSET", m] => d.readBounds? (some n) (some m)
    | _ => none

/-! ## What the clauses say -/

/-- A number as a statement writes it. -/
def numeral (n : UInt64) : String :=
  Numeral.ofNat n.toNat

theorem clauseWords_limit (n : UInt64) :
    clauseWords (" LIMIT " ++ numeral n) = ["LIMIT", numeral n] := by
  have hwords : " LIMIT" ++ " " ++ numeral n = " LIMIT" ++ (" " ++ numeral n) := String.append_assoc
  show clauseWords (" LIMIT" ++ " " ++ numeral n) = _
  rw [hwords, clauseWords_append, numeral, clauseWords_ofNat]
  rfl

theorem clauseWords_offset (s : String) (m : UInt64) :
    clauseWords (s ++ (" OFFSET " ++ numeral m)) = clauseWords s ++ ["OFFSET", numeral m] := by
  have hwords : " OFFSET " ++ numeral m = " " ++ ("OFFSET" ++ (" " ++ numeral m)) := by
    rw [← String.append_assoc, ← String.append_assoc]
    rfl
  rw [hwords, clauseWords_append, clauseWords_append, numeral, clauseWords_ofNat]
  rfl

theorem clauseWords_offsetRows (m : UInt64) :
    clauseWords (" OFFSET " ++ numeral m ++ " ROWS") = ["OFFSET", numeral m, "ROWS"] := by
  have hwords : " OFFSET " ++ numeral m ++ " ROWS" =
      "" ++ (" OFFSET " ++ numeral m) ++ (" " ++ "ROWS") := by
    rw [String.empty_append]
    rfl
  rw [hwords, clauseWords_append, clauseWords_offset]
  rfl

theorem clauseWords_fetch (s : String) (n : UInt64) :
    clauseWords (s ++ (" FETCH FIRST " ++ numeral n ++ " ROWS ONLY")) =
      clauseWords s ++ ["FETCH", "FIRST", numeral n, "ROWS", "ONLY"] := by
  have hwords : " FETCH FIRST " ++ numeral n ++ " ROWS ONLY" =
      " " ++ ("FETCH FIRST" ++ (" " ++ (numeral n ++ (" " ++ "ROWS ONLY")))) := by
    rw [String.append_assoc, ← String.append_assoc, ← String.append_assoc]
    rfl
  rw [hwords, clauseWords_append, clauseWords_append, clauseWords_append, numeral,
    clauseWords_ofNat]
  rfl

theorem readLimit?_ofNat (d : Dialect) (n : Nat) :
    d.readLimit? (Numeral.ofNat n) = some (some n) := by
  have hsign : Numeral.ofNat n ≠ "-1" := by
    intro h
    have hminus : '-' ∈ Numeral.digits n := by
      rw [← String.toList_ofList (l := Numeral.digits n), ← Numeral.ofNat, h]
      decide
    exact absurd (Numeral.isDigit_of_mem_digits hminus) (by decide)
  rw [readLimit?, if_neg fun h => hsign h.2, Numeral.ofNat, String.toList_ofList,
    Numeral.value?_digits]
  rfl

/-- The bounds that are asked for are read back from their numerals. -/
theorem readBounds?_numeral (d : Dialect) (limit offset : Option UInt64) :
    d.readBounds? (limit.map numeral) (offset.map numeral) = some (.asked limit offset) := by
  have hkept : (limit.map numeral).elim (some none) d.readLimit? =
      some (limit.map UInt64.toNat) := by
    cases limit with
    | none => rfl
    | some n => exact d.readLimit?_ofNat n.toNat
  have hskipped : (offset.map numeral).elim (some 0) (fun m => Numeral.value? m.toList) =
      some (offset.elim 0 UInt64.toNat) := by
    cases offset with
    | none => rfl
    | some m =>
      show Numeral.value? (Numeral.ofNat m.toNat).toList = _
      rw [Numeral.ofNat, String.toList_ofList, Numeral.value?_digits]
      rfl
  rw [readBounds?, hkept, hskipped]
  rfl

/-- The page that an engine writes for bounds.  MySQL writes a limit where none is asked for, since
it takes no offset without one. -/
def writtenPage (d : Dialect) (limit offset : Option UInt64) : Page :=
  match d, limit, offset with
  | .mySql, none, some m => ⟨m.toNat, some (2 ^ 64 - 1)⟩
  | _, _, _ => .asked limit offset

theorem readPage?_none (d : Dialect) :
    d.readPage? (d.pagingClause none none) = some (.asked none none) := by
  cases d <;> rfl

theorem readPage?_limit (d : Dialect) (n : UInt64) :
    d.readPage? (d.pagingClause (some n) none) = some (.asked (some n) none) := by
  cases d with
  | ansi =>
    have hwords := clauseWords_fetch "" n
    show readPage? _ ("" ++ (" FETCH FIRST " ++ numeral n ++ " ROWS ONLY")) = _
    rw [readPage?, hwords]
    exact readBounds?_numeral .ansi (some n) none
  | h2 | postgres | mySql | sqlite =>
    have hwords : clauseWords (" LIMIT " ++ numeral n ++ "") = ["LIMIT", numeral n] := by
      rw [String.append_empty, clauseWords_limit]
    show readPage? _ (" LIMIT " ++ numeral n ++ "") = _
    rw [readPage?, hwords]
    exact readBounds?_numeral _ (some n) none

theorem readPage?_limit_offset (d : Dialect) (n m : UInt64) :
    d.readPage? (d.pagingClause (some n) (some m)) = some (.asked (some n) (some m)) := by
  cases d with
  | ansi =>
    have hwords := clauseWords_fetch (" OFFSET " ++ numeral m ++ " ROWS") n
    rw [clauseWords_offsetRows] at hwords
    show readPage? _ (" OFFSET " ++ numeral m ++ " ROWS" ++
      (" FETCH FIRST " ++ numeral n ++ " ROWS ONLY")) = _
    rw [readPage?, hwords]
    exact readBounds?_numeral .ansi (some n) (some m)
  | h2 | postgres | mySql | sqlite =>
    have hwords := clauseWords_offset (" LIMIT " ++ numeral n) m
    rw [clauseWords_limit] at hwords
    show readPage? _ (" LIMIT " ++ numeral n ++ (" OFFSET " ++ numeral m)) = _
    rw [readPage?, hwords]
    exact readBounds?_numeral _ (some n) (some m)

theorem readPage?_offset (d : Dialect) (m : UInt64) :
    d.readPage? (d.pagingClause none (some m)) = some (d.writtenPage none (some m)) := by
  cases d with
  | ansi =>
    have hwords : clauseWords (" OFFSET " ++ numeral m ++ " ROWS" ++ "") =
        ["OFFSET", numeral m, "ROWS"] := by
      rw [String.append_empty, clauseWords_offsetRows]
    show readPage? _ (" OFFSET " ++ numeral m ++ " ROWS" ++ "") = _
    rw [readPage?, hwords]
    exact readBounds?_numeral .ansi none (some m)
  | h2 | postgres =>
    have hwords := clauseWords_offset "" m
    show readPage? _ ("" ++ (" OFFSET " ++ numeral m)) = _
    rw [readPage?, hwords]
    exact readBounds?_numeral _ none (some m)
  | mySql =>
    -- The clause is that of the largest limit.
    have hlargest : " LIMIT 18446744073709551615" = " LIMIT " ++ numeral 18446744073709551615 := by
      decide +kernel
    have hclause : mySql.pagingClause none (some m) =
        mySql.pagingClause (some 18446744073709551615) (some m) :=
      congrArg (· ++ (" OFFSET " ++ numeral m)) hlargest
    rw [hclause, readPage?_limit_offset]
    rfl
  | sqlite =>
    have hwords := clauseWords_offset " LIMIT -1" m
    show readPage? _ (" LIMIT -1" ++ (" OFFSET " ++ numeral m)) = _
    rw [readPage?, hwords]
    exact readBounds?_numeral .sqlite none (some m)

theorem readPage?_pagingClause (d : Dialect) (limit offset : Option UInt64) :
    d.readPage? (d.pagingClause limit offset) = some (d.writtenPage limit offset) := by
  cases limit with
  | none =>
    cases offset with
    | none =>
      rw [readPage?_none]
      cases d <;> rfl
    | some m => exact d.readPage?_offset m
  | some n =>
    cases offset with
    | none =>
      rw [readPage?_limit]
      cases d <;> rfl
    | some m =>
      rw [readPage?_limit_offset]
      cases d <;> rfl

/-- What is written keeps the rows that are asked for. -/
theorem rows_writtenPage {α : Type} (d : Dialect) (limit offset : Option UInt64) {result : List α}
    (h : result.length < 2 ^ 64) :
    (d.writtenPage limit offset).rows result = (Page.asked limit offset).rows result := by
  unfold writtenPage
  split
  · exact Page.rows_of_length_le (Nat.le_pred_of_lt h)
  · rfl

/-- MySQL and SQLite read no clause with an offset and without a limit. -/
theorem mem_limit_of_readPage? {d : Dialect} (hd : d = .mySql ∨ d = .sqlite) {clause : String}
    {page : Page} (h : d.readPage? clause = some page) (hoffset : "OFFSET" ∈ clauseWords clause) :
    "LIMIT" ∈ clauseWords clause := by
  have hread : (match clauseWords clause with
      | [] => d.readBounds? none none
      | ["LIMIT", n] => d.readBounds? (some n) none
      | ["LIMIT", n, "OFFSET", m] => d.readBounds? (some n) (some m)
      | _ => none) = some page := by
    rcases hd with rfl | rfl <;> exact h
  split at hread
  · rename_i hwords
    rw [hwords] at hoffset
    exact absurd hoffset List.not_mem_nil
  · rename_i hwords
    rw [hwords]
    exact List.mem_cons_self
  · rename_i hwords
    rw [hwords]
    exact List.mem_cons_self
  · cases hread

end Dialect

/-! ## Statements with a page -/

/-- A query for all rows of another. -/
def Query.withoutPage {M : Type} (q : Query M) : Query M :=
  { q with limit := none, offset := none }

theorem Dialect.statement_append_text (d : Dialect) (fs : List Fragment) (s : String) :
    d.statement (fs ++ [.text s]) = ⟨(d.statement fs).sql ++ s, (d.statement fs).params⟩ := by
  simp [statement_eq, text_append]

/-- The clause stands behind the statement for all rows, and binds nothing. -/
theorem Query.toSelect_eq_append {M : Type} (q : Query M) (d : Dialect) :
    q.toSelect d = ⟨(q.withoutPage.toSelect d).sql ++ d.pagingClause q.limit q.offset,
      (q.withoutPage.toSelect d).params⟩ := by
  have hall : q.withoutPage.toSelect d =
      d.statement (.text (if q.distinct then "SELECT DISTINCT " else "SELECT ") ::
        columnFragments q.columnNames ++ q.fromFragments ++ q.orderFragments) := by
    rw [← Dialect.statement_append_nothing, ← d.pagingClause_none]
    rfl
  rw [hall, ← Dialect.statement_append_text]
  rfl

namespace Dialect

open Text

/-- **Pages are the same in every dialect.**  The clause of a limit and an offset, read by the
grammar of its engine, keeps of fewer than 2^64 rows those behind the offset, and of these as many
as the limit says.  It is written behind a statement that is otherwise the same, and in MySQL and
SQLite it has no offset without a limit. -/
theorem rows_pagingClause (d : Dialect) (limit offset : Option UInt64) :
    (∃ page, d.readPage? (d.pagingClause limit offset) = some page ∧
      ∀ (α : Type) (result : List α), result.length < 2 ^ 64 → page.rows result =
        (result.drop (offset.elim 0 UInt64.toNat)).take
          (limit.elim result.length UInt64.toNat)) ∧
    (∀ (M : Type) (q : Query M), q.limit = limit → q.offset = offset →
      q.toSelect d = ⟨(q.withoutPage.toSelect d).sql ++ d.pagingClause limit offset,
        (q.withoutPage.toSelect d).params⟩) ∧
    (d = .mySql ∨ d = .sqlite → "OFFSET" ∈ clauseWords (d.pagingClause limit offset) →
      "LIMIT" ∈ clauseWords (d.pagingClause limit offset)) := by
  have hread := d.readPage?_pagingClause limit offset
  refine ⟨⟨_, hread, fun α result hresult => ?_⟩, ?_, fun hd => mem_limit_of_readPage? hd hread⟩
  · rw [rows_writtenPage d limit offset hresult, Page.rows_asked]
  · rintro M q rfl rfl
    exact q.toSelect_eq_append d

/-- MySQL keeps the rest of a result by the largest limit. -/
theorem rows_pagingClause_mySql :
    ∃ page, Dialect.mySql.readPage? " LIMIT 18446744073709551615 OFFSET 2" = some page ∧
      page.rows ["first", "second", "third"] = ["third"] := by
  have hclause : Dialect.mySql.pagingClause none (some 2) =
      " LIMIT 18446744073709551615 OFFSET 2" := by decide +kernel
  obtain ⟨⟨page, hread, hrows⟩, -⟩ := rows_pagingClause .mySql none (some 2)
  rw [hclause] at hread
  exact ⟨page, hread, hrows String ["first", "second", "third"] (by decide)⟩

end Dialect
end TableMapping
