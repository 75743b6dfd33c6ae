import TableMapping.Proofs.Session.Counting
import TableMapping.Proofs.Sql.Paging

/-!
# The first object of a query

The engine is taken to find all rows of a query and to cut them by the clause that ends the
statement.  The first object is asked for by the same query with a limit of one, and a smaller limit
keeps a part of the rows from the front, wherever they start.  So the first object is the first of
those that the query selects, unless the limit of the query is zero.  That one is not smaller than
one: such a query selects nothing, and still has a first object.

* `Page.take_rows`, `Dialect.take_rows_writtenPage`: what a smaller limit keeps, for pages and for
  the clauses of every dialect.
* `take_readRows`: the first objects are read from the first rows.
* `run_select_withLimit`: a smaller limit selects the first objects.
* `selectFirst_select`: the first object, for every limit.
* `selectFirst_pages`: a first object of a query that selects nothing.
-/

namespace TableMapping

/-! ## Smaller pages -/

/-- The first rows of a page are those of the page that keeps no more than these. -/
theorem Page.take_rows {α : Type} {p : Page} {n : Nat} (h : ∀ m, p.kept = some m → n ≤ m)
    (result : List α) : (p.rows result).take n = rows ⟨p.skipped, some n⟩ result := by
  rcases p with ⟨skipped, _ | m⟩
  · rfl
  · show ((result.drop skipped).take m).take n = (result.drop skipped).take n
    rw [List.take_take, Nat.min_eq_left (h m rfl)]

theorem Dialect.writtenPage_some (d : Dialect) (n : UInt64) (offset : Option UInt64) :
    d.writtenPage (some n) offset = .asked (some n) offset := by
  cases d <;> rfl

/-- The clause of a smaller limit keeps the first of the rows that another limit keeps.  No limit is
larger than the one that MySQL writes where there is none. -/
theorem Dialect.take_rows_writtenPage {α : Type} (d : Dialect) {limit : Option UInt64} {n : UInt64}
    (h : ∀ m, limit = some m → n ≤ m) (offset : Option UInt64) (result : List α) :
    ((d.writtenPage limit offset).rows result).take n.toNat =
      (d.writtenPage (some n) offset).rows result := by
  have hkept : ∀ m, (d.writtenPage limit offset).kept = some m → n.toNat ≤ m := by
    intro m hm
    unfold writtenPage at hm
    split at hm
    · have hlt := n.toNat_lt
      have hm : 2 ^ 64 - 1 = m := Option.some.inj hm
      omega
    · obtain ⟨k, hk, rfl⟩ := Option.map_eq_some_iff.mp hm
      exact UInt64.le_iff_toNat_le.mp (h k hk)
  have hskipped : (d.writtenPage limit offset).skipped = offset.elim 0 UInt64.toNat := by
    unfold writtenPage
    split <;> rfl
  rw [Page.take_rows hkept, hskipped, writtenPage_some]
  rfl

/-- The rows behind the offset of a query. -/
def Query.behindOffset {M α : Type} (q : Query M) (result : List α) : List α :=
  result.drop (q.offset.elim 0 UInt64.toNat)

namespace Session

open Runs

variable {σ κ : Type} {Obj : Models κ}

/-- The first objects are read from the first rows. -/
theorem take_readRows {M : Type} {view : SelectView M} {rows : List Row} {ms : List M}
    {l l' : Ledger} (n : Nat) (h : (readRows view rows).run l = (.ok ms, l')) :
    ∃ l₁, (readRows view (rows.take n)).run l = (.ok (ms.take n), l₁) := by
  induction rows generalizing view ms l n with
  | nil =>
    cases h
    rw [List.take_nil, List.take_nil]
    exact ⟨_, rfl⟩
  | cons row rows ih =>
    cases n with
    | zero => exact ⟨l, rfl⟩
    | succ n =>
      obtain ⟨view', l₁, hview, h⟩ := run_bind_eq_ok.mp h
      obtain ⟨m, l₂, hm, h⟩ := run_bind_eq_ok.mp h
      obtain ⟨ms', l₃, hms, h⟩ := run_bind_eq_ok.mp h
      cases h
      obtain ⟨l₄, htake⟩ := ih n hms
      refine ⟨l₄, ?_⟩
      rw [List.take_succ_cons, List.take_succ_cons, readRows, run_bind_ok hview, run_bind_ok hm,
        run_bind_ok htake]
      rfl

/-- One row is not read into no object. -/
theorem first_of_row_ne_none {M : Type} (view : SelectView M) (row : Row) (l : Ledger) :
    ((readRows view [row]).run l).1.map List.head? ≠ .ok none := by
  rcases hread : (readRows view [row]).run l with ⟨e | ms, l'⟩
  · exact nofun
  · intro hmap
    have hlength := length_readRows view [row] l ms l' hread
    have hnil : ms = [] := List.head?_eq_none_iff.mp (Except.ok.inj hmap)
    rw [hnil] at hlength
    exact nomatch hlength

/-! ## Engines that cut their rows -/

/-- An engine answers the statement of a query by the rows that it finds for it: all of them, or the
page that the clause behind the statement says. -/
def RunsPages (env : Environment σ Obj) (found : σ → List Row) {M : Type} (q : Query M) : Prop :=
  ∀ g clause page, env.dialect.readPage? clause = some page →
    ∃ g', env.engine.query
        ⟨(q.withoutPage.toSelect env.dialect).sql ++ clause,
          (q.withoutPage.toSelect env.dialect).params⟩ g =
      (.ok (page.rows (found g)), g')

variable [DecidableEq κ] {env : Environment σ Obj} {found : σ → List Row} {k : ModelKey κ}
  {d : TableDefinition (ModelKey.Object Obj k)} {q : Query (ModelKey.Object Obj k)}
  {ms : List (ModelKey.Object Obj k)} {s₀ s s' : SessionState σ Obj}

/-- What a query selects is read from the rows of its page. -/
theorem run_select_of_pages (hprep : (prepare env k).run s₀ = (.ok d, s))
    (hruns : RunsPages env found q) :
    ∃ t, (select env k q).run s₀ =
      (((readRows q.view ((env.dialect.writtenPage q.limit q.offset).rows (found s.engine))).run
        s.ledger).1, t) := by
  obtain ⟨g, hquery⟩ := hruns s.engine _ _ (env.dialect.readPage?_pagingClause q.limit q.offset)
  rw [← q.toSelect_eq_append] at hquery
  obtain ⟨t, hrun, -⟩ := run_select_of_query hprep hquery
  exact ⟨t, hrun⟩

/-- With a smaller limit a query selects the first of its objects. -/
theorem run_select_withLimit (hruns : RunsPages env found q) {n : UInt64}
    (hn : ∀ m, q.limit = some m → n ≤ m) (hselect : (select env k q).run s₀ = (.ok ms, s')) :
    ∃ t, (select env k (q.withLimit n)).run s₀ = (.ok (ms.take n.toNat), t) := by
  obtain ⟨d, s, hprep, -⟩ := run_bind_eq_ok.mp hselect
  obtain ⟨t, hrun⟩ := run_select_of_pages hprep hruns
  have hread : ((readRows q.view ((env.dialect.writtenPage q.limit q.offset).rows
      (found s.engine))).run s.ledger).1 = .ok ms :=
    congrArg Prod.fst (hrun.symm.trans hselect)
  obtain ⟨l₁, htake⟩ := take_readRows n.toNat (Prod.ext hread rfl)
  rw [env.dialect.take_rows_writtenPage hn] at htake
  -- The statement for all rows is the same for every limit.
  have hruns' : RunsPages env found (q.withLimit n) := hruns
  obtain ⟨t', hrun'⟩ := run_select_of_pages hprep hruns'
  exact ⟨t', hrun'.trans (congrArg (·, t') (congrArg Prod.fst htake))⟩

/-- The first object is the first of those that the query selects with a limit of one. -/
theorem run_selectFirst {answer : Except MappingError (List (ModelKey.Object Obj k))}
    (h : (select env k (q.withLimit 1)).run s₀ = (answer, s')) :
    (selectFirst env k q).run s₀ = (answer.map List.head?, s') := by
  cases answer with
  | error e => exact run_bind_error h
  | ok ms => exact run_bind_ok h

/-- What comes first is read from the first row behind the offset. -/
theorem run_selectFirst_of_pages (hprep : (prepare env k).run s₀ = (.ok d, s))
    (hruns : RunsPages env found q) :
    ∃ t, (selectFirst env k q).run s₀ =
      (((readRows q.view ((q.behindOffset (found s.engine)).take 1)).run s.ledger).1.map
        List.head?, t) := by
  have hruns' : RunsPages env found (q.withLimit 1) := hruns
  obtain ⟨t, hrun⟩ := run_select_of_pages hprep hruns'
  refine ⟨t, ?_⟩
  rw [run_selectFirst hrun]
  show ((Except.map List.head? ((readRows q.view
    ((env.dialect.writtenPage (some 1) q.offset).rows (found s.engine))).run s.ledger).1), t) = _
  rw [Dialect.writtenPage_some]
  rfl

/-- Nothing comes first only where no row is behind the offset. -/
theorem run_selectFirst_none_iff (hprep : (prepare env k).run s₀ = (.ok d, s))
    (hruns : RunsPages env found q) :
    (∃ t, (selectFirst env k q).run s₀ = (.ok none, t)) ↔ q.behindOffset (found s.engine) = [] := by
  obtain ⟨t, hrun⟩ := run_selectFirst_of_pages hprep hruns
  cases hbehind : q.behindOffset (found s.engine) with
  | nil =>
    rw [hbehind] at hrun
    exact ⟨fun _ => rfl, fun _ => ⟨t, hrun⟩⟩
  | cons row rows =>
    rw [hbehind] at hrun
    refine ⟨?_, fun h => nomatch h⟩
    rintro ⟨t', hnone⟩
    rw [hnone] at hrun
    exact absurd (congrArg Prod.fst hrun).symm (first_of_row_ne_none q.view row s.ledger)

/-- A query for no rows selects no objects. -/
theorem eq_nil_of_limit_zero (hruns : RunsPages env found q) (hlimit : q.limit = some 0)
    (hselect : (select env k q).run s₀ = (.ok ms, s')) : ms = [] := by
  obtain ⟨d, s, hprep, -⟩ := run_bind_eq_ok.mp hselect
  obtain ⟨t, hrun⟩ := run_select_of_pages hprep hruns
  rw [hselect, hlimit, Dialect.writtenPage_some] at hrun
  exact Except.ok.inj (congrArg Prod.fst hrun)

/-- **The first object of a query.**  Where a query selects objects, its first object is the first of
them, or none when there are none, unless its limit is zero.  With a limit of zero it selects none,
but its first object is what the first row behind the offset is read as, and there is none only when
there is no such row. -/
theorem selectFirst_select (hruns : RunsPages env found q)
    (hselect : (select env k q).run s₀ = (.ok ms, s')) :
    (q.limit ≠ some 0 → ∃ t, (selectFirst env k q).run s₀ = (.ok ms.head?, t)) ∧
    (q.limit = some 0 → ms = [] ∧ ∃ d s, (prepare env k).run s₀ = (.ok d, s) ∧
      ((∃ t, (selectFirst env k q).run s₀ = (.ok none, t)) ↔
        q.behindOffset (found s.engine) = []) ∧
      ∀ row rows, q.behindOffset (found s.engine) = row :: rows →
        ∃ t, (selectFirst env k q).run s₀ =
          (((readRows q.view [row]).run s.ledger).1.map List.head?, t)) := by
  constructor
  · intro hlimit
    have hone : ∀ m, q.limit = some m → 1 ≤ m := by
      intro m hm
      have hne : m.toNat ≠ 0 := by
        intro hzero
        have hm0 : m = 0 := UInt64.toNat_inj.mp hzero
        exact hlimit (by rw [hm, hm0])
      rw [UInt64.le_iff_toNat_le]
      show 1 ≤ m.toNat
      omega
    obtain ⟨t, hrun⟩ := run_select_withLimit hruns hone hselect
    refine ⟨t, ?_⟩
    rw [run_selectFirst hrun]
    show (Except.ok (ms.take 1).head?, t) = _
    rw [List.head?_take, if_neg Nat.one_ne_zero]
  · intro hlimit
    obtain ⟨d, s, hprep, -⟩ := run_bind_eq_ok.mp hselect
    refine ⟨eq_nil_of_limit_zero hruns hlimit hselect, d, s, hprep,
      run_selectFirst_none_iff hprep hruns, fun row rows hrow => ?_⟩
    obtain ⟨t, hrun⟩ := run_selectFirst_of_pages hprep hruns
    rw [hrow] at hrun
    exact ⟨t, hrun⟩

/-! ### Pages of marks -/

/-- Two marks, in the order in which the engine finds them. -/
def markRows : List Row :=
  [[.text "home"], [.text "about"]]

/-- The statement for all marks. -/
def allMarks : String :=
  "SELECT \"page\" FROM \"Mark\""

/-- What an engine with these marks answers to the statement for all of them with a clause behind. -/
def pagedAnswer (sql : String) : List Row :=
  match Dialect.postgres.readPage? (String.ofList (sql.toList.drop allMarks.toList.length)) with
  | some page => page.rows markRows
  | none => []

/-- What a session for pages of marks works with. -/
def pagedEnvironment : Environment Unit fun _ : Unit => Mark :=
  { markEnvironment with
    engine := { markEnvironment.engine with query := fun st _ => (.ok (pagedAnswer st.sql), ()) } }

theorem dialect_pagedEnvironment : pagedEnvironment.dialect = .postgres := by
  have hdetect : Dialect.detect "PostgreSQL" = .postgres := by decide +kernel
  exact hdetect

/-- The query for a page of marks. -/
def pageOfMarks (limit : UInt64) (offset : Option UInt64) : Query Mark :=
  { Query.ofAlias ⟨1, markDefinition⟩ with limit := some limit, offset := offset }

theorem runsPages_marks (limit : UInt64) (offset : Option UInt64) :
    RunsPages pagedEnvironment (fun _ => markRows) (pageOfMarks limit offset) := by
  intro g clause page hpage
  have hwhole : (pageOfMarks limit offset).withoutPage = Query.ofAlias ⟨1, markDefinition⟩ := rfl
  have hall : ((Query.ofAlias ⟨1, markDefinition⟩).toSelect .postgres).sql = allMarks := by
    decide +kernel
  have hanswer : pagedAnswer (allMarks ++ clause) = page.rows markRows := by
    rw [dialect_pagedEnvironment] at hpage
    rw [pagedAnswer, String.toList_append, List.drop_left, String.ofList_toList, hpage]
  rw [dialect_pagedEnvironment, hwhole, hall, ← hanswer]
  exact ⟨(), rfl⟩

/-- Behind the first mark comes the second. -/
theorem selectFirst_select_marks :
    ∃ s t, RunsPages pagedEnvironment (fun _ => markRows) (pageOfMarks 5 (some 1)) ∧
      (select pagedEnvironment (.model ()) (pageOfMarks 5 (some 1))).run
        (.opened pagedEnvironment ()) = (.ok [⟨"about"⟩], s) ∧
      (selectFirst pagedEnvironment (.model ()) (pageOfMarks 5 (some 1))).run
        (.opened pagedEnvironment ()) = (.ok (some ⟨"about"⟩), t) := by
  have hruns := runsPages_marks 5 (some 1)
  obtain ⟨s, hprep, -⟩ :=
    run_prepare_opened (k := ()) pagedEnvironment () rfl rfl define_markSchema
  obtain ⟨u, hselect⟩ := run_select_of_pages hprep hruns
  have hsecond : (pagedEnvironment.dialect.writtenPage (pageOfMarks 5 (some 1)).limit
      (pageOfMarks 5 (some 1)).offset).rows markRows = [[.text "about"]] := by
    rw [dialect_pagedEnvironment]
    rfl
  rw [hsecond] at hselect
  have hlimit : (pageOfMarks 5 (some 1)).limit ≠ some 0 := by
    intro h
    exact absurd (Option.some.inj h) (by decide)
  obtain ⟨t, hfirst⟩ := (selectFirst_select (k := .model ()) hruns hselect).1 hlimit
  exact ⟨u, t, hruns, hselect, hfirst⟩

/-- A query for no marks selects none, and its first mark is the first of all. -/
theorem selectFirst_pages :
    ∃ q l, ((Query.ofAlias ⟨1, markDefinition⟩).steps [.limit 0]).run .start = (.ok q, l) ∧
      RunsPages pagedEnvironment (fun _ => markRows) q ∧
      ∃ s t, (select pagedEnvironment (.model ()) q).run (.opened pagedEnvironment ()) =
          (.ok [], s) ∧
        (selectFirst pagedEnvironment (.model ()) q).run (.opened pagedEnvironment ()) =
          (.ok (some ⟨"home"⟩), t) := by
  have hsteps : ∃ l, ((Query.ofAlias ⟨1, markDefinition⟩).steps [.limit 0]).run .start =
      (.ok (pageOfMarks 0 none), l) := ⟨_, rfl⟩
  obtain ⟨l, hsteps⟩ := hsteps
  have hruns := runsPages_marks 0 none
  obtain ⟨s, hprep, -⟩ :=
    run_prepare_opened (k := ()) pagedEnvironment () rfl rfl define_markSchema
  obtain ⟨u, hselect⟩ := run_select_of_pages hprep hruns
  obtain ⟨t, hfirst⟩ := run_selectFirst_of_pages hprep hruns
  have hnothing : (pagedEnvironment.dialect.writtenPage (pageOfMarks 0 none).limit
      (pageOfMarks 0 none).offset).rows markRows = [] := by
    rw [dialect_pagedEnvironment]
    rfl
  rw [hnothing] at hselect
  exact ⟨pageOfMarks 0 none, l, hsteps, hruns, u, t, hselect, hfirst⟩

end Session
end TableMapping
