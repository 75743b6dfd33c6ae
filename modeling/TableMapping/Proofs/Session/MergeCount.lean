import TableMapping.Proofs.Session.Counting
import TableMapping.Proofs.Session.Merge

/-!
# The count of a merge

A merge that is emulated asks how many rows have the key, and goes on with an update where the count
is positive.  The rows that the engine answers need not hold a count at all.  A query that counts
complains then, but the merge takes such an answer for zero and inserts.

* `countIn`: what a query that counts makes of the rows.
* `run_merge_emulated`: the statement that an emulated merge goes on with.
* `merge_followsCount`: it is the one that the count calls for, where there is a count.
* `merge_uncounted_visit`: an answer in another type of number, which only the merge accepts.
-/

namespace TableMapping
namespace Session

open Runs TableDefinition

variable {σ κ : Type} {Obj : Models κ} {env : Environment σ Obj} {k : ModelKey κ}
  {d : TableDefinition (ModelKey.Object Obj k)} {m : ModelKey.Object Obj k}
  {s₀ s : SessionState σ Obj} {probe update insert : Statement} {rows : List Row} {g : σ}

/-! ## The statement behind the question -/

theorem run_discard_execute (env : Environment σ Obj) (s : SessionState σ Obj)
    (purpose : Purpose κ) (kind : StatementKind) (table : String) (st : Statement) :
    (discard (execute env purpose kind table st)).run s =
      (((env.engine.execute st s.engine).1.mapError (·.classify table)).map fun _ => (),
        served s purpose kind st (env.engine.execute st s.engine).2) := by
  rw [run_discard, execute, run_send rfl]

/-! ## Merges of a session -/

variable [DecidableEq κ] {plan : MergePlan} {l : Ledger}

variable (env k m s₀ s d probe g) in
/-- A merge has sent its question and then one more statement, and its answer is the engine's. -/
structure GoesOnWith (kind : StatementKind) (st : Statement) : Prop where
  trace : ((merge env k m).run s₀).2.trace =
    s.trace ++ [.sent (.operation k) .select probe, .sent (.operation k) kind st]
  answer : ((merge env k m).run s₀).1 =
    ((env.engine.execute st g).1.mapError (·.classify d.tableName)).map fun _ => ()

theorem goesOnWith_of_run {kind : StatementKind} {st : Statement}
    (h : (merge env k m).run s₀ =
      (discard (execute env (.operation k) kind d.tableName st)).run
        (served { s with ledger := l } (.operation k) .select probe g)) :
    GoesOnWith env k d m s₀ s probe g kind st := by
  rw [run_discard_execute] at h
  constructor
  · rw [h]
    exact List.append_assoc _ _ _
  · rw [h]
    rfl

section

variable (hprep : (prepare env k).run s₀ = (.ok d, s))
  (hplan : (d.mergePlan m env.dialect).run s.ledger = (.ok (.emulated probe update insert), l))
  (hquery : env.engine.query probe s.engine = (.ok rows, g))

include hprep hplan hquery

/-- An emulated merge goes on with the update where the rows have a positive number ahead, and with
the insertion everywhere else. -/
theorem run_merge_emulated :
    (merge env k m).run s₀ =
      (if 0 < (firstInteger? rows).getD 0 then
        discard (execute env (.operation k) .update d.tableName update)
      else discard (execute env (.operation k) .insert d.tableName insert)).run
        (served { s with ledger := l } (.operation k) .select probe g) := by
  have hrows := run_runQuery (s := { s with ledger := l }) hquery (.operation k) d.tableName
  rw [run_merge hprep hplan, performPlan, run_bind_ok hrows]

theorem goesOnWith_update (h : 0 < (firstInteger? rows).getD 0) :
    GoesOnWith env k d m s₀ s probe g .update update := by
  have hrun := run_merge_emulated hprep hplan hquery
  rw [if_pos h] at hrun
  exact goesOnWith_of_run hrun

theorem goesOnWith_insert (h : ¬0 < (firstInteger? rows).getD 0) :
    GoesOnWith env k d m s₀ s probe g .insert insert := by
  have hrun := run_merge_emulated hprep hplan hquery
  rw [if_neg h] at hrun
  exact goesOnWith_of_run hrun

end

/-- **A merge follows the count where there is one.**  With the dialect that has no statement for
it, a merge asks how many rows have the key.  Whatever rows the engine answers, a query that counts
reads them as `countIn` says.  Where that is a positive number the merge sends the update and not the
insertion; where it is another number the merge sends the insertion and not the update.  Where there
is no number the query fails, but the merge sends the insertion. -/
theorem merge_followsCount (hansi : env.dialect = .ansi)
    (hprep : (prepare env k).run s₀ = (.ok d, s))
    (hplan : (d.mergePlan m env.dialect).run s.ledger = (.ok plan, l)) :
    ∃ probe update insert, plan = .emulated probe update insert ∧
      ∀ rows g, env.engine.query probe s.engine = (.ok rows, g) →
        (∀ (k' : ModelKey κ) (q : Query (ModelKey.Object Obj k')) d' t₀ t g',
          (prepare env k').run t₀ = (.ok d', t) →
          env.engine.query (q.toCount env.dialect) t.engine = (.ok rows, g') →
            ((selectCount env k' q).run t₀).1 = countIn rows) ∧
        (∀ n, countIn rows = .ok n → 0 < n →
          GoesOnWith env k d m s₀ s probe g .update update) ∧
        (∀ n, countIn rows = .ok n → ¬0 < n →
          GoesOnWith env k d m s₀ s probe g .insert insert) ∧
        ∀ e, countIn rows = .error e → GoesOnWith env k d m s₀ s probe g .insert insert := by
  have hemulated : env.dialect.mergeStrategy = .emulated := by
    rw [hansi]
    rfl
  obtain ⟨-, _, probe, update, insert, _, _, _, rfl, -⟩ := passes_of_mergePlan hemulated hplan
  refine ⟨_, update, insert, rfl, fun rows g hquery => ⟨?_, ?_⟩⟩
  · intro k' q d' t₀ t g' hprep' hquery'
    rw [run_selectCount_of_rows hprep' hquery']
  cases hfirst : firstInteger? rows with
  | none =>
    have hcount : countIn rows = .error (.conversion "COUNT(*)" .noCount) := by
      rw [countIn, hfirst]
    have hzero : ¬0 < (firstInteger? rows).getD 0 := by
      rw [hfirst]
      exact Int64.lt_irrefl
    rw [hcount]
    refine ⟨?_, ?_, fun _ _ => goesOnWith_insert hprep hplan hquery hzero⟩ <;> rintro _ ⟨⟩
  | some n =>
    have hcount : countIn rows = .ok n := by
      rw [countIn, hfirst]
    have hnumber : (firstInteger? rows).getD 0 = n := by
      rw [hfirst, Option.getD_some]
    rw [hcount]
    refine ⟨?_, ?_, ?_⟩
    · rintro _ ⟨⟩ hpos
      exact goesOnWith_update hprep hplan hquery (hnumber ▸ hpos)
    · rintro _ ⟨⟩ hpos
      exact goesOnWith_insert hprep hplan hquery (hnumber ▸ hpos)
    · rintro _ ⟨⟩

/-! ### Counted visits -/

/-- What a session for visits works with, where the engine answers every question with the same
rows. -/
def tallyEnvironment (answer : List Row) : Environment Unit fun _ : Unit => Visit where
  engine := {
    product := "Derby"
    execute := fun _ _ => (.ok 1, ())
    insert := fun _ _ => (.error (.execution "refused"), ())
    query := fun _ _ => (.ok answer, ()) }
  schema _ := visitSchema
  config := { createTables := false }
  upgrader := none

theorem dialect_tallyEnvironment (answer : List Row) :
    (tallyEnvironment answer).dialect = .ansi := by
  have hdetect : Dialect.detect "Derby" = .ansi := by decide +kernel
  exact hdetect

theorem run_prepare_tally (answer : List Row) :
    ∃ s, (prepare (tallyEnvironment answer) (.model ())).run
      (.opened (tallyEnvironment answer) ()) = (.ok visitDefinition, s) := by
  obtain ⟨s, hrun, -⟩ :=
    run_prepare_opened (tallyEnvironment answer) () rfl rfl define_visitSchema
  exact ⟨s, hrun⟩

/-- The question of a merge, whether the visit is stored. -/
def visitProbe : Statement :=
  visitDefinition.countOf .ansi [("id", .of (.bigInt 7))]

def visitUpdate : Statement :=
  visitDefinition.statementOf .ansi
    (.update [("page", .text "home")] [("id", .of (.bigInt 7))])

def visitInsert : Statement :=
  visitDefinition.statementOf .ansi (.insert (visitRow ⟨7, "home"⟩))

theorem sql_visitStatements :
    visitProbe.sql = "SELECT COUNT(*) FROM Visit WHERE id = ?" ∧
      visitUpdate.sql = "UPDATE Visit SET page = ? WHERE id = ?" ∧
      visitInsert.sql = "INSERT INTO Visit (id, page) VALUES(?, ?)" := by
  decide +kernel

theorem run_mergePlan_tally (answer : List Row) (l : Ledger) :
    ∃ l', (visitDefinition.mergePlan ⟨7, "home"⟩ (tallyEnvironment answer).dialect).run l =
      (.ok (.emulated visitProbe visitUpdate visitInsert), l') := by
  have hvalues : ∃ l', (storedValues (⟨7, "home"⟩ : Visit) visitDefinition.fields).run .start =
      (.ok [(visitColumn visitId "BIGINT" 0 true, .of (.bigInt 7)),
        (visitColumn visitPage "TEXT" 1 false, .text "home")], l') := ⟨_, rfl⟩
  obtain ⟨_, hvalues⟩ := hvalues
  have hstored := isStored_of_run steady_visitDefinition hvalues
  have hemulated : Dialect.ansi.mergeStrategy = .emulated := rfl
  rw [dialect_tallyEnvironment]
  exact run_mergePlan_emulated define_visitSchema hstored rfl hemulated l

/-- A visit that is counted once is updated. -/
theorem merge_followsCount_visit :
    ∃ s, (prepare (tallyEnvironment [[.of (.bigInt 1)]]) (.model ())).run
        (.opened (tallyEnvironment [[.of (.bigInt 1)]]) ()) = (.ok visitDefinition, s) ∧
      ((merge (tallyEnvironment [[.of (.bigInt 1)]]) (.model ()) ⟨7, "home"⟩).run
        (.opened (tallyEnvironment [[.of (.bigInt 1)]]) ())).2.trace =
          s.trace ++ [.sent (.operation (.model ())) .select visitProbe,
            .sent (.operation (.model ())) .update visitUpdate] ∧
      visitUpdate.sql = "UPDATE Visit SET page = ? WHERE id = ?" := by
  obtain ⟨s, hprep⟩ := run_prepare_tally [[.of (.bigInt 1)]]
  obtain ⟨l, hplan⟩ := run_mergePlan_tally [[.of (.bigInt 1)]] s.ledger
  obtain ⟨_, _, _, hparts, hall⟩ :=
    merge_followsCount (dialect_tallyEnvironment _) hprep hplan
  cases hparts
  obtain ⟨-, hupdate, -⟩ := hall _ () rfl
  exact ⟨s, hprep, (hupdate 1 rfl (by decide)).trace, sql_visitStatements.2.1⟩

/-- A visit that is counted once by a decimal is inserted, where a query complains. -/
theorem merge_uncounted_visit :
    ∃ s q answer, answer = [[.of (.decimal (.ofInt64 1))]] ∧
      (tallyEnvironment answer).dialect = .ansi ∧
      (prepare (tallyEnvironment answer) (.model ())).run (.opened (tallyEnvironment answer) ()) =
        (.ok visitDefinition, s) ∧
      (tallyEnvironment answer).engine.query (q.toCount .ansi) s.engine = (.ok answer, ()) ∧
      (tallyEnvironment answer).engine.query visitProbe s.engine = (.ok answer, ()) ∧
      ((selectCount (tallyEnvironment answer) (.model ()) q).run
        (.opened (tallyEnvironment answer) ())).1 = .error (.conversion "COUNT(*)" .noCount) ∧
      ((merge (tallyEnvironment answer) (.model ()) ⟨7, "home"⟩).run
        (.opened (tallyEnvironment answer) ())).1 = .ok () ∧
      ((merge (tallyEnvironment answer) (.model ()) ⟨7, "home"⟩).run
        (.opened (tallyEnvironment answer) ())).2.trace =
          s.trace ++ [.sent (.operation (.model ())) .select visitProbe,
            .sent (.operation (.model ())) .insert visitInsert] ∧
      visitInsert.sql = "INSERT INTO Visit (id, page) VALUES(?, ?)" := by
  obtain ⟨s, hprep⟩ := run_prepare_tally [[.of (.decimal (.ofInt64 1))]]
  obtain ⟨l, hplan⟩ := run_mergePlan_tally [[.of (.decimal (.ofInt64 1))]] s.ledger
  have hinsert := goesOnWith_insert hprep hplan rfl Int64.lt_irrefl
  refine ⟨s, Query.ofAlias ⟨1, visitDefinition⟩, _, rfl, dialect_tallyEnvironment _, hprep, rfl, rfl,
    ?_, hinsert.answer, hinsert.trace, sql_visitStatements.2.2⟩
  rw [run_selectCount_of_rows hprep rfl]
  rfl

end Session
end TableMapping
