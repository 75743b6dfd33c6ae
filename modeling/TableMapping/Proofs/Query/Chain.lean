import Mathlib.Data.List.Forall2
import TableMapping.Proofs.Query.RowReading
import TableMapping.Proofs.Query.SelectList
import TableMapping.Proofs.Session.Merge
import TableMapping.Proofs.Sql.ConditionText

/-!
# The chain that the steps of a query make

The steps of a query come in any order and number, and each kind of step leaves its mark at a place
of its own.  So a query can be read off the steps that made it: its conditions from the comparison
calls among them, one for each in the order of the calls, and the columns to order by from the calls
that name them.

* `Query.Follows`: a query is read off steps.
* `Query.Follows.takes`: one more step keeps this.
* `Comparator.Closes.fits`: each comparator makes the operand that its comparison takes.
* `Query.wellFormed_of_steps`: all this, and that a row is read field by field.
-/

namespace TableMapping

open Runs

/-! ## What steps ask for -/

/-- A call for a comparison. -/
structure ComparisonCall where
  joiner : Option Joiner
  handle : Handle
  comparator : Comparator

namespace QueryStep

/-- The comparison that a step asks for. -/
def comparison? : QueryStep → Option ComparisonCall
  | compare joiner h k => some ⟨joiner, h, k⟩
  | _ => none

/-- The column that a step asks to order by, and whether in descending order. -/
def sortKey? : QueryStep → Option (Handle × Bool)
  | orderBy descending h => some (h, descending)
  | _ => none

def limit? : QueryStep → Option UInt64
  | limit n => some n
  | _ => none

def offset? : QueryStep → Option UInt64
  | offset n => some n
  | _ => none

def asksDistinct : QueryStep → Bool
  | distinct => true
  | _ => false

theorem filterMap_concat {β : Type _} (mark : QueryStep → Option β) (ss : List QueryStep)
    (s : QueryStep) : (ss ++ [s]).filterMap mark = ss.filterMap mark ++ (mark s).toList := by
  rw [List.filterMap_append]
  cases hs : mark s with
  | none => rw [List.filterMap_cons_none hs, List.filterMap_nil, Option.toList_none]
  | some b => rw [List.filterMap_cons_some hs, List.filterMap_nil, Option.toList_some]

/-- Of the marks that count by themselves, the last counts. -/
theorem getLast?_filterMap_concat {β : Type _} (mark : QueryStep → Option β) (ss : List QueryStep)
    (s : QueryStep) :
    ((ss ++ [s]).filterMap mark).getLast? = (mark s).or (ss.filterMap mark).getLast? := by
  rw [filterMap_concat]
  cases mark s with
  | none => rw [Option.toList_none, List.append_nil, Option.none_or]
  | some b => rw [Option.toList_some, List.getLast?_concat, Option.some_or]

end QueryStep

namespace ComparisonCall

/-- The joiners that calls put into a chain: the first call puts none. -/
def joiners : List ComparisonCall → List (Option Joiner)
  | [] => []
  | _ :: calls => none :: calls.map fun call => call.joiner

theorem joiners_append (calls : List ComparisonCall) (new : Option ComparisonCall) :
    joiners (calls ++ new.toList) = joiners calls ++
      new.toList.map fun call => if calls.isEmpty then none else call.joiner := by
  cases calls with
  | nil => cases new <;> rfl
  | cons first calls =>
    have hlater : joiners (first :: calls ++ new.toList) =
        none :: (calls ++ new.toList).map fun call => call.joiner := rfl
    rw [hlater, List.map_append]
    rfl

/-- A condition is what a call makes of the column of its handle. -/
def Makes {M : Type} (resolve : Handle → Except MappingError (MappedField M))
    (call : ComparisonCall) (c : Condition) : Prop :=
  ∃ f, resolve call.handle = .ok f ∧ c.column = f.columnName ∧
    call.comparator.Closes resolve f c.compare c.right

end ComparisonCall

/-! ## Operands -/

theorem Comparator.Closes.fits {M : Type} {resolve : Handle → Except MappingError (MappedField M)}
    {f : MappedField M} {k : Comparator} {compare : Comparison} {right : Operand}
    (h : k.Closes resolve f compare right) : right.Fits compare := by
  cases h with
  | @value test v w hw => exact .value (by cases test <;> rfl) w
  | member hm hw => exact .value rfl _
  | like pattern => exact .value rfl _
  | between hv hw => exact .between _ _
  | isNull => exact .isNull
  | isNotNull => exact .isNotNull
  | column hg => exact .column rfl _

namespace Query

variable {M : Type} {a : Alias M} {ss : List QueryStep} {q : Query M}

/-! ## One step -/

/-- The column that a step asks to order by. -/
def OrdersBy (resolve : Handle → Except MappingError (MappedField M)) (key : Handle × Bool)
    (o : SortKey) : Prop :=
  ∃ f, resolve key.1 = .ok f ∧ o = ⟨f.columnName, key.2⟩

section Takes

variable {q' : Query M} {s : QueryStep}

/-- A step puts behind the chain what it asks for. -/
theorem Takes.conditions (h : q.Takes s q') :
    ∃ cs, q'.conditions = q.conditions ++ cs ∧
      List.Forall₂ (ComparisonCall.Makes q.view.resolveField) s.comparison?.toList cs ∧
      cs.map (fun c => c.joiner) = s.comparison?.toList.map fun call =>
        if q.conditions.isEmpty then none else call.joiner := by
  cases h with
  | compare hf hk => exact ⟨[_], rfl, .cons ⟨_, hf, rfl, hk⟩ .nil, rfl⟩
  | orderBy hf => exact ⟨[], (List.append_nil _).symm, .nil, rfl⟩
  | limit n => exact ⟨[], (List.append_nil _).symm, .nil, rfl⟩
  | offset n => exact ⟨[], (List.append_nil _).symm, .nil, rfl⟩
  | distinct => exact ⟨[], (List.append_nil _).symm, .nil, rfl⟩

theorem Takes.order (h : q.Takes s q') :
    ∃ os, q'.order = q.order ++ os ∧
      List.Forall₂ (OrdersBy q.view.resolveField) s.sortKey?.toList os := by
  cases h with
  | compare hf hk => exact ⟨[], (List.append_nil _).symm, .nil⟩
  | orderBy hf => exact ⟨[_], rfl, .cons ⟨_, hf, rfl⟩ .nil⟩
  | limit n => exact ⟨[], (List.append_nil _).symm, .nil⟩
  | offset n => exact ⟨[], (List.append_nil _).symm, .nil⟩
  | distinct => exact ⟨[], (List.append_nil _).symm, .nil⟩

/-- The last limit and the last offset count, and one call for distinct rows is enough. -/
theorem Takes.paging (h : q.Takes s q') :
    q'.limit = s.limit?.or q.limit ∧ q'.offset = s.offset?.or q.offset ∧
      q'.distinct = (q.distinct || s.asksDistinct) := by
  cases h with
  | distinct => exact ⟨rfl, rfl, (Bool.or_true _).symm⟩
  | _ => exact ⟨rfl, rfl, (Bool.or_false _).symm⟩

end Takes

/-! ## All steps -/

/-- A query over an alias is the one that steps ask for. -/
structure Follows (a : Alias M) (ss : List QueryStep) (q : Query M) : Prop where
  view : q.view = a.view
  /-- One condition for each comparison call, in the order of the calls. -/
  conditions : List.Forall₂ (ComparisonCall.Makes a.resolve)
    (ss.filterMap QueryStep.comparison?) q.conditions
  /-- The first condition has no joiner, a later one has that of its call. -/
  joiners : q.conditions.map (fun c => c.joiner) =
    ComparisonCall.joiners (ss.filterMap QueryStep.comparison?)
  order : List.Forall₂ (OrdersBy a.resolve) (ss.filterMap QueryStep.sortKey?) q.order
  limit : q.limit = (ss.filterMap QueryStep.limit?).getLast?
  offset : q.offset = (ss.filterMap QueryStep.offset?).getLast?
  distinct : q.distinct = ss.any QueryStep.asksDistinct

theorem follows_ofAlias (a : Alias M) : (ofAlias a).Follows a [] :=
  ⟨rfl, .nil, rfl, .nil, rfl, rfl, rfl⟩

theorem Follows.resolveField (h : q.Follows a ss) : q.view.resolveField = a.resolve := by
  funext handle
  rw [h.view]
  exact (Alias.Binds.view.resolve_eq handle).1

/-- One more step is followed too. -/
theorem Follows.takes (h : q.Follows a ss) {s : QueryStep} {q' : Query M} (hs : q.Takes s q') :
    q'.Follows a (ss ++ [s]) := by
  obtain ⟨cs, hcs, hmakes, hjoiners⟩ := hs.conditions
  obtain ⟨os, hos, hkeys⟩ := hs.order
  obtain ⟨hlimit, hoffset, hdistinct⟩ := hs.paging
  rw [h.resolveField] at hmakes hkeys
  have hempty : q.conditions.isEmpty = (ss.filterMap QueryStep.comparison?).isEmpty := by
    rw [Bool.eq_iff_iff, List.isEmpty_iff_length_eq_zero, List.isEmpty_iff_length_eq_zero,
      h.conditions.length_eq]
  exact {
    view := hs.view_eq.trans h.view
    conditions := by
      rw [QueryStep.filterMap_concat, hcs]
      exact List.rel_append h.conditions hmakes
    joiners := by
      rw [QueryStep.filterMap_concat, hcs, List.map_append, h.joiners, hjoiners, hempty,
        ComparisonCall.joiners_append]
    order := by
      rw [QueryStep.filterMap_concat, hos]
      exact List.rel_append h.order hkeys
    limit := by rw [QueryStep.getLast?_filterMap_concat, hlimit, h.limit]
    offset := by rw [QueryStep.getLast?_filterMap_concat, hoffset, h.offset]
    distinct := by rw [List.any_append, hdistinct, h.distinct, List.any_cons, List.any_nil,
      Bool.or_false] }

/-- What steps make of a new query is read off them. -/
theorem follows_steps (a : Alias M) (ss : List QueryStep) :
    Ensures (Follows a ss) ((ofAlias a).steps ss) :=
  ensures_steps [] (follows_ofAlias a) (fun _ _ _ _ h hs => h.takes hs) ss

theorem Follows.fits (h : q.Follows a ss) : ∀ c ∈ q.conditions, c.Fits := by
  intro c hc
  obtain ⟨i, hi, rfl⟩ := List.getElem_of_mem hc
  obtain ⟨f, -, -, hk⟩ := h.conditions.get (h.conditions.length_eq ▸ hi) hi
  exact hk.fits

/-- A query over an alias is the one that steps ask for, its statements are complete, and its rows
are read field by field. -/
structure WellFormed (a : Alias M) (ss : List QueryStep) (q : Query M) : Prop
    extends Follows a ss q where
  /-- Each condition has the operand that its comparison takes. -/
  fits : ∀ c ∈ q.conditions, c.Fits
  /-- Both statements have the operands of each comparison behind its words. -/
  written : ∀ (d : Dialect) (cs cs' : List Condition) (c : Condition),
    q.conditions = cs ++ c :: cs' → ∀ st ∈ [q.toSelect d, q.toCount d], ∃ before after,
      st.sql = before ++ c.lead cs ++ (d.identifier c.column ++ " " ++ c.compare.sql ++
        c.right.text d (Fragment.bound (whereClause cs)).length) ++ after
  /-- The columns of all fields are selected, in the order of the fields. -/
  selected : ∀ d : Dialect, ∃ rest, (q.toSelect d).sql =
    (if q.distinct then "SELECT DISTINCT " else "SELECT ") ++
      d.columnList (a.definition.fields.map fun f => f.columnName) ++ " FROM " ++ rest
  /-- So the value at a place of a row is that of the field at this place. -/
  decoded : ∀ row : List Value, row.length = a.definition.fields.length →
    ∃ v, q.view.readRow row = .ok v ∧ v.object = a.definition.readRow row ∧
      v.columns = (List.range a.definition.fields.length).zipWith (fun k x => ⟨k, some x⟩) row

/-- Whatever steps a query takes, in any order and number: when all of them succeed, the query is well
formed. -/
theorem wellFormed_of_steps {l l' : Ledger}
    (h : ((ofAlias a).steps ss).run l = (.ok q, l')) : q.WellFormed a ss := by
  have hfollows := follows_steps a ss l q l' h
  have hfits := hfollows.fits
  exact {
    hfollows with
    fits := hfits
    written := by
      intro d cs cs' c hsplit st hst
      have hc : c.Fits := hfits c (hsplit ▸ List.mem_append_right _ List.mem_cons_self)
      rcases List.mem_pair.mp hst with rfl | rfl
      · have hfragments : q.selectFragments d =
            (.text (if q.distinct then "SELECT DISTINCT " else "SELECT ") ::
                columnFragments q.columnNames ++
              [.text " FROM ", .table q.definition.schemaName q.definition.tableName]) ++
            whereClause (cs ++ c :: cs') ++
            (q.orderFragments ++ [.text (d.pagingClause q.limit q.offset)]) := by
          rw [selectFragments, fromFragments, hsplit]
          simp only [List.append_assoc, List.cons_append]
        rw [toSelect, hfragments]
        refine d.exists_sql_condition ?_ hc
        simp
      · have hfragments : q.countFragments =
            [.text "SELECT COUNT(*)", .text " FROM ",
              .table q.definition.schemaName q.definition.tableName] ++
            whereClause (cs ++ c :: cs') ++ [] := by
          rw [countFragments, fromFragments, hsplit, List.append_nil]
          rfl
        rw [toCount, hfragments]
        exact d.exists_sql_condition rfl hc
    selected := by
      intro d
      rw [← columnNames_eq hfollows.view]
      exact q.exists_sql_toSelect d
    decoded := by
      intro row hrow
      rw [hfollows.view]
      refine ⟨a.viewOf (some row), ?_, a.object_viewOf row, rfl⟩
      rw [Alias.Binds.view.readRow_eq, if_pos hrow] }

/-! ### Recent visits -/

/-- Visits by page or by number, the latest first; the first comparison is opened by AND. -/
def recentVisits : List QueryStep :=
  [.limit 5, .compare (some .and) ⟨1, 1⟩ (.like "h%"), .orderBy true ⟨1, 0⟩,
    .compare (some .or) ⟨1, 0⟩ (.between (.of (.bigInt 1)) (.of (.bigInt 9))), .distinct]

theorem wellFormed_of_steps_visit :
    ∃ q l', ((ofAlias ⟨1, Session.visitDefinition⟩).steps recentVisits).run .start = (.ok q, l') ∧
      q.WellFormed ⟨1, Session.visitDefinition⟩ recentVisits ∧
      q.conditions = [⟨none, "page", .like, .value (.text "h%")⟩,
        ⟨some .or, "id", .between, .range (.of (.bigInt 1)) (.of (.bigInt 9))⟩] ∧
      q.order = [⟨"id", true⟩] := by
  obtain ⟨q, l', hq, hconditions, horder⟩ : ∃ q l',
      ((ofAlias ⟨1, Session.visitDefinition⟩).steps recentVisits).run .start = (.ok q, l') ∧
        q.conditions = [⟨none, "page", .like, .value (.text "h%")⟩,
          ⟨some .or, "id", .between, .range (.of (.bigInt 1)) (.of (.bigInt 9))⟩] ∧
        q.order = [⟨"id", true⟩] := ⟨_, _, rfl, rfl, rfl⟩
  exact ⟨q, l', hq, wellFormed_of_steps hq, hconditions, horder⟩

end Query
end TableMapping
