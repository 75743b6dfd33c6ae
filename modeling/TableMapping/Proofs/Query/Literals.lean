import TableMapping.Proofs.Sql.FixedText
import TableMapping.Query.Step

/-!
# The text of a query and its literals

The literals of a query, the values, patterns and bounds of its comparators, are bound like the
values of an object.  Queries that take the same steps with other literals have the same text.

* `QueryStep.Alike`: steps that differ in their literals.
* `Query.skeleton`: a query without its literals, and `Query.skeleton_selectFragments`, by which it
  makes the text.
* `Query.related_step`, `Query.related_steps`: steps with other literals lead to the same skeleton.
* `ModelSchema.define_fixedText`: neither the objects nor the literals show in the text.
-/

namespace TableMapping

open Runs

/-- Comparators that differ in their literals. -/
inductive Comparator.Alike : Comparator → Comparator → Prop
  | value (test : ValueTest) (v w : Value) : Alike (.value test v) (.value test w)
  | member {E F : Type} (t : EnumerationType E) (x : E) (t' : EnumerationType F) (y : F) :
      Alike (.member t x) (.member t' y)
  | like (pattern pattern' : String) : Alike (.like pattern) (.like pattern')
  | between (low high low' high' : Value) : Alike (.between low high) (.between low' high')
  | isNull : Alike .isNull .isNull
  | isNotNull : Alike .isNotNull .isNotNull
  | column (h : Handle) : Alike (.column h) (.column h)

/-- Steps that differ in their literals. -/
inductive QueryStep.Alike : QueryStep → QueryStep → Prop
  | compare (joiner : Option Joiner) (h : Handle) {k k' : Comparator} (hk : k.Alike k') :
      Alike (.compare joiner h k) (.compare joiner h k')
  | orderBy (descending : Bool) (h : Handle) : Alike (.orderBy descending h) (.orderBy descending h)
  | limit (n : UInt64) : Alike (.limit n) (.limit n)
  | offset (n : UInt64) : Alike (.offset n) (.offset n)
  | distinct : Alike .distinct .distinct

/-- A query whose values are left blank. -/
def Query.skeleton {M : Type} (q : Query M) : Query M :=
  { q with conditions := q.conditions.map Condition.blank }

theorem Query.view_eq_of_skeleton {M : Type} {q q' : Query M} (h : q.skeleton = q'.skeleton) :
    q.view = q'.view := by
  have hview : q.skeleton.view = q'.skeleton.view := congrArg Query.view h
  exact hview

/-- Comparisons of one column in queries of one skeleton. -/
structure OpenCondition.Alike {M : Type} (c c' : OpenCondition M) : Prop where
  query : c.query.skeleton = c'.query.skeleton
  field : c.field = c'.field
  joiner : c.joiner = c'.joiner

namespace OpenCondition

variable {M : Type} {c c' : OpenCondition M}

/-! ## Comparisons -/

theorem Alike.skeleton_close (h : c.Alike c') (compare : Comparison) {right right' : Operand}
    (hright : right.blank = right'.blank) :
    (c.close compare right).skeleton = (c'.close compare right').skeleton := by
  have hclose : ∀ (c : OpenCondition M) (right : Operand), (c.close compare right).skeleton =
      { c.query.skeleton with
        conditions := c.query.skeleton.conditions ++
          [⟨if c.query.skeleton.conditions.isEmpty then none else c.joiner, c.field.columnName,
            compare, right.blank⟩] } := by
    intro c right
    simp only [close, Query.skeleton, List.map_append, List.isEmpty_map]
    rfl
  rw [hclose, hclose, h.query, h.field, h.joiner, hright]

/-- The comparator settles everything but the values. -/
theorem Alike.related_closeWith (h : c.Alike c') {k k' : Comparator} (hk : k.Alike k') :
    Related (fun q q' => q.skeleton = q'.skeleton) (c.closeWith k) (c'.closeWith k') := by
  have hview := Query.view_eq_of_skeleton h.query
  cases hk with
  | value test v w =>
    exact (related_true _ _).bind fun _ _ _ => .pure (h.skeleton_close _ rfl)
  | member t x t' y =>
    refine (related_true _ _).bind fun _ _ _ => ?_
    exact (related_true _ _).bind fun _ _ _ => .pure (h.skeleton_close _ rfl)
  | like pattern pattern' => exact .pure (h.skeleton_close _ rfl)
  | between low high low' high' =>
    refine (related_true _ _).bind fun _ _ _ => ?_
    exact (related_true _ _).bind fun _ _ _ => .pure (h.skeleton_close _ rfl)
  | isNull => exact .pure (h.skeleton_close _ rfl)
  | isNotNull => exact .pure (h.skeleton_close _ rfl)
  | column handle =>
    rw [closeWith, closeWith, isColumn, isColumn, hview]
    exact Mapping.related_ofExcept _ fun f => h.skeleton_close _ rfl

end OpenCondition

namespace Query

variable {M : Type} {q q' : Query M}

/-! ## Steps -/

/-- Steps that differ in their literals lead from queries of one skeleton to such queries. -/
theorem related_step (hq : q.skeleton = q'.skeleton) {s s' : QueryStep} (hs : s.Alike s') :
    Related (fun q q' => q.skeleton = q'.skeleton) (q.step s) (q'.step s') := by
  have hview := view_eq_of_skeleton hq
  cases hs with
  | compare joiner h hk =>
    refine Related.bind (R := OpenCondition.Alike) ?_ fun c c' hc => hc.related_closeWith hk
    rw [condition, condition, hview]
    refine Mapping.related_ofExcept _ fun f => ?_
    exact ⟨hq, rfl, rfl⟩
  | orderBy descending h =>
    have hresolve : q.view.resolveField h = q'.view.resolveField h := by rw [hview]
    rw [step, step, orderBy, orderBy, hresolve]
    refine Mapping.related_ofExcept _ fun f => ?_
    let sorted (q : Query M) : Query M :=
      { q with order := q.order ++ [⟨f.columnName, descending⟩] }
    exact congrArg sorted hq
  | limit n => exact .pure (congrArg (fun q => q.withLimit n) hq)
  | offset n => exact .pure (congrArg (fun q => q.withOffset n) hq)
  | distinct => exact .pure (congrArg withDistinct hq)

theorem related_steps (hq : q.skeleton = q'.skeleton) {ss ss' : List QueryStep}
    (hss : List.Forall₂ QueryStep.Alike ss ss') :
    Related (fun q q' => q.skeleton = q'.skeleton) (q.steps ss) (q'.steps ss') := by
  induction hss generalizing q q' with
  | nil => exact .pure hq
  | cons hs _ ih => exact (related_step hq hs).bind fun q q' hq => ih hq

/-! ## Statements -/

theorem skeleton_fromFragments (q : Query M) :
    Fragment.skeleton q.fromFragments = q.skeleton.fromFragments := by
  rw [fromFragments, Fragment.skeleton_append, Fragment.skeleton_whereClause]
  rfl

theorem skeleton_orderFragments (q : Query M) :
    Fragment.skeleton q.orderFragments = q.skeleton.orderFragments := by
  have hkey : ∀ o : SortKey,
      Fragment.skeleton (.column o.column :: if o.descending then [.text " DESC"] else []) =
        .column o.column :: if o.descending then [.text " DESC"] else [] := by
    intro o
    cases o.descending <;> rfl
  have horder : q.skeleton.orderFragments = q.orderFragments := rfl
  rw [horder, orderFragments]
  split
  · rfl
  · rw [Fragment.skeleton_cons, Fragment.skeleton_separated, List.map_map]
    congr 2
    exact List.map_congr_left fun o _ => hkey o

theorem skeleton_selectFragments (q : Query M) (d : Dialect) :
    Fragment.skeleton (q.selectFragments d) = q.skeleton.selectFragments d := by
  simp only [selectFragments, Fragment.skeleton_append, Fragment.skeleton_cons,
    Fragment.skeleton_nil, Fragment.skeleton_columnFragments, skeleton_fromFragments,
    skeleton_orderFragments]
  rfl

theorem skeleton_countFragments (q : Query M) :
    Fragment.skeleton q.countFragments = q.skeleton.countFragments := by
  rw [countFragments, Fragment.skeleton_cons, skeleton_fromFragments]
  rfl

/-- Queries of one skeleton have the same text in every dialect. -/
theorem sameText (hq : q.skeleton = q'.skeleton) (d : Dialect) :
    (q.toSelect d).SameText (q'.toSelect d) ∧ (q.toCount d).SameText (q'.toCount d) := by
  refine ⟨d.sql_statement_eq ?_, d.sql_statement_eq ?_⟩
  · rw [skeleton_selectFragments, hq, skeleton_selectFragments]
  · rw [skeleton_countFragments, hq, skeleton_countFragments]

end Query

namespace ModelSchema

variable {M : Type} {s : ModelSchema M} {build : Nat} {d : TableDefinition M}

/-- The values of objects and the literals of queries never show in the text of a statement.  Of an
object the text of an insertion tells which of its generated fields are NULL or zero, and the text
of any other statement tells nothing. -/
theorem define_fixedText (h : s.define build = .ok d) (x y : M) (dialect : Dialect) :
    d.FixedText x y dialect ∧
      ∀ (N : Type) (a : Alias N) (ss ss' : List QueryStep), List.Forall₂ QueryStep.Alike ss ss' →
        Related (fun q q' => (q.toSelect dialect).SameText (q'.toSelect dialect) ∧
            (q.toCount dialect).SameText (q'.toCount dialect))
          ((Query.ofAlias a).steps ss) ((Query.ofAlias a).steps ss') := by
  refine ⟨TableDefinition.fixedText_of_define h x y dialect, fun N a ss ss' hss => ?_⟩
  intro l l' q q' l₁ l₁' hq hq'
  exact Query.sameText (Query.related_steps rfl hss l l' q q' l₁ l₁' hq hq') dialect

end ModelSchema

/-! ### Visits of a page with a hostile name -/

namespace Session

open TableDefinition

/-- A name that would end the statement if it stood in the text. -/
def hostilePage : String := "'); DROP TABLE Visit; --"

theorem sameGenerated_visit (page page' : String) :
    visitDefinition.SameGenerated ⟨0, page⟩ ⟨0, page'⟩ := by
  refine List.forall_mem_cons.mpr ⟨?_, List.forall_mem_singleton.mpr ?_⟩
  · exact related_isGenerated_of_encode rfl rfl rfl rfl rfl rfl
  · exact fun _ _ _ _ _ _ _ _ => rfl

/-- Visits of pages by a pattern, or with numbers in a range. -/
def visitSearch (pattern : String) (low high : Int64) : List QueryStep :=
  [.compare none ⟨1, 1⟩ (.like pattern),
    .compare (some .or) ⟨1, 0⟩ (.between (.of (.bigInt low)) (.of (.bigInt high)))]

theorem alike_visitSearch (pattern pattern' : String) (low high low' high' : Int64) :
    List.Forall₂ QueryStep.Alike (visitSearch pattern low high) (visitSearch pattern' low' high') :=
  .cons (.compare _ _ (.like _ _)) (.cons (.compare _ _ (.between _ _ _ _)) .nil)

/-- Neither the page of a visit nor the pattern of a search shows. -/
theorem define_fixedText_visit :
    visitSchema.define 0 = .ok visitDefinition ∧
      (∃ st st' l l',
        (visitDefinition.insertStatement ⟨0, "home"⟩ .postgres).run .start = (.ok st, l) ∧
        (visitDefinition.insertStatement ⟨0, hostilePage⟩ .postgres).run .start = (.ok st', l') ∧
        st.SameText st' ∧ st.params = [.text "home"] ∧ st'.params = [.text hostilePage]) ∧
      ∃ q q' l l',
        ((Query.ofAlias ⟨1, visitDefinition⟩).steps (visitSearch "h%" 1 9)).run .start =
          (.ok q, l) ∧
        ((Query.ofAlias ⟨1, visitDefinition⟩).steps (visitSearch hostilePage 0 0)).run .start =
          (.ok q', l') ∧
        (q.toSelect .postgres).SameText (q'.toSelect .postgres) := by
  obtain ⟨hobjects, hqueries⟩ := ModelSchema.define_fixedText define_visitSchema
    ⟨0, "home"⟩ ⟨0, hostilePage⟩ .postgres
  have hinsert := (hobjects.same (sameGenerated_visit _ _)).1
  have hsearch :=
    hqueries Visit ⟨1, visitDefinition⟩ _ _ (alike_visitSearch "h%" hostilePage 1 9 0 0)
  obtain ⟨st, l, hst, hparams⟩ : ∃ st l,
      (visitDefinition.insertStatement ⟨0, "home"⟩ .postgres).run .start = (.ok st, l) ∧
        st.params = [.text "home"] := ⟨_, _, rfl, rfl⟩
  obtain ⟨st', l', hst', hparams'⟩ : ∃ st' l',
      (visitDefinition.insertStatement ⟨0, hostilePage⟩ .postgres).run .start = (.ok st', l') ∧
        st'.params = [.text hostilePage] := ⟨_, _, rfl, rfl⟩
  obtain ⟨q, l₁, hq⟩ : ∃ q l₁, ((Query.ofAlias ⟨1, visitDefinition⟩).steps
      (visitSearch "h%" 1 9)).run .start = (.ok q, l₁) := ⟨_, _, rfl⟩
  obtain ⟨q', l₁', hq'⟩ : ∃ q' l₁', ((Query.ofAlias ⟨1, visitDefinition⟩).steps
      (visitSearch hostilePage 0 0)).run .start = (.ok q', l₁') := ⟨_, _, rfl⟩
  refine ⟨define_visitSchema, ?_, ?_⟩
  · exact ⟨st, st', l, l', hst, hst', hinsert _ _ _ _ _ _ hst hst', hparams, hparams'⟩
  · exact ⟨q, q', l₁, l₁', hq, hq', (hsearch _ _ _ _ _ _ hq hq').1⟩

end Session
end TableMapping
