import TableMapping.Proofs.Runs
import TableMapping.Query.Step

/-!
# What a step makes of a query

A step that succeeds does one of five things to a query: it puts a comparison behind those that are
there, or a column behind those to order by, or it sets a limit, an offset or the removal of
repeated rows.  What holds of all queries is proved of these.

* `Comparator.Closes`: the comparison and the operand that a comparator makes.
* `Query.Takes`: the query that a step makes.
* `Query.takes_step`: there are no other ways.
* `Query.ensures_steps`: what each step keeps, all steps keep.
-/

namespace TableMapping

open Runs

variable {M : Type}

/-- At some time, a field value is stored in a column as a value. -/
def Column.StoresAs (c : Column) (x : FieldValue) (v : Value) : Prop :=
  ∃ l l', (c.toStorage x).run l = (.ok v, l')

/-- The comparison and the operand that a comparator makes of the column of a field, where `resolve`
says what handles stand for. -/
inductive Comparator.Closes (resolve : Handle → Except MappingError (MappedField M))
    (f : MappedField M) : Comparator → Comparison → Operand → Prop
  | value {test : ValueTest} {v w : Value} (hw : f.StoresAs (.plain v) w) :
      Closes resolve f (.value test v) test.comparison (.value w)
  | member {E : Type} {t : EnumerationType E} {x : E} {m : Member} {w : Value}
      (hm : Member.ofTyped t x = .ok m) (hw : f.StoresAs (.member (some m)) w) :
      Closes resolve f (.member t x) .equal (.value w)
  | like (pattern : String) : Closes resolve f (.like pattern) .like (.value (.text pattern))
  | between {low high v w : Value} (hv : f.StoresAs (.plain low) v)
      (hw : f.StoresAs (.plain high) w) : Closes resolve f (.between low high) .between (.range v w)
  | isNull : Closes resolve f .isNull .isNull .none
  | isNotNull : Closes resolve f .isNotNull .isNotNull .none
  | column {h : Handle} {g : MappedField M} (hg : resolve h = .ok g) :
      Closes resolve f (.column h) .equal (.column g.columnName)

/-- A comparator closes a comparison with what it makes, or not at all. -/
theorem OpenCondition.closes_closeWith (c : OpenCondition M) (k : Comparator) :
    Ensures (fun q => ∃ compare right,
      k.Closes c.query.view.resolveField c.field compare right ∧ q = c.close compare right) (c.closeWith k) := by
  have hstored : ∀ x, Ensures (c.field.StoresAs x) (c.field.toStorage x) :=
    fun x l w l' hw => ⟨l, l', hw⟩
  cases k with
  | value test v => exact (hstored _).bind fun w hw => ensures_pure ⟨_, _, .value hw, rfl⟩
  | member t x =>
    have hmember : Ensures (fun m => Member.ofTyped t x = .ok m)
        (Mapping.ofExcept (Member.ofTyped t x)) := Mapping.ensures_ofExcept fun m hm => hm
    refine hmember.bind fun m hm => ?_
    exact (hstored _).bind fun w hw => ensures_pure ⟨_, _, .member hm hw, rfl⟩
  | like pattern => exact ensures_pure ⟨_, _, .like pattern, rfl⟩
  | between low high =>
    refine (hstored _).bind fun v hv => ?_
    exact (hstored _).bind fun w hw => ensures_pure ⟨_, _, .between hv hw, rfl⟩
  | isNull => exact ensures_pure ⟨_, _, .isNull, rfl⟩
  | isNotNull => exact ensures_pure ⟨_, _, .isNotNull, rfl⟩
  | column h =>
    refine Mapping.ensures_ofExcept fun q hq => ?_
    obtain ⟨g, hg, hq⟩ := bind_eq_ok.mp hq
    cases hq
    exact ⟨_, _, .column hg, rfl⟩

namespace Query

/-- The query that a step makes. -/
inductive Takes (q : Query M) : QueryStep → Query M → Prop
  | compare {joiner : Option Joiner} {h : Handle} {k : Comparator} {f : MappedField M}
      {compare : Comparison} {right : Operand} (hf : q.view.resolveField h = .ok f)
      (hk : k.Closes q.view.resolveField f compare right) :
      Takes q (.compare joiner h k) (OpenCondition.close ⟨q, f, joiner⟩ compare right)
  | orderBy {descending : Bool} {h : Handle} {f : MappedField M}
      (hf : q.view.resolveField h = .ok f) :
      Takes q (.orderBy descending h) { q with order := q.order ++ [⟨f.columnName, descending⟩] }
  | limit (n : UInt64) : Takes q (.limit n) (q.withLimit n)
  | offset (n : UInt64) : Takes q (.offset n) (q.withOffset n)
  | distinct : Takes q .distinct q.withDistinct

/-- A step makes of a query what it says, or nothing. -/
theorem takes_step (q : Query M) (s : QueryStep) : Ensures (q.Takes s) (q.step s) := by
  cases s with
  | compare joiner h k =>
    have hopen : Ensures (fun c => ∃ f, q.view.resolveField h = .ok f ∧ c = ⟨q, f, joiner⟩)
        (Mapping.ofExcept (q.condition joiner h)) := by
      refine Mapping.ensures_ofExcept fun c hc => ?_
      obtain ⟨f, hf, hc⟩ := bind_eq_ok.mp hc
      cases hc
      exact ⟨f, hf, rfl⟩
    refine hopen.bind ?_
    rintro _ ⟨f, hf, rfl⟩ l q' l' hq'
    obtain ⟨compare, right, hk, rfl⟩ := OpenCondition.closes_closeWith ⟨q, f, joiner⟩ k l q' l' hq'
    exact .compare hf hk
  | orderBy descending h =>
    refine Mapping.ensures_ofExcept fun q' hq' => ?_
    obtain ⟨f, hf, hq'⟩ := bind_eq_ok.mp hq'
    cases hq'
    exact .orderBy hf
  | limit n => exact ensures_pure (.limit n)
  | offset n => exact ensures_pure (.offset n)
  | distinct => exact ensures_pure .distinct

/-- What each step keeps is kept by all; the steps that were taken count. -/
theorem ensures_steps {P : List QueryStep → Query M → Prop} {q : Query M} (ss : List QueryStep)
    (h : P ss q) (hstep : ∀ ss q s q', P ss q → q.Takes s q' → P (ss ++ [s]) q')
    (ts : List QueryStep) : Ensures (P (ss ++ ts)) (q.steps ts) := by
  induction ts generalizing q ss with
  | nil =>
    rw [List.append_nil]
    exact ensures_pure h
  | cons s ts ih =>
    refine (q.takes_step s).bind fun q₁ h₁ => ?_
    rw [List.append_cons]
    exact ih _ (hstep ss q s q₁ h h₁)

end Query
end TableMapping
