import TableMapping.Proofs.Runs
import TableMapping.Query.Step
import TableMapping.Sql.Write

/-!
# The aliases of a run

Aliases are numbered by one counter.  Whatever an application does with the library, it runs
computations of the mapping one after the other, and some of them issue aliases: those that the
application asked for, and those that statements look up their key columns with.  A run is described
by the aliases it has issued so far, in order; that their numbers differ is all that tells the
handles of one from those of another.

* `Issues x l as`: run from the ledger `l`, the computation `x` issues the aliases `as`.
* `LibraryRun l as`: computations have issued `as` since the start and have left the ledger `l`.
* `Issues.numbers`, `LibraryRun.numbers`: the aliases are numbered in order.
* `LibraryRun.eq_of_number_eq`: as long as the counter does not come round, no number is used twice.
* `accounted_mergePlan` and its like: there is such a description of every computation that the
  library offers on objects, rows and queries.
-/

namespace TableMapping

open Runs

/-- An alias of some model. -/
structure AnyAlias where
  Model : Type
  value : Alias Model

namespace AnyAlias

/-- The number of an alias. -/
def number (a : AnyAlias) : UInt64 :=
  a.value.number

/-- The definition of an alias is one that a schema defines. -/
def IsDefined (a : AnyAlias) : Prop :=
  ∃ (s : ModelSchema a.Model) (build : Nat), s.define build = .ok a.value.definition

end AnyAlias

/-- Run from the ledger `l`, the computation issues these aliases, in this order.  There is one
constructor for each step of the mapping; only `materialize` issues an alias. -/
inductive Issues : {α : Type} → Mapping α → Ledger → List AnyAlias → Prop
  | pure {α : Type} (a : α) (l : Ledger) : Issues (Pure.pure a : Mapping α) l []
  | ofExcept {α : Type} (x : Except MappingError α) (l : Ledger) : Issues (.ofExcept x) l []
  | nextBuild (l : Ledger) : Issues Mapping.nextBuild l []
  | serialize (slot : AdapterSlot) (a : Adapter) (v : Value) (l : Ledger) :
      Issues (Mapping.serialize slot a v) l []
  | deserialize (slot : AdapterSlot) (a : Adapter) (v : Value) (l : Ledger) :
      Issues (Mapping.deserialize slot a v) l []
  | materialize {M : Type} {s : ModelSchema M} {build : Nat} {d : TableDefinition M}
      (hd : s.define build = .ok d) (l : Ledger) :
      Issues (Alias.materialize d) l [⟨M, ⟨l.nextAlias, d⟩⟩]
  | bind_error {α β : Type} {x : Mapping α} {f : α → Mapping β} {l l' : Ledger}
      {as : List AnyAlias} {e : MappingError} (hx : Issues x l as)
      (hrun : x.run l = (.error e, l')) : Issues (x >>= f) l as
  | bind_ok {α β : Type} {x : Mapping α} {f : α → Mapping β} {l l' : Ledger}
      {as bs : List AnyAlias} {a : α} (hx : Issues x l as) (hrun : x.run l = (.ok a, l'))
      (hf : Issues (f a) l' bs) : Issues (x >>= f) l (as ++ bs)

/-- Since the start, computations have issued the aliases `as` and have left the ledger `l`. -/
inductive LibraryRun : Ledger → List AnyAlias → Prop
  | start : LibraryRun .start []
  | step {α : Type} {x : Mapping α} {l : Ledger} {as bs : List AnyAlias} (h : LibraryRun l as)
      (hx : Issues x l bs) : LibraryRun (x.run l).2 (as ++ bs)

/-! ## Numbers -/

/-- Aliases are numbered one after the other, from `n` up to `n'`. -/
structure NumberedFrom (n n' : UInt64) (as : List AnyAlias) : Prop where
  number : ∀ i (hi : i < as.length), as[i].number = n + UInt64.ofNat i
  next : n' = n + UInt64.ofNat as.length

namespace NumberedFrom

variable {n n' n'' : UInt64} {as bs : List AnyAlias}

theorem nil (n : UInt64) : NumberedFrom n n [] :=
  ⟨nofun, (UInt64.add_zero n).symm⟩

theorem append (h : NumberedFrom n n' as) (h' : NumberedFrom n' n'' bs) :
    NumberedFrom n n'' (as ++ bs) := by
  refine ⟨fun i hi => ?_, ?_⟩
  · rw [List.getElem_append]
    split
    · exact h.number i _
    · rename_i hbehind
      have hsum : UInt64.ofNat i = UInt64.ofNat as.length + UInt64.ofNat (i - as.length) := by
        rw [← UInt64.ofNat_add, Nat.add_sub_cancel' (Nat.le_of_not_lt hbehind)]
      rw [h'.number, h.next, hsum, UInt64.add_assoc]
  · rw [h'.next, h.next, List.length_append, UInt64.ofNat_add, UInt64.add_assoc]

end NumberedFrom

theorem Issues.numbers {α : Type} {x : Mapping α} {l : Ledger} {as : List AnyAlias}
    (h : Issues x l as) : NumberedFrom l.nextAlias (x.run l).2.nextAlias as := by
  induction h with
  | pure | ofExcept | nextBuild | serialize | deserialize => exact .nil _
  | materialize hd l =>
    refine ⟨fun i hi => ?_, rfl⟩
    obtain rfl : i = 0 := Nat.lt_one_iff.mp hi
    exact (UInt64.add_zero _).symm
  | bind_error hx hrun ih =>
    rw [hrun] at ih
    rw [run_bind_error hrun]
    exact ih
  | bind_ok hx hrun hf ih ih' =>
    rw [hrun] at ih
    rw [run_bind_ok hrun]
    exact ih.append ih'

theorem Issues.isDefined {α : Type} {x : Mapping α} {l : Ledger} {as : List AnyAlias}
    (h : Issues x l as) : ∀ a ∈ as, a.IsDefined := by
  induction h with
  | pure | ofExcept | nextBuild | serialize | deserialize => exact List.forall_mem_nil _
  | materialize hd l => exact List.forall_mem_singleton.mpr ⟨_, _, hd⟩
  | bind_error hx hrun ih => exact ih
  | bind_ok hx hrun hf ih ih' => exact List.forall_mem_append.mpr ⟨ih, ih'⟩

namespace LibraryRun

variable {l : Ledger} {as : List AnyAlias}

theorem numbers (h : LibraryRun l as) : NumberedFrom 1 l.nextAlias as := by
  induction h with
  | start => exact .nil 1
  | step _ hx ih => exact ih.append hx.numbers

theorem isDefined (h : LibraryRun l as) : ∀ a ∈ as, a.IsDefined := by
  induction h with
  | start => exact List.forall_mem_nil _
  | step _ hx ih => exact List.forall_mem_append.mpr ⟨ih, hx.isDefined⟩

/-- Aliases with the same number are the same, as long as the counter does not come round. -/
theorem eq_of_number_eq (h : LibraryRun l as) (hfew : as.length < UInt64.size) {i j : Nat}
    {a b : AnyAlias} (ha : as[i]? = some a) (hb : as[j]? = some b) (heq : a.number = b.number) :
    i = j := by
  obtain ⟨hi, rfl⟩ := List.getElem?_eq_some_iff.mp ha
  obtain ⟨hj, rfl⟩ := List.getElem?_eq_some_iff.mp hb
  rw [h.numbers.number, h.numbers.number, UInt64.add_right_inj] at heq
  have hval := congrArg UInt64.toNat heq
  rwa [UInt64.toNat_ofNat_of_lt' (Nat.lt_trans hi hfew),
    UInt64.toNat_ofNat_of_lt' (Nat.lt_trans hj hfew)] at hval

end LibraryRun

/-! ## Computations of the library -/

/-- Every run of the computation is described by the aliases it issues. -/
def Accounted {α : Type} (x : Mapping α) : Prop :=
  ∀ l, ∃ as, Issues x l as

section Accounted

variable {α β M : Type} {x : Mapping α}

theorem accounted_pure (a : α) : Accounted (pure a : Mapping α) :=
  fun l => ⟨[], .pure a l⟩

theorem accounted_ofExcept (x : Except MappingError α) : Accounted (.ofExcept x) :=
  fun l => ⟨[], .ofExcept x l⟩

theorem Accounted.bind (hx : Accounted x) {f : α → Mapping β} (hf : ∀ a, Accounted (f a)) :
    Accounted (x >>= f) := by
  intro l
  obtain ⟨as, has⟩ := hx l
  rcases hrun : x.run l with ⟨_ | a, l'⟩
  · exact ⟨as, .bind_error has hrun⟩
  · obtain ⟨bs, hbs⟩ := hf a l'
    exact ⟨as ++ bs, .bind_ok has hrun hbs⟩

variable (f : MappedField M) (m : M)

theorem accounted_toStorage (c : Column) (x : FieldValue) : Accounted (c.toStorage x) := by
  unfold Column.toStorage
  split
  · exact fun l => ⟨[], .serialize _ _ _ l⟩
  · exact accounted_ofExcept _

theorem accounted_fromStorage (c : Column) (raw : Value) : Accounted (c.fromStorage raw) := by
  unfold Column.fromStorage
  split
  · exact Accounted.bind (fun l => ⟨[], .deserialize _ _ _ l⟩) fun v => accounted_ofExcept _
  · exact accounted_ofExcept _

theorem accounted_storageValue : Accounted (f.storageValue m) :=
  (accounted_ofExcept _).bind fun x => accounted_toStorage f.toColumn x

theorem accounted_setValue (raw : Value) : Accounted (f.setValue m raw) :=
  (accounted_fromStorage f.toColumn raw).bind fun _ => accounted_ofExcept _

/-! ### Rows and queries -/

theorem accounted_readInto (fs : List (MappedField M)) (vs : List Value) :
    Accounted (TableDefinition.readInto m fs vs) := by
  induction fs generalizing m vs with
  | nil => exact accounted_pure m
  | cons f fs ih =>
    cases vs with
    | nil => exact accounted_pure m
    | cons v vs => exact (accounted_setValue f m v).bind fun m => ih m vs

theorem accounted_readRow (d : TableDefinition M) (row : List Value) : Accounted (d.readRow row) :=
  accounted_readInto d.blank d.fields row

theorem accounted_copyInto (d : TableDefinition M) (cs : List SelectColumn) :
    Accounted (SelectView.copyInto d m cs) := by
  induction cs generalizing m with
  | nil => exact accounted_pure m
  | cons c cs ih =>
    unfold SelectView.copyInto
    split
    · exact ih m
    · refine (accounted_ofExcept _).bind fun f => ?_
      exact (accounted_setValue f m _).bind fun m => ih m

variable (c : OpenCondition M)

theorem accounted_compareValue (compare : Comparison) (v : Value) :
    Accounted (c.compareValue compare v) :=
  (accounted_toStorage c.field.toColumn _).bind fun _ => accounted_pure _

theorem accounted_isMember {E : Type} (t : EnumerationType E) (x : E) :
    Accounted (c.isMember t x) :=
  (accounted_ofExcept _).bind fun _ =>
    (accounted_toStorage c.field.toColumn _).bind fun _ => accounted_pure _

theorem accounted_between (low high : Value) : Accounted (c.between low high) :=
  (accounted_toStorage c.field.toColumn _).bind fun _ =>
    (accounted_toStorage c.field.toColumn _).bind fun _ => accounted_pure _

theorem accounted_closeWith (k : Comparator) : Accounted (c.closeWith k) := by
  cases k with
  | value test v => exact accounted_compareValue c test.comparison v
  | member t x => exact accounted_isMember c t x
  | between low high => exact accounted_between c low high
  | like | isNull | isNotNull => exact accounted_pure _
  | column h => exact accounted_ofExcept _

theorem accounted_step (q : Query M) (s : QueryStep) : Accounted (q.step s) := by
  cases s with
  | compare joiner h k => exact (accounted_ofExcept _).bind fun c => accounted_closeWith c k
  | orderBy descending h => exact accounted_ofExcept _
  | limit | offset | distinct => exact accounted_pure _

theorem accounted_steps (q : Query M) (ss : List QueryStep) : Accounted (q.steps ss) := by
  induction ss generalizing q with
  | nil => exact accounted_pure q
  | cons s ss ih => exact (accounted_step q s).bind fun q => ih q

/-! ### Statements -/

theorem accounted_storedValues (fs : List (MappedField M)) :
    Accounted (TableDefinition.storedValues m fs) := by
  induction fs with
  | nil => exact accounted_pure []
  | cons f fs ih =>
    exact (accounted_storageValue f m).bind fun _ => ih.bind fun _ => accounted_pure _

theorem accounted_keyValues (a : Alias M) (fs : List (MappedField M)) :
    Accounted (TableDefinition.keyValues a m fs) := by
  induction fs with
  | nil => exact accounted_pure []
  | cons f fs ih =>
    refine (accounted_ofExcept _).bind fun g => ?_
    exact (accounted_storageValue g m).bind fun _ => ih.bind fun _ => accounted_pure _

variable (d : TableDefinition M) (dialect : Dialect)

theorem accounted_insertFragments : Accounted (d.insertFragments m) :=
  ((accounted_storedValues m d.fields).bind fun _ => accounted_pure _).bind fun _ =>
    accounted_pure _

theorem accounted_insertStatement : Accounted (d.insertStatement m dialect) :=
  (accounted_insertFragments m d).bind fun _ => accounted_pure _

variable {d} {s : ModelSchema M} {build : Nat} (hd : s.define build = .ok d)

include hd

theorem accounted_materialize : Accounted (Alias.materialize d) :=
  fun l => ⟨_, .materialize hd l⟩

/-- The conditions that find the row of an object look up their columns by an alias of their
own. -/
theorem accounted_keyConditions : Accounted (d.keyConditions m) :=
  (accounted_materialize hd).bind fun a =>
    (accounted_keyValues m a d.keyFields).bind fun _ => accounted_pure _

theorem accounted_updateStatement : Accounted (d.updateStatement m dialect) := by
  have hfragments : Accounted (d.updateFragments m) :=
    (accounted_ofExcept _).bind fun _ => (accounted_storedValues m d.updatedFields).bind fun _ =>
      (accounted_keyConditions m hd).bind fun _ => accounted_pure _
  exact hfragments.bind fun _ => accounted_pure _

theorem accounted_deleteStatement : Accounted (d.deleteStatement m dialect) := by
  have hfragments : Accounted (d.deleteFragments m) :=
    (accounted_ofExcept _).bind fun _ => (accounted_keyConditions m hd).bind fun _ =>
      accounted_pure _
  exact hfragments.bind fun _ => accounted_pure _

/-- An emulated merge issues two aliases, one for its probe and one for its update. -/
theorem accounted_mergePlan : Accounted (d.mergePlan m dialect) := by
  have hprobe : Accounted (d.probeFragments m) :=
    (accounted_keyConditions m hd).bind fun _ => accounted_pure _
  refine (accounted_ofExcept _).bind fun _ => (accounted_storedValues m d.fields).bind fun _ => ?_
  split
  · exact hprobe.bind fun _ => (accounted_updateStatement m dialect hd).bind fun _ =>
      (accounted_insertStatement m d dialect).bind fun _ => accounted_pure _
  · exact accounted_pure _

end Accounted
end TableMapping
