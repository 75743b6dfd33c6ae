import TableMapping.Adapter

/-!
# Computations that may fail and that keep a state

The mapping and the sessions are such computations: a run gives an answer or a failure, and in
both cases a state.

* `run_bind_ok`, `run_bind_error`: a sequence goes on from the state of its first part, or stops
  there.
* `run_bind_eq_ok`: a sequence answers exactly when its parts do.
* `Ensures`: what holds of every answer of a computation.
* `Related`: what the answers of two computations have in common, from whatever states they start.
* `Steady`: computations whose answer does not depend on the state.
-/

namespace TableMapping
namespace Runs

variable {ε τ α β : Type} {s t : τ} {x : ExceptT ε (StateM τ) α}
  {f : α → ExceptT ε (StateM τ) β}

@[simp] theorem run_pure (a : α) : (pure a : ExceptT ε (StateM τ) α).run s = (.ok a, s) := rfl

@[simp] theorem run_get : (get : ExceptT ε (StateM τ) τ).run s = (.ok s, s) := rfl

theorem run_bind_ok {a : α} (h : x.run s = (.ok a, t)) : (x >>= f).run s = (f a).run t := by
  have hrun : (x >>= f).run s = (ExceptT.bindCont f (x.run s).1) (x.run s).2 := rfl
  rw [hrun, h]
  rfl

theorem run_bind_error {e : ε} (h : x.run s = (.error e, t)) :
    (x >>= f).run s = (.error e, t) := by
  have hrun : (x >>= f).run s = (ExceptT.bindCont f (x.run s).1) (x.run s).2 := rfl
  rw [hrun, h]
  rfl

theorem run_bind_eq_ok {b : β} {u : τ} :
    (x >>= f).run s = (.ok b, u) ↔
      ∃ a t, x.run s = (.ok a, t) ∧ (f a).run t = (.ok b, u) := by
  rcases h : x.run s with ⟨_ | a, t⟩
  · rw [run_bind_error h]
    constructor
    · intro heq
      exact nomatch heq
    · rintro ⟨a, t', heq, -⟩
      exact nomatch heq
  · rw [run_bind_ok h]
    constructor
    · exact fun heq => ⟨a, t, rfl, heq⟩
    · rintro ⟨a', t', heq, hf⟩
      cases heq
      exact hf

theorem run_discard (x : ExceptT ε (StateM τ) α) :
    (discard x).run s = ((x.run s).1.map fun _ => (), (x.run s).2) := by
  rcases h : x.run s with ⟨b, t⟩
  have hx : x s = (b, t) := h
  show (ExceptT.map (fun _ => ()) x).run s = _
  simp only [ExceptT.map, ExceptT.run_mk, bind, StateT.bind]
  rw [hx]
  cases b <;> rfl

theorem run_discard_eq_error_iff {e : ε} :
    (discard x).run s = (.error e, t) ↔ x.run s = (.error e, t) := by
  rw [run_discard]
  rcases x.run s with ⟨e' | a, u⟩
  · constructor
    · rintro ⟨⟩
      rfl
    · rintro ⟨⟩
      rfl
  · constructor
    · exact fun heq => nomatch heq
    · exact fun heq => nomatch heq

theorem run_discard_eq_ok_iff :
    (discard x).run s = (.ok (), t) ↔ ∃ a, x.run s = (.ok a, t) := by
  rw [run_discard]
  rcases x.run s with ⟨e | a, u⟩
  · constructor
    · exact fun heq => nomatch heq
    · rintro ⟨_, heq⟩
      exact nomatch heq
  · constructor
    · intro heq
      cases heq
      exact ⟨a, rfl⟩
    · rintro ⟨_, heq⟩
      cases heq
      rfl

/-- A handler runs in the state that the failure left. -/
theorem run_tryCatch (x : ExceptT ε (StateM τ) α) (f : ε → ExceptT ε (StateM τ) α) :
    (tryCatch x f).run s = (match (x.run s).1 with
      | .ok a => (pure a : ExceptT ε (StateM τ) α)
      | .error e => f e).run (x.run s).2 := by
  rcases h : x.run s with ⟨b, t⟩
  have hx : x s = (b, t) := h
  show (ExceptT.tryCatch x f).run s = _
  simp only [ExceptT.tryCatch, ExceptT.run_mk, bind, StateT.bind]
  rw [hx]
  cases b <;> rfl

/-- A sequence without state answers exactly when its parts do. -/
theorem bind_eq_ok {x : Except ε α} {f : α → Except ε β} {b : β} :
    (x >>= f) = .ok b ↔ ∃ a, x = .ok a ∧ f a = .ok b := by
  rcases x with e | a
  · constructor
    · intro heq
      exact nomatch heq
    · rintro ⟨a, heq, -⟩
      exact nomatch heq
  · constructor
    · exact fun heq => ⟨a, rfl, heq⟩
    · rintro ⟨a', heq, hf⟩
      cases heq
      exact hf

/-! ## Answers -/

/-- From whatever state a computation starts, its answer has a property. -/
def Ensures (P : α → Prop) (x : ExceptT ε (StateM τ) α) : Prop :=
  ∀ s a t, x.run s = (.ok a, t) → P a

theorem ensures_pure {P : α → Prop} {a : α} (h : P a) :
    Ensures P (pure a : ExceptT ε (StateM τ) α) := by
  intro s b t hb
  cases hb
  exact h

theorem Ensures.bind {P : α → Prop} {Q : β → Prop} (hx : Ensures P x)
    (hf : ∀ a, P a → Ensures Q (f a)) : Ensures Q (x >>= f) := by
  intro s b t hb
  obtain ⟨a, u, ha, hb⟩ := run_bind_eq_ok.mp hb
  exact hf a (hx s a u ha) u b t hb

theorem ensures_true (x : ExceptT ε (StateM τ) α) : Ensures (fun _ => True) x :=
  fun _ _ _ _ => trivial

/-! ## Two runs -/

section Related

variable {α' β' : Type} {R : α → α' → Prop} {S : β → β' → Prop} {y : ExceptT ε (StateM τ) α'}
  {g : α' → ExceptT ε (StateM τ) β'}

/-- Wherever two computations start, if both answer, their answers are related. -/
def Related (R : α → α' → Prop) (x : ExceptT ε (StateM τ) α) (y : ExceptT ε (StateM τ) α') :
    Prop :=
  ∀ s s' a a' t t', x.run s = (.ok a, t) → y.run s' = (.ok a', t') → R a a'

theorem related_true (x : ExceptT ε (StateM τ) α) (y : ExceptT ε (StateM τ) α') :
    Related (fun _ _ => True) x y :=
  fun _ _ _ _ _ _ _ _ => trivial

theorem Related.pure {a : α} {a' : α'} (h : R a a') :
    Related R (pure a : ExceptT ε (StateM τ) α) (pure a') := by
  intro s s' b b' t t' hb hb'
  cases hb
  cases hb'
  exact h

theorem Related.bind (hx : Related R x y) (hf : ∀ a a', R a a' → Related S (f a) (g a')) :
    Related S (x >>= f) (y >>= g) := by
  intro s s' b b' t t' hb hb'
  obtain ⟨a, u, ha, hb⟩ := run_bind_eq_ok.mp hb
  obtain ⟨a', u', ha', hb'⟩ := run_bind_eq_ok.mp hb'
  exact hf a a' (hx s s' a a' u u' ha ha') u u' b b' t t' hb hb'

end Related

/-! ## One answer -/

/-- A computation answers the same from whatever state it starts. -/
def Steady (x : ExceptT ε (StateM τ) α) : Prop :=
  ∀ s t, (x.run s).1 = (x.run t).1

theorem steady_pure (a : α) : Steady (pure a : ExceptT ε (StateM τ) α) :=
  fun _ _ => rfl

theorem Steady.bind (hx : Steady x) (hf : ∀ a, Steady (f a)) : Steady (x >>= f) := by
  intro s t
  have hst := hx s t
  rcases hs : x.run s with ⟨_ | a, s'⟩
  · rcases ht : x.run t with ⟨b, t'⟩
    rw [hs, ht] at hst
    cases hst
    rw [run_bind_error hs, run_bind_error ht]
  · rcases ht : x.run t with ⟨b, t'⟩
    rw [hs, ht] at hst
    cases hst
    rw [run_bind_ok hs, run_bind_ok ht]
    exact hf a s' t'

/-- Where what follows is steady, the state that the first part leaves does not count. -/
theorem fst_run_bind (hf : ∀ a, Steady (f a)) (s t : τ) :
    ((x >>= f).run s).1 = (x.run s).1 >>= fun a => ((f a).run t).1 := by
  rcases hs : x.run s with ⟨_ | a, s'⟩
  · rw [run_bind_error hs]
    rfl
  · rw [run_bind_ok hs]
    exact hf a s' t

end Runs

/-! ## Steps of the mapping -/

namespace Mapping

open Runs

variable {α : Type} {l : Ledger}

@[simp] theorem run_ofExcept (x : Except MappingError α) : (ofExcept x).run l = (x, l) := rfl

theorem ofExcept_ok_bind {β : Type} (a : α) (f : α → Mapping β) : ofExcept (.ok a) >>= f = f a :=
  rfl

theorem ensures_ofExcept {P : α → Prop} {x : Except MappingError α} (h : ∀ a, x = .ok a → P a) :
    Ensures P (ofExcept x) :=
  fun _ a _ ha => h a (congrArg Prod.fst ha)

theorem steady_ofExcept (x : Except MappingError α) : Steady (ofExcept x) :=
  fun _ _ => rfl

/-- What is made of one answer is related when it is for every answer. -/
theorem related_ofExcept {β β' : Type} {R : β → β' → Prop} (x : Except MappingError α) {f : α → β}
    {g : α → β'} (h : ∀ a, R (f a) (g a)) :
    Related R (ofExcept (do return f (← x))) (ofExcept (do return g (← x))) := by
  intro l l' b b' l₁ l₁' hb hb'
  cases x with
  | error e => exact nomatch hb
  | ok a =>
    cases hb
    cases hb'
    exact h a

@[simp] theorem run_nextBuild :
    nextBuild.run l = (.ok l.builds, { l with builds := l.builds + 1 }) := rfl

@[simp] theorem run_nextAlias :
    nextAlias.run l = (.ok l.nextAlias, { l with nextAlias := l.nextAlias + 1 }) := rfl

theorem run_serialize (slot : AdapterSlot) (a : Adapter) (v : Value) :
    (serialize slot a v).run l =
      (a.serialize (l.history slot) v, l.record slot (.serialize v)) := rfl

theorem run_deserialize (slot : AdapterSlot) (a : Adapter) (v : Value) :
    (deserialize slot a v).run l =
      (a.deserialize (l.history slot) v, l.record slot (.deserialize v)) := rfl

end Mapping
end TableMapping
