import TableMapping.Proofs.Runs
import TableMapping.Session.Operation

/-!
# What a computation in a session adds to its trace

A computation answers or fails, and in both cases leaves a state.  The first section says what
each single step leaves.  The second is about whole computations.

* `Trail es s t`: between two states exactly the events `es` have happened, and definitions and
  prepared models are as they were.
* `Leaves x P`: every run of `x` is a trail, and `P` holds of its answer and its events.
* `leaves_bind`: what a sequence leaves, from what its parts leave.

Nothing here is about preparations; the steps that change the prepared models or the definitions
have no trail.
-/

namespace TableMapping

/-- A statement was sent for a purpose. -/
def Event.SentFor {κ : Type} (purpose : Purpose κ) : Event κ → Prop
  | .sent p _ _ => p = purpose
  | _ => False

theorem Event.sentFor_iff {κ : Type} {purpose : Purpose κ} {e : Event κ} :
    e.SentFor purpose ↔ ∃ kind st, e = .sent purpose kind st := by
  constructor
  · cases e with
    | sent p kind st =>
      rintro rfl
      exact ⟨kind, st, rfl⟩
    | _ => exact False.elim
  · rintro ⟨kind, st, rfl⟩
    rfl

namespace Session

open Runs

variable {σ κ : Type} {Obj : Models κ} {α β : Type} {s t u : SessionState σ Obj}

/-! ## Single steps -/

theorem run_note (e : Event κ) :
    (note e : Session σ Obj Unit).run s = (.ok (), { s with trace := s.trace ++ [e] }) := rfl

theorem run_mapping (x : Mapping α) :
    (mapping x : Session σ Obj α).run s =
      ((x.run s.ledger).1, { s with ledger := (x.run s.ledger).2 }) := rfl

theorem run_askUpgrader (upgrader : Upgrader σ) (u : Upgrade) :
    (askUpgrader upgrader u : Session σ Obj _).run s =
      (.ok (upgrader u s.engine).1, { s with engine := (upgrader u s.engine).2 }) := rfl

theorem run_markPrepared (k : ModelKey κ) :
    (markPrepared k : Session σ Obj Unit).run s =
      (.ok (), { s with prepared := k :: s.prepared, trace := s.trace ++ [.prepared k] }) := rfl

/-- The state that a statement leaves, whatever the engine answers. -/
def served (s : SessionState σ Obj) (purpose : Purpose κ) (kind : StatementKind)
    (statement : Statement) (engine : σ) : SessionState σ Obj :=
  { s with engine := engine, trace := s.trace ++ [.sent purpose kind statement] }

theorem run_classified (table : String) (x : Session σ Obj α) :
    (classified table x).run s = ((x.run s).1.mapError (·.classify table), (x.run s).2) := by
  unfold classified
  rw [ExceptT.run_mk]
  rcases x.run s with ⟨e | a, t⟩ <;> rfl

/-- A statement is noted before the engine is asked; a failure is classified. -/
theorem run_send {purpose : Purpose κ} {kind : StatementKind} {table : String}
    {statement : Statement} {request : Statement → σ → Except MappingError α × σ}
    {b : Except MappingError α} {g : σ} (h : request statement s.engine = (b, g)) :
    (send purpose kind table statement request : Session σ Obj α).run s =
      (b.mapError (·.classify table), served s purpose kind statement g) := by
  have hask : (ask (request statement) : Session σ Obj α).run
      { s with trace := s.trace ++ [.sent purpose kind statement] } =
        (b, served s purpose kind statement g) := by
    show ((request statement s.engine).1, _) = _
    rw [h]
    rfl
  rw [send, run_bind_ok (run_note _), run_classified, hask]

theorem run_runQuery {env : Environment σ Obj} {statement : Statement} {rows : List Row} {g : σ}
    (h : env.engine.query statement s.engine = (.ok rows, g)) (purpose : Purpose κ)
    (table : String) :
    (runQuery env purpose table statement).run s =
      (.ok rows, served s purpose .select statement g) := by
  rw [runQuery, run_send h]
  rfl

/-! ## Whole computations -/

/-- Between two states exactly these events have happened.  Definitions and prepared models are
as they were. -/
structure Trail (es : List (Event κ)) (s t : SessionState σ Obj) : Prop where
  trace : t.trace = s.trace ++ es
  prepared : t.prepared = s.prepared
  registry : t.registry = s.registry

theorem Trail.refl (s : SessionState σ Obj) : Trail [] s s :=
  ⟨(List.append_nil _).symm, rfl, rfl⟩

theorem Trail.trans {es fs : List (Event κ)} (h : Trail es s t) (h' : Trail fs t u) :
    Trail (es ++ fs) s u := by
  refine ⟨?_, h'.prepared.trans h.prepared, h'.registry.trans h.registry⟩
  rw [h'.trace, h.trace, List.append_assoc]

/-- Every run adds events to the trace, and `P` holds of the answer and the events. -/
def Leaves (x : Session σ Obj α) (P : Except MappingError α → List (Event κ) → Prop) : Prop :=
  ∀ s, ∃ es, Trail es s (x.run s).2 ∧ P (x.run s).1 es

section Leaves

variable {x : Session σ Obj α} {P : Except MappingError α → List (Event κ) → Prop}

theorem leaves_send {purpose : Purpose κ} {kind : StatementKind} {table : String}
    {statement : Statement} {request : Statement → σ → Except MappingError α × σ}
    (h : ∀ b, P b [.sent purpose kind statement]) :
    Leaves (send purpose kind table statement request : Session σ Obj α) P := by
  intro s
  rw [run_send rfl]
  exact ⟨[.sent purpose kind statement], ⟨rfl, rfl, rfl⟩, h _⟩

/-- A sequence leaves the events of its parts, up to the first part that fails. -/
theorem leaves_bind {f : α → Session σ Obj β}
    {Q : α → Except MappingError β → List (Event κ) → Prop}
    {R : Except MappingError β → List (Event κ) → Prop}
    (hx : Leaves x P) (hf : ∀ a, Leaves (f a) (Q a))
    (herror : ∀ e es, P (.error e) es → R (.error e) es)
    (hok : ∀ a es b fs, P (.ok a) es → Q a b fs → R b (es ++ fs)) : Leaves (x >>= f) R := by
  intro s
  obtain ⟨es, htrail, hes⟩ := hx s
  rcases h : x.run s with ⟨b, t⟩
  rw [h] at htrail hes
  cases b with
  | error e =>
    rw [run_bind_error h]
    exact ⟨es, htrail, herror e es hes⟩
  | ok a =>
    rw [run_bind_ok h]
    obtain ⟨fs, htrail', hfs⟩ := hf a t
    exact ⟨es ++ fs, htrail.trans htrail', hok a es _ fs hes hfs⟩

theorem leaves_discard {P : Except MappingError Unit → List (Event κ) → Prop}
    (hx : Leaves x fun b es => P (b.map fun _ => ()) es) : Leaves (discard x) P := by
  intro s
  rw [run_discard]
  exact hx s

end Leaves

end Session
end TableMapping
