import TableMapping.Proofs.Session.Definition

/-!
# Sessions with the states of their engine

The trace of a session tells what happened; what the engine made of it is in the states of the
engine.  A history has both: each of its moments is an event with the states of the engine around
it, and each moment begins where the one before ended.

* `Moment.Occurs env m`: the engine and the upgrader of `env` take the event of `m` from the one
  state to the other.
* `Course env hs g g'`: the moments `hs` lead from one state of the engine to another.
* `Goes env hs s t`: between two states of a session exactly the moments `hs` have happened.  The
  models that became prepared are those that are marked in `hs`, and all definitions come from the
  schemas of the application.
* `Passes env x s P`: the run of `x` from `s` goes through moments that satisfy `P`, together with
  its answer.  There is one rule for each step of a session, and `Passes.bind` puts them together.
-/

namespace TableMapping

/-- Something that happened in a session, and the states of the engine around it. -/
structure Moment (σ κ : Type) where
  event : Event κ
  before : σ
  after : σ

/-- Neither a statement nor an answer of the upgrader. -/
def Event.IsNote {κ : Type} : Event κ → Prop
  | .sent .. => False
  | .upgraded .. => False
  | _ => True

/-- Every definition of a registry is the one that its schema defines. -/
def Registry.BuiltFrom {κ : Type} {Obj : Models κ} (schemaOf : (k : κ) → ModelSchema (Obj k))
    (r : Registry Obj) : Prop :=
  ∀ k stored, r.find? k = some stored → (schemaOf k).define stored.build = .ok stored.definition

namespace Registry

variable {κ : Type} {Obj : Models κ} {schemaOf : (k : κ) → ModelSchema (Obj k)} {r : Registry Obj}

theorem builtFrom_empty : (Registry.empty : Registry Obj).BuiltFrom schemaOf := nofun

theorem BuiltFrom.insert [DecidableEq κ] (h : r.BuiltFrom schemaOf) {k : κ}
    {stored : Stored (Obj k)} (hstored : (schemaOf k).define stored.build = .ok stored.definition) :
    (r.insert k stored).BuiltFrom schemaOf := by
  intro k' stored' hfind
  rcases find?_insert_cases hfind with hfind | heq
  · exact h k' stored' hfind
  · cases heq
    exact hstored

end Registry

namespace Session

open Runs

variable {σ κ : Type} {Obj : Models κ} {α β : Type} {env : Environment σ Obj}
  {g g' g'' : σ} {hs hs' : List (Moment σ κ)} {s t u : SessionState σ Obj}

/-! ## Moments and courses -/

/-- A model became prepared. -/
def Marked (k : ModelKey κ) (hs : List (Moment σ κ)) : Prop :=
  .prepared k ∈ hs.map (·.event)

theorem not_marked_nil (k : ModelKey κ) : ¬ Marked k ([] : List (Moment σ κ)) :=
  List.not_mem_nil

theorem marked_append {k : ModelKey κ} : Marked k (hs ++ hs') ↔ Marked k hs ∨ Marked k hs' := by
  simp [Marked]

theorem not_marked_of_forall {k : ModelKey κ} (h : ∀ m ∈ hs, m.event ≠ .prepared k) :
    ¬ Marked k hs := by
  intro hk
  obtain ⟨m, hm, heq⟩ := List.mem_map.mp hk
  exact h m hm heq

variable (env) in
/-- The engine takes a statement from one state to the next, and the upgrader an upgrade; nothing
else that happens concerns them. -/
inductive Occurs : Moment σ κ → Prop
  | executed (p : Purpose κ) {kind : StatementKind} (hkind : kind ≠ .select) (st : Statement)
      (g : σ) : Occurs ⟨.sent p kind st, g, (env.engine.execute st g).2⟩
  | inserted (p : Purpose κ) (st : Statement) (g : σ) :
      Occurs ⟨.sent p .insert st, g, (env.engine.insert st g).2⟩
  | queried (p : Purpose κ) (st : Statement) (g : σ) :
      Occurs ⟨.sent p .select st, g, (env.engine.query st g).2⟩
  | upgraded {upgrader : Upgrader σ} (h : env.upgrader = some upgrader) (k : ModelKey κ)
      (u : Upgrade) (g : σ) : Occurs ⟨.upgraded k u (upgrader u g).1, g, (upgrader u g).2⟩
  | noted {e : Event κ} (he : e.IsNote) (g : σ) : Occurs ⟨e, g, g⟩

variable (env) in
/-- Moments that follow each other, from one state of the engine to another. -/
inductive Course : List (Moment σ κ) → σ → σ → Prop
  | nil (g : σ) : Course [] g g
  | cons {m : Moment σ κ} {hs : List (Moment σ κ)} {g : σ} (hm : Occurs env m)
      (h : Course hs m.after g) : Course (m :: hs) m.before g

theorem Course.append (h : Course env hs g g') (h' : Course env hs' g' g'') :
    Course env (hs ++ hs') g g'' := by
  induction h with
  | nil => exact h'
  | cons hm _ ih => exact .cons hm (ih h')

theorem Course.of_append (h : Course env (hs ++ hs') g g'') :
    ∃ g', Course env hs g g' ∧ Course env hs' g' g'' := by
  induction hs generalizing g with
  | nil => exact ⟨g, .nil g, h⟩
  | cons m hs ih =>
    cases h with
    | cons hm h =>
      obtain ⟨g', h, h'⟩ := ih h
      exact ⟨g', .cons hm h, h'⟩

theorem course_singleton {m : Moment σ κ} (hm : Occurs env m) :
    Course env [m] m.before m.after := .cons hm (.nil _)

theorem Course.of_cons {m : Moment σ κ} (h : Course env (m :: hs) g g') :
    g = m.before ∧ Course env hs m.after g' := by
  cases h with
  | cons _ h => exact ⟨rfl, h⟩

theorem Course.of_singleton {e : Event κ} {g₁ g₂ : σ} (h : Course env [⟨e, g₁, g₂⟩] g g') :
    g = g₁ ∧ g' = g₂ := by
  obtain ⟨hg, hrest⟩ := h.of_cons
  cases hrest with
  | nil => exact ⟨hg, rfl⟩

theorem course_warned (notices : List Notice) (g : σ) :
    Course env (notices.map fun n => ⟨.warned n, g, g⟩) g g := by
  induction notices with
  | nil => exact .nil g
  | cons n notices ih => exact .cons (.noted (e := .warned n) trivial g) ih

variable (env) in
/-- Between two states of a session exactly these moments have happened.  The models that are
marked in them became prepared, and have a definition; no definition was lost, and all come from
the schemas of the application. -/
structure Goes (hs : List (Moment σ κ)) (s t : SessionState σ Obj) : Prop where
  trace : t.trace = s.trace ++ hs.map (·.event)
  course : Course env hs s.engine t.engine
  prepared : ∀ k, k ∈ t.prepared ↔ k ∈ s.prepared ∨ Marked k hs
  defined : ∀ k, Marked k hs → ∃ stored, t.registry.find? k = some stored
  kept : s.registry.KeptIn t.registry
  built : t.registry.BuiltFrom env.schemaOf

/-- A trail without marks, along which the engine has gone from state to state. -/
theorem goes_of_trail (h : s.registry.BuiltFrom env.schemaOf)
    (htrail : Trail (hs.map (·.event)) s t) (hcourse : Course env hs s.engine t.engine)
    (hnone : ∀ k, ¬ Marked k hs) : Goes env hs s t where
  trace := htrail.trace
  course := hcourse
  prepared k := by simp [htrail.prepared, hnone k]
  defined k hk := absurd hk (hnone k)
  kept := by
    rw [htrail.registry]
    exact .refl _
  built := by
    rw [htrail.registry]
    exact h

theorem Goes.refl (h : s.registry.BuiltFrom env.schemaOf) : Goes env [] s s :=
  goes_of_trail h (.refl s) (.nil _) not_marked_nil

theorem Goes.trans (h : Goes env hs s t) (h' : Goes env hs' t u) : Goes env (hs ++ hs') s u where
  trace := by rw [h'.trace, h.trace, List.append_assoc, List.map_append]
  course := h.course.append h'.course
  prepared k := by rw [h'.prepared, h.prepared, marked_append, or_assoc]
  defined k hk := by
    rcases marked_append.mp hk with hk | hk
    · obtain ⟨stored, hfind⟩ := h.defined k hk
      exact ⟨stored, h'.kept k stored hfind⟩
    · exact h'.defined k hk
  kept := h.kept.trans h'.kept
  built := h'.built

/-- Where no model became prepared, the prepared models are as they were. -/
theorem Goes.prepared_iff (h : Goes env hs s t) {k : ModelKey κ} (hk : ¬ Marked k hs) :
    k ∈ t.prepared ↔ k ∈ s.prepared := by
  rw [h.prepared, or_iff_left hk]

/-! ## Runs -/

variable (env) in
/-- The run from a state goes through moments that satisfy `P`, together with the answer. -/
def Passes (x : Session σ Obj α) (s : SessionState σ Obj)
    (P : Except MappingError α → List (Moment σ κ) → Prop) : Prop :=
  ∃ hs, Goes env hs s (x.run s).2 ∧ P (x.run s).1 hs

variable {x : Session σ Obj α} {P Q : Except MappingError α → List (Moment σ κ) → Prop}

theorem Passes.mono (h : Passes env x s P) (hP : ∀ b hs, P b hs → Q b hs) : Passes env x s Q := by
  obtain ⟨hs, hgoes, hhs⟩ := h
  exact ⟨hs, hgoes, hP _ hs hhs⟩

theorem Passes.of_run_eq {y : Session σ Obj α} (h : Passes env y s P) (heq : x.run s = y.run s) :
    Passes env x s P := by
  rw [Passes, heq]
  exact h

theorem passes_of_run {b : Except MappingError α} (hrun : x.run s = (b, t))
    (hgoes : Goes env hs s t) (hhs : P b hs) : Passes env x s P := by
  rw [Passes, hrun]
  exact ⟨hs, hgoes, hhs⟩

theorem passes_pure (h : s.registry.BuiltFrom env.schemaOf) {a : α} (ha : P (.ok a) []) :
    Passes env (pure a) s P :=
  ⟨[], .refl h, ha⟩

theorem passes_throw (h : s.registry.BuiltFrom env.schemaOf) {e : MappingError}
    (he : P (.error e) []) : Passes env (throw e) s P :=
  ⟨[], .refl h, he⟩

theorem Passes.goes (h : Passes env x s P) {b : Except MappingError α} (hrun : x.run s = (b, t)) :
    ∃ hs, Goes env hs s t ∧ P b hs := by
  rw [Passes, hrun] at h
  exact h

/-- A sequence goes through the moments of its first part, and if that answers through those of
its second part, which begins in the state that the first part left. -/
theorem Passes.bind (hx : Passes env x s P) {f : α → Session σ Obj β}
    {R : Except MappingError β → List (Moment σ κ) → Prop}
    (herror : ∀ e hs, P (.error e) hs → R (.error e) hs)
    (hf : ∀ a t hs, x.run s = (.ok a, t) → Goes env hs s t → P (.ok a) hs →
      Passes env (f a) t fun b hs' => R b (hs ++ hs')) : Passes env (x >>= f) s R := by
  obtain ⟨hs, hgoes, hhs⟩ := hx
  rcases hrun : x.run s with ⟨e | a, t⟩
  · rw [hrun] at hgoes hhs
    exact passes_of_run (run_bind_error hrun) hgoes (herror e hs hhs)
  · rw [hrun] at hgoes hhs
    obtain ⟨hs', hgoes', hhs'⟩ := hf a t hs hrun hgoes hhs
    exact ⟨hs ++ hs', run_bind_ok (f := f) hrun ▸ hgoes.trans hgoes',
      run_bind_ok (f := f) hrun ▸ hhs'⟩

/-- What holds of the moments of two computations, and of moments one after the other, holds of
the moments of the sequence. -/
theorem Passes.bind_append {f : α → Session σ Obj β} {R : List (Moment σ κ) → Prop}
    (happend : ∀ {hs hs'}, R hs → R hs' → R (hs ++ hs')) (hx : Passes env x s fun _ hs => R hs)
    (hf : ∀ a t, t.registry.BuiltFrom env.schemaOf → Passes env (f a) t fun _ hs => R hs) :
    Passes env (x >>= f) s fun _ hs => R hs := by
  refine hx.bind (fun _ _ h => h) fun a t hs _ hgoes hhs => ?_
  exact (hf a t hgoes.built).mono fun _ _ hhs' => happend hhs hhs'

theorem Passes.discard {P : Except MappingError Unit → List (Moment σ κ) → Prop}
    (hx : Passes env x s fun b hs => P (b.map fun _ => ()) hs) :
    Passes env (discard x) s P := by
  rw [Passes, run_discard]
  exact hx

/-! ## Steps -/

theorem passes_mapping (h : s.registry.BuiltFrom env.schemaOf) {y : Mapping α}
    (hy : P (y.run s.ledger).1 []) : Passes env (mapping y) s P :=
  ⟨[], goes_of_trail h ⟨(List.append_nil _).symm, rfl, rfl⟩ (.nil _) not_marked_nil, hy⟩

theorem passes_warn (h : s.registry.BuiltFrom env.schemaOf) {notices : List Notice}
    {P : Except MappingError Unit → List (Moment σ κ) → Prop}
    (hP : P (.ok ()) (notices.map fun n => ⟨.warned n, s.engine, s.engine⟩)) :
    Passes env (warn notices) s P := by
  refine ⟨_, goes_of_trail h ⟨?_, rfl, rfl⟩ (course_warned notices s.engine) fun k => ?_, hP⟩
  · rw [List.map_map]
    rfl
  · exact not_marked_of_forall (by simp)

variable {p : Purpose κ} {kind : StatementKind} {table : String} {st : Statement}

/-- A statement that the engine has answered. -/
theorem goes_served (h : s.registry.BuiltFrom env.schemaOf) {g : σ}
    (hoccurs : Occurs env ⟨.sent p kind st, s.engine, g⟩) :
    Goes env [⟨.sent p kind st, s.engine, g⟩] s (served s p kind st g) :=
  goes_of_trail h ⟨rfl, rfl, rfl⟩ (course_singleton hoccurs) fun _ =>
    not_marked_of_forall (by simp)

theorem passes_send (h : s.registry.BuiltFrom env.schemaOf)
    {request : Statement → σ → Except MappingError α × σ}
    (hoccurs : Occurs env ⟨.sent p kind st, s.engine, (request st s.engine).2⟩)
    (hP : P ((request st s.engine).1.mapError (·.classify table))
      [⟨.sent p kind st, s.engine, (request st s.engine).2⟩]) :
    Passes env (send p kind table st request) s P :=
  passes_of_run (run_send rfl) (goes_served h hoccurs) hP

theorem passes_execute (h : s.registry.BuiltFrom env.schemaOf) (hkind : kind ≠ .select)
    {P : Except MappingError UInt64 → List (Moment σ κ) → Prop}
    (hP : ∀ b g, env.engine.execute st s.engine = (b, g) →
      P (b.mapError (·.classify table)) [⟨.sent p kind st, s.engine, g⟩]) :
    Passes env (execute env p kind table st) s P :=
  passes_send h (.executed p hkind st s.engine) (hP _ _ rfl)

theorem passes_runQuery (h : s.registry.BuiltFrom env.schemaOf)
    {P : Except MappingError (List Row) → List (Moment σ κ) → Prop}
    (hP : ∀ b g, env.engine.query st s.engine = (b, g) →
      P (b.mapError (·.classify table)) [⟨.sent p .select st, s.engine, g⟩]) :
    Passes env (runQuery env p table st) s P :=
  passes_send h (.queried p st s.engine) (hP _ _ rfl)

theorem passes_upgrade (h : s.registry.BuiltFrom env.schemaOf) {upgrader : Upgrader σ}
    (hupgrader : env.upgrader = some upgrader) {k : ModelKey κ} {u : Upgrade}
    {P : Except MappingError Unit → List (Moment σ κ) → Prop}
    (hP : ∀ answer g, upgrader u s.engine = (answer, g) →
      P (match answer with
          | .error e => .error e
          | .ok true => .ok ()
          | .ok false => .error (.upgradeFailed u.table u.fromVersion u.toVersion))
        [⟨.upgrading k u, s.engine, s.engine⟩, ⟨.upgraded k u answer, s.engine, g⟩]) :
    Passes env (upgrade upgrader k u) s P := by
  have hgoes : Goes env [⟨.upgrading k u, s.engine, s.engine⟩,
      ⟨.upgraded k u (upgrader u s.engine).1, s.engine, (upgrader u s.engine).2⟩] s
      { s with
        engine := (upgrader u s.engine).2
        trace := s.trace ++ [.upgrading k u] ++ [.upgraded k u (upgrader u s.engine).1] } := by
    have hnoted : Occurs env ⟨.upgrading k u, s.engine, s.engine⟩ :=
      .noted (e := .upgrading k u) trivial _
    have hcourse := Course.cons hnoted (course_singleton (.upgraded hupgrader k u s.engine))
    exact goes_of_trail h ⟨List.append_assoc .., rfl, rfl⟩ hcourse fun k' =>
      not_marked_of_forall (by simp)
  have hanswer := hP _ _ rfl
  unfold upgrade
  refine passes_of_run ?_ hgoes hanswer
  rw [run_bind_ok (run_note _), run_bind_ok (run_askUpgrader upgrader u), run_bind_ok (run_note _)]
  rcases (upgrader u s.engine).1 with e | _ | _ <;> rfl

/-- The mark of a model whose definition is known. -/
theorem passes_markPrepared (h : s.registry.BuiltFrom env.schemaOf) {k : ModelKey κ}
    (hk : ∃ stored, s.registry.find? k = some stored)
    {P : Except MappingError Unit → List (Moment σ κ) → Prop}
    (hP : P (.ok ()) [⟨.prepared k, s.engine, s.engine⟩]) : Passes env (markPrepared k) s P := by
  have hnoted : Occurs env ⟨.prepared k, s.engine, s.engine⟩ :=
    .noted (e := .prepared k) trivial _
  refine ⟨_, ⟨rfl, course_singleton hnoted, fun k' => ?_, fun k' hk' => ?_, .refl _, h⟩, hP⟩
  · simp [run_markPrepared, Marked, or_comm]
  · have heq : k' = k := by simpa [Marked] using hk'
    rw [heq]
    exact hk

/-- A definition is looked up or built by its schema, and that is all. -/
theorem passes_definition [DecidableEq κ] (h : s.registry.BuiltFrom env.schemaOf)
    (k : ModelKey κ) : Passes env (definition env k) s fun b hs =>
      hs = [] ∧ ∃ build, (env.schemaOf k).define build = b := by
  cases hfind : s.registry.find? k with
  | some stored =>
    exact passes_of_run (run_definition_of_find? hfind) (.refl h) ⟨rfl, _, h k stored hfind⟩
  | none =>
    cases hd : (env.schemaOf k).define s.ledger.builds with
    | error e =>
      have hrun : (definition env k).run s = (.error e, { s with
          ledger := { s.ledger with builds := s.ledger.builds + 1 } }) := by
        rw [run_definition_of_none hfind, hd]
      have hgoes : Goes env [] s { s with
          ledger := { s.ledger with builds := s.ledger.builds + 1 } } :=
        goes_of_trail h ⟨(List.append_nil _).symm, rfl, rfl⟩ (.nil _) not_marked_nil
      exact passes_of_run hrun hgoes ⟨rfl, _, hd⟩
    | ok d =>
      have hrun : (definition env k).run s = (.ok d, { s with
          ledger := { s.ledger with builds := s.ledger.builds + 1 }
          registry := s.registry.insert k ⟨s.ledger.builds, d⟩ }) := by
        rw [run_definition_of_none hfind, hd]
      refine passes_of_run hrun ⟨(List.append_nil _).symm, .nil _, fun k' => ?_, fun k' hk' => ?_,
        Registry.keptIn_insert hfind _, h.insert hd⟩ ⟨rfl, _, hd⟩
      · simp [not_marked_nil]
      · exact absurd hk' (not_marked_nil k')

end Session
end TableMapping
