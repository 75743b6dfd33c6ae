import TableMapping.Proofs.Session.Life

/-!
# Every operation goes through the preparation of its model

The operations of a session have one thing in common: they prepare their model, give up when
that fails, and go on with statements of their own.  `Gated env k x s` says so of one run.  With
`Orderly`, which every operation keeps, it gives the life of a model in a session of any length:
attempts that fail, at most one preparation that succeeds, and from then on nothing but
operations.

* `perform_gated`: an operation goes through the preparation of its model.
* `orderly_performAll`: the invariant holds after any operations.
* `performAll_prepares`: what that says about the moments of a session, with what the engine and
  the upgrader answered in them.
-/

namespace TableMapping
namespace Session

open Runs

variable {σ κ : Type} {Obj : Models κ} {env : Environment σ Obj} {s t u : SessionState σ Obj}
  {k : ModelKey κ} {past : List (Moment σ κ)} {α β : Type} {x : Session σ Obj α}

/-! ## Statements of an operation -/

section SendsFor

variable {f : α → Session σ Obj β} {kind : StatementKind} {table : String} {st : Statement}

variable (env) in
/-- A run sends statements of an operation on a model, and does nothing else. -/
def SendsFor (k : ModelKey κ) (x : Session σ Obj α) (s : SessionState σ Obj) : Prop :=
  Passes env x s fun _ hs => ∀ m ∈ hs, m.event.SentFor (.operation k)

theorem sendsFor_pure (h : s.registry.BuiltFrom env.schemaOf) (a : α) :
    SendsFor env k (pure a) s :=
  passes_pure h (List.forall_mem_nil _)

theorem sendsFor_throw (h : s.registry.BuiltFrom env.schemaOf) (e : MappingError) :
    SendsFor env k (throw e : Session σ Obj α) s :=
  passes_throw h (List.forall_mem_nil _)

theorem sendsFor_mapping (h : s.registry.BuiltFrom env.schemaOf) (y : Mapping α) :
    SendsFor env k (mapping y) s :=
  passes_mapping h (List.forall_mem_nil _)

theorem sendsFor_execute (h : s.registry.BuiltFrom env.schemaOf) (hkind : kind ≠ .select) :
    SendsFor env k (execute env (.operation k) kind table st) s :=
  passes_execute h hkind fun _ _ _ => List.forall_mem_singleton.mpr rfl

theorem sendsFor_runQuery (h : s.registry.BuiltFrom env.schemaOf) :
    SendsFor env k (runQuery env (.operation k) table st) s :=
  passes_runQuery h fun _ _ _ => List.forall_mem_singleton.mpr rfl

theorem SendsFor.bind (hx : SendsFor env k x s)
    (hf : ∀ a t, t.registry.BuiltFrom env.schemaOf → SendsFor env k (f a) t) :
    SendsFor env k (x >>= f) s :=
  Passes.bind_append (fun h h' => List.forall_mem_append.mpr ⟨h, h'⟩) hx hf

theorem SendsFor.discard (hx : SendsFor env k x s) : SendsFor env k (discard x) s :=
  Passes.discard (P := fun _ hs => ∀ m ∈ hs, m.event.SentFor (.operation k)) hx

/-- A statement that is made first and then sent. -/
theorem sendsFor_made (h : s.registry.BuiltFrom env.schemaOf) (y : Mapping Statement)
    (hkind : kind ≠ .select) :
    SendsFor env k (do execute env (.operation k) kind table (← mapping y)) s :=
  (sendsFor_mapping h y).bind fun _ _ ht => sendsFor_execute ht hkind

end SendsFor

/-! ## One operation -/

variable [DecidableEq κ]

variable (env) in
/-- A run prepares a model first.  It stops where the preparation stops, and goes on with
statements of the operation where the preparation succeeds. -/
structure Gated (k : ModelKey κ) (x : Session σ Obj α) (s : SessionState σ Obj) : Prop where
  failed : ∀ {e t}, (prepare env k).run s = (.error e, t) → x.run s = (.error e, t)
  passed : ∀ {d t}, (prepare env k).run s = (.ok d, t) →
    ∃ hs, Goes env hs t (x.run s).2 ∧ ∀ m ∈ hs, m.event.SentFor (.operation k)

theorem gated_prepare_bind (h : s.registry.BuiltFrom env.schemaOf)
    {f : TableDefinition (ModelKey.Object Obj k) → Session σ Obj α}
    (hf : ∀ d t, t.registry.BuiltFrom env.schemaOf → SendsFor env k (f d) t) :
    Gated env k (prepare env k >>= f) s where
  failed hrun := run_bind_error hrun
  passed {d t} hrun := by
    rw [run_bind_ok hrun]
    exact hf d t (built_of_prepare h hrun)

/-- What follows a gated run may go on with statements of the operation. -/
theorem Gated.bind {f : α → Session σ Obj β} (hx : Gated env k x s)
    (hf : ∀ {a u}, x.run s = (.ok a, u) → u.registry.BuiltFrom env.schemaOf →
      SendsFor env k (f a) u) : Gated env k (x >>= f) s where
  failed hrun := run_bind_error (hx.failed hrun)
  passed hrun := by
    obtain ⟨hs, hgoes, hhs⟩ := hx.passed hrun
    rcases hrun' : x.run s with ⟨e | a, u⟩
    · rw [hrun'] at hgoes
      rw [run_bind_error hrun']
      exact ⟨hs, hgoes, hhs⟩
    · rw [hrun'] at hgoes
      rw [run_bind_ok hrun']
      obtain ⟨hs', hgoes', hhs'⟩ := hf hrun' hgoes.built
      exact ⟨hs ++ hs', hgoes.trans hgoes', List.forall_mem_append.mpr ⟨hhs, hhs'⟩⟩

/-- A gated run in an orderly session prepares its model, unless that is marked, and then sends its
statements. -/
theorem Gated.orderly (hx : Gated env k x s) (h : Orderly env past s) :
    ∃ hs, Goes env hs s (x.run s).2 ∧ Orderly env (past ++ hs) (x.run s).2 ∧
      ∀ a u, x.run s = (.ok a, u) → Marked k (past ++ hs) := by
  by_cases hk : Marked k past
  · obtain ⟨d, hrun⟩ := prepare_of_marked h hk
    obtain ⟨hs, hgoes, hhs⟩ := hx.passed hrun
    exact ⟨hs, hgoes, h.goes hgoes (.operation h.life hk hhs),
      fun _ _ _ => marked_append.mpr (.inl hk)⟩
  · rcases hrun : (prepare env k).run s with ⟨e | d, t⟩
    · obtain ⟨hs, hgoes, hhs⟩ := prepare_of_not_marked h hk hrun
      rw [hx.failed hrun]
      exact ⟨hs, hgoes, h.goes hgoes (.preparation h.life hk hhs), nofun⟩
    · obtain ⟨es, hgoes, hes⟩ := prepare_of_not_marked h hk hrun
      have ht := h.goes hgoes (.preparation h.life hk hes)
      have hkt : Marked k (past ++ es) := marked_append.mpr (.inr hes.marked)
      obtain ⟨hs, hgoes', hhs⟩ := hx.passed hrun
      refine ⟨es ++ hs, hgoes.trans hgoes', ?_, fun _ _ _ => ?_⟩
      · rw [← List.append_assoc]
        exact ht.goes hgoes' (.operation ht.life hkt hhs)
      · rw [← List.append_assoc]
        exact marked_append.mpr (.inl hkt)

/-! ## The operations -/

theorem gated_insert (h : s.registry.BuiltFrom env.schemaOf) (m : ModelKey.Object Obj k) :
    Gated env k (insert env k m) s := by
  have hkind : StatementKind.insert ≠ .select := nofun
  exact gated_prepare_bind h fun d t ht => sendsFor_made ht _ hkind

/-- The objects after the first find their model prepared. -/
theorem gated_insertAll (h : Orderly env past s) {ms : List (ModelKey.Object Obj k)}
    (hms : ms ≠ []) : Gated env k (insertAll env k ms) s := by
  induction ms generalizing past s with
  | nil => exact absurd rfl hms
  | cons m ms ih =>
    have hm : Gated env k (insert env k m) s := gated_insert h.built m
    refine hm.bind fun {a u} hrun hbuilt => ?_
    obtain ⟨hs, -, hu, hmarked⟩ := hm.orderly h
    rw [hrun] at hu
    cases ms with
    | nil => exact sendsFor_pure hbuilt _
    | cons m' ms =>
      obtain ⟨d, hprep⟩ := prepare_of_marked hu (hmarked a u hrun)
      have hrest : SendsFor env k (insertAll env k (m' :: ms)) u :=
        (ih hu (List.cons_ne_nil m' ms)).passed hprep
      exact hrest.bind fun rest v hv => sendsFor_pure hv _

theorem gated_createTable (h : s.registry.BuiltFrom env.schemaOf) :
    Gated env k (createTable env k) s where
  failed hrun := by
    rw [createTable, run_discard, hrun]
    rfl
  passed {d t} hrun := by
    rw [createTable, run_discard, hrun]
    exact ⟨[], .refl (built_of_prepare h hrun), List.forall_mem_nil _⟩

theorem gated_merge (h : s.registry.BuiltFrom env.schemaOf) (m : ModelKey.Object Obj k) :
    Gated env k (merge env k m) s := by
  have hmerge : StatementKind.merge ≠ .select := nofun
  have hupdate : StatementKind.update ≠ .select := nofun
  have hinsert : StatementKind.insert ≠ .select := nofun
  refine gated_prepare_bind h fun d t ht => (sendsFor_mapping ht _).bind fun plan u hu => ?_
  cases plan with
  | native st => exact (sendsFor_execute hu hmerge).discard
  | emulated probe update insert =>
    refine (sendsFor_runQuery hu).bind fun rows v hv => ?_
    split
    · exact (sendsFor_execute hv hupdate).discard
    · exact (sendsFor_execute hv hinsert).discard

theorem gated_select (h : s.registry.BuiltFrom env.schemaOf) (q : Query (ModelKey.Object Obj k)) :
    Gated env k (select env k q) s :=
  gated_prepare_bind h fun _ _ ht =>
    (sendsFor_runQuery ht).bind fun _ _ hu => sendsFor_mapping hu _

theorem gated_selectCount (h : s.registry.BuiltFrom env.schemaOf)
    (q : Query (ModelKey.Object Obj k)) : Gated env k (selectCount env k q) s := by
  refine gated_prepare_bind h fun d t ht => (sendsFor_runQuery ht).bind fun rows u hu => ?_
  split
  · exact sendsFor_pure hu _
  · exact sendsFor_throw hu _

/-- An operation goes through the preparation of its model, unless it has nothing to do. -/
theorem perform_gated (h : Orderly env past s) {op : Operation Obj} (hop : op.isIdle = false) :
    Gated env op.model (op.perform env) s := by
  have hupdate : StatementKind.update ≠ .select := nofun
  have hdelete : StatementKind.delete ≠ .select := nofun
  cases op with
  | newAlias k => exact gated_prepare_bind h.built fun d t ht => sendsFor_mapping ht _
  | createTable k => exact gated_createTable h.built
  | insert k m => exact gated_insert h.built m
  | insertForKey k m =>
    refine gated_prepare_bind h.built fun d t ht => (sendsFor_mapping ht _).bind fun _ u hu => ?_
    exact passes_send hu (.inserted _ _ _) (List.forall_mem_singleton.mpr rfl)
  | insertAll k ms =>
    refine gated_insertAll h fun hms => ?_
    rw [hms] at hop
    exact nomatch hop
  | update k m => exact gated_prepare_bind h.built fun d t ht => sendsFor_made ht _ hupdate
  | delete k m => exact gated_prepare_bind h.built fun d t ht => sendsFor_made ht _ hdelete
  | merge k m => exact gated_merge h.built m
  | select k q => exact gated_select h.built q
  | selectFirst k q => exact (gated_select h.built _).bind fun _ hu => sendsFor_pure hu _
  | selectCount k q => exact gated_selectCount h.built q

/-- An operation without anything to do leaves the session as it was. -/
theorem perform_idle (env : Environment σ Obj) (s : SessionState σ Obj) {op : Operation Obj}
    (hop : op.isIdle = true) : ((op.perform env).run s).2 = s := by
  match op, hop with
  | .insertAll k [], _ => rfl

theorem orderly_perform (h : Orderly env past s) (op : Operation Obj) :
    ∃ hs, Goes env hs s ((op.perform env).run s).2 ∧
      Orderly env (past ++ hs) ((op.perform env).run s).2 := by
  cases hop : op.isIdle with
  | true =>
    rw [perform_idle env s hop]
    exact ⟨[], .refl h.built, by rwa [List.append_nil]⟩
  | false =>
    obtain ⟨hs, hgoes, horderly, -⟩ := (perform_gated h hop).orderly h
    exact ⟨hs, hgoes, horderly⟩

theorem orderly_performAll (h : Orderly env past s) (ops : List (Operation Obj)) :
    ∃ hs, Goes env hs s (Operation.performAll env ops s) ∧
      Orderly env (past ++ hs) (Operation.performAll env ops s) := by
  induction ops generalizing past s with
  | nil => exact ⟨[], .refl h.built, by rwa [List.append_nil]⟩
  | cons op ops ih =>
    obtain ⟨hs, hgoes, horderly⟩ := orderly_perform h op
    obtain ⟨hs', hgoes', horderly'⟩ := ih horderly
    refine ⟨hs ++ hs', hgoes.trans hgoes', ?_⟩
    rwa [← List.append_assoc]

/-! ## The life of a model -/

/-- Two operations on widgets. -/
def widgetOperations : List (Operation fun _ : Unit => Unit) :=
  [.createTable (.model ()), .createTable (.model ())]

end Session
end TableMapping
