import TableMapping.Proofs.Query.Issuing
import TableMapping.Proofs.Session.Creation

/-!
# The aliases of a session

A session runs computations of the mapping on the ledger it shares with the rest of the application,
and nothing else in it touches the ledger.  So a run of the library goes on through a session, with
the aliases that the session issues for the application, for its statements and for its version
checks.

* `Continues env x Q`: a run of the library goes on through `x`, whose answers satisfy `Q`.
* `continues_perform`: it goes on through every operation.
* `continues_performAll`: and through a session of any length.
-/

namespace TableMapping
namespace Session

open Runs

variable {σ κ : Type} {Obj : Models κ} {env : Environment σ Obj} {α β : Type}

variable (env) in
/-- Wherever a run of the library has come to, it goes on through the computation.  Definitions come
from the schemas of the application before and after, and the answers satisfy `Q`. -/
def Continues (x : Session σ Obj α) (Q : α → Prop) : Prop :=
  ∀ s as, s.registry.BuiltFrom env.schemaOf → LibraryRun s.ledger as →
    ∃ bs, LibraryRun (x.run s).2.ledger (as ++ bs) ∧
      (x.run s).2.registry.BuiltFrom env.schemaOf ∧ ∀ a, (x.run s).1 = .ok a → Q a

/-! ## Steps -/

section Steps

variable {x : Session σ Obj α} {Q : α → Prop} {R : β → Prop}

/-- What touches neither the ledger nor the definitions is no step of the library. -/
theorem continues_of_still (hledger : ∀ s, (x.run s).2.ledger = s.ledger)
    (hregistry : ∀ s, (x.run s).2.registry = s.registry)
    (hQ : ∀ s a, (x.run s).1 = .ok a → Q a) : Continues env x Q := by
  intro s as hbuilt hrun
  refine ⟨[], ?_, ?_, hQ s⟩
  · rw [List.append_nil, hledger]
    exact hrun
  · rw [hregistry]
    exact hbuilt

theorem continues_pure {a : α} (ha : Q a) : Continues env (pure a) Q := by
  refine continues_of_still (fun _ => rfl) (fun _ => rfl) fun s b hb => ?_
  cases hb
  exact ha

theorem continues_throw (e : MappingError) : Continues env (throw e) Q :=
  continues_of_still (fun _ => rfl) (fun _ => rfl) fun _ _ hb => nomatch hb

theorem continues_mapping {y : Mapping α} (hy : Accounted y) :
    Continues env (mapping y) fun _ => True := by
  intro s as hbuilt hrun
  obtain ⟨bs, hbs⟩ := hy s.ledger
  exact ⟨bs, hrun.step hbs, hbuilt, fun _ _ => trivial⟩

theorem Continues.bind (hx : Continues env x Q) {f : α → Session σ Obj β}
    (hf : ∀ a, Q a → Continues env (f a) R) : Continues env (x >>= f) R := by
  intro s as hbuilt hrun
  obtain ⟨bs, hrun, hbuilt, hQ⟩ := hx s as hbuilt hrun
  rcases h : x.run s with ⟨e | a, t⟩
  · rw [h] at hrun hbuilt
    rw [run_bind_error h]
    exact ⟨bs, hrun, hbuilt, nofun⟩
  · rw [h] at hrun hbuilt hQ
    rw [run_bind_ok h]
    obtain ⟨cs, hrun, hbuilt, hR⟩ := hf a (hQ a rfl) t _ hbuilt hrun
    exact ⟨bs ++ cs, List.append_assoc .. ▸ hrun, hbuilt, hR⟩

theorem Continues.discard (hx : Continues env x Q) :
    Continues env (discard x) fun _ => True := by
  intro s as hbuilt hrun
  obtain ⟨bs, hrun, hbuilt, -⟩ := hx s as hbuilt hrun
  rw [run_discard]
  exact ⟨bs, hrun, hbuilt, fun _ _ => trivial⟩

theorem continues_send {purpose : Purpose κ} {kind : StatementKind} {table : String}
    {statement : Statement} {request : Statement → σ → Except MappingError α × σ} :
    Continues env (send purpose kind table statement request) fun _ => True := by
  refine continues_of_still (fun s => ?_) (fun s => ?_) fun _ _ _ => trivial
  · rw [run_send rfl]
    rfl
  · rw [run_send rfl]
    rfl

/-- A statement that is made first and then sent. -/
theorem continues_made {purpose : Purpose κ} {kind : StatementKind} {table : String}
    {y : Mapping Statement} (hy : Accounted y) :
    Continues env (do execute env purpose kind table (← mapping y)) fun _ => True :=
  (continues_mapping hy).bind fun _ _ => continues_send

end Steps

/-! ## Preparation -/

variable {k : ModelKey κ}

theorem continues_warn (notices : List Notice) : Continues env (warn notices) fun _ => True :=
  continues_of_still (fun _ => rfl) (fun _ => rfl) fun _ _ _ => trivial

theorem continues_createIndex (table : String) (st : Statement) :
    Continues env (createIndex env k table st) fun _ => True :=
  continues_of_still (fun _ => by rw [snd_run_createIndex]; rfl)
    (fun _ => by rw [snd_run_createIndex]; rfl) fun _ _ _ => trivial

theorem continues_createIndexes (table : String) (sts : List Statement) :
    Continues env (createIndexes env k table sts) fun _ => True := by
  induction sts with
  | nil => exact continues_pure trivial
  | cons st sts ih => exact (continues_createIndex table st).bind fun _ _ => ih

theorem continues_createIfAsked (d : TableDefinition (ModelKey.Object Obj k)) :
    Continues env (createIfAsked env k d) fun _ => True := by
  unfold createIfAsked
  split
  · exact (continues_warn _).bind fun _ _ => continues_send.discard.bind fun _ _ =>
      continues_createIndexes _ _
  · exact continues_pure trivial

theorem continues_upgrade (upgrader : Upgrader σ) (u : Upgrade) :
    Continues env (upgrade upgrader k u) fun _ => True := by
  have hstep : ∀ s : SessionState σ Obj,
      ((upgrade upgrader k u).run s).2.ledger = s.ledger ∧
        ((upgrade upgrader k u).run s).2.registry = s.registry := by
    intro s
    unfold upgrade
    rw [run_bind_ok (run_note _), run_bind_ok (run_askUpgrader upgrader u),
      run_bind_ok (run_note _)]
    rcases (upgrader u s.engine).1 with e | _ | _ <;> exact ⟨rfl, rfl⟩
  exact continues_of_still (fun s => (hstep s).1) (fun s => (hstep s).2) fun _ _ _ => trivial

theorem accounted_readRows {M : Type} (v : SelectView M) (rows : List Row) :
    Accounted (readRows v rows) := by
  induction rows generalizing v with
  | nil => exact accounted_pure []
  | cons row rows ih =>
    exact (accounted_ofExcept _).bind fun v =>
      (accounted_copyInto v.definition.blank v.definition v.columns).bind fun _ =>
        (ih v).bind fun _ => accounted_pure _

theorem continues_selectPrepared {M : Type} (purpose : Purpose κ) (d : TableDefinition M)
    (q : Query M) : Continues env (selectPrepared env purpose d q) fun _ => True :=
  continues_send.bind fun rows _ => continues_mapping (accounted_readRows q.view rows)

/-- A look-up of a version names its columns by an alias of its own. -/
theorem accounted_versionQuery {build : Nat} {versions : TableDefinition VersionRecord}
    (hd : VersionRecord.schema.define build = .ok versions) (schema table : String) :
    Accounted (versionQuery versions schema table) :=
  (accounted_materialize hd).bind fun _ => (accounted_ofExcept _).bind fun c =>
    (accounted_compareValue c _ _).bind fun _ => (accounted_ofExcept _).bind fun c =>
      accounted_compareValue c _ _

section Versions

variable {versions : TableDefinition VersionRecord} {build : Nat}
  (hversions : VersionRecord.schema.define build = .ok versions)

include hversions

theorem continues_storedVersion (d : TableDefinition (ModelKey.Object Obj k)) :
    Continues env (storedVersion env k d versions) fun _ => True :=
  (continues_mapping (accounted_versionQuery hversions _ _)).bind fun q _ =>
    (continues_selectPrepared _ versions q).bind fun _ _ => continues_pure trivial

theorem continues_settleVersion (upgrader : Upgrader σ)
    (d : TableDefinition (ModelKey.Object Obj k)) (stored : Option VersionRecord) :
    Continues env (settleVersion env upgrader k d versions stored) fun _ => True := by
  unfold settleVersion
  split
  · exact (continues_made (accounted_insertStatement _ versions _)).discard
  · split
    · exact (continues_upgrade upgrader _).bind fun _ _ =>
        (continues_made (accounted_updateStatement _ _ hversions)).discard
    · split
      · exact continues_warn _
      · exact continues_pure trivial

end Versions

variable [DecidableEq κ]

/-- A definition is the one that its schema defines; a new one takes the number of a build. -/
theorem continues_definition (k : ModelKey κ) :
    Continues env (definition env k) fun d => ∃ build, (env.schemaOf k).define build = .ok d := by
  intro s as hbuilt hrun
  cases hfind : s.registry.find? k with
  | some stored =>
    rw [run_definition_of_find? hfind]
    refine ⟨[], by rwa [List.append_nil], hbuilt, fun d hd => ?_⟩
    cases hd
    exact ⟨stored.build, hbuilt k stored hfind⟩
  | none =>
    have hnext := hrun.step (.nextBuild s.ledger)
    rw [run_definition_of_none hfind]
    cases hd : (env.schemaOf k).define s.ledger.builds with
    | error e => exact ⟨[], hnext, hbuilt, nofun⟩
    | ok d =>
      refine ⟨[], hnext, hbuilt.insert hd, fun d' hd' => ?_⟩
      cases hd'
      exact ⟨_, hd⟩

theorem continues_prepareWith
    {check : (k : ModelKey κ) → TableDefinition (ModelKey.Object Obj k) → Session σ Obj Unit}
    (hcheck : ∀ d, Continues env (check k d) fun _ => True) :
    Continues env (prepareWith env check k)
      fun d => ∃ build, (env.schemaOf k).define build = .ok d := by
  refine (continues_definition k).bind fun d hd => ?_
  have hget : Continues env (get : Session σ Obj (SessionState σ Obj)) fun _ => True :=
    continues_of_still (fun _ => rfl) (fun _ => rfl) fun _ _ _ => trivial
  refine hget.bind fun s _ => ?_
  split
  · exact continues_pure hd
  · have hmark : Continues env (markPrepared k : Session σ Obj Unit) fun _ => True :=
      continues_of_still (fun _ => rfl) (fun _ => rfl) fun _ _ _ => trivial
    exact (continues_createIfAsked d).bind fun _ _ => (hcheck d).bind fun _ _ =>
      hmark.bind fun _ _ => continues_pure hd

theorem continues_checkVersion (d : TableDefinition (ModelKey.Object Obj k)) :
    Continues env (checkVersion env k d) fun _ => True := by
  unfold checkVersion
  split
  · exact continues_pure trivial
  · split
    · exact continues_pure trivial
    · refine (continues_prepareWith fun _ => continues_pure trivial).bind ?_
      intro versions hversions
      obtain ⟨build, hversions⟩ := hversions
      exact (continues_storedVersion hversions d).bind fun stored _ =>
        continues_settleVersion hversions _ d stored

theorem continues_prepare (k : ModelKey κ) :
    Continues env (prepare env k) fun d => ∃ build, (env.schemaOf k).define build = .ok d := by
  refine continues_prepareWith fun d => ?_
  cases k with
  | versions => exact continues_pure trivial
  | model k => exact continues_checkVersion d

/-! ## Operations -/

theorem continues_insert (m : ModelKey.Object Obj k) :
    Continues env (insert env k m) fun _ => True :=
  (continues_prepare k).bind fun d _ => continues_made (accounted_insertStatement m d _)

theorem continues_insertAll (ms : List (ModelKey.Object Obj k)) :
    Continues env (insertAll env k ms) fun _ => True := by
  induction ms with
  | nil => exact continues_pure trivial
  | cons m ms ih =>
    exact (continues_insert m).bind fun _ _ => ih.bind fun _ _ => continues_pure trivial

theorem continues_merge (m : ModelKey.Object Obj k) :
    Continues env (merge env k m) fun _ => True := by
  refine (continues_prepare k).bind fun d ⟨build, hd⟩ => ?_
  refine (continues_mapping (accounted_mergePlan m _ hd)).bind fun plan _ => ?_
  split
  · exact continues_send.discard
  · refine continues_send.bind fun rows _ => ?_
    split <;> exact continues_send.discard

theorem continues_select (q : Query (ModelKey.Object Obj k)) :
    Continues env (select env k q) fun _ => True :=
  (continues_prepare k).bind fun d _ => continues_selectPrepared _ d q

theorem continues_selectCount (q : Query (ModelKey.Object Obj k)) :
    Continues env (selectCount env k q) fun _ => True := by
  refine (continues_prepare k).bind fun d _ => continues_send.bind fun rows _ => ?_
  split
  · exact continues_pure trivial
  · exact continues_throw _

theorem continues_perform (op : Operation Obj) : Continues env (op.perform env) fun _ => True := by
  cases op with
  | newAlias k =>
    exact (continues_prepare k).bind fun _ ⟨_, hd⟩ => continues_mapping (accounted_materialize hd)
  | createTable k => exact (continues_prepare k).discard
  | insert k m => exact continues_insert m
  | insertForKey k m =>
    exact (continues_prepare k).bind fun d _ =>
      (continues_mapping (accounted_insertFragments m d)).bind fun _ _ => continues_send
  | insertAll k ms => exact continues_insertAll ms
  | update k m =>
    exact (continues_prepare k).bind fun _ ⟨_, hd⟩ =>
      continues_made (accounted_updateStatement m _ hd)
  | delete k m =>
    exact (continues_prepare k).bind fun _ ⟨_, hd⟩ =>
      continues_made (accounted_deleteStatement m _ hd)
  | merge k m => exact continues_merge m
  | select k q => exact continues_select q
  | selectFirst k q => exact (continues_select _).bind fun _ _ => continues_pure trivial
  | selectCount k q => exact continues_selectCount q

/-- A run of the library goes on through a session: what the session has issued in the end are
aliases of the same run. -/
theorem continues_performAll (ops : List (Operation Obj)) {s : SessionState σ Obj}
    {as : List AnyAlias} (hbuilt : s.registry.BuiltFrom env.schemaOf)
    (hrun : LibraryRun s.ledger as) :
    ∃ bs, LibraryRun (Operation.performAll env ops s).ledger (as ++ bs) := by
  induction ops generalizing s as with
  | nil => exact ⟨[], by rwa [List.append_nil]⟩
  | cons op ops ih =>
    obtain ⟨bs, hrun, hbuilt, -⟩ := continues_perform op s as hbuilt hrun
    obtain ⟨cs, hrun⟩ := ih hbuilt hrun
    exact ⟨bs ++ cs, List.append_assoc .. ▸ hrun⟩

end Session
end TableMapping
