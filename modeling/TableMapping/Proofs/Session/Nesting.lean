import TableMapping.Proofs.Session.Preparation

/-!
# Preparations within preparations

The version check works by operations of the session: it selects, inserts and updates version
records.  An operation prepares its model before anything else, so a preparation asks for others in
turn, and nothing in its form says that this ends.  It ends because the version records have no
version, so that their preparation asks for no other, and because they are marked before the check
goes on, so that the operations find them prepared.

* `Nested.prepare`: the preparation with all that it asks for, as a recursion that is followed over
  a number of levels; the calls are noted with the number of preparations around them.
* `Nested.extends_prepare`: where it ends, one more level changes nothing.
* `Nested.Mirrors`: such a computation ends like one of the session, and its calls are known.
* `Nested.mirrors_prepare`: a preparation, given what is known of its version check;
  `Nested.mirrors_checkVersion`: the version check of a model.
* `Nested.prepare_ends`: from every state two levels are enough, and the recursion ends with the
  answer and the state of `Session.prepare`; it looks up one version at most, and begins at most one
  preparation of the version records within that of another model and none within their own.
-/

namespace TableMapping
namespace Session

open Runs

/-! ## The recursion -/

/-- How far a preparation is. -/
inductive Stage where
  /-- It is asked for. -/
  | asked
  /-- Its model is not prepared yet, and it begins. -/
  | begun
  /-- The version check looks up the stored version. -/
  | lookup
  deriving DecidableEq

/-- A stage of the preparation of a model that takes place within `depth` others. -/
structure Call (κ : Type) where
  stage : Stage
  depth : Nat
  model : ModelKey κ

/-- A computation in a session that may not end, and that notes its calls. -/
abbrev Nested (σ : Type) {κ : Type} (Obj : Models κ) :=
  ExceptT MappingError (StateT (SessionState σ Obj × List (Call κ)) Option)

namespace Nested

variable {σ κ α β : Type} {Obj : Models κ}

/-- A computation of the session. -/
def lift (x : Session σ Obj α) : Nested σ Obj α :=
  ExceptT.mk fun (s, calls) => some ((x.run s).1, (x.run s).2, calls)

/-- Note a call. -/
def call (c : Call κ) : Nested σ Obj Unit :=
  modify fun (s, calls) => (s, calls ++ [c])

/-- A computation without end. -/
def endless : Nested σ Obj α :=
  ExceptT.mk fun _ => none

section Recursion

variable [DecidableEq κ] (env : Environment σ Obj)

section Operations

-- the preparation that operations begin with
variable (prepare : (k : ModelKey κ) → Nested σ Obj (TableDefinition (ModelKey.Object Obj k)))

/-- Select the objects of a model. -/
def select (purpose : Purpose κ) (k : ModelKey κ) (q : Query (ModelKey.Object Obj k)) :
    Nested σ Obj (List (ModelKey.Object Obj k)) := do
  let d ← prepare k
  lift (selectPrepared env purpose d q)

/-- Insert an object of a model. -/
def insert (purpose : Purpose κ) (k : ModelKey κ) (m : ModelKey.Object Obj k) :
    Nested σ Obj UInt64 := do
  let d ← prepare k
  lift (insertPrepared env purpose d m)

/-- Update an object of a model. -/
def update (purpose : Purpose κ) (k : ModelKey κ) (m : ModelKey.Object Obj k) :
    Nested σ Obj UInt64 := do
  let d ← prepare k
  lift (updatePrepared env purpose d m)

/-- Do what follows from the stored record. -/
def settleVersion (upgrader : Upgrader σ) (k : ModelKey κ)
    (d : TableDefinition (ModelKey.Object Obj k)) : Option VersionRecord → Nested σ Obj Unit
  | none => do
    let _ ← insert env prepare (.versionCheck k) .versions
      ⟨d.schemaName.getD "", d.tableName, d.version⟩
    return
  | some record =>
    if record.version < d.version then do
      lift (upgrade upgrader k ⟨env.dialect, d.schemaName, d.tableName, record.version, d.version⟩)
      let _ ← update env prepare (.versionCheck k) .versions { record with version := d.version }
      return
    else if d.version < record.version then
      lift (warn [.storedVersionNewer record.version d.tableName d.version])
    else pure ()

/-- Compare the declared version of a model, be it that of the version records, with the stored
one. -/
def checkVersion (depth : Nat) (k : ModelKey κ) (d : TableDefinition (ModelKey.Object Obj k)) :
    Nested σ Obj Unit :=
  match env.upgrader with
  | none => pure ()
  | some upgrader =>
    if d.version ≤ 0 || !env.config.checkVersions then pure ()
    else do
      let versions ← prepare .versions
      call ⟨.lookup, depth, k⟩
      let lookup ← lift (mapping (versionQuery versions (d.schemaName.getD "") d.tableName))
      let records ← select env prepare (.versionCheck k) .versions lookup
      settleVersion env prepare upgrader k d records.head?

end Operations

/-- Prepare a model within `depth` other preparations.  The recursion is followed over a number of
levels; where these are used up it is taken to be endless. -/
def prepare : (levels depth : Nat) → (k : ModelKey κ) →
    Nested σ Obj (TableDefinition (ModelKey.Object Obj k))
  | 0, _, _ => endless
  | levels + 1, depth, k => do
    call ⟨.asked, depth, k⟩
    let d ← lift (definition env k)
    if (← lift get).prepared.contains k then
      return d
    call ⟨.begun, depth, k⟩
    lift (createIfAsked env k d)
    checkVersion env (prepare levels (depth + 1)) depth k d
    lift (markPrepared k)
    return d

end Recursion

/-! ## Runs -/

section Runs

variable {x : Nested σ Obj α} {f : α → Nested σ Obj β} {y : Session σ Obj α}
  {g : α → Session σ Obj β} {s t : SessionState σ Obj} {earlier : List (Call κ)}
  {C D : List (Call κ) → Prop}

/-- Where a computation ends, from a state and after some calls: its answer, the state it leaves and
all calls. -/
def outcome (x : Nested σ Obj α) (s : SessionState σ Obj) (earlier : List (Call κ)) :
    Option (Except MappingError α × SessionState σ Obj × List (Call κ)) :=
  x.run (s, earlier)

theorem outcome_bind (x : Nested σ Obj α) (f : α → Nested σ Obj β) (s : SessionState σ Obj)
    (earlier : List (Call κ)) : (x >>= f).outcome s earlier =
      (x.outcome s earlier).bind fun r => (ExceptT.bindCont f r.1) r.2 := rfl

theorem outcome_bind_ok {a : α} {cs : List (Call κ)}
    (h : x.outcome s earlier = some (.ok a, t, cs)) :
    (x >>= f).outcome s earlier = (f a).outcome t cs := by
  rw [outcome_bind, h]
  rfl

theorem outcome_bind_error {e : MappingError} {cs : List (Call κ)}
    (h : x.outcome s earlier = some (.error e, t, cs)) :
    (x >>= f).outcome s earlier = some (.error e, t, cs) := by
  rw [outcome_bind, h]
  rfl

/-- Where the one computation ends, the other does in the same way. -/
def Extends (x x' : Nested σ Obj α) : Prop :=
  ∀ s earlier r, x.outcome s earlier = some r → x'.outcome s earlier = some r

theorem Extends.refl (x : Nested σ Obj α) : Extends x x := fun _ _ _ h => h

theorem Extends.bind {x' : Nested σ Obj α} {f' : α → Nested σ Obj β} (hx : Extends x x')
    (hf : ∀ a, Extends (f a) (f' a)) : Extends (x >>= f) (x' >>= f') := by
  intro s earlier r h
  rcases hfirst : x.outcome s earlier with _ | ⟨e | a, t, cs⟩
  · rw [outcome_bind, hfirst] at h
    exact nomatch h
  · rw [outcome_bind_error hfirst] at h
    rw [outcome_bind_error (hx s earlier _ hfirst), h]
  · rw [outcome_bind_ok hfirst] at h
    rw [outcome_bind_ok (hx s earlier _ hfirst)]
    exact hf a t cs r h

theorem Extends.bind_right {f' : α → Nested σ Obj β} (hf : ∀ a, Extends (f a) (f' a)) :
    Extends (x >>= f) (x >>= f') :=
  (Extends.refl x).bind hf

/-- From a state the one computation ends as the other does, after calls with the property `C`. -/
def Mirrors (x : Nested σ Obj α) (y : Session σ Obj α) (s : SessionState σ Obj)
    (C : List (Call κ) → Prop) : Prop :=
  ∃ calls, (∀ earlier, x.outcome s earlier =
    some ((y.run s).1, (y.run s).2, earlier ++ calls)) ∧ C calls

theorem Mirrors.mono (h : Mirrors x y s C) (hC : ∀ cs, C cs → D cs) : Mirrors x y s D := by
  obtain ⟨cs, houtcome, hcs⟩ := h
  exact ⟨cs, houtcome, hC cs hcs⟩

theorem mirrors_lift (y : Session σ Obj α) (s : SessionState σ Obj) (h : C []) :
    Mirrors (lift y) y s C := by
  refine ⟨[], fun earlier => ?_, h⟩
  rw [List.append_nil]
  rfl

theorem mirrors_pure {a : α} (h : C []) : Mirrors (pure a : Nested σ Obj α) (pure a) s C := by
  refine ⟨[], fun earlier => ?_, h⟩
  rw [List.append_nil]
  rfl

theorem Mirrors.bind (hx : Mirrors x y s C) (herror : ∀ cs, C cs → D cs)
    (hok : ∀ a t cs, y.run s = (.ok a, t) → C cs →
      Mirrors (f a) (g a) t fun ds => D (cs ++ ds)) : Mirrors (x >>= f) (y >>= g) s D := by
  obtain ⟨cs, houtcome, hcs⟩ := hx
  rcases hrun : y.run s with ⟨e | a, t⟩
  · refine ⟨cs, fun earlier => ?_, herror cs hcs⟩
    rw [run_bind_error hrun]
    have hfirst := houtcome earlier
    rw [hrun] at hfirst
    exact outcome_bind_error hfirst
  · obtain ⟨ds, hrest, hds⟩ := hok a t cs hrun hcs
    refine ⟨cs ++ ds, fun earlier => ?_, hds⟩
    have hfirst := houtcome earlier
    rw [hrun] at hfirst
    rw [run_bind_ok hrun, outcome_bind_ok hfirst, hrest, List.append_assoc]

/-- What a computation of the session does adds no call. -/
theorem mirrors_lift_bind (y : Session σ Obj α) (herror : D [])
    (hok : ∀ a t, y.run s = (.ok a, t) → Mirrors (f a) (g a) t D) :
    Mirrors (lift y >>= f) (y >>= g) s D := by
  refine (mirrors_lift (C := (· = [])) y s rfl).bind ?_ ?_
  · rintro _ rfl
    exact herror
  · rintro a t _ hrun rfl
    exact hok a t hrun

theorem Mirrors.discard (h : Mirrors x y s C) :
    Mirrors (x >>= fun _ => pure ()) (discard y) s C := by
  obtain ⟨cs, houtcome, hcs⟩ := h
  refine ⟨cs, fun earlier => ?_, hcs⟩
  have hfirst := houtcome earlier
  rw [run_discard]
  rcases hrun : y.run s with ⟨e | a, t⟩
  · rw [hrun] at hfirst
    exact outcome_bind_error hfirst
  · rw [hrun] at hfirst
    exact outcome_bind_ok hfirst

/-- Calls of which the other computation knows nothing. -/
theorem mirrors_bind_right {y : Session σ Obj β} {a : α} {cs : List (Call κ)}
    (hx : ∀ earlier, x.outcome s earlier = some (.ok a, s, earlier ++ cs))
    (hf : Mirrors (f a) y s fun ds => D (cs ++ ds)) : Mirrors (x >>= f) y s D := by
  obtain ⟨ds, houtcome, hds⟩ := hf
  refine ⟨cs ++ ds, fun earlier => ?_, hds⟩
  rw [outcome_bind_ok (hx earlier), houtcome, List.append_assoc]

theorem outcome_lift (y : Session σ Obj α) :
    (lift y).outcome s earlier = some ((y.run s).1, (y.run s).2, earlier) := rfl

theorem outcome_call (c : Call κ) :
    (call c : Nested σ Obj Unit).outcome s earlier = some (.ok (), s, earlier ++ [c]) := rfl

end Runs

variable [DecidableEq κ] {env : Environment σ Obj} {s t : SessionState σ Obj} {k : ModelKey κ}
  {levels depth : Nat} {calls : List (Call κ)} {C : List (Call κ) → Prop}

/-! ## More levels -/

omit [DecidableEq κ] in
theorem extends_checkVersion
    {prepare prepare' : (k : ModelKey κ) →
      Nested σ Obj (TableDefinition (ModelKey.Object Obj k))}
    (h : ∀ k, Extends (prepare k) (prepare' k)) (d : TableDefinition (ModelKey.Object Obj k)) :
    Extends (checkVersion env prepare depth k d) (checkVersion env prepare' depth k d) := by
  unfold checkVersion
  split
  · exact .refl _
  · split
    · exact .refl _
    · refine (h .versions).bind fun versions => .bind_right fun _ => .bind_right fun lookup => ?_
      refine ((h .versions).bind fun _ => .refl _).bind fun records => ?_
      unfold settleVersion
      split
      · exact ((h .versions).bind fun _ => .refl _).bind fun _ => .refl _
      · split
        · exact .bind_right fun _ => ((h .versions).bind fun _ => .refl _).bind fun _ => .refl _
        · exact .refl _

/-- One more level changes nothing where the recursion ends. -/
theorem extends_prepare (levels depth : Nat) (k : ModelKey κ) :
    Extends (prepare env levels depth k) (prepare env (levels + 1) depth k) := by
  induction levels generalizing depth k with
  | zero => exact fun _ _ _ h => nomatch h
  | succ levels ih =>
    rw [prepare, prepare]
    refine .bind_right fun _ => .bind_right fun d => .bind_right fun s => ?_
    split
    · exact .refl _
    · refine .bind_right fun _ => .bind_right fun _ => ?_
      exact (extends_checkVersion (ih (depth + 1)) d).bind fun _ => .refl _

/-! ## Preparations -/

/-- The calls of a preparation whose version check has the calls `C`. -/
inductive PreparesBy (C : List (Call κ) → Prop) (depth : Nat) (k : ModelKey κ) :
    List (Call κ) → Prop
  | asked : PreparesBy C depth k [⟨.asked, depth, k⟩]
  | begun {cs : List (Call κ)} (hcs : C cs) :
      PreparesBy C depth k (⟨.asked, depth, k⟩ :: ⟨.begun, depth, k⟩ :: cs)

/-- A preparation mirrors that of the session, if its version check does. -/
theorem mirrors_prepare
    {check : (k : ModelKey κ) → TableDefinition (ModelKey.Object Obj k) → Session σ Obj Unit}
    (hcheck : ∀ {t : SessionState σ Obj} {d build}, t.registry.BuiltFrom env.schemaOf →
      (env.schemaOf k).define build = .ok d →
      Mirrors (checkVersion env (prepare env levels (depth + 1)) depth k d) (check k d) t C)
    (hnone : C []) (h : s.registry.BuiltFrom env.schemaOf) :
    Mirrors (prepare env (levels + 1) depth k) (prepareWith env check k) s
      (PreparesBy C depth k) := by
  rw [prepare, prepareWith]
  refine mirrors_bind_right (fun earlier => outcome_call _) ?_
  refine mirrors_lift_bind _ .asked fun d t hrun => ?_
  obtain ⟨_, hgoes, rfl, build, hd⟩ := (passes_definition h k).goes hrun
  refine mirrors_lift_bind _ .asked fun u v hget => ?_
  cases hget
  by_cases hk : k ∈ t.prepared
  · rw [if_pos (List.contains_iff_mem.mpr hk), if_pos hk]
    exact mirrors_pure .asked
  · rw [if_neg (mt List.contains_iff_mem.mp hk), if_neg hk]
    refine mirrors_bind_right (fun earlier => outcome_call _) ?_
    refine mirrors_lift_bind _ (.begun hnone) fun _ u hcreate => ?_
    obtain ⟨_, hgoes', -⟩ := (passes_createIfAsked hgoes.built d).goes hcreate
    refine (hcheck hgoes'.built hd).bind (fun cs hcs => .begun hcs) fun _ v cs _ hcs => ?_
    refine mirrors_lift_bind _ ?_ fun _ w _ => mirrors_pure ?_
    · rw [List.append_nil]
      exact .begun hcs
    · rw [List.append_nil]
      exact .begun hcs

/-! ## The version records -/

omit [DecidableEq κ] in
/-- A model whose version is not above zero is not checked. -/
theorem checkVersion_of_unversioned {d : TableDefinition (ModelKey.Object Obj k)}
    (hd : d.version ≤ 0)
    (prepare : (k : ModelKey κ) → Nested σ Obj (TableDefinition (ModelKey.Object Obj k))) :
    checkVersion env prepare depth k d = pure () := by
  rw [checkVersion]
  cases env.upgrader with
  | none => rfl
  | some upgrader =>
    refine if_pos ?_
    rw [decide_eq_true hd, Bool.true_or]

/-- The version records have no version, so their preparation asks for no other. -/
theorem mirrors_versions
    {check : (k : ModelKey κ) → TableDefinition (ModelKey.Object Obj k) → Session σ Obj Unit}
    (hcheck : ∀ d, check .versions d = pure ()) (h : s.registry.BuiltFrom env.schemaOf) :
    Mirrors (prepare env (levels + 1) depth .versions) (prepareWith env check .versions) s
      (PreparesBy (· = []) depth .versions) := by
  refine mirrors_prepare (fun {t d build} _ hd => ?_) rfl h
  have hversion : d.version = 0 := ModelSchema.version_of_define hd
  rw [checkVersion_of_unversioned (Int32.le_of_eq hversion), hcheck]
  exact mirrors_pure rfl

/-- Operations find a standing model prepared: they ask for it, and no more. -/
theorem outcome_prepare_of_standing {d : TableDefinition (ModelKey.Object Obj k)}
    (h : Standing k d s) (earlier : List (Call κ)) :
    (prepare env (levels + 1) depth k).outcome s earlier =
      some (.ok d, s, earlier ++ [⟨.asked, depth, k⟩]) := by
  obtain ⟨stored, hfind, rfl⟩ := h.find?
  have hdefinition : (lift (definition env k)).outcome s (earlier ++ [⟨.asked, depth, k⟩]) =
      some (.ok stored.definition, s, earlier ++ [⟨.asked, depth, k⟩]) := by
    rw [outcome_lift, run_definition_of_find? hfind]
  rw [prepare, outcome_bind_ok (outcome_call _), outcome_bind_ok hdefinition,
    outcome_bind_ok (outcome_lift get), if_pos (List.contains_iff_mem.mpr h.mem)]
  rfl

theorem mirrors_operation {d : TableDefinition (ModelKey.Object Obj k)} (h : Standing k d s)
    (y : TableDefinition (ModelKey.Object Obj k) → Session σ Obj α) :
    Mirrors (do lift (y (← prepare env (levels + 1) depth k))) (y d) s
      (· = [⟨.asked, depth, k⟩]) :=
  mirrors_bind_right (outcome_prepare_of_standing h) (mirrors_lift _ _ rfl)

/-! ## The version check -/

variable {versions : TableDefinition VersionRecord} {d : TableDefinition (ModelKey.Object Obj k)}

/-- A record is written, or brought forward, or left alone. -/
theorem mirrors_settleVersion (hbuilt : s.registry.BuiltFrom env.schemaOf)
    (h : Standing .versions versions s) {upgrader : Upgrader σ}
    (hupgrader : env.upgrader = some upgrader) (stored : Option VersionRecord) :
    Mirrors (settleVersion env (prepare env (levels + 1) depth) upgrader k d stored)
      (Session.settleVersion env upgrader k d versions stored) s
      fun cs => cs = [] ∨ cs = [⟨.asked, depth, .versions⟩] := by
  cases stored with
  | none =>
    rw [settleVersion, Session.settleVersion, insert]
    exact ((mirrors_operation h _).mono fun _ hcs => .inr hcs).discard
  | some record =>
    rw [settleVersion, Session.settleVersion]
    by_cases hbehind : record.version < d.version
    · rw [if_pos hbehind, if_pos hbehind, update]
      refine mirrors_lift_bind _ (.inl rfl) fun _ t hupgrade => ?_
      obtain ⟨_, hgoes, -⟩ := Passes.goes (P := fun _ _ => True)
        (passes_upgrade hbuilt hupgrader fun _ _ _ => trivial) hupgrade
      exact ((mirrors_operation (h.goes hgoes) _).mono fun _ hcs => .inr hcs).discard
    · rw [if_neg hbehind, if_neg hbehind]
      by_cases hnewer : d.version < record.version
      · rw [if_pos hnewer, if_pos hnewer]
        exact mirrors_lift _ _ (.inl rfl)
      · rw [if_neg hnewer, if_neg hnewer]
        exact mirrors_pure (.inl rfl)

/-- The calls of a version check: the preparation of the version records, and when it answers, the
look-up with the operations on them. -/
inductive ChecksBy (depth : Nat) (k : ModelKey κ) : List (Call κ) → Prop
  | notDue : ChecksBy depth k []
  | unprepared {vs : List (Call κ)} (hvs : PreparesBy (· = []) (depth + 1) .versions vs) :
      ChecksBy depth k vs
  | lookedUp {vs cs : List (Call κ)} (hvs : PreparesBy (· = []) (depth + 1) .versions vs)
      (hcs : ∀ c ∈ cs, c = ⟨.asked, depth + 1, .versions⟩) :
      ChecksBy depth k (vs ++ ⟨.lookup, depth, k⟩ :: cs)

omit [DecidableEq κ] in
theorem passes_selectPrepared {M : Type} (h : s.registry.BuiltFrom env.schemaOf)
    (purpose : Purpose κ) (d : TableDefinition M) (q : Query M) :
    Passes env (selectPrepared env purpose d q) s fun _ _ => True :=
  (passes_runQuery (P := fun _ _ => True) h fun _ _ _ => trivial).bind (fun _ _ _ => trivial)
    fun _ _ _ _ hgoes _ => passes_mapping hgoes.built trivial

theorem mirrors_checkVersion (h : s.registry.BuiltFrom env.schemaOf) :
    Mirrors (checkVersion env (prepare env (levels + 1) (depth + 1)) depth k d)
      (Session.checkVersion env k d) s (ChecksBy depth k) := by
  rw [checkVersion, Session.checkVersion]
  cases hupgrader : env.upgrader with
  | none => exact mirrors_pure .notDue
  | some upgrader =>
    by_cases hskip : (decide (d.version ≤ 0) || !env.config.checkVersions) = true
    · simp only [if_pos hskip]
      exact mirrors_pure .notDue
    · simp only [if_neg hskip, storedVersion, bind_assoc, pure_bind]
      refine (mirrors_versions (fun _ => rfl) h).bind (fun cs hvs => .unprepared hvs) ?_
      intro versions t vs hprep hvs
      have hstanding : Standing .versions versions t :=
        standing_of_prepareWith (C := fun _ => Unchecked) (fun ht _ => passes_pure ht .unchecked) h
          hprep
      obtain ⟨_, hgoes, -⟩ := (passes_prepareVersions h).goes hprep
      refine mirrors_bind_right (fun earlier => outcome_call _) ?_
      refine mirrors_lift_bind _ (.lookedUp hvs (List.forall_mem_nil _)) fun lookup u hlookup => ?_
      obtain ⟨_, hgoes', -⟩ := Passes.goes (P := fun _ _ => True)
        (passes_mapping hgoes.built trivial) hlookup
      have hu := hstanding.goes hgoes'
      rw [select]
      refine (mirrors_operation hu _).bind ?_ ?_
      · rintro _ rfl
        exact .lookedUp hvs (List.forall_mem_singleton.mpr rfl)
      · rintro records v _ hselect rfl
        obtain ⟨_, hgoes'', -⟩ := (passes_selectPrepared hgoes'.built _ versions lookup).goes hselect
        refine (mirrors_settleVersion hgoes''.built (hu.goes hgoes'') hupgrader records.head?).mono ?_
        rintro cs (rfl | rfl)
        · exact .lookedUp hvs (List.forall_mem_singleton.mpr rfl)
        · exact .lookedUp hvs (List.forall_mem_cons.mpr ⟨rfl, List.forall_mem_singleton.mpr rfl⟩)

/-! ## The end of the recursion -/

section NestsOnce

omit [DecidableEq κ]

variable {vs cs : List (Call κ)}

/-- The number of look-ups of a stored version. -/
def lookups (calls : List (Call κ)) : Nat :=
  calls.countP fun c => c.stage = .lookup

/-- The number of preparations that begin within another one. -/
def innerBegun (calls : List (Call κ)) : Nat :=
  calls.countP fun c => c.stage = .begun ∧ 0 < c.depth

/-- The calls are those of the preparation of one model and of preparations of the version records
within it, with no other within these.  At most one version is looked up, that of the one model and
only if it is not the version records, and at most one of the inner preparations begins. -/
structure NestsOnce (k : ModelKey κ) (calls : List (Call κ)) : Prop where
  nested : ∀ c ∈ calls, c.depth = 0 ∧ c.model = k ∨
    c.depth = 1 ∧ c.model = .versions ∧ k ≠ .versions
  looked : ∀ c ∈ calls, c.stage = .lookup → c.depth = 0 ∧ k ≠ .versions
  lookups_le : lookups calls ≤ 1
  innerBegun_le : innerBegun calls ≤ 1

/-- A call of the version records within the preparation of another model. -/
structure IsInner (c : Call κ) : Prop where
  depth : c.depth = 1
  model : c.model = .versions
  stage : c.stage ≠ .lookup

theorem lookups_of_isInner (h : ∀ c ∈ cs, IsInner c) : lookups cs = 0 := by
  refine List.countP_eq_zero.mpr fun c hc => ?_
  rw [decide_eq_true_iff]
  exact (h c hc).stage

theorem isInner_of_prepares (h : PreparesBy (· = []) 1 .versions vs) : ∀ c ∈ vs, IsInner c := by
  cases h with
  | asked => exact List.forall_mem_singleton.mpr ⟨rfl, rfl, nofun⟩
  | begun hcs =>
    subst hcs
    exact List.forall_mem_cons.mpr ⟨⟨rfl, rfl, nofun⟩,
      List.forall_mem_singleton.mpr ⟨rfl, rfl, nofun⟩⟩

theorem innerBegun_of_prepares (h : PreparesBy (· = []) 1 .versions vs) : innerBegun vs ≤ 1 := by
  cases h with
  | asked => exact Nat.zero_le 1
  | begun hcs =>
    subst hcs
    exact Nat.le_refl 1

theorem NestsOnce.nil (k : ModelKey κ) : NestsOnce k ([] : List (Call κ)) :=
  ⟨List.forall_mem_nil _, List.forall_mem_nil _, Nat.zero_le 1, Nat.zero_le 1⟩

theorem nestsOnce_of_isInner (hk : k ≠ .versions) (hcs : ∀ c ∈ cs, IsInner c)
    (hbegun : innerBegun cs ≤ 1) : NestsOnce k cs where
  nested c hc := .inr ⟨(hcs c hc).depth, (hcs c hc).model, hk⟩
  looked c hc hlookup := absurd hlookup (hcs c hc).stage
  lookups_le := (lookups_of_isInner hcs).trans_le (Nat.zero_le 1)
  innerBegun_le := hbegun

/-- The version check of another model has the calls of one preparation, and operations that ask for
more and begin none. -/
theorem nestsOnce_of_checks (hk : k ≠ .versions) (h : ChecksBy 0 k cs) : NestsOnce k cs := by
  cases h with
  | notDue => exact .nil k
  | unprepared hvs =>
    exact nestsOnce_of_isInner hk (isInner_of_prepares hvs) (innerBegun_of_prepares hvs)
  | @lookedUp vs cs hvs hcs =>
    have hinner : ∀ c ∈ cs, IsInner c := by
      intro c hc
      rw [hcs c hc]
      exact ⟨rfl, rfl, nofun⟩
    have hasked : innerBegun cs = 0 := by
      refine List.countP_eq_zero.mpr fun c hc => ?_
      rw [hcs c hc, decide_eq_true_iff]
      exact fun h => nomatch h.1
    have hfirst := nestsOnce_of_isInner hk (isInner_of_prepares hvs) (innerBegun_of_prepares hvs)
    have hrest := nestsOnce_of_isInner hk hinner (hasked.trans_le (Nat.zero_le 1))
    refine ⟨?_, ?_, ?_, ?_⟩
    · exact List.forall_mem_append.mpr ⟨hfirst.nested,
        List.forall_mem_cons.mpr ⟨.inl ⟨rfl, rfl⟩, hrest.nested⟩⟩
    · exact List.forall_mem_append.mpr ⟨hfirst.looked,
        List.forall_mem_cons.mpr ⟨fun _ => ⟨rfl, hk⟩, hrest.looked⟩⟩
    · rw [lookups, List.countP_append, List.countP_cons, ← lookups, ← lookups,
        lookups_of_isInner hinner, lookups_of_isInner (isInner_of_prepares hvs)]
      exact Nat.le_refl 1
    · rw [innerBegun, List.countP_append, List.countP_cons, ← innerBegun, ← innerBegun, hasked]
      exact innerBegun_of_prepares hvs

/-- The outer preparation adds no look-up, and does not begin within another. -/
theorem nestsOnce_of_prepares (hC : ∀ cs, C cs → NestsOnce k cs) (h : PreparesBy C 0 k calls) :
    NestsOnce k calls := by
  cases h with
  | asked =>
    exact ⟨List.forall_mem_singleton.mpr (.inl ⟨rfl, rfl⟩), List.forall_mem_singleton.mpr nofun,
      Nat.zero_le 1, Nat.zero_le 1⟩
  | begun hcs =>
    obtain ⟨hnested, hlooked, hlookups, hbegun⟩ := hC _ hcs
    refine ⟨?_, ?_, hlookups, hbegun⟩
    · exact List.forall_mem_cons.mpr
        ⟨.inl ⟨rfl, rfl⟩, List.forall_mem_cons.mpr ⟨.inl ⟨rfl, rfl⟩, hnested⟩⟩
    · exact List.forall_mem_cons.mpr ⟨nofun, List.forall_mem_cons.mpr ⟨nofun, hlooked⟩⟩

end NestsOnce

theorem mirrors_nestsOnce (h : s.registry.BuiltFrom env.schemaOf) (k : ModelKey κ) :
    Mirrors (prepare env 2 0 k) (Session.prepare env k) s (NestsOnce k) := by
  cases k with
  | versions =>
    refine (mirrors_versions (fun _ => rfl) h).mono fun cs hcs => ?_
    exact nestsOnce_of_prepares (fun cs hnil => by rw [hnil]; exact .nil _) hcs
  | model k =>
    have hne : ModelKey.model k ≠ .versions := nofun
    refine (mirrors_prepare (fun ht _ => mirrors_checkVersion ht) .notDue h).mono fun cs hcs => ?_
    exact nestsOnce_of_prepares (fun cs hcs => nestsOnce_of_checks hne hcs) hcs

/-- **Termination.**  Whatever is prepared already, and whatever the engine and the upgrader
answer, the preparation of a model with all that it asks for ends, as that of the session does.  Two
levels are enough, and however many more there may be, nothing changes. -/
theorem prepare_ends (h : s.registry.BuiltFrom env.schemaOf) (k : ModelKey κ) :
    ∃ calls, (∀ levels, 2 ≤ levels → (prepare env levels 0 k).outcome s [] =
        some (((Session.prepare env k).run s).1, ((Session.prepare env k).run s).2, calls)) ∧
      NestsOnce k calls := by
  obtain ⟨calls, houtcome, hcalls⟩ := mirrors_nestsOnce h k
  refine ⟨calls, fun levels hlevels => ?_, hcalls⟩
  induction levels, hlevels using Nat.le_induction with
  | base => exact houtcome []
  | succ levels _ ih => exact extends_prepare levels 0 k s [] _ ih

/-- Widgets in their second version, with their version record in the first. -/
theorem prepare_ends_widget :
    (SessionState.opened widgetEnvironment 0).registry.BuiltFrom widgetEnvironment.schemaOf ∧
      ∃ calls, (prepare widgetEnvironment 2 0 (.model ())).outcome
          (.opened widgetEnvironment 0) [] =
        some (((Session.prepare widgetEnvironment (.model ())).run
            (.opened widgetEnvironment 0)).1,
          ((Session.prepare widgetEnvironment (.model ())).run (.opened widgetEnvironment 0)).2,
          calls) ∧
        NestsOnce (.model ()) calls := by
  have hbuilt : (SessionState.opened widgetEnvironment 0).registry.BuiltFrom
      widgetEnvironment.schemaOf := Registry.builtFrom_empty
  obtain ⟨calls, houtcome, hcalls⟩ := prepare_ends hbuilt (.model ())
  exact ⟨hbuilt, calls, houtcome 2 (Nat.le_refl 2), hcalls⟩

end Nested
end Session
end TableMapping
