import TableMapping.Proofs.Session.Preparation

/-!
# The life of a session

A session lives by turns: it sends the statements of an operation on a model that is prepared, or
it prepares one that is not.  So a statement of an operation comes after the mark of its model, all
of a preparation comes before it, and every mark ends a preparation that has succeeded.

* `Life env hs`: the moments `hs` are turns of these two kinds.
* `Fits env earlier m`: the moment `m` may come after the moments `earlier`.
* `Life.preparedFirst`: in a life, models are prepared before they are operated on, and once.
* `Orderly env past s`: the invariant of a session.  The moments `past` are a life, and the
  prepared models are those that are marked in it.
* `prepare_of_marked`, `prepare_of_not_marked`: a preparation in an orderly session.
-/

namespace TableMapping

/-! ## Events of a preparation -/

namespace Event

variable {κ : Type}

/-- A statement or an upgrade for the preparation of a model. -/
def Prepares (k : ModelKey κ) : Event κ → Prop
  | .sent (.creation k') _ _ => k' = k
  | .sent (.versionCheck k') _ _ => k' = k
  | .upgrading k' _ => k' = k
  | .upgraded k' _ _ => k' = k
  | _ => False

/-- An event of a preparation of a model, other than its mark. -/
def PartOf (k : ModelKey κ) (e : Event κ) : Prop :=
  e.Prepares k ∨ ∃ n, e = .warned n

variable {k : ModelKey κ} {e : Event κ}

theorem Creates.partOf (h : e.Creates k) : e.PartOf k := by
  rcases h with h | ⟨n, rfl⟩
  · obtain ⟨kind, st, rfl⟩ := sentFor_iff.mp h
    exact .inl rfl
  · exact .inr ⟨n, rfl⟩

theorem PartOf.ne_prepared (h : e.PartOf k) (k' : ModelKey κ) : e ≠ .prepared k' := by
  rintro rfl
  obtain h | ⟨n, h⟩ := h
  · exact h
  · exact nomatch h

theorem PartOf.not_sentFor_operation (h : e.PartOf k) (k' : ModelKey κ) :
    ¬ e.SentFor (.operation k') := by
  rcases h with h | ⟨n, rfl⟩
  · match e, h with
    | .sent (.creation _) _ _, _ => exact nofun
    | .sent (.versionCheck _) _ _, _ => exact nofun
    | .upgrading _ _, _ => exact id
    | .upgraded _ _ _, _ => exact id
  · exact id

theorem PartOf.eq_of_prepares (h : e.PartOf k) {k' : ModelKey κ} (h' : e.Prepares k') : k' = k := by
  rcases h with h | ⟨n, rfl⟩
  · match e, h, h' with
    | .sent (.creation _) _ _, h, h' => exact h'.symm.trans h
    | .sent (.versionCheck _) _ _, h, h' => exact h'.symm.trans h
    | .upgrading _ _, h, h' => exact h'.symm.trans h
    | .upgraded _ _ _, h, h' => exact h'.symm.trans h
  · exact h'.elim

end Event

namespace Session

open Runs

variable {σ κ : Type} {Obj : Models κ} {env : Environment σ Obj} {s t : SessionState σ Obj}
  {k : ModelKey κ} {past hs hs' : List (Moment σ κ)} {m : Moment σ κ}

/-! ## The moments of a preparation are its own -/

theorem not_marked_of_partOf (h : ∀ m ∈ hs, m.event.PartOf k) (k' : ModelKey κ) : ¬ Marked k' hs :=
  not_marked_of_forall fun m hm => (h m hm).ne_prepared k'

theorem not_operation_of_creates (h : ∀ m ∈ hs, m.event.Creates k) :
    ∀ m ∈ hs, ∀ k', ¬ m.event.SentFor (.operation k') :=
  fun m hm => (h m hm).partOf.not_sentFor_operation

theorem Looked.partOf {b : Except MappingError (Option VersionRecord)} (h : Looked env k b m) :
    m.event.PartOf k := by
  cases h <;> exact .inl rfl

theorem Settled.partOf {stored : Option VersionRecord} {b : Except MappingError Unit}
    (h : Settled env k stored b hs) : ∀ m ∈ hs, m.event.PartOf k := by
  cases h with
  | written => exact List.forall_mem_singleton.mpr (.inl rfl)
  | failed =>
    exact List.forall_mem_cons.mpr ⟨.inl rfl, List.forall_mem_singleton.mpr (.inl rfl)⟩
  | declined =>
    exact List.forall_mem_cons.mpr ⟨.inl rfl, List.forall_mem_singleton.mpr (.inl rfl)⟩
  | upgraded =>
    exact List.forall_mem_cons.mpr ⟨.inl rfl,
      List.forall_mem_cons.mpr ⟨.inl rfl, List.forall_mem_singleton.mpr (.inl rfl)⟩⟩
  | newer => exact List.forall_mem_singleton.mpr (.inr ⟨_, rfl⟩)
  | current => exact List.forall_mem_nil _

theorem Consulted.partOf {b : Except MappingError Unit} (h : Consulted env k b hs) :
    ∀ m ∈ hs, m.event.PartOf k := by
  cases h with
  | failed h => exact List.forall_mem_singleton.mpr h.partOf
  | settled h h' => exact List.forall_mem_cons.mpr ⟨h.partOf, h'.partOf⟩

section Unchecked

variable {b : Except MappingError (TableDefinition (ModelKey.Object Obj k))}

/-- A preparation without a version check creates, and ends with its mark. -/
theorem Prepares.creates_or_mark (h : Prepares env k Unchecked b hs) :
    ∀ m ∈ hs, m.event.Creates k ∨ m.event = .prepared k := by
  cases h with
  | undefined => exact List.forall_mem_nil _
  | uncreated _ hcs => exact fun m hm => .inl (hcs.creates m hm)
  | unchecked _ _ hnone => exact nomatch hnone
  | finished _ hcs hnone =>
    cases hnone
    rw [List.append_nil]
    exact List.forall_mem_append.mpr
      ⟨fun m hm => .inl (hcs.creates m hm), List.forall_mem_singleton.mpr (.inr rfl)⟩

/-- It marks no other model. -/
theorem Prepares.not_marked (h : Prepares env k Unchecked b hs) {k' : ModelKey κ} (hk : k' ≠ k) :
    ¬ Marked k' hs := by
  refine not_marked_of_forall fun m hm heq => ?_
  rcases h.creates_or_mark m hm with hcreates | hmark
  · exact hcreates.partOf.ne_prepared k' heq
  · exact hk (Event.prepared.inj (heq.symm.trans hmark))

/-- It sends no statement of an operation. -/
theorem Prepares.not_operation (h : Prepares env k Unchecked b hs) :
    ∀ m ∈ hs, ∀ k', ¬ m.event.SentFor (.operation k') := by
  intro m hm
  rcases h.creates_or_mark m hm with hcreates | hmark
  · exact hcreates.partOf.not_sentFor_operation
  · rw [hmark]
    exact fun _ => id

/-- The version records are prepared in this way, since no version of theirs is ever due. -/
theorem Prepares.preparation
    {b : Except MappingError (TableDefinition (ModelKey.Object Obj .versions))}
    (h : Prepares env .versions Unchecked b hs) (ready : Prop) :
    Preparation env .versions ready b hs := by
  have hcheck : ∀ {b hs}, Unchecked b hs → VersionCheck env .versions ready b hs := by
    rintro _ _ ⟨⟩
    exact .notDue fun hdue => hdue.1 rfl
  cases h with
  | undefined hd => exact .undefined hd
  | uncreated hd hcs => exact .uncreated hd hcs
  | unchecked hd hcs hhs => exact .unchecked hd hcs (hcheck hhs)
  | finished hd hcs hhs => exact .finished hd hcs (hcheck hhs)

end Unchecked

theorem VersionsReady.not_marked {ready : Prop} (h : VersionsReady env ready hs)
    (hk : k ≠ .versions) : ¬ Marked k hs := by
  cases h with
  | already => exact not_marked_nil k
  | now _ hhs => exact hhs.not_marked hk

theorem VersionsReady.not_operation {ready : Prop} (h : VersionsReady env ready hs) :
    ∀ m ∈ hs, ∀ k', ¬ m.event.SentFor (.operation k') := by
  cases h with
  | already => exact List.forall_mem_nil _
  | now _ hhs => exact hhs.not_operation

/-- A version check does not mark its model. -/
theorem VersionCheck.not_marked {ready : Prop} {b : Except MappingError Unit}
    (h : VersionCheck env k ready b hs) : ¬ Marked k hs := by
  cases h with
  | notDue => exact not_marked_nil k
  | unprepared hdue _ hhs => exact hhs.not_marked hdue.1
  | consulted hdue hvs hhs =>
    rw [marked_append, not_or]
    exact ⟨hvs.not_marked hdue.1, not_marked_of_partOf hhs.partOf k⟩

theorem VersionCheck.not_operation {ready : Prop} {b : Except MappingError Unit}
    (h : VersionCheck env k ready b hs) : ∀ m ∈ hs, ∀ k', ¬ m.event.SentFor (.operation k') := by
  cases h with
  | notDue => exact List.forall_mem_nil _
  | unprepared _ _ hhs => exact hhs.not_operation
  | consulted _ hvs hhs =>
    exact List.forall_mem_append.mpr
      ⟨hvs.not_operation, fun m hm => (hhs.partOf m hm).not_sentFor_operation⟩

section Failed

variable {ready : Prop} {e : MappingError}

/-- A preparation that fails leaves its model unmarked. -/
theorem Preparation.not_marked (h : Preparation env k ready (.error e) hs) : ¬ Marked k hs := by
  cases h with
  | undefined => exact not_marked_nil k
  | uncreated _ hcs => exact not_marked_of_creates hcs.creates k
  | unchecked _ hcs hhs =>
    rw [marked_append, not_or]
    exact ⟨not_marked_of_creates hcs.creates k, hhs.not_marked⟩

/-- It sends no statement of an operation. -/
theorem Preparation.not_operation (h : Preparation env k ready (.error e) hs) :
    ∀ m ∈ hs, ∀ k', ¬ m.event.SentFor (.operation k') := by
  cases h with
  | undefined => exact List.forall_mem_nil _
  | uncreated _ hcs => exact not_operation_of_creates hcs.creates
  | unchecked _ hcs hhs =>
    exact List.forall_mem_append.mpr ⟨not_operation_of_creates hcs.creates, hhs.not_operation⟩

end Failed

/-! ## What may come after what -/

variable (env) in
/-- A moment may come after the moments `earlier`: operations wait for the mark of their model,
nothing of a preparation comes after it, and there is one at most, which ends a preparation that
has succeeded. -/
structure Fits (earlier : List (Moment σ κ)) (m : Moment σ κ) : Prop where
  operation : ∀ k, m.event.SentFor (.operation k) → Marked k earlier
  preparing : ∀ k, m.event.Prepares k → ¬ Marked k earlier
  mark : ∀ k, m.event = .prepared k → ¬ Marked k earlier ∧
    ∃ before es d, earlier ++ [m] = before ++ es ∧
      Preparation env k (Marked .versions before) (.ok d) es

variable (env) in
/-- Each of these moments fits those before it, of which the first are `past`. -/
inductive Follows : (past hs : List (Moment σ κ)) → Prop
  | nil (past : List (Moment σ κ)) : Follows past []
  | cons {past hs : List (Moment σ κ)} {m : Moment σ κ} (hm : Fits env past m)
      (h : Follows (past ++ [m]) hs) : Follows past (m :: hs)

theorem Follows.append (h : Follows env past hs) (h' : Follows env (past ++ hs) hs') :
    Follows env past (hs ++ hs') := by
  induction h with
  | nil past => rwa [List.append_nil] at h'
  | cons hm _ ih =>
    refine .cons hm (ih ?_)
    rwa [List.append_assoc, List.singleton_append]

/-- Where moments follow each other, each fits those before it. -/
theorem Follows.fits {before after : List (Moment σ κ)}
    (h : Follows env past (before ++ m :: after)) : Fits env (past ++ before) m := by
  induction before generalizing past with
  | nil =>
    cases h with
    | cons hm _ =>
      rw [List.append_nil]
      exact hm
  | cons m' before ih =>
    cases h with
    | cons _ h =>
      rw [List.append_cons]
      exact ih h

/-- Before its mark, whatever belongs to a preparation may happen. -/
theorem follows_of_partOf (hk : ¬ Marked k past) (h : ∀ m ∈ hs, m.event.PartOf k) :
    Follows env past hs := by
  induction hs generalizing past with
  | nil => exact .nil past
  | cons m hs ih =>
    obtain ⟨hm, hhs⟩ := List.forall_mem_cons.mp h
    refine .cons ⟨fun k' h' => ?_, fun k' h' => ?_, fun k' h' => ?_⟩ (ih ?_ hhs)
    · exact absurd h' (hm.not_sentFor_operation k')
    · rwa [hm.eq_of_prepares h']
    · exact absurd h' (hm.ne_prepared k')
    · rw [marked_append, not_or]
      exact ⟨hk, not_marked_of_partOf (List.forall_mem_singleton.mpr hm) k⟩

/-- After its mark, statements of operations may happen. -/
theorem follows_of_sentFor (hk : Marked k past) (h : ∀ m ∈ hs, m.event.SentFor (.operation k)) :
    Follows env past hs := by
  induction hs generalizing past with
  | nil => exact .nil past
  | cons m hs ih =>
    obtain ⟨hm, hhs⟩ := List.forall_mem_cons.mp h
    obtain ⟨kind, st, heq⟩ := Event.sentFor_iff.mp hm
    refine .cons ⟨fun k' h' => ?_, fun k' h' => ?_, fun k' h' => ?_⟩ (ih ?_ hhs)
    · rw [heq] at h'
      cases h'
      exact hk
    · rw [heq] at h'
      exact h'.elim
    · rw [heq] at h'
      exact nomatch h'
    · exact marked_append.mpr (.inl hk)

/-- A preparation may happen where its version check may; its mark may, because the preparation has
succeeded. -/
theorem Prepares.follows {C : Except MappingError Unit → List (Moment σ κ) → Prop}
    {b : Except MappingError (TableDefinition (ModelKey.Object Obj k))} (hk : ¬ Marked k past)
    (hC : ∀ {b cs hs}, (∀ m ∈ cs, m.event.Creates k) → C b hs → Follows env (past ++ cs) hs)
    (hnone : ∀ {b hs}, C b hs → ¬ Marked k hs) (h : Prepares env k C b hs)
    (hprep : Preparation env k (Marked .versions past) b hs) : Follows env past hs := by
  have hcreated : ∀ {cs}, (∀ m ∈ cs, m.event.Creates k) → Follows env past cs :=
    fun hcs => follows_of_partOf hk fun m hm => (hcs m hm).partOf
  cases h with
  | undefined => exact .nil past
  | uncreated _ hcs => exact hcreated hcs.creates
  | unchecked _ hcs hhs => exact (hcreated hcs.creates).append (hC hcs.creates hhs)
  | @finished _ d cs hs g _ hcs hhs =>
    refine ((hcreated hcs.creates).append (hC hcs.creates hhs)).append (.cons ⟨?_, ?_, ?_⟩ (.nil _))
    · exact fun _ h' => h'.elim
    · exact fun _ h' => h'.elim
    · rintro k' heq
      cases heq
      refine ⟨?_, past, _, d, ?_, hprep⟩
      · rw [marked_append, marked_append, not_or, not_or]
        exact ⟨hk, not_marked_of_creates hcs.creates k, hnone hhs⟩
      · rw [List.append_assoc past]

/-- The version records are prepared at most once, too. -/
theorem Prepares.follows_versions
    {b : Except MappingError (TableDefinition (ModelKey.Object Obj .versions))}
    (hk : ¬ Marked .versions past) (h : Prepares env .versions Unchecked b hs) :
    Follows env past hs := by
  refine Prepares.follows hk ?_ ?_ h (h.preparation _)
  · rintro _ cs _ - ⟨⟩
    exact .nil _
  · rintro _ _ ⟨⟩
    exact not_marked_nil _

theorem VersionCheck.follows {b : Except MappingError Unit} (hk : ¬ Marked k past)
    (h : VersionCheck env k (Marked .versions past) b hs) : Follows env past hs := by
  cases h with
  | notDue => exact .nil past
  | unprepared _ hnot hhs => exact hhs.follows_versions hnot
  | @consulted hdue vs hs b hvs hhs =>
    have hvs' : Follows env past vs := by
      cases hvs with
      | already => exact .nil past
      | now hnot hhs => exact hhs.follows_versions hnot
    refine hvs'.append (follows_of_partOf ?_ hhs.partOf)
    rw [marked_append, not_or]
    exact ⟨hk, hvs.not_marked hdue.1⟩

theorem Preparation.follows {b : Except MappingError (TableDefinition (ModelKey.Object Obj k))}
    (hk : ¬ Marked k past) (h : Preparation env k (Marked .versions past) b hs) :
    Follows env past hs := by
  refine Prepares.follows hk (fun {b cs hs} hcs hhs => ?_) (fun hhs => hhs.not_marked) h h
  -- The creation marks nothing, so the check finds the version records as they were.
  have hnone := not_marked_of_creates hcs
  have hready : Marked .versions (past ++ cs) ↔ Marked .versions past := by
    rw [marked_append, or_iff_left (hnone _)]
  rw [← propext hready] at hhs
  refine hhs.follows ?_
  rw [marked_append, not_or]
  exact ⟨hk, hnone k⟩

/-! ## Lives -/

variable (env) in
/-- Turns of a session: the statements of an operation on a model that is marked, or the
preparation of one that is not. -/
inductive Life : List (Moment σ κ) → Prop
  | nil : Life []
  | operation {past hs : List (Moment σ κ)} {k : ModelKey κ} (h : Life past) (hk : Marked k past)
      (hhs : ∀ m ∈ hs, m.event.SentFor (.operation k)) : Life (past ++ hs)
  | preparation {past hs : List (Moment σ κ)} {k : ModelKey κ}
      {b : Except MappingError (TableDefinition (ModelKey.Object Obj k))} (h : Life past)
      (hk : ¬ Marked k past) (hhs : Preparation env k (Marked .versions past) b hs) :
      Life (past ++ hs)

theorem Life.follows (h : Life env hs) : Follows env [] hs := by
  induction h with
  | nil => exact .nil []
  | operation _ hk hhs ih => exact ih.append (follows_of_sentFor hk hhs)
  | preparation _ hk hhs ih => exact ih.append (hhs.follows hk)

/-- In a life, every moment fits those before it. -/
theorem Life.fits {before after : List (Moment σ κ)} (h : Life env (before ++ m :: after)) :
    Fits env before m :=
  h.follows.fits

variable (env) in
/-- The invariant of a session that has gone through the moments `past`. -/
structure Orderly (past : List (Moment σ κ)) (s : SessionState σ Obj) : Prop where
  marked : ∀ k, k ∈ s.prepared ↔ Marked k past
  defined : ∀ k ∈ s.prepared, ∃ stored, s.registry.find? k = some stored
  built : s.registry.BuiltFrom env.schemaOf
  life : Life env past

theorem orderly_openedOver {engine : σ} {ledger : Ledger}
    {registry : Registry (ModelKey.Object Obj)} (hbuilt : registry.BuiltFrom env.schemaOf) :
    Orderly env [] (SessionState.openedOver env engine ledger registry) where
  marked _ := by simp [SessionState.openedOver, Marked]
  defined _ hk := absurd hk List.not_mem_nil
  built := hbuilt
  life := .nil

/-- Moments that go on with the life of a session keep it orderly. -/
theorem Orderly.goes (h : Orderly env past s) (hgoes : Goes env hs s t)
    (hlife : Life env (past ++ hs)) : Orderly env (past ++ hs) t where
  marked k := by rw [hgoes.prepared, h.marked, marked_append]
  defined k hk := by
    rcases (hgoes.prepared k).mp hk with hk | hk
    · obtain ⟨stored, hfind⟩ := h.defined k hk
      exact ⟨stored, hgoes.kept k stored hfind⟩
    · exact hgoes.defined k hk
  built := hgoes.built
  life := hlife

variable [DecidableEq κ]

/-- A marked model is not prepared again. -/
theorem prepare_of_marked (h : Orderly env past s) (hk : Marked k past) :
    ∃ d, (prepare env k).run s = (.ok d, s) := by
  have hks := (h.marked k).mpr hk
  obtain ⟨stored, hfind⟩ := h.defined k hks
  have hstanding : Standing k stored.definition s := ⟨hks, stored, hfind, rfl⟩
  exact ⟨stored.definition, hstanding.run_prepare⟩

/-- Any other model is. -/
theorem prepare_of_not_marked (h : Orderly env past s) (hk : ¬ Marked k past)
    {b : Except MappingError (TableDefinition (ModelKey.Object Obj k))}
    (hrun : (prepare env k).run s = (b, t)) :
    ∃ hs, Goes env hs s t ∧ Preparation env k (Marked .versions past) b hs := by
  obtain ⟨hs, hgoes, hhs⟩ := (passes_preparation h.built (mt (h.marked k).mp hk)).goes hrun
  rw [propext (h.marked .versions)] at hhs
  exact ⟨hs, hgoes, hhs⟩

end Session
end TableMapping
