import Mathlib.Data.Multiset.Filter
import TableMapping.Proofs.Session.Conduct

/-!
# What a session does to the stored versions

An engine keeps the version records when it runs the three statements of a version check by their
meaning and nothing else writes to their table.  The records of a table are then a matter of its
version checks alone, and a version check moves them in one direction.

* `UniqueRecords`: a table has one record at most.
* `KeepsVersions env records`: the meaning of the statements, on the records that `records` sees
  in a state of the engine.
* `VersionsKept env records past m`: what one moment of a session may do to the records, given
  the moments before it.
* `Settled.allKept`, `Segment.allKept`: every segment of a session does no more than that.
* `Conduct.allKept`: and so does a session.
-/

namespace TableMapping

namespace VersionRecord

/-! ## Records -/

variable {schema table : String} {r r' : VersionRecord} {rs : Multiset VersionRecord}

/-- A record is that of a table. -/
def IsOf (schema table : String) (r : VersionRecord) : Prop :=
  r.schemaName = schema ∧ r.tableName = table

instance (schema table : String) : DecidablePred (IsOf schema table) :=
  fun r => inferInstanceAs (Decidable (r.schemaName = schema ∧ r.tableName = table))

/-- The records of a table. -/
def ofTable (schema table : String) (rs : Multiset VersionRecord) : Multiset VersionRecord :=
  rs.filter (IsOf schema table)

/-- Every table has one record at most. -/
def UniqueRecords (rs : Multiset VersionRecord) : Prop :=
  ∀ schema table, (ofTable schema table rs).card ≤ 1

/-- The records in which a record takes the place of those with the same key. -/
def replaced (r : VersionRecord) (rs : Multiset VersionRecord) : Multiset VersionRecord :=
  rs.map fun r' => if IsOf r.schemaName r.tableName r' then r else r'

theorem mem_ofTable :
    r ∈ ofTable schema table rs ↔ r ∈ rs ∧ IsOf schema table r :=
  Multiset.mem_filter

theorem UniqueRecords.cons (h : UniqueRecords rs)
    (hnone : ofTable r.schemaName r.tableName rs = 0) : UniqueRecords (r ::ₘ rs) := by
  intro schema table
  by_cases hr : IsOf schema table r
  · obtain ⟨rfl, rfl⟩ := hr
    rw [ofTable, Multiset.filter_cons_of_pos _ ⟨rfl, rfl⟩, Multiset.card_cons]
    rw [ofTable] at hnone
    rw [hnone]
    simp
  · rw [ofTable, Multiset.filter_cons_of_neg _ hr]
    exact h schema table

theorem isOf_replaced (r r' : VersionRecord) :
    IsOf schema table (if IsOf r.schemaName r.tableName r' then r else r') ↔
      IsOf schema table r' := by
  split
  · rename_i hkey
    rw [IsOf, IsOf, hkey.1, hkey.2]
  · exact Iff.rfl

theorem card_ofTable_replaced (r : VersionRecord) (rs : Multiset VersionRecord) :
    (ofTable schema table (replaced r rs)).card = (ofTable schema table rs).card := by
  rw [ofTable, replaced, Multiset.filter_map, Multiset.card_map, ofTable]
  congr 1
  exact Multiset.filter_congr fun r' _ => isOf_replaced r r'

theorem UniqueRecords.replaced (h : UniqueRecords rs) (r : VersionRecord) :
    UniqueRecords (replaced r rs) := by
  intro schema table
  rw [card_ofTable_replaced]
  exact h schema table

theorem mem_replaced (h : r' ∈ VersionRecord.replaced r rs) : r' = r ∨ r' ∈ rs := by
  obtain ⟨r'', hr'', rfl⟩ := Multiset.mem_map.mp h
  split
  · exact .inl rfl
  · exact .inr hr''

end VersionRecord

namespace Session

open Runs VersionRecord

variable {σ κ : Type} {Obj : Models κ}

/-! ## Engines that keep version records -/

/-- A statement takes effect.  One that is refused may have none. -/
def TakesEffect (b : Except MappingError UInt64) (before after effect : Multiset VersionRecord) :
    Prop :=
  after = effect ∨ (∃ e, b = .error e) ∧ after = before

/-- An engine and an upgrader under which the version records are a table: a look-up finds the
records of a table, an insertion adds a record, and the statement that sets a version replaces the
record of the table.  Queries and upgrades leave the records alone. -/
structure KeepsVersions (env : Environment σ Obj) (records : σ → Multiset VersionRecord) :
    Prop where
  lookup : ∀ {schema table g rows g'},
    env.engine.query (VersionRecord.lookup env.dialect schema table) g = (.ok rows, g') →
      ∃ found : List VersionRecord, rows.mapM ofRow? = some found ∧
        (found : Multiset VersionRecord) = ofTable schema table (records g)
  query : ∀ st g, records (env.engine.query st g).2 = records g
  insertion : ∀ r g, TakesEffect (env.engine.execute (insertion env.dialect r) g).1 (records g)
    (records (env.engine.execute (VersionRecord.insertion env.dialect r) g).2) (r ::ₘ records g)
  advance : ∀ r g, TakesEffect (env.engine.execute (advance env.dialect r) g).1 (records g)
    (records (env.engine.execute (VersionRecord.advance env.dialect r) g).2)
    (replaced r (records g))
  upgrader : ∀ {upgrader}, env.upgrader = some upgrader →
    ∀ u g, records (upgrader u g).2 = records g

/-- The events hold no other statement that changes the version records. -/
def OnlyChecksWrite (env : Environment σ Obj) (records : σ → Multiset VersionRecord)
    (es : List (Event κ)) : Prop :=
  ∀ p kind st, .sent p kind st ∈ es → (∀ k, p ≠ .versionCheck k) → ∀ g,
    records (env.engine.execute st g).2 = records g ∧
      records (env.engine.insert st g).2 = records g

/-! ## What a moment does -/

variable (env : Environment σ Obj) (records : σ → Multiset VersionRecord)

/-- The last that happened is a look-up that found no record of a model's table. -/
def SawNone (k : ModelKey κ) (past : List (Moment σ κ)) : Prop :=
  ∃ earlier g g' rows, past = earlier ++ [⟨.sent (.versionCheck k) .select (env.lookup k), g, g'⟩] ∧
    env.engine.query (env.lookup k) g = (.ok rows, g') ∧ rows.mapM ofRow? = some []

/-- The last that happened is a successful upgrade of a model's table. -/
def SawUpgrade (k : ModelKey κ) (past : List (Moment σ κ)) : Prop :=
  ∃ earlier g g' u, past = earlier ++ [⟨.upgraded k u (.ok true), g, g'⟩]

/-- What a moment may do to the version records. -/
structure VersionsKept (past : List (Moment σ κ)) (m : Moment σ κ) : Prop where
  unique : UniqueRecords (records m.after)
  /-- No version decreases, and no record is lost. -/
  kept : ∀ r ∈ records m.before, ∃ r' ∈ records m.after,
    r'.schemaName = r.schemaName ∧ r'.tableName = r.tableName ∧ r.version ≤ r'.version
  /-- A record that is new is the one that a model asks for. -/
  changed : ∀ r ∈ records m.after, r ∉ records m.before →
    ∃ k, r = env.record k ∧ (SawNone env k past ∨ SawUpgrade k past)
  /-- An upgrade starts from the stored version. -/
  upgraded : ∀ k u answer, m.event = .upgraded k u answer →
    ofTable (u.schema.getD "") u.table (records m.before) =
      {⟨u.schema.getD "", u.table, u.fromVersion⟩} ∧ u.fromVersion < u.toVersion

/-- Every moment of a history does no more to the version records than it may. -/
def AllKept (past hs : List (Moment σ κ)) : Prop :=
  ∀ before m after, hs = before ++ m :: after → VersionsKept env records (past ++ before) m

variable {env records} {g g' : σ} {past hs hs' : List (Moment σ κ)} {m : Moment σ κ}
  {k : ModelKey κ}

theorem allKept_nil : AllKept env records past [] := by
  intro before m after h
  exact absurd h (List.append_ne_nil_of_right_ne_nil before (List.cons_ne_nil m after)).symm

theorem AllKept.cons (hm : VersionsKept env records past m)
    (h : AllKept env records (past ++ [m]) hs) : AllKept env records past (m :: hs) := by
  intro before m' after heq
  rcases List.cons_eq_append_iff.mp heq with ⟨rfl, hfirst⟩ | ⟨before', rfl, hrest⟩
  · cases hfirst
    rwa [List.append_nil]
  · rw [List.append_cons]
    exact h before' m' after hrest

theorem AllKept.append (h : AllKept env records past hs)
    (h' : AllKept env records (past ++ hs) hs') : AllKept env records past (hs ++ hs') := by
  induction hs generalizing past with
  | nil => rwa [List.append_nil] at h'
  | cons m hs ih =>
    have hm : VersionsKept env records past m := by
      rw [← List.append_nil past]
      exact h [] m hs rfl
    refine AllKept.cons hm (ih (fun before m' after heq => ?_) ?_)
    · rw [List.append_assoc]
      exact h (m :: before) m' after (congrArg (m :: ·) heq)
    · rwa [List.append_assoc]

/-- A moment that changes no record and is no upgrade. -/
theorem versionsKept_of_quiet (hunique : UniqueRecords (records m.before))
    (hsame : records m.after = records m.before)
    (hupgraded : ∀ k u answer, m.event ≠ .upgraded k u answer) :
    VersionsKept env records past m where
  unique := by
    rw [hsame]
    exact hunique
  kept r hr := by
    rw [hsame]
    exact ⟨r, hr, rfl, rfl, Int32.le_refl _⟩
  changed r hr hnew := by
    rw [hsame] at hr
    exact absurd hr hnew
  upgraded k u answer h := absurd h (hupgraded k u answer)

theorem TakesEffect.unique {b : Except MappingError UInt64}
    {before after effect : Multiset VersionRecord} (h : TakesEffect b before after effect)
    (hbefore : UniqueRecords before) (heffect : UniqueRecords effect) : UniqueRecords after := by
  rcases h with rfl | ⟨-, rfl⟩
  · exact heffect
  · exact hbefore

theorem AllKept.unique (h : AllKept env records past hs) (hcourse : Course env hs g g')
    (hunique : UniqueRecords (records g)) : UniqueRecords (records g') := by
  induction hcourse generalizing past with
  | nil => exact hunique
  | cons _ _ ih =>
    rename_i m hs _ _ _
    have hm : VersionsKept env records past m := by
      rw [← List.append_nil past]
      exact h [] m hs rfl
    have hrest : AllKept env records (past ++ [m]) hs := by
      intro before m' after heq
      rw [List.append_assoc]
      exact h (m :: before) m' after (congrArg (m :: ·) heq)
    exact ih hrest hm.unique

/-! ## The moments of a version check -/

section Check

variable {stored : Option VersionRecord} {b : Except MappingError Unit} {r : VersionRecord}
  {u : Upgrade} {answer : Except MappingError Bool}

theorem Looked.asked {b : Except MappingError (Option VersionRecord)} (h : Looked env k b m) :
    m.event = .sent (.versionCheck k) .select (env.lookup k) ∧
      ∃ answer, env.engine.query (env.lookup k) m.before = (answer, m.after) := by
  cases h with
  | refused hask => exact ⟨rfl, _, hask⟩
  | unreadable hask => exact ⟨rfl, _, hask⟩
  | read hask => exact ⟨rfl, _, hask⟩

theorem Looked.records_eq (hkeeps : KeepsVersions env records)
    {b : Except MappingError (Option VersionRecord)} (h : Looked env k b m) :
    records m.after = records m.before := by
  obtain ⟨-, answer, hask⟩ := h.asked
  have hsame := hkeeps.query (env.lookup k) m.before
  rwa [hask] at hsame

theorem Looked.versionsKept (hkeeps : KeepsVersions env records)
    {b : Except MappingError (Option VersionRecord)} (h : Looked env k b m)
    (hunique : UniqueRecords (records m.before)) : VersionsKept env records past m := by
  refine versionsKept_of_quiet hunique (h.records_eq hkeeps) fun k' u answer => ?_
  rw [h.asked.1]
  exact nofun

/-- What a look-up tells of the records: none is stored, or exactly the one it found. -/
theorem Looked.ofTable_eq (hkeeps : KeepsVersions env records) (h : Looked env k (.ok stored) m)
    (hunique : UniqueRecords (records m.before)) :
    (stored = none → ofTable (env.record k).schemaName (env.record k).tableName
        (records m.before) = 0 ∧ SawNone env k (past ++ [m])) ∧
      ∀ r, stored = some r → ofTable (env.record k).schemaName (env.record k).tableName
        (records m.before) = {r} := by
  cases h with
  | @read g g' rows found hask hrows =>
    obtain ⟨found', hfound, heq⟩ := hkeeps.lookup hask
    cases hrows.symm.trans hfound
    have hcard := hunique (env.record k).schemaName (env.record k).tableName
    rw [← heq, Multiset.coe_card] at hcard
    rw [← heq]
    match found, hcard with
    | [], _ => exact ⟨fun _ => ⟨rfl, past, g, g', rows, rfl, hask, hrows⟩, nofun⟩
    | [r], _ =>
      refine ⟨nofun, fun r' hr' => ?_⟩
      cases hr'
      rfl

theorem KeepsVersions.records_upgraded (hkeeps : KeepsVersions env records)
    {upgrader : Upgrader σ} (hupgrader : env.upgrader = some upgrader)
    (hask : upgrader u g = (answer, g')) : records g' = records g := by
  have hsame := hkeeps.upgrader hupgrader u g
  rwa [hask] at hsame

/-- An upgrade of a table starts from its record. -/
theorem versionsKept_upgraded (hunique : UniqueRecords (records g))
    (hstored : ofTable (env.record k).schemaName (env.record k).tableName (records g) = {r})
    (hbehind : r.version < (env.record k).version) (hsame : records g' = records g) :
    VersionsKept env records past ⟨.upgraded k (env.upgradeFrom k r.version) answer, g, g'⟩ where
  unique := by
    rw [hsame]
    exact hunique
  kept r hr := by
    rw [hsame]
    exact ⟨r, hr, rfl, rfl, Int32.le_refl _⟩
  changed r hr hnew := by
    rw [hsame] at hr
    exact absurd hr hnew
  upgraded k' u answer' h := by
    cases h
    refine ⟨hstored.trans ?_, hbehind⟩
    have hr : r ∈ ofTable (env.record k).schemaName (env.record k).tableName (records g) := by
      rw [hstored]
      exact Multiset.mem_singleton_self r
    obtain ⟨-, hschema, htable⟩ := mem_ofTable.mp hr
    rcases r with ⟨schema, table, version⟩
    cases hschema
    cases htable
    rfl

theorem versionsKept_upgrading (hunique : UniqueRecords (records g)) :
    VersionsKept env records past ⟨.upgrading k u, g, g⟩ :=
  versionsKept_of_quiet hunique rfl fun _ _ _ h => nomatch h

/-- The insertion of a record where there is none. -/
theorem versionsKept_written (hkeeps : KeepsVersions env records)
    {c : Except MappingError UInt64} (hunique : UniqueRecords (records g))
    (hnone : ofTable (env.record k).schemaName (env.record k).tableName (records g) = 0)
    (hsaw : SawNone env k past)
    (hwrite : env.engine.execute (insertion env.dialect (env.record k)) g = (c, g')) :
    VersionsKept env records past
      ⟨.sent (.versionCheck k) .insert (insertion env.dialect (env.record k)), g, g'⟩ := by
  have heffect := hkeeps.insertion (env.record k) g
  rw [hwrite] at heffect
  refine ⟨heffect.unique hunique (hunique.cons hnone), fun r hr => ?_, fun r hr hnew => ?_,
    fun _ _ _ h => nomatch h⟩
  · refine ⟨r, ?_, rfl, rfl, Int32.le_refl _⟩
    rcases heffect with h | ⟨-, h⟩
    · rw [h]
      exact Multiset.mem_cons_of_mem hr
    · rw [h]
      exact hr
  · rcases heffect with h | ⟨-, h⟩
    · rw [h] at hr
      rcases Multiset.mem_cons.mp hr with rfl | hr
      · exact ⟨k, rfl, .inl hsaw⟩
      · exact absurd hr hnew
    · rw [h] at hr
      exact absurd hr hnew

/-- The version of a record is set after its upgrade. -/
theorem versionsKept_advanced (hkeeps : KeepsVersions env records)
    {c : Except MappingError UInt64} (hunique : UniqueRecords (records g))
    (hstored : ofTable (env.record k).schemaName (env.record k).tableName (records g) = {r})
    (hbehind : r.version < (env.record k).version) (hsaw : SawUpgrade k past)
    (hwrite : env.engine.execute
      (advance env.dialect { r with version := (env.record k).version }) g = (c, g')) :
    VersionsKept env records past ⟨.sent (.versionCheck k) .update
      (advance env.dialect { r with version := (env.record k).version }), g, g'⟩ := by
  have hr : r ∈ ofTable (env.record k).schemaName (env.record k).tableName (records g) := by
    rw [hstored]
    exact Multiset.mem_singleton_self r
  obtain ⟨-, hschema, htable⟩ := mem_ofTable.mp hr
  have hrecord : { r with version := (env.record k).version } = env.record k := by
    rw [hschema, htable]
  have heffect := hkeeps.advance (env.record k) g
  rw [hrecord] at hwrite ⊢
  rw [hwrite] at heffect
  refine ⟨heffect.unique hunique (hunique.replaced _), fun r' hr' => ?_, fun r' hr' hnew => ?_,
    fun _ _ _ h => nomatch h⟩
  · rcases heffect with h | ⟨-, h⟩
    · have hmem := Multiset.mem_map_of_mem
        (fun x => if IsOf (env.record k).schemaName (env.record k).tableName x then env.record k
          else x) hr'
      by_cases hkey : IsOf (env.record k).schemaName (env.record k).tableName r'
      · rw [if_pos hkey] at hmem
        have hr'' := mem_ofTable.mpr ⟨hr', hkey⟩
        rw [hstored, Multiset.mem_singleton] at hr''
        subst hr''
        rw [h]
        exact ⟨_, hmem, hschema.symm, htable.symm, Int32.le_of_lt hbehind⟩
      · rw [if_neg hkey] at hmem
        rw [h]
        exact ⟨r', hmem, rfl, rfl, Int32.le_refl _⟩
    · rw [h]
      exact ⟨r', hr', rfl, rfl, Int32.le_refl _⟩
  · rcases heffect with h | ⟨-, h⟩
    · rw [h] at hr'
      rcases mem_replaced hr' with rfl | hr'
      · exact ⟨k, rfl, .inr hsaw⟩
      · exact absurd hr' hnew
    · rw [h] at hr'
      exact absurd hr' hnew

theorem Settled.allKept (hkeeps : KeepsVersions env records) (h : Settled env k stored b hs)
    (hcourse : Course env hs g g') (hunique : UniqueRecords (records g))
    (hnone : stored = none → ofTable (env.record k).schemaName (env.record k).tableName
      (records g) = 0 ∧ SawNone env k past)
    (hsome : ∀ r, stored = some r → ofTable (env.record k).schemaName (env.record k).tableName
      (records g) = {r}) : AllKept env records past hs := by
  cases h with
  | written hwrite =>
    obtain ⟨rfl, rfl⟩ := hcourse.of_singleton
    obtain ⟨hnone, hsaw⟩ := hnone rfl
    exact .cons (versionsKept_written hkeeps hunique hnone hsaw hwrite) allKept_nil
  | failed hbehind hupgrader hask | declined hbehind hupgrader hask =>
    obtain ⟨rfl, -⟩ := hcourse.of_cons
    have hsame := hkeeps.records_upgraded hupgrader hask
    refine .cons (versionsKept_upgrading hunique) (.cons ?_ allKept_nil)
    exact versionsKept_upgraded hunique (hsome _ rfl) hbehind hsame
  | upgraded hbehind hupgrader hask hwrite =>
    obtain ⟨rfl, -⟩ := hcourse.of_cons
    have hsame := hkeeps.records_upgraded hupgrader hask
    have hstored := hsome _ rfl
    refine .cons (versionsKept_upgrading hunique) (.cons ?_ (.cons ?_ allKept_nil))
    · exact versionsKept_upgraded hunique hstored hbehind hsame
    · rw [← hsame] at hunique hstored
      exact versionsKept_advanced hkeeps hunique hstored hbehind ⟨_, _, _, _, rfl⟩ hwrite
  | newer h _ =>
    obtain ⟨rfl, rfl⟩ := hcourse.of_singleton
    exact .cons (versionsKept_of_quiet hunique rfl fun _ _ _ h => nomatch h) allKept_nil
  | current h => exact allKept_nil

theorem Consulted.allKept (hkeeps : KeepsVersions env records) (h : Consulted env k b hs)
    (hcourse : Course env hs g g') (hunique : UniqueRecords (records g)) :
    AllKept env records past hs := by
  cases h with
  | failed hlooked =>
    obtain ⟨rfl, -⟩ := hcourse.of_cons
    exact .cons (hlooked.versionsKept hkeeps hunique) allKept_nil
  | settled hlooked hsettled =>
    obtain ⟨rfl, hrest⟩ := hcourse.of_cons
    obtain ⟨hnone, hsome⟩ := hlooked.ofTable_eq hkeeps hunique
    have hsame := hlooked.records_eq hkeeps
    rw [← hsame] at hnone hsome
    refine .cons (hlooked.versionsKept hkeeps hunique) ?_
    rw [← hsame] at hunique
    exact hsettled.allKept hkeeps hrest hunique hnone hsome

end Check

/-! ## Sessions -/

theorem OnlyChecksWrite.of_append {es es' : List (Event κ)}
    (h : OnlyChecksWrite env records (es ++ es')) :
    OnlyChecksWrite env records es ∧ OnlyChecksWrite env records es' :=
  ⟨fun p kind st he => h p kind st (List.mem_append_left _ he),
    fun p kind st he => h p kind st (List.mem_append_right _ he)⟩

/-- A statement that is no part of a version check leaves the records alone. -/
theorem versionsKept_apart (hkeeps : KeepsVersions env records)
    (hwrites : OnlyChecksWrite env records [m.event]) (hm : Occurs env m)
    (hapart : m.event.IsApart) (hunique : UniqueRecords (records m.before)) :
    VersionsKept env records past m := by
  have hforeign : ∀ {p : Purpose κ} {kind st}, Event.IsApart (.sent p kind st) →
      ∀ k, p ≠ .versionCheck k := by
    rintro p kind st h k rfl
    exact h
  refine versionsKept_of_quiet hunique ?_ ?_
  · cases hm with
    | executed p hkind st g => exact (hwrites p _ st List.mem_cons_self (hforeign hapart) g).1
    | inserted p st g => exact (hwrites p _ st List.mem_cons_self (hforeign hapart) g).2
    | queried p st g => exact hkeeps.query st g
    | upgraded => exact hapart.elim
    | noted => rfl
  · intro k u answer heq
    rw [heq] at hapart
    exact hapart

theorem Segment.allKept (hkeeps : KeepsVersions env records)
    (hwrites : OnlyChecksWrite env records (hs.map (·.event))) (h : Segment env hs)
    (hcourse : Course env hs g g') (hunique : UniqueRecords (records g)) :
    AllKept env records past hs := by
  cases h with
  | apart hapart =>
    cases hcourse with
    | cons hm _ => exact .cons (versionsKept_apart hkeeps hwrites hm hapart hunique) allKept_nil
  | failed hfailed => exact hfailed.allKept hkeeps hcourse hunique
  | passed hpassed =>
    obtain ⟨g₁, hcheck, hmark⟩ := hcourse.of_append
    obtain ⟨rfl, -⟩ := hmark.of_singleton
    have hkept : AllKept env records past _ := hpassed.allKept hkeeps hcheck hunique
    refine hkept.append (.cons ?_ allKept_nil)
    exact versionsKept_of_quiet (hkept.unique hcheck hunique) rfl fun _ _ _ h => nomatch h

theorem Conduct.allKept (hkeeps : KeepsVersions env records)
    (hwrites : OnlyChecksWrite env records (hs.map (·.event))) (h : Conduct env hs)
    (hcourse : Course env hs g g') (hunique : UniqueRecords (records g)) :
    AllKept env records past hs := by
  induction h generalizing past g with
  | nil => exact allKept_nil
  | cons hseg _ ih =>
    rw [List.map_append] at hwrites
    obtain ⟨hwrites, hwrites'⟩ := hwrites.of_append
    obtain ⟨g₁, hfirst, hrest⟩ := hcourse.of_append
    have hkept : AllKept env records past _ := hseg.allKept hkeeps hwrites hfirst hunique
    exact hkept.append (ih hwrites' hrest (hkept.unique hfirst hunique))

end Session

end TableMapping
