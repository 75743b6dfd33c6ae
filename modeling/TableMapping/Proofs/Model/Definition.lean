import Mathlib.Data.List.Forall2
import Mathlib.Data.List.Nodup
import TableMapping.Proofs.Runs
import TableMapping.Query.Alias

/-!
# What a definition takes from its schema

`define_eq_ok` takes a definition apart into the steps that make it: the columns, the key, the
flags of the key and the indexes.  What the columns have in common is in `Placed`: their names
differ, also when letter case is put aside, and each stands at its own place among the declared
fields.  From there:

* `forall₂_resolveColumns`: a list of names becomes the list of the columns with these letters.
* `mem_primaryKey_iff`: the primary key names the columns of the flagged fields.
* `resolve_handleOf`: the handle of a mapped field stands for that field.
-/

namespace TableMapping

open Runs

/-- Mapped fields with different columns, at different places before `bound`. -/
structure Placed {M : Type} (bound : Nat) (fs : List (MappedField M)) : Prop where
  named : fs.Pairwise fun f g => Text.sameName f.columnName g.columnName = false
  ordered : fs.Pairwise fun f g => f.declaredIndex < g.declaredIndex
  bounded : ∀ f ∈ fs, f.declaredIndex < bound

namespace Placed

variable {M : Type} {bound : Nat} {fs : List (MappedField M)} {f g : MappedField M}

theorem nil : Placed bound ([] : List (MappedField M)) :=
  ⟨.nil, .nil, List.forall_mem_nil _⟩

theorem mono {bound' : Nat} (h : Placed bound fs) (hle : bound ≤ bound') : Placed bound' fs :=
  ⟨h.named, h.ordered, fun f hf => Nat.lt_of_lt_of_le (h.bounded f hf) hle⟩

/-- A field behind the others, whose column none of them has. -/
theorem concat (h : Placed bound fs) (hf : f.declaredIndex = bound)
    (hnew : (fs.any fun g => Text.sameName g.columnName f.columnName) = false) :
    Placed (bound + 1) (fs ++ [f]) := by
  rw [List.any_eq_false] at hnew
  refine ⟨?_, ?_, ?_⟩
  · refine List.pairwise_append.mpr ⟨h.named, List.pairwise_singleton _ _, ?_⟩
    intro g hg f' hf'
    rw [List.mem_singleton.mp hf']
    exact Bool.eq_false_iff.mpr (hnew g hg)
  · refine List.pairwise_append.mpr ⟨h.ordered, List.pairwise_singleton _ _, ?_⟩
    intro g hg f' hf'
    rw [List.mem_singleton.mp hf', hf]
    exact h.bounded g hg
  · intro f' hf'
    rcases List.mem_append.mp hf' with hf' | hf'
    · exact Nat.lt_succ_of_lt (h.bounded f' hf')
    · rw [List.mem_singleton.mp hf', hf]
      exact Nat.lt_succ_self bound

theorem map (h : Placed bound fs) {k : MappedField M → MappedField M}
    (hname : ∀ f, (k f).columnName = f.columnName)
    (hindex : ∀ f, (k f).declaredIndex = f.declaredIndex) : Placed bound (fs.map k) := by
  refine ⟨?_, ?_, ?_⟩
  · refine List.pairwise_map.mpr (h.named.imp ?_)
    intro f g hfg
    rwa [hname, hname]
  · refine List.pairwise_map.mpr (h.ordered.imp ?_)
    intro f g hfg
    rwa [hindex, hindex]
  · intro f' hf'
    obtain ⟨f, hf, rfl⟩ := List.mem_map.mp hf'
    rw [hindex]
    exact h.bounded f hf

/-- Fields with the same column are the same field. -/
theorem eq_of_sameName (h : Placed bound fs) (hf : f ∈ fs) (hg : g ∈ fs)
    (hname : Text.sameName f.columnName g.columnName = true) : f = g := by
  have hsymm : Text.sameName g.columnName f.columnName = true := by
    rw [Text.sameName_iff] at hname ⊢
    exact hname.symm
  obtain ⟨i, hi, rfl⟩ := List.getElem_of_mem hf
  obtain ⟨j, hj, rfl⟩ := List.getElem_of_mem hg
  rcases Nat.lt_trichotomy i j with hij | rfl | hij
  · have hne := List.pairwise_iff_getElem.mp h.named i j hi hj hij
    rw [hname] at hne
    exact nomatch hne
  · rfl
  · have hne := List.pairwise_iff_getElem.mp h.named j i hj hi hij
    rw [hsymm] at hne
    exact nomatch hne

theorem nodup_columnNames (h : Placed bound fs) : (fs.map (·.columnName)).Nodup := by
  refine List.pairwise_map.mpr (h.named.imp ?_)
  rintro f g hfg heq
  rw [heq, Text.sameName_self] at hfg
  exact nomatch hfg

/-- Fields at the same place are the same field. -/
theorem eq_of_declaredIndex (h : Placed bound fs) (hf : f ∈ fs) (hg : g ∈ fs)
    (heq : f.declaredIndex = g.declaredIndex) : f = g := by
  have hnodup : (fs.map fun f => f.declaredIndex).Nodup :=
    List.pairwise_map.mpr (h.ordered.imp Nat.ne_of_lt)
  exact List.inj_on_of_nodup_map hnodup hf hg heq

/-- A field is found by its place. -/
theorem findIdx?_eq (h : Placed bound fs) {i : Nat} (hi : fs[i]? = some f) :
    (fs.findIdx? fun g => g.declaredIndex == f.declaredIndex) = some i := by
  obtain ⟨hlt, rfl⟩ := List.getElem?_eq_some_iff.mp hi
  refine List.findIdx?_eq_some_iff_getElem.mpr ⟨hlt, beq_self_eq_true _, fun j hj hsame => ?_⟩
  have horder := List.pairwise_iff_getElem.mp h.ordered j i (Nat.lt_trans hj hlt) hlt hj
  exact absurd (beq_iff_eq.mp hsame) (Nat.ne_of_lt horder)

end Placed

namespace ModelSchema

variable {M : Type} {s : ModelSchema M} {build : Nat} {d : TableDefinition M}

/-! ## Columns -/

theorem declaredIndex_of_mapField {index : Nat} {f : FieldSpec M} {field : MappedField M}
    (h : s.mapField build index f = .ok field) : field.declaredIndex = index := by
  obtain ⟨dataType, -, heq⟩ := bind_eq_ok.mp h
  cases heq
  rfl

/-- Every column belongs to the build that maps it. -/
theorem build_of_mapField {index : Nat} {f : FieldSpec M} {field : MappedField M}
    (h : s.mapField build index f = .ok field) : field.build = build := by
  obtain ⟨dataType, -, heq⟩ := bind_eq_ok.mp h
  cases heq
  rfl

theorem build_of_mem_mapFields {index : Nat} {earlier mapped : List (MappedField M)}
    {fs : List (FieldSpec M)} (h : s.mapFields build index earlier fs = .ok mapped)
    (hearlier : ∀ f ∈ earlier, f.build = build) : ∀ f ∈ mapped, f.build = build := by
  induction fs generalizing index earlier with
  | nil =>
    cases h
    exact hearlier
  | cons f fs ih =>
    rw [mapFields] at h
    split at h
    · obtain ⟨field, hfield, hrest⟩ := bind_eq_ok.mp h
      split at hrest
      · exact nomatch hrest
      · refine ih hrest fun g hg => ?_
        rcases List.mem_append.mp hg with hg | hg
        · exact hearlier g hg
        · rw [List.mem_singleton.mp hg]
          exact build_of_mapField hfield
    · exact ih h hearlier

theorem placed_mapFields {index : Nat} {earlier mapped : List (MappedField M)}
    {fs : List (FieldSpec M)} (h : s.mapFields build index earlier fs = .ok mapped)
    (hearlier : Placed index earlier) : Placed (index + fs.length) mapped := by
  induction fs generalizing index earlier with
  | nil =>
    cases h
    exact hearlier
  | cons f fs ih =>
    rw [List.length_cons, ← Nat.add_assoc, Nat.add_right_comm]
    rw [mapFields] at h
    split at h
    · obtain ⟨field, hfield, hrest⟩ := bind_eq_ok.mp h
      split at hrest
      · exact nomatch hrest
      · rename_i hnew
        refine ih hrest (hearlier.concat (declaredIndex_of_mapField hfield) ?_)
        exact Bool.eq_false_iff.mpr hnew
    · exact ih h (hearlier.mono (Nat.le_succ index))

/-- Each name stands for the column of a field, whose letters it has. -/
theorem forall₂_resolveColumns {context : String} {fields : List (MappedField M)}
    {names columns : List String} (h : s.resolveColumns context fields names = .ok columns) :
    List.Forall₂ (fun name c => Text.sameName c name = true ∧ ∃ f ∈ fields, f.columnName = c)
      names columns := by
  induction names generalizing columns with
  | nil =>
    cases h
    exact .nil
  | cons name names ih =>
    rw [resolveColumns, List.mapM_cons] at h
    obtain ⟨c, hc, h⟩ := bind_eq_ok.mp h
    obtain ⟨cs, hcs, h⟩ := bind_eq_ok.mp h
    cases h
    split at hc
    · rename_i f hf
      cases hc
      have hsame := List.find?_some hf
      exact .cons ⟨hsame, f, List.mem_of_find?_eq_some hf, rfl⟩ (ih hcs)
    · exact nomatch hc

theorem mem_of_resolveColumns {context : String} {fields : List (MappedField M)}
    {names columns : List String} (h : s.resolveColumns context fields names = .ok columns)
    {c : String} (hc : c ∈ columns) : ∃ f ∈ fields, f.columnName = c := by
  obtain ⟨i, hi, rfl⟩ := List.getElem_of_mem hc
  have hnames := forall₂_resolveColumns h
  exact (hnames.get (hnames.length_eq ▸ hi) hi).2

theorem defineIndexes_cons {fields : List (MappedField M)} {earlier : List IndexDefinition}
    {options : IndexOptions} {rest : List IndexOptions} {name : String} {columns : List String}
    (hname : s.indexName earlier.length options = name)
    (hnew : (earlier.any fun i => Text.sameName i.name name) = false)
    (hcolumns : s.resolveColumns "index" fields options.columns = .ok columns) :
    s.defineIndexes fields earlier (options :: rest) =
      s.defineIndexes fields (earlier ++ [⟨options.kind, name, columns⟩]) rest := by
  simp only [defineIndexes, hname, hnew, hcolumns]
  rfl

/-! ## Definitions -/

/-- A definition has columns without flags, the columns of its key and its indexes, in this
order. -/
theorem define_eq_ok (h : s.define build = .ok d) :
    ∃ mapped, s.mapFields build 0 [] s.declaredFields = .ok mapped ∧
      s.resolveColumns "primary key" mapped (s.keyNames mapped) = .ok d.primaryKey ∧
      d.fields = mapped.map (flagKey d.primaryKey) ∧
      d.declared = s.declaredFields.map (·.name) ∧
      d.schemaName = s.schemaName ∧ d.tableName = s.tableName ∧ d.version = s.version := by
  obtain ⟨mapped, hmapped, h⟩ := bind_eq_ok.mp h
  obtain ⟨key, hkey, h⟩ := bind_eq_ok.mp h
  obtain ⟨indexes, -, h⟩ := bind_eq_ok.mp h
  cases h
  exact ⟨mapped, hmapped, hkey, rfl, rfl, rfl, rfl, rfl⟩

/-- The indexes are defined over the flagged columns. -/
theorem defineIndexes_of_define (h : s.define build = .ok d) :
    s.defineIndexes d.fields [] s.indexes = .ok d.indexes := by
  obtain ⟨mapped, -, h⟩ := bind_eq_ok.mp h
  obtain ⟨key, -, h⟩ := bind_eq_ok.mp h
  obtain ⟨indexes, hindexes, h⟩ := bind_eq_ok.mp h
  cases h
  exact hindexes

theorem build_of_define (h : s.define build = .ok d) : ∀ f ∈ d.fields, f.build = build := by
  obtain ⟨mapped, hmapped, -, hfields, -⟩ := define_eq_ok h
  rw [hfields, List.forall_mem_map]
  exact build_of_mem_mapFields hmapped (fun _ hf => absurd hf List.not_mem_nil)

theorem schemaName_of_define (h : s.define build = .ok d) : d.schemaName = s.schemaName := by
  obtain ⟨_, -, -, -, -, hname, -, -⟩ := define_eq_ok h
  exact hname

theorem tableName_of_define (h : s.define build = .ok d) : d.tableName = s.tableName := by
  obtain ⟨_, -, -, -, -, -, hname, -⟩ := define_eq_ok h
  exact hname

theorem version_of_define (h : s.define build = .ok d) : d.version = s.version := by
  obtain ⟨_, -, -, -, -, -, -, hversion⟩ := define_eq_ok h
  exact hversion

theorem placed_of_define (h : s.define build = .ok d) : Placed d.declared.length d.fields := by
  obtain ⟨mapped, hmapped, -, hfields, hdeclared, -⟩ := define_eq_ok h
  have hplaced := placed_mapFields hmapped .nil
  rw [Nat.zero_add] at hplaced
  rw [hfields, hdeclared, List.length_map]
  exact hplaced.map (fun _ => rfl) fun _ => rfl

/-- The primary key names the columns of the flagged fields. -/
theorem mem_primaryKey_iff (h : s.define build = .ok d) {c : String} :
    c ∈ d.primaryKey ↔ ∃ f ∈ d.fields, f.isPrimaryKey = true ∧ f.columnName = c := by
  have hplaced := placed_of_define h
  obtain ⟨mapped, -, hkey, hfields, -⟩ := define_eq_ok h
  have hflag : ∀ f ∈ d.fields,
      f.isPrimaryKey = d.primaryKey.any fun k => Text.sameName k f.columnName := by
    intro f hf
    rw [hfields] at hf
    obtain ⟨g, -, rfl⟩ := List.mem_map.mp hf
    rfl
  have hcolumn : ∀ c ∈ d.primaryKey, ∃ f ∈ d.fields, f.columnName = c := by
    intro c hc
    obtain ⟨g, hg, rfl⟩ := mem_of_resolveColumns hkey hc
    refine ⟨flagKey d.primaryKey g, ?_, rfl⟩
    rw [hfields]
    exact List.mem_map_of_mem hg
  constructor
  · intro hc
    obtain ⟨f, hf, rfl⟩ := hcolumn c hc
    refine ⟨f, hf, ?_, rfl⟩
    rw [hflag f hf, List.any_eq_true]
    exact ⟨f.columnName, hc, Text.sameName_self _⟩
  · rintro ⟨f, hf, hprimary, rfl⟩
    rw [hflag f hf, List.any_eq_true] at hprimary
    obtain ⟨k, hk, hsame⟩ := hprimary
    obtain ⟨g, hg, rfl⟩ := hcolumn k hk
    rwa [← hplaced.eq_of_sameName hg hf hsame]

/-- The handle of a mapped field stands for that field. -/
theorem resolve_handleOf (h : s.define build = .ok d) {f : MappedField M} (hf : f ∈ d.fields)
    {a : Alias M} (ha : a.definition = d) : a.resolve (a.handleOf f) = .ok f := by
  subst ha
  have hplaced := placed_of_define h
  obtain ⟨position, hposition⟩ := List.mem_iff_getElem?.mp hf
  have hdeclared := List.getElem?_eq_getElem (hplaced.bounded f hf)
  have htarget : a.definition.targets[f.declaredIndex]? = some (.mapped position) := by
    rw [TableDefinition.targets, List.getElem?_mapIdx, hdeclared, Option.map_some,
      hplaced.findIdx?_eq hposition]
  have hresolved : a.definition.resolveIn a.number (a.handleOf f) = .ok position := by
    rw [TableDefinition.resolveIn, Alias.handleOf, Alias.handle, if_pos rfl, htarget]
  rw [Alias.resolve, hresolved]
  show a.definition.fieldAt position = .ok f
  rw [TableDefinition.fieldAt, hposition]

end ModelSchema
end TableMapping
