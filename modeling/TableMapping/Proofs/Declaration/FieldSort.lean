import Mathlib.Data.List.Basic
import TableMapping.Declaration.Field

/-!
# The choices of a field's sort

The attributes of a field are taken over one after the other.  All that is kept of the sorts they
choose is the last one and a counter, which an enumeration that is chosen behind an enumeration does
not raise.  The number it comes to depends on the order: an enumeration on both sides of a text
counts twice.  What is decided by it does not, for it comes to two exactly when the choices are more
than one and not all of an enumeration.

* `IsSingle`: choices that come down to one sort; `IsSingle.eq_of_perm`: they have but one order.
* `FieldDraft.Tallies`, `FieldDraft.IsDraft`: what a draft keeps of the choices, and of all the
  attributes; `IsDraft.take` for one more of them and `isDraft_foldl` for all.
* `FieldDeclaration.ofList_of_several`, `ofList_of_parent`, `ofList_of_agreeing`: what the
  attributes come to.
* `FieldDeclaration.map_core_ofList_of_perm`: and that their order plays no part.
-/

namespace TableMapping
namespace Declaration

/-! ## Choices -/

/-- The choices come down to one sort at most: there is no second one, or all say that the field is
an enumeration. -/
def IsSingle (sorts : List FieldSort) : Prop :=
  sorts.length ≤ 1 ∨ ∀ s ∈ sorts, s = .enumeration

section Choices

variable {sorts sorts' : List FieldSort} {s : FieldSort}

/-- A sort other than that of an enumeration is chosen alone. -/
theorem isSingle_concat_of_ne (hs : s ≠ .enumeration) : IsSingle (sorts ++ [s]) ↔ sorts = [] := by
  constructor
  · rintro (hlength | hall)
    · rw [List.length_append, List.length_singleton] at hlength
      exact List.length_eq_zero_iff.mp (by omega)
    · exact absurd (hall s (List.mem_append_right _ (List.mem_singleton.mpr rfl))) hs
  · rintro rfl
    exact .inl Nat.le.refl

/-- An enumeration may be chosen behind enumerations. -/
theorem isSingle_concat_enumeration :
    IsSingle (sorts ++ [.enumeration]) ↔ ∀ s ∈ sorts, s = .enumeration := by
  constructor
  · rintro (hlength | hall)
    · rw [List.length_append, List.length_singleton] at hlength
      have hnil : sorts = [] := List.length_eq_zero_iff.mp (by omega)
      rw [hnil]
      exact List.forall_mem_nil _
    · exact fun s hs => hall s (List.mem_append_left _ hs)
  · intro hall
    refine .inr fun s hs => ?_
    rcases List.mem_append.mp hs with hs | hs
    · exact hall s hs
    · exact List.mem_singleton.mp hs

/-- The sort of a single choice is that of every choice. -/
theorem IsSingle.getLast? (h : IsSingle sorts) (hs : s ∈ sorts) : sorts.getLast? = some s := by
  rcases h with hlength | hall
  · obtain ⟨t, rfl⟩ := List.length_eq_one_iff.mp
      (Nat.le_antisymm hlength (List.length_pos_of_mem hs))
    rw [List.mem_singleton.mp hs]
    rfl
  · have hne := List.ne_nil_of_mem hs
    have hlast := hall _ (List.getLast_mem hne)
    rw [List.getLast?_eq_some_getLast hne, hlast, hall s hs]

theorem IsSingle.perm (h : IsSingle sorts) (hperm : sorts.Perm sorts') : IsSingle sorts' := by
  rcases h with hlength | hall
  · exact .inl (hperm.length_eq ▸ hlength)
  · exact .inr fun s hs => hall s (hperm.mem_iff.mpr hs)

/-- Another order of a single choice is the same order. -/
theorem IsSingle.eq_of_perm (h : IsSingle sorts) (hperm : sorts.Perm sorts') : sorts' = sorts := by
  rcases h with hlength | hall
  · match sorts, hlength with
    | [], _ => exact List.nil_perm.mp hperm
    | [s], _ => exact List.singleton_perm.mp hperm |>.symm
  · rw [List.eq_replicate_of_mem hall] at hperm ⊢
    exact List.replicate_perm.mp hperm |>.symm

/-- Choices that do not come down to one sort are of two sorts, or make a choice twice that may be
made but once. -/
theorem not_isSingle_iff (hvalue : .value ∉ sorts) :
    ¬ IsSingle sorts ↔ (∃ s ∈ sorts, ∃ t ∈ sorts, s ≠ t) ∨
      2 ≤ sorts.count .text ∨ 2 ≤ sorts.count .document := by
  constructor
  · intro h
    rw [IsSingle, not_or, Nat.not_le] at h
    obtain ⟨hlength, hother⟩ := h
    push Not at hother
    obtain ⟨s, hs, hne⟩ := hother
    by_cases hall : ∀ t ∈ sorts, t = s
    · have hcount : sorts.count s = sorts.length := by
        rw [List.eq_replicate_of_mem hall, List.count_replicate_self, List.length_replicate]
      rw [← hcount] at hlength
      cases s with
      | value => exact absurd hs hvalue
      | enumeration => exact absurd rfl hne
      | text => exact .inr (.inl hlength)
      | document => exact .inr (.inr hlength)
    · push Not at hall
      obtain ⟨t, ht, hts⟩ := hall
      exact .inl ⟨t, ht, s, hs, hts⟩
  · have hrepeated : ∀ s, s ≠ .enumeration → 2 ≤ sorts.count s → ¬ IsSingle sorts := by
      rintro s hs hcount (hlength | hall)
      · have hle := List.count_le_length (a := s) (l := sorts)
        omega
      · have hmem : s ∈ sorts := List.count_pos_iff.mp (by omega)
        exact hs (hall s hmem)
    rintro (⟨s, hs, t, ht, hne⟩ | htext | hdocument) hsingle
    · have hsame := (hsingle.getLast? hs).symm.trans (hsingle.getLast? ht)
      exact hne (Option.some.inj hsame)
    · exact hrepeated .text nofun htext hsingle
    · exact hrepeated .document nofun hdocument hsingle

end Choices

/-! ## Drafts -/

namespace FieldAttribute

/-- The sort that an attribute chooses. -/
def sort? : FieldAttribute → Option FieldSort
  | .enumeration => some .enumeration
  | .encoding _ => some .enumeration
  | .text => some .text
  | .document => some .document
  | _ => none

/-- Whether an attribute gives the options of the column. -/
def isColumn : FieldAttribute → Bool
  | .column _ => true
  | _ => false

end FieldAttribute

namespace FieldDraft

variable {as bs : List FieldAttribute} {sorts : List FieldSort} {d : FieldDraft}

/-- What a draft keeps of the sorts that were chosen: the last one, whether there is any, and
whether they come down to one. -/
structure Tallies (sorts : List FieldSort) (d : FieldDraft) : Prop where
  sort : d.field.sort = sorts.getLast?.getD .value
  several : 1 < d.choices ↔ ¬ IsSingle sorts
  chosen : 0 < d.choices ↔ sorts ≠ []

theorem tallies_nil : Tallies [] ⟨{}, 0⟩ where
  sort := rfl
  several := iff_of_false (Nat.not_lt_zero 1) (not_not_intro (.inl (Nat.zero_le 1)))
  chosen := iff_of_false (Nat.lt_irrefl 0) (not_not_intro rfl)

/-- A choice that always counts. -/
theorem Tallies.choose (h : Tallies sorts d) {s : FieldSort} (hs : s ≠ .enumeration) :
    Tallies (sorts ++ [s]) (d.choose s) where
  sort := by rw [List.getLast?_concat]; rfl
  several := by rw [isSingle_concat_of_ne hs, ← ne_eq, ← h.chosen]; exact Nat.succ_lt_succ_iff
  chosen := iff_of_true (Nat.succ_pos _) (List.append_ne_nil_of_right_ne_nil _ nofun)

/-- A choice that counts unless it was the last one before. -/
theorem Tallies.chooseEnumeration (h : Tallies sorts d) :
    Tallies (sorts ++ [.enumeration]) d.chooseEnumeration := by
  rw [FieldDraft.chooseEnumeration]
  by_cases hsame : d.field.sort = .enumeration
  · rw [if_pos hsame]
    have hlast : sorts.getLast? = some .enumeration := by
      rw [h.sort] at hsame
      cases hlast : sorts.getLast? with
      | none => rw [hlast] at hsame; exact nomatch hsame
      | some s => rw [hlast] at hsame; exact congrArg some hsame
    have hmem := List.mem_of_getLast? hlast
    refine ⟨?_, ?_, ?_⟩
    · rw [List.getLast?_concat]
      exact hsame
    · rw [h.several, isSingle_concat_enumeration]
      refine not_congr ⟨fun hsingle s hs => ?_, .inr⟩
      exact Option.some.inj ((hsingle.getLast? hs).symm.trans hlast)
    · rw [h.chosen]
      exact iff_of_true (List.ne_nil_of_mem hmem) (List.append_ne_nil_of_right_ne_nil _ nofun)
  · rw [if_neg hsame]
    refine ⟨?_, ?_, ?_⟩
    · rw [List.getLast?_concat]
      rfl
    · -- The last choice was another sort, so enumerations alone are no choice at all.
      have hnone : (∀ s ∈ sorts, s = .enumeration) ↔ sorts = [] := by
        constructor
        · intro hall
          by_contra hne
          have hlast := hall _ (List.getLast_mem hne)
          rw [h.sort, List.getLast?_eq_some_getLast hne, hlast] at hsame
          exact hsame rfl
        · rintro rfl
          exact List.forall_mem_nil _
      rw [isSingle_concat_enumeration, hnone, ← ne_eq, ← h.chosen]
      exact Nat.succ_lt_succ_iff
    · exact iff_of_true (Nat.succ_pos _) (List.append_ne_nil_of_right_ne_nil _ nofun)

/-! ### Marks -/

theorem field_chooseEnumeration (d : FieldDraft) :
    d.chooseEnumeration.field = { d.field with sort := .enumeration } := by
  rw [FieldDraft.chooseEnumeration]
  split
  · rename_i hsame
    rw [← hsame]
  · rfl

theorem isSome_column_take (d : FieldDraft) (a : FieldAttribute) :
    (d.take a).field.column.isSome = (d.field.column.isSome || a.isColumn) := by
  cases a <;> simp [take, choose, field_chooseEnumeration, FieldAttribute.isColumn]

theorem parent_take (d : FieldDraft) (a : FieldAttribute) :
    (d.take a).field.parent = (d.field.parent || decide (a = .parent)) := by
  cases a <;> simp [take, choose, field_chooseEnumeration]

theorem skip_take (d : FieldDraft) (a : FieldAttribute) :
    (d.take a).field.skip = (d.field.skip || decide (a = .skip)) := by
  cases a <;> simp [take, choose, field_chooseEnumeration]

/-! ### Attributes in order -/

/-- A draft holds what these attributes say. -/
structure IsDraft (as : List FieldAttribute) (d : FieldDraft) : Prop where
  tally : Tallies (as.filterMap FieldAttribute.sort?) d
  column : d.field.column.isSome = as.any FieldAttribute.isColumn
  parent : d.field.parent = decide (.parent ∈ as)
  skip : d.field.skip = decide (.skip ∈ as)

theorem isDraft_nil : IsDraft [] ⟨{}, 0⟩ :=
  ⟨tallies_nil, rfl, rfl, rfl⟩

theorem tallies_take (h : Tallies sorts d) (a : FieldAttribute) :
    Tallies (sorts ++ a.sort?.toList) (d.take a) := by
  cases a with
  | enumeration => exact h.chooseEnumeration
  | encoding e => exact Tallies.chooseEnumeration ⟨h.sort, h.several, h.chosen⟩
  | text => exact h.choose nofun
  | document => exact h.choose nofun
  | column | adapter | parent | skip =>
    show Tallies (sorts ++ []) _
    rw [List.append_nil]
    exact ⟨h.sort, h.several, h.chosen⟩

theorem IsDraft.take (h : IsDraft as d) (a : FieldAttribute) : IsDraft (as ++ [a]) (d.take a) where
  tally := by
    have hsorts : (as ++ [a]).filterMap FieldAttribute.sort? =
        as.filterMap FieldAttribute.sort? ++ a.sort?.toList := by
      rw [List.filterMap_append]
      cases hsort : a.sort? <;> simp [hsort]
    rw [hsorts]
    exact tallies_take h.tally a
  column := by simp [isSome_column_take, h.column]
  parent := by simp [parent_take, h.parent, eq_comm]
  skip := by simp [skip_take, h.skip, eq_comm]

theorem IsDraft.foldl (h : IsDraft as d) : IsDraft (as ++ bs) (bs.foldl FieldDraft.take d) := by
  induction bs generalizing as d with
  | nil => rwa [List.append_nil]
  | cons b bs ih =>
    rw [List.append_cons]
    exact ih (h.take b)

theorem isDraft_foldl (as : List FieldAttribute) :
    IsDraft as (as.foldl FieldDraft.take ⟨{}, 0⟩) :=
  isDraft_nil.foldl

end FieldDraft

/-! ## Fields -/

namespace FieldDeclaration

variable {as bs : List FieldAttribute}

/-- What a field is, apart from the options of its column and the ways of writing its values. -/
def core (f : FieldDeclaration) : FieldSort × Bool × Bool :=
  (f.sort, f.parent, f.skip)

theorem ofList_of_several (h : ¬ IsSingle (as.filterMap FieldAttribute.sort?)) :
    ofList as = .error .severalSorts := by
  rw [ofList, FieldDraft.finish, if_pos ((FieldDraft.isDraft_foldl as).tally.several.mpr h)]

/-- The embedded parent has a column or a sort. -/
def ParentHasColumn (as : List FieldAttribute) : Prop :=
  .parent ∈ as ∧ (as.any FieldAttribute.isColumn = true ∨ as.filterMap FieldAttribute.sort? ≠ [])

theorem parent_and_iff {d : FieldDraft} (h : FieldDraft.IsDraft as d) :
    (d.field.parent && (d.field.column.isSome || 0 < d.choices)) = true ↔ ParentHasColumn as := by
  rw [Bool.and_eq_true, Bool.or_eq_true, h.parent, h.column, decide_eq_true_iff, decide_eq_true_iff,
    h.tally.chosen, ParentHasColumn]

theorem ofList_of_parent (h : IsSingle (as.filterMap FieldAttribute.sort?))
    (hparent : ParentHasColumn as) : ofList as = .error .parentWithColumn := by
  have hdraft := FieldDraft.isDraft_foldl as
  rw [ofList, FieldDraft.finish, if_neg (mt hdraft.tally.several.mp (not_not_intro h)),
    if_pos ((parent_and_iff hdraft).mpr hparent)]

theorem ofList_of_agreeing (h : IsSingle (as.filterMap FieldAttribute.sort?))
    (hparent : ¬ ParentHasColumn as) : ∃ f, ofList as = .ok f ∧
      f.core = ((as.filterMap FieldAttribute.sort?).getLast?.getD .value, decide (.parent ∈ as),
        decide (.skip ∈ as)) := by
  have hdraft := FieldDraft.isDraft_foldl as
  refine ⟨(as.foldl FieldDraft.take ⟨{}, 0⟩).field, ?_, ?_⟩
  · rw [ofList, FieldDraft.finish, if_neg (mt hdraft.tally.several.mp (not_not_intro h)),
      if_neg (mt (parent_and_iff hdraft).mp hparent)]
  · rw [core, hdraft.tally.sort, hdraft.parent, hdraft.skip]

/-- The order of the attributes plays no part. -/
theorem map_core_ofList_of_perm (h : as.Perm bs) :
    (ofList bs).map core = (ofList as).map core := by
  have hsorts := h.filterMap FieldAttribute.sort?
  have hparent : ParentHasColumn bs ↔ ParentHasColumn as := by
    rw [ParentHasColumn, ParentHasColumn, h.mem_iff, h.any_eq, ne_eq, ne_eq,
      ← List.perm_nil, ← List.perm_nil, hsorts.congr_left]
  by_cases hsingle : IsSingle (as.filterMap FieldAttribute.sort?)
  · by_cases hembeds : ParentHasColumn as
    · rw [ofList_of_parent hsingle hembeds,
        ofList_of_parent (hsingle.perm hsorts) (hparent.mpr hembeds)]
    · obtain ⟨f, hf, hcore⟩ := ofList_of_agreeing hsingle hembeds
      obtain ⟨g, hg, hcore'⟩ :=
        ofList_of_agreeing (hsingle.perm hsorts) (mt hparent.mp hembeds)
      rw [hf, hg, Except.map, Except.map, hcore, hcore', hsingle.eq_of_perm hsorts]
      simp only [h.mem_iff]
  · rw [ofList_of_several hsingle,
      ofList_of_several fun h' => hsingle (h'.perm hsorts.symm)]

end FieldDeclaration

end Declaration
end TableMapping
