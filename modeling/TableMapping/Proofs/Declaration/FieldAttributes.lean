import TableMapping.Proofs.Declaration.FieldSort
import TableMapping.Proofs.Runs

/-!
# The attributes of a field

An attribute is known by its name.  So the contradictions of a field can be told from its
attributes as they are written, before any of them is read; for attributes that are well formed one
by one they are the only ones.

* `ChoosesSeveral`, `EmbedsColumn`: the two contradictions.
* `FieldAttribute.name_of_read`: what is read goes by the name of the attribute.
* `FieldAttribute.ofAttributes_eq_ofList`: a field is made of what its attributes say.
* `FieldDeclaration.ofAttributes_of_read`: which fields are refused, what the others are, and that
  the order of the attributes plays no part.
-/

namespace TableMapping
namespace Declaration

open Runs

/-! ## Contradictions -/

/-- The sort that an attribute chooses for its field. -/
def Attribute.sort? (a : Attribute) : Option FieldSort :=
  match a.name with
  | some "enumeration" => some .enumeration
  | some "enum_type" => some .enumeration
  | some "text" => some .text
  | some "json" => some .document
  | _ => none

/-- Two sorts are chosen, or twice that of a text, or twice that of a document. -/
def ChoosesSeveral (as : List Attribute) : Prop :=
  (∃ a ∈ as, ∃ b ∈ as, ∃ s t, a.sort? = some s ∧ b.sort? = some t ∧ s ≠ t) ∨
    2 ≤ as.countP (fun a => a.isNamed "text") ∨ 2 ≤ as.countP (fun a => a.isNamed "json")

/-- The embedded parent has a column, or a sort of its own. -/
def EmbedsColumn (as : List Attribute) : Prop :=
  (∃ a ∈ as, a.isNamed "parent" = true) ∧
    ∃ a ∈ as, a.isNamed "column" = true ∨ ∃ s, a.sort? = some s

theorem sort?_eq_some_iff {a : Attribute} {s : FieldSort} : a.sort? = some s ↔
    s = .enumeration ∧ (a.isNamed "enumeration" = true ∨ a.isNamed "enum_type" = true) ∨
      s = .text ∧ a.isNamed "text" = true ∨ s = .document ∧ a.isNamed "json" = true := by
  simp only [Attribute.isNamed, beq_iff_eq]
  rw [Attribute.sort?]
  split <;> simp_all [eq_comm]

theorem countP_isNamed {as : List Attribute} {name : String} {s : FieldSort}
    (h : ∀ a : Attribute, a.sort? = some s ↔ a.isNamed name = true) :
    as.countP (fun a => a.isNamed name) = (as.filterMap Attribute.sort?).count s := by
  rw [List.count_filterMap]
  refine List.countP_congr fun a _ => ?_
  rw [← h, beq_iff_eq]

theorem choosesSeveral_iff {as : List Attribute} :
    ChoosesSeveral as ↔ ¬ IsSingle (as.filterMap Attribute.sort?) := by
  have hvalue : FieldSort.value ∉ as.filterMap Attribute.sort? := by
    rw [List.mem_filterMap]
    rintro ⟨a, -, hsort⟩
    rw [sort?_eq_some_iff] at hsort
    simp at hsort
  rw [not_isSingle_iff hvalue, ChoosesSeveral,
    countP_isNamed (s := .text) fun a => by simp [sort?_eq_some_iff],
    countP_isNamed (s := .document) fun a => by simp [sort?_eq_some_iff]]
  refine or_congr_left ⟨?_, ?_⟩
  · rintro ⟨a, ha, b, hb, s, t, hs, ht, hne⟩
    exact ⟨s, List.mem_filterMap.mpr ⟨a, ha, hs⟩, t, List.mem_filterMap.mpr ⟨b, hb, ht⟩, hne⟩
  · rintro ⟨s, hs, t, ht, hne⟩
    obtain ⟨a, ha, hs⟩ := List.mem_filterMap.mp hs
    obtain ⟨b, hb, ht⟩ := List.mem_filterMap.mp ht
    exact ⟨a, ha, b, hb, s, t, hs, ht, hne⟩

/-! ## Reading -/

namespace FieldAttribute

variable {a : Attribute} {as bs : List Attribute}

/-- The name under which an attribute is written. -/
def keyword : FieldAttribute → String
  | .column _ => "column"
  | .enumeration => "enumeration"
  | .encoding _ => "enum_type"
  | .text => "text"
  | .document => "json"
  | .adapter _ => "adapter"
  | .parent => "parent"
  | .skip => "skip"

/-- What is read is written under its name, and what is passed over has another name. -/
theorem name_of_read {x : Option FieldAttribute} (h : ofAttribute a = .ok x) :
    (∃ y, x = some y ∧ a.name = some y.keyword) ∨
      x = none ∧ ∀ y : FieldAttribute, a.name ≠ some y.keyword := by
  unfold ofAttribute at h
  split at h
  case h_1 hname =>
    obtain ⟨c, -, h⟩ := bind_eq_ok.mp h
    cases h
    exact .inl ⟨_, rfl, hname⟩
  case h_3 hname =>
    obtain ⟨e, -, h⟩ := bind_eq_ok.mp h
    cases h
    exact .inl ⟨_, rfl, hname⟩
  case h_6 hname =>
    obtain ⟨text, -, h⟩ := bind_eq_ok.mp h
    split at h
    · cases h
      exact .inl ⟨_, rfl, hname⟩
    · exact nomatch h
  case h_9 hcolumn henumeration hencoding htext hdocument hadapter hparent hskip =>
    cases h
    refine .inr ⟨rfl, fun y => ?_⟩
    cases y <;> assumption
  all_goals
    rename_i hname
    cases h
    exact .inl ⟨_, rfl, hname⟩

/-- What an attribute says of its field, if anything. -/
def known? (a : Attribute) : Option FieldAttribute :=
  (ofAttribute a).toOption.join

theorem ofAttribute_eq_known? (h : ∃ x, ofAttribute a = .ok x) :
    ofAttribute a = .ok (known? a) := by
  obtain ⟨x, hx⟩ := h
  rw [known?, hx]
  cases x <;> rfl

theorem bind_sort?_known? (h : ∃ x, ofAttribute a = .ok x) : (known? a).bind sort? = a.sort? := by
  rcases name_of_read (ofAttribute_eq_known? h) with ⟨y, hy, hname⟩ | ⟨hnone, hname⟩
  · rw [hy, Attribute.sort?, hname]
    cases y <;> rfl
  · rw [hnone, Attribute.sort?]
    split
    · exact absurd ‹_› (hname .enumeration)
    · exact absurd ‹_› (hname (.encoding .name))
    · exact absurd ‹_› (hname .text)
    · exact absurd ‹_› (hname .document)
    · rfl

/-- What is said under a name is said by the attributes with that name. -/
theorem mem_known?_iff (h : ∃ x, ofAttribute a = .ok x) {name : String}
    (hname : ∃ y : FieldAttribute, y.keyword = name) :
    (∃ y, known? a = some y ∧ y.keyword = name) ↔ a.isNamed name = true := by
  rw [Attribute.isNamed, beq_iff_eq]
  rcases name_of_read (ofAttribute_eq_known? h) with ⟨y, hy, hkeyword⟩ | ⟨hnone, hother⟩
  · rw [hy, hkeyword, Option.some.injEq]
    constructor
    · rintro ⟨_, ⟨⟩, heq⟩
      exact heq
    · exact fun heq => ⟨y, rfl, heq⟩
  · obtain ⟨y, rfl⟩ := hname
    rw [hnone]
    exact iff_of_false (fun ⟨_, hsome, _⟩ => nomatch hsome) (hother y)

/-! ### Lists of attributes -/

section Lists

variable (hread : ∀ a ∈ as, ∃ x, ofAttribute a = .ok x)

include hread

theorem ofAttributes_eq_ofList :
    FieldDeclaration.ofAttributes as = FieldDeclaration.ofList (as.filterMap known?) := by
  have hall : as.mapM ofAttribute = .ok (as.map known?) := by
    induction as with
    | nil => rfl
    | cons a as ih =>
      obtain ⟨ha, has⟩ := List.forall_mem_cons.mp hread
      rw [List.mapM_cons, ofAttribute_eq_known? ha, ih has]
      rfl
  rw [FieldDeclaration.ofAttributes, hall]
  show FieldDeclaration.ofList ((as.map known?).filterMap id) = _
  rw [List.filterMap_map, Function.id_comp]

theorem filterMap_sort?_known? :
    (as.filterMap known?).filterMap sort? = as.filterMap Attribute.sort? := by
  rw [List.filterMap_filterMap]
  exact List.filterMap_congr fun a ha => bind_sort?_known? (hread a ha)

theorem exists_mem_known?_iff {name : String} (hname : ∃ y : FieldAttribute, y.keyword = name) :
    (∃ y ∈ as.filterMap known?, y.keyword = name) ↔ ∃ a ∈ as, a.isNamed name = true := by
  constructor
  · rintro ⟨y, hy, hkeyword⟩
    obtain ⟨a, ha, hknown⟩ := List.mem_filterMap.mp hy
    exact ⟨a, ha, (mem_known?_iff (hread a ha) hname).mp ⟨y, hknown, hkeyword⟩⟩
  · rintro ⟨a, ha, hnamed⟩
    obtain ⟨y, hknown, hkeyword⟩ := (mem_known?_iff (hread a ha) hname).mpr hnamed
    exact ⟨y, List.mem_filterMap.mpr ⟨a, ha, hknown⟩, hkeyword⟩

/-- An attribute that alone has its name is said by those with that name. -/
theorem mem_filterMap_known?_iff {x : FieldAttribute} (hx : ∀ y, y.keyword = x.keyword → y = x) :
    x ∈ as.filterMap known? ↔ ∃ a ∈ as, a.isNamed x.keyword = true := by
  rw [← exists_mem_known?_iff hread ⟨x, rfl⟩]
  constructor
  · exact fun hmem => ⟨x, hmem, rfl⟩
  · rintro ⟨y, hy, hkeyword⟩
    rwa [← hx y hkeyword]

theorem parent_mem_known?_iff :
    .parent ∈ as.filterMap known? ↔ ∃ a ∈ as, a.isNamed "parent" = true := by
  refine mem_filterMap_known?_iff hread fun y hy => ?_
  cases y <;> simp [keyword] at hy ⊢

theorem skip_mem_known?_iff :
    .skip ∈ as.filterMap known? ↔ ∃ a ∈ as, a.isNamed "skip" = true := by
  refine mem_filterMap_known?_iff hread fun y hy => ?_
  cases y <;> simp [keyword] at hy ⊢

theorem any_isColumn_known?_iff :
    (as.filterMap known?).any isColumn = true ↔ ∃ a ∈ as, a.isNamed "column" = true := by
  have hname : ∃ y : FieldAttribute, y.keyword = "column" := ⟨.column {}, rfl⟩
  rw [← exists_mem_known?_iff hread hname, List.any_eq_true]
  refine exists_congr fun y => and_congr_right fun _ => ?_
  cases y <;> simp [isColumn, keyword]

theorem parentHasColumn_known?_iff :
    FieldDeclaration.ParentHasColumn (as.filterMap known?) ↔ EmbedsColumn as := by
  rw [FieldDeclaration.ParentHasColumn, EmbedsColumn, parent_mem_known?_iff hread,
    any_isColumn_known?_iff hread, filterMap_sort?_known? hread]
  have hchosen : as.filterMap Attribute.sort? ≠ [] ↔ ∃ a ∈ as, ∃ s, a.sort? = some s := by
    rw [ne_eq, List.filterMap_eq_nil_iff]
    push Not
    simp only [Option.ne_none_iff_exists']
  rw [hchosen]
  simp only [and_or_left, exists_or]

end Lists

end FieldAttribute

namespace FieldDeclaration

variable {as : List Attribute}

section Read

variable (hread : ∀ a ∈ as, ∃ x, FieldAttribute.ofAttribute a = .ok x)

include hread

theorem ofAttributes_of_choosesSeveral (h : ChoosesSeveral as) :
    ofAttributes as = .error .severalSorts := by
  rw [choosesSeveral_iff, ← FieldAttribute.filterMap_sort?_known? hread] at h
  rw [FieldAttribute.ofAttributes_eq_ofList hread, ofList_of_several h]

theorem ofAttributes_of_embedsColumn (h : ¬ ChoosesSeveral as) (hembeds : EmbedsColumn as) :
    ofAttributes as = .error .parentWithColumn := by
  rw [choosesSeveral_iff, not_not, ← FieldAttribute.filterMap_sort?_known? hread] at h
  rw [← FieldAttribute.parentHasColumn_known?_iff hread] at hembeds
  rw [FieldAttribute.ofAttributes_eq_ofList hread, ofList_of_parent h hembeds]

theorem exists_ofAttributes_eq_ok (h : ¬ ChoosesSeveral as) (hembeds : ¬ EmbedsColumn as) :
    ∃ f, ofAttributes as = .ok f ∧
      f.sort = (as.filterMap Attribute.sort?).getLast?.getD .value ∧
      (f.parent = true ↔ ∃ a ∈ as, a.isNamed "parent" = true) ∧
      (f.skip = true ↔ ∃ a ∈ as, a.isNamed "skip" = true) := by
  rw [choosesSeveral_iff, not_not, ← FieldAttribute.filterMap_sort?_known? hread] at h
  rw [← FieldAttribute.parentHasColumn_known?_iff hread] at hembeds
  obtain ⟨f, hf, hcore⟩ := ofList_of_agreeing h hembeds
  rw [FieldAttribute.filterMap_sort?_known? hread, core, Prod.mk.injEq, Prod.mk.injEq] at hcore
  obtain ⟨hsort, hparent, hskip⟩ := hcore
  refine ⟨f, ?_, hsort, ?_, ?_⟩
  · rw [FieldAttribute.ofAttributes_eq_ofList hread, hf]
  · rw [hparent, decide_eq_true_iff, FieldAttribute.parent_mem_known?_iff hread]
  · rw [hskip, decide_eq_true_iff, FieldAttribute.skip_mem_known?_iff hread]

theorem map_core_ofAttributes_of_perm {bs : List Attribute} (h : as.Perm bs) :
    (ofAttributes bs).map core = (ofAttributes as).map core := by
  have hread' : ∀ b ∈ bs, ∃ x, FieldAttribute.ofAttribute b = .ok x :=
    fun b hb => hread b (h.mem_iff.mpr hb)
  rw [FieldAttribute.ofAttributes_eq_ofList hread, FieldAttribute.ofAttributes_eq_ofList hread']
  exact map_core_ofList_of_perm (h.filterMap FieldAttribute.known?)

end Read

/-- **The sort of a field.**  Attributes that are each well formed contradict one another when they
choose several sorts, and when they give the embedded parent a column or a sort; the first is told
before the second.  Otherwise the field has the one sort that is chosen, or that of a plain value.
What is told of the field and of the contradiction is the same for every order of the attributes. -/
theorem ofAttributes_of_read (hread : ∀ a ∈ as, ∃ x, FieldAttribute.ofAttribute a = .ok x) :
    ((∃ e, ofAttributes as = .error e) ↔ ChoosesSeveral as ∨ EmbedsColumn as) ∧
    (ChoosesSeveral as → ofAttributes as = .error .severalSorts) ∧
    (¬ ChoosesSeveral as → EmbedsColumn as → ofAttributes as = .error .parentWithColumn) ∧
    (∀ f, ofAttributes as = .ok f →
      (∀ a ∈ as, ∀ s, a.sort? = some s → f.sort = s) ∧
      ((∀ a ∈ as, a.sort? = none) → f.sort = .value) ∧
      (f.parent = true ↔ ∃ a ∈ as, a.isNamed "parent" = true) ∧
      (f.skip = true ↔ ∃ a ∈ as, a.isNamed "skip" = true)) ∧
    ∀ bs, as.Perm bs → (ofAttributes bs).map core = (ofAttributes as).map core := by
  by_cases hseveral : ChoosesSeveral as
  · have herror := ofAttributes_of_choosesSeveral hread hseveral
    refine ⟨iff_of_true ⟨_, herror⟩ (.inl hseveral), fun _ => herror, fun h => absurd hseveral h,
      fun f hf => ?_, fun bs => map_core_ofAttributes_of_perm hread⟩
    exact nomatch herror.symm.trans hf
  by_cases hembeds : EmbedsColumn as
  · have herror := ofAttributes_of_embedsColumn hread hseveral hembeds
    refine ⟨iff_of_true ⟨_, herror⟩ (.inr hembeds), fun h => absurd h hseveral, fun _ _ => herror,
      fun f hf => ?_, fun bs => map_core_ofAttributes_of_perm hread⟩
    exact nomatch herror.symm.trans hf
  · obtain ⟨f, hf, hsort, hparent, hskip⟩ := exists_ofAttributes_eq_ok hread hseveral hembeds
    refine ⟨iff_of_false (fun ⟨_, herror⟩ => nomatch hf.symm.trans herror)
      (not_or_intro hseveral hembeds), fun h => absurd h hseveral, fun _ h => absurd h hembeds,
      fun g hg => ?_, fun bs => map_core_ofAttributes_of_perm hread⟩
    cases hf.symm.trans hg
    rw [choosesSeveral_iff, not_not] at hseveral
    refine ⟨fun a ha s hs => ?_, fun hnone => ?_, hparent, hskip⟩
    · rw [hsort, hseveral.getLast? (List.mem_filterMap.mpr ⟨a, ha, hs⟩)]
      rfl
    · rw [hsort, List.filterMap_eq_nil_iff.mpr hnone]
      rfl

/-! ### A status -/

/-- The attributes of a status. Its encoding says once more that it is an enumeration. -/
def statusAttributes : List Attribute :=
  [⟨some "enumeration", .none⟩, ⟨some "doc", .literal (.text "where it stands")⟩,
    ⟨some "enum_type", .literal (.text "ordinal")⟩]

/-- A status may choose its sort twice, and in any order. -/
theorem ofAttributes_of_read_status :
    (∀ a ∈ statusAttributes, ∃ x, FieldAttribute.ofAttribute a = .ok x) ∧
      ofAttributes statusAttributes = .ok { sort := .enumeration, encoding := some .ordinal } ∧
      (ofAttributes statusAttributes.reverse).map core = .ok (.enumeration, false, false) := by
  have hencoding : FieldAttribute.ofAttribute ⟨some "enum_type", .literal (.text "ordinal")⟩ =
      .ok (some (.encoding .ordinal)) := by decide +kernel
  have hread : ∀ a ∈ statusAttributes, ∃ x, FieldAttribute.ofAttribute a = .ok x := by
    refine List.forall_mem_cons.mpr ⟨⟨_, rfl⟩, List.forall_mem_cons.mpr ⟨⟨_, rfl⟩, ?_⟩⟩
    exact List.forall_mem_singleton.mpr ⟨_, hencoding⟩
  have hstatus : ofAttributes statusAttributes =
      .ok { sort := .enumeration, encoding := some .ordinal } := by decide +kernel
  obtain ⟨-, -, -, -, hperm⟩ := ofAttributes_of_read hread
  refine ⟨hread, hstatus, ?_⟩
  rw [hperm _ (List.reverse_perm _).symm, hstatus]
  rfl

/-- With the sort of a text among them they are refused. -/
example : ofAttributes (⟨some "text", .none⟩ :: statusAttributes) = .error .severalSorts := by
  decide +kernel

end FieldDeclaration
end Declaration
end TableMapping
