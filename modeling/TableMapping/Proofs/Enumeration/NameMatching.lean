import TableMapping.Proofs.Enumeration.NameReading

/-!
# Texts that are nobody's name

A stored text that is not the name of a member may still stand for one, in two ways: a member may
have it for its name up to ASCII case, or have a name that starts with it.  Each way is taken when it
leads to one member, the first before the second, and neither looks at the other.  So a text can be
read although several members match it: one of them up to case and the others by their starts, or
one of them by its start and several up to case.

* `Enumeration.Only`: one member has a property, and no other.
* `decode_eq_some_iff`: which member a text is read as, when it is nobody's name.
* `Enumeration.Guesses`: the texts that several members match and one way leads to one of them.
* `decode_matching`: every other text is read as the only member that matches it, or refused.
* `decode_guesses`: two texts that are read as one of the members that match them.
-/

namespace TableMapping

namespace Member

/-- A member has a text for its name up to ASCII case. -/
def HasName (text : String) (m : Member) : Prop :=
  Text.sameName m.name text = true

/-- The name of a member starts with a text, which is not empty. -/
def StartsWith (text : String) (m : Member) : Prop :=
  text ≠ "" ∧ text.toList <+: m.name.toList

/-- A member matches a text, in one way or the other. -/
def Matches (text : String) (m : Member) : Prop :=
  m.HasName text ∨ m.StartsWith text

end Member

namespace Enumeration

open Member

/-- A member is the only one of an enumeration with a property. -/
structure Only (e : Enumeration) (p : Member → Prop) (f : Member) : Prop where
  enumeration_eq : f.enumeration = e
  holds : p f
  unique : ∀ g : Member, g.enumeration = e → p g → g = f

/-- One of the two ways leads from a text to one member, which is not the only one that matches the
text. -/
def Guesses (e : Enumeration) (text : String) : Prop :=
  (∃ f, e.Only (HasName text) f ∨ e.Only (StartsWith text) f) ∧ ∀ f, ¬e.Only (Matches text) f

variable {e : Enumeration} {text : String} {p q : Member → Prop} {f : Member}

/-- The only member with a property is also the only one with a narrower property that it has. -/
theorem Only.narrow (h : e.Only p f) (hq : q f) (hqp : ∀ g, q g → p g) : e.Only q f where
  enumeration_eq := h.enumeration_eq
  holds := hq
  unique g hg hqg := h.unique g hg (hqp g hqg)

/-- A member that is not the only one with its property is not alone. -/
theorem exists_ne_of_not_only (he : f.enumeration = e) (hp : p f) (h : ¬e.Only p f) :
    ∃ g : Member, g.enumeration = e ∧ g ≠ f ∧ p g := by
  by_contra hnone
  refine h ⟨he, hp, fun g hg hpg => ?_⟩
  by_contra hne
  exact hnone ⟨g, hg, hne, hpg⟩

/-! ## The two ways -/

/-- A test of declarations leads to one position when one member passes it, and no other. -/
theorem single?_positions_eq_some_ordinal_iff {test : MemberDeclaration → Bool}
    (htest : ∀ m : Member, test m.declaration = true ↔ p m) (he : f.enumeration = e) :
    single? (e.positions test) = some f.ordinal ↔ e.Only p f := by
  have hmem : ∀ m : Member, m.enumeration = e → (m.ordinal ∈ e.positions test ↔ p m) := by
    rintro m rfl
    rw [mem_positions, ← htest m]
    exact ⟨fun h => h.2, fun h => ⟨m.ordinal_lt, h⟩⟩
  rw [single?_positions_eq_some_iff]
  constructor
  · intro h
    refine ⟨he, (hmem f he).mp ((h f.ordinal).mpr rfl), fun g hg hpg => ?_⟩
    exact ext_ordinal (hg.trans he.symm) ((h g.ordinal).mp ((hmem g hg).mpr hpg))
  · intro h j
    constructor
    · intro hj
      have hlt : j < e.members.length := (mem_positions.mp hj).1
      exact congrArg Member.ordinal (h.unique ⟨e, j, hlt⟩ rfl ((hmem ⟨e, j, hlt⟩ rfl).mp hj))
    · rintro rfl
      exact (hmem f he).mpr h.holds

/-- A test that leads to no position is passed by no member, or by several. -/
theorem single?_positions_eq_none_iff {test : MemberDeclaration → Bool}
    (htest : ∀ m : Member, test m.declaration = true ↔ p m) :
    single? (e.positions test) = none ↔ ∀ f, ¬e.Only p f := by
  constructor
  · intro h f hf
    have hsome := (single?_positions_eq_some_ordinal_iff htest hf.enumeration_eq).mpr hf
    rw [h] at hsome
    exact nomatch hsome
  · intro h
    cases hsingle : single? (e.positions test) with
    | none => rfl
    | some i =>
      have hlt : i < e.members.length := (mem_positions.mp (mem_of_single? hsingle)).1
      exact absurd ((single?_positions_eq_some_ordinal_iff (f := ⟨e, i, hlt⟩) htest rfl).mp hsingle)
        (h ⟨e, i, hlt⟩)

theorem startTest_iff (m : Member) :
    (!text.isEmpty && text.toList.isPrefixOf m.declaration.name.toList) = true ↔
      m.StartsWith text := by
  rw [Bool.and_eq_true, List.isPrefixOf_iff_prefix, StartsWith]
  simp [Member.name]

/-- A text that is nobody's name is asked for in the two ways, one after the other. -/
theorem ordinalOfText?_eq_or (hother : ∀ d ∈ e.members, d.name ≠ text) :
    e.ordinalOfText? text =
      (single? (e.sameNamePositions text)).or (single? (e.startPositions text)) := by
  rw [ordinalOfText?, ordinalOf?_eq_none hother]
  cases single? (e.sameNamePositions text) <;> rfl

end Enumeration

namespace Member

open Enumeration

variable {e : Enumeration} {text : String} {f : Member}

/-! ## What is read -/

theorem decode_text_eq_some_iff :
    decode e .name (.text text) = .ok (some f) ↔
      f.enumeration = e ∧ e.ordinalOfText? text = some f.ordinal := by
  constructor
  · intro h
    cases hread : e.ordinalOfText? text with
    | none =>
      rw [decode_eq_error hread] at h
      exact nomatch h
    | some i =>
      obtain ⟨g, he, rfl, -⟩ := answer_of_ordinalOfText? hread
      have hg : decode e .name (.text text) = .ok (some g) := by
        subst he
        exact decode_eq_some hread
      rw [hg] at h
      cases h
      exact ⟨he, rfl⟩
  · rintro ⟨rfl, h⟩
    exact decode_eq_some h

/-- A text is read as a member or refused. -/
theorem decode_text_eq_error (h : ∀ f, decode e .name (.text text) ≠ .ok (some f)) :
    decode e .name (.text text) = .error (.unknownEnumValue e.name (Value.text text).shown) := by
  refine decode_eq_error ?_
  cases hread : e.ordinalOfText? text with
  | none => rfl
  | some i =>
    obtain ⟨g, he, rfl, -⟩ := answer_of_ordinalOfText? hread
    exact absurd (decode_text_eq_some_iff.mpr ⟨he, hread⟩) (h g)

/-- A text that is nobody's name is read as the only member that has it for its name up to case;
where there is none or there are several, as the only member whose name starts with it. -/
theorem decode_eq_some_iff (hother : ∀ d ∈ e.members, d.name ≠ text) :
    decode e .name (.text text) = .ok (some f) ↔
      e.Only (HasName text) f ∨
        (∀ g, ¬e.Only (HasName text) g) ∧ e.Only (StartsWith text) f := by
  have hname : ∀ m : Member, Text.sameName m.declaration.name text = true ↔ m.HasName text :=
    fun m => Iff.rfl
  rw [decode_text_eq_some_iff, ordinalOfText?_eq_or hother, Option.or_eq_some_iff]
  constructor
  · rintro ⟨he, hsame | ⟨hnone, hstart⟩⟩
    · exact .inl ((single?_positions_eq_some_ordinal_iff hname he).mp hsame)
    · exact .inr ⟨(single?_positions_eq_none_iff hname).mp hnone,
        (single?_positions_eq_some_ordinal_iff startTest_iff he).mp hstart⟩
  · rintro (hf | ⟨hnone, hf⟩)
    · exact ⟨hf.enumeration_eq,
        .inl ((single?_positions_eq_some_ordinal_iff hname hf.enumeration_eq).mpr hf)⟩
    · exact ⟨hf.enumeration_eq, .inr ⟨(single?_positions_eq_none_iff hname).mpr hnone,
        (single?_positions_eq_some_ordinal_iff startTest_iff hf.enumeration_eq).mpr hf⟩⟩

/-- Whatever is read matches the text. -/
theorem only_of_decode (hother : ∀ d ∈ e.members, d.name ≠ text)
    (h : decode e .name (.text text) = .ok (some f)) :
    e.Only (HasName text) f ∨ e.Only (StartsWith text) f :=
  ((decode_eq_some_iff hother).mp h).imp_right And.right

theorem matches_of_only (h : e.Only (HasName text) f ∨ e.Only (StartsWith text) f) :
    f.enumeration = e ∧ f.Matches text := by
  rcases h with h | h
  · exact ⟨h.enumeration_eq, .inl h.holds⟩
  · exact ⟨h.enumeration_eq, .inr h.holds⟩

/-- Where one of the ways leads to one member, some member is read. -/
theorem exists_decode_of_only (hother : ∀ d ∈ e.members, d.name ≠ text)
    (h : e.Only (HasName text) f ∨ e.Only (StartsWith text) f) :
    ∃ g, decode e .name (.text text) = .ok (some g) := by
  by_cases hname : ∃ g, e.Only (HasName text) g
  · obtain ⟨g, hg⟩ := hname
    exact ⟨g, (decode_eq_some_iff hother).mpr (.inl hg)⟩
  · have hnone : ∀ g, ¬e.Only (HasName text) g := fun g hg => hname ⟨g, hg⟩
    rcases h with h | h
    · exact absurd h (hnone f)
    · exact ⟨f, (decode_eq_some_iff hother).mpr (.inr ⟨hnone, h⟩)⟩

/-- The only member that matches a text is read. -/
theorem decode_of_only_matches (hother : ∀ d ∈ e.members, d.name ≠ text)
    (h : e.Only (Matches text) f) : decode e .name (.text text) = .ok (some f) := by
  have hway : e.Only (HasName text) f ∨ e.Only (StartsWith text) f :=
    h.holds.imp (fun hf => h.narrow hf fun _ => .inl) fun hf => h.narrow hf fun _ => .inr
  obtain ⟨g, hg⟩ := exists_decode_of_only hother hway
  obtain ⟨he, hmatches⟩ := matches_of_only (only_of_decode hother hg)
  rw [hg, h.unique g he hmatches]

/-- The empty text matches nobody who has a name. -/
theorem not_matches_empty (h : f.name ≠ "") : ¬f.Matches "" := by
  rintro (hname | hstart)
  · rw [HasName, Text.sameName_iff] at hname
    exact h (String.toList_eq_nil_iff.mp (List.map_eq_nil_iff.mp hname))
  · exact hstart.1 rfl

/-- Where nothing is guessed, the member that is read is the only one that matches. -/
theorem decode_matching_iff (hother : ∀ d ∈ e.members, d.name ≠ text) (hsure : ¬e.Guesses text)
    (f : Member) : decode e .name (.text text) = .ok (some f) ↔ e.Only (Matches text) f := by
  refine ⟨fun hf => ?_, decode_of_only_matches hother⟩
  have hway := only_of_decode hother hf
  obtain ⟨he, hmatches⟩ := matches_of_only hway
  by_contra hnot
  refine hsure ⟨⟨f, hway⟩, fun g hg => ?_⟩
  rw [hg.unique f he hmatches] at hnot
  exact hnot hg

/-- **What a text stands for that is nobody's name.**  It is read as the only member that has it for
its name up to ASCII case, and where that does not lead to one member as the only one whose name
starts with it; otherwise it is refused.  Unless one of the ways leads to one of several members that
match, this is to read the only member that matches and to refuse a text that none or several match;
and where it is not, a member is read although another matches.  The empty text is refused. -/
theorem decode_matching (hother : ∀ d ∈ e.members, d.name ≠ text) :
    (∀ f, decode e .name (.text text) = .ok (some f) ↔
      e.Only (HasName text) f ∨
        (∀ g, ¬e.Only (HasName text) g) ∧ e.Only (StartsWith text) f) ∧
    ((∀ f, decode e .name (.text text) ≠ .ok (some f)) →
      decode e .name (.text text) =
        .error (.unknownEnumValue e.name (Value.text text).shown)) ∧
    (¬e.Guesses text →
      ∀ f, decode e .name (.text text) = .ok (some f) ↔ e.Only (Matches text) f) ∧
    (e.Guesses text →
      ∃ f g, decode e .name (.text text) = .ok (some f) ∧
        g.enumeration = e ∧ g ≠ f ∧ g.Matches text) ∧
    (text = "" →
      decode e .name (.text text) =
        .error (.unknownEnumValue e.name (Value.text text).shown)) := by
  refine ⟨fun f => decode_eq_some_iff hother, decode_text_eq_error, decode_matching_iff hother,
    ?_, ?_⟩
  · rintro ⟨⟨f, hway⟩, hseveral⟩
    obtain ⟨g, hg⟩ := exists_decode_of_only hother hway
    obtain ⟨he, hmatches⟩ := matches_of_only (only_of_decode hother hg)
    obtain ⟨g', he', hne, hmatches'⟩ := exists_ne_of_not_only he hmatches (hseveral g)
    exact ⟨g, g', hg, he', hne, hmatches'⟩
  · rintro rfl
    refine decode_text_eq_error fun f hf => ?_
    obtain ⟨he, hmatches⟩ := matches_of_only (only_of_decode hother hf)
    refine not_matches_empty (hother f.declaration ?_) hmatches
    rw [← he]
    exact List.get_mem _ _

theorem only_hasName_of_sameNamePositions (h : single? (e.sameNamePositions text) = some f.ordinal)
    (he : f.enumeration = e) : e.Only (HasName text) f :=
  (single?_positions_eq_some_ordinal_iff (fun _ => Iff.rfl) he).mp h

/-- `Oak` is the name of one tree up to case, and no tree's name starts with it. -/
theorem decode_matching_oak :
    (∀ d ∈ trees.members, d.name ≠ "Oak") ∧
      decode trees .name (.text "Oak") = .ok (some ⟨trees, 1, by decide⟩) := by
  have hother : ∀ d ∈ trees.members, d.name ≠ "Oak" := by decide
  have hfold : trees.sameNamePositions "Oak" = [1] := by
    simp only [sameNamePositions, Text.sameName_eq_decide]
    decide
  refine ⟨hother, ((decode_matching hother).1 ⟨trees, 1, by decide⟩).mpr (.inl ?_)⟩
  exact only_hasName_of_sameNamePositions (single?_eq_some_iff.mpr hfold) rfl

/-- Two sizes, the name of one being the start of the name of the other up to case. -/
def nestedFoldedNames : Enumeration :=
  ⟨"Size", none, [⟨"ab", none⟩, ⟨"ABC", none⟩]⟩

theorem ordinalOfText?_nestedFoldedNames : nestedFoldedNames.ordinalOfText? "AB" = some 0 := by
  have hfold : nestedFoldedNames.sameNamePositions "AB" = [0] := by
    simp only [sameNamePositions, Text.sameName_eq_decide]
    decide
  rw [ordinalOfText?_eq_or (by decide), hfold]
  rfl

/-- Three sizes, two with the same name up to case and one with a name that starts with it. -/
def twiceFoldedNames : Enumeration :=
  ⟨"Size", none, [⟨"ab", none⟩, ⟨"Ab", none⟩, ⟨"ABC", none⟩]⟩

theorem ordinalOfText?_twiceFoldedNames : twiceFoldedNames.ordinalOfText? "AB" = some 2 := by
  have hfold : twiceFoldedNames.sameNamePositions "AB" = [0, 1] := by
    simp only [sameNamePositions, Text.sameName_eq_decide]
    decide
  have hstart : twiceFoldedNames.startPositions "AB" = [2] := by decide
  rw [ordinalOfText?_eq_or (by decide), hfold, hstart]
  rfl

/-- `AB` is nobody's name.  It is read as the size that is called `ab`, although the name of another
starts with it; and it is read as the size whose name starts with it, although two others are called
`ab` and `Ab`. -/
theorem decode_guesses :
    ((nestedFoldedNames.members.map (·.name)).Nodup ∧
      (∀ d ∈ nestedFoldedNames.members, d.name ≠ "AB") ∧
      decode nestedFoldedNames .name (.text "AB") =
        .ok (some ⟨nestedFoldedNames, 0, by decide⟩) ∧
      (⟨nestedFoldedNames, 1, by decide⟩ : Member).StartsWith "AB") ∧
    ((twiceFoldedNames.members.map (·.name)).Nodup ∧
      (∀ d ∈ twiceFoldedNames.members, d.name ≠ "AB") ∧
      decode twiceFoldedNames .name (.text "AB") =
        .ok (some ⟨twiceFoldedNames, 2, by decide⟩) ∧
      (⟨twiceFoldedNames, 0, by decide⟩ : Member).HasName "AB" ∧
      (⟨twiceFoldedNames, 1, by decide⟩ : Member).HasName "AB") := by
  refine ⟨⟨by decide, by decide, ?_, by decide, ⟨['C'], rfl⟩⟩,
    ⟨by decide, by decide, ?_, Text.sameName_iff.mpr (by decide),
      Text.sameName_iff.mpr (by decide)⟩⟩
  · exact decode_eq_some (m := ⟨nestedFoldedNames, 0, by decide⟩) ordinalOfText?_nestedFoldedNames
  · exact decode_eq_some (m := ⟨twiceFoldedNames, 2, by decide⟩) ordinalOfText?_twiceFoldedNames

end Member
end TableMapping
