import TableMapping.Proofs.Enumeration.NameMatching

/-!
# Names that are cut to fit their column

A column may be too short for the name of a member, and then holds the start of it.  Every name that
starts so matches that text, the member's own among them, so it is read back as this member where no
other matches.  A text that is the full name of a member is always read as that one, whoever was
written.

* `startsWith_cut`: a member matches what is left of its name.
* `decode_encode_truncated`: what is read back.
* `decode_encode_not_faithful`: a member that is read back as another.
-/

namespace TableMapping
namespace Member

open Enumeration

variable {m : Member} {length : Nat} {cut : String}

/-- A member matches what is left of its name, if that is nobody's name. -/
theorem startsWith_cut (hlength : 1 ≤ length) (hcut : cutText true length m.name = cut)
    (hother : ∀ d ∈ m.enumeration.members, d.name ≠ cut) : m.StartsWith cut := by
  have hname : m.name ≠ cut := hother m.declaration (List.get_mem _ _)
  constructor
  · intro hempty
    rw [hempty] at hcut hname
    exact hname ((cutText_eq_empty_iff hlength).mp hcut)
  · rw [← hcut, toList_cutText hlength]
    exact List.take_prefix _ _

/-- Where no name decides by its letters alone, nobody else is read. -/
theorem decode_cut (hlength : 1 ≤ length) (hcut : cutText true length m.name = cut)
    (hother : ∀ d ∈ m.enumeration.members, d.name ≠ cut)
    (hnone : ∀ f, ¬m.enumeration.Only (HasName cut) f) :
    decode m.enumeration .name (.text cut) = .ok (some m) ∨
      decode m.enumeration .name (.text cut) =
        .error (.unknownEnumValue m.enumeration.name (Value.text cut).shown) := by
  by_cases hread : ∃ f, decode m.enumeration .name (.text cut) = .ok (some f)
  · obtain ⟨f, hf⟩ := hread
    rcases only_of_decode hother hf with hname | hstart
    · exact absurd hname (hnone f)
    · obtain rfl : m = f := hstart.unique m rfl (startsWith_cut hlength hcut hother)
      exact .inl hf
  · exact .inr (decode_text_eq_error fun f hf => hread ⟨f, hf⟩)

/-- Where nothing is guessed, a member is read back if no other matches, and otherwise nobody is. -/
theorem decode_cut_of_not_guesses (hlength : 1 ≤ length)
    (hcut : cutText true length m.name = cut)
    (hother : ∀ d ∈ m.enumeration.members, d.name ≠ cut) (hsure : ¬m.enumeration.Guesses cut) :
    (m.enumeration.Only (Matches cut) m →
      decode m.enumeration .name (.text cut) = .ok (some m)) ∧
    (¬m.enumeration.Only (Matches cut) m →
      decode m.enumeration .name (.text cut) =
        .error (.unknownEnumValue m.enumeration.name (Value.text cut).shown)) := by
  have hreads := decode_matching_iff hother hsure
  refine ⟨(hreads m).mpr, fun hseveral => decode_text_eq_error fun f hf => hseveral ?_⟩
  have honly := (hreads f).mp hf
  obtain rfl : m = f := honly.unique m rfl (.inr (startsWith_cut hlength hcut hother))
  exact honly

/-- **A cut name read back.**  In a column of `length` characters a member's name is written as its
start.  Where that is the full name of a member, this member is the one read back.  Otherwise the
member that was written is read back or nobody is, unless exactly one member has the text for its
name up to ASCII case; and as long as neither way of matching leads to one of several members that
match, the member that was written is read back exactly when no other matches. -/
theorem decode_encode_truncated (m : Member)
    (distinct : (m.enumeration.members.map (·.name)).Nodup) {length : Nat} (hlength : 1 ≤ length)
    (field : String) :
    ∃ v, m.encode .name true length field = .ok v ∧
      v = .text (String.ofList (m.name.toList.take length)) ∧
      let cut := String.ofList (m.name.toList.take length)
      let error := MappingError.unknownEnumValue m.enumeration.name v.shown
      (∀ f : Member, f.enumeration = m.enumeration → f.name = cut →
        decode m.enumeration .name v = .ok (some f)) ∧
      ((∀ d ∈ m.enumeration.members, d.name ≠ cut) →
        ((∀ f, ¬m.enumeration.Only (HasName cut) f) →
          decode m.enumeration .name v = .ok (some m) ∨
            decode m.enumeration .name v = .error error) ∧
        (¬m.enumeration.Guesses cut →
          (m.enumeration.Only (Matches cut) m →
            decode m.enumeration .name v = .ok (some m)) ∧
          (¬m.enumeration.Only (Matches cut) m →
            decode m.enumeration .name v = .error error))) := by
  have hcut : cutText true length m.name = String.ofList (m.name.toList.take length) := by
    rw [← toList_cutText hlength, String.ofList_toList]
  refine ⟨.text (String.ofList (m.name.toList.take length)), by rw [encode, hcut], rfl, ?_⟩
  generalize String.ofList (m.name.toList.take length) = cut at hcut ⊢
  refine ⟨fun f he hname => ?_, fun hother => ⟨decode_cut hlength hcut hother,
    decode_cut_of_not_guesses hlength hcut hother⟩⟩
  rw [← he, ← hname]
  exact decode_eq_some (ordinalOfText?_name (he ▸ distinct))

/-- The birch, of which a column of three characters holds `BIR`. -/
def birch : Member := ⟨trees, 2, by decide⟩

/-- No other tree's name is `BIR` up to case or starts with it. -/
theorem only_matches_birch : trees.Only (Matches "BIR") birch where
  enumeration_eq := rfl
  holds := .inr ⟨by decide, ⟨['C', 'H'], rfl⟩⟩
  unique := by
    rintro ⟨_, i, hi⟩ rfl hmatches
    rw [Matches, HasName, Text.sameName_eq_decide, StartsWith, ← List.isPrefixOf_iff_prefix]
      at hmatches
    have hcases : i = 2 ∨ i = 0 ∨ i = 1 ∨ i = 3 := by
      have hlt : i < 4 := hi
      omega
    rcases hcases with rfl | hother
    · rfl
    · refine absurd hmatches ?_
      rcases hother with rfl | rfl | rfl <;> decide +revert

theorem decode_encode_truncated_birch :
    (trees.members.map (·.name)).Nodup ∧ 1 ≤ 3 ∧ (∀ d ∈ trees.members, d.name ≠ "BIR") ∧
      ¬trees.Guesses "BIR" ∧ trees.Only (Matches "BIR") birch ∧
      birch.encode .name true 3 "tree" = .ok (.text "BIR") ∧
      decode trees .name (.text "BIR") = .ok (some birch) := by
  have distinct : (trees.members.map (·.name)).Nodup := by decide
  have hother : ∀ d ∈ trees.members, d.name ≠ "BIR" := by decide
  have hsure : ¬trees.Guesses "BIR" := fun hguesses => hguesses.2 birch only_matches_birch
  obtain ⟨v, hencode, rfl, -, hread⟩ :=
    decode_encode_truncated birch distinct (by omega : 1 ≤ 3) "tree"
  exact ⟨distinct, by omega, hother, hsure, only_matches_birch, hencode,
    ((hread hother).2 hsure).1 only_matches_birch⟩

/-- Two sizes, the name of one being the start of the name of the other. -/
def nestedNames : Enumeration :=
  ⟨"Size", none, [⟨"A", none⟩, ⟨"AB", none⟩]⟩

/-- A cut name may be the name of another member, and is then read back as that one. -/
theorem decode_encode_not_faithful :
    (nestedNames.members.map (·.name)).Nodup ∧ (∀ d ∈ nestedNames.members, d.name ≠ "") ∧
      (⟨nestedNames, 1, by decide⟩ : Member).encode .name true 1 "size" = .ok (.text "A") ∧
      decode nestedNames .name (.text "A") = .ok (some ⟨nestedNames, 0, by decide⟩) := by
  refine ⟨by decide, by decide, rfl, ?_⟩
  exact decode_eq_some (m := ⟨nestedNames, 0, by decide⟩) (by decide)

end Member
end TableMapping
