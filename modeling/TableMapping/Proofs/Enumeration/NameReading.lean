import TableMapping.Enumeration
import Mathlib.Data.List.Nodup

/-!
# Reading members by name

`Enumeration.ordinalOfText?` asks three questions of a stored text, each only when the one before
has no answer: which member has this name, which one member has this name up to ASCII case, and
which one member has a name that starts with it.

* `ordinalOf?_name`: with distinct names, the first question finds every member by its name.
* `single?_positions_eq_some_iff`: the other two questions are answered by a member exactly when
  no other member passes the same test.
* `answer_of_ordinalOfText?`: who is an answer at all.
* `toList_cutText`: the text of a name that was cut to fit its column.
-/

namespace TableMapping

theorem single?_eq_some_iff {α : Type} {l : List α} {x : α} : single? l = some x ↔ l = [x] := by
  constructor
  · intro h
    unfold single? at h
    split at h
    · rw [Option.some.inj h]
    · exact absurd h (by simp)
  · rintro rfl
    rfl

theorem mem_of_single? {α : Type} {l : List α} {x : α} (h : single? l = some x) : x ∈ l := by
  rw [single?_eq_some_iff.mp h]
  exact List.mem_singleton_self x

/-! ## Positions of members -/

namespace Enumeration

variable {e : Enumeration}

theorem mem_positions {p : MemberDeclaration → Bool} {i : Nat} :
    i ∈ e.positions p ↔ ∃ h : i < e.members.length, p e.members[i] = true := by
  rw [positions, List.mem_filter, List.mem_range]
  constructor
  · rintro ⟨h, hp⟩
    rw [List.getElem?_eq_getElem h, Option.any_some] at hp
    exact ⟨h, hp⟩
  · rintro ⟨h, hp⟩
    refine ⟨h, ?_⟩
    rw [List.getElem?_eq_getElem h, Option.any_some]
    exact hp

/-- One member passes a test, and no other. -/
theorem single?_positions_eq_some_iff {p : MemberDeclaration → Bool} {i : Nat} :
    single? (e.positions p) = some i ↔ ∀ j, j ∈ e.positions p ↔ j = i := by
  rw [single?_eq_some_iff]
  constructor
  · intro h j
    rw [h, List.mem_singleton]
  · intro h
    have hnodup : (e.positions p).Nodup := List.nodup_range.filter _
    have hperm : (e.positions p).Perm [i] :=
      (List.perm_ext_iff_of_nodup hnodup (List.nodup_singleton i)).mpr fun j => by
        rw [h j, List.mem_singleton]
    exact List.perm_singleton.mp hperm

/-- Distinct names are found where they are declared. -/
theorem ordinalOf?_name (distinct : (e.members.map (·.name)).Nodup) {i : Nat}
    (h : i < e.members.length) : e.ordinalOf? e.members[i].name = some i := by
  rw [ordinalOf?, List.findIdx?_eq_some_iff_getElem]
  refine ⟨h, beq_self_eq_true _, fun j hj => ?_⟩
  have hpair := List.pairwise_iff_getElem.mp distinct j i
    (by rw [List.length_map]; omega) (by rw [List.length_map]; exact h) hj
  rw [List.getElem_map, List.getElem_map] at hpair
  exact fun heq => hpair (beq_iff_eq.mp heq)

theorem ordinalOf?_eq_none {text : String} (h : ∀ m ∈ e.members, m.name ≠ text) :
    e.ordinalOf? text = none := by
  rw [ordinalOf?, List.findIdx?_eq_none_iff]
  intro m hm
  simpa using h m hm

end Enumeration

/-! ## Members -/

namespace Member

theorem ofOrdinal?_ordinal (m : Member) : ofOrdinal? m.enumeration m.ordinal = some m := by
  rw [ofOrdinal?, dif_pos m.ordinal_lt]

/-- A member of an enumeration is its position. -/
theorem ext_ordinal {f g : Member} (he : f.enumeration = g.enumeration)
    (ho : f.ordinal = g.ordinal) : f = g := by
  obtain ⟨e, i, hi⟩ := f
  obtain ⟨e', i', hi'⟩ := g
  cases he
  cases ho
  rfl

/-- A value that stands for the position of a member is read as the member. -/
theorem decode_of_ordinalOfValue? {m : Member} {encoding : Encoding} {v : Value}
    (hnull : v.isNull = false)
    (h : m.enumeration.ordinalOfValue? encoding v = some m.ordinal) :
    decode m.enumeration encoding v = .ok (some m) := by
  have hfound : (m.enumeration.ordinalOfValue? encoding v).bind (ofOrdinal? m.enumeration) =
      some m := by
    rw [h, Option.bind_some, ofOrdinal?_ordinal]
  rw [decode, hnull, if_neg Bool.false_ne_true, hfound]

theorem decode_eq_some {m : Member} {text : String}
    (h : m.enumeration.ordinalOfText? text = some m.ordinal) :
    decode m.enumeration .name (.text text) = .ok (some m) :=
  decode_of_ordinalOfValue? rfl h

theorem decode_eq_error {e : Enumeration} {text : String} (h : e.ordinalOfText? text = none) :
    decode e .name (.text text) =
      .error (.unknownEnumValue e.name (Value.text text).shown) := by
  have hfound : (e.ordinalOfValue? .name (.text text)).bind (ofOrdinal? e) = none := by
    show (e.ordinalOfText? text).bind _ = _
    rw [h, Option.bind_none]
  rw [decode, Value.isNull_of, if_neg Bool.false_ne_true, hfound]

/-- With distinct names, the exact name wins. -/
theorem ordinalOfText?_name {m : Member}
    (distinct : (m.enumeration.members.map (·.name)).Nodup) :
    m.enumeration.ordinalOfText? m.name = some m.ordinal := by
  have h := Enumeration.ordinalOf?_name distinct m.ordinal_lt
  rw [Enumeration.ordinalOfText?, show m.enumeration.ordinalOf? m.name = _ from h]

end Member

/-! ## Names that were cut -/

theorem toList_cutText {length : Nat} (h : 1 ≤ length) (s : String) :
    (cutText true length s).toList = s.toList.take length := by
  have hcut : (true && decide (length > 0)) = true := by
    rw [Bool.true_and, decide_eq_true_eq]
    exact h
  rw [cutText, if_pos hcut, String.toList_ofList]

/-- A cut name is empty exactly when the name is. -/
theorem cutText_eq_empty_iff {length : Nat} (h : 1 ≤ length) {s : String} :
    cutText true length s = "" ↔ s = "" := by
  rw [← String.toList_eq_nil_iff, toList_cutText h, List.take_eq_nil_iff, String.toList_eq_nil_iff]
  exact ⟨fun hs => hs.resolve_left (by omega), Or.inr⟩

/-! ## Answers -/

namespace Member

/-- What answers a text: a member with that name up to ASCII case, or the only one whose name
starts with it. -/
theorem answer_of_ordinalOfText? {e : Enumeration} {text : String} {i : Nat}
    (h : e.ordinalOfText? text = some i) :
    ∃ f : Member, f.enumeration = e ∧ f.ordinal = i ∧
      (Text.sameName f.name text = true ∨ single? (e.startPositions text) = some i) := by
  have hmem : ∀ {p : MemberDeclaration → Bool}, i ∈ e.positions p → i < e.members.length :=
    fun hi => (Enumeration.mem_positions.mp hi).1
  rw [Enumeration.ordinalOfText?] at h
  cases hexact : e.ordinalOf? text with
  | some j =>
    rw [hexact] at h
    obtain rfl : j = i := Option.some.inj h
    obtain ⟨hlt, hname, -⟩ := List.findIdx?_eq_some_iff_getElem.mp hexact
    refine ⟨⟨e, j, hlt⟩, rfl, rfl, Or.inl ?_⟩
    have heq : (⟨e, j, hlt⟩ : Member).name = text := beq_iff_eq.mp hname
    rw [heq, Text.sameName_self]
  | none =>
    simp only [hexact] at h
    cases hfold : single? (e.sameNamePositions text) with
    | some j =>
      rw [hfold] at h
      obtain rfl : j = i := Option.some.inj h
      have hpos : j ∈ e.sameNamePositions text := mem_of_single? hfold
      exact ⟨⟨e, j, hmem hpos⟩, rfl, rfl, Or.inl (Enumeration.mem_positions.mp hpos).2⟩
    | none =>
      simp only [hfold] at h
      exact ⟨⟨e, i, hmem (mem_of_single? h)⟩, rfl, rfl, Or.inr h⟩

/-- Four trees. -/
def trees : Enumeration :=
  ⟨"Tree", none, [⟨"PINE", some 10⟩, ⟨"OAK", some 20⟩, ⟨"BIRCH", some 30⟩, ⟨"WALNUT", none⟩]⟩

end Member
end TableMapping
