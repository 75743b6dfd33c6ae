import TableMapping.Column
import TableMapping.Proofs.Enumeration.NameReading
import TableMapping.Proofs.Runs
import TableMapping.Proofs.Value.StoredForm

/-!
# What a column keeps

The two ways of a value, to its column and back, are written apart: adapter, encoding and
cutting on the one, adapter, decoding and coercion on the other.  `Column.Keeps c x` lists what
makes the way back undo the way there for the field value `x`.

* `Member.decode_encode_ordinal`, `Member.decode_encode_id`: the encodings by number.
* `Column.decode_encode`: columns without adapter.
* `Column.run_fromStorage`: all columns.  An adapter may remember its calls, so the way back
  starts from any ledger that has at least the calls that the way there has left.
-/

namespace TableMapping

/-! ## Members by number -/

namespace Member

theorem decode_encode_ordinal {m : Member} (h : m.enumeration.members.length ≤ 2147483648) :
    decode m.enumeration .ordinal (.of (.int (Int32.ofNat m.ordinal))) = .ok (some m) := by
  have hlt : m.ordinal < 2147483648 := Nat.lt_of_lt_of_le m.ordinal_lt h
  have hint : (Int32.ofNat m.ordinal).toInt64.toInt = m.ordinal := by
    rw [Int32.toInt_toInt64, Int32.toInt_ofNat_of_lt hlt]
  have hrange : 0 ≤ (Int32.ofNat m.ordinal).toInt64.toInt ∧
      (Int32.ofNat m.ordinal).toInt64.toInt < m.enumeration.members.length := by
    have := m.ordinal_lt
    rw [hint]
    omega
  refine decode_of_ordinalOfValue? rfl ?_
  show m.enumeration.ordinalOfNumber? (Int32.ofNat m.ordinal).toInt64 = some m.ordinal
  rw [Enumeration.ordinalOfNumber?, if_pos hrange, hint, Int.toNat_natCast]

theorem decode_encode_id {m : Member} {id : Int32}
    (distinct : (m.enumeration.members.map (·.id)).Nodup) (hid : m.declaration.id = some id) :
    decode m.enumeration .id (.of (.int id)) = .ok (some m) := by
  refine decode_of_ordinalOfValue? rfl ?_
  show m.enumeration.ordinalOfId? id.toInt64 = some m.ordinal
  rw [Enumeration.ordinalOfId?, List.findIdx?_eq_some_iff_getElem]
  have hm := m.ordinal_lt
  have hid' : m.enumeration.members[m.ordinal].id = some id := hid
  refine ⟨hm, by rw [hid']; exact beq_self_eq_true _, fun j hj heq => ?_⟩
  have hpair := List.pairwise_iff_getElem.mp distinct j m.ordinal
    (by rw [List.length_map]; exact Nat.lt_trans hj hm)
    (by rw [List.length_map]; exact hm) hj
  rw [List.getElem_map, List.getElem_map, hid'] at hpair
  rw [beq_iff_eq, Option.map_eq_some_iff] at heq
  obtain ⟨id', hid'', hsame⟩ := heq
  have hinj : id' = id := by
    rw [← Int32.toInt_inj, ← Int32.toInt_toInt64 id', hsame, Int32.toInt_toInt64]
  exact hpair (by rw [hid'', hinj])

end Member

/-! ## Columns without adapter -/

/-- The field type that a field value belongs to.  A plain value is kept by coercion. -/
def FieldValue.HasType (t : FieldType) : FieldValue → Prop
  | .plain v => (∀ e, t ≠ .enumeration e) ∧ (v.KeepsSingle → v.coerce t = .ok v)
  | .member (some m) => t = .enumeration m.enumeration
  | .member none => False

/-- At any time after it wrote a value, an adapter reads what it wrote as that value. -/
def Adapter.Undoes (a : Adapter) (v : Value) : Prop :=
  ∀ h h' v', a.serialize h v = .ok v' → (.serialize v :: h) <:+ h' → a.deserialize h' v' = .ok v

namespace Column

/-- A text is not cut. -/
def Fits (c : Column) (s : String) : Prop :=
  c.trim = true → 0 < c.maxLength → s.toList.length ≤ c.maxLength

/-- What makes the way back from a column undo the way there. -/
structure Keeps (c : Column) (x : FieldValue) : Prop where
  /-- The adapter reads what it writes. -/
  adapter : ∀ a, c.adapter = some a → a.Undoes (adapterInput x)
  /-- A text that might be cut fits. -/
  text : c.adapter = none → ∀ s, x = .plain (.text s) → c.Fits s
  /-- Widening does not change a number of single precision. -/
  single : c.adapter = none → ∀ v, x = .plain v → v.KeepsSingle
  /-- Members that travel by name have distinct names. -/
  names : c.adapter.isSome ∨ c.effectiveEncoding = .name → ∀ m, x = .member (some m) →
    (m.enumeration.members.map (·.name)).Nodup
  /-- A name that might be cut fits. -/
  name : c.adapter = none → c.effectiveEncoding = .name → ∀ m, x = .member (some m) →
    c.Fits m.name
  /-- Positions fit 32 bits. -/
  ordinals : c.adapter = none → c.effectiveEncoding = .ordinal → ∀ m, x = .member (some m) →
    m.enumeration.members.length ≤ 2147483648
  /-- Members have distinct identifiers. -/
  ids : c.adapter = none → c.effectiveEncoding = .id → ∀ m, x = .member (some m) →
    (m.enumeration.members.map (·.id)).Nodup

variable {c : Column} {x : FieldValue} {raw : Value}

theorem Fits.cutText_eq {s : String} (h : c.Fits s) : cutText c.trim c.maxLength s = s := by
  unfold cutText
  split
  · rename_i hcut
    rw [Bool.and_eq_true, decide_eq_true_eq] at hcut
    rw [List.take_of_length_le (h hcut.1 hcut.2), String.ofList_toList]
  · rfl

theorem decode_plain {v : Value} (htype : (FieldValue.plain v).HasType c.fieldType)
    (hsingle : v.KeepsSingle) : c.decode v = .ok (.plain v) := by
  obtain ⟨hne, hcoerce⟩ := htype
  rw [decode_of_ne_enumeration hne, hcoerce hsingle]

theorem encode_plain {v : Value} (htext : ∀ s, v = .text s → c.Fits s) :
    c.encode (.plain v) = .ok v := by
  unfold encode
  split
  · rename_i heq
    cases heq
  · rename_i heq
    cases heq
  · rename_i s heq
    cases heq
    rw [(htext s rfl).cutText_eq]
  · rename_i heq
    cases heq
    rfl

/-- A member is read from what it is encoded to. -/
theorem decode_encode_member {m : Member} (hadapter : c.adapter = none)
    (hkeeps : c.Keeps (.member (some m)))
    (h : m.encode c.effectiveEncoding c.trim c.maxLength c.columnName = .ok raw) :
    Member.decode m.enumeration c.effectiveEncoding raw = .ok (some m) := by
  cases hencoding : c.effectiveEncoding with
  | name =>
    rw [hencoding, Member.encode, (hkeeps.name hadapter hencoding m rfl).cutText_eq] at h
    rw [← Except.ok.inj h]
    exact Member.decode_eq_some
      (Member.ordinalOfText?_name (hkeeps.names (.inr hencoding) m rfl))
  | ordinal =>
    rw [hencoding, Member.encode] at h
    rw [← Except.ok.inj h]
    exact Member.decode_encode_ordinal (hkeeps.ordinals hadapter hencoding m rfl)
  | id =>
    rw [hencoding, Member.encode] at h
    rcases hid : m.declaration.id with _ | id
    · rw [hid] at h
      cases h
    · rw [hid] at h
      rw [← Except.ok.inj h]
      exact Member.decode_encode_id (hkeeps.ids hadapter hencoding m rfl) hid

/-- Without an adapter, what the column holds is read as what was written. -/
theorem decode_encode (hadapter : c.adapter = none) (htype : x.HasType c.fieldType)
    (hkeeps : c.Keeps x) (h : c.encode x = .ok raw) : c.decode raw = .ok x := by
  rcases x with v | _ | m
  · rw [encode_plain fun s hs => hkeeps.text hadapter s (by rw [hs])] at h
    rw [← Except.ok.inj h]
    exact decode_plain htype (hkeeps.single hadapter v rfl)
  · exact htype.elim
  · have hmember := decode_encode_member hadapter hkeeps h
    have htype' : c.fieldType = .enumeration m.enumeration := htype
    rw [decode, htype']
    simp only [hmember]
    rfl

end Column

/-! ## Columns with an adapter -/

namespace Ledger

theorem history_record (l : Ledger) (slot : AdapterSlot) (call : AdapterCall) :
    (l.record slot call).history slot = call :: l.history slot := by
  simp [record, history]

theorem history_suffix {l l' : Ledger} (h : l.calls <:+ l'.calls) (slot : AdapterSlot) :
    l.history slot <:+ l'.history slot :=
  (h.filter _).map _

end Ledger

namespace Column

variable {c : Column} {x : FieldValue} {raw : Value} {l l₁ l₂ : Ledger}

theorem decode_ofAdapterOutput (htype : x.HasType c.fieldType)
    (names : ∀ m, x = .member (some m) → (m.enumeration.members.map (·.name)).Nodup) :
    c.ofAdapterOutput (adapterInput x) = .ok x := by
  unfold ofAdapterOutput
  rcases x with v | _ | m
  · split
    · rename_i e he
      exact absurd he (htype.1 e)
    · rfl
  · exact htype.elim
  · have htype' : c.fieldType = .enumeration m.enumeration := htype
    have hmember : Member.decode m.enumeration .name (adapterInput (.member (some m))) =
        .ok (some m) := Member.decode_eq_some (Member.ordinalOfText?_name (names m rfl))
    rw [htype']
    simp only [hmember]
    rfl

/-- The way back undoes the way there, at any later time.  On both ways the ledger keeps all the
calls it has. -/
theorem run_fromStorage (htype : x.HasType c.fieldType) (hkeeps : c.Keeps x)
    (h : (c.toStorage x).run l = (.ok raw, l₁)) (hl : l₁.calls <:+ l₂.calls) :
    ∃ l₃, (c.fromStorage raw).run l₂ = (.ok x, l₃) ∧ l₂.calls <:+ l₃.calls := by
  unfold toStorage at h
  unfold fromStorage
  cases hadapter : c.adapter with
  | none =>
    rw [hadapter] at h
    have hencode : c.encode x = .ok raw := congrArg Prod.fst h
    refine ⟨l₂, ?_, List.suffix_rfl⟩
    simp only [Mapping.run_ofExcept, decode_encode hadapter htype hkeeps hencode]
  | some a =>
    rw [hadapter] at h
    obtain ⟨hserialize, hledger⟩ := Prod.mk.inj ((Mapping.run_serialize _ a _).symm.trans h)
    have hhistory : .serialize (adapterInput x) :: l.history c.slot <:+ l₂.history c.slot := by
      rw [← Ledger.history_record, hledger]
      exact Ledger.history_suffix hl c.slot
    have hdeserialize := hkeeps.adapter a hadapter _ _ _ hserialize hhistory
    have hnames := hkeeps.names (.inl (by rw [hadapter]; rfl))
    refine ⟨l₂.record c.slot (.deserialize raw), ?_, List.suffix_cons _ _⟩
    have hrun : (Mapping.deserialize c.slot a raw).run l₂ =
        (.ok (adapterInput x), l₂.record c.slot (.deserialize raw)) := by
      rw [Mapping.run_deserialize, hdeserialize]
    simp only [Runs.run_bind_ok hrun, Mapping.run_ofExcept, decode_ofAdapterOutput htype hnames]

/-- The way there only adds calls to the ledger. -/
theorem calls_suffix_toStorage (c : Column) (x : FieldValue) (l : Ledger) :
    l.calls <:+ ((c.toStorage x).run l).2.calls := by
  unfold toStorage
  cases c.adapter with
  | none => exact List.suffix_rfl
  | some a => exact List.suffix_cons _ _

end Column
end TableMapping
