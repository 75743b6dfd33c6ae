import TableMapping.Adapter
import TableMapping.Proofs.Json.Document
import TableMapping.Value.Coercion

/-!
# Documents in columns of texts

The adapter for documents stores their compact text.  A column of documents without an adapter reads
such a text in the same way, so it does not matter which of the two a stored text is read through.
The answers depend on no earlier call.

* `Adapter.coerce_json_iff_documentOfText`: the two ways of reading agree on every text.
* `Adapter.jsonText_lossless`: what is stored is read back.
-/

namespace TableMapping
namespace Adapter

open Json

variable {j : Json} {levels : Nat}

theorem documentOfText_eq_ok_iff {s : String} {v : Value} :
    documentOfText (.text s) = .ok v ↔ ∃ j, parse? s = some j ∧ .of (.json j) = v := by
  rw [Value.text, documentOfText]
  cases parse? s with
  | none => simp
  | some j => simp

theorem coerce_json_eq_ok_iff {s : String} {v : Value} :
    Value.coerce (.text s) .json = .ok v ↔ ∃ j, parse? s = some j ∧ .of (.json j) = v := by
  rw [Value.text, Value.coerce, Value.coerceScalar, Value.coerceJson]
  cases parse? s with
  | none => simp [Value.orReason, Except.map]
  | some j => simp [Value.orReason, Except.map]

/-- A column of documents without an adapter reads a text as the adapter does. -/
theorem coerce_json_iff_documentOfText (s : String) (v : Value) :
    Value.coerce (.text s) .json = .ok v ↔ documentOfText (.text s) = .ok v := by
  rw [coerce_json_eq_ok_iff, documentOfText_eq_ok_iff]

/-- A document is read back from the text that is stored for it, by the adapter and without it. -/
theorem documentOfText_print (h : parse? j.print = some j) :
    documentOfText (.text j.print) = .ok (.of (.json j)) ∧
      Value.coerce (.text j.print) .json = .ok (.of (.json j)) :=
  ⟨documentOfText_eq_ok_iff.mpr ⟨j, h, rfl⟩, coerce_json_eq_ok_iff.mpr ⟨j, h, rfl⟩⟩

/-- Whatever the adapter was asked before, it stores a document of less than 128 levels as a text
that it reads back, and a typed NULL as a text NULL; a column without an adapter reads every stored
value in the same way. -/
theorem jsonText_lossless (history later : List AdapterCall) :
    (∀ levels j, levels < 128 → j.Within levels →
      ∃ text, jsonText.serialize history (.of (.json j)) = .ok (.text text) ∧
        jsonText.deserialize later (.text text) = .ok (.of (.json j)) ∧
          Value.coerce (.text text) .json = .ok (.of (.json j))) ∧
      (jsonText.serialize history (.null .json) = .ok (.null .string) ∧
        jsonText.deserialize later (.null .string) = .ok (.null .json) ∧
          Value.coerce (.null .string) .json = .ok (.null .json)) ∧
        ∀ text v, Value.coerce (.text text) .json = .ok v ↔
          jsonText.deserialize later (.text text) = .ok v := by
  refine ⟨fun levels j hlevels hj => ?_, ⟨rfl, rfl, rfl⟩, coerce_json_iff_documentOfText⟩
  have hparse := parse?_print (hj.mono (Nat.le_of_lt_succ hlevels))
  exact ⟨j.print, rfl, documentOfText_print hparse⟩

/-! ### A log entry -/

/-- A document with marks that are escaped, a character beyond the first plane, and the greatest and
the least number. -/
def logEntry : Json :=
  .ofMembers [
    ("path", .text "C:\\temp\t\"log\"\x01"),
    ("limits", .list [.number (.natural 18446744073709551615), .number (.negative Int64.minValue)]),
    ("ü😀", .list [.list [.null, .bool true], .ofMembers []])]

theorem within_logEntry : logEntry.Within 3 := by
  have hleast : Int64.minValue < 0 := by decide
  refine Within.ofMembers ?_
  simp only [List.forall_mem_cons]
  refine ⟨.text _, .list ?_, .list ?_, List.forall_mem_nil _⟩
  · simp only [List.forall_mem_cons]
    exact ⟨.number trivial, .number hleast, List.forall_mem_nil _⟩
  · simp only [List.forall_mem_cons]
    refine ⟨.list ?_, .ofMembers (List.forall_mem_nil _), List.forall_mem_nil _⟩
    simp only [List.forall_mem_cons]
    exact ⟨.null, .bool true, List.forall_mem_nil _⟩

theorem jsonText_lossless_logEntry :
    ∃ text, jsonText.serialize [] (.of (.json logEntry)) = .ok (.text text) ∧
      jsonText.deserialize [] (.text text) = .ok (.of (.json logEntry)) ∧
        Value.coerce (.text text) .json = .ok (.of (.json logEntry)) :=
  (jsonText_lossless [] []).1 3 logEntry (by decide) within_logEntry

end Adapter
end TableMapping
