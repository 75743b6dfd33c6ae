/-!
# Labelled types

The values of a small type may be known by labels: the words that stand for them in traces
and documents.  `Labelled.ofLabel?` finds the value with a label, and `ofLabel?_label` says
that it finds every value.
-/

namespace TableMapping

/-- A type with finitely many values, each with a label of its own. -/
class Labelled (α : Type) where
  /-- The label of a value. -/
  label : α → String
  /-- All values. -/
  all : List α
  /-- Every value is the first one with its label. -/
  find_label : ∀ a, (all.find? fun b => label b == label a) = some a

namespace Labelled

variable {α : Type} [Labelled α]

/-- The value with a label. -/
def ofLabel? (s : String) : Option α :=
  all.find? fun a => label a == s

theorem ofLabel?_label (a : α) : ofLabel? (label a) = some a :=
  find_label a

theorem label_of_ofLabel? {s : String} {a : α} (h : ofLabel? s = some a) : label a = s := by
  simpa [ofLabel?] using List.find?_some h

end Labelled
end TableMapping
