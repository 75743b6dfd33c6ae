import Mathlib.Data.List.Infix
import TableMapping.Proofs.Session.IndexCreation
import TableMapping.Proofs.Session.Merge

/-!
# Messages that name a missing table

A message is recognised by phrases anywhere in it, so the name of a table that stands in the message
takes part.  In front of the name stands "no such table: ", and none of the phrases that matter can
begin there: not a phrase for a stored key, and not the word "column" by which missing columns are
told from missing tables.  So it is the name alone that may change what the message is taken for, and
it does where it has one of these phrases in it.  A table whose name has "column" in it is not
reported as missing.

* `Text.infix_append_iff_of_apart`: a phrase behind a text in which no part of it begins.
* `mentionsAny_noSuchTable`: what a message mentions is what the name mentions.
* `MappingError.classify_noSuchTable`: what the message is taken for.
* `Session.run_send_noSuchTable`: what comes of a statement that the engine refuses so.
* `MappingError.classify_noSuchTable_columnStats`: a table that is not reported as missing.
-/

namespace TableMapping

namespace Text

/-- A phrase does not occur in a text, and no part of it begins there. -/
def Apart (text phrase : List Char) : Prop :=
  ¬ phrase <:+: text ∧ ∀ part ∈ text.tails, part <+: phrase → part = []

instance (text phrase : List Char) : Decidable (Apart text phrase) :=
  inferInstanceAs (Decidable (_ ∧ _))

theorem infix_append_iff_of_apart {text phrase : List Char} (h : Apart text phrase)
    (rest : List Char) : phrase <:+: text ++ rest ↔ phrase <:+: rest := by
  constructor
  · intro hinfix
    rcases List.infix_append_iff.mp hinfix with htext | hrest | ⟨part, tail, rfl, hpart, htail⟩
    · exact absurd htext h.1
    · exact hrest
    · have hnil := h.2 part ((List.mem_tails _ _).mpr hpart) (List.prefix_append part tail)
      rw [hnil]
      exact htail.isInfix
  · exact fun hrest => hrest.trans (List.suffix_append text rest).isInfix

theorem foldForSearch_append (s t : String) :
    foldForSearch (s ++ t) = foldForSearch s ++ foldForSearch t := by
  rw [foldForSearch, String.toList_append, List.flatMap_append]
  rfl

end Text

/-- Behind a text in which no part of the phrases begins, only the rest counts. -/
theorem mentionsAny_append {text : String} {phrases : List String}
    (h : ∀ p ∈ phrases, Text.Apart (Text.foldForSearch text) p.toList) (rest : String) :
    mentionsAny (text ++ rest) phrases = mentionsAny rest phrases := by
  rw [Bool.eq_iff_iff, mentionsAny, mentionsAny, List.any_eq_true, List.any_eq_true]
  refine exists_congr fun p => and_congr_right fun hp => ?_
  rw [Text.occursIn_iff, Text.occursIn_iff, Text.foldForSearch_append]
  exact Text.infix_append_iff_of_apart (h p hp) _

/-- What an engine says when there is no table with a name. -/
def noSuchTable (name : String) : String :=
  "no such table: " ++ name

/-- The name decides what the message mentions of stored keys and of columns. -/
theorem mentionsAny_noSuchTable (name : String) :
    isDuplicateKeyMessage (noSuchTable name) = isDuplicateKeyMessage name ∧
      mentionsAny (noSuchTable name) ["column"] = mentionsAny name ["column"] :=
  ⟨mentionsAny_append (by decide +kernel) name, mentionsAny_append (by decide +kernel) name⟩

theorem mentionsAny_noSuchTable_tableNotFound (name : String) :
    mentionsAny (noSuchTable name) tableNotFoundPhrases = true := by
  rw [mentionsAny, List.any_eq_true]
  refine ⟨"no such table", List.mem_cons_self, ?_⟩
  rw [Text.occursIn_iff, noSuchTable, Text.foldForSearch_append]
  have hlead : "no such table".toList <+: Text.foldForSearch "no such table: " := by decide +kernel
  exact (hlead.trans (List.prefix_append _ _)).isInfix

namespace MappingError

/-- The message is taken for a stored key, for any failure, or for a missing table, by the name. -/
theorem classify_noSuchTable (table name : String) :
    (execution (noSuchTable name)).classify table =
      if isDuplicateKeyMessage name then .duplicateKey (noSuchTable name)
      else if mentionsAny name ["column"] then .execution (noSuchTable name)
      else .tableNotFound table := by
  obtain ⟨hduplicate, hcolumn⟩ := mentionsAny_noSuchTable name
  rw [classify_execution, hduplicate, isTableNotFoundMessage,
    mentionsAny_noSuchTable_tableNotFound, hcolumn, Bool.true_and]
  cases mentionsAny name ["column"] <;> rfl

/-- No phrase for a stored key is in the message, and still the table is not reported as missing. -/
theorem classify_noSuchTable_columnStats :
    isDuplicateKeyMessage "no such table: column_stats" = false ∧
      (execution "no such table: column_stats").classify "column_stats" =
        .execution "no such table: column_stats" := by
  have hduplicate : isDuplicateKeyMessage "no such table: column_stats" = false := by
    decide +kernel
  have hmissing : isTableNotFoundMessage "no such table: column_stats" = false := by
    decide +kernel
  refine ⟨hduplicate, ?_⟩
  rw [classify_execution, hduplicate, hmissing]
  rfl

end MappingError

namespace Session

open Runs

variable {σ κ : Type} {Obj : Models κ} {α : Type} {s : SessionState σ Obj}

/-- **Missing tables.**  When the engine says that there is no table with a name, the statement fails
with the table of the statement as the missing one, whatever is asked of the engine; only a name with
a phrase for a stored key or with "column" in it, letter case aside, makes it another failure. -/
theorem run_send_noSuchTable {purpose : Purpose κ} {kind : StatementKind} {statement : Statement}
    {request : Statement → σ → Except MappingError α × σ} {g : σ} (table name : String)
    (h : request statement s.engine = (.error (.execution (noSuchTable name)), g)) :
    (send purpose kind table statement request : Session σ Obj α).run s =
      (.error (if isDuplicateKeyMessage name then .duplicateKey (noSuchTable name)
          else if mentionsAny name ["column"] then .execution (noSuchTable name)
          else .tableNotFound table),
        served s purpose kind statement g) := by
  rw [run_send h, Except.mapError, MappingError.classify_noSuchTable]

/-- An engine that has no table of orders. -/
def hasNoOrders (_ : Statement) (g : σ) : Except MappingError Unit × σ :=
  (.error (.execution (noSuchTable "orders")), g)

/-- The table of orders is reported as missing. -/
theorem run_send_noSuchTable_orders :
    ((send .application .query "orders" ⟨"SELECT * FROM orders", []⟩ hasNoOrders :
      Session _ (fun _ : Unit => Visit) Unit).run
        (.opened (visitEnvironment ⟨7, "home"⟩) visits)).1 = .error (.tableNotFound "orders") := by
  have hrefused : hasNoOrders ⟨"SELECT * FROM orders", []⟩ visits =
      (.error (.execution (noSuchTable "orders")), visits) := rfl
  have hduplicate : isDuplicateKeyMessage "orders" = false := by decide +kernel
  have hcolumn : mentionsAny "orders" ["column"] = false := by decide +kernel
  rw [run_send_noSuchTable "orders" "orders" hrefused, hduplicate, hcolumn]
  rfl

end Session
end TableMapping
