import TableMapping.Proofs.Sql.Literal
import TableMapping.Sql.Dialect

/-!
# Quoted names tell names apart

In the dialects that quote names, a name is read back from its quotes whatever stands behind it, as
long as that is not another quote.  So a text that is put together from quoted names and other marks
comes apart in one way only, and what it names can be told from it.

* `Dialect.readQuoted?_identifier`: one name, with `Dialect.identifier_append_inj` for the text
  behind it.
* `Dialect.qualified_eq_iff`: a table with its schema.
* `Dialect.columnList_injective`: a list of columns.
* `Dialect.quotesLosslessly_mySql_postgres`: the dialects that quote.
-/

namespace TableMapping
namespace Dialect

open Sql

variable {d : Dialect} {quote : Char} {name name' : String} {rest rest' : List Char}

/-! ## One name -/

theorem toList_identifier (hq : d.identifierQuote? = some quote) (name : String) :
    (d.identifier name).toList = quote :: (doubled quote name.toList ++ [quote]) := by
  rw [identifier, hq]
  exact String.toList_ofList

/-- A quoted name is read off the front of a text. -/
theorem readQuoted?_identifier (hq : d.identifierQuote? = some quote)
    (hrest : rest.head? ≠ some quote) (name : String) :
    readQuoted? quote ((d.identifier name).toList ++ rest) = some (name.toList, rest) := by
  rw [toList_identifier hq]
  refine readQuoted?_eq_some_iff.mpr ⟨?_, hrest⟩
  rw [List.cons_append, List.append_assoc, List.singleton_append]

/-- Quotes at the end of a name are not taken for the one that ends it. -/
example : readQuoted? '"' (postgres.identifier "a\"" ++ ".b").toList =
    some ("a\"".toList, ".b".toList) := by decide

theorem identifier_append_inj (hq : d.identifierQuote? = some quote)
    (hrest : rest.head? ≠ some quote) (hrest' : rest'.head? ≠ some quote)
    (h : (d.identifier name).toList ++ rest = (d.identifier name').toList ++ rest') :
    name = name' ∧ rest = rest' := by
  have hread := readQuoted?_identifier hq hrest name
  rw [h, readQuoted?_identifier hq hrest' name'] at hread
  obtain ⟨hname, hrest⟩ := Prod.mk.inj (Option.some.inj hread)
  exact ⟨String.toList_inj.mp hname.symm, hrest.symm⟩

/-! ## Tables -/

/-- The schema that stands in front of the name of a table. -/
def writtenSchema (schema : Option String) : Option String :=
  schema.filter fun s => !s.isEmpty

/-- What stands behind the first name of a table is nothing, or a point and another name. -/
theorem toList_qualified (d : Dialect) (schema : Option String) (table : String) :
    (d.qualified schema table).toList =
      match writtenSchema schema with
      | some s => (d.identifier s).toList ++ '.' :: (d.identifier table).toList
      | none => (d.identifier table).toList ++ [] := by
  rw [qualified, writtenSchema]
  cases schema.filter fun s => !s.isEmpty with
  | none => exact (List.append_nil _).symm
  | some s =>
    show (d.identifier s ++ "." ++ d.identifier table).toList = _
    rw [String.toList_append, String.toList_append, List.append_assoc]
    rfl

/-- Tables with the same text are the same table of the same schema. -/
theorem qualified_eq_iff (hq : d.identifierQuote? = some quote) (hpoint : '.' ≠ quote)
    {schema schema' : Option String} {table table' : String} :
    d.qualified schema table = d.qualified schema' table' ↔
      writtenSchema schema = writtenSchema schema' ∧ table = table' := by
  have hbehind : ∀ cs, ('.' :: cs).head? ≠ some quote := fun _ heq => hpoint (Option.some.inj heq)
  have hnothing : ([] : List Char).head? ≠ some quote := nofun
  rw [← String.toList_inj, toList_qualified, toList_qualified]
  cases writtenSchema schema with
  | none =>
    cases writtenSchema schema' with
    | none =>
      constructor
      · intro h
        exact ⟨rfl, (identifier_append_inj hq hnothing hnothing h).1⟩
      · rintro ⟨-, rfl⟩
        rfl
    | some s' =>
      constructor
      · intro h
        exact nomatch (identifier_append_inj hq hnothing (hbehind _) h).2
      · rintro ⟨h, -⟩
        exact nomatch h
  | some s =>
    cases writtenSchema schema' with
    | none =>
      constructor
      · intro h
        exact nomatch (identifier_append_inj hq (hbehind _) hnothing h).2
      · rintro ⟨h, -⟩
        exact nomatch h
    | some s' =>
      constructor
      · intro h
        obtain ⟨rfl, htail⟩ := identifier_append_inj hq (hbehind _) (hbehind _) h
        have htable := congrArg (· ++ []) (List.cons.inj htail).2
        exact ⟨rfl, (identifier_append_inj hq hnothing hnothing htable).1⟩
      · rintro ⟨h, rfl⟩
        rw [Option.some.inj h]

/-! ## Columns -/

/-- What stands behind the first column of a list. -/
def behindColumn (d : Dialect) : List String → List Char
  | [] => []
  | c :: cs => ',' :: ' ' :: (d.columnList (c :: cs)).toList

theorem toList_columnList_cons (d : Dialect) (c : String) (cs : List String) :
    (d.columnList (c :: cs)).toList = (d.identifier c).toList ++ d.behindColumn cs := by
  cases cs with
  | nil =>
    rw [columnList, List.map_singleton, String.intercalate_singleton, behindColumn, List.append_nil]
  | cons c' cs =>
    rw [columnList, List.map_cons, List.map_cons, String.intercalate_cons_cons,
      String.toList_append, String.toList_append, List.append_assoc]
    rfl

/-- Lists of columns with the same text are the same list. -/
theorem columnList_injective (hq : d.identifierQuote? = some quote) (hcomma : ',' ≠ quote) :
    Function.Injective d.columnList := by
  have hbehind : ∀ cs, (d.behindColumn cs).head? ≠ some quote := by
    intro cs
    cases cs with
    | nil => exact nofun
    | cons c cs => exact fun heq => hcomma (Option.some.inj heq)
  have hsome : ∀ c cs, d.columnList [] ≠ d.columnList (c :: cs) := by
    intro c cs heq
    rw [← String.toList_inj, toList_columnList_cons, toList_identifier hq] at heq
    exact nomatch heq
  intro cs
  induction cs with
  | nil =>
    intro cs' h
    cases cs' with
    | nil => rfl
    | cons c' cs' => exact absurd h (hsome c' cs')
  | cons c cs ih =>
    intro cs' h
    cases cs' with
    | nil => exact absurd h.symm (hsome c cs)
    | cons c' cs' =>
      rw [← String.toList_inj, toList_columnList_cons, toList_columnList_cons] at h
      obtain ⟨rfl, htail⟩ := identifier_append_inj hq (hbehind cs) (hbehind cs') h
      cases cs with
      | nil =>
        cases cs' with
        | nil => rfl
        | cons => exact nomatch htail
      | cons =>
        cases cs' with
        | nil => exact nomatch htail
        | cons =>
          have hlists := (List.cons.inj (List.cons.inj htail).2).2
          rw [ih (String.toList_inj.mp hlists)]

/-! ## Dialects -/

/-- What a dialect quotes can be told from its text. -/
structure QuotesLosslessly (d : Dialect) (quote : Char) : Prop where
  /-- From the opening quote to the first quote that is not one of a pair, a reader goes through the
  whole text and finds the name. -/
  identifier (name : String) : readQuoted? quote (d.identifier name).toList = some (name.toList, [])
  qualified (schema schema' : Option String) (table table' : String) :
    d.qualified schema table = d.qualified schema' table' ↔
      writtenSchema schema = writtenSchema schema' ∧ table = table'
  columnList (columns columns' : List String) :
    d.columnList columns = d.columnList columns' → columns = columns'

theorem quotesLosslessly_of_quote (hq : d.identifierQuote? = some quote) (hpoint : '.' ≠ quote)
    (hcomma : ',' ≠ quote) : QuotesLosslessly d quote where
  identifier name := by
    have hnothing : ([] : List Char).head? ≠ some quote := nofun
    have hread := readQuoted?_identifier hq hnothing name
    rwa [List.append_nil] at hread
  qualified _ _ _ _ := qualified_eq_iff hq hpoint
  columnList _ _ h := columnList_injective hq hcomma h

/-- **What is quoted can be told from its text.**  The two dialects that quote write every name,
whatever its characters, as one quoted text from which it is read back; tables with the same text have
the same name and the same schema, the empty one being none, and lists of columns with the same text
are the same list. -/
theorem quotesLosslessly_mySql_postgres :
    QuotesLosslessly mySql '\x60' ∧ QuotesLosslessly postgres '"' :=
  ⟨quotesLosslessly_of_quote rfl (by decide) (by decide),
    quotesLosslessly_of_quote rfl (by decide) (by decide)⟩

end Dialect
end TableMapping
