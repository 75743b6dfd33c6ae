import TableMapping.Session.Basic

/-!
# Operations as data

What an application asks of a session is a list of operations, each on one of its models and
each with an answer of its own type.  An operation that fails does not end the session: the
next one starts from the state that the failure left.
-/

namespace TableMapping

/-- An operation on a model. -/
inductive Operation {κ : Type} (Obj : Models κ) where
  | newAlias (k : ModelKey κ)
  | createTable (k : ModelKey κ)
  | insert (k : ModelKey κ) (m : ModelKey.Object Obj k)
  | insertForKey (k : ModelKey κ) (m : ModelKey.Object Obj k)
  | insertAll (k : ModelKey κ) (ms : List (ModelKey.Object Obj k))
  | update (k : ModelKey κ) (m : ModelKey.Object Obj k)
  | delete (k : ModelKey κ) (m : ModelKey.Object Obj k)
  | merge (k : ModelKey κ) (m : ModelKey.Object Obj k)
  | select (k : ModelKey κ) (q : Query (ModelKey.Object Obj k))
  | selectFirst (k : ModelKey κ) (q : Query (ModelKey.Object Obj k))
  | selectCount (k : ModelKey κ) (q : Query (ModelKey.Object Obj k))

namespace Operation

variable {σ κ : Type} {Obj : Models κ}

/-- The model of an operation. -/
def model : Operation Obj → ModelKey κ
  | newAlias k => k
  | createTable k => k
  | insert k _ => k
  | insertForKey k _ => k
  | insertAll k _ => k
  | update k _ => k
  | delete k _ => k
  | merge k _ => k
  | select k _ => k
  | selectFirst k _ => k
  | selectCount k _ => k

/-- Whether there is nothing to do: no object is given to be inserted. -/
def isIdle : Operation Obj → Bool
  | insertAll _ ms => ms.isEmpty
  | _ => false

/-- The type of the answer. -/
def Answer : Operation Obj → Type
  | newAlias k => Alias (ModelKey.Object Obj k)
  | createTable _ => Unit
  | insert .. => UInt64
  | insertForKey .. => Int64
  | insertAll .. => UInt64
  | update .. => UInt64
  | delete .. => UInt64
  | merge .. => Unit
  | select k _ => List (ModelKey.Object Obj k)
  | selectFirst k _ => Option (ModelKey.Object Obj k)
  | selectCount .. => Int64

variable [DecidableEq κ] (env : Environment σ Obj)

/-- Perform an operation. -/
def perform : (op : Operation Obj) → Session σ Obj op.Answer
  | newAlias k => Session.newAlias env k
  | createTable k => Session.createTable env k
  | insert k m => Session.insert env k m
  | insertForKey k m => Session.insertForKey env k m
  | insertAll k ms => Session.insertAll env k ms
  | update k m => Session.update env k m
  | delete k m => Session.delete env k m
  | merge k m => Session.merge env k m
  | select k q => Session.select env k q
  | selectFirst k q => Session.selectFirst env k q
  | selectCount k q => Session.selectCount env k q

/-- The state after operations one after the other, whether they fail or not. -/
def performAll : List (Operation Obj) → SessionState σ Obj → SessionState σ Obj
  | [], s => s
  | op :: ops, s => performAll ops ((op.perform env).run s).2

end Operation
end TableMapping
