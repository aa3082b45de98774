import Reindex.Instance

/-!
# Pending operations

What is to happen to the document of one entity when its unit of work is
flushed. A later registration merges into the pending operation so that one
operation stands for the whole history: a document that was added is still added
however it changed since, one that was added and deleted needs nothing, and one
that was deleted and comes back is updated, for it may still be in the index.

An operation carries the latest instance that was supplied, if any; without one
the entity is loaded when the unit is flushed. A fresher instance replaces the
carried one and none never does.
-/

namespace Reindex

/-- The kinds of pending operation. -/
inductive OperationKind where
  | add
  | update
  | addOrUpdate
  | delete
  | noop
  deriving DecidableEq, Repr

/-- The name of a kind. -/
def OperationKind.name : OperationKind → String
  | .add => "ADD"
  | .update => "UPDATE"
  | .addOrUpdate => "ADD_OR_UPDATE"
  | .delete => "DELETE"
  | .noop => "NOOP"

/-- What is pending for one document. -/
inductive Operation where
  | add (carried : Option Instance)
  | update (carried : Option Instance)
  | addOrUpdate (carried : Option Instance)
  | delete
  | noop

namespace Operation

/-- The kind of an operation. -/
def kind : Operation → OperationKind
  | .add _ => .add
  | .update _ => .update
  | .addOrUpdate _ => .addOrUpdate
  | .delete => .delete
  | .noop => .noop

/-- The carried instance. -/
def carried? : Operation → Option Instance
  | .add carried | .update carried | .addOrUpdate carried => carried
  | .delete | .noop => none

/-- Whether anything is to be done. -/
def isLive (operation : Operation) : Bool := operation.kind != .noop

/-- The operation that stands for a pending one and the one that follows it. -/
def merge (pending incoming : Operation) : Operation :=
  match pending, incoming with
  | pending, .noop => pending
  | .add old, .add new | .add old, .update new | .add old, .addOrUpdate new => .add (new.or old)
  | .add _, .delete => .noop
  | .update old, .add new | .update old, .update new | .update old, .addOrUpdate new =>
    .update (new.or old)
  | .update _, .delete => .delete
  | .delete, .add new | .delete, .update new | .delete, .addOrUpdate new => .update new
  | .delete, .delete => .delete
  | .addOrUpdate old, .add new | .addOrUpdate old, .update new
  | .addOrUpdate old, .addOrUpdate new => .addOrUpdate (new.or old)
  | .addOrUpdate _, .delete => .delete
  | .noop, .add new | .noop, .update new | .noop, .addOrUpdate new => .add new
  | .noop, .delete => .noop

/-- Carry a fresher instance, if there is one, without changing the operation. -/
def refresh (fresh : Option Instance) : Operation → Operation
  | .add old => .add (fresh.or old)
  | .update old => .update (fresh.or old)
  | .addOrUpdate old => .addOrUpdate (fresh.or old)
  | .delete => .delete
  | .noop => .noop

end Operation

end Reindex
