import Reindex.EntityKey
import Reindex.Instance
import Reindex.PathSet

/-!
# Lifecycle events

What the persistence layer reports of an entity: that it was created, changed or
deleted, which paths changed if it can tell, and the entity itself if at hand.
-/

namespace Reindex

/-- The kinds of change that are reported. -/
inductive ChangeKind where
  | create
  | update
  | delete
  deriving DecidableEq, Repr

namespace ChangeKind

/-- The name of a kind. -/
def name : ChangeKind → String
  | .create => "create"
  | .update => "update"
  | .delete => "delete"

/-- The kind of a name. -/
def ofName? (name : String) : Option ChangeKind :=
  [ChangeKind.create, .update, .delete].find? (·.name == name)

/-- The kind that a value serializes. -/
def ofJson? (value : Json) : Option ChangeKind := value.unitTag?.bind ofName?

end ChangeKind

/-- One report of the persistence layer. -/
structure LifecycleEvent where
  key : EntityKey
  kind : ChangeKind
  paths : Option PathSet
  entity : Option Instance

end Reindex
