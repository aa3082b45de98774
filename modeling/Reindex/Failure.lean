import Reindex.EntityKey

/-!
# Failures of indexing work

A failure lists the keys that did not reach the index and why. The cause alone
decides the category, which says whether to try again is of use.
-/

namespace Reindex

/-- Whether the same work could succeed later. -/
inductive Category where
  | transient
  | permanent
  | infrastructure
  deriving DecidableEq, Repr

namespace Category

/-- The lower-case name. -/
def name : Category → String
  | .transient => "transient"
  | .permanent => "permanent"
  | .infrastructure => "infrastructure"

/-- All categories. -/
def values : List Category := [.transient, .permanent, .infrastructure]

/-- The category of a name. -/
def ofName? (name : String) : Option Category := values.find? (·.name == name)

/-- The name that stands for a category in serialized form. -/
def tag : Category → String
  | .transient => "Transient"
  | .permanent => "Permanent"
  | .infrastructure => "Infrastructure"

/-- The category that a value serializes. -/
def ofJson? (value : Json) : Option Category := do
  let tag ← value.unitTag?
  values.find? (·.tag == tag)

end Category

/-- Why keys were not indexed. -/
inductive FailureCause where
  | rejected (reason : String)
  | timeout (afterMs : Nat)
  | extraction (message : String)
  | loader (message : String)
  | backend (message : String)
  deriving DecidableEq, Repr

namespace FailureCause

/-- The text of a cause. -/
def message : FailureCause → String
  | .rejected reason => "rejected by backend: " ++ reason
  | .timeout afterMs => "timed out after " ++ toString afterMs ++ "ms"
  | .extraction message => "field extraction failed: " ++ message
  | .loader message => "reverse association loading failed: " ++ message
  | .backend message => "backend error: " ++ message

/-- Deadlines and loading may pass later; an entity that is refused or yields no
document fails again; the rest is trouble of the backend. -/
def category : FailureCause → Category
  | .timeout _ | .loader _ => .transient
  | .rejected _ | .extraction _ => .permanent
  | .backend _ => .infrastructure

end FailureCause

/-- Keys that were not indexed, for one cause. -/
structure Failure where
  keys : List EntityKey
  cause : FailureCause
  deriving DecidableEq

namespace Failure

/-- The category of the cause. -/
def category (failure : Failure) : Category := failure.cause.category

/-- The text of a failure. -/
def message (failure : Failure) : String :=
  "Indexing failed for " ++ toString failure.keys.length ++ " entities: " ++ failure.cause.message

/-- The keys of several failures, in order. -/
def allKeys (failures : List Failure) : List EntityKey := failures.flatMap Failure.keys

end Failure

end Reindex
