import Reindex.Failure

/-!
# Work for the backend

A work item says what to do to one document of one index. Items travel in
batches, numbered from zero within their unit of work. The backend answers a
batch with a report, which lists the keys it refused; a report may also speak of
keys that the batch does not hold.
-/

namespace Reindex

/-- What is done to a document. -/
inductive WorkOperation where
  | add
  | update
  | delete
  deriving DecidableEq, Repr

namespace WorkOperation

/-- The name of an operation. -/
def name : WorkOperation → String
  | .add => "add"
  | .update => "update"
  | .delete => "delete"

/-- The operation that a value serializes. -/
def ofJson? (value : Json) : Option WorkOperation := do
  let tag ← value.unitTag?
  [WorkOperation.add, .update, .delete].find? (·.name == tag)

end WorkOperation

/-- What to do to one document of an index. -/
structure WorkItem where
  key : EntityKey
  index : String
  documentId : String
  operation : WorkOperation
  document : Option Fields

/-- Items that are submitted together. -/
structure WorkBatch where
  sequence : Nat
  items : List WorkItem

namespace WorkBatch

/-- The keys of the items, in order. -/
def keys (batch : WorkBatch) : List EntityKey := batch.items.map WorkItem.key

/-- The number of items. -/
def size (batch : WorkBatch) : Nat := batch.items.length

end WorkBatch

/-- The keys that the backend refused, each with its reason; the latest entry of
a key counts. -/
structure BatchReport where
  rejections : List (EntityKey × String) := []

namespace BatchReport

/-- Why a key was refused, if it was. -/
def rejection? (report : BatchReport) (key : EntityKey) : Option String :=
  report.rejections.lookup key

/-- The report with one more refusal. -/
def withRejection (report : BatchReport) (key : EntityKey) (reason : String) : BatchReport :=
  ⟨(key, reason) :: report.rejections.filter fun entry => entry.1 != key⟩

/-- The number of refused keys. -/
def size (report : BatchReport) : Nat := report.rejections.length

/-- Whether nothing was refused. -/
def isSuccess (report : BatchReport) : Bool := report.rejections.isEmpty

end BatchReport

end Reindex
