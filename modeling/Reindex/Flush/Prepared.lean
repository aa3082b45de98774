import Reindex.Flush.Batching
import Reindex.Flush.Expansion
import Reindex.Flush.Items

/-!
# Prepared flushes

A plan becomes batches of work items and failures of keys that could not get
one. When the expansion ends with an error the whole flush ends with it:
nothing has been loaded, extracted or submitted.
-/

namespace Reindex

/-- Work that is ready for submission. -/
structure PreparedFlush where
  batches : List WorkBatch
  /-- The keys that have no work item, each with its cause. -/
  failures : List Failure

namespace PreparedFlush

/-- The number of work items. -/
def itemCount (prepared : PreparedFlush) : Nat := (prepared.batches.flatMap WorkBatch.items).length

/-- The keys of the work items, in order. -/
def keys (prepared : PreparedFlush) : List EntityKey := prepared.batches.flatMap WorkBatch.keys

end PreparedFlush

/-- Expand and resolve a plan and make its work items, and list what was asked. -/
def Mapping.prepare (mapping : Mapping) (services : Services) (plan : Plan) :
    Except IndexingError PreparedFlush × List Request :=
  let (expanded, asked) := Expansion.expand mapping.containment services.rootLoader plan
  match expanded with
  | .error error => (.error error, asked)
  | .ok plan =>
    let ((items, failures), loaded) := Items.itemsOf services mapping.registry plan.resolve
    (.ok ⟨Batching.batches mapping.config.batchSize items, failures⟩, asked ++ loaded)

end Reindex
