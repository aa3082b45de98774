import Reindex.Engine
import Reindex.Json.Writer
import Reindex.Settings
import Reindex.WorkState.Serialized
import Reindex.Proofs.Plan.Entries
import Reindex.Proofs.Plan.Reconciliation
import Reindex.Proofs.Containment.Closure
import Reindex.Proofs.Containment.Completeness
import Reindex.Proofs.Containment.Direct
import Reindex.Proofs.Containment.Unread
import Reindex.Proofs.Engine
import Reindex.Proofs.Flush.Accounting
import Reindex.Proofs.Flush.Independence
import Reindex.Proofs.Plan.PendingOperation
import Reindex.Proofs.ReadSet
import Reindex.Proofs.Containment.Reads
import Reindex.Proofs.UnitOfWork.Coherence
import Reindex.Proofs.Submission.Calls
import Reindex.Proofs.Submission.Course
import Reindex.Proofs.UnitOfWork.HandedOver
import Reindex.Proofs.UnitOfWork.Faithful
import Reindex.Proofs.Flush.Calls
import Reindex.Proofs.Flush.Safety
import Reindex.Proofs.Flush.History
import Reindex.Proofs.UnitOfWork.Report
import Reindex.Proofs.Flush.Rollback
import Reindex.Proofs.Containment.Roots
import Reindex.Proofs.Flush.Scheduled
import Reindex.Proofs.EntityId.Documents
import Reindex.Proofs.Flush.Addresses
import Reindex.Proofs.Flush.Discarded
import Reindex.Proofs.UnitOfWork.Answers
import Reindex.Proofs.Plan.ChangeLog
import Reindex.Proofs.Flush.Tally
import Reindex.Proofs.Flush.Submitted
import Reindex.Proofs.Flush.Aborted
import Reindex.Proofs.Plan.Ledger
import Reindex.Proofs.Flush.Translation
import Reindex.Proofs.Flush.Rounds
import Reindex.Proofs.Flush.BatchSize
import Reindex.Proofs.Containment.RootLookup
import Reindex.Proofs.Resolver.Memo
import Reindex.Proofs.ReadSet.Extent
import Reindex.Proofs.Registry.Catalogue
import Reindex.Proofs.Registry.Declarations
import Reindex.Proofs.Flush.Classification
import Reindex.Proofs.Flush.Promptness
import Reindex.Proofs.Path.Segments
import Reindex.Proofs.EntityId.Precedence
import Reindex.Proofs.Containment.Queue
import Reindex.Proofs.Serialized
