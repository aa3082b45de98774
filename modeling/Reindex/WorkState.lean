import Reindex.Error

/-!
# States of a unit of work

A unit is open until it is flushed; its work is prepared, then executed by the
backend; it ends committed or failed. A rollback is accepted in every state but
its own, for it is the transaction that decides. Every other move is refused and
leaves the state as it was.

Instants are kept as they are given; the states do not depend on what they are.
-/

namespace Reindex

/-- The state of a unit of work, with instants of any type. -/
inductive WorkState (Instant : Type) where
  | opened (since : Instant)
  | flushing (started : Instant)
  | executing (started : Instant) (batches : Nat)
  | committed (started ended : Instant) (duration : Nat) (entities : Nat)
  | failed (ended : Instant) (keys : List EntityKey) (error : String) (category : Category)
  | rolledBack (ended : Instant) (unretracted : Nat)

/-- The coarser view in which execution is part of flushing. -/
inductive Phase where
  | opened
  | flushing
  | committed
  | failed
  | rolledBack
  deriving DecidableEq, Repr

/-- The name of a phase. -/
def Phase.name : Phase → String
  | .opened => "open"
  | .flushing => "flushing"
  | .committed => "committed"
  | .failed => "failed"
  | .rolledBack => "rolled_back"

namespace WorkState

variable {Instant : Type}

/-- The name of a state. -/
def name : WorkState Instant → String
  | .opened .. => "open"
  | .flushing .. => "flushing"
  | .executing .. => "executing"
  | .committed .. => "committed"
  | .failed .. => "failed"
  | .rolledBack .. => "rolled_back"

/-- The phase of a state. -/
def phase : WorkState Instant → Phase
  | .opened .. => .opened
  | .flushing .. | .executing .. => .flushing
  | .committed .. => .committed
  | .failed .. => .failed
  | .rolledBack .. => .rolledBack

/-- Whether the unit has ended. -/
def isTerminal (state : WorkState Instant) : Bool :=
  match state with
  | .committed .. | .failed .. | .rolledBack .. => true
  | _ => false

/-- Whether the unit still takes registrations. -/
def isOpen (state : WorkState Instant) : Bool :=
  match state with
  | .opened .. => true
  | _ => false

/-- Refuse what only an open unit takes. -/
def ensureOpen (state : WorkState Instant) : Except IndexingError Unit :=
  if state.isOpen then .ok () else .error (.unitClosed state.name)

/-- The refusal of a move. -/
def refuse (state : WorkState Instant) (target : String) :
    Except IndexingError (WorkState Instant) :=
  .error (.invalidTransition state.name target)

/-- Begin to prepare the work. -/
def beginFlush (now : Instant) (state : WorkState Instant) :
    Except IndexingError (WorkState Instant) :=
  match state with
  | .opened _ => .ok (.flushing now)
  | _ => state.refuse "flushing"

/-- Hand the work over. -/
def beginExecution (batches : Nat) (state : WorkState Instant) :
    Except IndexingError (WorkState Instant) :=
  match state with
  | .flushing started => .ok (.executing started batches)
  | _ => state.refuse "executing"

/-- End with everything indexed. -/
def commit (now : Instant) (duration : Nat) (entities : Nat) (state : WorkState Instant) :
    Except IndexingError (WorkState Instant) :=
  match state with
  | .flushing started | .executing started _ => .ok (.committed started now duration entities)
  | _ => state.refuse "committed"

/-- End with keys that were not indexed. -/
def fail (now : Instant) (keys : List EntityKey) (error : String) (category : Category)
    (state : WorkState Instant) : Except IndexingError (WorkState Instant) :=
  match state with
  | .flushing _ | .executing .. => .ok (.failed now keys error category)
  | _ => state.refuse "failed"

/-- End by the decision of the transaction. -/
def rollBack (now : Instant) (unretracted : Nat) (state : WorkState Instant) :
    Except IndexingError (WorkState Instant) :=
  match state with
  | .rolledBack .. => state.refuse "rolled_back"
  | _ => .ok (.rolledBack now unretracted)

end WorkState

end Reindex
