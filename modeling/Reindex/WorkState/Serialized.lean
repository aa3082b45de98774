import Reindex.Config
import Reindex.Timestamp
import Reindex.WorkState

/-!
# The serialized form of a state

A state is an object that names its kind in the member `type`; the other members
are those of the state. Members that the state does not have are of no account.
-/

namespace Reindex.WorkState

/-- The instant that a member holds. -/
def instant? (members : Fields) (name : String) : Option Timestamp :=
  ((Fields.get? members name).bind Json.text?).bind Timestamp.read?

/-- The count that a member holds. -/
def count? (members : Fields) (name : String) : Option Nat :=
  (Fields.get? members name).bind Config.count?

/-- The keys that a member holds. -/
def keys? (members : Fields) (name : String) : Option (List EntityKey) :=
  match Fields.get? members name with
  | some (.array items) => items.mapM EntityKey.ofJson?
  | _ => none

/-- The category that a member holds. Here its content, if it is given one, may be
an empty object too. -/
def category? (members : Fields) (name : String) : Option Category :=
  (Fields.get? members name).bind fun value =>
    match value with
    | .object [(tag, .object [])] => Category.ofJson? (.text tag)
    | value => Category.ofJson? value

/-- The state of a kind with the given members; other members are of no account. -/
def ofMembers? (kind : String) (members : Fields) : Option (WorkState Timestamp) := do
  match kind with
  | "open" => pure (.opened (← instant? members "opened_at"))
  | "flushing" => pure (.flushing (← instant? members "flush_started_at"))
  | "executing" =>
    pure (.executing (← instant? members "flush_started_at")
      (← count? members "batches_in_flight"))
  | "committed" =>
    pure (.committed (← instant? members "flush_started_at") (← instant? members "committed_at")
      (← count? members "duration_ms") (← count? members "entities_indexed"))
  | "failed" =>
    pure (.failed (← instant? members "failed_at") (← keys? members "failed_keys")
      (← (Fields.get? members "error").bind Json.text?) (← category? members "category"))
  | "rolled_back" =>
    pure (.rolledBack (← instant? members "rolled_back_at") (← count? members "unretracted"))
  | _ => none

/-- The names of the members of a kind, in order. -/
def memberNames? (kind : String) : Option (List String) :=
  match kind with
  | "open" => some ["opened_at"]
  | "flushing" => some ["flush_started_at"]
  | "executing" => some ["flush_started_at", "batches_in_flight"]
  | "committed" => some ["flush_started_at", "committed_at", "duration_ms", "entities_indexed"]
  | "failed" => some ["failed_at", "failed_keys", "error", "category"]
  | "rolled_back" => some ["rolled_back_at", "unretracted"]
  | _ => none

/-- The state that a value serializes: an object that names the kind, or the kind
followed by its members in order. -/
def ofJson? : Json → Option (WorkState Timestamp)
  | .object members =>
    ((Fields.get? members "type").bind Json.text?).bind fun kind => ofMembers? kind members
  | .array (.text kind :: values) =>
    (memberNames? kind).bind fun names =>
      if names.length = values.length then ofMembers? kind (Fields.ofList (names.zip values))
      else none
  | _ => none

/-- The member that holds an instant. -/
def instantMember (name : String) (instant : Timestamp) : String × Json :=
  (name, .text instant.render)

/-- The member that holds a count. -/
def countMember (name : String) (count : Nat) : String × Json :=
  (name, .number (.integer count))

/-- The members of a state besides its kind. -/
def members : WorkState Timestamp → List (String × Json)
  | .opened since => [instantMember "opened_at" since]
  | .flushing started => [instantMember "flush_started_at" started]
  | .executing started batches =>
    [instantMember "flush_started_at" started, countMember "batches_in_flight" batches]
  | .committed started ended duration entities =>
    [instantMember "flush_started_at" started, instantMember "committed_at" ended,
      countMember "duration_ms" duration, countMember "entities_indexed" entities]
  | .failed ended keys error category =>
    [instantMember "failed_at" ended, ("failed_keys", .array (keys.map EntityKey.toJson)),
      ("error", .text error), ("category", .text category.tag)]
  | .rolledBack ended unretracted =>
    [instantMember "rolled_back_at" ended, countMember "unretracted" unretracted]

/-- The serialized form of a state. -/
def toJson (state : WorkState Timestamp) : Json :=
  .object (Fields.ofList (("type", .text state.name) :: state.members))

end Reindex.WorkState
