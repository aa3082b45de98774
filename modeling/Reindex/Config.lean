import Reindex.Config.Error
import Reindex.Json

/-!
# Engine settings

Five settings, each with a default. The numeric ones have inclusive bounds, and
a marker that would be found in every class name is refused. Settings are
checked in the order in which they are declared, and the first fault is
reported.
-/

namespace Reindex

/-- The settings of the engine. -/
structure Config where
  /-- Work items in a backend batch. -/
  batchSize : Nat := 100
  /-- The deadline for one batch, in milliseconds. -/
  submitTimeout : Nat := 30000
  /-- Batches of one unit of work that may be submitted at a time. -/
  maxInFlight : Nat := 4
  /-- The longest embedding chain that is followed. -/
  maxDepth : Nat := 8
  /-- A class name that holds this marker names a proxy of what precedes it. -/
  proxyMarker : String := "$$Proxy"
  deriving DecidableEq, Repr, Inhabited

namespace Config

/-- Refuse a value outside its bounds. -/
def checkRange (field : String) (value least greatest : Nat) (hint : String) :
    Except ConfigError Unit :=
  if least ≤ value ∧ value ≤ greatest then .ok ()
  else .error (.range field (toString value) (toString least) (toString greatest) hint)

/-- Refuse settings that the engine cannot run with. -/
def validate (config : Config) : Except ConfigError Unit := do
  checkRange "batch_size" config.batchSize 1 10000 "A batch must carry at least one work item"
  checkRange "submit_timeout_ms" config.submitTimeout 1 600000
    "Submission deadline must be positive and at most 10 minutes"
  checkRange "max_in_flight_batches" config.maxInFlight 1 256
    "At least one batch must be allowed in flight"
  checkRange "max_containment_depth" config.maxDepth 1 64
    "Containment depth must allow at least one embedding level"
  if config.proxyMarker = "" then .error (.custom "proxy_marker must not be empty") else .ok ()

/-- A count within the unsigned 64-bit range. -/
def count? : Json → Option Nat
  | .number (.integer value) => if 0 ≤ value ∧ value < UInt64.size then some value.toNat else none
  | _ => none

/-- The settings that a value serializes: all five by name, other members being
of no account, or all five in order of declaration. -/
def ofJson? (value : Json) : Option Config := do
  let (batchSize, submitTimeout, maxInFlight, maxDepth, proxyMarker) ← match value with
    | .object members => do
      let batchSize ← Fields.get? members "batch_size"
      let submitTimeout ← Fields.get? members "submit_timeout_ms"
      let maxInFlight ← Fields.get? members "max_in_flight_batches"
      let maxDepth ← Fields.get? members "max_containment_depth"
      let proxyMarker ← Fields.get? members "proxy_marker"
      pure (batchSize, submitTimeout, maxInFlight, maxDepth, proxyMarker)
    | .array [batchSize, submitTimeout, maxInFlight, maxDepth, proxyMarker] =>
      some (batchSize, submitTimeout, maxInFlight, maxDepth, proxyMarker)
    | _ => none
  pure {
    batchSize := ← count? batchSize
    submitTimeout := ← count? submitTimeout
    maxInFlight := ← count? maxInFlight
    maxDepth := ← count? maxDepth
    proxyMarker := ← proxyMarker.text? }

end Config

end Reindex
