import Reindex.Decimal.Fixed
import Reindex.Flush.Outcome

/-!
# Metrics

Counters of work items and of units of work, and the durations of flushes in the
order in which they were recorded. A counter only ever grows, each observation
moving the counters that it concerns.

A counter is read as a word of 64 bits, and published in double precision. The
durations are published as a histogram in seconds: for each bound how many flushes
took no longer, and the sum, added up in order in double precision.
-/

namespace Reindex

/-- What is counted. -/
inductive Observation where
  /-- Work items were handed over. -/
  | submitted (items : Nat)
  /-- A flush ended, with whatever outcome. -/
  | flushed (outcome : FlushOutcome)
  | rolledBack

/-- What was counted so far. -/
structure Metrics where
  itemsSubmitted : Nat := 0
  itemsFailed : Nat := 0
  unitsCommitted : Nat := 0
  unitsFailed : Nat := 0
  unitsRolledBack : Nat := 0
  /-- The durations of flushes in milliseconds, in order. -/
  durations : List Nat := []

namespace Metrics

/-- Count one observation. -/
def observe (metrics : Metrics) : Observation → Metrics
  | .submitted items => { metrics with itemsSubmitted := metrics.itemsSubmitted + items }
  | .flushed outcome =>
    { metrics with
      itemsFailed := metrics.itemsFailed + outcome.failedKeys.length
      unitsCommitted := metrics.unitsCommitted + if outcome.isSuccess then 1 else 0
      unitsFailed := metrics.unitsFailed + if outcome.isSuccess then 0 else 1
      durations := metrics.durations ++ [outcome.duration] }
  | .rolledBack => { metrics with unitsRolledBack := metrics.unitsRolledBack + 1 }

/-- The number of recorded flushes. -/
def flushes (metrics : Metrics) : Nat := metrics.durations.length

/-- The bounds of the histogram, in milliseconds. -/
def bounds : List Nat := [1, 5, 10, 50, 100, 500, 1000, 5000, 30000]

/-- How many flushes took no longer than a bound. -/
def countWithin (metrics : Metrics) (bound : Nat) : Nat :=
  metrics.durations.countP fun duration => duration ≤ bound

/-- What a counter reads. -/
def word (count : Nat) : Nat := count % UInt64.size

/-- What is published of a counter: a number of at most 53 significant bits. -/
def published (count : Nat) : Nat := min (Decimal.significant 53 (word count)) (UInt64.size - 1)

/-- The counters by their names. -/
def counters (metrics : Metrics) : List (String × Nat) := [
  ("items_submitted", word metrics.itemsSubmitted),
  ("items_failed", word metrics.itemsFailed),
  ("units_committed", word metrics.unitsCommitted),
  ("units_failed", word metrics.unitsFailed),
  ("units_rolled_back", word metrics.unitsRolledBack),
  ("flushes", word metrics.flushes)]

/-- A number of milliseconds in seconds. -/
def seconds (milliseconds : Nat) : Float := milliseconds.toUInt64.toFloat / 1000

/-- The sum of the durations in seconds, added up in order. -/
def total (metrics : Metrics) : Float :=
  metrics.durations.foldl (fun sum duration => sum + seconds duration) 0

/-- One family of metrics as it is published. -/
inductive Family where
  | counter (name help : String) (value : Nat)
  /-- Count, sum and cumulative buckets; sum and bounds by their texts. -/
  | histogram (name help : String) (count : Nat) (sum : String) (buckets : List (String × Nat))

/-- All families, by name. -/
def families (metrics : Metrics) : List Family := [
  .histogram "indexing_flush_duration_seconds" "Flush duration" metrics.flushes
    (Decimal.sixPlaces metrics.total)
    (bounds.map fun bound => (Decimal.sixPlaces (seconds bound), metrics.countWithin bound)),
  .counter "indexing_units_committed_total" "Committed units of work"
    (published metrics.unitsCommitted),
  .counter "indexing_units_failed_total" "Failed units of work" (published metrics.unitsFailed),
  .counter "indexing_units_rolled_back_total" "Units of work whose transaction rolled back"
    (published metrics.unitsRolledBack),
  .counter "indexing_work_items_failed_total"
    "Work items not indexed (rejected, timed out or not translated)"
    (published metrics.itemsFailed),
  .counter "indexing_work_items_submitted_total" "Work items handed to the backend"
    (published metrics.itemsSubmitted)]

end Metrics

/-- The names under which metrics are registered. A name can be taken once. -/
structure MetricNames where
  taken : List String := []

namespace MetricNames

/-- The name of a family. -/
def familyName : Metrics.Family → String
  | .counter name .. => name
  | .histogram name .. => name

/-- Take the names of all families, unless one of them is taken. -/
def register (names : MetricNames) : Option MetricNames :=
  let wanted := (Metrics.families {}).map familyName
  if wanted.any (· ∈ names.taken) then none else some ⟨wanted ++ names.taken⟩

end MetricNames

end Reindex
