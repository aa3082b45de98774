import Reindex.Proofs.Flush.Becoming
import Reindex.Proofs.Flush.Complaints
import Reindex.Proofs.Flush.Outcome
import Reindex.Proofs.Flush.Underway
import Reindex.Proofs.Mapping

/-!
# Every operation of a flush is accounted for

The operations of a flush are the live entries of its plan and the roots that expansion
schedules behind them. They are parted by translation into items and failures, the
items are cut into batches, and the result of each batch parts its keys. No stage
loses a key and none tells of a key twice, so what an outcome lists as indexed and
as failed are the keys of the operations, each once; and whether nothing failed
decides the state.
-/

namespace Reindex

/-- The backend answers a batch within the deadline, with a report. -/
def Environment.Acknowledges (environment : Environment) (number : Nat) (batch : WorkBatch)
    (report : BatchReport) : Prop :=
  ((environment.services number).backend number batch).delay ≤
      environment.mapping.config.submitTimeout ∧
    ((environment.services number).backend number batch).reply = .report report

/-- Exactly then the call for the batch ends acknowledged. -/
theorem Environment.resultOf_eq_acknowledged_iff {environment : Environment} {number : Nat}
    {batch : WorkBatch} {report : BatchReport} :
    environment.resultOf number batch = .acknowledged report ↔
      environment.Acknowledges number batch report := by
  simp only [resultOf, Acknowledges, Submission.callResult, Submission.answersInTime,
    Submission.response, UnitOfWork.submission, Submission.submit]
  by_cases inTime : ((environment.services number).backend number batch).delay ≤
      environment.mapping.config.submitTimeout
  · cases answer : ((environment.services number).backend number batch).reply <;> simp [inTime]
  · simp [inTime]

/-- A report gives no reason for a key exactly if it does not list it. -/
theorem BatchReport.rejection?_eq_none_iff {report : BatchReport} {key : EntityKey} :
    report.rejection? key = none ↔ key ∉ report.rejections.map Prod.fst := by
  rw [rejection?, List.lookup_eq_none_iff, List.mem_map, not_exists]
  refine forall_congr' fun entry => ?_
  rw [bne_iff_ne, not_and]
  exact imp_congr_right fun _ => ne_comm

/-- An outcome and a state that account for the operations of a flush. -/
structure Accounts (environment : Environment) (number : Nat) (prepared : PreparedFlush)
    (operations : List PlanEntry) (outcome : FlushOutcome) (state : WorkState Nat) : Prop where
  /-- Every key is indexed or fails, and no other key is told of; -/
  partition : (outcome.succeeded ++ outcome.failedKeys).Perm (operations.map PlanEntry.key)
  /-- none is told of twice. -/
  distinct : (outcome.succeeded ++ outcome.failedKeys).Nodup
  /-- The indexed keys keep their order. -/
  order : outcome.succeeded.Sublist (operations.map PlanEntry.key)
  /-- A key is in a batch when its operation could be translated. -/
  translated : ∀ entry ∈ operations, ∃ type,
    environment.mapping.registry.get? entry.key.type = some type ∧
      ((∃ batch ∈ prepared.batches, entry.key ∈ batch.keys) ↔
        entry.Translatable (environment.services number) type)
  /-- It is indexed when this batch is acknowledged in time with a report that does not
  list the key. -/
  indexed : ∀ key, key ∈ outcome.succeeded ↔ ∃ batch ∈ prepared.batches, key ∈ batch.keys ∧
    ∃ report, environment.Acknowledges number batch report ∧
      key ∉ report.rejections.map Prod.fst
  /-- The unit is committed, with as many documents as operations, when nothing failed, -/
  committed : outcome.failures = [] ↔
    ∃ started ended duration, state = .committed started ended duration operations.length
  /-- and otherwise failed, with the failed keys. -/
  failed : outcome.failures ≠ [] →
    ∃ ended error category, state = .failed ended outcome.failedKeys error category

namespace UnitOfWork

variable {environment : Environment} {number : Nat} {prepared : PreparedFlush}
  {operations : List PlanEntry}

/-- The keys of the settled batches are those of the prepared ones. -/
theorem keys_settled (environment : Environment) (number : Nat) (prepared : PreparedFlush) :
    (prepared.batches.map fun batch =>
      (batch.keys, environment.resultOf number batch)).flatMap Prod.fst = prepared.keys := by
  rw [List.flatMap_map]
  rfl

/-- The keys of the outcome are those of the batches and of the failures before
submission. -/
theorem outcomeOf_perm (started now : Nat) :
    ((outcomeOf started now prepared.failures
        (collectedOutcome environment number prepared)).succeeded ++
      (outcomeOf started now prepared.failures
        (collectedOutcome environment number prepared)).failedKeys).Perm
      (prepared.keys ++ Failure.allKeys prepared.failures) := by
  have parted := FlushOutcome.ofBatches_perm (prepared.batches.map fun batch =>
    (batch.keys, environment.resultOf number batch))
  rw [keys_settled] at parted
  have failed : (outcomeOf started now prepared.failures
      (collectedOutcome environment number prepared)).failedKeys =
        Failure.allKeys prepared.failures ++
          (collectedOutcome environment number prepared).failedKeys := by
    simp [outcomeOf, FlushOutcome.failedKeys, Failure.allKeys]
  rw [failed]
  refine (List.perm_append_comm.append_left _).trans ?_
  rw [← List.append_assoc]
  exact parted.append_right _

/-- A key is indexed when a batch that holds it is acknowledged without listing it. -/
theorem mem_collectedOutcome {key : EntityKey} :
    key ∈ (collectedOutcome environment number prepared).succeeded ↔
      ∃ batch ∈ prepared.batches, key ∈ batch.keys ∧
        ∃ report, environment.Acknowledges number batch report ∧
          key ∉ report.rejections.map Prod.fst := by
  simp only [collectedOutcome, FlushOutcome.mem_succeeded_ofBatches, List.mem_map,
    exists_exists_and_eq_and, BatchResult.accepts_iff, Environment.resultOf_eq_acknowledged_iff,
    BatchReport.rejection?_eq_none_iff]

/-- The state that an outcome without failures decides. -/
theorem settledState_eq_committed_iff {started now entities : Nat} {outcome : FlushOutcome} :
    (∃ since ended duration,
        settledState started now outcome = .committed since ended duration entities) ↔
      outcome.failures = [] ∧ outcome.succeeded.length = entities := by
  unfold settledState FlushOutcome.isSuccess
  cases outcome.failures with
  | nil => simp
  | cons failure rest => simp

/-- A flush of operations whose results were collected accounts for them. -/
theorem accounts_of_collected (unique : (operations.map PlanEntry.key).Nodup)
    (live : ∀ entry ∈ operations, entry.operation.kind ≠ .noop)
    (indexes : ∀ entry ∈ operations, environment.mapping.Indexes entry.key.type)
    (started now : Nat) :
    let prepared :=
      PreparedFlush.ofOperations environment.mapping (environment.services number) operations
    let outcome := outcomeOf started now prepared.failures
      (collectedOutcome environment number prepared)
    Accounts environment number prepared operations outcome (settledState started now outcome) := by
  intro prepared outcome
  have partition : (outcome.succeeded ++ outcome.failedKeys).Perm (operations.map PlanEntry.key) :=
    (outcomeOf_perm started now).trans PreparedFlush.keys_perm
  refine ⟨partition, partition.nodup_iff.2 unique, ?_, ?_, fun key => mem_collectedOutcome, ?_, ?_⟩
  · -- the accepted keys among those of the batches, which are those that were translated
    have accepted := FlushOutcome.succeeded_ofBatches_sublist (prepared.batches.map fun batch =>
      (batch.keys, environment.resultOf number batch))
    rw [keys_settled, PreparedFlush.keys_ofOperations] at accepted
    exact accepted.trans (List.filter_sublist.map PlanEntry.key)
  · intro entry member
    obtain ⟨type, declared, indexed⟩ := indexes entry member
    obtain ⟨index, located⟩ := Option.isSome_iff_exists.1 indexed
    refine ⟨type, declared, ?_⟩
    rw [← Items.exists_itemOf_iff declared located (live entry member)]
    exact PreparedFlush.exists_batch_iff unique member
  · rw [settledState_eq_committed_iff]
    constructor
    · intro clean
      refine ⟨clean, ?_⟩
      have counted := partition.length_eq
      simpa [FlushOutcome.failedKeys, clean, Failure.allKeys] using counted
    · rintro ⟨clean, _⟩
      exact clean
  · intro failed
    refine ⟨now, summary outcome.failures, leadingCategory outcome.failures, ?_⟩
    simp [settledState, FlushOutcome.isSuccess, failed]

end UnitOfWork

/-- Nothing of a flush is dropped and nothing is counted twice. Take any run in
which a unit with a plan is prepared and then committed, without being given up:
the plan may come from any registrations, the collaborators and the backend may
behave in any way, and any steps may come in between, as long as the preparation
succeeds. Then the unit ends with an outcome that accounts for the entries of the plan
that have something left to do, and for the roots that its changes make stale. -/
theorem flush_accounts {config : Config} {hierarchy : Hierarchy} {types : List MappedType}
    {environment : Environment} {earlier later : List EngineStep} {number : Nat} {call : UnitCall}
    {unit : UnitOfWork} {plan : Plan} {prepared : PreparedFlush}
    (built : Mapping.build config hierarchy types = .ok environment.mapping)
    (atHand : ((Engine.start environment).run earlier).unit? number = some unit)
    (planned : unit.plan = some plan)
    (begins : call = .beforeCommit ∨ call = .afterCommit ∨ call = .flush)
    (ready : (environment.mapping.prepare (environment.services number) plan).1 = .ok prepared)
    (kept : ∀ step ∈ later, ¬ step.GivesUp number)
    (commits : ∃ step ∈ .call number call :: later, step.Commits number) :
    ∃ scheduled settled outcome,
      Expansion.Schedules environment.mapping.containment (environment.services number).rootLoader
        plan plan.changes scheduled ∧
      ((Engine.start environment).run (earlier ++ .call number call :: later)).unit? number =
          some settled ∧
        settled.outcome = some outcome ∧
          Accounts environment number prepared
            (plan.liveEntries ++ scheduled.map Plan.scheduledEntry) outcome settled.state := by
  have mapped := Mapping.built_of_build built
  have permitted : 0 < environment.mapping.config.maxInFlight := by
    rw [mapped.settings]
    exact mapped.valid.maxInFlight.1
  obtain ⟨consistent, agreed⟩ := Engine.run_consistent environment earlier
  have begun : call = .beforeCommit ∨ (EngineStep.call number call).Commits number := by
    rcases begins with rfl | rfl | rfl
    · exact .inl rfl
    · exact .inr (.inl rfl)
    · exact .inr (.inr rfl)
  obtain ⟨next, found, underway, collects⟩ :=
    Engine.step_begins permitted consistent agreed atHand planned ready begun
  obtain ⟨settled, last, collectsLater⟩ := Engine.run_collects permitted
    (consistent.step (.call number call))
    ((Engine.step_environment consistent _).1.trans agreed) found underway kept
  have ended : UnitOfWork.Collected environment number prepared settled := by
    refine collectsLater ?_
    obtain ⟨step, member, commits⟩ := commits
    rcases List.mem_cons.1 member with rfl | member
    · exact .inl (collects commits)
    · exact .inr ⟨step, member, commits⟩
  obtain ⟨started, now, work, _, rfl⟩ := ended
  have reached : Plan.Reachable environment.mapping plan := by
    have shape := consistent _ (List.mem_of_getElem? (Engine.unit?_eq_some_iff.1 atHand))
    rw [agreed] at shape
    exact (shape.of_plan planned).choose_spec.2
  -- what was prepared is what the expanded plan has left to do, where no key comes twice
  obtain ⟨final, expanded, rfl⟩ := PreparedFlush.expand_of_prepare ready
  have expandedReached := Expansion.expand_reachable reached expanded
  obtain ⟨scheduled, rfl, schedules⟩ :=
    Expansion.schedules_of_expand reached.mapping_eq expanded
  rw [Engine.run, List.foldl_append, List.foldl_cons]
  refine ⟨scheduled, _, _, schedules, last, rfl, ?_⟩
  rw [← Plan.liveEntries_schedule]
  exact UnitOfWork.accounts_of_collected expandedReached.distinct.liveEntries
    Plan.kind_ne_noop_of_mem expandedReached.indexes_liveEntries started now

namespace Library

/-- Book 1 is indexed; book 3 has no document, book 2 is refused, and the deletion of
book 4, which the renamed author makes stale, comes too late: all four are accounted
for. -/
theorem deliveries_accounted :
    ∃ prepared scheduled settled outcome,
      (stockroom.mapping.prepare clerks delivered).1 = .ok prepared ∧
      Expansion.Schedules stockroom.mapping.containment clerks.rootLoader delivered
        delivered.changes scheduled ∧
      ((Engine.start stockroom).run
        (deliveries ++ [.call 0 .beforeCommit, .wait 5, .call 0 .flush])).unit? 0 = some settled ∧
        settled.outcome = some outcome ∧ outcome.succeeded = [bookKey "1"] ∧
          Accounts stockroom 0 prepared
            ([⟨bookKey "1", .add (some (titled "Emma"))⟩,
              ⟨bookKey "2", .add (some (titled "Persuasion"))⟩,
              ⟨bookKey "3", .add (some ⟨"Book", []⟩)⟩] ++
                scheduled.map fun root => ⟨root, .addOrUpdate none⟩) outcome settled.state := by
  have built : Mapping.build stockroom.mapping.config [] [shelf, book, author] =
      .ok stockroom.mapping := rfl
  have atHand : ((Engine.start stockroom).run deliveries).unit? 0 =
      some (.ofPlan 0 delivered) := rfl
  have expanded : (Expansion.expand stockroom.mapping.containment clerks.rootLoader
      delivered).1 = .ok restocked := rfl
  have kept : ∀ step ∈ [EngineStep.wait 5, .call 0 .flush], ¬ step.GivesUp 0 := by
    simp [EngineStep.GivesUp]
  obtain ⟨scheduled, settled, outcome, schedules, held, ended, accounts⟩ :=
    flush_accounts built atHand rfl (.inl rfl) (PreparedFlush.prepare_of_expand expanded) kept
      ⟨_, .tail _ (.tail _ (.head _)), .inr rfl⟩
  refine ⟨_, scheduled, settled, outcome, PreparedFlush.prepare_of_expand expanded, schedules,
    held, ended, ?_, accounts⟩
  cases held
  cases ended
  rfl

end Library

end Reindex
