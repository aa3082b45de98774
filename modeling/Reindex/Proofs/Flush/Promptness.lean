import Reindex.Proofs.Flush.Safety
import Reindex.Proofs.UnitOfWork.Punctual

/-!
# No permit lies idle

A unit that is neither rolled back nor let go makes full use of its permits, whatever else
happens in a run: from its submission on, either all its batches have begun or as many of
their calls run as are permitted. It does not matter how a call ends, for its permit is
taken again at once. As no call lasts longer than the deadline, this bounds when each batch
begins, and when a flush returns that waits for all of them.
-/

namespace Reindex

open BackendCall (begunBy outstanding)

/-- In the course of a run a call prepares a unit at an instant, and this is what becomes of
its plan: from then on its batches are submitted. -/
def SubmittedAt (environment : Environment) (number : Nat) (steps : List EngineStep)
    (since : Nat) (prepared : PreparedFlush) : Prop :=
  ∃ earlier call later unit plan, steps = earlier ++ .call number call :: later ∧
    call.prepares = true ∧ ((Engine.start environment).run earlier).now = since ∧
      ((Engine.start environment).run earlier).unit? number = some unit ∧ unit.plan = some plan ∧
        (environment.mapping.prepare (environment.services number) plan).1 = .ok prepared

/-- What was handed over at an instant has made full use of its permits since. -/
structure NeverIdle (environment : Environment) (number since now : Nat)
    (batches : List WorkBatch) (work : HandedOver) : Prop where
  /-- While a batch waits as many run as are permitted. -/
  busy : ∀ submission, work.inFlight? = some submission → submission.hasWaiting = true →
    submission.runningCount = environment.mapping.config.maxInFlight
  /-- It was so at every instant since the submission: as long as not all batches had begun
  as many calls were outstanding as are permitted. -/
  throughout : ∀ instant, since ≤ instant → instant ≤ now →
    begunBy instant work.calls < batches.length →
      outstanding (environment.runTime number) instant work.calls =
        environment.mapping.config.maxInFlight
  /-- A batch has been called once the time has passed that the rounds in front of it take, -/
  called : ∀ index batch, batches[index]? = some batch →
    since + index / environment.mapping.config.maxInFlight *
        environment.mapping.config.submitTimeout ≤ now →
      ∃ call, work.calls[index]? = some call ∧ call.batch = batch
  /-- and no call begins before the submission, or later than that time after it. -/
  begins : ∀ index call, work.calls[index]? = some call → since ≤ call.start ∧
    call.start ≤ since + index / environment.mapping.config.maxInFlight *
      environment.mapping.config.submitTimeout

/-- Whenever a unit is flushed or committed in a run, the call returns with every batch of the
unit ended: by the given instant, or at once if it is later already. -/
def ReturnsBy (environment : Environment) (number : Nat) (steps : List EngineStep)
    (limit : Nat) : Prop :=
  ∀ earlier call later unit, steps = earlier ++ .call number call :: later →
    call = .flush ∨ call = .afterCommit →
      ((Engine.start environment).run earlier).unit? number = some unit →
        let returned := (Engine.start environment).run (earlier ++ [.call number call])
        returned.now ≤ max ((Engine.start environment).run earlier).now limit ∧
          ∃ ended, returned.unit? number = some ended ∧
            ∀ submission, ended.work.submission? = some submission → submission.isSettled = true

/-- What was submitted was prepared. -/
theorem SubmittedAt.preparedIn {environment : Environment} {number since : Nat}
    {steps : List EngineStep} {prepared : PreparedFlush}
    (submitted : SubmittedAt environment number steps since prepared) :
    PreparedIn environment number steps prepared := by
  obtain ⟨earlier, call, later, unit, plan, split, prepares, _, atHand, planned, ready⟩ := submitted
  exact ⟨earlier, call, later, unit, plan, split, prepares, atHand, planned, ready⟩

namespace Engine

variable {environment : Environment} {engine : Engine} {number now since : Nat}
  {unit : UnitOfWork} {slot next : UnitSlot} {doing : EngineStep} {steps : List EngineStep}
  {prepared : PreparedFlush}

/-- The permits of every unit that was not let go are in use. -/
def Punctual (engine : Engine) : Prop :=
  ∀ (number : Nat) (slot : UnitSlot), engine.slots[number]? = some slot → slot.dropped = false →
    slot.unit.Punctual engine.now

/-- A step keeps them in use. -/
theorem Sound.punctual_step (permitted : 0 < environment.mapping.config.maxInFlight)
    (sound : engine.Sound environment) (punctual : engine.Punctual) (step : EngineStep) :
    (engine.step step).2.Punctual := by
  intro number slot held undropped
  have later := sound.le_step permitted step
  obtain ⟨_, _, rfl⟩ | ⟨before, heldBefore, fate⟩ := step_stems sound.consistent held
  · exact UnitOfWork.punctual_ofPlan _ _ _
  · have shape := sound.shape heldBefore
    obtain ⟨faithful, kept⟩ := sound.faithful number before heldBefore
    rw [sound.agreed] at faithful
    generalize (engine.step step).2.now = now at fate later
    cases fate with
    | called call atHand =>
      rw [sound.agreed]
      exact (punctual number before heldBefore atHand).called permitted shape faithful
        (kept atHand) call
    | dropped atHand => cases undropped
    | aged same ages spared =>
      exact (punctual number before heldBefore (same ▸ undropped)).ages ages later

/-- In every run the permits are in use. -/
theorem run_punctual (permitted : 0 < environment.mapping.config.maxInFlight)
    (steps : List EngineStep) : ((start environment).run steps).Punctual := by
  induction steps using List.reverseRecOn with
  | nil =>
    intro number slot held
    cases held
  | append_singleton earlier step inductionHypothesis =>
    rw [run_append]
    exact (run_sound permitted earlier).punctual_step permitted inductionHypothesis step

/-- Nothing begins the flush of a unit anew that is not open. -/
theorem Fate.flushStarted_eq (fate : Fate engine number slot doing (now, next))
    (closed : slot.unit.state.isOpen = false) :
    next.unit.flushStarted = slot.unit.flushStarted := by
  cases fate with
  | called call atHand => exact UnitOfWork.flushStarted_called_of_closed closed _ _ _ call
  | dropped atHand =>
    rw [UnitOfWork.abandon_eq]
  | aged same ages spared => exact UnitOfWork.flushStarted_of_ages ages

/-- A unit that is not open keeps the start of its flush and its batches for good. -/
theorem Sound.run_of_begun (permitted : 0 < environment.mapping.config.maxInFlight)
    (sound : engine.Sound environment) (held : engine.slots[number]? = some slot)
    (closed : slot.unit.state.isOpen = false) (steps : List EngineStep) :
    ∃ final, (engine.run steps).slots[number]? = some final ∧
      final.unit.flushStarted = slot.unit.flushStarted ∧
        final.unit.work.batches = slot.unit.work.batches := by
  obtain ⟨final, found, _, parts⟩ := Sound.run_keeps permitted
    (fun other => other.unit.state.isOpen = false ∧
      other.unit.flushStarted = slot.unit.flushStarted ∧
        other.unit.work.batches = slot.unit.work.batches)
    (fun sound held holds fate => by
      obtain ⟨closedThen, batches⟩ := sound.fate_of_closed held holds.1 fate
      exact ⟨closedThen, (fate.flushStarted_eq holds.1).trans holds.2.1, batches.trans holds.2.2⟩)
    sound held ⟨closed, rfl, rfl⟩ steps
  exact ⟨final, found, parts⟩

/-- A unit that was submitted at an instant remembers that instant. -/
theorem flushStarted_of_submittedAt (permitted : 0 < environment.mapping.config.maxInFlight)
    (submitted : SubmittedAt environment number steps since prepared)
    (held : ((start environment).run steps).slots[number]? = some slot) :
    slot.unit.flushStarted = some since := by
  obtain ⟨earlier, call, later, unit, plan, rfl, prepares, rfl, atHand, planned, _⟩ := submitted
  have sound := run_sound permitted earlier
  have shape := sound.shape (unit?_eq_some_iff.1 atHand)
  obtain ⟨opened, rfl, _⟩ := shape.of_plan planned
  have leaves := leaves_step sound.consistent atHand call
  rw [sound.agreed] at leaves
  have closed := (shape.parts_called_of_plan number
    ((start environment).run earlier).now prepares).2
  obtain ⟨final, found, started, _⟩ :=
    (sound.step permitted (.call number call)).run_of_begun permitted leaves.held closed later
  rw [run_append] at held
  obtain rfl : final = slot := Option.some.inj (found.symm.trans held)
  rw [started]
  exact UnitOfWork.flushStarted_called_of_plan environment number opened _ plan prepares

/-- A flush of a unit, or its commit, leaves it closed and all its batches ended, and takes no
longer than their rounds since the flush began. -/
theorem Sound.step_returns (permitted : 0 < environment.mapping.config.maxInFlight)
    (sound : engine.Sound environment) (punctual : engine.Punctual)
    (atHand : engine.unit? number = some unit) {call : UnitCall}
    (commits : call = .flush ∨ call = .afterCommit) :
    ∃ ended, (engine.step (.call number call)).2.unit? number = some ended ∧
      ended.state.isOpen = false ∧
      (∀ submission, ended.work.submission? = some submission → submission.isSettled = true) ∧
      ∀ since, ended.flushStarted = some since →
        (engine.step (.call number call)).2.now ≤ max engine.now (since +
          Submission.span environment.mapping.config.maxInFlight
            environment.mapping.config.submitTimeout ended.work.batches.length) := by
  have held := unit?_eq_some_iff.1 atHand
  have shape := sound.shape held
  obtain ⟨faithful, kept⟩ := sound.faithful number _ held
  rw [sound.agreed] at faithful
  have settles : unit.called environment number engine.now call =
      (unit.beforeCommit environment number engine.now).unit.settle engine.now := by
    rcases commits with rfl | rfl <;> rfl
  have leaves := leaves_step sound.consistent atHand call
  rw [sound.agreed, settles] at leaves
  have closed := (shape.beforeCommit_eq number engine.now).2
  rw [← ((shape.prepare number engine.now).parts_settle engine.now).2] at closed
  have committed := (punctual number _ held rfl).commit permitted shape faithful (kept rfl)
  rw [leaves.now]
  exact ⟨_, unit?_eq_some_iff.2 leaves.held, closed, committed⟩

/-- So in a run, where the unit remembers the instant of its submission. -/
theorem returnsBy_of_submittedAt (permitted : 0 < environment.mapping.config.maxInFlight)
    (submitted : SubmittedAt environment number steps since prepared) :
    ReturnsBy environment number steps (since +
      Submission.span environment.mapping.config.maxInFlight
        environment.mapping.config.submitTimeout prepared.batches.length) := by
  rintro earlier call later unit rfl commits atHand returned
  have reached : returned = (((start environment).run earlier).step (.call number call)).2 :=
    run_append _ _ _
  have sound := run_sound permitted earlier
  obtain ⟨ended, found, closed, settled, soon⟩ :=
    sound.step_returns permitted (run_punctual permitted earlier) atHand commits
  -- what the call leaves of the flush is what is left of it at the end of the run
  obtain ⟨final, last, started, batches⟩ := (sound.step permitted (.call number call)).run_of_begun
    permitted (unit?_eq_some_iff.1 found) closed later
  have held : ((start environment).run (earlier ++ .call number call :: later)).slots[number]? =
      some final := by
    rw [run_append]
    exact last
  rw [flushStarted_of_submittedAt permitted submitted held] at started
  rw [batches_of_preparedIn permitted submitted.preparedIn held] at batches
  rw [reached, batches]
  exact ⟨soon since started.symm, ended, found, settled⟩

end Engine

/-- A submission whose permits are in use has made full use of them. -/
theorem Submission.Steady.neverIdle {environment : Environment} {number since now : Nat}
    {submission : Submission} {work : HandedOver}
    (steady : submission.Steady since now)
    (permitted : 0 < environment.mapping.config.maxInFlight)
    (agreed : submission.Agreed environment number) (calls : work.calls = submission.calls)
    (inFlight : ∀ other, work.inFlight? = some other → other = submission) :
    NeverIdle environment number since now (submission.tasks.map BatchTask.batch) work := by
  have permits : 0 < submission.permits := agreed.permits ▸ permitted
  constructor
  · intro other outstanding waits
    obtain rfl := inFlight other outstanding
    exact (steady.runningCount_eq waits).trans agreed.permits
  · intro instant begun passed fewer
    rw [calls, List.length_map] at fewer
    rw [calls, ← agreed.permits, ← agreed.runTime_eq]
    exact steady.saturated instant begun (Nat.lt_succ_of_le passed) fewer
  · intro index batch listed passed
    rw [← agreed.permits, ← agreed.timeout] at passed
    have within := (List.getElem?_eq_some_iff.1 listed).1
    rw [List.length_map] at within
    obtain ⟨call, found, _⟩ := steady.start_le permits within passed
    refine ⟨call, calls ▸ found, ?_⟩
    -- the calls on record are for the first batches, in order
    obtain ⟨uncalled, split⟩ := steady.orderly.called_prefix
    have recorded : (submission.calls.map BackendCall.batch)[index]? = some call.batch := by
      rw [List.getElem?_map, found]
      rfl
    have inFront := (List.getElem?_eq_some_iff.1 recorded).1
    rw [← split, List.getElem?_append_left inFront, recorded] at listed
    exact Option.some.inj listed
  · intro index call found
    rw [calls] at found
    rw [← agreed.permits, ← agreed.timeout]
    exact ⟨steady.begun call (List.mem_of_getElem? found),
      (steady.start_le_of_called permits found).2⟩

/-- So has whatever was handed over, when the runtime has looked at it. -/
theorem HandedOver.Faithful.neverIdle {environment : Environment} {number since now : Nat}
    {work : HandedOver} (faithful : work.Faithful environment number now)
    (permitted : 0 < environment.mapping.config.maxInFlight)
    (attended : ∀ submission, work.submission? = some submission →
      submission.Attended since now) :
    let looked := work.map fun submission => submission.wake now
    NeverIdle environment number since now work.batches looked ∧
      (since < now → looked = work) := by
  cases faithful with
  | nothing =>
    refine ⟨⟨?_, ?_, ?_, ?_⟩, fun _ => rfl⟩
    · rintro _ ⟨⟩
    · rintro _ _ _ ⟨⟩
    · rintro _ _ ⟨⟩
    · rintro _ _ ⟨⟩
  | @inFlight submission agreed orderly =>
    obtain ⟨steady, still⟩ := attended submission rfl
    have continues := Submission.continues_wake submission now
    refine ⟨?_, fun later => congrArg HandedOver.inFlight (still later)⟩
    rw [HandedOver.batches, ← continues.batches_eq]
    refine steady.neverIdle permitted (agreed.continues continues) rfl ?_
    rintro _ ⟨⟩
    rfl
  | @collected submission agreed orderly settled =>
    obtain ⟨steady, still⟩ := attended submission rfl
    have continues := Submission.continues_wake submission now
    refine ⟨?_, fun later => congrArg HandedOver.collected (still later)⟩
    rw [HandedOver.batches, ← continues.batches_eq]
    refine steady.neverIdle permitted (agreed.continues continues) rfl ?_
    rintro _ ⟨⟩

/-- No permit lies idle. Take any run of any units and look at one of them that was submitted at
some instant and that was neither rolled back nor let go since, when the runtime has looked at
what waits, as it has whenever time has passed: while one of its batches waits, exactly as many
of its calls run as are permitted, and so it was at every instant since the submission. So with
every deadline that passes a round of batches has begun, as many as are permitted, and a flush
returns, with all batches ended, when as many deadlines have passed as there are rounds. It does
not matter how long the backend takes, or whether it answers, fails, panics or is too late. -/
theorem permits_never_idle {config : Config} {hierarchy : Hierarchy} {types : List MappedType}
    {environment : Environment} {steps : List EngineStep} {number since : Nat}
    {prepared : PreparedFlush} {unit : UnitOfWork}
    (built : Mapping.build config hierarchy types = .ok environment.mapping)
    (submitted : SubmittedAt environment number steps since prepared)
    (atHand : ((Engine.start environment).run steps).unit? number = some unit)
    (kept : unit.rollback = none) :
    let now := ((Engine.start environment).run steps).now
    let looked := unit.work.map fun submission => submission.wake now
    NeverIdle environment number since now prepared.batches looked ∧
      (since < now → looked = unit.work) ∧
      ReturnsBy environment number steps
        (since + prepared.batches.length ⌈/⌉ environment.mapping.config.maxInFlight *
          environment.mapping.config.submitTimeout) := by
  intro now looked
  have permitted := Mapping.permitted_of_build built
  have held := Engine.unit?_eq_some_iff.1 atHand
  have sound := Engine.run_sound permitted steps
  have faithful := (sound.faithful number _ held).1
  rw [sound.agreed] at faithful
  have started := Engine.flushStarted_of_submittedAt permitted submitted held
  have punctual := Engine.run_punctual permitted steps number _ held rfl kept since started
  obtain ⟨busy, still⟩ := faithful.work.neverIdle permitted punctual
  rw [Engine.batches_of_preparedIn permitted submitted.preparedIn held] at busy
  exact ⟨busy, still, Engine.returnsBy_of_submittedAt permitted submitted⟩

namespace Library

/-- The deliveries are submitted, and their first batch is still on its way when a flush waits
for both. -/
def hurry : List EngineStep := deliveries ++ [.call 0 .beforeCommit, .wait 5, .call 0 .flush]

/-- With a single permit the second batch begins as soon as the first one is answered, after 10
of 100 milliseconds. The flush returns when the second one is given up, within 200. -/
theorem hurry_never_idle :
    ∃ prepared unit, SubmittedAt stockroom 0 hurry 0 prepared ∧ prepared.batches.length = 2 ∧
      ((Engine.start stockroom).run hurry).unit? 0 = some unit ∧
      ((Engine.start stockroom).run hurry).now = 110 ∧
      unit.work.calls.map BackendCall.start = [0, 10] ∧
      NeverIdle stockroom 0 0 110 prepared.batches unit.work ∧
      ReturnsBy stockroom 0 hurry 200 := by
  have built : Mapping.build stockroom.mapping.config [] [shelf, book, author] =
      .ok stockroom.mapping := rfl
  have expanded : (Expansion.expand stockroom.mapping.containment clerks.rootLoader
      delivered).1 = .ok restocked := rfl
  have submitted : SubmittedAt stockroom 0 hurry 0
      (.ofOperations stockroom.mapping clerks restocked.liveEntries) :=
    ⟨deliveries, .beforeCommit, [.wait 5, .call 0 .flush], _, delivered, rfl, rfl, rfl, rfl, rfl,
      PreparedFlush.prepare_of_expand expanded⟩
  obtain ⟨unit, atHand⟩ : ∃ unit, ((Engine.start stockroom).run hurry).unit? 0 = some unit :=
    ⟨_, rfl⟩
  have kept : unit.rollback = none := by
    cases atHand
    rfl
  obtain ⟨busy, still, returns⟩ := permits_never_idle built submitted atHand kept
  rw [still (by decide)] at busy
  refine ⟨_, unit, submitted, rfl, atHand, rfl, ?_, busy, returns⟩
  cases atHand
  rfl

end Library

end Reindex
