import Reindex.Proofs.UnitOfWork.Coherence

/-!
# What a commit answers

A commit answers with the outcome that the unit keeps, and refuses when there is none. As
long as the unit was not rolled back the outcome is the one that its state was decided by,
so answer and state agree. A rollback changes the state and leaves the outcome: a unit that
is rolled back while it has none refuses from then on, but one that was rolled back after
it had ended goes on answering as it did before, a success included.
-/

namespace Reindex

/-- An answer to a commit agrees with a phase: a success goes with the commit, a list of
what failed with the failure, and a refusal with the rollback, either way round. -/
structure AgreesWith (answer : Except IndexingError FlushOutcome) (phase : Phase) : Prop where
  committed : (∃ outcome, answer = .ok outcome) ↔ phase = .committed
  failed : (∃ keys succeeded failures, answer = .error (.flushFailed keys succeeded failures)) ↔
    phase = .failed
  refused : (∃ source target, answer = .error (.invalidTransition source target)) ↔
    phase = .rolledBack

namespace WorkState

variable {Instant : Type} {state : WorkState Instant}

/-- A rolled back unit is in the phase of that name, and no other unit is. -/
theorem phase_eq_rolledBack_iff : state.phase = .rolledBack ↔ state.isRolledBack = true := by
  cases state <;> simp [phase, isRolledBack]

/-- The last three phases are those in which a unit has ended. -/
theorem isTerminal_iff :
    state.isTerminal = true ↔
      state.phase = .committed ∨ state.phase = .failed ∨ state.phase = .rolledBack := by
  cases state <;> simp [phase, isTerminal]

end WorkState

namespace FlushOutcome

/-- The phase that an outcome decides. -/
def phase (outcome : FlushOutcome) : Phase := if outcome.isSuccess then .committed else .failed

/-- An outcome is answered as it decides. -/
theorem agrees_toResult (outcome : FlushOutcome) : AgreesWith outcome.toResult outcome.phase := by
  unfold toResult phase
  split
  · constructor <;> simp
  · constructor <;> simp

/-- No outcome is answered by a refusal. -/
theorem not_agrees_rolledBack (outcome : FlushOutcome) :
    ¬ AgreesWith outcome.toResult .rolledBack := by
  intro agrees
  obtain ⟨source, target, refused⟩ := agrees.refused.2 rfl
  unfold toResult at refused
  split at refused <;> cases refused

end FlushOutcome

namespace UnitOfWork

variable {environment : Environment} {mapping : Mapping} {unit : UnitOfWork}

/-- A unit that was not rolled back is in the phase that its outcome decides. -/
theorem Consistent.phase_eq (consistent : Consistent mapping unit) {outcome : FlushOutcome}
    (stored : unit.outcome = some outcome) (kept : unit.rollback = none) :
    unit.state.phase = outcome.phase := by
  cases consistent with
  | opened reached => cases stored
  | executing nonempty => cases stored
  | settled collected =>
    cases stored
    simp only [UnitOfWork.settled, settledState, FlushOutcome.phase]
    split <;> rfl
  | rolledBack collected => cases kept

/-- To take the results of batches is no rollback, and leaves the start of the flush. -/
theorem parts_endCommit (unit : UnitOfWork) (now : Nat) :
    (unit.endCommit now).unit.rollback = unit.rollback ∧
      (unit.endCommit now).unit.flushStarted = unit.flushStarted := by
  have finished (unit : UnitOfWork) (batches : FlushOutcome) :
      (unit.finish now batches).unit.rollback = unit.rollback ∧
        (unit.finish now batches).unit.flushStarted = unit.flushStarted := by
    unfold finish
    dsimp only
    split <;> exact ⟨rfl, rfl⟩
  unfold endCommit
  split
  · exact finished _ _
  · exact ⟨rfl, rfl⟩

/-- A commit as a whole is none either. -/
theorem Consistent.rollback_commit (consistent : Consistent environment.mapping unit)
    (number now : Nat) :
    ((unit.beforeCommit environment number now).unit.settle now).2.rollback = unit.rollback := by
  rw [settle, (parts_endCommit _ _).1, (parts_awaited _ now).2,
    (consistent.parts_beforeCommit _ _).2]

end UnitOfWork

namespace Engine

variable {engine : Engine} {number : Nat} {unit : UnitOfWork} {call : UnitCall}

/-- A unit that has ended answers a commit with the outcome that it keeps. -/
theorem afterCommit_of_ended (atHand : engine.unit? number = some unit)
    (closed : unit.state.isOpen = false) (collected : unit.work.inFlight? = none) :
    engine.afterCommit number unit = (unit.storedOutcome, engine) := by
  have begun : unit.beginCommit engine.environment number engine.now = unit.answer (.ok ()) := by
    simp [UnitOfWork.beginCommit, closed]
  have still : engine.await unit = (unit, engine) := by
    simp [await, UnitOfWork.settlesAt?, collected]
  rw [afterCommit, begun, absorb_answer atHand]
  change (engine.await unit).2.absorb number
    ((engine.await unit).1.endCommit (engine.await unit).2.now) = _
  rw [still, UnitOfWork.endCommit_of_none collected, absorb_answer atHand]

/-- So it answers a flush. -/
theorem flush_of_ended (atHand : engine.unit? number = some unit)
    (closed : unit.state.isOpen = false) (collected : unit.work.inFlight? = none) :
    engine.flush number unit = (unit.storedOutcome, engine) := by
  rw [flush, UnitOfWork.beforeCommit_of_closed closed, absorb_answer atHand]
  exact afterCommit_of_ended atHand closed collected

/-- A commit of a unit that has ended answers with the kept outcome and changes nothing. -/
theorem step_commit_of_ended (atHand : engine.unit? number = some unit)
    (closed : unit.state.isOpen = false) (collected : unit.work.inFlight? = none)
    (commits : call = .afterCommit ∨ call = .flush) :
    engine.step (.call number call) = (some (unit.storedOutcome.map .flushed), engine) := by
  rw [step_call atHand]
  rcases commits with rfl | rfl
  · rw [Engine.call, afterCommit_of_ended atHand closed collected]
  · rw [Engine.call, flush_of_ended atHand closed collected]

/-- A commit of a unit that was not rolled back answers in agreement with its state. -/
theorem Consistent.commit_agrees (consistent : engine.Consistent)
    (atHand : engine.unit? number = some unit) (kept : unit.rollback = none)
    (commits : call = .afterCommit ∨ call = .flush) :
    ∃ after, ∃ outcome : FlushOutcome,
      (engine.step (.call number call)).2.unit? number = some after ∧
      (engine.step (.call number call)).1 = some (outcome.toResult.map .flushed) ∧
        after.state.phase = outcome.phase := by
  obtain ⟨after, outcome, left, stored, answered⟩ :=
    (consistent.upholds atHand).commits kept call commits
  have shape := consistent.shape atHand
  have shapeAfter := (consistent.step (.call number call)).shape left
  have held := (leaves_step consistent atHand call).held
  have unrolled : after.rollback = none := by
    have same := unit?_eq_some_iff.1 left
    rw [held] at same
    cases same
    rw [← kept]
    rcases commits with rfl | rfl <;> exact shape.rollback_commit number engine.now
  exact ⟨after, outcome, left, answered, shapeAfter.phase_eq stored unrolled⟩

end Engine

/-- What a commit answers agrees with the state that the unit is in afterwards, unless the
unit was rolled back after it had an outcome. Take any run, of any units with any
collaborators and any backend, and call for a commit of a unit that is at hand after it. The
unit has ended then, and the answer agrees with its state exactly if the unit had not been
rolled back or had no outcome. If it had both, it stays rolled back and the answer is that
of the old outcome. -/
theorem commit_agrees_iff {environment : Environment} {steps : List EngineStep} {number : Nat}
    {unit : UnitOfWork} {call : UnitCall}
    (atHand : ((Engine.start environment).run steps).unit? number = some unit)
    (commits : call = .afterCommit ∨ call = .flush) :
    ∃ after answer,
      (((Engine.start environment).run steps).step (.call number call)).2.unit? number =
        some after ∧
      (((Engine.start environment).run steps).step (.call number call)).1 =
        some (answer.map .flushed) ∧
      after.state.isTerminal = true ∧
      (AgreesWith answer after.state.phase ↔ unit.rollback = none ∨ unit.outcome = none) ∧
      ∀ report outcome, unit.rollback = some report → unit.outcome = some outcome →
        after = unit ∧ unit.state.phase = .rolledBack ∧ answer = outcome.toResult := by
  obtain ⟨consistent, _⟩ := Engine.run_consistent environment steps
  generalize (Engine.start environment).run steps = engine at atHand consistent
  have coherent :=
    (consistent _ (List.mem_of_getElem? (Engine.unit?_eq_some_iff.1 atHand))).coherent
  cases reported : unit.rollback with
  | none =>
    obtain ⟨after, outcome, left, answered, phase⟩ :=
      consistent.commit_agrees atHand reported commits
    refine ⟨after, outcome.toResult, left, answered, ?_, ?_, ?_⟩
    · rw [WorkState.isTerminal_iff, phase, FlushOutcome.phase]
      split <;> simp
    · rw [phase]
      exact iff_of_true outcome.agrees_toResult (.inl rfl)
    · rintro _ _ ⟨⟩
  | some report =>
    have rolledBack : unit.state.isRolledBack = true := by
      rw [coherent.rolledBack, reported]
      rfl
    have phase : unit.state.phase = .rolledBack := WorkState.phase_eq_rolledBack_iff.2 rolledBack
    obtain ⟨closed, collected⟩ := coherent.ended (.inr rolledBack)
    refine ⟨unit, unit.storedOutcome, ?_, ?_, ?_, ?_, ?_⟩
    · rw [Engine.step_commit_of_ended atHand closed collected commits]
      exact atHand
    · rw [Engine.step_commit_of_ended atHand closed collected commits]
    · exact WorkState.isTerminal_iff.2 (.inr (.inr phase))
    · rw [phase, UnitOfWork.storedOutcome]
      cases stored : unit.outcome with
      | none => exact iff_of_true (by constructor <;> simp) (.inr rfl)
      | some outcome => exact iff_of_false outcome.not_agrees_rolledBack (by simp)
    · intro _ outcome _ stored
      refine ⟨rfl, phase, ?_⟩
      rw [UnitOfWork.storedOutcome, stored]

namespace Library

/-- Book 1 goes. -/
def disposal : List EngineStep := [.begin, .call 0 (.register (.delete (bookKey "1")))]

/-- A unit that was rolled back while it was open refuses the commit, as its state says. -/
theorem disposal_refused :
    ∃ after answer,
      (((Engine.start stockroom).run (disposal ++ [.call 0 .afterRollback])).step
        (.call 0 .flush)).2.unit? 0 = some after ∧
      (((Engine.start stockroom).run (disposal ++ [.call 0 .afterRollback])).step
        (.call 0 .flush)).1 = some (answer.map .flushed) ∧
      AgreesWith answer after.state.phase := by
  have atHand : ((Engine.start stockroom).run (disposal ++ [.call 0 .afterRollback])).unit? 0 =
      some _ := rfl
  obtain ⟨after, answer, left, answered, _, agrees, _⟩ := commit_agrees_iff atHand (.inr rfl)
  exact ⟨after, answer, left, answered, agrees.2 (.inr rfl)⟩

/-- A unit that was committed and then rolled back reports its old success to whoever asks
for a commit, and stays rolled back. -/
theorem disposal_reported_done :
    ∃ unit outcome,
      ((Engine.start stockroom).run
        (disposal ++ [.call 0 .afterCommit, .call 0 .afterRollback])).unit? 0 = some unit ∧
      (((Engine.start stockroom).run
        (disposal ++ [.call 0 .afterCommit, .call 0 .afterRollback])).step
          (.call 0 .afterCommit)).1 = some (.ok (.flushed outcome)) ∧
      (((Engine.start stockroom).run
        (disposal ++ [.call 0 .afterCommit, .call 0 .afterRollback])).step
          (.call 0 .afterCommit)).2.unit? 0 = some unit ∧
      unit.state.phase = .rolledBack :=
  ⟨_, _, rfl, rfl, rfl, rfl⟩

end Library

end Reindex
