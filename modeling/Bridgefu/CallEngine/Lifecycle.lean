/- digest: The life of a call: order of its states, versions, and when it ends in failure. -/

import Bridgefu.CallEngine.Runs

set_option autoImplicit false

namespace Bridgefu.CallEngine

open Lib TerminalOutcome CallAggregate CallStep
open CallCore hiding settle state

variable {c : CallCore} {sent : List EffectIntent} {command : CallCommand} {a : CallAggregate}

abbrev closingStates : List CallState := [.ending, .ended, .failed]

def nextStates : CallState → List CallState
  | .pending => [.connecting, .ending]
  | .connecting => [.connecting, .active, .ending]
  | .active => [.active, .transferring, .ending]
  | .transferring => [.transferring, .active, .ending]
  | .ending => [.ending, .ended, .failed]
  | .ended | .failed => []

def CallState.rank : CallState → Nat
  | .pending => 0
  | .connecting => 1
  | .active | .transferring => 2
  | .ending => 3
  | .ended | .failed => 4

theorem CallState.rank_le {state next} (follows : next ∈ nextStates state) :
    state.rank ≤ next.rank := by
  cases state <;> cases next <;> simp_all [nextStates, rank]

theorem closing_of_rank_le {state next} (further : state.rank ≤ next.rank)
    (closing : state ∈ closingStates) : next ∈ closingStates := by
  cases state <;> cases next <;> simp_all [CallState.rank]

/-- Does the command report a failed leg or a deadline that was missed? -/
def CallCommand.reportsFailure : CallCommand → Bool
  | .setLegState _ _ _ state _ => decide (state = .failed)
  | .sourceTerminatedBeforeAnswer _ _ _ reason => decide (reason = .failed)
  | .deadlineElapsed .. => true
  | _ => false

namespace CallStep

variable (step : CallStep)

/-- Does the step take the call into its teardown? -/
def entersEnding : Bool :=
  decide (step.before.state ∉ closingStates) && decide (step.after.state ∈ closingStates)

/-- Is the teardown that the step begins due to a failure? -/
def endsByFailure : Bool := step.entersEnding && step.command.reportsFailure

end CallStep

namespace CallCore

/-- Does the core have a leg that failed? -/
def hasFailedLeg (c : CallCore) : Prop := ∃ slot, (c.legAt slot).state = .failed

private theorem stoppedLeg_isTerminal (leg : Leg) (atTime : Timestamp) :
    (stoppedLeg leg atTime).state.isTerminal = leg.state.isTerminal := by
  unfold stoppedLeg
  split_ifs with up
  · rw [LegState.isUp, Bool.and_eq_true, Bool.not_eq_true'] at up
    exact up.1.symm
  · rfl

private theorem teardown_waits {slot} (running : (c.legAt slot).state.isTerminal = false)
    (atTime : Timestamp) (outcome : TerminalOutcome) (deadline : Option Timestamp) :
    (c.teardown atTime outcome deadline).state = .ending ∧
      (c.teardown atTime outcome deadline).outcome = some (selectedOutcome c.outcome outcome) := by
  have waits : ¬ (c.enterEnding atTime outcome).finished = true := by
    rw [finished_iff]
    intro every
    have terminal := every slot
    rw [enterEnding_legAt, stoppedLeg_isTerminal, running] at terminal
    cases terminal
  unfold teardown
  rw [if_neg waits]
  split <;> exact ⟨rfl, rfl⟩

theorem close_state_mem (c : CallCore) (atTime : Timestamp) :
    (c.close atTime).state ∈ [CallState.ended, .failed] := by
  rw [close, moveTo]
  split <;> simp

theorem teardown_state_mem (c : CallCore) (atTime : Timestamp) (outcome : TerminalOutcome)
    (deadline : Option Timestamp) : (c.teardown atTime outcome deadline).state ∈ closingStates := by
  unfold teardown
  simp only
  split
  · exact List.mem_cons_of_mem _ (close_state_mem ..)
  · split <;> simp [enterEnding, arm, moveTo]

private theorem settle_state_mem (atTime : Timestamp) (ending : c.state = .ending) :
    (c.settle atTime).state ∈ closingStates := by
  unfold settle
  split
  · exact List.mem_cons_of_mem _ (close_state_mem ..)
  · simp [ending]

end CallCore

private theorem deadlineAllowedIn_running {kind state}
    (allowed : deadlineAllowedIn kind state = true)
    (notEnding : kind ≠ .ending) : state ∈ [CallState.connecting, .active, .transferring] := by
  cases kind <;> cases state <;> simp_all [deadlineAllowedIn]

private theorem deadlineAllowedIn_ending {state}
    (allowed : deadlineAllowedIn .ending state = true) : state = .ending := by
  simpa [deadlineAllowedIn] using allowed

def LegSlot.other : LegSlot → LegSlot
  | .left => .right
  | .right => .left

private theorem LegSlot.other_ne (slot : LegSlot) : slot.other ≠ slot := by
  cases slot <;> decide

namespace Move

private theorem other_running (valid : a.Valid) (early : a.state ∉ closingStates) (slot : LegSlot)
    (leg : Leg) :
    ((a.core.setLeg slot leg).legAt slot.other).state.isTerminal = false := by
  rw [setLeg_legAt, if_neg slot.other_ne]
  exact valid.leg_up early slot.other

theorem early_of_running (running : a.state ∈ [CallState.connecting, .active, .transferring]) :
    a.state ∉ closingStates := by
  cases state : a.state <;> simp_all

theorem takesDown_running {slot leg} (down : TakesDown a command slot leg)
    (notEnding : a.state ≠ .ending) : a.state ∈ [CallState.connecting, .active, .transferring] := by
  cases down with
  | reported guard =>
    have goesOn := guard.goesOn
    have started := guard.started
    cases state : a.state <;> simp_all [CallState.isTerminal]
  | source guard =>
    have before := guard.early
    cases state : a.state <;> simp_all

private theorem ending_mem_of_running
    (running : a.state ∈ [CallState.connecting, .active, .transferring]) :
    CallState.ending ∈ nextStates a.state := by
  cases state : a.state <;> simp_all [nextStates]

private theorem early_of_goesOn (goesOn : a.state.isTerminal = false)
    (notEnding : a.state ≠ .ending) : a.state ∉ closingStates := by
  cases state : a.state <;> simp_all [CallState.isTerminal]

private theorem early_teardown (valid : a.Valid) (early : a.state ∉ closingStates)
    (atTime : Timestamp) (outcome : TerminalOutcome) (deadline : Option Timestamp)
    (same : c.left = a.left := by rfl) : (c.teardown atTime outcome deadline).state = .ending ∧
      (c.teardown atTime outcome deadline).outcome = some (selectedOutcome c.outcome outcome) := by
  have running : (c.legAt .left).state.isTerminal = false :=
    (congrArg (·.state.isTerminal) same).trans (valid.leg_up early .left)
  exact teardown_waits running _ _ deadline

theorem elapsed_running {atTime kind supplied} (valid : a.Valid)
    (guard : ElapsedGuard a atTime kind supplied) (notEnding : kind ≠ .ending) :
    a.state ∈ [CallState.connecting, .active, .transferring] :=
  deadlineAllowedIn_running (valid.legal.deadlines kind guard.armed) notEnding

theorem elapsed_ending {atTime supplied} (valid : a.Valid)
    (guard : ElapsedGuard a atTime .ending supplied) : a.state = .ending :=
  deadlineAllowedIn_ending (valid.legal.deadlines .ending guard.armed)

theorem state_mem (valid : a.Valid) (move : Move a command c sent) :
    c.state ∈ nextStates a.state := by
  cases move with
  | started guard => simp [guard.pending, nextStates, arm, moveTo]
  | reported guard =>
    have goesOn := guard.goesOn
    have started := guard.started
    cases state : a.state <;> simp_all [CallState.isTerminal, nextStates]
  | answered guard answered =>
    have connecting : a.state = .connecting := by simpa using answered.1
    simp [connecting, nextStates, moveTo]
  | @hungUp _ _ leg down notEnding =>
    have running := takesDown_running down notEnding
    rw [(teardown_waits
      (other_running valid (early_of_running running) _ leg) _ _ _).1]
    exact ending_mem_of_running running
  | drained down ending =>
    rw [ending]
    refine settle_state_mem _ ?_
    unfold recordFailure
    split <;> simp [ending]
  | mediaStarted guard | mediaAttached guard | rotated guard =>
    rw [CallCore.setLeg_state, core_state, guard.connecting]
    simp [nextStates]
  | replacementAttached guard => simp [guard.transferring, nextStates]
  | @rearmed _ _ kind guard =>
    change a.state ∈ nextStates a.state
    by_cases ending : kind = .ending
    · subst ending
      simp [deadlineAllowedIn_ending guard.allowed, nextStates]
    · have running := deadlineAllowedIn_running guard.allowed ending
      cases state : a.state <;> simp_all [nextStates]
  | transferBegun _ guard | replacementBegun _ guard => simp [guard.active, nextStates, arm, moveTo]
  | transferFinished guard => simp [guard.transferring, nextStates, moveTo]
  | replacementFinished guard => simp [guard.transferring, nextStates, moveTo]
  | @endingBegun _ _ _ guard =>
    by_cases ending : a.state = .ending
    · rw [ending]
      exact teardown_state_mem ..
    · have early : a.state ∉ closingStates := early_of_goesOn guard.goesOn ending
      rw [(early_teardown valid early _ _ _).1]
      cases state : a.state <;> simp_all [nextStates]
  | endingElapsed guard =>
    rw [elapsed_ending valid guard]
    exact List.mem_cons_of_mem _ (close_state_mem ..)
  | replacementElapsed guard pending =>
    have transferring : a.state = .transferring :=
      (valid.legal.transferring (by simp [pending])).1
    simp [transferring, nextStates, moveTo]
  | @elapsed _ kind _ _ guard notEnding =>
    have running := elapsed_running valid guard notEnding
    rw [(early_teardown valid (early_of_running running) _ _ _).1]
    exact ending_mem_of_running running

end Move

/-- The moves that begin the teardown of a call. -/
inductive Enters (a : CallAggregate) : CallCommand → CallCore → List EffectIntent → Prop
  | hungUp {command slot leg} (down : TakesDown a command slot leg) :
      Enters a command
        ((a.core.setLeg slot leg).teardown command.atTime (leg.failure.elim .ended .failed) none)
        ((a.core.setLeg slot leg).endingSignals
          (if leg.failure.isSome then .failure else .peerEnded))
  | requested {atTime deadline reason} :
      Enters a (.beginEnding atTime deadline reason) (a.core.teardown atTime .ended deadline)
        (a.core.endingSignals reason)
  | elapsed {atTime kind supplied deadline} :
      Enters a (.deadlineElapsed atTime kind supplied deadline)
        ((a.core.disarm kind).teardown atTime (.failed (timeoutFailure kind)) deadline)
        (timeoutCompensation kind ++ (a.core.disarm kind).endingSignals .deadlineExpired)

/-- The moves of a call during its teardown. -/
inductive Drains (a : CallAggregate) : CallCommand → CallCore → List EffectIntent → Prop
  | drained {command slot leg} (down : TakesDown a command slot leg) :
      Drains a command (((a.core.setLeg slot leg).recordFailure leg).settle command.atTime) []
  | rearmed {atTime dueAt kind} : Drains a (.armDeadline atTime kind dueAt) (a.core.arm kind) []
  | extended {atTime deadline reason} :
      Drains a (.beginEnding atTime deadline reason) (a.core.teardown atTime .ended deadline)
        (a.core.endingSignals reason)
  | elapsed {atTime supplied deadline} :
      Drains a (.deadlineElapsed atTime .ending supplied deadline)
        ({ a.core.disarm .ending with
          left := failUnfinished a.left atTime
          right := failUnfinished a.right atTime
          outcome := some (.failed endingTimeout) }.close atTime) []

namespace Move

theorem enters (early : a.state ∉ closingStates) (closing : c.state ∈ closingStates)
    (valid : a.Valid) (move : Move a command c sent) : Enters a command c sent := by
  cases move with
  | hungUp down => exact .hungUp down
  | endingBegun => exact .requested
  | elapsed => exact .elapsed
  | drained _ ending => simp [ending] at early
  | endingElapsed guard => simp [elapsed_ending valid guard] at early
  | reported | mediaStarted | mediaAttached | rotated =>
    rw [CallCore.setLeg_state] at closing
    exact absurd closing early
  | replacementAttached | rearmed => exact absurd closing early
  | started | answered | transferBegun | replacementBegun | transferFinished | replacementFinished
  | replacementElapsed => simp [arm, moveTo] at closing

theorem drains (closing : a.state ∈ closingStates) (valid : a.Valid)
    (move : Move a command c sent) : Drains a command c sent := by
  have stays := closing_of_rank_le (CallState.rank_le (move.state_mem valid)) closing
  cases move with
  | drained down => exact .drained down
  | rearmed => exact .rearmed
  | endingBegun => exact .extended
  | endingElapsed => exact .elapsed
  | hungUp down notEnding =>
    exact absurd closing (early_of_running (takesDown_running down notEnding))
  | elapsed guard notEnding =>
    exact absurd closing (early_of_running (elapsed_running valid guard notEnding))
  | reported guard _ notEnding =>
    exact absurd closing (early_of_goesOn guard.goesOn notEnding)
  | mediaStarted guard | mediaAttached guard | rotated guard => simp [guard.connecting] at closing
  | replacementAttached guard => simp [guard.transferring] at closing
  | started | answered | transferBegun | replacementBegun | transferFinished | replacementFinished
  | replacementElapsed => simp [arm, moveTo] at stays

end Move

namespace CallCore

def Waiting (c : CallCore) : Prop :=
  c.state = .ending → ∃ slot, (c.legAt slot).state.isTerminal = false

private theorem unfinished (running : ¬ c.finished = true) :
    ∃ slot, (c.legAt slot).state.isTerminal = false := by
  simpa [finished_iff] using running

private theorem close_waiting (c : CallCore) (atTime : Timestamp) : (c.close atTime).Waiting := by
  intro ending
  have closed := c.close_state_mem atTime
  simp [ending] at closed

private theorem settle_waiting (c : CallCore) (atTime : Timestamp) : (c.settle atTime).Waiting := by
  unfold settle
  split_ifs with running
  · exact c.close_waiting atTime
  · exact fun _ => unfinished running

private theorem teardown_waiting (c : CallCore) (atTime : Timestamp) (outcome : TerminalOutcome)
    (deadline : Option Timestamp) : (c.teardown atTime outcome deadline).Waiting := by
  unfold teardown
  simp only
  split
  · exact (c.enterEnding _ outcome).close_waiting atTime
  · rename_i running
    split
    · intro _
      obtain ⟨slot, _⟩ := unfinished running
      exact ⟨slot, by rwa [arm_legAt]⟩
    · exact fun _ => unfinished running

private theorem closingOutcome_isFailed : c.closingOutcome.isFailed = true ↔
    (∃ slot, (c.legAt slot).failure ≠ none) ∨ c.outcome.any isFailed = true := by
  simp only [exists_slot, legAt]
  unfold closingOutcome
  split
  · simp_all [isFailed]
  · simp_all [isFailed]
  · simp_all
  · rename_i left right other
    rcases Option.eq_none_or_eq_some c.outcome with none | ⟨_ | failure, some⟩
    · simp [left, right, none, isFailed]
    · simp [left, right, some]
    · exact absurd some (other failure)

private theorem selectedOutcome_isFailed (recorded : Option TerminalOutcome)
    (outcome : TerminalOutcome) : (selectedOutcome recorded outcome).isFailed = true ↔
      recorded.any isFailed = true ∨ outcome.isFailed = true := by
  rcases recorded with - | (- | _) <;> simp [selectedOutcome, isFailed]

private theorem recordFailure_isFailed (c : CallCore) (leg : Leg) :
    (c.recordFailure leg).outcome.any isFailed = true ↔
      leg.failure ≠ none ∨ c.outcome.any isFailed = true := by
  unfold recordFailure
  split
  · rename_i failure given
    simp [given, isFailed]
  · rename_i unfailed
    simp [unfailed]

private theorem settle_isFailed (c : CallCore) (atTime : Timestamp) :
    (c.settle atTime).outcome.any isFailed = true ↔
      (c.finished = true ∧ ∃ slot, (c.legAt slot).failure ≠ none) ∨
        c.outcome.any isFailed = true := by
  unfold settle
  split_ifs with finished
  · have outcome : (c.close atTime).outcome = some c.closingOutcome := rfl
    rw [outcome, Option.any_some, closingOutcome_isFailed]
    simp [finished]
  · simp [finished]

private theorem Legal.failed_of_leg (legal : c.Legal) (closing : c.state ∈ closingStates)
    (failed : c.hasFailedLeg) : c.outcome.any isFailed = true := by
  obtain ⟨slot, isFailed⟩ := failed
  have allowed := legal.legs slot
  have outcome := legal.outcome
  cases state : c.state with
  | ending => exact legal.failed state ⟨slot, isFailed⟩
  | ended => simp [state, isFailed, legAllowedIn] at allowed
  | failed => simpa [state, outcomeAllowedIn] using outcome
  | _ => simp [state] at closing

end CallCore

namespace TakesDown

variable {slot : LegSlot} {leg : Leg}

private theorem reportsFailure_iff (down : TakesDown a command slot leg) :
    command.reportsFailure = true ↔ leg.failure ≠ none := by
  rw [← down.detailed]
  cases down with
  | reported => simp [CallCommand.reportsFailure, reportedLeg]
  | @source _ _ _ _ reason => cases reason <;> simp [CallCommand.reportsFailure, terminatedSource]

private theorem not_failed (down : TakesDown a command slot leg) :
    (a.legAt slot).state ≠ .failed := by
  intro failed
  cases down with
  | reported guard =>
    have transition := guard.transition
    simp [failed, validLegTransition] at transition
  | source guard =>
    have unanswered := guard.unanswered
    simp [failed] at unanswered

end TakesDown

namespace Move

private theorem failUnfinished_failed {leg}
    (ends : leg.state = .failed ∨ leg.state.isTerminal = false) (atTime : Timestamp) :
    (failUnfinished leg atTime).state = .failed := by
  unfold failUnfinished
  split_ifs with terminal
  · obtain failed | running := ends
    · exact failed
    · simp [terminal] at running
  · rfl

private theorem forced_legAt (a : CallAggregate) (atTime : Timestamp) (slot : LegSlot) :
    legAt { a.core.disarm .ending with
      left := failUnfinished a.left atTime
      right := failUnfinished a.right atTime
      outcome := some (.failed endingTimeout) } slot = failUnfinished (a.legAt slot) atTime := by
  cases slot <;> rfl

private theorem waiting (waits : a.core.Waiting) (valid : a.Valid) (move : Move a command c sent) :
    c.Waiting := by
  intro ending
  by_cases closing : a.state ∈ closingStates
  · cases move.drains closing valid with
    | drained => exact settle_waiting _ _ ending
    | rearmed =>
      obtain ⟨slot, _⟩ := waits ending
      exact ⟨slot, by rwa [arm_legAt]⟩
    | extended => exact teardown_waiting _ _ _ _ ending
    | elapsed => exact close_waiting _ _ ending
  · cases move.enters closing (by simp [ending]) valid with
    | hungUp | requested | elapsed => exact teardown_waiting _ _ _ _ ending

private theorem hasFailedLeg_mono (valid : a.Valid) (move : Move a command c sent)
    (failed : a.core.hasFailedLeg) : c.hasFailedLeg := by
  obtain ⟨slot, isFailed⟩ := failed
  rw [core_legAt] at isFailed
  refine ⟨slot, ?_⟩
  by_cases closing : a.state ∈ closingStates
  · cases move.drains closing valid with
    | @drained _ changed _ down =>
      have another : slot ≠ changed := by
        rintro rfl
        exact down.not_failed isFailed
      rw [settle_legAt, recordFailure_legAt, setLeg_legAt, if_neg another]
      exact isFailed
    | rearmed => rwa [arm_legAt, core_legAt]
    | extended => rwa [teardown_legAt, stoppedLeg_failed, core_legAt]
    | elapsed =>
      rw [close_legAt, forced_legAt]
      exact failUnfinished_failed (.inl isFailed) _
  · have up := valid.leg_up closing slot
    rw [isFailed] at up
    cases up

private theorem ending_of_closing (closing : a.state ∈ closingStates) (valid : a.Valid)
    (move : Move a command c sent) : a.state = .ending := by
  have follows := move.state_mem valid
  cases state : a.state <;> simp_all [nextStates]

private theorem failing_iff (waits : a.core.Waiting) (valid : a.Valid) (legal : c.Legal)
    (move : Move a command c sent) (closing : c.state ∈ closingStates) :
    c.outcome.any isFailed = true ↔ c.hasFailedLeg ∨
      if a.state ∈ closingStates then a.terminalOutcome.any isFailed = true
      else command.reportsFailure = true := by
  have ofLeg := legal.failed_of_leg closing
  have detailed := fun slot => (move.legs_valid valid slot).failure
  split_ifs with earlier
  · have ending := ending_of_closing earlier valid move
    cases move.drains earlier valid with
    | @drained _ slot =>
      simp only [settle_legAt, recordFailure_legAt] at detailed
      constructor
      · rw [settle_isFailed, recordFailure_isFailed, setLeg_outcome]
        simp only [recordFailure_legAt]
        rintro (⟨-, failing, failed⟩ | failed | failed)
        · refine .inl ⟨failing, ?_⟩
          rw [settle_legAt, recordFailure_legAt]
          exact (detailed failing).mpr failed
        · refine .inl ⟨slot, ?_⟩
          rw [settle_legAt, recordFailure_legAt, detailed, setLeg_legAt, if_pos rfl]
          exact failed
        · exact .inr failed
      · rintro (failed | failed)
        · exact ofLeg failed
        · rw [settle_isFailed, recordFailure_isFailed, setLeg_outcome]
          exact .inr (.inr failed)
    | rearmed => exact ⟨.inr, fun either => either.elim ofLeg id⟩
    | @extended atTime deadline =>
      obtain ⟨slot, running⟩ := waits ending
      have outcome := (teardown_waits running atTime .ended deadline).2
      have same : (a.core.teardown atTime .ended deadline).outcome.any
          isFailed = true ↔
            a.terminalOutcome.any isFailed = true := by
        rw [outcome, Option.any_some, selectedOutcome_isFailed]
        simp [isFailed]
      exact ⟨fun failed => .inr (same.mp failed), fun either => either.elim ofLeg same.mpr⟩
    | elapsed =>
      obtain ⟨slot, running⟩ := waits ending
      refine ⟨fun _ => .inl ⟨slot, ?_⟩, fun _ => closingOutcome_isFailed.mpr (.inr rfl)⟩
      rw [close_legAt, forced_legAt]
      exact failUnfinished_failed (.inr (by rwa [core_legAt] at running)) _
  · have undecided : a.terminalOutcome = none := valid.legal.undecided earlier
    cases move.enters earlier closing valid with
    | @hungUp _ slot leg down =>
      have outcome := (teardown_waits (other_running valid earlier slot leg)
        command.atTime (leg.failure.elim .ended .failed) none).2
      have given : ((a.core.setLeg slot leg).teardown command.atTime
          (leg.failure.elim .ended .failed) none).outcome.any isFailed = true ↔
            leg.failure ≠ none := by
        rw [outcome, Option.any_some, selectedOutcome_isFailed, setLeg_outcome,
          core_outcome, undecided]
        cases leg.failure <;> simp [isFailed]
      rw [down.reportsFailure_iff]
      exact ⟨fun failed => .inr (given.mp failed), fun either => either.elim ofLeg given.mpr⟩
    | @requested atTime deadline =>
      have outcome := (early_teardown (c := a.core) valid earlier atTime .ended deadline).2
      rw [core_outcome, undecided] at outcome
      refine ⟨fun failed => ?_, fun either => either.elim ofLeg (fun failed => by cases failed)⟩
      rw [outcome] at failed
      cases failed
    | @elapsed atTime _ =>
      refine ⟨fun _ => .inr rfl, fun _ => ?_⟩
      rw [(early_teardown valid earlier _ _ _).2, Option.any_some, selectedOutcome_isFailed]
      exact .inr rfl

end Move

namespace CallStep

variable (step : CallStep)

variable (valid : step.before.Valid)
include valid

private theorem state_follows (applied : step.isApplied = true) :
    step.after.state ∈ nextStates step.before.state := by
  cases step.happened with
  | nothing unapplied => simp [applied] at unapplied
  | moved _ move => exact move.state_mem valid

private theorem rank_le : step.before.state.rank ≤ step.after.state.rank := by
  cases step.happened with
  | nothing _ same => exact Nat.le_of_eq (congrArg (fun a => a.state.rank) same.symm)
  | moved applied => exact CallState.rank_le (step.state_follows valid applied)

private theorem closing_mono (closing : step.before.state ∈ closingStates) :
    step.after.state ∈ closingStates :=
  closing_of_rank_le (step.rank_le valid) closing

private theorem hasFailedLeg_mono (failed : step.before.core.hasFailedLeg) :
    step.after.core.hasFailedLeg := by
  cases step.happened with
  | nothing _ same =>
    rw [same]
    exact failed
  | moved _ move => exact move.hasFailedLeg_mono valid failed

end CallStep

namespace CallAggregate

private theorem presentAll_further (valid : a.Valid) (commands : List CallCommand) :
    a.state.rank ≤ (a.presentAll commands).state.rank ∧
      (a.core.hasFailedLeg → (a.presentAll commands).core.hasFailedLeg) := by
  have kept : (a.presentAll commands).Valid ∧ a.state.rank ≤ (a.presentAll commands).state.rank ∧
      (a.core.hasFailedLeg → (a.presentAll commands).core.hasFailedLeg) :=
    foldl_induction (motive := fun now => now.Valid ∧ a.state.rank ≤ now.state.rank ∧
      (a.core.hasFailedLeg → now.core.hasFailedLeg)) ⟨valid, Nat.le_refl _, fun failed => failed⟩
      (fun now command held => ⟨after_valid (now, command) held.1,
        Nat.le_trans held.2.1 (rank_le (now, command) held.1),
        fun failed => hasFailedLeg_mono (now, command) held.1
          (held.2.2 failed)⟩) commands
  exact kept.2

private theorem steps_closing (valid : a.Valid) (closing : a.state ∈ closingStates) {commands step}
    (member : step ∈ a.steps commands) : step.before.state ∈ closingStates := by
  obtain ⟨first, -, -, before, -⟩ := mem_steps member
  rw [before]
  exact closing_of_rank_le (presentAll_further valid first).1 closing

theorem emitted_closing {motive : EffectIntent → Prop}
    (each : ∀ step : CallStep, step.before.Valid → step.after.state ∈ closingStates →
      ∀ effect ∈ step.effects, motive effect) (valid : a.Valid) {commands past future}
    {step} (split : a.steps commands = past ++ step :: future)
    (closing : step.after.state ∈ closingStates) :
    ∀ effect ∈ emitted (step :: future), motive effect := by
  intro _ member
  obtain ⟨first, _, -, -, before, rfl⟩ := steps_split split
  have stepValid : step.before.Valid := by
    rw [before]
    exact presentAll_valid valid first
  have after := step.after_valid stepValid
  obtain ⟨source, place, found⟩ := List.mem_flatMap.mp member
  obtain rfl | later := List.mem_cons.mp place
  · exact each _ stepValid closing _ found
  · have sourceValid := step_valid after later
    exact each _ sourceValid
      (source.closing_mono sourceValid (steps_closing after closing later)) _ found

end CallAggregate

/-- What the steps so far say about the failure of the call. -/
structure FailureTold (past : List CallStep) (a : CallAggregate) : Prop where
  waiting : a.core.Waiting
  early : a.state ∉ closingStates → ∀ step ∈ past, step.endsByFailure = false
  closing : a.state ∈ closingStates → (a.terminalOutcome.any isFailed = true ↔
    a.core.hasFailedLeg ∨ ∃ step ∈ past, step.endsByFailure = true)

namespace FailureTold

variable {past : List CallStep} {step : CallStep}

theorem next (told : FailureTold past step.before) (valid : step.before.Valid) :
    FailureTold (past ++ [step]) step.after := by
  cases step.happened with
  | nothing _ same =>
    have silent : step.endsByFailure = false := by
      rw [endsByFailure, entersEnding, same]
      by_cases closing : step.before.state ∈ closingStates <;> simp [closing]
    rw [same]
    refine ⟨told.waiting, fun early other member => ?_, fun closing => ?_⟩
    · obtain member | rfl := List.mem_append.mp member |>.imp_right List.mem_singleton.mp
      · exact told.early early _ member
      · exact silent
    · simpa [silent] using told.closing closing
  | moved _ move =>
    have after := step.after_valid valid
    refine ⟨move.waiting told.waiting valid, fun early other member => ?_, fun closing => ?_⟩
    · have before : step.before.state ∉ closingStates :=
        fun closing => early (step.closing_mono valid closing)
      obtain member | rfl := List.mem_append.mp member |>.imp_right List.mem_singleton.mp
      · exact told.early before _ member
      · simp [endsByFailure, entersEnding, early]
    · have failing := move.failing_iff told.waiting valid after.legal closing
      rw [core_outcome] at failing
      rw [failing]
      by_cases earlier : step.before.state ∈ closingStates
      · have silent : step.endsByFailure = false := by
          simp [endsByFailure, entersEnding, earlier]
        rw [if_pos earlier, told.closing earlier]
        have keeps := move.hasFailedLeg_mono valid
        simp only [List.mem_append, List.mem_singleton, or_and_right, exists_or, exists_eq_left,
          silent, Bool.false_eq_true, or_false]
        exact ⟨fun either => either.elim .inl (fun old => old.imp_left keeps),
          fun either => either.imp_right .inr⟩
      · have unfailed := told.early earlier
        have ends : step.endsByFailure = step.command.reportsFailure := by
          simp [endsByFailure, entersEnding, earlier, closing]
        have none : ¬ ∃ other ∈ past, other.endsByFailure = true := by
          rintro ⟨other, member, failed⟩
          simp [unfailed other member] at failed
        simp only [if_neg earlier, List.mem_append, List.mem_singleton, or_and_right, exists_or,
          exists_eq_left, none, false_or, ends]

end FailureTold

/-- The life of a call that the commands are presented to. -/
structure Lifecycle (a : CallAggregate) (commands : List CallCommand) : Prop where
  order : ∀ step ∈ a.steps commands, step.isApplied = true →
    step.after.state ∈ nextStates step.before.state
  forward : ∀ first second, commands = first ++ second →
    (a.presentAll first).state.rank ≤ (a.presentAll commands).state.rank
  version : ∀ step ∈ a.steps commands,
    step.after.version = step.before.version + if step.isApplied then 1 else 0
  unapplied : ∀ step ∈ a.steps commands, step.isApplied = false →
    step.after = step.before ∧ step.effects = []
  terminal : ∀ step ∈ a.steps commands, step.before.state.isTerminal = true →
    step.isApplied = false
  failure : ∀ first second, commands = first ++ second →
    (a.presentAll first).terminalOutcome.any isFailed = true →
    (a.presentAll commands).terminalOutcome.any isFailed = true
  final : (a.presentAll commands).state.isTerminal = true →
    ((a.presentAll commands).state = .failed ↔
      (∃ slot, ((a.presentAll commands).legAt slot).state = .failed) ∨
        ∃ step ∈ a.steps commands, step.endsByFailure = true)

namespace Created

private theorem failureTold (created : Created a) (commands : List CallCommand) :
    FailureTold (a.steps commands) (a.presentAll commands) := by
  have pending := created.pending
  refine run_induction created.valid ?_
    (fun _ _ valid told => FailureTold.next told valid) commands
  exact ⟨fun ending => by simp [pending] at ending, fun _ => by simp,
    fun closing => by simp [pending] at closing⟩

private theorem closing_of_outcome (valid : a.Valid)
    (failed : a.terminalOutcome.any isFailed = true) :
    a.state ∈ closingStates := by
  by_contra early
  rw [show a.terminalOutcome = none from valid.legal.undecided early] at failed
  cases failed

private theorem failure_persists (created : Created a) (first second : List CallCommand)
    (failed : (a.presentAll first).terminalOutcome.any isFailed = true) :
    (a.presentAll (first ++ second)).terminalOutcome.any isFailed = true := by
  have valid := presentAll_valid created.valid first
  have closing := closing_of_outcome valid failed
  obtain ⟨further, keeps⟩ := presentAll_further valid second
  rw [← presentAll_append] at further keeps
  rw [(created.failureTold _).closing (closing_of_rank_le further closing), steps_append]
  refine ((created.failureTold first).closing closing |>.mp failed).imp keeps ?_
  rintro ⟨step, member, ends⟩
  exact ⟨step, List.mem_append_left _ member, ends⟩

private theorem failed_iff_outcome (valid : a.Valid) (terminal : a.state.isTerminal = true) :
    a.state = .failed ↔ a.terminalOutcome.any isFailed = true := by
  have outcome := valid.legal.outcome
  cases state : a.state <;> simp [state, CallState.isTerminal] at terminal <;>
    simp [state, outcomeAllowedIn] at outcome <;> simp [outcome, isFailed]

/-- Every run of a new call follows the order of the states, counts its applied commands and
ends in failure exactly when a leg failed or a failure began the teardown. -/
theorem lifecycle (created : Created a) (commands : List CallCommand) : Lifecycle a commands where
  order := fun step member => step.state_follows (step_valid created.valid member)
  forward := by
    rintro first second rfl
    rw [presentAll_append]
    have valid := presentAll_valid created.valid first
    exact (presentAll_further valid second).1
  version := fun step _ => by
    cases step.happened with
    | nothing unapplied same | moved unapplied _ _ same => simp [unapplied, same]
  unapplied := fun step _ unapplied => by
    cases step.happened with
    | nothing _ same quiet => exact ⟨same, quiet⟩
    | moved applied => simp [unapplied] at applied
  terminal := fun step member terminal => by
    by_contra applied
    have follows := step.state_follows (step_valid created.valid member) (by simpa using applied)
    cases state : step.before.state <;>
      simp [state, CallState.isTerminal, nextStates] at terminal follows
  failure := by
    rintro first second rfl
    exact created.failure_persists _ second
  final := fun terminal => by
    have valid := presentAll_valid created.valid commands
    have closing : (a.presentAll commands).state ∈ closingStates := by
      cases state : (a.presentAll commands).state <;> simp_all [CallState.isTerminal]
    rw [failed_iff_outcome valid terminal, (created.failureTold commands).closing closing]
    simp [hasFailedLeg]

theorem lifecycle_missedAnswer :
    Created Sample.newCall ∧ Lifecycle Sample.newCall Sample.missedAnswer ∧
      (Sample.newCall.presentAll Sample.missedAnswer).state = .failed ∧
      ∀ slot, ((Sample.newCall.presentAll Sample.missedAnswer).legAt slot).state = .ended :=
  ⟨Sample.newCall_created, lifecycle Sample.newCall_created _, by decide +kernel,
    fun slot => by cases slot <;> decide +kernel⟩

/-- A call that is to be torn down for a failure goes from pending to ending and ends normally. -/
theorem failedOperation_ends :
    (Sample.newCall.steps Sample.failedOperation).map
        (fun step => (step.before.state, step.after.state)) =
      [(.pending, .ending), (.ending, .ending), (.ending, .ended)] ∧
      EffectIntent.stopLeg Sample.calleeId 1 .failure ∈
        emitted (Sample.newCall.steps Sample.failedOperation) := by
  decide +kernel

end Created

end Bridgefu.CallEngine
