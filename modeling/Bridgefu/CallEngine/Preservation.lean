/- digest: Moves keep a call valid, apart from two leg reports that the guards overlook. -/

import Bridgefu.CallEngine.Validity

set_option autoImplicit false

namespace Bridgefu.CallEngine

open Lib CallAggregate
open CallCore hiding settle state legAt

variable {command : CallCommand} {leg : Leg} {a : CallAggregate} {slot : LegSlot}
  {sent : List EffectIntent} {c : CallCore}

namespace TakesDown

private theorem timely (down : TakesDown a command slot leg) : a.updatedAt ≤ command.atTime := by
  cases down with
  | reported guard | source guard => exact guard.timely

theorem detailed (down : TakesDown a command slot leg) :
    leg.state = .failed ↔ leg.failure ≠ none := by
  cases down with
  | reported guard => exact guard.detailed
  | @source _ _ _ _ reason => cases reason <;> simp [terminatedSource]

private theorem valid_leg (valid : a.Valid) (down : TakesDown a command slot leg) :
    LegValid a.createdAt command.atTime leg := by
  cases down with
  | reported guard =>
    exact (valid.legs slot).reportedLeg guard.timely (validLegTransition_up guard.transition)
      guard.detailed
  | source guard => exact (valid.legs slot).terminatedSource guard.timely _

end TakesDown

namespace Move

private theorem timely (move : Move a command c sent) : a.updatedAt ≤ command.atTime := by
  cases move with
  | hungUp down | drained down => exact down.timely
  | started guard | reported guard | answered guard | mediaStarted guard | mediaAttached guard
  | replacementAttached guard | rotated guard | rearmed guard | transferBegun _ guard
  | replacementBegun _ guard | transferFinished guard | replacementFinished guard
  | endingBegun guard | endingElapsed guard | replacementElapsed guard | elapsed guard =>
    exact guard.timely

theorem legs_valid (valid : a.Valid) (move : Move a command c sent) :
    ∀ slot, LegValid a.createdAt command.atTime (c.legAt slot) := by
  have timely := move.timely
  have later : ∀ slot, LegValid a.createdAt command.atTime (a.core.legAt slot) := by
    intro slot
    exact (valid.legs slot).later timely
  have disarmed : ∀ {kind} slot,
      LegValid a.createdAt command.atTime ((a.core.disarm kind).legAt slot) := by
    simpa using later
  have stopped : ∀ (c : CallCore) (outcome : TerminalOutcome) (deadline : Option Timestamp),
      (∀ slot, LegValid a.createdAt command.atTime (c.legAt slot)) →
      ∀ slot, LegValid a.createdAt command.atTime
        ((c.teardown command.atTime outcome deadline).legAt slot) := by
    intro c outcome deadline every slot
    rw [teardown_legAt]
    exact (every slot).stoppedLeg (Int.le_refl _)
  cases move with
  | started guard =>
    have up := valid.leg_up (by simp [guard.pending])
    intro slot
    cases slot with
    | left => exact (valid.legs .left).startLeg timely (up .left)
    | right => exact (valid.legs .right).startLeg timely (up .right)
  | @reported slot _ _ _ _ _ guard =>
    exact forall_setLeg later ((valid.legs slot).reportedLeg timely
      (validLegTransition_up guard.transition) guard.detailed)
  | @answered slot _ _ _ _ _ guard =>
    intro other
    exact forall_setLeg later ((valid.legs slot).reportedLeg timely
      (validLegTransition_up guard.transition) guard.detailed) other
  | hungUp down => exact stopped _ _ _ (forall_setLeg later (down.valid_leg valid))
  | drained down =>
    intro other
    rw [settle_legAt, recordFailure_legAt]
    exact forall_setLeg later (down.valid_leg valid) other
  | @mediaStarted slot _ _ _ guard | @mediaAttached slot _ _ _ guard =>
    exact forall_setLeg later ((valid.legs slot).signalIfPending timely)
  | replacementAttached => exact later
  | @rotated slot _ _ _ guard =>
    exact forall_setLeg later ((valid.legs slot).rotatedLeg timely
      (valid.leg_up (by simp [guard.connecting]) slot))
  | rearmed | transferBegun => simpa using later
  | @replacementBegun slot _ _ _ _ _ guard =>
    intro other
    exact forall_setLeg later ((valid.legs slot).heldLeg timely
      (valid.leg_up (by simp [guard.active]) slot)) other
  | transferFinished => simpa using later
  | @replacementFinished slot _ _ _ replacement outcome guard =>
    intro other
    have replacing := valid.replacing_at guard.pending guard.found
    have up := valid.leg_up (by simp [guard.transferring]) slot
    obtain ⟨-, -, previous, cursor, _⟩ := replacing
    rw [core_legAt] at previous cursor
    refine forall_setLeg disarmed ((valid.legs slot).settledLeg timely up cursor ?_ _) other
    omega
  | endingBegun => exact stopped _ _ _ later
  | endingElapsed =>
    intro slot
    cases slot with
    | left => exact (valid.legs .left).failUnfinished timely
    | right => exact (valid.legs .right).failUnfinished timely
  | @replacementElapsed slot _ _ _ replacement guard pending =>
    intro other
    have transferring := (valid.legal.transferring (by simp [pending])).1
    have up := valid.leg_up (by simp [show a.state = .transferring from transferring]) slot
    exact forall_setLeg disarmed ((valid.legs slot).restate timely up rfl) other
  | elapsed => exact stopped _ _ _ disarmed

end Move

namespace CallCore

def Detailed (c : CallCore) : Prop :=
  ∀ slot, (c.legAt slot).state = .failed ↔ (c.legAt slot).failure ≠ none

private theorem closingOutcome_ended (ended : c.closingOutcome.isFailed = false) :
    c.closingOutcome = .ended ∧ ∀ slot, (c.legAt slot).failure = none := by
  unfold closingOutcome at ended ⊢
  split at ended
  · cases ended
  · cases ended
  · cases ended
  · rename_i left right _
    exact ⟨rfl, fun slot => by cases slot; exacts [left, right]⟩

private theorem close_legal (finished : c.finished = true) (detailed : c.Detailed)
    (unreplaced : c.replacement = none) (atTime : Timestamp) : (c.close atTime).Legal := by
  rw [finished_iff] at finished
  have idle : (c.close atTime).replacement = none := unreplaced
  cases failed : c.closingOutcome.isFailed with
  | true =>
    have state : (c.close atTime).state = .failed := by simp [close, moveTo, failed]
    refine ⟨fun slot => ?_, ?_, by simp [state], by simp [close, moveTo], by simp [idle],
      by simp [idle]⟩
    · rw [state]
      exact finished slot
    · rw [state]
      exact failed
  | false =>
    obtain ⟨ended, unfailed⟩ := closingOutcome_ended failed
    have state : (c.close atTime).state = .ended := by simp [close, moveTo, failed]
    refine ⟨fun slot => ?_, ?_, by simp [state], by simp [close, moveTo], by simp [idle],
      by simp [idle]⟩
    · have terminal := finished slot
      have notFailed : (c.legAt slot).state ≠ .failed := fun failed =>
        (detailed slot).mp failed (unfailed slot)
      cases leg : (c.legAt slot).state <;> simp_all [legAllowedIn, LegState.isTerminal]
    · rw [state]
      simp [close, moveTo, outcomeAllowedIn, ended]

theorem stoppedLeg_allowed (leg : Leg) (atTime : Timestamp) :
    legAllowedIn .ending (stoppedLeg leg atTime).state = true := by
  unfold stoppedLeg
  split_ifs with down
  · rfl
  · cases state : leg.state <;> simp_all [LegState.isUp, LegState.isTerminal, legAllowedIn]

theorem stoppedLeg_failed (leg : Leg) (atTime : Timestamp) :
    (stoppedLeg leg atTime).state = .failed ↔ leg.state = .failed := by
  unfold stoppedLeg
  split_ifs with up
  · cases state : leg.state <;> simp_all [LegState.isUp, LegState.isTerminal]
  · rfl

private theorem stoppedLeg_failure (leg : Leg) (atTime : Timestamp) :
    (stoppedLeg leg atTime).failure = leg.failure := by
  unfold stoppedLeg
  split <;> rfl

private theorem enterEnding_legal {outcome} (failed : (∃ slot, (c.legAt slot).state = .failed) →
      (selectedOutcome c.outcome outcome).isFailed = true) (atTime : Timestamp) :
    (c.enterEnding atTime outcome).Legal := by
  refine ⟨fun slot => ?_, rfl, fun _ => ?_, fun kind armed => ?_, by simp [enterEnding, moveTo],
    by simp [enterEnding, moveTo]⟩
  · rw [enterEnding_legAt]
    exact stoppedLeg_allowed ..
  · rintro ⟨slot, isFailed⟩
    rw [enterEnding_legAt, stoppedLeg_failed] at isFailed
    exact failed ⟨slot, isFailed⟩
  · have ending : kind = .ending := by
      rw [enterEnding, moveTo, Bool.and_eq_true, decide_eq_true_eq] at armed
      exact armed.2
    subst ending
    rfl

private theorem Legal.arm (legal : c.Legal) {kind}
    (allowed : deadlineAllowedIn kind c.state = true) : (c.arm kind).Legal := by
  have same : ∀ slot, (c.arm kind).legAt slot = c.legAt slot := fun slot => arm_legAt c _ slot
  refine ⟨fun slot => ?_, legal.outcome, fun ending => ?_, fun _ armed => ?_, fun pending => ?_,
    fun _ pending => ?_⟩
  · exact legal.legs slot
  · exact legal.failed ending
  · rw [CallCore.arm, Bool.or_eq_true, decide_eq_true_eq] at armed
    obtain armed | rfl := armed
    · exact legal.deadlines _ armed
    · exact allowed
  · exact (legal.transferring pending).imp_right fun armed => by simp [CallCore.arm, armed]
  · obtain ⟨slot, replacing⟩ := legal.replacing _ pending
    exact ⟨slot, replacing.of_legAt (same slot)⟩

private theorem Legal.setLeg (legal : c.Legal) {slot leg} (early : c.state ≠ .ending)
    (allowed : legAllowedIn c.state leg.state = true)
    (spared : ∀ replacement held, c.replacement = some replacement →
      c.Replacing replacement held → held ≠ slot) : (c.setLeg slot leg).Legal := by
  refine ⟨fun other => ?_, by simpa using legal.outcome, fun ending => ?_, fun _ armed => ?_,
    fun pending => ?_, fun _ pending => ?_⟩
  · rw [setLeg_state, setLeg_legAt]
    split
    · exact allowed
    · exact legal.legs other
  · exact absurd (by simpa using ending) early
  · rw [setLeg_state]
    exact legal.deadlines _ (by simpa using armed)
  · rw [setLeg_state, setLeg_armed]
    exact legal.transferring (by simpa using pending)
  · rw [setLeg_replacement] at pending
    obtain ⟨held, replacing⟩ := legal.replacing _ pending
    refine ⟨held, replacing.of_legAt ?_⟩
    rw [setLeg_legAt, if_neg (spared _ _ pending replacing)]

private theorem Legal.running (state : c.state ∈ [CallState.connecting, .active, .transferring])
    (legs : ∀ slot, legAllowedIn c.state (c.legAt slot).state = true) (outcome : c.outcome = none)
    (deadlines : ∀ kind, c.armed kind = true → deadlineAllowedIn kind c.state = true)
    (unreplaced : c.replacement = none) : c.Legal := by
  refine ⟨legs, ?_, fun ending => ?_, deadlines, by simp [unreplaced], by simp [unreplaced]⟩
  · cases running : c.state <;> simp_all [outcomeAllowedIn]
  · simp [ending] at state

theorem Legal.unreplaced (legal : c.Legal) (other : c.state ≠ .transferring) :
    c.replacement = none := by
  by_contra pending
  exact other (legal.transferring pending).1

theorem Legal.undecided (legal : c.Legal)
    (early : c.state ∉ [CallState.ending, .ended, .failed]) : c.outcome = none := by
  have outcome := legal.outcome
  cases state : c.state <;> simp [state] at early <;> simpa [outcomeAllowedIn, state] using outcome

private theorem teardown_legal {outcome} (detailed : c.Detailed)
    (failed : (∃ slot, (c.legAt slot).state = .failed) →
      (selectedOutcome c.outcome outcome).isFailed = true) (atTime : Timestamp)
    (deadline : Option Timestamp) : (c.teardown atTime outcome deadline).Legal := by
  have ending := enterEnding_legal failed atTime
  unfold teardown
  simp only
  split
  · rename_i finished
    refine close_legal finished (fun slot => ?_) rfl atTime
    rw [enterEnding_legAt, stoppedLeg_failed, stoppedLeg_failure]
    exact detailed slot
  · split
    · exact ending.arm rfl
    · exact ending

end CallCore

/-- Reports that pass every guard of the command although no valid call results: a hold before
the call is answered, and a resumption of the leg that a replacement holds. -/
inductive Overlooked (a : CallAggregate) : CallCommand → Prop
  | heldEarly {slot atTime legId} (found : a.legIndex legId = .ok slot)
      (timely : a.updatedAt ≤ atTime) (connecting : a.state = .connecting)
      (connected : (a.legAt slot).state = .connected) :
      Overlooked a (.setLegState atTime legId (a.legAt slot).bindingGeneration .held none)
  | resumed {slot atTime replacement} (pending : a.replacement = some replacement)
      (found : a.legIndex replacement.legId = .ok slot) (timely : a.updatedAt ≤ atTime) :
      Overlooked a
        (.setLegState atTime replacement.legId (a.legAt slot).bindingGeneration .connected none)

namespace Move

variable {atTime : Timestamp}

private theorem reported_legal {legId supplied next failure} (valid : a.Valid)
    (guard : ReportGuard a slot atTime legId supplied next failure)
    (up : next ∉ [LegState.ending, .ended, .failed]) (early : a.state ≠ .ending)
    (seen : ¬ Overlooked a (.setLegState atTime legId supplied next failure)) :
    (a.core.setLeg slot (reportedLeg (a.legAt slot) atTime next failure)).Legal := by
  have undetailed : failure = none := by
    by_contra given
    exact up (by simp [guard.detailed.mpr given])
  subst undetailed
  have transition := guard.transition
  have current := guard.current
  have allowed := valid.legal.legs slot
  refine valid.legal.setLeg early ?_ fun replacement held pending replacing same => ?_
  · -- the transition leads out of the allowed states only for a hold while connecting
    change legAllowedIn a.state next = true
    have goesOn := guard.goesOn
    have started := guard.started
    by_cases holds : a.state = .connecting ∧ next = .held
    · obtain ⟨connecting, rfl⟩ := holds
      have connected : (a.legAt slot).state = .connected := by
        cases leg : (a.legAt slot).state <;> simp_all [validLegTransition]
      subst current
      exact absurd (.heldEarly guard.found guard.timely connecting connected) seen
    · cases state : a.state <;> cases leg : (a.legAt slot).state <;> cases next <;>
        simp_all [validLegTransition, legAllowedIn, CallState.isTerminal]
  · subst same
    have held := replacing.held
    have resumes : next = .connected := by
      cases next <;> simp_all [validLegTransition]
    have named : legId = replacement.legId := by
      rw [← (valid.legIndex_iff _ _).mp guard.found, ← replacing.leg, core_legAt]
    subst resumes current named
    exact seen (.resumed pending guard.found guard.timely)

private theorem setLeg_detailed (before : c.Detailed)
    (changed : leg.state = .failed ↔ leg.failure ≠ none) : (c.setLeg slot leg).Detailed :=
  forall_setLeg (P := fun _ leg => leg.state = .failed ↔ leg.failure ≠ none) before changed

private theorem hungUp_legal (valid : a.Valid) (down : TakesDown a command slot leg)
    (early : a.state ≠ .ending) (detailed : (a.core.setLeg slot leg).Detailed) :
    ((a.core.setLeg slot leg).teardown command.atTime (leg.failure.elim .ended .failed)
      none).Legal := by
  have running : a.state ∉ [CallState.ending, .ended, .failed] := by
    cases down with
    | reported guard =>
      have goesOn := guard.goesOn
      cases state : a.state <;> simp_all [CallState.isTerminal]
    | source guard =>
      have before := guard.early
      cases state : a.state <;> simp_all
  refine teardown_legal detailed ?_ command.atTime none
  rintro ⟨other, failed⟩
  rw [setLeg_outcome, valid.legal.undecided (by simpa using running)]
  by_cases same : other = slot
  · subst same
    have given := (detailed other).mp failed
    rw [setLeg_legAt, if_pos rfl] at given
    obtain ⟨_, isSome⟩ := Option.ne_none_iff_exists'.mp given
    rw [isSome]
    rfl
  · rw [setLeg_legAt, if_neg same, core_legAt] at failed
    have up := valid.leg_up running other
    rw [failed] at up
    cases up

private theorem drained_legal (valid : a.Valid) (down : TakesDown a command slot leg)
    (ending : a.state = .ending) (detailed : (a.core.setLeg slot leg).Detailed) :
    (((a.core.setLeg slot leg).recordFailure leg).settle command.atTime).Legal := by
  have legal := valid.legal
  have unreplaced := legal.unreplaced (by simp [ending])
  have terminal : leg.state ∈ [LegState.ending, .ended, .failed] := by
    cases down with
    | reported _ down => exact down
    | @source _ _ _ _ reason => cases reason <;> simp [terminatedSource]
  have same : ∀ other, ((a.core.setLeg slot leg).recordFailure leg).legAt other =
      (a.core.setLeg slot leg).legAt other := fun other => recordFailure_legAt ..
  have state : ((a.core.setLeg slot leg).recordFailure leg).state = .ending := by
    unfold recordFailure
    split <;> simp [ending]
  have idle : ((a.core.setLeg slot leg).recordFailure leg).replacement = none := by
    unfold recordFailure
    split <;> simpa using unreplaced
  unfold CallCore.settle
  split
  · rename_i finished
    refine close_legal finished (fun other => ?_) idle _
    rw [same]
    exact detailed other
  · refine ⟨fun other => ?_, ?_, fun _ => ?_, fun _ armed => ?_, by simp [idle],
      by simp [idle]⟩
    · rw [state, same, setLeg_legAt]
      split
      · simpa [legAllowedIn] using terminal
      · have allowed := legal.legs other
        rwa [core_state, ending] at allowed
    · rw [state]
      have outcome := legal.outcome
      rw [core_state, ending] at outcome
      unfold recordFailure
      split
      · rfl
      · simpa using outcome
    · rintro ⟨other, failed⟩
      rw [same] at failed
      unfold recordFailure
      split
      · rfl
      · rename_i unfailed
        have another : other ≠ slot := by
          rintro rfl
          refine (detailed other).mp failed ?_
          rw [setLeg_legAt, if_pos rfl]
          exact unfailed
        rw [setLeg_legAt, if_neg another] at failed
        rw [setLeg_outcome]
        exact legal.failed ending ⟨other, failed⟩
    · rw [state]
      have before := legal.deadlines _ (by
        unfold recordFailure at armed
        split at armed <;> simpa using armed)
      rwa [core_state, ending] at before

private theorem startLeg_allowed (pending : leg.state = .pending) (atTime : Timestamp) :
    legAllowedIn .connecting (startLeg leg atTime).1.state = true := by
  unfold startLeg
  split
  · rfl
  · simp [pending, legAllowedIn]

private theorem signalIfPending_allowed (allowed : legAllowedIn .connecting leg.state = true)
    (atTime : Timestamp) :
    legAllowedIn .connecting (signalIfPending leg atTime).state = true := by
  unfold signalIfPending
  split
  · rfl
  · exact allowed

section

variable (valid : a.Valid)
include valid

private theorem undecided (early : a.state ∉ [CallState.ending, .ended, .failed]) :
    a.terminalOutcome = none :=
  valid.legal.undecided early

private theorem unreplaced (other : a.state ≠ .transferring) : a.replacement = none :=
  valid.legal.unreplaced other

private theorem legs_allowed {state} (here : a.state = state) (slot : LegSlot) :
    legAllowedIn state (a.legAt slot).state = true := by
  subst here
  simpa using valid.legal.legs slot

private theorem deadlines_allowed {state} (here : a.state = state) {kind}
    (armed : a.core.armed kind = true) : deadlineAllowedIn kind state = true := by
  subst here
  exact valid.legal.deadlines _ armed

private theorem started_legal {atTime setupDeadline} (guard : StartGuard a atTime setupDeadline) :
    (({ a.core with
        left := (startLeg a.left atTime).1
        right := (startLeg a.right atTime).1 }.moveTo .connecting atTime).arm .setup).Legal := by
  have pending := guard.pending
  refine Legal.arm (.running (by simp [moveTo]) (fun slot => ?_)
    (undecided valid (by simp [pending])) (fun kind armed => ?_)
    (unreplaced valid (by simp [pending]))) rfl
  · have legs := legs_allowed valid pending slot
    rw [legAllowedIn, decide_eq_true_eq] at legs
    cases slot with
    | left | right => exact startLeg_allowed legs _
  · have none := deadlines_allowed valid pending armed
    cases kind <;> simp [deadlineAllowedIn] at none

private theorem answered_legal (answered : (a.core.setLeg slot leg).answered) :
    (((a.core.setLeg slot leg).disarm .setup).moveTo .active atTime).Legal := by
  obtain ⟨here, left, right⟩ := answered
  have connecting : a.state = .connecting := by simpa using here
  have outcome := undecided valid (by simp [connecting])
  have idle := unreplaced valid (by simp [connecting])
  refine .running (by simp [moveTo]) (fun other => ?_)
    (by simpa [moveTo, disarm] using outcome) (fun kind armed => ?_)
    (by simpa [moveTo, disarm] using idle)
  · cases other with
    | left => exact (congrArg (legAllowedIn .active) left).trans rfl
    | right => exact (congrArg (legAllowedIn .active) right).trans rfl
  · rw [moveTo, disarm, setLeg_armed, Bool.and_eq_true] at armed
    have setup := deadlines_allowed valid connecting armed.1
    cases kind <;> simp [deadlineAllowedIn] at setup armed

private theorem connecting_legal (connecting : a.state = .connecting)
    (allowed : legAllowedIn .connecting leg.state = true) : (a.core.setLeg slot leg).Legal := by
  refine valid.legal.setLeg (by simp [connecting]) ?_ fun _ _ pending => ?_
  · rw [core_state, connecting]
    exact allowed
  · rw [core_replacement, unreplaced valid (by simp [connecting])] at pending
    cases pending

private theorem transferBegun_legal {atTime transferDeadline}
    (guard : TransferGuard a atTime transferDeadline) :
    ((a.core.moveTo .transferring atTime).arm .transfer).Legal := by
  have active := guard.active
  refine Legal.arm (.running (by simp [moveTo]) (fun slot => ?_)
    (undecided valid (by simp [active])) (fun kind armed => ?_)
    (unreplaced valid (by simp [active]))) rfl
  · exact legs_allowed valid active slot
  · have media := deadlines_allowed valid active armed
    cases kind <;> simp_all [deadlineAllowedIn, moveTo]

private theorem replacementBegun_legal {legId pendingKind transferDeadline}
    (guard : ReplaceGuard a slot atTime legId transferDeadline) :
    CallCore.Legal { ((a.core.setLeg slot (heldLeg (a.legAt slot) atTime
        ((a.legAt slot).replacementGenerationCursor + 1))).moveTo .transferring atTime).arm
        .transfer with
      replacement := some ⟨legId, (a.legAt slot).bindingGeneration,
        (a.legAt slot).replacementGenerationCursor + 1, pendingKind⟩ } := by
  have active := guard.active
  have outcome := undecided valid (by simp [active])
  have cursor := (valid.legs slot).cursor
  refine ⟨fun other => ?_, ?_, by simp [arm, moveTo], fun kind armed => ?_,
    fun _ => ⟨rfl, by simp [arm]⟩, ?_⟩
  · rw [legAt_withReplacement, arm_legAt, moveTo_legAt, setLeg_legAt]
    split
    · rfl
    · exact legs_allowed valid active other
  · simp [arm, moveTo, outcomeAllowedIn, outcome]
  · rw [arm, moveTo, setLeg_armed, Bool.or_eq_true, decide_eq_true_eq] at armed
    obtain armed | rfl := armed
    · have media := deadlines_allowed valid active armed
      cases kind <;> simp_all [deadlineAllowedIn, arm, moveTo]
    · rfl
  · rintro _ ⟨⟩
    refine ⟨slot, ?_⟩
    constructor <;>
      simp only [legAt_withReplacement, arm_legAt, moveTo_legAt, setLeg_legAt]
    · exact (valid.legIndex_iff _ _).mp guard.found
    · rfl
    · rfl
    · rfl
    · omega

private theorem returned_legal (transferring : a.state = .transferring) (state : c.state = .active)
    (legs : ∀ slot, (c.legAt slot).state ∈ [LegState.connected, .held])
    (outcome : c.outcome = a.terminalOutcome) (armed : c.armed = (a.core.disarm .transfer).armed)
    (settled : c.replacement = none) : c.Legal := by
  refine .running (by simp [state]) (fun slot => ?_)
    (outcome.trans (undecided valid (by simp [transferring]))) (fun kind isArmed => ?_) settled
  · rw [state]
    simpa [legAllowedIn] using legs slot
  · rw [armed] at isArmed
    rw [disarm, Bool.and_eq_true] at isArmed
    have before := deadlines_allowed valid transferring isArmed.1
    cases kind <;> simp_all [deadlineAllowedIn]

private theorem replaced_legal (transferring : a.state = .transferring)
    (up : leg.state ∈ [LegState.connected, .held]) :
    ({ (a.core.disarm .transfer).setLeg slot leg with replacement := none }.moveTo .active
      atTime).Legal := by
  refine returned_legal valid transferring rfl (fun other => ?_)
    (by simp [moveTo, disarm]) (by simp [moveTo]) rfl
  rw [moveTo_legAt, legAt_withReplacement, setLeg_legAt]
  split
  · exact up
  · simpa [legAllowedIn] using legs_allowed valid transferring other

private theorem failed_selected (goesOn : ¬ a.state.isTerminal = true)
    (failed : ∃ slot, (a.core.legAt slot).state = .failed) :
    (selectedOutcome a.core.outcome .ended).isFailed = true := by
  obtain ⟨slot, isFailed⟩ := failed
  by_cases ending : a.state = .ending
  · have recorded := valid.legal.failed ending ⟨slot, isFailed⟩
    rw [Option.any_eq_true] at recorded
    obtain ⟨outcome, isSome, failure⟩ := recorded
    rw [isSome]
    cases outcome with
    | ended => cases failure
    | failed => rfl
  · have early : a.state ∉ [CallState.ending, .ended, .failed] := by
      cases state : a.state <;> simp_all [CallState.isTerminal]
    have up := valid.leg_up early slot
    rw [core_legAt] at isFailed
    rw [isFailed] at up
    cases up

private theorem endingElapsed_legal {supplied} (guard : ElapsedGuard a atTime .ending supplied)
    (detailed : CallCore.Detailed { a.core.disarm .ending with
      left := failUnfinished a.left atTime
      right := failUnfinished a.right atTime
      outcome := some (.failed endingTimeout) }) : ({ a.core.disarm .ending with
      left := failUnfinished a.left atTime
      right := failUnfinished a.right atTime
      outcome := some (.failed endingTimeout) }.close atTime).Legal := by
  have ended : ∀ leg : Leg, (failUnfinished leg atTime).state.isTerminal = true := by
    intro leg
    unfold failUnfinished
    split
    · assumption
    · rfl
  have ending : a.state = .ending := by
    have allowed := deadlines_allowed valid rfl guard.armed
    simpa [deadlineAllowedIn] using allowed
  refine close_legal ?_ detailed (unreplaced valid (by simp [ending])) atTime
  simp [finished, ended]

/-- No command leads out of the legal cores, apart from the two that are overlooked. -/
theorem legal (seen : ¬ Overlooked a command) (move : Move a command c sent) : c.Legal := by
  have legsValid := move.legs_valid valid
  have before : a.core.Detailed := fun slot => by
    exact (valid.legs slot).failure
  cases move with
  | started guard => exact started_legal valid guard
  | reported guard up early => exact reported_legal valid guard up early seen
  | answered guard answered => exact answered_legal valid answered
  | hungUp down early => exact hungUp_legal valid down early (setLeg_detailed before down.detailed)
  | drained down ending =>
    exact drained_legal valid down ending (setLeg_detailed before down.detailed)
  | @mediaStarted slot _ _ _ guard | @mediaAttached slot _ _ _ guard =>
    exact connecting_legal valid guard.connecting
      (signalIfPending_allowed (legs_allowed valid guard.connecting slot) _)
  | replacementAttached => exact valid.legal
  | rotated guard => exact connecting_legal valid guard.connecting rfl
  | rearmed guard => exact valid.legal.arm guard.allowed
  | transferBegun _ guard => exact transferBegun_legal valid guard
  | replacementBegun _ guard => exact replacementBegun_legal valid guard
  | transferFinished guard =>
    refine returned_legal valid guard.transferring rfl (fun slot => ?_) rfl rfl guard.unreplaced
    simpa [legAllowedIn] using legs_allowed valid guard.transferring slot
  | @replacementFinished slot _ _ _ replacement outcome guard =>
    exact replaced_legal valid guard.transferring (by cases outcome <;> simp [settledLeg])
  | endingBegun guard =>
    exact teardown_legal before (failed_selected valid (by simp [guard.goesOn])) _ _
  | endingElapsed guard =>
    refine endingElapsed_legal valid guard fun slot => ?_
    exact (legsValid slot).failure
  | @replacementElapsed slot _ _ _ replacement guard pending =>
    exact replaced_legal valid (valid.legal.transferring (by simp [pending])).1 (by simp)
  | elapsed =>
    refine teardown_legal (fun slot => ?_) (fun _ => ?_) _ _
    · exact before slot
    · unfold selectedOutcome
      split <;> rfl

end

section

variable (recent : c.stateChangedAt ≤ atTime)
include recent

private theorem moveTo_changed (state : CallState) :
    (c.moveTo state atTime).stateChangedAt ≤ atTime := by
  rw [moveTo]
  split
  · exact recent
  · exact Int.le_refl _

private theorem settle_changed : (c.settle atTime).stateChangedAt ≤ atTime := by
  unfold CallCore.settle
  split
  · exact moveTo_changed recent _
  · exact recent

private theorem teardown_changed (outcome : TerminalOutcome) (deadline : Option Timestamp) :
    (c.teardown atTime outcome deadline).stateChangedAt ≤ atTime := by
  have ending : (c.enterEnding atTime outcome).stateChangedAt ≤ atTime := moveTo_changed recent _
  unfold teardown
  simp only
  split
  · exact moveTo_changed ending _
  · split <;> exact ending

end

private theorem changed (valid : a.Valid) (move : Move a command c sent) :
    c.stateChangedAt ≤ command.atTime := by
  have recent : a.core.stateChangedAt ≤ command.atTime :=
    Int.le_trans valid.changed move.timely
  have reported : ∀ slot leg, (a.core.setLeg slot leg).stateChangedAt ≤ command.atTime := by
    intro slot leg
    rw [setLeg_stateChangedAt]
    exact recent
  cases move with
  | started | transferBegun => exact moveTo_changed recent _
  | reported | mediaStarted | mediaAttached | rotated => exact reported _ _
  | answered => exact moveTo_changed (reported _ _) _
  | hungUp => exact teardown_changed (reported _ _) _ _
  | @drained _ slot leg =>
    refine settle_changed ?_
    unfold recordFailure
    split <;> exact reported slot leg
  | replacementAttached | rearmed => exact recent
  | replacementBegun => exact moveTo_changed (reported _ _) _
  | transferFinished => exact moveTo_changed recent _
  | replacementFinished | replacementElapsed =>
    refine moveTo_changed ?_ _
    rw [setLeg_stateChangedAt]
    exact recent
  | endingBegun => exact teardown_changed recent _ _
  | @elapsed _ kind => exact teardown_changed (c := a.core.disarm kind) recent _ _
  | endingElapsed => exact moveTo_changed recent _

/-- A call stays valid under every command that is not overlooked. -/
theorem valid {next} (before : a.Valid) (seen : ¬ Overlooked a command)
    (move : Move a command next.core sent) (same : SameCall a next)
    (updated : next.updatedAt = command.atTime) : next.Valid where
  distinct := by
    rw [same.left.id, same.right.id]
    exact before.distinct
  flows := by
    rw [same.left.mediaFlow, same.right.mediaFlow]
    exact before.flows
  created := by
    rw [same.createdAt, updated]
    exact Int.le_trans before.created move.timely
  changed := by
    rw [updated]
    exact move.changed before
  legs := fun slot => by
    rw [same.createdAt, updated]
    exact move.legs_valid before slot
  legal := move.legal before seen

end Move

end Bridgefu.CallEngine
