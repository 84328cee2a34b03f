/- digest: The moves of a call: every applied command is one of them, with the signals it sends. -/

import Bridgefu.CallEngine.Machine

set_option autoImplicit false

namespace Bridgefu.CallEngine

open Lib CallAggregate
open CallCore (disarm ext moveTo setLeg_legAt)

/-- A report that takes a leg down, with the leg as it leaves it. -/
inductive TakesDown (a : CallAggregate) : CallCommand → LegSlot → Leg → Prop
  | reported {slot atTime legId supplied next failure}
      (guard : ReportGuard a slot atTime legId supplied next failure)
      (down : next ∈ [LegState.ending, .ended, .failed]) :
      TakesDown a (.setLegState atTime legId supplied next failure) slot
        (reportedLeg (a.legAt slot) atTime next failure)
  | source {slot atTime legId supplied reason} (guard : SourceGuard a slot atTime legId supplied) :
      TakesDown a (.sourceTerminatedBeforeAnswer atTime legId supplied reason) slot
        (terminatedSource (a.legAt slot) atTime reason)

def CallCore.answered (c : CallCore) : Prop :=
  c.state = .connecting ∧ c.left.state = .connected ∧ c.right.state = .connected

/-- What a refused transfer leaves to be undone. -/
def compensation : TransferResult → List EffectIntent
  | .rejected failure => [.compensateTransfer failure]
  | .completed => []

/-- What a transfer that ran out of time leaves to be undone. -/
def timeoutCompensation (kind : DeadlineKind) : List EffectIntent :=
  if kind = .transfer then [.compensateTransfer (timeoutFailure kind)] else []

/-- One applied command on the core of the call, with the signals it sends. -/
inductive Move (a : CallAggregate) : CallCommand → CallCore → List EffectIntent → Prop
  | started {atTime setupDeadline} (guard : StartGuard a atTime setupDeadline) :
      Move a (.startConnecting atTime setupDeadline)
        (({ a.core with
            left := (startLeg a.left atTime).1
            right := (startLeg a.right atTime).1 }.moveTo .connecting atTime).arm .setup)
        [(startLeg a.left atTime).2, (startLeg a.right atTime).2]
  | reported {slot atTime legId supplied next failure}
      (guard : ReportGuard a slot atTime legId supplied next failure)
      (up : next ∉ [LegState.ending, .ended, .failed]) (early : a.state ≠ .ending)
      (unanswered :
        ¬ (a.core.setLeg slot (reportedLeg (a.legAt slot) atTime next failure)).answered) :
      Move a (.setLegState atTime legId supplied next failure)
        (a.core.setLeg slot (reportedLeg (a.legAt slot) atTime next failure)) []
  | answered {slot atTime legId supplied next failure}
      (guard : ReportGuard a slot atTime legId supplied next failure)
      (answered :
        (a.core.setLeg slot (reportedLeg (a.legAt slot) atTime next failure)).answered) :
      Move a (.setLegState atTime legId supplied next failure)
        (((a.core.setLeg slot (reportedLeg (a.legAt slot) atTime next failure)).disarm
          .setup).moveTo .active atTime) [a.core.bridgeSignal]
  | hungUp {command slot leg} (down : TakesDown a command slot leg) (early : a.state ≠ .ending) :
      Move a command
        ((a.core.setLeg slot leg).teardown command.atTime (leg.failure.elim .ended .failed) none)
        ((a.core.setLeg slot leg).endingSignals
          (if leg.failure.isSome then .failure else .peerEnded))
  | drained {command slot leg} (down : TakesDown a command slot leg) (ending : a.state = .ending) :
      Move a command (((a.core.setLeg slot leg).recordFailure leg).settle command.atTime) []
  | mediaStarted {slot atTime legId supplied} (guard : MediaGuard a slot atTime legId supplied) :
      Move a (.providerMediaStarted atTime legId supplied)
        (a.core.setLeg slot (signalIfPending (a.legAt slot) atTime))
        [.connectProviderDestination legId supplied]
  | mediaAttached {slot atTime legId supplied} (guard : MediaGuard a slot atTime legId supplied) :
      Move a (.providerMediaAttached atTime legId supplied)
        (a.core.setLeg slot (signalIfPending (a.legAt slot) atTime)) []
  | replacementAttached {atTime legId supplied}
      (guard : ReplacementMediaGuard a atTime legId supplied) :
      Move a (.providerMediaAttached atTime legId supplied) a.core []
  | rotated {slot atTime legId supplied} (guard : RotateGuard a slot atTime legId supplied) :
      Move a (.rotateLegBinding atTime legId supplied)
        (a.core.setLeg slot
          (rotatedLeg (a.legAt slot) atTime ((a.legAt slot).bindingGeneration + 1)))
        [.awaitLegAttachment legId ((a.legAt slot).bindingGeneration + 1)]
  | rearmed {atTime dueAt kind} (guard : ArmGuard a atTime kind dueAt) :
      Move a (.armDeadline atTime kind dueAt) (a.core.arm kind) []
  | transferBegun {atTime transferDeadline} (generation : Nat)
      (guard : TransferGuard a atTime transferDeadline) :
      Move a (.beginTransfer atTime transferDeadline)
        ((a.core.moveTo .transferring atTime).arm .transfer) [.executeTransfer generation]
  | replacementBegun {slot atTime legId pendingKind transferDeadline} (generation : Nat)
      (guard : ReplaceGuard a slot atTime legId transferDeadline) :
      Move a (.beginLegReplacement atTime legId pendingKind transferDeadline)
        { ((a.core.setLeg slot (heldLeg (a.legAt slot) atTime
            ((a.legAt slot).replacementGenerationCursor + 1))).moveTo .transferring atTime).arm
            .transfer with
          replacement := some ⟨legId, (a.legAt slot).bindingGeneration,
            (a.legAt slot).replacementGenerationCursor + 1, pendingKind⟩ }
        [a.core.unbridgeSignal, .startLegReplacement legId (a.legAt slot).bindingGeneration
          ((a.legAt slot).replacementGenerationCursor + 1) pendingKind generation]
  | transferFinished {atTime supplied outcome} (guard : FinishTransferGuard a atTime supplied) :
      Move a (.finishTransfer atTime supplied outcome)
        ((a.core.disarm .transfer).moveTo .active atTime) (compensation outcome)
  | replacementFinished {slot atTime suppliedDeadline suppliedBinding replacement outcome}
      (guard : FinishReplacementGuard a slot atTime suppliedDeadline suppliedBinding replacement) :
      Move a (.finishLegReplacement atTime suppliedDeadline suppliedBinding outcome)
        ({ (a.core.disarm .transfer).setLeg slot
            (settledLeg (a.legAt slot) atTime replacement outcome) with
          replacement := none }.moveTo .active atTime)
        [settledEffect replacement outcome, a.core.bridgeSignal]
  | endingBegun {atTime endingDeadline reason} (guard : EndGuard a atTime endingDeadline) :
      Move a (.beginEnding atTime endingDeadline reason)
        (a.core.teardown atTime .ended endingDeadline) (a.core.endingSignals reason)
  | endingElapsed {atTime supplied endingDeadline}
      (guard : ElapsedGuard a atTime .ending supplied) :
      Move a (.deadlineElapsed atTime .ending supplied endingDeadline)
        ({ a.core.disarm .ending with
          left := failUnfinished a.left atTime
          right := failUnfinished a.right atTime
          outcome := some (.failed endingTimeout) }.close atTime) []
  | replacementElapsed {slot atTime supplied endingDeadline replacement}
      (guard : ElapsedGuard a atTime .transfer supplied)
      (pending : a.replacement = some replacement)
      (found : a.legIndex replacement.legId = .ok slot) :
      Move a (.deadlineElapsed atTime .transfer supplied endingDeadline)
        ({ (a.core.disarm .transfer).setLeg slot
            { a.legAt slot with state := .connected, stateChangedAt := atTime } with
          replacement := none }.moveTo .active atTime)
        [.abortLegReplacement replacement.legId replacement.pendingBindingGeneration,
          a.core.bridgeSignal]
  | elapsed {atTime kind supplied endingDeadline} (guard : ElapsedGuard a atTime kind supplied)
      (notEnding : kind ≠ .ending) (unreplaced : kind = .transfer → a.replacement = none) :
      Move a (.deadlineElapsed atTime kind supplied endingDeadline)
        ((a.core.disarm kind).teardown atTime (.failed (timeoutFailure kind)) endingDeadline)
        (timeoutCompensation kind ++ (a.core.disarm kind).endingSignals .deadlineExpired)

private theorem Draft.Shows.reconcileLegState {d result : Draft} {c sent} (shows' : d.Shows c sent)
    {slot atTime} (done : d.reconcileLegState slot atTime = .ok result) :
    (c.answered ∧
        result.Shows ((c.disarm .setup).moveTo .active atTime) (sent ++ [c.bridgeSignal])) ∨
      (¬ c.answered ∧ c.state = .ending ∧
        result.Shows ((c.recordFailure (c.legAt slot)).settle atTime) sent) ∨
      (¬ c.answered ∧ c.state ≠ .ending ∧
        (c.legAt slot).state ∈ [LegState.ending, .ended, .failed] ∧
        result.Shows (c.teardown atTime ((c.legAt slot).failure.elim .ended .failed) none)
          (sent ++ c.endingSignals
            (if (c.legAt slot).failure.isSome then .failure else .peerEnded))) ∨
      (¬ c.answered ∧ c.state ≠ .ending ∧
        (c.legAt slot).state ∉ [LegState.ending, .ended, .failed] ∧ result.Shows c sent) := by
  obtain ⟨rfl, rfl⟩ := shows'
  have answers : d.aggregate.core.answered ↔ d.aggregate.state = .connecting ∧
      d.aggregate.legs.all (fun leg => decide (leg.state = .connected)) = true := by
    simp [CallCore.answered, CallAggregate.core, legs]
  rw [answers, core_legAt]
  unfold Draft.reconcileLegState at done
  simp only at done
  split at done
  · rename_i answered
    cases done
    refine .inl ⟨answered, ?_⟩
    have cleared := (mk rfl rfl : d.Shows _ _).cancelDeadlineInternal .setup
    have moved := cleared.setState .active atTime
    have bridged : (((d.cancelDeadlineInternal .setup).setState .active
        atTime).aggregate.bridgeMediaEffect) = d.aggregate.core.bridgeSignal := by
      change CallCore.bridgeSignal (CallAggregate.core _) = _
      rw [moved.core]
      rfl
    rw [bridged]
    exact moved.push rfl
  · rename_i unanswered
    refine .inr ?_
    split at done
    · rename_i ending
      refine .inl ⟨unanswered, ending, ?_⟩
      have recorded : (d.recordFailure (d.aggregate.legAt slot)).Shows
          (d.aggregate.core.recordFailure (d.aggregate.legAt slot)) (signals d.effects) := by
        unfold recordFailure CallCore.recordFailure
        cases (d.aggregate.legAt slot).failure <;> exact ⟨rfl, rfl⟩
      rw [core_finished, recorded.core] at done
      unfold CallCore.settle
      split at done
      · rename_i finished
        cases done
        rw [if_pos finished]
        exact recorded.finalizeTerminal atTime
      · rename_i running
        cases done
        rw [if_neg running]
        exact recorded
    · rename_i early
      refine .inr ?_
      split at done
      · rename_i down
        exact .inl ⟨unanswered, early, down,
          (mk rfl rfl : d.Shows _ _).beginEndingInternal done⟩
      · rename_i up
        cases done
        exact .inr ⟨unanswered, early, up, rfl, rfl⟩

private theorem setLeg_shows (a : CallAggregate) (slot : LegSlot) (leg : Leg) :
    (Draft.mk (a.setLeg slot leg) []).Shows (a.core.setLeg slot leg) [] :=
  ⟨core_setLeg .., rfl⟩

private theorem bridgeSignal_setLeg {c : CallCore} {slot leg}
    (same : leg.id = (c.legAt slot).id) : (c.setLeg slot leg).bridgeSignal = c.bridgeSignal := by
  cases slot <;> simp_all [CallCore.setLeg, CallCore.bridgeSignal, CallCore.legAt]

namespace CallAggregate

variable {a : CallAggregate} {result : CommandResult} {atTime : Timestamp}

/-- An applied result shows a move of the call. -/
def Moves (a : CallAggregate) (command : CallCommand) (result : CommandResult) : Prop :=
  ∃ draft c sent, result = applied draft ∧ draft.Shows c sent ∧ Move a command c sent

variable {supplied : Nat}

private theorem setLegState_moves {legId next failure slot draft}
    (guard : ReportGuard a slot atTime legId supplied next failure)
    (reconciled : Draft.reconcileLegState
      ⟨a.setLeg slot (reportedLeg (a.legAt slot) atTime next failure), []⟩ slot atTime =
      .ok draft) : a.Moves (.setLegState atTime legId supplied next failure) (applied draft) := by
  have same : (reportedLeg (a.legAt slot) atTime next failure).id = (a.core.legAt slot).id := by
    rfl
  obtain ⟨answered, shows'⟩ | ⟨-, ending, shows'⟩ | ⟨-, early, down, shows'⟩ |
    ⟨unanswered, early, up, shows'⟩ := (setLeg_shows a _ _).reconcileLegState reconciled
  · rw [bridgeSignal_setLeg same] at shows'
    exact ⟨draft, _, _, rfl, shows', .answered guard answered⟩
  · have stopping : a.state = .ending := by simpa using ending
    have down : next ∈ [LegState.ending, .ended, .failed] := by
      have transition := guard.transition
      rw [guard.ending stopping] at transition
      rw [validLegTransition, decide_eq_true_eq] at transition
      simp [transition]
    simp only [setLeg_legAt] at shows'
    exact ⟨draft, _, _, rfl, shows', .drained (.reported guard down) stopping⟩
  · simp only [setLeg_legAt] at shows' down
    have open' : a.state ≠ .ending := by simpa using early
    exact ⟨draft, _, _, rfl, shows', .hungUp (.reported guard down) open'⟩
  · simp only [setLeg_legAt] at up
    have open' : a.state ≠ .ending := by simpa using early
    exact ⟨draft, _, _, rfl, shows', .reported guard up open' unanswered⟩

private theorem sourceTerminatedBeforeAnswer_moves {legId reason slot draft}
    (guard : SourceGuard a slot atTime legId supplied) (reconciled : Draft.reconcileLegState
      ⟨a.setLeg slot (terminatedSource (a.legAt slot) atTime reason), []⟩ slot atTime = .ok draft) :
    a.Moves (.sourceTerminatedBeforeAnswer atTime legId supplied reason) (applied draft) := by
  have terminal : (terminatedSource (a.legAt slot) atTime reason).state ∈
      [LegState.ended, .failed] := by
    unfold terminatedSource
    cases reason <;> simp
  have unanswered :
      ¬ (a.core.setLeg slot (terminatedSource (a.legAt slot) atTime reason)).answered := by
    rintro ⟨-, left, right⟩
    cases slot with
    | left => simp [show (terminatedSource _ _ _).state = _ from left] at terminal
    | right => simp [show (terminatedSource _ _ _).state = _ from right] at terminal
  obtain ⟨answered, -⟩ | ⟨-, ending, shows'⟩ | ⟨-, early, -, shows'⟩ | ⟨-, -, up, -⟩ :=
    (setLeg_shows a slot _).reconcileLegState reconciled
  · exact absurd answered unanswered
  · simp only [setLeg_legAt] at shows'
    exact ⟨draft, _, _, rfl, shows', .drained (.source guard) (by simpa using ending)⟩
  · simp only [setLeg_legAt] at shows'
    exact ⟨draft, _, _, rfl, shows', .hungUp (.source guard) (by simpa using early)⟩
  · refine absurd ?_ up
    simp only [setLeg_legAt]
    exact List.mem_cons_of_mem _ terminal

private theorem startLeg_isDeadline (leg : Leg) (atTime : Timestamp) :
    (startLeg leg atTime).2.isDeadline = false := by
  unfold startLeg
  split <;> rfl

private theorem startConnecting_moves {setupDeadline armed}
    (guard : StartGuard a atTime setupDeadline) (scheduled : Draft.armDeadlineInternal
      ⟨{ a.setCallState .connecting atTime with
          left := (startLeg a.left atTime).1, right := (startLeg a.right atTime).1 },
        [(startLeg a.left atTime).2, (startLeg a.right atTime).2]⟩ .setup setupDeadline =
      .ok armed) : a.Moves (.startConnecting atTime setupDeadline) (applied armed.2) := by
  have shows' : Draft.Shows
      ⟨{ a.setCallState .connecting atTime with
          left := (startLeg a.left atTime).1, right := (startLeg a.right atTime).1 },
        [(startLeg a.left atTime).2, (startLeg a.right atTime).2]⟩
      ({ a.core with
        left := (startLeg a.left atTime).1
        right := (startLeg a.right atTime).1 }.moveTo .connecting atTime)
      [(startLeg a.left atTime).2, (startLeg a.right atTime).2] := by
    refine ⟨?_, by simp [startLeg_isDeadline]⟩
    have moved := congrArg (fun c : CallCore => { c with
      left := (startLeg a.left atTime).1
      right := (startLeg a.right atTime).1 }) (core_setCallState a .connecting atTime)
    exact moved
  exact ⟨_, _, _, rfl, shows'.armDeadlineInternal scheduled, .started guard⟩

private theorem beginLegReplacement_moves {legId pendingKind transferDeadline}
    (done : a.beginLegReplacement atTime legId pendingKind transferDeadline = .ok result) :
    a.Moves (.beginLegReplacement atTime legId pendingKind transferDeadline) result := by
  obtain ⟨slot, armed, guard, scheduled, rfl⟩ := beginLegReplacement_cases done
  generalize pending : (a.legAt slot).replacementGenerationCursor + 1 = generation at scheduled
  have core : (a.holdLeg atTime slot generation).core =
      (a.core.setLeg slot (heldLeg (a.legAt slot) atTime generation)).moveTo .transferring
        atTime := by
    simp [holdLeg]
  have unbridged : (a.holdLeg atTime slot generation).unbridgeMediaEffect =
      a.core.unbridgeSignal := by
    change CallCore.unbridgeSignal (CallAggregate.core _) = _
    rw [core]
    cases slot <;> rfl
  have held : Draft.Shows ⟨a.holdLeg atTime slot generation,
      [(a.holdLeg atTime slot generation).unbridgeMediaEffect]⟩ _ [a.core.unbridgeSignal] :=
    ⟨core, by rw [unbridged]; rfl⟩
  have rearmed := held.armDeadlineInternal scheduled
  have begun : Move a (.beginLegReplacement atTime legId pendingKind transferDeadline) _ _ :=
    .replacementBegun armed.1 guard
  refine ⟨_, _, _, rfl, ⟨?_, ?_⟩, begun⟩
  · have withReplacement := congrArg (fun c : CallCore => { c with
      replacement := some (LegReplacement.mk legId (a.legAt slot).bindingGeneration generation
        pendingKind) }) rearmed.core
    rw [pending]
    exact withReplacement
  · rw [signals_append, rearmed.sends, pending]
    rfl

private theorem finishTransfer_moves {outcome} (guard : FinishTransferGuard a atTime supplied) :
    a.Moves (.finishTransfer atTime supplied outcome)
      (applied ((a.finishedTransfer outcome).setState .active atTime)) := by
  have cleared := (Draft.Shows.mk rfl rfl : (Draft.mk a []).Shows a.core []).cancelDeadlineInternal
    .transfer
  have finished : (a.finishedTransfer outcome).Shows (a.core.disarm .transfer)
      (compensation outcome) := by
    cases outcome with
    | rejected => exact cleared.push rfl
    | completed => exact cleared
  exact ⟨_, _, _, rfl, finished.setState .active atTime, .transferFinished guard⟩

private theorem finishLegReplacement_moves
    {suppliedDeadline suppliedBinding outcome slot replacement settled}
    (guard : FinishReplacementGuard a slot atTime suppliedDeadline suppliedBinding replacement)
    (same : settled = (a.settledReplacement atTime slot replacement outcome).setState .active
      atTime) :
    a.Moves (.finishLegReplacement atTime suppliedDeadline suppliedBinding outcome)
      (applied (settled.push settled.aggregate.bridgeMediaEffect)) := by
  have cleared := (Draft.Shows.mk rfl rfl : (Draft.mk a []).Shows a.core []).cancelDeadlineInternal
    .transfer
  have dropped : (a.settledReplacement atTime slot replacement outcome).Shows
      { (a.core.disarm .transfer).setLeg slot
          (settledLeg (a.legAt slot) atTime replacement outcome) with replacement := none }
      [settledEffect replacement outcome] := by
    constructor
    · have withoutReplacement := congrArg (fun c : CallCore =>
        { c.setLeg slot (settledLeg (a.legAt slot) atTime replacement outcome) with
          replacement := none }) cleared.core
      rw [← core_setLeg] at withoutReplacement
      exact withoutReplacement
    · change signals ((Draft.cancelDeadlineInternal ⟨a, []⟩ .transfer).effects ++ _) = _
      rw [signals_append, cleared.sends]
      cases outcome <;> rfl
  have moved := dropped.setState .active atTime
  rw [← same] at moved
  have bridged : settled.aggregate.bridgeMediaEffect = a.core.bridgeSignal := by
    change CallCore.bridgeSignal (core _) = _
    rw [moved.core]
    cases slot <;> cases outcome <;> rfl
  rw [bridged]
  exact ⟨_, _, _, rfl, moved.push rfl, .replacementFinished guard⟩

private theorem core_firedDraft (a : CallAggregate) (kind : DeadlineKind) :
    (a.firedDraft kind).aggregate.core = a.core.disarm kind := by
  rw [firedDraft, Draft.core_setSlot]
  refine ext rfl rfl rfl rfl rfl (funext fun other => ?_) rfl
  by_cases same : other = kind <;> simp [disarm, same]

private theorem deadlineElapsed_moves {kind endingDeadline}
    (done : a.deadlineElapsed atTime kind supplied endingDeadline = .ok result) :
    Ignores a result ∨ a.Moves (.deadlineElapsed atTime kind supplied endingDeadline) result := by
  obtain ⟨ignores, -⟩ | ⟨guard, ⟨rfl, rfl⟩ | ⟨slot, replacement, rfl, pending, found, rfl⟩ |
    ⟨_, notEnding, unreplaced, ended, rfl⟩⟩ := deadlineElapsed_cases done
  · exact .inl ignores
  · have forced := congrArg (fun c : CallCore => { c with
      left := failUnfinished a.left atTime
      right := failUnfinished a.right atTime
      outcome := some (.failed endingTimeout) }) (core_firedDraft a .ending)
    have shows' : (Draft.mk (a.timedOut atTime) []).Shows _ [] := ⟨forced, rfl⟩
    exact .inr ⟨_, _, _, rfl, shows'.finalizeTerminal atTime, .endingElapsed guard⟩
  · have core : (a.restoredCall atTime slot).core =
        moveTo { (a.core.disarm .transfer).setLeg slot
          { a.legAt slot with state := .connected, stateChangedAt := atTime } with
          replacement := none } .active atTime := by
      rw [restoredCall, core_setCallState, core_setLeg]
      have dropped := congrArg (fun c : CallCore => CallCore.setLeg { c with replacement := none }
        slot { a.legAt slot with state := .connected, stateChangedAt := atTime })
        (core_firedDraft a .transfer)
      refine congrArg (fun c : CallCore => c.moveTo .active atTime) (dropped.trans ?_)
      cases slot <;> rfl
    refine .inr ⟨_, _, _, rfl, ⟨core, ?_⟩, .replacementElapsed guard pending found⟩
    have bridged : (a.restoredCall atTime slot).bridgeMediaEffect = a.core.bridgeSignal := by
      change CallCore.bridgeSignal (CallAggregate.core _) = _
      rw [core]
      cases slot <;> rfl
    rw [bridged]
    rfl
  · have fired : (a.timeoutDraft kind).Shows (a.core.disarm kind) (timeoutCompensation kind) := by
      unfold timeoutDraft timeoutCompensation
      split
      · exact ⟨core_firedDraft a kind, rfl⟩
      · exact ⟨core_firedDraft a kind, rfl⟩
    exact .inr ⟨_, _, _, rfl, fired.beginEndingInternal ended,
      .elapsed guard notEnding unreplaced⟩

theorem applyCommand_moves {command} (done : a.applyCommand command = .ok result) :
    Ignores a result ∨ a.Moves command result := by
  have start : (Draft.mk a []).Shows a.core [] := ⟨rfl, rfl⟩
  cases command with
  | startConnecting =>
    obtain ⟨armed, guard, scheduled, rfl⟩ := startConnecting_cases done
    exact .inr (startConnecting_moves guard scheduled)
  | setLegState =>
    obtain ignores | ⟨slot, draft, guard, reconciled, rfl⟩ := setLegState_cases done
    · exact .inl ignores
    · exact .inr (setLegState_moves guard reconciled)
  | sourceTerminatedBeforeAnswer =>
    obtain ignores | ⟨slot, draft, guard, reconciled, rfl⟩ :=
      sourceTerminatedBeforeAnswer_cases done
    · exact .inl ignores
    · exact .inr (sourceTerminatedBeforeAnswer_moves guard reconciled)
  | providerMediaStarted =>
    obtain ignores | ⟨slot, guard, rfl⟩ := providerMediaStarted_cases done
    · exact .inl ignores
    · exact .inr ⟨_, _, _, rfl, (setLeg_shows a _ _).push rfl, .mediaStarted guard⟩
  | providerMediaAttached =>
    obtain ⟨slot, guard, rfl⟩ | ⟨guard, rfl⟩ := providerMediaAttached_cases done
    · exact .inr ⟨_, _, _, rfl, setLeg_shows a _ _, .mediaAttached guard⟩
    · exact .inr ⟨_, _, _, rfl, start, .replacementAttached guard⟩
  | rotateLegBinding =>
    obtain ignores | ⟨slot, guard, rfl⟩ := rotateLegBinding_cases done
    · exact .inl ignores
    · exact .inr ⟨_, _, _, rfl, (setLeg_shows a _ _).push rfl, .rotated guard⟩
  | armDeadline =>
    obtain ⟨armed, guard, scheduled, rfl⟩ := armDeadlineCommand_cases done
    exact .inr ⟨_, _, _, rfl, start.armDeadlineInternal scheduled, .rearmed guard⟩
  | beginTransfer t =>
    obtain ⟨armed, guard, scheduled, rfl⟩ := beginTransfer_cases done
    have moved := start.setState .transferring t
    exact .inr ⟨_, _, _, rfl, (moved.armDeadlineInternal scheduled).push rfl,
      .transferBegun armed.1 guard⟩
  | beginLegReplacement => exact .inr (beginLegReplacement_moves done)
  | finishTransfer =>
    obtain ignores | ⟨guard, rfl⟩ := finishTransfer_cases done
    · exact .inl ignores
    · exact .inr (finishTransfer_moves guard)
  | finishLegReplacement =>
    obtain ignores | ⟨slot, _, _, guard, same, rfl⟩ :=
      finishLegReplacement_cases done
    · exact .inl ignores
    · exact .inr (finishLegReplacement_moves guard same)
  | beginEnding =>
    obtain ignores | ⟨draft, guard, ended, rfl⟩ := beginEndingCommand_cases done
    · exact .inl ignores
    · exact .inr ⟨_, _, _, rfl, start.beginEndingInternal ended, .endingBegun guard⟩
  | deadlineElapsed => exact deadlineElapsed_moves done

/-- A decided command leaves the call as it was and says nothing, or is one move of it. -/
theorem decide_moves {command decision} (done : a.decide command = .ok decision) :
    (decision.disposition ≠ .applied ∧ decision.aggregate = a ∧ decision.effects = []) ∨
      (decision.disposition = .applied ∧
        Move a command decision.aggregate.core (signals decision.effects)) := by
  simp only [decide, bind_eq_ok, exists_unit, pure_eq_ok] at done
  obtain ⟨_, ran, _, advanced, -, rfl⟩ := done
  obtain ⟨_, other, rfl⟩ | ⟨_, c, _, rfl, ⟨rfl, rfl⟩, move⟩ :=
    applyCommand_moves ran
  · rw [if_neg (by exact other), pure_eq_ok] at advanced
    exact .inl ⟨other, advanced.symm, rfl⟩
  · rw [if_pos (by rfl)] at advanced
    simp only [bind_eq_ok, pure_eq_ok] at advanced
    obtain ⟨_, -, rfl⟩ := advanced
    exact .inr ⟨rfl, move⟩

end CallAggregate

end Bridgefu.CallEngine
