/- digest: Reading a decided command back: what was checked and which draft came out. -/

import Bridgefu.CallEngine.Decide

/-!
One lemma per command. Either the command was ignored, or every check passed and the draft is the
stated one. The checks of a command are the fields of its guard. Later arguments split on these
cases and never unfold a command again.
-/

set_option autoImplicit false

namespace Bridgefu.CallEngine.CallAggregate

open Lib

variable {a : CallAggregate} {result : CommandResult} {atTime : Timestamp}

/-- The command changed nothing. -/
def Ignores (a : CallAggregate) (result : CommandResult) : Prop :=
  ∃ disposition, disposition ≠ .applied ∧ result = ignored a disposition

variable {legId : LegId} {kind : DeadlineKind} {supplied : Nat}

private theorem compareBindingGeneration_ok {current supplied found}
    (done : compareBindingGeneration legId current supplied = .ok found) :
    (found = some .ignoredStaleGeneration ∧ supplied < current) ∨
      (found = none ∧ supplied = current) := by
  unfold compareBindingGeneration at done
  split at done
  · cases done
    exact .inl ⟨rfl, ‹_›⟩
  · split_ifs at done
    cases done
    exact .inr ⟨rfl, by omega⟩

private theorem compareDeadlineGeneration_ok {found}
    (done : a.compareDeadlineGeneration kind supplied = .ok found) :
    (found = some .ignoredStaleGeneration ∧ supplied < (a.deadlines.get kind).generation) ∨
      (found = none ∧ supplied = (a.deadlines.get kind).generation) := by
  unfold compareDeadlineGeneration at done
  simp only at done
  split at done
  · cases done
    exact .inl ⟨rfl, ‹_›⟩
  · split_ifs at done
    cases done
    exact .inr ⟨rfl, by omega⟩

structure StartGuard (a : CallAggregate) (atTime setupDeadline : Timestamp) : Prop where
  timely : a.updatedAt ≤ atTime
  pending : a.state = .pending
  future : atTime < setupDeadline

theorem startConnecting_cases {setupDeadline}
    (done : a.startConnecting atTime setupDeadline = .ok result) :
    ∃ armed, StartGuard a atTime setupDeadline ∧
      Draft.armDeadlineInternal
        ⟨{ a.setCallState .connecting atTime with
            left := (startLeg a.left atTime).1, right := (startLeg a.right atTime).1 },
          [(startLeg a.left atTime).2, (startLeg a.right atTime).2]⟩ .setup setupDeadline =
        .ok armed ∧ result = applied armed.2 := by
  simp only [startConnecting, ensureTimestamp, bind_eq_ok, exists_unit, pure_eq_ok, reject_eq_ok,
    not_not, Int.not_lt, Int.not_le] at done
  obtain ⟨timely, pending, future, armed, scheduled, rfl⟩ := done
  exact ⟨armed, ⟨timely, pending, future⟩, scheduled, rfl⟩

structure ReportGuard (a : CallAggregate) (slot : LegSlot) (atTime : Timestamp) (legId : LegId)
    (supplied : Nat) (next : LegState) (failure : Option FailureDetails) : Prop where
  found : a.legIndex legId = .ok slot
  current : supplied = (a.legAt slot).bindingGeneration
  timely : a.updatedAt ≤ atTime
  goesOn : a.state.isTerminal = false
  started : a.state ≠ .pending
  detailed : next = .failed ↔ failure ≠ none
  changes : (a.legAt slot).state ≠ next
  transition : validLegTransition (a.legAt slot).state next = true
  ending : a.state = .ending → (a.legAt slot).state = .ending

theorem setLegState_cases {next failure}
    (done : a.setLegState atTime legId supplied next failure = .ok result) :
    Ignores a result ∨ ∃ slot draft, ReportGuard a slot atTime legId supplied next failure ∧
      Draft.reconcileLegState
        ⟨a.setLeg slot (reportedLeg (a.legAt slot) atTime next failure), []⟩ slot atTime =
        .ok draft ∧ result = applied draft := by
  simp only [setLegState, bind_eq_ok] at done
  obtain ⟨slot, found, _, compared, done⟩ := done
  obtain ⟨rfl, -⟩ | ⟨rfl, current⟩ := compareBindingGeneration_ok compared
  · cases done
    exact .inl ⟨_, by decide, rfl⟩
  · simp only [ensureTimestamp, bind_eq_ok, exists_unit, reject_eq_ok, not_or, not_and,
      Bool.not_eq_true, Int.not_lt] at done
    obtain ⟨timely, ⟨goesOn, started⟩, required, unexpected, done⟩ := done
    split_ifs at done with changes
    · cases done
      exact .inl ⟨_, by decide, rfl⟩
    · simp only [bind_eq_ok, exists_unit, pure_eq_ok, reject_eq_ok, Bool.not_eq_false, not_and,
        not_not] at done
      obtain ⟨transition, ending, draft, reconciled, rfl⟩ := done
      have detailed : next = .failed ↔ failure ≠ none :=
        ⟨required, fun given => Decidable.byContradiction fun other => unexpected other given⟩
      exact .inr ⟨slot, draft, ⟨found, current, timely, goesOn, started, detailed, changes,
        transition, ending⟩, reconciled, rfl⟩

def terminatedSource (leg : Leg) (atTime : Timestamp) (reason : SourceBeforeAnswerTermination) :
    Leg :=
  let failure := if reason = .failed then some sourceFailedBeforeAnswer else none
  { leg with
    state := if failure.isSome then .failed else .ended
    stateChangedAt := atTime
    endedAt := some atTime
    failure := failure }

structure SourceGuard (a : CallAggregate) (slot : LegSlot) (atTime : Timestamp) (legId : LegId)
    (supplied : Nat) : Prop where
  found : a.legIndex legId = .ok slot
  current : supplied = (a.legAt slot).bindingGeneration
  timely : a.updatedAt ≤ atTime
  remote : (a.legAt slot).signalingInitiator = .remote
  early : a.state ∈ [CallState.connecting, .ending]
  unanswered : (a.legAt slot).state ∈ [LegState.pending, .awaitingAttach, .signaling, .ending]

theorem sourceTerminatedBeforeAnswer_cases {reason}
    (done : a.sourceTerminatedBeforeAnswer atTime legId supplied reason = .ok result) :
    Ignores a result ∨ ∃ slot draft, SourceGuard a slot atTime legId supplied ∧
      Draft.reconcileLegState
        ⟨a.setLeg slot (terminatedSource (a.legAt slot) atTime reason), []⟩ slot atTime =
        .ok draft ∧ result = applied draft := by
  simp only [sourceTerminatedBeforeAnswer, bind_eq_ok] at done
  obtain ⟨slot, found, _, compared, done⟩ := done
  obtain ⟨rfl, -⟩ | ⟨rfl, current⟩ := compareBindingGeneration_ok compared
  · cases done
    exact .inl ⟨_, by decide, rfl⟩
  · simp only [ensureTimestamp, bind_eq_ok, exists_unit, reject_eq_ok, Int.not_lt,
      not_not] at done
    obtain ⟨timely, remote, done⟩ := done
    split at done
    · cases done
      exact .inl ⟨_, by decide, rfl⟩
    · simp only [bind_eq_ok, exists_unit, pure_eq_ok, reject_eq_ok, not_or,
        not_not] at done
      obtain ⟨⟨early, unanswered⟩, draft, reconciled, rfl⟩ := done
      exact .inr ⟨slot, draft, ⟨found, current, timely, remote, early, unanswered⟩, reconciled,
        rfl⟩

/-- Media of an outbound Telnyx leg that is being set up. -/
structure MediaGuard (a : CallAggregate) (slot : LegSlot) (atTime : Timestamp) (legId : LegId)
    (supplied : Nat) : Prop where
  found : a.legIndex legId = .ok slot
  current : supplied = (a.legAt slot).bindingGeneration
  timely : a.updatedAt ≤ atTime
  connecting : a.state = .connecting
  outbound : (a.legAt slot).direction = .outbound
  telnyx : (a.legAt slot).kind = .telnyx
  early : (a.legAt slot).state ∈ [LegState.pending, .signaling]

theorem providerMediaStarted_cases
    (done : a.providerMediaStarted atTime legId supplied = .ok result) :
    Ignores a result ∨ ∃ slot, MediaGuard a slot atTime legId supplied ∧
      result = applied ⟨a.setLeg slot (signalIfPending (a.legAt slot) atTime),
        [.connectProviderDestination legId supplied]⟩ := by
  simp only [providerMediaStarted, bind_eq_ok] at done
  obtain ⟨slot, found, _, compared, done⟩ := done
  obtain ⟨rfl, -⟩ | ⟨rfl, current⟩ := compareBindingGeneration_ok compared
  · cases done
    exact .inl ⟨_, by decide, rfl⟩
  · simp only [ensureTimestamp, bind_eq_ok, exists_unit, pure_eq_ok, reject_eq_ok, not_or,
      not_not, Int.not_lt] at done
    obtain ⟨timely, ⟨connecting, outbound, telnyx, early⟩, rfl⟩ := done
    exact .inr ⟨slot, ⟨found, current, timely, connecting, outbound, telnyx, early⟩, rfl⟩

structure ReplacementMediaGuard (a : CallAggregate) (atTime : Timestamp) (legId : LegId)
    (supplied : Nat) : Prop where
  timely : a.updatedAt ≤ atTime
  transferring : a.state = .transferring
  replacement : ∃ replacement, a.replacement = some replacement ∧ replacement.legId = legId ∧
    replacement.pendingKind = .telnyx ∧ replacement.pendingBindingGeneration = supplied

theorem providerMediaAttached_cases
    (done : a.providerMediaAttached atTime legId supplied = .ok result) :
    (∃ slot, MediaGuard a slot atTime legId supplied ∧
        result = applied ⟨a.setLeg slot (signalIfPending (a.legAt slot) atTime), []⟩) ∨
      (ReplacementMediaGuard a atTime legId supplied ∧ result = applied ⟨a, []⟩) := by
  simp only [providerMediaAttached, ensureTimestamp, bind_eq_ok, exists_unit, pure_eq_ok,
    reject_eq_ok, Int.not_lt] at done
  obtain ⟨timely, slot, found, accepted, rfl⟩ := done
  split_ifs with ordinary
  · obtain ⟨connecting, outbound, telnyx, current, early⟩ := of_decide_eq_true ordinary
    exact .inl ⟨slot, ⟨found, current.symm, timely, connecting, outbound, telnyx, early⟩, rfl⟩
  · have replacing := not_not.mp fun refused => accepted ⟨ordinary, refused⟩
    obtain ⟨transferring, pending⟩ := of_decide_eq_true replacing
    rw [Option.any_eq_true] at pending
    obtain ⟨replacement, isSome, agrees⟩ := pending
    exact .inr ⟨⟨timely, transferring, replacement, isSome, of_decide_eq_true agrees⟩, rfl⟩

/-- A leg sent back to wait for an attachment of the next generation. -/
def rotatedLeg (leg : Leg) (atTime : Timestamp) (generation : Nat) : Leg :=
  { leg with
    bindingGeneration := generation
    storedReplacementCursor :=
      if leg.storedReplacementCursor.any (· < generation) then some generation
      else leg.storedReplacementCursor
    state := .awaitingAttach
    stateChangedAt := atTime }

structure RotateGuard (a : CallAggregate) (slot : LegSlot) (atTime : Timestamp) (legId : LegId)
    (supplied : Nat) : Prop where
  found : a.legIndex legId = .ok slot
  current : supplied = (a.legAt slot).bindingGeneration
  timely : a.updatedAt ≤ atTime
  connecting : a.state = .connecting
  early : (a.legAt slot).state ∈ [LegState.awaitingAttach, .signaling]

theorem rotateLegBinding_cases (done : a.rotateLegBinding atTime legId supplied = .ok result) :
    Ignores a result ∨ ∃ slot, RotateGuard a slot atTime legId supplied ∧
      result = applied
        ⟨a.setLeg slot (rotatedLeg (a.legAt slot) atTime ((a.legAt slot).bindingGeneration + 1)),
          [.awaitLegAttachment legId ((a.legAt slot).bindingGeneration + 1)]⟩ := by
  simp only [rotateLegBinding, bind_eq_ok] at done
  obtain ⟨slot, found, _, compared, done⟩ := done
  obtain ⟨rfl, -⟩ | ⟨rfl, current⟩ := compareBindingGeneration_ok compared
  · cases done
    exact .inl ⟨_, by decide, rfl⟩
  · simp only [ensureTimestamp, bind_eq_ok, exists_unit, pure_eq_ok, reject_eq_ok, not_or,
      not_not, Int.not_lt, nextBindingGeneration, nextGeneration_eq_ok] at done
    obtain ⟨timely, ⟨connecting, early⟩, _, ⟨-, rfl⟩, rfl⟩ := done
    exact .inr ⟨slot, ⟨found, current, timely, connecting, early⟩, rfl⟩

structure ArmGuard (a : CallAggregate) (atTime : Timestamp) (kind : DeadlineKind)
    (dueAt : Timestamp) : Prop where
  timely : a.updatedAt ≤ atTime
  allowed : deadlineAllowedIn kind a.state = true
  future : atTime < dueAt

theorem armDeadlineCommand_cases {dueAt}
    (done : a.armDeadlineCommand atTime kind dueAt = .ok result) :
    ∃ armed, ArmGuard a atTime kind dueAt ∧
      Draft.armDeadlineInternal ⟨a, []⟩ kind dueAt = .ok armed ∧ result = applied armed.2 := by
  simp only [armDeadlineCommand, ensureTimestamp, bind_eq_ok, exists_unit, pure_eq_ok,
    reject_eq_ok, not_not, Int.not_lt, Int.not_le] at done
  obtain ⟨timely, allowed, future, armed, scheduled, rfl⟩ := done
  exact ⟨armed, ⟨timely, allowed, future⟩, scheduled, rfl⟩

structure TransferGuard (a : CallAggregate) (atTime transferDeadline : Timestamp) : Prop where
  timely : a.updatedAt ≤ atTime
  active : a.state = .active
  future : atTime < transferDeadline

theorem beginTransfer_cases {transferDeadline}
    (done : a.beginTransfer atTime transferDeadline = .ok result) :
    ∃ armed, TransferGuard a atTime transferDeadline ∧
      Draft.armDeadlineInternal ⟨a.setCallState .transferring atTime, []⟩ .transfer
        transferDeadline = .ok armed ∧
      result = applied (armed.2.push (.executeTransfer armed.1)) := by
  simp only [beginTransfer, ensureTimestamp, bind_eq_ok, exists_unit, pure_eq_ok, reject_eq_ok,
    not_not, Int.not_lt, Int.not_le] at done
  obtain ⟨timely, active, future, armed, scheduled, rfl⟩ := done
  exact ⟨armed, ⟨timely, active, future⟩, scheduled, rfl⟩

/-- A connected leg put on hold for a replacement of the given generation. -/
def heldLeg (leg : Leg) (atTime : Timestamp) (pending : Nat) : Leg :=
  { leg with state := .held, stateChangedAt := atTime, storedReplacementCursor := some pending }

/-- The call after the leg was put on hold, before the transfer deadline is armed. -/
def holdLeg (a : CallAggregate) (atTime : Timestamp) (slot : LegSlot) (pending : Nat) :
    CallAggregate :=
  (a.setLeg slot (heldLeg (a.legAt slot) atTime pending)).setCallState .transferring atTime

structure ReplaceGuard (a : CallAggregate) (slot : LegSlot) (atTime : Timestamp) (legId : LegId)
    (transferDeadline : Timestamp) : Prop where
  timely : a.updatedAt ≤ atTime
  active : a.state = .active
  unreplaced : a.replacement = none
  future : atTime < transferDeadline
  found : a.legIndex legId = .ok slot
  connected : (a.legAt slot).state = .connected

theorem beginLegReplacement_cases {pendingKind transferDeadline}
    (done : a.beginLegReplacement atTime legId pendingKind transferDeadline = .ok result) :
    ∃ slot armed, ReplaceGuard a slot atTime legId transferDeadline ∧
      Draft.armDeadlineInternal
        ⟨a.holdLeg atTime slot ((a.legAt slot).replacementGenerationCursor + 1),
          [(a.holdLeg atTime slot
            ((a.legAt slot).replacementGenerationCursor + 1)).unbridgeMediaEffect]⟩
        .transfer transferDeadline = .ok armed ∧
      result = applied
        { aggregate := { armed.2.aggregate with
            replacement := some ⟨legId, (a.legAt slot).bindingGeneration,
              (a.legAt slot).replacementGenerationCursor + 1, pendingKind⟩ }
          effects := armed.2.effects ++ [.startLegReplacement legId
            (a.legAt slot).bindingGeneration ((a.legAt slot).replacementGenerationCursor + 1)
            pendingKind armed.1] } := by
  simp only [beginLegReplacement, ensureTimestamp, bind_eq_ok, exists_unit, pure_eq_ok,
    reject_eq_ok, not_or, not_not, Int.not_lt, Int.not_le, nextBindingGeneration,
    nextGeneration_eq_ok] at done
  obtain ⟨timely, ⟨active, unreplaced⟩, future, slot, found, connected, _, ⟨-, rfl⟩, armed,
    scheduled, rfl⟩ := done
  exact ⟨slot, armed, ⟨timely, active, unreplaced, future, found, connected⟩, scheduled, rfl⟩

/-- The draft of a finished transfer, before the call returns to the active state. -/
def finishedTransfer (a : CallAggregate) (outcome : TransferResult) : Draft :=
  let draft := Draft.cancelDeadlineInternal ⟨a, []⟩ .transfer
  match outcome with
  | .rejected failure => draft.push (.compensateTransfer failure)
  | .completed => draft

structure FinishTransferGuard (a : CallAggregate) (atTime : Timestamp) (supplied : Nat) :
    Prop where
  current : supplied = (a.deadlines.get .transfer).generation
  timely : a.updatedAt ≤ atTime
  unreplaced : a.replacement = none
  transferring : a.state = .transferring
  armed : (a.deadlines.get .transfer).dueAt ≠ none

theorem finishTransfer_cases {outcome}
    (done : a.finishTransfer atTime supplied outcome = .ok result) :
    Ignores a result ∨ (FinishTransferGuard a atTime supplied ∧
      result = applied ((a.finishedTransfer outcome).setState .active atTime)) := by
  rw [finishTransfer, bind_eq_ok] at done
  obtain ⟨_, compared, done⟩ := done
  obtain ⟨rfl, -⟩ | ⟨rfl, current⟩ := compareDeadlineGeneration_ok compared
  · cases done
    exact .inl ⟨_, by decide, rfl⟩
  · simp only [ensureTimestamp, bind_eq_ok, exists_unit, reject_eq_ok, not_not,
      Int.not_lt] at done
    obtain ⟨timely, unreplaced, done⟩ := done
    split at done
    · cases done
      exact .inl ⟨_, by decide, rfl⟩
    · rw [bind_eq_ok, exists_unit, pure_eq_ok, reject_eq_ok, not_or,
        not_not] at done
      obtain ⟨⟨transferring, armed⟩, rfl⟩ := done
      exact .inr ⟨⟨current, timely, unreplaced, transferring, armed⟩, rfl⟩

/-- The leg after its replacement was connected or rejected. -/
def settledLeg (leg : Leg) (atTime : Timestamp) (replacement : LegReplacement) :
    LegReplacementResult → Leg
  | .connected =>
    { leg with
      kind := replacement.pendingKind
      bindingGeneration := replacement.pendingBindingGeneration
      state := .connected
      stateChangedAt := atTime
      failure := none }
  | .rejected _ => { leg with state := .connected, stateChangedAt := atTime }

def settledEffect (replacement : LegReplacement) : LegReplacementResult → EffectIntent
  | .connected =>
    .stopLeg replacement.legId replacement.previousBindingGeneration .requested
  | .rejected _ =>
    .abortLegReplacement replacement.legId replacement.pendingBindingGeneration

/-- The draft of a settled replacement, before the call returns to the active state. -/
def settledReplacement (a : CallAggregate) (atTime : Timestamp) (slot : LegSlot)
    (replacement : LegReplacement) (outcome : LegReplacementResult) : Draft :=
  let draft := Draft.cancelDeadlineInternal ⟨a, []⟩ .transfer
  { aggregate :=
      { draft.aggregate.setLeg slot (settledLeg (a.legAt slot) atTime replacement outcome) with
        replacement := none }
    effects := draft.effects ++ [settledEffect replacement outcome] }

structure FinishReplacementGuard (a : CallAggregate) (slot : LegSlot) (atTime : Timestamp)
    (suppliedDeadline suppliedBinding : Nat) (replacement : LegReplacement) : Prop where
  current : suppliedDeadline = (a.deadlines.get .transfer).generation
  timely : a.updatedAt ≤ atTime
  pending : a.replacement = some replacement
  transferring : a.state = .transferring
  armed : (a.deadlines.get .transfer).dueAt ≠ none
  generation : suppliedBinding = replacement.pendingBindingGeneration
  found : a.legIndex replacement.legId = .ok slot

theorem finishLegReplacement_cases {suppliedDeadline suppliedBinding outcome}
    (done : a.finishLegReplacement atTime suppliedDeadline suppliedBinding outcome = .ok result) :
    Ignores a result ∨ ∃ slot replacement settled,
      FinishReplacementGuard a slot atTime suppliedDeadline suppliedBinding replacement ∧
      settled = (a.settledReplacement atTime slot replacement outcome).setState .active atTime ∧
      result = applied (settled.push settled.aggregate.bridgeMediaEffect) := by
  rw [finishLegReplacement, bind_eq_ok] at done
  obtain ⟨found, compared, done⟩ := done
  obtain ⟨rfl, -⟩ | ⟨rfl, current⟩ := compareDeadlineGeneration_ok compared
  · cases done
    exact .inl ⟨_, by decide, rfl⟩
  rw [ensureTimestamp, bind_eq_ok, exists_unit, reject_eq_ok, Int.not_lt] at done
  obtain ⟨timely, done⟩ := done
  split at done
  · split_ifs at done
    cases done
    exact .inl ⟨_, by decide, rfl⟩
  · rename_i replacement pending
    rw [bind_eq_ok, exists_unit, reject_eq_ok, not_or, not_not] at done
    obtain ⟨⟨transferring, armed⟩, done⟩ := done
    split_ifs at done with notOlder
    · cases done
      exact .inl ⟨_, by decide, rfl⟩
    · simp only [bind_eq_ok, exists_unit, pure_eq_ok, reject_eq_ok] at done
      obtain ⟨_, slot, found, rfl⟩ := done
      have generation : suppliedBinding = replacement.pendingBindingGeneration := by omega
      refine .inr ⟨slot, replacement, _,
        ⟨current, timely, pending, transferring, armed, generation, found⟩, rfl, ?_⟩
      cases outcome <;> rfl

structure EndGuard (a : CallAggregate) (atTime : Timestamp) (endingDeadline : Option Timestamp) :
    Prop where
  timely : a.updatedAt ≤ atTime
  goesOn : a.state.isTerminal = false
  changes : a.state = .ending → endingDeadline ≠ none
  future : ∀ deadline, endingDeadline = some deadline → atTime < deadline

theorem beginEndingCommand_cases {endingDeadline reason}
    (done : a.beginEndingCommand atTime endingDeadline reason = .ok result) :
    Ignores a result ∨ ∃ draft, EndGuard a atTime endingDeadline ∧
      Draft.beginEndingInternal ⟨a, []⟩ atTime .ended reason endingDeadline = .ok draft ∧
      result = applied draft := by
  simp only [beginEndingCommand, ensureTimestamp, bind_eq_ok, exists_unit, reject_eq_ok,
    Bool.not_eq_true, Int.not_lt] at done
  obtain ⟨timely, goesOn, done⟩ := done
  split_ifs at done with changes
  · cases done
    exact .inl ⟨_, by decide, rfl⟩
  · simp only [bind_eq_ok, exists_unit, pure_eq_ok] at done
    obtain ⟨future, draft, ended, rfl⟩ := done
    refine .inr ⟨draft, ⟨timely, goesOn, not_and.mp changes, ?_⟩, ended, rfl⟩
    rintro _ rfl
    simpa using future

/-- The draft that every firing deadline starts from: its slot is clear. -/
def firedDraft (a : CallAggregate) (kind : DeadlineKind) : Draft :=
  Draft.setSlot ⟨a, []⟩ kind ⟨(a.deadlines.get kind).generation, none⟩

/-- Both legs forced terminal by the ending deadline. -/
def timedOut (a : CallAggregate) (atTime : Timestamp) : CallAggregate :=
  { (a.firedDraft .ending).aggregate with
    left := failUnfinished a.left atTime
    right := failUnfinished a.right atTime
    terminalOutcome := some (.failed endingTimeout) }

/-- The held leg restored after its replacement timed out. -/
def restoredCall (a : CallAggregate) (atTime : Timestamp) (slot : LegSlot) : CallAggregate :=
  (CallAggregate.setLeg { (a.firedDraft .transfer).aggregate with replacement := none } slot
    { a.legAt slot with state := .connected, stateChangedAt := atTime }).setCallState .active atTime

/-- The draft from which a call is torn down after a deadline. -/
def timeoutDraft (a : CallAggregate) (kind : DeadlineKind) : Draft :=
  if kind = .transfer then (a.firedDraft kind).push (.compensateTransfer (timeoutFailure kind))
  else a.firedDraft kind

structure ElapsedGuard (a : CallAggregate) (atTime : Timestamp) (kind : DeadlineKind)
    (supplied : Nat) : Prop where
  current : supplied = (a.deadlines.get kind).generation
  armed : (a.deadlines.get kind).dueAt.isSome
  timely : a.updatedAt ≤ atTime

theorem deadlineElapsed_cases {endingDeadline}
    (done : a.deadlineElapsed atTime kind supplied endingDeadline = .ok result) :
    (Ignores a result ∧ (supplied < (a.deadlines.get kind).generation ∨
        (a.deadlines.get kind).dueAt = none)) ∨
      (ElapsedGuard a atTime kind supplied ∧
        ((kind = .ending ∧
            result = applied (Draft.finalizeTerminal ⟨a.timedOut atTime, []⟩ atTime)) ∨
          (∃ slot replacement, kind = .transfer ∧ a.replacement = some replacement ∧
            a.legIndex replacement.legId = .ok slot ∧
            result = applied ⟨a.restoredCall atTime slot,
              [.abortLegReplacement replacement.legId replacement.pendingBindingGeneration,
                (a.restoredCall atTime slot).bridgeMediaEffect]⟩) ∨
          (∃ draft, kind ≠ .ending ∧ (kind = .transfer → a.replacement = none) ∧
            (a.timeoutDraft kind).beginEndingInternal atTime (.failed (timeoutFailure kind))
              .deadlineExpired endingDeadline = .ok draft ∧ result = applied draft))) := by
  rw [deadlineElapsed, bind_eq_ok] at done
  obtain ⟨found, compared, done⟩ := done
  obtain ⟨rfl, stale⟩ | ⟨rfl, current⟩ := compareDeadlineGeneration_ok compared
  · cases done
    exact .inl ⟨⟨_, by decide, rfl⟩, .inl stale⟩
  simp only at done
  split at done
  · rename_i idle
    cases done
    exact .inl ⟨⟨_, by decide, rfl⟩, .inr idle⟩
  rename_i dueAt armed
  simp only [ensureTimestamp, bind_eq_ok, exists_unit, reject_eq_ok, Int.not_lt] at done
  obtain ⟨timely, -, -, done⟩ := done
  refine .inr ⟨⟨current, by simp [armed], timely⟩, ?_⟩
  split at done
  · cases done
    exact .inl ⟨rfl, rfl⟩
  · rename_i replacement pending
    simp only [bind_eq_ok, pure_eq_ok] at done
    obtain ⟨slot, found, rfl⟩ := done
    exact .inr (.inl ⟨slot, replacement, rfl, pending, found, rfl⟩)
  · rename_i notEnding unreplaced
    simp only [bind_eq_ok, pure_eq_ok] at done
    obtain ⟨draft, ended, rfl⟩ := done
    refine .inr (.inr ⟨draft, fun ending => ?_, fun transfer => ?_, ended, rfl⟩)
    · exact notEnding ending
    · by_contra pending
      obtain ⟨replacement, isSome⟩ := Option.ne_none_iff_exists'.mp pending
      exact unreplaced _ transfer isSome

end Bridgefu.CallEngine.CallAggregate
