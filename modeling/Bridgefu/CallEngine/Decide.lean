/- digest: The pure call state machine: one command in, the next aggregate and its effects out. -/

import Bridgefu.CallEngine.Failure

set_option autoImplicit false

namespace Bridgefu.CallEngine

open Lib

def validateMediaFlows (left right : MediaFlow) : Except DomainError Unit := do
  let leftToRight := left.sourceEnabled && right.sinkEnabled
  let rightToLeft := right.sourceEnabled && left.sinkEnabled
  reject (left.sourceEnabled ≠ right.sinkEnabled ∨ right.sourceEnabled ≠ left.sinkEnabled)
    (.invalidMediaPlan "each enabled source requires exactly one peer sink")
  reject (!leftToRight ∧ !rightToLeft)
    (.invalidMediaPlan "at least one media direction must be enabled")

def validLegTransition : LegState → LegState → Bool
  | .pending, next => next ∈ [.awaitingAttach, .signaling, .ending, .failed]
  | .awaitingAttach, next => next ∈ [.signaling, .ending, .failed]
  | .signaling, next => next ∈ [.connected, .ending, .failed]
  | .connected, next => next ∈ [.held, .ending, .ended, .failed]
  | .held, next => next ∈ [.connected, .ending, .ended, .failed]
  | .ending, next => next ∈ [.ended, .failed]
  | .ended, _ | .failed, _ => false

/-- Call states in which a deadline of the kind may be armed. -/
def deadlineAllowedIn (kind : DeadlineKind) (state : CallState) : Bool :=
  match kind with
  | .setup => state == .connecting
  | .media => state == .active || state == .transferring
  | .transfer => state == .transferring
  | .ending => state == .ending

def deadlineKinds : List DeadlineKind := [.setup, .media, .transfer, .ending]

def TerminalOutcome.isFailed : TerminalOutcome → Bool
  | .failed _ => true
  | .ended => false

namespace CallAggregate

variable (a : CallAggregate)

def validateLeg (leg : Leg) : Except DomainError Unit := do
  reject (leg.bindingGeneration = 0) (.invalidSnapshot "leg binding generation must be nonzero")
  reject (leg.replacementGenerationCursor < leg.bindingGeneration)
    (.invalidSnapshot "leg replacement generation cursor precedes current binding")
  reject (leg.createdAt < a.createdAt ∨ leg.stateChangedAt < leg.createdAt ∨
      leg.stateChangedAt > a.updatedAt ∨
      (leg.connectedAt.any fun t => t < leg.createdAt ∨ t > a.updatedAt) ∨
      (leg.endedAt.any fun t => t < leg.createdAt ∨ t > a.updatedAt))
    (.invalidSnapshot "invalid leg timestamps")
  reject (leg.state = .failed ∧ leg.failure = none)
    (.invalidSnapshot "failed leg must contain failure details")
  reject (leg.state ≠ .failed ∧ leg.failure ≠ none)
    (.invalidSnapshot "only failed leg may contain failure details")
  reject (leg.state.isTerminal ≠ leg.endedAt.isSome)
    (.invalidSnapshot "terminal leg timestamp does not match state")

/-- Leg states and outcome that the call state admits. -/
def validateState : Except DomainError Unit :=
  match a.state with
  | .pending =>
    reject (a.legs.any fun leg => leg.state ≠ .pending)
      (.invalidSnapshot "pending call must contain pending legs")
  | .connecting =>
    reject (a.legs.any fun leg =>
        leg.state ∉ [LegState.pending, .awaitingAttach, .signaling, .connected])
      (.invalidSnapshot "connecting call contains an incompatible leg state")
  | .active | .transferring =>
    reject (a.legs.any fun leg => leg.state ∉ [LegState.connected, .held])
      (.invalidSnapshot "active call legs must be connected or held")
  | .ending => do
    reject (a.terminalOutcome = none ∨
        a.legs.any fun leg => leg.state ∉ [LegState.ending, .ended, .failed])
      (.invalidSnapshot "ending call requires an outcome and ending or terminal legs")
    reject ((a.legs.any fun leg => leg.state = .failed) ∧
        ¬ a.terminalOutcome.any TerminalOutcome.isFailed)
      (.invalidSnapshot "failed ending leg requires failed terminal outcome")
  | .ended =>
    reject (a.terminalOutcome ≠ some .ended ∨ a.legs.any fun leg => leg.state ≠ .ended)
      (.invalidSnapshot "ended call requires two normally ended legs and normal outcome")
  | .failed =>
    reject (¬ a.terminalOutcome.any TerminalOutcome.isFailed ∨
        a.legs.any fun leg => ¬ leg.state.isTerminal)
      (.invalidSnapshot "failed call requires two terminal legs and failed outcome")

/-- A replacement belongs to a held leg of a transferring call with an armed deadline. -/
def validateReplacement : Except DomainError Unit :=
  match a.replacement with
  | none => .ok ()
  | some replacement => do
    let leg ← orFail (a.leg replacement.legId)
      (.invalidSnapshot "replacement leg does not belong to call")
    reject (a.state ≠ .transferring ∨ leg.state ≠ .held ∨
        leg.bindingGeneration ≠ replacement.previousBindingGeneration ∨
        replacement.pendingBindingGeneration ≠ leg.replacementGenerationCursor ∨
        replacement.pendingBindingGeneration ≤ replacement.previousBindingGeneration ∨
        (a.deadlines.get .transfer).dueAt = none)
      (.invalidSnapshot "replacement state does not match held leg and transfer deadline")

def validate : Except DomainError Unit := do
  reject (a.left.id = a.right.id) (.duplicateLegId a.left.id)
  validateMediaFlows a.left.mediaFlow a.right.mediaFlow
  reject (a.updatedAt < a.createdAt ∨ a.stateChangedAt > a.updatedAt)
    (.invalidSnapshot "invalid call timestamps")
  checkAll a.validateLeg a.legs
  a.validateState
  a.validateReplacement
  reject (a.state ≠ .transferring ∧ a.replacement ≠ none)
    (.invalidSnapshot "replacement exists outside transferring state")
  reject (a.state ∉ [CallState.ending, .ended, .failed] ∧ a.terminalOutcome ≠ none)
    (.invalidSnapshot "non-ending call cannot have a terminal outcome")
  reject (deadlineKinds.any fun kind =>
      (a.deadlines.get kind).dueAt.isSome && !deadlineAllowedIn kind a.state)
    (.invalidSnapshot "deadline is armed in an incompatible call state")
  reject (a.state.isTerminal ∧ deadlineKinds.any fun kind => (a.deadlines.get kind).dueAt.isSome)
    (.invalidSnapshot "terminal call cannot have armed deadlines")

def withIdsAndSemantics (id : CallId) (tenantId : TenantId) (left right : LegId × LegSpec)
    (leftSemantics rightSemantics : LegSemantics) (now : Timestamp) :
    Except DomainError CallAggregate := do
  reject (left.1 = right.1) (.duplicateLegId left.1)
  let aggregate : CallAggregate :=
    { id := id, tenantId := tenantId, version := 0, state := .pending
      left := .new left.1 left.2 leftSemantics now
      right := .new right.1 right.2 rightSemantics now
      deadlines := .default, terminalOutcome := none, replacement := none
      createdAt := now, updatedAt := now, stateChangedAt := now }
  aggregate.validate
  return aggregate

def legIndex (id : LegId) : Except DomainError LegSlot :=
  if a.left.id = id then .ok .left else if a.right.id = id then .ok .right
  else .error (.unknownLeg id)

def ensureTimestamp (atTime : Timestamp) : Except DomainError Unit :=
  reject (atTime < a.updatedAt) .timestampRegression

def setCallState (state : CallState) (atTime : Timestamp) : CallAggregate :=
  if a.state ≠ state then { a with state := state, stateChangedAt := atTime } else a

def bridgeMediaEffect : EffectIntent := .bridgeMedia a.left.id a.right.id

def unbridgeMediaEffect : EffectIntent := .unbridgeMedia a.left.id a.right.id

/-- What a report of an older or newer binding generation amounts to. -/
def compareBindingGeneration (legId : LegId) (current supplied : Nat) :
    Except DomainError (Option CommandDisposition) :=
  if supplied < current then .ok (some .ignoredStaleGeneration)
  else if supplied > current then .error (.futureBindingGeneration legId current supplied)
  else .ok none

def compareDeadlineGeneration (kind : DeadlineKind) (supplied : Nat) :
    Except DomainError (Option CommandDisposition) :=
  let current := (a.deadlines.get kind).generation
  if supplied < current then .ok (some .ignoredStaleGeneration)
  else if supplied > current then .error (.futureDeadlineGeneration kind current supplied)
  else .ok none

end CallAggregate

/-- An aggregate under change by one command, with the effects pushed so far. -/
structure Draft where
  aggregate : CallAggregate
  effects : List EffectIntent

namespace Draft

variable (d : Draft) (kind : DeadlineKind)

def push (effect : EffectIntent) : Draft := { d with effects := d.effects ++ [effect] }

def setSlot (slot : DeadlineSlot) : Draft :=
  { d with aggregate := { d.aggregate with deadlines := d.aggregate.deadlines.set kind slot } }

def setState (state : CallState) (atTime : Timestamp) : Draft :=
  { d with aggregate := d.aggregate.setCallState state atTime }

def cancelDeadlineInternal : Draft :=
  let slot := d.aggregate.deadlines.get kind
  match slot.dueAt with
  | none => d
  | some _ => (d.setSlot kind ⟨slot.generation, none⟩).push (.cancelDeadline kind slot.generation)

def armDeadlineInternal (dueAt : Timestamp) : Except DomainError (Nat × Draft) := do
  let cleared := d.cancelDeadlineInternal kind
  let generation ← nextDeadlineGeneration (cleared.aggregate.deadlines.get kind).generation
  return (generation, (cleared.setSlot kind ⟨generation, some dueAt⟩).push
    (.scheduleDeadline kind generation dueAt))

/-- Close the call once both legs are terminal. -/
def finalizeTerminal (atTime : Timestamp) : Draft :=
  let d := (((d.cancelDeadlineInternal .setup).cancelDeadlineInternal .media).cancelDeadlineInternal
    .transfer).cancelDeadlineInternal .ending
  let outcome : Option TerminalOutcome :=
    match d.aggregate.legs.findSome? Leg.failure with
    | some failure => some (.failed failure)
    | none => d.aggregate.terminalOutcome
  match outcome with
  | some (.failed failure) =>
    { d with aggregate :=
        { d.aggregate with terminalOutcome := some (.failed failure) }.setCallState .failed atTime }
  | some .ended | none =>
    { d with aggregate :=
        { d.aggregate with terminalOutcome := some .ended }.setCallState .ended atTime }

def stopLegIfUp (slot : LegSlot) (atTime : Timestamp) (reason : StopLegReason) : Draft :=
  let leg := d.aggregate.legAt slot
  if ¬ leg.state.isTerminal ∧ leg.state ≠ .ending then
    { aggregate := d.aggregate.setLeg slot { leg with state := .ending, stateChangedAt := atTime }
      effects := d.effects ++ [.stopLeg leg.id leg.bindingGeneration reason] }
  else d

def unbridgeIfUp : Draft :=
  if d.aggregate.state = .active ∨ d.aggregate.state = .transferring then
    d.push d.aggregate.unbridgeMediaEffect
  else d

def abortReplacement : Draft :=
  match d.aggregate.replacement with
  | some replacement =>
    { aggregate := { d.aggregate with replacement := none }
      effects := d.effects ++
        [.abortLegReplacement replacement.legId replacement.pendingBindingGeneration] }
  | none => d

def selectOutcome (outcome : TerminalOutcome) : Draft :=
  let selected : TerminalOutcome := match d.aggregate.terminalOutcome with
    | some (.failed existing) => .failed existing
    | _ => outcome
  { d with aggregate := { d.aggregate with terminalOutcome := some selected } }

/-- The call in the ending state with both legs told to stop. -/
def enterEnding (atTime : Timestamp) (outcome : TerminalOutcome) (reason : StopLegReason) : Draft :=
  let d := d.unbridgeIfUp.abortReplacement
  let d := ((d.cancelDeadlineInternal .setup).cancelDeadlineInternal .media).cancelDeadlineInternal
    .transfer
  let d := (d.selectOutcome outcome).setState .ending atTime
  (d.stopLegIfUp .left atTime reason).stopLegIfUp .right atTime reason

def beginEndingInternal (atTime : Timestamp) (outcome : TerminalOutcome) (reason : StopLegReason)
    (endingDeadline : Option Timestamp) : Except DomainError Draft :=
  let d := d.enterEnding atTime outcome reason
  if d.aggregate.legs.all fun leg => leg.state.isTerminal then .ok (d.finalizeTerminal atTime)
  else match endingDeadline with
    | some deadline => do
      let armed ← d.armDeadlineInternal .ending deadline
      return armed.2
    | none => .ok d

/-- The failure of a leg becomes the outcome of the call. -/
def recordFailure (leg : Leg) : Draft :=
  match leg.failure with
  | some failure =>
    { d with aggregate := { d.aggregate with terminalOutcome := some (.failed failure) } }
  | none => d

/-- Follow up a leg-state change on the level of the call. -/
def reconcileLegState (changed : LegSlot) (atTime : Timestamp) : Except DomainError Draft :=
  let leg := d.aggregate.legAt changed
  if d.aggregate.state = .connecting ∧ d.aggregate.legs.all fun leg => leg.state = .connected then
    let d := (d.cancelDeadlineInternal .setup).setState .active atTime
    .ok (d.push d.aggregate.bridgeMediaEffect)
  else if d.aggregate.state = .ending then
    let d := d.recordFailure leg
    if d.aggregate.legs.all fun leg => leg.state.isTerminal then .ok (d.finalizeTerminal atTime)
    else .ok d
  else if leg.state ∈ [LegState.ending, .ended, .failed] then
    d.beginEndingInternal atTime (leg.failure.elim .ended .failed)
      (if leg.failure.isSome then .failure else .peerEnded) none
  else .ok d

end Draft

/-- Outcome of one command before the version is advanced. -/
structure CommandResult where
  draft : Draft
  disposition : CommandDisposition

def applied (draft : Draft) : CommandResult := ⟨draft, .applied⟩

def ignored (a : CallAggregate) (disposition : CommandDisposition) : CommandResult :=
  ⟨⟨a, []⟩, disposition⟩

namespace CallAggregate

/-- Start one leg: a remote leg waits for its attachment, a local one is dialled. -/
def startLeg (leg : Leg) (atTime : Timestamp) : Leg × EffectIntent :=
  if leg.signalingInitiator = .remote then
    ({ leg with state := .awaitingAttach, stateChangedAt := atTime },
      .awaitLegAttachment leg.id leg.bindingGeneration)
  else (leg, .startLeg leg.id leg.bindingGeneration leg.kind leg.direction)

variable (a : CallAggregate) (atTime : Timestamp)

def startConnecting (atTime setupDeadline : Timestamp) : Except DomainError CommandResult := do
  a.ensureTimestamp atTime
  reject (a.state ≠ .pending) (.invalidCallTransition a.state "start_connecting")
  reject (setupDeadline ≤ atTime) .deadlineNotFuture
  let left := startLeg a.left atTime
  let right := startLeg a.right atTime
  let next := { a.setCallState .connecting atTime with left := left.1, right := right.1 }
  let armed ← Draft.armDeadlineInternal ⟨next, [left.2, right.2]⟩ .setup setupDeadline
  return applied armed.2

def reportedLeg (leg : Leg) (atTime : Timestamp) (state : LegState)
    (failure : Option FailureDetails) : Leg :=
  { leg with
    state := state
    stateChangedAt := atTime
    connectedAt := if state = .connected ∧ leg.connectedAt = none then some atTime
      else leg.connectedAt
    endedAt := if state.isTerminal then some atTime else leg.endedAt
    failure := failure }

def setLegState (legId : LegId) (supplied : Nat) (nextState : LegState)
    (failure : Option FailureDetails) : Except DomainError CommandResult := do
  let slot ← a.legIndex legId
  let leg := a.legAt slot
  match ← compareBindingGeneration legId leg.bindingGeneration supplied with
  | some disposition => return ignored a disposition
  | none =>
    a.ensureTimestamp atTime
    reject (a.state.isTerminal ∨ a.state = .pending)
      (.invalidCallTransition a.state "set_leg_state")
    reject (nextState = .failed ∧ failure = none) .failureRequired
    reject (nextState ≠ .failed ∧ failure ≠ none) .unexpectedFailure
    if leg.state = nextState then return ignored a .ignoredNoop
    else
      reject (¬ validLegTransition leg.state nextState)
        (.invalidLegTransition leg.state nextState)
      reject (a.state = .ending ∧ leg.state ≠ .ending)
        (.invalidLegTransition leg.state nextState)
      let next := a.setLeg slot (reportedLeg leg atTime nextState failure)
      let draft ← Draft.reconcileLegState ⟨next, []⟩ slot atTime
      return applied draft

def sourceFailedBeforeAnswer : FailureDetails :=
  .sanitized "source_failed_before_answer"
    "the remotely initiated source failed before final answer" false

def sourceTerminatedBeforeAnswer (sourceLegId : LegId) (supplied : Nat)
    (reason : SourceBeforeAnswerTermination) : Except DomainError CommandResult := do
  let slot ← a.legIndex sourceLegId
  let source := a.legAt slot
  match ← compareBindingGeneration sourceLegId source.bindingGeneration supplied with
  | some disposition => return ignored a disposition
  | none =>
    a.ensureTimestamp atTime
    reject (source.signalingInitiator ≠ .remote)
      (.invalidCallTransition a.state "source_terminated_before_answer")
    if source.state.isTerminal then return ignored a .ignoredNoop
    else
      reject (a.state ∉ [CallState.connecting, .ending] ∨
          source.state ∉ [LegState.pending, .awaitingAttach, .signaling, .ending])
        (.invalidCallTransition a.state "source_terminated_before_answer")
      let failure := if reason = .failed then some sourceFailedBeforeAnswer else none
      let next := a.setLeg slot
        { source with
          state := if failure.isSome then .failed else .ended
          stateChangedAt := atTime
          endedAt := some atTime
          failure := failure }
      let draft ← Draft.reconcileLegState ⟨next, []⟩ slot atTime
      return applied draft

/-- A provider leg leaving `pending` because its media is up. -/
def signalIfPending (leg : Leg) (atTime : Timestamp) : Leg :=
  if leg.state = .pending then { leg with state := .signaling, stateChangedAt := atTime } else leg

def providerMediaStarted (legId : LegId) (supplied : Nat) : Except DomainError CommandResult := do
  let slot ← a.legIndex legId
  let leg := a.legAt slot
  match ← compareBindingGeneration legId leg.bindingGeneration supplied with
  | some disposition => return ignored a disposition
  | none =>
    a.ensureTimestamp atTime
    reject (a.state ≠ .connecting ∨ leg.direction ≠ .outbound ∨ leg.kind ≠ .telnyx ∨
        leg.state ∉ [LegState.pending, .signaling])
      (.invalidCallTransition a.state "provider_media_started")
    return applied ⟨a.setLeg slot (signalIfPending leg atTime),
      [.connectProviderDestination legId supplied]⟩

def providerMediaAttached (legId : LegId) (supplied : Nat) : Except DomainError CommandResult := do
  a.ensureTimestamp atTime
  let slot ← a.legIndex legId
  let leg := a.legAt slot
  let ordinary : Bool := a.state = .connecting ∧ leg.direction = .outbound ∧ leg.kind = .telnyx ∧
    leg.bindingGeneration = supplied ∧ leg.state ∈ [LegState.pending, .signaling]
  let replacement : Bool := a.state = .transferring ∧ a.replacement.any fun replacement =>
    replacement.legId = legId ∧ replacement.pendingKind = .telnyx ∧
      replacement.pendingBindingGeneration = supplied
  reject (¬ ordinary ∧ ¬ replacement) (.invalidCallTransition a.state "provider_media_attached")
  return applied ⟨if ordinary then a.setLeg slot (signalIfPending leg atTime) else a, []⟩

def rotateLegBinding (legId : LegId) (supplied : Nat) : Except DomainError CommandResult := do
  let slot ← a.legIndex legId
  let leg := a.legAt slot
  match ← compareBindingGeneration legId leg.bindingGeneration supplied with
  | some disposition => return ignored a disposition
  | none =>
    a.ensureTimestamp atTime
    reject (a.state ≠ .connecting ∨ leg.state ∉ [LegState.awaitingAttach, .signaling])
      (.invalidCallTransition a.state "rotate_leg_binding")
    let generation ← nextBindingGeneration leg.bindingGeneration
    let cursor := if leg.storedReplacementCursor.any (· < generation) then some generation
      else leg.storedReplacementCursor
    let next := a.setLeg slot
      { leg with
        bindingGeneration := generation
        storedReplacementCursor := cursor
        state := .awaitingAttach
        stateChangedAt := atTime }
    return applied ⟨next, [.awaitLegAttachment legId generation]⟩

def armDeadlineCommand (kind : DeadlineKind) (dueAt : Timestamp) :
    Except DomainError CommandResult := do
  a.ensureTimestamp atTime
  reject (¬ deadlineAllowedIn kind a.state) (.invalidCallTransition a.state "arm_deadline")
  reject (dueAt ≤ atTime) .deadlineNotFuture
  let armed ← Draft.armDeadlineInternal ⟨a, []⟩ kind dueAt
  return applied armed.2

def beginTransfer (atTime transferDeadline : Timestamp) : Except DomainError CommandResult := do
  a.ensureTimestamp atTime
  reject (a.state ≠ .active) (.invalidCallTransition a.state "begin_transfer")
  reject (transferDeadline ≤ atTime) .deadlineNotFuture
  let armed ← Draft.armDeadlineInternal ⟨a.setCallState .transferring atTime, []⟩ .transfer
    transferDeadline
  return applied (armed.2.push (.executeTransfer armed.1))

def beginLegReplacement (legId : LegId) (pendingKind : LegKind) (transferDeadline : Timestamp) :
    Except DomainError CommandResult := do
  a.ensureTimestamp atTime
  reject (a.state ≠ .active ∨ a.replacement ≠ none)
    (.invalidCallTransition a.state "begin_leg_replacement")
  reject (transferDeadline ≤ atTime) .deadlineNotFuture
  let slot ← a.legIndex legId
  let leg := a.legAt slot
  reject (leg.state ≠ .connected) (.invalidLegTransition leg.state .held)
  let pending ← nextBindingGeneration leg.replacementGenerationCursor
  let held := { leg with state := .held, stateChangedAt := atTime,
                         storedReplacementCursor := some pending }
  let next := (a.setLeg slot held).setCallState .transferring atTime
  let armed ← Draft.armDeadlineInternal ⟨next, [next.unbridgeMediaEffect]⟩ .transfer
    transferDeadline
  let replacement : LegReplacement :=
    ⟨legId, leg.bindingGeneration, pending, pendingKind⟩
  return applied
    { aggregate := { armed.2.aggregate with replacement := some replacement }
      effects := armed.2.effects ++
        [.startLegReplacement legId leg.bindingGeneration pending pendingKind armed.1] }

def finishTransfer (supplied : Nat) (result : TransferResult) :
    Except DomainError CommandResult := do
  match ← a.compareDeadlineGeneration .transfer supplied with
  | some disposition => return ignored a disposition
  | none =>
    a.ensureTimestamp atTime
    reject (a.replacement ≠ none) (.invalidCallTransition a.state "finish_transfer")
    if (a.deadlines.get .transfer).dueAt = none ∧ a.state = .active then
      return ignored a .ignoredNoop
    else
      reject (a.state ≠ .transferring ∨ (a.deadlines.get .transfer).dueAt = none)
        (.invalidCallTransition a.state "finish_transfer")
      let draft := Draft.cancelDeadlineInternal ⟨a, []⟩ .transfer
      let draft := match result with
        | .rejected failure => draft.push (.compensateTransfer failure)
        | .completed => draft
      return applied (draft.setState .active atTime)

def finishLegReplacement (suppliedDeadline : Nat) (suppliedBinding : Nat)
    (result : LegReplacementResult) : Except DomainError CommandResult := do
  match ← a.compareDeadlineGeneration .transfer suppliedDeadline with
  | some disposition => return ignored a disposition
  | none =>
    a.ensureTimestamp atTime
    match a.replacement with
    | none =>
      if a.state = .active then return ignored a .ignoredNoop
      else .error (.invalidCallTransition a.state "finish_leg_replacement")
    | some replacement =>
      reject (a.state ≠ .transferring ∨ (a.deadlines.get .transfer).dueAt = none)
        (.invalidCallTransition a.state "finish_leg_replacement")
      if suppliedBinding < replacement.pendingBindingGeneration then
        return ignored a .ignoredStaleGeneration
      else
        reject (suppliedBinding > replacement.pendingBindingGeneration)
          (.futureBindingGeneration replacement.legId replacement.pendingBindingGeneration
            suppliedBinding)
        let slot ← a.legIndex replacement.legId
        let leg := a.legAt slot
        let draft := Draft.cancelDeadlineInternal ⟨a, []⟩ .transfer
        let draft : Draft := match result with
          | .connected =>
            { aggregate := draft.aggregate.setLeg slot
                { leg with
                  kind := replacement.pendingKind
                  bindingGeneration := replacement.pendingBindingGeneration
                  state := .connected
                  stateChangedAt := atTime
                  failure := none }
              effects := draft.effects ++ [.stopLeg replacement.legId
                replacement.previousBindingGeneration .requested] }
          | .rejected _ =>
            { aggregate := draft.aggregate.setLeg slot
                { leg with state := .connected, stateChangedAt := atTime }
              effects := draft.effects ++ [.abortLegReplacement replacement.legId
                replacement.pendingBindingGeneration] }
        let settled : Draft :=
          { draft with aggregate := { draft.aggregate with replacement := none } }
        let settled := settled.setState .active atTime
        return applied (settled.push settled.aggregate.bridgeMediaEffect)

def beginEndingCommand (endingDeadline : Option Timestamp) (reason : StopLegReason) :
    Except DomainError CommandResult := do
  a.ensureTimestamp atTime
  reject a.state.isTerminal (.invalidCallTransition a.state "begin_ending")
  if a.state = .ending ∧ endingDeadline = none then return ignored a .ignoredNoop
  else
    reject (endingDeadline.any (· ≤ atTime)) .deadlineNotFuture
    let draft ← Draft.beginEndingInternal ⟨a, []⟩ atTime .ended reason endingDeadline
    return applied draft

def endingTimeout : FailureDetails :=
  .sanitized "ending_timeout" "leg teardown deadline elapsed" false

/-- Failure reported when a deadline other than the ending one elapses. -/
def timeoutFailure : DeadlineKind → FailureDetails
  | .setup => .sanitized "setup_timeout" "call setup deadline elapsed" true
  | .media => .sanitized "media_timeout" "media activity deadline elapsed" true
  | .transfer | .ending => .sanitized "transfer_timeout" "call transfer deadline elapsed" true

/-- A leg forced terminal by the ending deadline. -/
def failUnfinished (leg : Leg) (atTime : Timestamp) : Leg :=
  if leg.state.isTerminal then leg
  else { leg with state := .failed, failure := some endingTimeout, endedAt := some atTime,
                  stateChangedAt := atTime }

def deadlineElapsed (kind : DeadlineKind) (supplied : Nat) (endingDeadline : Option Timestamp) :
    Except DomainError CommandResult := do
  match ← a.compareDeadlineGeneration kind supplied with
  | some disposition => return ignored a disposition
  | none =>
    match (a.deadlines.get kind).dueAt with
    | none => return ignored a .ignoredStaleGeneration
    | some dueAt =>
      a.ensureTimestamp atTime
      reject (atTime < dueAt) .deadlineNotElapsed
      reject (endingDeadline.any (· ≤ atTime)) .deadlineNotFuture
      let fired : Draft := Draft.setSlot ⟨a, []⟩ kind ⟨(a.deadlines.get kind).generation, none⟩
      match kind, a.replacement with
      | .ending, _ =>
        let next := { fired.aggregate with
          left := failUnfinished a.left atTime
          right := failUnfinished a.right atTime
          terminalOutcome := some (.failed endingTimeout) }
        return applied (Draft.finalizeTerminal ⟨next, []⟩ atTime)
      | .transfer, some replacement => do
        let slot ← a.legIndex replacement.legId
        let leg := a.legAt slot
        let restored := { fired.aggregate with replacement := none }
        let restored := restored.setLeg slot
          { leg with state := .connected, stateChangedAt := atTime }
        let restored := restored.setCallState .active atTime
        return applied ⟨restored,
          [.abortLegReplacement replacement.legId replacement.pendingBindingGeneration,
            restored.bridgeMediaEffect]⟩
      | _, _ => do
        let failure := timeoutFailure kind
        let draft := if kind = .transfer then fired.push (.compensateTransfer failure) else fired
        let draft ← draft.beginEndingInternal atTime (.failed failure) .deadlineExpired
          endingDeadline
        return applied draft

def applyCommand : CallCommand → Except DomainError CommandResult
  | .startConnecting t setupDeadline => a.startConnecting t setupDeadline
  | .setLegState t legId generation state failure => a.setLegState t legId generation state failure
  | .sourceTerminatedBeforeAnswer t legId generation reason =>
    a.sourceTerminatedBeforeAnswer t legId generation reason
  | .providerMediaStarted t legId generation => a.providerMediaStarted t legId generation
  | .providerMediaAttached t legId generation => a.providerMediaAttached t legId generation
  | .rotateLegBinding t legId generation => a.rotateLegBinding t legId generation
  | .armDeadline t kind dueAt => a.armDeadlineCommand t kind dueAt
  | .beginTransfer t transferDeadline => a.beginTransfer t transferDeadline
  | .beginLegReplacement t legId pendingKind transferDeadline =>
    a.beginLegReplacement t legId pendingKind transferDeadline
  | .finishTransfer t generation result => a.finishTransfer t generation result
  | .finishLegReplacement t generation pending result =>
    a.finishLegReplacement t generation pending result
  | .beginEnding t endingDeadline reason => a.beginEndingCommand t endingDeadline reason
  | .deadlineElapsed t kind generation endingDeadline =>
    a.deadlineElapsed t kind generation endingDeadline

/-- Apply a command without I/O: the receiver is unchanged, the version advances only when
the command is applied, and the result is validated. -/
def decide (command : CallCommand) : Except DomainError CallDecision := do
  let result ← a.applyCommand command
  let next := result.draft.aggregate
  let aggregate ← (if result.disposition = .applied then do
      let version ← nextVersion next.version
      return { next with version := version, updatedAt := command.atTime }
    else return next)
  aggregate.validate
  return ⟨aggregate, result.draft.effects, result.disposition⟩

end CallAggregate

end Bridgefu.CallEngine
