/- digest: Call aggregate types: identifiers, generations, legs, deadlines, commands and effects. -/

import Bridgefu.Lib.Fallible

set_option autoImplicit false

namespace Bridgefu.CallEngine

open Lib

/-- UTC instants as nanoseconds from the epoch. -/
abbrev Timestamp := Int

structure CallId where
  uuid : Nat
  deriving DecidableEq

structure LegId where
  uuid : Nat
  deriving DecidableEq

structure TenantId where
  value : String
  deriving DecidableEq

/-- Largest counter value the database can store, `i64::MAX`. -/
def maxPersistedGeneration : Nat := 2 ^ 63 - 1


inductive LegDirection where
  | inbound
  | outbound
  deriving DecidableEq

inductive SignalingInitiator where
  | bridgefu
  | remote
  deriving DecidableEq

def SignalingInitiator.legacyDefault : LegDirection → SignalingInitiator
  | .inbound => .remote
  | .outbound => .bridgefu

inductive MediaFlow where
  | sendReceive
  | sendOnly
  | receiveOnly
  | inactive
  deriving DecidableEq

def MediaFlow.sourceEnabled : MediaFlow → Bool
  | .sendReceive | .receiveOnly => true
  | _ => false

def MediaFlow.sinkEnabled : MediaFlow → Bool
  | .sendReceive | .sendOnly => true
  | _ => false

inductive LegKind where
  | sip
  | interactiveWebRtc
  | whip
  | whep
  | amazonConnect
  | twilio
  | telnyx
  | vonage
  deriving DecidableEq

inductive CallState where
  | pending
  | connecting
  | active
  | transferring
  | ending
  | ended
  | failed
  deriving DecidableEq

def CallState.isTerminal : CallState → Bool
  | .ended | .failed => true
  | _ => false

inductive LegState where
  | pending
  | awaitingAttach
  | signaling
  | connected
  | held
  | ending
  | ended
  | failed
  deriving DecidableEq

def LegState.isTerminal : LegState → Bool
  | .ended | .failed => true
  | _ => false

structure FailureDetails where
  code : String
  message : String
  retryable : Bool
  deriving DecidableEq

structure LegSpec where
  direction : LegDirection
  kind : LegKind

structure LegSemantics where
  signalingInitiator : SignalingInitiator
  mediaFlow : MediaFlow

/-- One logical endpoint. A missing signaling initiator or replacement cursor is the
form of rows written before those fields existed. -/
structure Leg where
  id : LegId
  direction : LegDirection
  kind : LegKind
  storedSignalingInitiator : Option SignalingInitiator
  mediaFlow : MediaFlow
  state : LegState
  bindingGeneration : Nat
  storedReplacementCursor : Option Nat
  createdAt : Timestamp
  stateChangedAt : Timestamp
  connectedAt : Option Timestamp
  endedAt : Option Timestamp
  failure : Option FailureDetails
  deriving DecidableEq

def Leg.new (id : LegId) (spec : LegSpec) (semantics : LegSemantics) (now : Timestamp) : Leg where
  id := id
  direction := spec.direction
  kind := spec.kind
  storedSignalingInitiator := some semantics.signalingInitiator
  mediaFlow := semantics.mediaFlow
  state := .pending
  bindingGeneration := 1
  storedReplacementCursor := none
  createdAt := now
  stateChangedAt := now
  connectedAt := none
  endedAt := none
  failure := none

def Leg.signalingInitiator (leg : Leg) : SignalingInitiator :=
  leg.storedSignalingInitiator.getD (.legacyDefault leg.direction)

def Leg.replacementGenerationCursor (leg : Leg) : Nat :=
  leg.storedReplacementCursor.getD leg.bindingGeneration

inductive DeadlineKind where
  | setup
  | media
  | transfer
  | ending
  deriving DecidableEq

structure DeadlineSlot where
  generation : Nat
  dueAt : Option Timestamp
  deriving DecidableEq

structure CallDeadlines where
  setup : DeadlineSlot
  media : DeadlineSlot
  transfer : DeadlineSlot
  ending : DeadlineSlot
  deriving DecidableEq

def CallDeadlines.default : CallDeadlines :=
  ⟨⟨0, none⟩, ⟨0, none⟩, ⟨0, none⟩, ⟨0, none⟩⟩

def CallDeadlines.get (deadlines : CallDeadlines) : DeadlineKind → DeadlineSlot
  | .setup => deadlines.setup
  | .media => deadlines.media
  | .transfer => deadlines.transfer
  | .ending => deadlines.ending

def CallDeadlines.set (deadlines : CallDeadlines) (kind : DeadlineKind) (slot : DeadlineSlot) :
    CallDeadlines :=
  match kind with
  | .setup => { deadlines with setup := slot }
  | .media => { deadlines with media := slot }
  | .transfer => { deadlines with transfer := slot }
  | .ending => { deadlines with ending := slot }

inductive TerminalOutcome where
  | ended
  | failed (failure : FailureDetails)
  deriving DecidableEq

/-- A make-before-break attempt: the previous generation stays current until the pending
route has connected. -/
structure LegReplacement where
  legId : LegId
  previousBindingGeneration : Nat
  pendingBindingGeneration : Nat
  pendingKind : LegKind
  deriving DecidableEq

/-- Position in the fixed two-leg array of a call. -/
inductive LegSlot where
  | left
  | right
  deriving DecidableEq

structure CallAggregate where
  id : CallId
  tenantId : TenantId
  version : Nat
  state : CallState
  left : Leg
  right : Leg
  deadlines : CallDeadlines
  terminalOutcome : Option TerminalOutcome
  replacement : Option LegReplacement
  createdAt : Timestamp
  updatedAt : Timestamp
  stateChangedAt : Timestamp
  deriving DecidableEq

def CallAggregate.legs (a : CallAggregate) : List Leg := [a.left, a.right]

def CallAggregate.legAt (a : CallAggregate) : LegSlot → Leg
  | .left => a.left
  | .right => a.right

def CallAggregate.setLeg (a : CallAggregate) (slot : LegSlot) (leg : Leg) : CallAggregate :=
  match slot with
  | .left => { a with left := leg }
  | .right => { a with right := leg }

def CallAggregate.leg (a : CallAggregate) (id : LegId) : Option Leg :=
  if a.left.id = id then some a.left else if a.right.id = id then some a.right else none

inductive SourceBeforeAnswerTermination where
  | cancelled
  | remoteEnded
  | failed
  deriving DecidableEq

inductive TransferResult where
  | completed
  | rejected (failure : FailureDetails)
  deriving DecidableEq

inductive LegReplacementResult where
  | connected
  | rejected (failure : FailureDetails)
  deriving DecidableEq

inductive StopLegReason where
  | requested
  | peerEnded
  | failure
  | deadlineExpired
  deriving DecidableEq

inductive CallCommand where
  | startConnecting (atTime setupDeadline : Timestamp)
  | setLegState (atTime : Timestamp) (legId : LegId) (bindingGeneration : Nat)
      (state : LegState) (failure : Option FailureDetails)
  | sourceTerminatedBeforeAnswer (atTime : Timestamp) (sourceLegId : LegId)
      (bindingGeneration : Nat) (reason : SourceBeforeAnswerTermination)
  | providerMediaStarted (atTime : Timestamp) (legId : LegId)
      (bindingGeneration : Nat)
  | providerMediaAttached (atTime : Timestamp) (legId : LegId)
      (bindingGeneration : Nat)
  | rotateLegBinding (atTime : Timestamp) (legId : LegId)
      (bindingGeneration : Nat)
  | armDeadline (atTime : Timestamp) (kind : DeadlineKind) (dueAt : Timestamp)
  | beginTransfer (atTime transferDeadline : Timestamp)
  | beginLegReplacement (atTime : Timestamp) (legId : LegId) (pendingKind : LegKind)
      (transferDeadline : Timestamp)
  | finishTransfer (atTime : Timestamp) (deadlineGeneration : Nat)
      (result : TransferResult)
  | finishLegReplacement (atTime : Timestamp) (deadlineGeneration : Nat)
      (pendingBindingGeneration : Nat) (result : LegReplacementResult)
  | beginEnding (atTime : Timestamp) (endingDeadline : Option Timestamp) (reason : StopLegReason)
  | deadlineElapsed (atTime : Timestamp) (kind : DeadlineKind) (generation : Nat)
      (endingDeadline : Option Timestamp)
  deriving DecidableEq

def CallCommand.atTime : CallCommand → Timestamp
  | .startConnecting t _ | .setLegState t .. | .sourceTerminatedBeforeAnswer t ..
  | .providerMediaStarted t .. | .providerMediaAttached t .. | .rotateLegBinding t ..
  | .armDeadline t .. | .beginTransfer t _ | .beginLegReplacement t .. | .finishTransfer t ..
  | .finishLegReplacement t .. | .beginEnding t .. | .deadlineElapsed t .. => t

inductive EffectIntent where
  | startLeg (legId : LegId) (bindingGeneration : Nat) (kind : LegKind)
      (direction : LegDirection)
  | connectProviderDestination (legId : LegId) (bindingGeneration : Nat)
  | awaitLegAttachment (legId : LegId) (bindingGeneration : Nat)
  | bridgeMedia (leftLegId rightLegId : LegId)
  | unbridgeMedia (leftLegId rightLegId : LegId)
  | stopLeg (legId : LegId) (bindingGeneration : Nat) (reason : StopLegReason)
  | scheduleDeadline (kind : DeadlineKind) (generation : Nat) (dueAt : Timestamp)
  | cancelDeadline (kind : DeadlineKind) (generation : Nat)
  | executeTransfer (deadlineGeneration : Nat)
  | startLegReplacement (legId : LegId) (previousBindingGeneration : Nat)
      (pendingBindingGeneration : Nat) (kind : LegKind)
      (deadlineGeneration : Nat)
  | abortLegReplacement (legId : LegId) (pendingBindingGeneration : Nat)
  | compensateTransfer (failure : FailureDetails)
  deriving DecidableEq

inductive CommandDisposition where
  | applied
  | ignoredNoop
  | ignoredStaleGeneration
  deriving DecidableEq

structure CallDecision where
  aggregate : CallAggregate
  effects : List EffectIntent
  disposition : CommandDisposition
  deriving DecidableEq

inductive DomainError where
  | duplicateLegId (legId : LegId)
  | unknownLeg (legId : LegId)
  | invalidCallTransition (fromState : CallState) (command : String)
  | invalidLegTransition (fromState toState : LegState)
  | failureRequired
  | unexpectedFailure
  | timestampRegression
  | deadlineNotFuture
  | deadlineNotElapsed
  | futureBindingGeneration (legId : LegId) (current supplied : Nat)
  | futureDeadlineGeneration (kind : DeadlineKind) (current supplied : Nat)
  | generationExhausted (kind : String)
  | invalidSnapshot (reason : String)
  | invalidMediaPlan (reason : String)
  deriving DecidableEq

def nextGeneration (kind : String) (current : Nat) : Except DomainError Nat :=
  if current ≥ maxPersistedGeneration then .error (.generationExhausted kind) else .ok (current + 1)

def nextVersion : Nat → Except DomainError Nat :=
  nextGeneration "aggregate_version"

def nextBindingGeneration : Nat → Except DomainError Nat :=
  nextGeneration "binding_generation"

def nextDeadlineGeneration : Nat → Except DomainError Nat :=
  nextGeneration "deadline_generation"

@[simp] theorem nextGeneration_eq_ok (kind : String) (current next : Nat) :
    nextGeneration kind current = .ok next ↔
      current < maxPersistedGeneration ∧ next = current + 1 := by
  unfold nextGeneration
  split
  · simp only [reduceCtorEq, false_iff]
    omega
  · rw [Except.ok.injEq]
    omega

@[simp] theorem CallDeadlines.get_set (deadlines : CallDeadlines) (kind other : DeadlineKind)
    (slot : DeadlineSlot) :
    (deadlines.set kind slot).get other = if other = kind then slot else deadlines.get other := by
  cases kind <;> cases other <;> rfl

end Bridgefu.CallEngine
