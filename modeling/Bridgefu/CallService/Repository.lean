/- digest: Rows and requests of the service repository contract: transactions, controls, effects. -/

import Bridgefu.CallService.Model

set_option autoImplicit false

namespace Bridgefu.CallService

open Lib CallEngine

structure StoredServiceCall where
  call : StoredCall
  plan : CallExecutionPlan
  attachments : List AttachmentIssue

structure ServiceCreateCandidate where
  worker : WorkerLease
  attachments : List AttachmentIssue

structure ServiceCreateTransaction where
  create : CreateCall
  plan : CallExecutionPlan
  alternatives : List ServiceCreateCandidate

inductive ServiceCreateOutcome where
  | created (call : StoredServiceCall)
  | replayed (call : StoredServiceCall)

inductive ServiceOperationKind where
  | createCall
  | hangupCall
  | transferCall
  | dtmfCall
  deriving DecidableEq

structure OperationIdempotency where
  keyDigest : IdempotencyKeyDigest
  requestDigest : RequestDigest
  operation : ServiceOperationKind
  deriving DecidableEq

def OperationIdempotency.validateServiceCommand (idempotency : OperationIdempotency)
    (command : CallCommand) : Except RepositoryError Unit :=
  match idempotency.operation, command with
  | .hangupCall, .beginEnding .. | .transferCall, .beginTransfer ..
  | .transferCall, .beginLegReplacement .. => .ok ()
  | _, _ => .error (.invalidInput "operation idempotency kind does not match service command")

def OperationIdempotency.validateControl (idempotency : OperationIdempotency) :
    ControlIntent → Except RepositoryError Unit
  | .dtmf _ => reject (idempotency.operation ≠ .dtmfCall)
      (.invalidInput "operation idempotency kind does not match control command")

structure ServiceEffectPayloadInput where
  ordinal : Nat
  payload : ServiceEffectPayload
  deriving DecidableEq

structure StoredServiceEffectPayload where
  effectId : EffectId
  commandId : CommandId
  ordinal : Nat
  payload : ServiceEffectPayload
  deriving DecidableEq

structure BoundConnectionGuard where
  connectionId : ConnectionId
  legId : LegId
  bindingGeneration : Nat
  deriving DecidableEq

structure ReplacementConnectionPromotion where
  previousConnectionId : ConnectionId
  connectionId : ConnectionId
  legId : LegId
  previousBindingGeneration : Nat
  pendingBindingGeneration : Nat
  transport : AttachmentTransport
  principalFingerprint : PrincipalFingerprint
  deriving DecidableEq


structure MediaActivityGuard where
  connectionId : ConnectionId
  legId : LegId
  bindingGeneration : Nat
  activityGeneration : Nat
  deriving DecidableEq

structure ServiceCommandTransaction where
  command : CommandCommit
  effectPayloads : List ServiceEffectPayloadInput
  operationIdempotency : Option OperationIdempotency
  boundConnection : Option BoundConnectionGuard
  mediaActivity : Option MediaActivityGuard
  replacementConnection : Option ReplacementConnectionPromotion
  deriving DecidableEq

structure BoundConnectionStateCommit where
  tenantId : TenantId
  callId : CallId
  expectedVersion : Nat
  commandId : CommandId
  legId : LegId
  bindingGeneration : Nat
  connectionId : ConnectionId
  worker : WorkerLease
  state : LegState
  failure : Option FailureDetails
  atTime : Timestamp

structure BoundSourceTerminationCommit where
  tenantId : TenantId
  callId : CallId
  expectedVersion : Nat
  commandId : CommandId
  sourceLegId : LegId
  bindingGeneration : Nat
  connectionId : ConnectionId
  worker : WorkerLease
  reason : SourceBeforeAnswerTermination
  atTime : Timestamp

structure MediaActivityCommit where
  tenantId : TenantId
  callId : CallId
  expectedVersion : Nat
  commandId : CommandId
  legId : LegId
  bindingGeneration : Nat
  connectionId : ConnectionId
  activityGeneration : Nat
  worker : WorkerLease
  atTime : Timestamp
  dueAt : Timestamp

structure ServiceCommandView where
  command : CommandCommitView
  effectPayloads : List StoredServiceEffectPayload
  deriving DecidableEq

inductive ServiceCommandOutcome where
  | committed (view : ServiceCommandView)
  | replayed (view : ServiceCommandView)

structure ControlCommandTransaction where
  commandId : CommandId
  tenantId : TenantId
  callId : CallId
  legId : LegId
  bindingGeneration : Nat
  worker : WorkerLease
  intent : ControlIntent
  atTime : Timestamp
  operationIdempotency : Option OperationIdempotency
  deriving DecidableEq

structure StoredControlCommand where
  commandId : CommandId
  tenantId : TenantId
  callId : CallId
  legId : LegId
  bindingGeneration : Nat
  worker : WorkerLease
  intent : ControlIntent
  recordedAt : Timestamp
  deriving DecidableEq


structure ControlOutboxRecord where
  effectId : EffectId
  commandId : CommandId
  tenantId : TenantId
  callId : CallId
  legId : LegId
  bindingGeneration : Nat
  worker : WorkerLease
  sequence : Nat
  intent : ControlIntent
  availableAt : Timestamp
  state : OutboxState
  deriving DecidableEq

structure ControlCommandView where
  command : StoredControlCommand
  effect : ControlOutboxRecord
  deriving DecidableEq

inductive ControlCommandOutcome where
  | enqueued (view : ControlCommandView)
  | replayed (view : ControlCommandView)

structure ClaimedControlEffect where
  record : ControlOutboxRecord
  claimGeneration : Nat

inductive OperationIdempotencyReceipt where
  | createCall
  | serviceCommand (operation : ServiceOperationKind) (view : ServiceCommandView)
  | controlCommand (operation : ServiceOperationKind) (view : ControlCommandView)
  deriving DecidableEq

structure OutboundConnectionBind where
  operationId : CommandId
  effectId : EffectId
  claimGeneration : Nat
  tenantId : TenantId
  callId : CallId
  legId : LegId
  bindingGeneration : Nat
  worker : WorkerLease
  connectionId : ConnectionId
  transport : AttachmentTransport
  principalFingerprint : PrincipalFingerprint
  atTime : Timestamp
  deriving DecidableEq

inductive OutboundConnectionBindOutcome where
  | bound (binding : ConnectionBinding)
  | replayed (binding : ConnectionBinding)

/-- Delivery identifier of a context message, issued by the media stack. -/
structure MessageId where
  value : String
  deriving DecidableEq

/-- An initial context as recorded. The request to record one has the same fields. -/
structure StoredInitialContext where
  tenantId : TenantId
  callId : CallId
  sourceConnectionId : ConnectionId
  sourceLegId : LegId
  sourceBindingGeneration : Nat
  targetLegId : LegId
  targetBindingGeneration : Nat
  messageId : MessageId
  envelope : List UInt8
  initialSipHeaders : List (String × String)
  recordedAt : Timestamp
  deriving DecidableEq

abbrev InitialContextRecordRequest := StoredInitialContext

inductive InitialContextRecordOutcome where
  | recorded (context : StoredInitialContext)
  | replayed (context : StoredInitialContext)

structure ExternalReferenceBinding where
  legId : LegId
  bindingGeneration : Nat
  role : ProviderReferenceRole
  value : ExternalReferenceValue
  deriving DecidableEq

structure StoredExternalReference where
  tenantId : TenantId
  callId : CallId
  legId : LegId
  bindingGeneration : Nat
  role : ProviderReferenceRole
  effectId : EffectId
  value : ExternalReferenceValue
  boundAt : Timestamp

inductive ServiceEffectResult where
  | succeeded
  | failed (failure : FailureDetails)
  deriving DecidableEq

structure EffectResultReconciliation where
  tenantId : TenantId
  callId : CallId
  effectId : EffectId
  worker : WorkerLease
  claimGeneration : Nat
  result : ServiceEffectResult
  externalReference : Option ExternalReferenceBinding
  additionalExternalReferences : List ExternalReferenceBinding
  followUp : Option ServiceCommandTransaction
  atTime : Timestamp
  deriving DecidableEq

inductive CompletedServiceEffect where
  | call (record : OutboxRecord)
  | control (record : ControlOutboxRecord)

structure EffectResultView where
  effect : CompletedServiceEffect
  externalReference : Option StoredExternalReference
  additionalExternalReferences : List StoredExternalReference
  releasedProviderEvents : List ProviderEventEnvelope
  followUp : Option ServiceCommandView

inductive EffectResultOutcome where
  | reconciled (view : EffectResultView)
  | replayed (view : EffectResultView)

structure ProviderEventReconciliationTransaction where
  account : ProviderAccountKey
  eventDigest : ProviderEventDigest
  claimGeneration : Nat
  worker : WorkerLease
  target : ProviderEventTarget
  followUp : Option ServiceCommandTransaction
  atTime : Timestamp
  deriving DecidableEq

structure ProviderEventReconciliationView where
  event : ProviderEventEnvelope
  target : ProviderEventTarget
  worker : WorkerLease
  claimGeneration : Nat
  followUp : Option ServiceCommandView

inductive ProviderEventReconciliationOutcome where
  | reconciled (view : ProviderEventReconciliationView)
  | replayed (view : ProviderEventReconciliationView)

end Bridgefu.CallService
