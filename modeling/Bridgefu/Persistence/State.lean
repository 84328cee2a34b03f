/- digest: The repository state with its tables and indexes, lease checks and claimability. -/

import Bridgefu.CallService.Repository

/-!
Operations take a state and return the next one. A failed operation returns an error and no
state, which is the rollback of a transaction. Effect identifiers come from outside as a
supply indexed by the position of the effect within the operation.
-/

set_option autoImplicit false

namespace Bridgefu.Persistence

open Lib CallEngine CallService

abbrev BindingKey := CallId × LegId × Nat
abbrev PrincipalBindingKey := PrincipalFingerprint × BindingKey
abbrev DeadlineKey := CallId × DeadlineKind × Nat
abbrev ProviderEventKey := ProviderAccountKey × ProviderEventDigest
abbrev ProviderReferenceKey := ProviderAccountKey × ProviderCallId
abbrev ExternalBindingKey := CallId × LegId × Nat
abbrev ExternalReferenceBindingKey := CallId × LegId × Nat × ProviderReferenceRole
abbrev InitialContextKey := CallId × LegId × Nat

inductive ExternalReferenceKey where
  | provider (account : ProviderAccountKey) (providerCallId : ProviderCallId)
  | signaling (label : String) (value : String)
  deriving DecidableEq

structure StoredServiceCommandResult where
  request : ServiceCommandTransaction
  view : ServiceCommandView
  deriving DecidableEq

structure StoredControlCommandResult where
  request : ControlCommandTransaction
  view : ControlCommandView

structure StoredOutboundBindingResult where
  request : OutboundConnectionBind
  binding : ConnectionBinding

structure StoredReconciliationResult where
  request : EffectResultReconciliation
  view : EffectResultView

structure IdempotencyRow where
  requestDigest : RequestDigest
  callId : CallId
  expiresAt : Timestamp
  receipt : OperationIdempotencyReceipt

structure AttachmentRow where
  attachmentId : AttachmentId
  tokenDigest : AttachmentTokenDigest
  purpose : AttachmentPurpose
  tenantId : TenantId
  callId : CallId
  legId : LegId
  bindingGeneration : Nat
  transport : AttachmentTransport
  expectedPrincipal : PrincipalFingerprint
  worker : WorkerLease
  expiresAt : Timestamp
  consumedAt : Option Timestamp
  revokedAt : Option Timestamp
  binding : Option ConnectionBinding

structure ProviderReferenceRow where
  target : ProviderEventTarget
  boundAt : Timestamp

inductive RetiredOperationReceiptKind where
  | serviceCommand
  | controlCommand

/-- Proof that an operation receipt was retired only after its retention window. -/
structure RetiredOperationClaim where
  tenantId : TenantId
  keyDigest : IdempotencyKeyDigest
  requestDigest : RequestDigest
  callId : CallId
  commandId : CommandId
  operation : ServiceOperationKind
  receiptKind : RetiredOperationReceiptKind
  expiresAt : Timestamp
  retiredAt : Timestamp

/-- Evidence for a control effect cancelled because its target binding was retired. -/
structure ControlRetirementReceipt where
  effectId : EffectId
  commandId : CommandId
  tenantId : TenantId
  callId : CallId
  legId : LegId
  bindingGeneration : Nat
  retiredAt : Timestamp
  failure : FailureDetails
  deriving DecidableEq

inductive ProviderCompletionRow where
  | command (request : ProviderEventCommit) (view : CommandCommitView)
  | terminalAcknowledgement (request : TerminalProviderEventAcknowledge)
  | serviceReconciliation (request : ProviderEventReconciliationTransaction)
      (view : ProviderEventReconciliationView)

/-- All rows of the repository. The authority time is the database clock of a SQL
transaction, and absent for the standalone repository. -/
structure MemoryState where
  authorityTime : Option Timestamp
  workers : Table WorkerId WorkerSnapshot
  calls : Table CallId StoredCall
  legOwners : Table LegId CallId
  commands : Table CommandId StoredCommand
  commandResults : Table CommandId CommandCommitView
  idempotency : Table (TenantId × IdempotencyKeyDigest) IdempotencyRow
  attachments : Table AttachmentTokenDigest AttachmentRow
  attachmentIds : Table AttachmentId AttachmentTokenDigest
  activeAttachments : Table BindingKey AttachmentTokenDigest
  connectionOwners : Table ConnectionId BindingKey
  usedConnectionIds : Table ConnectionId Unit
  principalBindings : Table PrincipalBindingKey ConnectionId
  providerEvents : Table ProviderEventKey ProviderEventEnvelope
  providerReferences : Table ProviderReferenceKey ProviderReferenceRow
  providerCompletions : Table ProviderEventKey ProviderCompletionRow
  providerReceiptSequence : Option Nat
  outbox : Table EffectId OutboxRecord
  deadlines : Table DeadlineKey DeadlineRecord
  serviceManagedCalls : Table CallId Unit
  executionPlans : Table CallId CallExecutionPlan
  serviceEffectPayloads : Table EffectId StoredServiceEffectPayload
  serviceCommandResults : Table CommandId StoredServiceCommandResult
  mediaActivityGenerations : Table BindingKey Nat
  controlCommands : Table CommandId StoredControlCommand
  controlCommandResults : Table CommandId StoredControlCommandResult
  controlOutbox : Table EffectId ControlOutboxRecord
  controlSequences : Table ExternalBindingKey Nat
  outboundBindingResults : Table CommandId StoredOutboundBindingResult
  initialContexts : Table InitialContextKey StoredInitialContext
  initialContextMessageIds : Table (CallId × MessageId) InitialContextKey
  externalReferences : Table ExternalReferenceKey StoredExternalReference
  externalReferenceBindings : Table ExternalReferenceBindingKey ExternalReferenceKey
  reconciliationResults : Table EffectId StoredReconciliationResult
  retiredOperationClaims : Table CommandId RetiredOperationClaim
  controlRetirements : Table EffectId ControlRetirementReceipt

/-- The empty repository. -/
def MemoryState.initial : MemoryState where
  authorityTime := none
  workers := .empty
  calls := .empty
  legOwners := .empty
  commands := .empty
  commandResults := .empty
  idempotency := .empty
  attachments := .empty
  attachmentIds := .empty
  activeAttachments := .empty
  connectionOwners := .empty
  usedConnectionIds := .empty
  principalBindings := .empty
  providerEvents := .empty
  providerReferences := .empty
  providerCompletions := .empty
  providerReceiptSequence := none
  outbox := .empty
  deadlines := .empty
  serviceManagedCalls := .empty
  executionPlans := .empty
  serviceEffectPayloads := .empty
  serviceCommandResults := .empty
  mediaActivityGenerations := .empty
  controlCommands := .empty
  controlCommandResults := .empty
  controlOutbox := .empty
  controlSequences := .empty
  outboundBindingResults := .empty
  initialContexts := .empty
  initialContextMessageIds := .empty
  externalReferences := .empty
  externalReferenceBindings := .empty
  reconciliationResults := .empty
  retiredOperationClaims := .empty
  controlRetirements := .empty

abbrev EffectSupply := Nat → EffectId

namespace MemoryState

variable (state : MemoryState) (lease : WorkerLease)

def authoritativeTime (requested : Timestamp) : Timestamp :=
  state.authorityTime.getD requested

def leasedWorker : Except RepositoryError WorkerSnapshot :=
  orFail ((state.workers.get? lease.workerId).filter fun worker => worker.lease = lease)
    .staleWorkerFence

def ensureWorker (allowDraining : Bool) (atTime : Timestamp) : Except RepositoryError Unit := do
  let worker ← state.leasedWorker lease
  reject (worker.leaseExpiresAt ≤ state.authoritativeTime atTime ∨
      (worker.draining ∧ ¬ allowDraining)) .staleWorkerFence

def ensureWorkerCapabilities (requiredCapabilities : List String) (atTime : Timestamp) :
    Except RepositoryError Unit := do
  state.ensureWorker lease false atTime
  let worker ← state.leasedWorker lease
  reject (¬ requiredCapabilities.all (· ∈ worker.capabilities.items)) .workerCapabilityUnavailable

def tenantCall (tenantId : TenantId) (callId : CallId) : Except RepositoryError StoredCall :=
  orFail ((state.calls.get? callId).filter fun call => call.aggregate.tenantId = tenantId) .notFound

def ensureCallWorker (tenantId : TenantId) (callId : CallId) (worker : WorkerLease)
    (atTime : Timestamp) : Except RepositoryError Unit := do
  state.ensureWorker worker true atTime
  let call ← state.tenantCall tenantId callId
  reject (call.assignment.releasedAt.isSome ∨ call.assignment.lease ≠ worker) .staleWorkerFence

def rejectServiceManagedCall (tenantId : TenantId) (callId : CallId) (worker : WorkerLease)
    (atTime : Timestamp) : Except RepositoryError Unit :=
  if state.serviceManagedCalls.contains callId then do
    state.ensureCallWorker tenantId callId worker atTime
    .error (.invalidInput "service-managed call requires service repository transaction")
  else .ok ()

def ensureTerminalCallWorker (target : ProviderEventTarget) (worker : WorkerLease)
    (atTime : Timestamp) : Except RepositoryError Unit := do
  state.ensureWorker worker true atTime
  let call ← state.tenantCall target.tenantId target.callId
  reject (call.assignment.lease ≠ worker) .staleWorkerFence
  reject (call.assignment.releasedAt.isNone ∨ ¬ call.aggregate.state.isTerminal)
    (.invalidInput "terminal provider acknowledgement requires a released terminal call")
  reject (call.aggregate.leg target.legId).isNone .providerReferenceConflict

end MemoryState

def OutboxState.isUnfinished : OutboxState → Bool
  | .ready | .claimed .. => true
  | .succeeded _ | .failed .. => false

def outboxIsUnfinished (record : OutboxRecord) : Bool := OutboxState.isUnfinished record.state

def controlOutboxIsUnfinished (record : ControlOutboxRecord) : Bool :=
  OutboxState.isUnfinished record.state

def OutboxState.claimableAt (state : OutboxState) (atTime : Timestamp) : Bool :=
  match state with
  | .ready => true
  | .claimed _ _ claimedAt expiresAt => decide (claimedAt ≤ atTime) && decide (expiresAt ≤ atTime)
  | .succeeded _ | .failed .. => false

/-- Order of the effects of one call: version, command, ordinal, effect. -/
def outboxOrderLt (left right : OutboxRecord) : Bool :=
  decide (left.aggregateVersion < right.aggregateVersion) ||
    (decide (left.aggregateVersion = right.aggregateVersion) &&
      (decide (left.commandId.uuid < right.commandId.uuid) ||
        (decide (left.commandId.uuid = right.commandId.uuid) &&
          (decide (left.ordinal < right.ordinal) ||
            (decide (left.ordinal = right.ordinal) &&
              decide (left.effectId.uuid < right.effectId.uuid))))))

/-- ASCII case-insensitive comparison with a fixed lower-case text. -/
def eqIgnoreAsciiCase (value expected : String) : Bool :=
  decide (value.toList.map Char.toLower = expected.toList)

namespace MemoryState

variable (state : MemoryState) (callId : CallId)

def hasUnfinishedProviderEvents : Bool :=
  state.providerEvents.any fun _ event =>
    (event.target.any fun target => target.callId = callId) &&
      match event.state with
      | .ready | .claimed .. => true
      | .pendingReference | .applied => false

def hasUnfinishedOutbox : Bool :=
  state.outbox.any fun _ record => decide (record.callId = callId) && outboxIsUnfinished record

def hasUnfinishedControlOutbox : Bool :=
  state.controlOutbox.any fun _ record =>
    decide (record.callId = callId) && controlOutboxIsUnfinished record

def assignmentRequiresCatalogContinuity (call : StoredCall) : Bool :=
  call.assignment.releasedAt.isNone ||
    (call.aggregate.state.isTerminal &&
      (state.hasUnfinishedOutbox call.aggregate.id ||
        state.hasUnfinishedControlOutbox call.aggregate.id ||
        state.hasUnfinishedProviderEvents call.aggregate.id))

def controlOutboxClaimable (record : ControlOutboxRecord) (worker : WorkerLease)
    (atTime : Timestamp) : Bool :=
  decide (record.worker = worker) && decide (record.availableAt ≤ atTime) &&
    OutboxState.claimableAt record.state atTime &&
    ((state.calls.get? record.callId).any fun call =>
      decide (call.assignment.lease = worker) && call.assignment.releasedAt.isNone &&
        (call.aggregate.leg record.legId).any fun leg =>
          decide (leg.bindingGeneration = record.bindingGeneration) &&
            decide (leg.state = .connected ∨ leg.state = .held)) &&
    !state.controlOutbox.any fun _ predecessor =>
      decide (predecessor.callId = record.callId) && decide (predecessor.legId = record.legId) &&
        decide (predecessor.bindingGeneration = record.bindingGeneration) &&
        decide (predecessor.sequence < record.sequence) && controlOutboxIsUnfinished predecessor

def outboxClaimable (record : OutboxRecord) (worker : WorkerLease) (atTime : Timestamp) : Bool :=
  decide (record.worker = worker) && decide (record.availableAt ≤ atTime) &&
    OutboxState.claimableAt record.state atTime &&
    ((state.calls.get? record.callId).any fun call => call.assignment.lease = worker) &&
    !state.outbox.any fun _ predecessor =>
      decide (predecessor.callId = record.callId) && outboxOrderLt predecessor record &&
        outboxIsUnfinished predecessor

/-- Is the event open to a claim, leaving its place in the queue aside? -/
def providerEventOpen (event : ProviderEventEnvelope) (atTime : Timestamp) : Bool :=
  (match event.state with
    | .ready => true
    | .claimed _ _ _ expiresAt => decide (expiresAt ≤ atTime)
    | .pendingReference | .applied => false) &&
    decide (event.receivedAt ≤ atTime)

def providerEventClaimable (event : ProviderEventEnvelope) (worker : WorkerLease)
    (atTime : Timestamp) : Bool :=
  providerEventOpen event atTime &&
    (event.target.any fun target =>
      ((state.calls.get? target.callId).filter fun call =>
          call.aggregate.tenantId = target.tenantId ∧ call.assignment.lease = worker).any fun call =>
        -- a bridged report is held back until the leg has a binding of its current generation
        !eqIgnoreAsciiCase event.kind "call.bridged" ||
          ((call.aggregate.leg target.legId).any fun leg =>
            (call.bindings.get? target.legId).any fun binding =>
              binding.bindingGeneration = leg.bindingGeneration)) &&
    !state.providerEvents.any fun _ predecessor =>
      decide (predecessor.account = event.account) &&
        decide (predecessor.providerCallId = event.providerCallId) &&
        decide (predecessor.receiptSequence < event.receiptSequence) &&
        decide (predecessor.state ≠ .applied)

end MemoryState

def validateProviderCommandTarget (target : ProviderEventTarget) (command : CallCommand) :
    Except RepositoryError Unit :=
  match command with
  | .setLegState _ legId .. | .providerMediaStarted _ legId _ | .rotateLegBinding _ legId _ =>
    reject (legId ≠ target.legId) .providerReferenceConflict
  | _ => .ok ()

def validateCommandTimestamp (command : CallCommand) (atTime : Timestamp) :
    Except RepositoryError Unit :=
  reject (command.atTime ≠ atTime)
    (.invalidInput "command time must equal repository transaction time")

end Bridgefu.Persistence
