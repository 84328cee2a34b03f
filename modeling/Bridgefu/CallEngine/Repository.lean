/- digest: Rows, requests and input checks of the durable call repository contract. -/

import Bridgefu.CallEngine.Decide
import Bridgefu.Lib.Table

set_option autoImplicit false

namespace Bridgefu.CallEngine

open Lib

structure CommandId where
  uuid : Nat
  deriving DecidableEq

structure EffectId where
  uuid : Nat
  deriving DecidableEq

structure AttachmentId where
  uuid : Nat
  deriving DecidableEq

structure WorkerId where
  uuid : Nat
  deriving DecidableEq

structure IdempotencyKeyDigest where
  digest : Nat
  deriving DecidableEq

structure RequestDigest where
  digest : Nat
  deriving DecidableEq

structure AttachmentTokenDigest where
  digest : Nat
  deriving DecidableEq

structure PrincipalFingerprint where
  digest : Nat
  deriving DecidableEq

structure ProviderEventDigest where
  digest : Nat
  deriving DecidableEq

structure ProviderPayloadDigest where
  digest : Nat
  deriving DecidableEq

structure ConnectionId where
  value : String
  deriving DecidableEq

structure ProviderAccountKey where
  value : String
  deriving DecidableEq

structure ProviderCallId where
  value : String
  deriving DecidableEq

structure JsonValue where
  encoded : String
  deriving DecidableEq

/-- An ordered set of strings: the strictly increasing list of its members. -/
structure StringSet where
  items : List String
  sorted : items.Pairwise (· < ·)
  deriving DecidableEq

def StringSet.empty : StringSet := ⟨[], .nil⟩

def StringSet.isSubset (required owned : StringSet) : Bool := required.items.all (· ∈ owned.items)

inductive RepositoryError where
  | notFound
  | capacityExceeded
  | staleWorkerFence
  | workerCapabilityUnavailable
  | versionConflict
  | commandConflict
  | idempotencyConflict
  | attachmentRejected
  | attachmentConflict
  | providerEventConflict
  | providerReferenceConflict
  | staleClaim
  | counterExhausted
  | invalidInput (reason : String)
  | domainRejected
  | unavailable
  deriving DecidableEq


/-- The shared body of the repository counters' `next`. -/
def nextCounter (current : Nat) : Except RepositoryError Nat :=
  if current ≥ maxPersistedGeneration then .error .counterExhausted else .ok (current + 1)

@[simp] theorem nextCounter_eq_ok (current next : Nat) :
    nextCounter current = .ok next ↔ current < maxPersistedGeneration ∧ next = current + 1 := by
  unfold nextCounter
  split
  · simp only [reduceCtorEq, false_iff]
    omega
  · rw [Except.ok.injEq]
    omega

structure WorkerLease where
  workerId : WorkerId
  fence : Nat
  deriving DecidableEq

/-- A route catalog digest, held as its canonical hexadecimal text. -/
structure RouteCatalogFingerprint where
  hex : String
  deriving DecidableEq

def isLowerHex (c : Char) : Bool :=
  (decide ('0' ≤ c) && decide (c ≤ '9')) || (decide ('a' ≤ c) && decide (c ≤ 'f'))

def RouteCatalogFingerprint.fromStr (value : String) : Option RouteCatalogFingerprint :=
  if value.utf8ByteSize ≠ 64 ∨ ¬ value.toList.all isLowerHex then none else some ⟨value⟩

def routeCatalogCapabilityLabel : String := "bridgefu.route_catalog.sha256:"

/-- The text after the reserved route-catalog label, for a capability that carries it. -/
def routeCatalogCapability? (capability : String) : Option String :=
  if routeCatalogCapabilityLabel.toList.isPrefixOf capability.toList then
    some (String.ofList (capability.toList.drop routeCatalogCapabilityLabel.length))
  else none

/-- The sole advertised route catalog of a capability set, if any. -/
def RouteCatalogFingerprint.fromCapabilities (capabilities : StringSet) :
    Except RepositoryError (Option RouteCatalogFingerprint) :=
  match capabilities.items.filterMap routeCatalogCapability? with
  | [] => .ok none
  | first :: others => do
    let fingerprint ← orFail (RouteCatalogFingerprint.fromStr first)
      (.invalidInput "invalid route catalog fingerprint")
    reject (others ≠ []) (.invalidInput "multiple route catalog fingerprints")
    return some fingerprint

structure WorkerSnapshot where
  lease : WorkerLease
  maxCalls : Nat
  reservedCalls : Nat
  draining : Bool
  capabilities : StringSet
  updatedAt : Timestamp
  leaseExpiresAt : Timestamp

structure RegisterWorker where
  workerId : WorkerId
  maxCalls : Nat
  capabilities : StringSet
  atTime : Timestamp
  leaseTtl : Nat

structure ActivateWorkerCapabilities where
  worker : WorkerLease
  capabilities : StringSet
  atTime : Timestamp

structure RenewWorkerLease where
  worker : WorkerLease
  leaseTtl : Nat
  atTime : Timestamp

structure WorkerAssignment where
  lease : WorkerLease
  routeCatalogFingerprint : Option RouteCatalogFingerprint
  assignedAt : Timestamp
  releasedAt : Option Timestamp
  deriving DecidableEq

inductive AttachmentTransport where
  | sip
  | webRtc
  deriving DecidableEq

structure ConnectionBinding where
  connectionId : ConnectionId
  legId : LegId
  bindingGeneration : Nat
  transport : AttachmentTransport
  principalFingerprint : PrincipalFingerprint
  boundAt : Timestamp
  deriving DecidableEq

structure StoredCall where
  aggregate : CallAggregate
  assignment : WorkerAssignment
  bindings : Table LegId ConnectionBinding
  deriving DecidableEq

inductive AttachmentPurpose where
  | publicInbound
  | providerMedia
  deriving DecidableEq

structure AttachmentIssue where
  attachmentId : AttachmentId
  tokenDigest : AttachmentTokenDigest
  purpose : AttachmentPurpose
  legId : LegId
  bindingGeneration : Nat
  transport : AttachmentTransport
  expectedPrincipal : PrincipalFingerprint
  expiresAt : Timestamp
  deriving DecidableEq

structure CreateCall where
  initial : CallAggregate
  commandId : CommandId
  command : CallCommand
  worker : WorkerLease
  idempotencyKey : IdempotencyKeyDigest
  requestDigest : RequestDigest
  attachments : List AttachmentIssue
  atTime : Timestamp

inductive CreateCallOutcome where
  | created (call : StoredCall)
  | replayed (call : StoredCall)

structure DeadlineClaimGuard where
  callId : CallId
  kind : DeadlineKind
  generation : Nat
  worker : WorkerLease
  claimGeneration : Nat
  deriving DecidableEq

structure StoredCommand where
  commandId : CommandId
  tenantId : TenantId
  callId : CallId
  observedVersion : Nat
  resultVersion : Nat
  command : CallCommand
  worker : WorkerLease
  attachments : List AttachmentIssue
  deadlineClaim : Option DeadlineClaimGuard
  disposition : CommandDisposition
  recordedAt : Timestamp
  deriving DecidableEq

structure CommandCommit where
  tenantId : TenantId
  callId : CallId
  expectedVersion : Nat
  commandId : CommandId
  command : CallCommand
  worker : WorkerLease
  attachments : List AttachmentIssue
  deadlineClaim : Option DeadlineClaimGuard
  atTime : Timestamp
  deriving DecidableEq

inductive OutboxState where
  | ready
  | claimed (worker : WorkerLease) (generation : Nat)
      (claimedAt expiresAt : Timestamp)
  | succeeded (atTime : Timestamp)
  | failed (atTime : Timestamp) (failure : FailureDetails)
  deriving DecidableEq

structure OutboxRecord where
  effectId : EffectId
  commandId : CommandId
  ordinal : Nat
  tenantId : TenantId
  callId : CallId
  aggregateVersion : Nat
  worker : WorkerLease
  intent : EffectIntent
  availableAt : Timestamp
  state : OutboxState
  deriving DecidableEq

structure ClaimedOutbox where
  record : OutboxRecord
  claimGeneration : Nat

inductive OutboxCompletion where
  | succeeded
  | failed (failure : FailureDetails)

structure CommandCommitView where
  command : StoredCommand
  call : StoredCall
  outbox : List OutboxRecord
  deriving DecidableEq

inductive CommandCommitOutcome where
  | committed (view : CommandCommitView)
  | replayed (view : CommandCommitView)
  deriving DecidableEq

def CommandCommitOutcome.view : CommandCommitOutcome → CommandCommitView
  | .committed view | .replayed view => view

/-- Proof of a valid attachment, handed out by inspection and spent by consumption. -/
structure AttachmentCandidate where
  attachmentId : AttachmentId
  tokenDigest : AttachmentTokenDigest
  purpose : AttachmentPurpose
  tenantId : TenantId
  callId : CallId
  legId : LegId
  bindingGeneration : Nat
  transport : AttachmentTransport
  worker : WorkerLease
  assignment : WorkerAssignment
  expiresAt : Timestamp
  expectedPrincipal : PrincipalFingerprint
  expectedVersion : Nat
  requiredSipCorrelation : Option (String × String)
  deriving DecidableEq

structure AttachmentLookup where
  tokenDigest : AttachmentTokenDigest
  tenantId : TenantId
  transport : AttachmentTransport
  principalFingerprint : PrincipalFingerprint
  worker : WorkerLease
  atTime : Timestamp

structure AttachmentConsume where
  candidate : AttachmentCandidate
  commandId : CommandId
  command : CallCommand
  connectionId : ConnectionId
  principalFingerprint : PrincipalFingerprint
  principalExpiresAt : Option Timestamp
  atTime : Timestamp

structure ConsumedAttachment where
  binding : ConnectionBinding
  commit : CommandCommitView

inductive ProviderEventState where
  | pendingReference
  | ready
  | claimed (worker : WorkerLease) (generation : Nat)
      (claimedAt expiresAt : Timestamp)
  | applied
  deriving DecidableEq

inductive ProviderReferenceRole where
  | media
  | destination
  deriving DecidableEq

structure ProviderEventTarget where
  tenantId : TenantId
  callId : CallId
  legId : LegId
  role : ProviderReferenceRole
  deriving DecidableEq

structure ProviderEventEnvelope where
  account : ProviderAccountKey
  eventDigest : ProviderEventDigest
  payloadDigest : ProviderPayloadDigest
  providerCallId : ProviderCallId
  kind : String
  payload : JsonValue
  occurredAt : Option Timestamp
  receivedAt : Timestamp
  receiptSequence : Nat
  target : Option ProviderEventTarget
  state : ProviderEventState
  appliedAt : Option Timestamp
  deriving DecidableEq

structure ProviderEventInput where
  account : ProviderAccountKey
  eventDigest : ProviderEventDigest
  payloadDigest : ProviderPayloadDigest
  providerCallId : ProviderCallId
  kind : String
  payload : JsonValue
  occurredAt : Option Timestamp
  receivedAt : Timestamp

inductive ProviderEventOutcome where
  | accepted (event : ProviderEventEnvelope)
  | duplicate (event : ProviderEventEnvelope)

structure BindProviderReference where
  tenantId : TenantId
  callId : CallId
  legId : LegId
  role : ProviderReferenceRole
  account : ProviderAccountKey
  providerCallId : ProviderCallId
  worker : WorkerLease
  atTime : Timestamp

structure ClaimedProviderEvent where
  event : ProviderEventEnvelope
  claimGeneration : Nat

structure ProviderEventCommit where
  account : ProviderAccountKey
  eventDigest : ProviderEventDigest
  claimGeneration : Nat
  worker : WorkerLease
  command : CommandCommit
  atTime : Timestamp
  deriving DecidableEq

structure ProviderEventCommitOutcome where
  event : ProviderEventEnvelope
  command : CommandCommitOutcome

structure TerminalProviderEventAcknowledge where
  account : ProviderAccountKey
  eventDigest : ProviderEventDigest
  claimGeneration : Nat
  worker : WorkerLease
  target : ProviderEventTarget
  atTime : Timestamp
  deriving DecidableEq

inductive TerminalProviderEventAcknowledgeOutcome where
  | acknowledged (event : ProviderEventEnvelope)
  | replayed (event : ProviderEventEnvelope)

inductive DeadlineState where
  | pending
  | claimed (worker : WorkerLease) (generation : Nat) (expiresAt : Timestamp)
  | cancelled (atTime : Timestamp)
  | completed (atTime : Timestamp)
  deriving DecidableEq

structure DeadlineRecord where
  tenantId : TenantId
  callId : CallId
  kind : DeadlineKind
  generation : Nat
  dueAt : Timestamp
  state : DeadlineState

structure ClaimedDeadline where
  record : DeadlineRecord
  claimGeneration : Nat

structure RestartClaim where
  call : StoredCall
  previousFence : Nat

/-- Durations and instants are in nanoseconds. -/
def seconds (n : Nat) : Nat := n * 1000000000

def idempotencyRetention : Nat := seconds (24 * 60 * 60)

def minWorkerLeaseTtl : Nat := seconds 5

def maxWorkerLeaseTtl : Nat := seconds (5 * 60)

def maxCapabilityBytes : Nat := 128

def maxProviderKindBytes : Nat := 128

def maxProviderEventBytes : Nat := 64 * 1024

/-- Longest signed duration, `i64::MAX` milliseconds. -/
def maxSignedDuration : Nat := (2 ^ 63 - 1) * 1000000

/-- Last representable UTC instant. -/
def maxTimestamp : Timestamp := 8210266876799 * 1000000000 + 999999999

def chronoTtl (atTime : Timestamp) (ttl : Nat) : Except RepositoryError Timestamp := do
  reject (ttl = 0) (.invalidInput "claim TTL must be greater than zero")
  reject (ttl > maxSignedDuration) (.invalidInput "claim TTL is too large")
  reject (atTime + ttl > maxTimestamp) (.invalidInput "claim expiry overflow")
  return atTime + ttl

def idempotencyExpiry (atTime : Timestamp) : Except RepositoryError Timestamp :=
  chronoTtl atTime idempotencyRetention

def validateWorkerCapabilities (capabilities : StringSet) : Except RepositoryError Unit := do
  reject (capabilities.items.any fun capability =>
      capability.isEmpty || decide (capability.utf8ByteSize > maxCapabilityBytes) ||
        capability.toList.any isControl)
    (.invalidInput "invalid worker capability")
  let _ ← RouteCatalogFingerprint.fromCapabilities capabilities
  return ()

def validateWorkerLeaseTtl (ttl : Nat) : Except RepositoryError Unit :=
  reject (ttl < minWorkerLeaseTtl ∨ ttl > maxWorkerLeaseTtl)
    (.invalidInput "invalid worker lease TTL")

def validateRegisterWorker (request : RegisterWorker) : Except RepositoryError Unit := do
  reject (request.maxCalls = 0) (.invalidInput "worker max_calls must be greater than zero")
  validateWorkerCapabilities request.capabilities
  validateWorkerLeaseTtl request.leaseTtl

def workerLeaseExpiry (atTime : Timestamp) (ttl : Nat) : Except RepositoryError Timestamp := do
  validateWorkerLeaseTtl ttl
  chronoTtl atTime ttl

def validIdentifier (value : String) (maxBytes : Nat) : Bool :=
  !value.isEmpty && decide (value.utf8ByteSize ≤ maxBytes) && !value.toList.any isControl

def validateProviderEvent (request : ProviderEventInput) : Except RepositoryError Unit := do
  reject (¬ validIdentifier request.kind maxProviderKindBytes)
    (.invalidInput "invalid provider event kind")
  reject (request.payload.encoded.utf8ByteSize > maxProviderEventBytes)
    (.invalidInput "provider payload is too large")

/-- Does the replacement of the call reserve this Telnyx generation of the leg? -/
def CallAggregate.pendingTelnyx (a : CallAggregate) (legId : LegId) (generation : Nat) : Bool :=
  a.replacement.any fun replacement => replacement.legId = legId ∧
    replacement.pendingKind = .telnyx ∧ replacement.pendingBindingGeneration = generation

def validateAttachmentIssue (call : CallAggregate) (issue : AttachmentIssue)
    (atTime : Timestamp) : Except RepositoryError Unit := do
  reject (issue.expiresAt ≤ atTime) (.invalidInput "attachment expiry must be in the future")
  let leg ← orFail (call.leg issue.legId) (.invalidInput "attachment leg is outside call")
  let validState : Bool := match issue.purpose with
    | .publicInbound => leg.direction = .inbound ∧ leg.state = .awaitingAttach
    | .providerMedia =>
      let ordinary : Bool := leg.direction = .outbound ∧ leg.kind = .telnyx ∧
        leg.bindingGeneration = issue.bindingGeneration ∧
        leg.state ∈ [LegState.pending, .signaling]
      (ordinary || call.pendingTelnyx issue.legId issue.bindingGeneration) &&
        issue.transport = .sip
  reject (¬ validState)
    (.invalidInput "attachment does not match its leg purpose or generation")

end Bridgefu.CallEngine
