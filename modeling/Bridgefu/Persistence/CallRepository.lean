/- digest: The call repository: workers, calls, attachments, provider events, outbox, deadlines. -/

import Bridgefu.Persistence.Calls

set_option autoImplicit false

namespace Bridgefu.Persistence.MemoryState

open Lib CallEngine CallService

variable (state : MemoryState) (worker : WorkerLease)

def pinsOtherCatalog (workerId : WorkerId) (requested : Option RouteCatalogFingerprint) : Bool :=
  state.calls.any fun _ call => decide (call.assignment.lease.workerId = workerId) &&
    decide (call.assignment.routeCatalogFingerprint ≠ requested) &&
    state.assignmentRequiresCatalogContinuity call

def registerWorker (request : RegisterWorker) :
    Except RepositoryError (MemoryState × WorkerSnapshot) := do
  validateRegisterWorker request
  let requestedRouteCatalog ← RouteCatalogFingerprint.fromCapabilities request.capabilities
  let atTime := state.authoritativeTime request.atTime
  let leaseExpiresAt ← workerLeaseExpiry atTime request.leaseTtl
  let admitted ← (match state.workers.get? request.workerId with
    | some existing => do
      reject (request.maxCalls < existing.reservedCalls)
        (.invalidInput "worker capacity is below existing reservations")
      reject (state.pinsOtherCatalog request.workerId requestedRouteCatalog)
        (.invalidInput "worker route catalog change requires draining existing assignments")
      let fence ← nextCounter existing.lease.fence
      return (fence, existing.reservedCalls)
    | none => .ok (1, 0))
  let snapshot : WorkerSnapshot :=
    { lease := ⟨request.workerId, admitted.1⟩, maxCalls := request.maxCalls
      reservedCalls := admitted.2, draining := false, capabilities := request.capabilities
      updatedAt := atTime, leaseExpiresAt := leaseExpiresAt }
  return ({ state with workers := state.workers.insert request.workerId snapshot }, snapshot)

def activateWorkerCapabilities (request : ActivateWorkerCapabilities) :
    Except RepositoryError (MemoryState × WorkerSnapshot) := do
  validateWorkerCapabilities request.capabilities
  reject (request.capabilities.items = [])
    (.invalidInput "activated worker capabilities must not be empty")
  let atTime := state.authoritativeTime request.atTime
  let snapshot ← state.leasedWorker request.worker
  reject (atTime ≥ snapshot.leaseExpiresAt ∨ snapshot.draining) .staleWorkerFence
  if snapshot.capabilities = request.capabilities then return (state, snapshot)
  else
    reject (snapshot.capabilities.items ≠ [])
      (.invalidInput "worker capabilities are already activated")
    let next := { snapshot with capabilities := request.capabilities, updatedAt := atTime }
    return ({ state with workers := state.workers.insert request.worker.workerId next }, next)

def renewWorkerLease (request : RenewWorkerLease) :
    Except RepositoryError (MemoryState × WorkerSnapshot) := do
  validateWorkerLeaseTtl request.leaseTtl
  let atTime := state.authoritativeTime request.atTime
  let snapshot ← state.leasedWorker request.worker
  reject (atTime ≥ snapshot.leaseExpiresAt) .staleWorkerFence
  let leaseExpiresAt ← workerLeaseExpiry atTime request.leaseTtl
  if leaseExpiresAt ≤ snapshot.leaseExpiresAt then return (state, snapshot)
  else
    let next := { snapshot with updatedAt := atTime, leaseExpiresAt := leaseExpiresAt }
    return ({ state with workers := state.workers.insert request.worker.workerId next }, next)

def setWorkerDraining (draining : Bool) (atTime : Timestamp) :
    Except RepositoryError (MemoryState × WorkerSnapshot) := do
  let atTime := state.authoritativeTime atTime
  let snapshot ← state.leasedWorker worker
  reject (atTime ≥ snapshot.leaseExpiresAt) .staleWorkerFence
  reject (snapshot.draining ∧ ¬ draining) .staleWorkerFence
  let next := { snapshot with draining := snapshot.draining || draining, updatedAt := atTime }
  return ({ state with workers := state.workers.insert worker.workerId next }, next)

def createCall (ids : EffectSupply) (state : MemoryState) (request : CreateCall) :
    Except RepositoryError (MemoryState × CreateCallOutcome) :=
  createCallInState ids state request

def commitCommand (ids : EffectSupply) (state : MemoryState) (request : CommandCommit) :
    Except RepositoryError (MemoryState × CommandCommitOutcome) := do
  state.rejectServiceManagedCall request.tenantId request.callId request.worker request.atTime
  commitCommandInState ids state request

def releaseAssignment (tenantId : TenantId) (callId : CallId) (worker : WorkerLease)
    (atTime : Timestamp) : Except RepositoryError (MemoryState × Bool) :=
  state.releaseAssignmentInState tenantId callId worker atTime

/-- Is the leg of the row waiting for this kind of attachment? -/
def attachmentAwaited (aggregate : CallAggregate) (row : AttachmentRow) : Bool :=
  (aggregate.leg row.legId).any fun leg =>
    match row.purpose with
    | .publicInbound => decide (leg.bindingGeneration = row.bindingGeneration) &&
        decide (leg.signalingInitiator = .remote) && decide (leg.state = .awaitingAttach)
    | .providerMedia =>
      (decide (leg.bindingGeneration = row.bindingGeneration) &&
        decide (leg.signalingInitiator = .bridgefu) && decide (leg.kind = .telnyx) &&
        decide (leg.state = .pending ∨ leg.state = .signaling)) ||
      aggregate.pendingTelnyx row.legId row.bindingGeneration

def requiredSipCorrelation (callId : CallId) : Option (String × String) := do
  let plan ← state.executionPlans.get? callId
  let route ← plan.namedRoute
  let header ← route.requiredSipCorrelationHeader
  let context ← route.context
  return (header, context.correlationId)

def inspectAttachment (request : AttachmentLookup) :
    Except RepositoryError AttachmentCandidate := do
  let authorizationAt := state.authoritativeTime request.atTime
  mapFailure (state.ensureWorker request.worker true authorizationAt)
    RepositoryError.attachmentRejected
  let row ← orFail (state.attachments.get? request.tokenDigest) .attachmentRejected
  reject (row.tokenDigest ≠ request.tokenDigest ∨ row.tenantId ≠ request.tenantId ∨
      row.transport ≠ request.transport ∨
      row.expectedPrincipal ≠ request.principalFingerprint ∨ row.worker ≠ request.worker ∨
      row.expiresAt ≤ authorizationAt ∨ row.consumedAt.isSome ∨ row.revokedAt.isSome)
    .attachmentRejected
  let call ← mapFailure (state.tenantCall request.tenantId row.callId)
    RepositoryError.attachmentRejected
  reject (call.assignment.releasedAt.isSome ∨ call.assignment.lease ≠ request.worker ∨
      ¬ attachmentAwaited call.aggregate row) .attachmentRejected
  return {
    attachmentId := row.attachmentId, tokenDigest := row.tokenDigest, purpose := row.purpose
    tenantId := row.tenantId, callId := row.callId, legId := row.legId
    bindingGeneration := row.bindingGeneration, transport := row.transport, worker := row.worker
    assignment := call.assignment, expiresAt := row.expiresAt
    expectedPrincipal := row.expectedPrincipal, expectedVersion := call.aggregate.version
    requiredSipCorrelation := state.requiredSipCorrelation row.callId }

def validateAttachmentConsumeCommand (request : AttachmentConsume) :
    Except RepositoryError Unit := do
  validateCommandTimestamp request.command request.atTime
  let exact : Bool := match request.command with
    | .providerMediaAttached _ legId bindingGeneration =>
      decide (request.candidate.purpose = .providerMedia) &&
        decide (legId = request.candidate.legId) &&
        decide (bindingGeneration = request.candidate.bindingGeneration)
    | .setLegState _ legId bindingGeneration .signaling none =>
      decide (request.candidate.purpose = .publicInbound) &&
        decide (legId = request.candidate.legId) &&
        decide (bindingGeneration = request.candidate.bindingGeneration)
    | _ => false
  reject (¬ exact)
    (.invalidInput "attachment command must signal its exact leg generation")

def AttachmentConsume.binding (request : AttachmentConsume) : ConnectionBinding :=
  { connectionId := request.connectionId, legId := request.candidate.legId
    bindingGeneration := request.candidate.bindingGeneration
    transport := request.candidate.transport
    principalFingerprint := request.principalFingerprint, boundAt := request.atTime }

def AttachmentConsume.commit (request : AttachmentConsume) : CommandCommit :=
  { tenantId := request.candidate.tenantId, callId := request.candidate.callId
    expectedVersion := request.candidate.expectedVersion, commandId := request.commandId
    command := request.command, worker := request.candidate.worker, attachments := []
    deadlineClaim := none, atTime := request.atTime }

/-- Does the candidate stand for a pending replacement rather than the current generation? -/
def AttachmentConsume.replaces (request : AttachmentConsume) (call : StoredCall) : Bool :=
  decide (request.candidate.purpose = .providerMedia) &&
    call.aggregate.pendingTelnyx request.candidate.legId request.candidate.bindingGeneration

/-- Store the bound call, the owner of its connection and the consumed attachment. -/
def attachConnection (request : AttachmentConsume) (calls : Table CallId StoredCall)
    (row : AttachmentRow) : MemoryState :=
  let candidate := request.candidate
  let key : BindingKey := (candidate.callId, candidate.legId, candidate.bindingGeneration)
  { state with
    calls := calls
    connectionOwners := state.connectionOwners.insert request.connectionId key
    usedConnectionIds := state.usedConnectionIds.insert request.connectionId ()
    principalBindings := state.principalBindings.insert (request.principalFingerprint, key)
      request.connectionId
    attachments := state.attachments.insert candidate.tokenDigest row }

def consumeAttachment (ids : EffectSupply) (state : MemoryState) (request : AttachmentConsume) :
    Except RepositoryError (MemoryState × ConsumedAttachment) := do
  let candidate := request.candidate
  let authorizationAt := state.authoritativeTime request.atTime
  mapFailure (state.ensureWorker candidate.worker true authorizationAt)
    RepositoryError.attachmentRejected
  reject (request.principalExpiresAt.any (· ≤ authorizationAt)) .attachmentRejected
  validateAttachmentConsumeCommand request
  reject (state.commands.contains request.commandId ∨
      state.commandIdConflictsWithServiceNamespace request.commandId) .attachmentRejected
  let row ← orFail (state.attachments.get? candidate.tokenDigest) .attachmentRejected
  reject (row.attachmentId ≠ candidate.attachmentId ∨ row.purpose ≠ candidate.purpose ∨
      row.tenantId ≠ candidate.tenantId ∨ row.callId ≠ candidate.callId ∨
      row.legId ≠ candidate.legId ∨ row.bindingGeneration ≠ candidate.bindingGeneration ∨
      row.transport ≠ candidate.transport ∨
      row.expectedPrincipal ≠ candidate.expectedPrincipal ∨
      row.expectedPrincipal ≠ request.principalFingerprint ∨ row.worker ≠ candidate.worker ∨
      row.expiresAt ≤ authorizationAt ∨ row.consumedAt.isSome ∨ row.revokedAt.isSome)
    .attachmentRejected
  let key : BindingKey := (candidate.callId, candidate.legId, candidate.bindingGeneration)
  let principalKey : PrincipalBindingKey := (request.principalFingerprint, key)
  reject (state.usedConnectionIds.contains request.connectionId ∨
      state.principalBindings.contains principalKey) .attachmentConflict
  let binding := AttachmentConsume.binding request
  let call ← mapFailure (state.tenantCall candidate.tenantId candidate.callId)
    RepositoryError.attachmentRejected
  reject (call.assignment ≠ candidate.assignment ∨ call.assignment.releasedAt.isSome)
    .attachmentRejected
  let pendingReplacement := AttachmentConsume.replaces request call
  reject (call.bindings.contains candidate.legId ∧ ¬ pendingReplacement) .attachmentConflict
  let calls := if pendingReplacement then state.calls
    else state.calls.insert candidate.callId
      { call with bindings := call.bindings.insert candidate.legId binding }
  let attached := state.attachConnection request calls
    { row with consumedAt := some request.atTime, binding := some binding }
  let outcome ← commitCommandInState ids attached (AttachmentConsume.commit request)
  match outcome.2 with
  | .committed commit => return (outcome.1, ⟨binding, commit⟩)
  | .replayed _ => .error .attachmentRejected

def ProviderEventInput.envelope (request : ProviderEventInput)
    (target : Option ProviderEventTarget) (receiptSequence : Nat) : ProviderEventEnvelope :=
  { account := request.account, eventDigest := request.eventDigest
    payloadDigest := request.payloadDigest, providerCallId := request.providerCallId
    kind := request.kind, payload := request.payload, occurredAt := request.occurredAt
    receivedAt := request.receivedAt, receiptSequence := receiptSequence, target := target
    state := if target.isSome then .ready else .pendingReference, appliedAt := none }

def ingestProviderEvent (request : ProviderEventInput) :
    Except RepositoryError (MemoryState × ProviderEventOutcome) := do
  validateProviderEvent request
  let key := (request.account, request.eventDigest)
  match state.providerEvents.get? key with
  | some existing => do
    reject (existing.payloadDigest ≠ request.payloadDigest ∨
        existing.providerCallId ≠ request.providerCallId ∨ existing.kind ≠ request.kind ∨
        existing.payload ≠ request.payload) .providerEventConflict
    return (state, .duplicate existing)
  | none => do
    let target := (state.providerReferences.get? (request.account, request.providerCallId)).map
      ProviderReferenceRow.target
    let receiptSequence ← (match state.providerReceiptSequence with
      | some last => nextCounter last
      | none => .ok 1)
    let event := ProviderEventInput.envelope request target receiptSequence
    return ({ state with
      providerReceiptSequence := some receiptSequence
      providerEvents := state.providerEvents.insert key event }, .accepted event)

/-- A stored event after its provider reference was bound to the target. -/
def releaseEvent (account : ProviderAccountKey) (providerCallId : ProviderCallId)
    (target : ProviderEventTarget) (event : ProviderEventEnvelope) : ProviderEventEnvelope :=
  if event.account = account ∧ event.providerCallId = providerCallId ∧
      event.state = .pendingReference then
    { event with target := some target, state := .ready }
  else event

def bindProviderReferenceInState (request : BindProviderReference) :
    Except RepositoryError (MemoryState × List ProviderEventEnvelope) := do
  state.ensureCallWorker request.tenantId request.callId request.worker request.atTime
  let call ← state.tenantCall request.tenantId request.callId
  reject (call.aggregate.leg request.legId).isNone .notFound
  let target : ProviderEventTarget :=
    ⟨request.tenantId, request.callId, request.legId, request.role⟩
  let key := (request.account, request.providerCallId)
  let references ← (match state.providerReferences.get? key with
    | some existing => do
      reject (existing.target ≠ target) .providerReferenceConflict
      return state.providerReferences
    | none => .ok (state.providerReferences.insert key ⟨target, request.atTime⟩))
  let events := state.providerEvents.mapValues fun _ event =>
    releaseEvent request.account request.providerCallId target event
  let ready := events.values.filter fun event => event.account = request.account ∧
    event.providerCallId = request.providerCallId ∧ event.state ≠ .applied
  return ({ state with providerReferences := references, providerEvents := events },
    ready.insertionSort fun left right => left.receiptSequence ≤ right.receiptSequence)

def bindProviderReference (request : BindProviderReference) :
    Except RepositoryError (MemoryState × List ProviderEventEnvelope) := do
  state.rejectServiceManagedCall request.tenantId request.callId request.worker request.atTime
  state.bindProviderReferenceInState request

def providerClaimGeneration : ProviderEventState → Option Nat
  | .ready => some 0
  | .claimed _ generation _ _ => some generation
  | .pendingReference | .applied => none

def claimProviderEvent (atTime expiresAt : Timestamp) (state : MemoryState)
    (key : ProviderEventKey) :
    Except RepositoryError (MemoryState × Option ClaimedProviderEvent) := do
  let event ← orFail (state.providerEvents.get? key) .notFound
  if ¬ state.providerEventClaimable event worker atTime then return (state, none)
  else match providerClaimGeneration event.state with
    | none => return (state, none)
    | some previous => do
      let generation ← nextCounter previous
      let next := { event with state := .claimed worker generation atTime expiresAt }
      return ({ state with providerEvents := state.providerEvents.insert key next },
        some ⟨next, generation⟩)

def claimProviderEvents (atTime : Timestamp) (claimTtl limit : Nat) :
    Except RepositoryError (MemoryState × List ClaimedProviderEvent) := do
  let expiresAt ← chronoTtl atTime claimTtl
  if limit = 0 then return (state, [])
  else
    state.ensureWorker worker true atTime
    let eligible := (state.providerEvents.rows.filter fun row =>
      state.providerEventClaimable row.2 worker atTime).insertionSort fun left right =>
        left.2.receiptSequence ≤ right.2.receiptSequence
    claimEach (claimProviderEvent worker atTime expiresAt) limit state (eligible.map Prod.fst)

/-- The event is under exactly this claim, and the claim is live at this time. -/
def holdsProviderClaim (event : ProviderEventEnvelope) (worker : WorkerLease)
    (generation : Nat) (atTime : Timestamp) : Bool :=
  match event.state with
  | .claimed owner current claimedAt expiresAt => decide (owner = worker) &&
      decide (current = generation) && decide (event.receivedAt ≤ atTime) &&
      decide (claimedAt ≤ atTime) && decide (expiresAt > atTime)
  | _ => false

/-- Mark an event applied and keep the receipt of its completion. -/
def applyProviderEvent (key : ProviderEventKey) (completion : ProviderCompletionRow)
    (atTime : Timestamp) : Except RepositoryError (MemoryState × ProviderEventEnvelope) := do
  let event ← orFail (state.providerEvents.get? key) .notFound
  let next := { event with state := .applied, appliedAt := some atTime }
  return ({ state with
    providerEvents := state.providerEvents.insert key next
    providerCompletions := state.providerCompletions.insert key completion }, next)

def completeProviderEvent (ids : EffectSupply) (state : MemoryState)
    (request : ProviderEventCommit) :
    Except RepositoryError (MemoryState × ProviderEventCommitOutcome) := do
  reject (request.atTime ≠ request.command.atTime ∨ request.worker ≠ request.command.worker ∨
      request.command.command.atTime ≠ request.atTime)
    (.invalidInput "provider completion and command times or workers differ")
  state.ensureWorker request.worker true request.atTime
  let key := (request.account, request.eventDigest)
  let event ← orFail (state.providerEvents.get? key) .notFound
  checkAll (fun target : ProviderEventTarget => do
    reject (target.tenantId ≠ request.command.tenantId ∨
      target.callId ≠ request.command.callId) .providerReferenceConflict
    reject (state.serviceManagedCalls.contains target.callId)
      (.invalidInput "service-managed provider event requires service reconciliation"))
    event.target.toList
  if event.state = .applied then
    match state.providerCompletions.get? key with
    | some (.command recorded view) => do
      reject (recorded ≠ request) .staleClaim
      return (state, ⟨event, .replayed view⟩)
    | _ => .error .staleClaim
  else
    let target ← orFail event.target .providerReferenceConflict
    reject (¬ holdsProviderClaim event request.worker request.claimGeneration request.atTime)
      .staleClaim
    validateProviderCommandTarget target request.command.command
    let committed ← commitCommandInState ids state request.command
    let applied ← committed.1.applyProviderEvent key
      (.command request committed.2.view) request.atTime
    return (applied.1, ⟨applied.2, committed.2⟩)

def acknowledgeTerminalProviderEvent (request : TerminalProviderEventAcknowledge) :
    Except RepositoryError (MemoryState × TerminalProviderEventAcknowledgeOutcome) := do
  state.ensureWorker request.worker true request.atTime
  let key := (request.account, request.eventDigest)
  let event ← orFail (state.providerEvents.get? key) .notFound
  if event.state = .applied then
    match state.providerCompletions.get? key with
    | some (.terminalAcknowledgement recorded) => do
      reject (recorded ≠ request) .staleClaim
      return (state, .replayed event)
    | _ => .error .staleClaim
  else
    reject (event.target ≠ some request.target) .providerReferenceConflict
    state.ensureTerminalCallWorker request.target request.worker request.atTime
    reject (¬ holdsProviderClaim event request.worker request.claimGeneration request.atTime)
      .staleClaim
    let applied ← state.applyProviderEvent key (.terminalAcknowledgement request) request.atTime
    return (applied.1, .acknowledged applied.2)

def outboxClaimGeneration : OutboxState → Option Nat
  | .ready => some 0
  | .claimed _ generation _ _ => some generation
  | .succeeded _ | .failed .. => none

def claimOutboxRecord (atTime expiresAt : Timestamp) (state : MemoryState) (effectId : EffectId) :
    Except RepositoryError (MemoryState × Option ClaimedOutbox) := do
  let record ← orFail (state.outbox.get? effectId) .notFound
  if ¬ state.outboxClaimable record worker atTime then return (state, none)
  else match outboxClaimGeneration record.state with
    | none => return (state, none)
    | some previous => do
      let generation ← nextCounter previous
      let next := { record with state := .claimed worker generation atTime expiresAt }
      return ({ state with outbox := state.outbox.insert effectId next },
        some ⟨next, generation⟩)

/-- The order in which effects are claimed: by call, then by their order in the call. -/
def outboxClaimBefore (left right : OutboxRecord) : Prop :=
  left.callId.uuid < right.callId.uuid ∨
    (left.callId.uuid = right.callId.uuid ∧ ¬ outboxOrderLt right left)

instance (left right : OutboxRecord) : Decidable (outboxClaimBefore left right) :=
  inferInstanceAs (Decidable (_ ∨ _))

def claimOutbox (atTime : Timestamp) (claimTtl limit : Nat) :
    Except RepositoryError (MemoryState × List ClaimedOutbox) := do
  let expiresAt ← chronoTtl atTime claimTtl
  if limit = 0 then return (state, [])
  else
    state.ensureWorker worker true atTime
    let eligible := (state.outbox.values.filter fun record =>
      state.outboxClaimable record worker atTime).insertionSort outboxClaimBefore
    claimEach (claimOutboxRecord worker atTime expiresAt) limit state
      (eligible.map OutboxRecord.effectId)

/-- The effect is under exactly this claim, and the claim is live at this time. -/
def holdsOutboxClaim (state : OutboxState) (worker : WorkerLease) (generation : Nat)
    (atTime : Timestamp) : Bool :=
  match state with
  | .claimed owner current claimedAt expiresAt => decide (owner = worker) &&
      decide (current = generation) && decide (claimedAt ≤ atTime) && decide (expiresAt > atTime)
  | _ => false

def completeOutbox (effectId : EffectId) (worker : WorkerLease) (claimGeneration : Nat)
    (completion : OutboxCompletion) (atTime : Timestamp) :
    Except RepositoryError (MemoryState × OutboxRecord) := do
  state.ensureWorker worker true atTime
  reject ((state.outbox.get? effectId).any fun record =>
      state.serviceManagedCalls.contains record.callId)
    (.invalidInput "service-managed effect requires service reconciliation")
  let record ← orFail (state.outbox.get? effectId) .notFound
  reject (¬ holdsOutboxClaim record.state worker claimGeneration atTime) .staleClaim
  let next := { record with
    state := match completion with
      | .succeeded => .succeeded atTime
      | .failed failure => .failed atTime failure }
  return ({ state with outbox := state.outbox.insert effectId next }, next)

def deadlineRank : DeadlineKind → Nat
  | .setup => 0
  | .media => 1
  | .transfer => 2
  | .ending => 3

def deadlineClaimBefore (left right : DeadlineRecord) : Prop :=
  left.dueAt < right.dueAt ∨ (left.dueAt = right.dueAt ∧
    (left.callId.uuid < right.callId.uuid ∨ (left.callId.uuid = right.callId.uuid ∧
      (deadlineRank left.kind < deadlineRank right.kind ∨
        (deadlineRank left.kind = deadlineRank right.kind ∧
          left.generation ≤ right.generation)))))

instance (left right : DeadlineRecord) : Decidable (deadlineClaimBefore left right) :=
  inferInstanceAs (Decidable (_ ∨ _))

def deadlineClaimGeneration : DeadlineState → Option Nat
  | .pending => some 0
  | .claimed _ generation _ => some generation
  | .cancelled _ | .completed _ => none

def deadlineDue (record : DeadlineRecord) (worker : WorkerLease) (atTime : Timestamp) : Bool :=
  decide (record.dueAt ≤ atTime) &&
    (match record.state with
      | .pending => true
      | .claimed _ _ expiresAt => decide (expiresAt ≤ atTime)
      | .cancelled _ | .completed _ => false) &&
    (state.calls.get? record.callId).any fun call =>
      call.assignment.releasedAt.isNone && decide (call.assignment.lease = worker)

def claimDeadline (expiresAt : Timestamp) (state : MemoryState) (key : DeadlineKey) :
    Except RepositoryError (MemoryState × Option ClaimedDeadline) := do
  let record ← orFail (state.deadlines.get? key) .notFound
  match deadlineClaimGeneration record.state with
  | none => return (state, none)
  | some previous => do
    let generation ← nextCounter previous
    let next := { record with state := .claimed worker generation expiresAt }
    return ({ state with deadlines := state.deadlines.insert key next },
      some ⟨next, generation⟩)

def claimDueDeadlines (atTime : Timestamp) (claimTtl limit : Nat) :
    Except RepositoryError (MemoryState × List ClaimedDeadline) := do
  let expiresAt ← chronoTtl atTime claimTtl
  if limit = 0 then return (state, [])
  else
    state.ensureWorker worker true atTime
    let eligible := (state.deadlines.values.filter fun record =>
      state.deadlineDue record worker atTime).insertionSort deadlineClaimBefore
    claimEach (claimDeadline worker expiresAt) limit state
      ((eligible.take limit).map fun record => (record.callId, record.kind, record.generation))

def expireOutboxClaim (atTime : Timestamp) : OutboxState → OutboxState
  | .claimed worker generation claimedAt _ => .claimed worker generation (min claimedAt atTime) atTime
  | other => other

def expireDeadlineClaim (atTime : Timestamp) : DeadlineState → DeadlineState
  | .claimed worker generation _ => .claimed worker generation atTime
  | other => other

def expireProviderClaim (atTime : Timestamp) : ProviderEventState → ProviderEventState
  | .claimed worker generation claimedAt _ => .claimed worker generation (min claimedAt atTime) atTime
  | other => other

def restartCall (atTime : Timestamp) (state : MemoryState) (callId : CallId) :
    Except RepositoryError (MemoryState × Option RestartClaim) := do
  let call ← orFail (state.calls.get? callId) .notFound
  let next := { call with assignment := { call.assignment with lease := worker } }
  return ({ state with
    calls := state.calls.insert callId next
    outbox := state.outbox.mapValues fun _ record =>
      if record.callId = callId ∧ outboxIsUnfinished record then
        { record with worker := worker, state := expireOutboxClaim atTime record.state }
      else record
    controlOutbox := state.controlOutbox.mapValues fun _ record =>
      if record.callId = callId ∧ controlOutboxIsUnfinished record then
        { record with worker := worker, state := expireOutboxClaim atTime record.state }
      else record
    deadlines := state.deadlines.mapValues fun _ record =>
      if record.callId = callId then
        { record with state := expireDeadlineClaim atTime record.state }
      else record
    providerEvents := state.providerEvents.mapValues fun _ event =>
      if event.target.any fun target => target.callId = callId then
        { event with state := expireProviderClaim atTime event.state }
      else event
    attachments := state.attachments.mapValues fun _ row =>
      if row.callId = callId ∧ row.consumedAt.isNone then { row with revokedAt := some atTime }
      else row }, some ⟨next, call.assignment.lease.fence⟩)

def claimRestartCalls (atTime : Timestamp) (limit : Nat) :
    Except RepositoryError (MemoryState × List RestartClaim) := do
  if limit = 0 then return (state, [])
  else
    state.ensureWorker worker true atTime
    let row ← orFail (state.workers.get? worker.workerId) .staleWorkerFence
    let fingerprint ← RouteCatalogFingerprint.fromCapabilities row.capabilities
    let callIds := (state.calls.rows.filter fun row =>
      row.2.assignment.lease.workerId = worker.workerId ∧
        row.2.assignment.lease.fence < worker.fence ∧
        row.2.assignment.routeCatalogFingerprint = fingerprint ∧
        state.assignmentRequiresCatalogContinuity row.2).map Prod.fst
    claimEach (restartCall worker atTime) limit state
      ((callIds.insertionSort fun left right => left.uuid ≤ right.uuid).take limit)

end Bridgefu.Persistence.MemoryState
