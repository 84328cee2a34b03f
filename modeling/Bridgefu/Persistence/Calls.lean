/- digest: Creating calls and committing commands: attachments, effects, deadlines, retirement. -/

import Bridgefu.Persistence.State

set_option autoImplicit false

namespace Bridgefu.Persistence

open Lib CallEngine CallService

def controlEffectIdentityMatches (current original : ControlOutboxRecord) : Bool :=
  decide (current.effectId = original.effectId) &&
    decide (current.commandId = original.commandId) &&
    decide (current.tenantId = original.tenantId) && decide (current.callId = original.callId) &&
    decide (current.legId = original.legId) &&
    decide (current.bindingGeneration = original.bindingGeneration) &&
    decide (current.sequence = original.sequence) && decide (current.intent = original.intent) &&
    decide (current.availableAt = original.availableAt)

/-- Does the stored request carry exactly the claim of the receipt? -/
def receiptClaimMatches (claim : Option OperationIdempotency) (keyDigest : IdempotencyKeyDigest)
    (row : IdempotencyRow) (operation : ServiceOperationKind) : Bool :=
  claim.any fun claim => decide (claim.keyDigest = keyDigest) &&
    decide (claim.requestDigest = row.requestDigest) && decide (claim.operation = operation)

def retiredClaim (key : TenantId × IdempotencyKeyDigest) (row : IdempotencyRow)
    (atTime : Timestamp) : Option RetiredOperationClaim :=
  match row.receipt with
  | .createCall => none
  | .serviceCommand operation view =>
    some ⟨key.1, key.2, row.requestDigest, row.callId, view.command.command.commandId, operation,
      .serviceCommand, row.expiresAt, atTime⟩
  | .controlCommand operation view =>
    some ⟨key.1, key.2, row.requestDigest, row.callId, view.command.commandId, operation,
      .controlCommand, row.expiresAt, atTime⟩

namespace MemoryState

variable (state : MemoryState) (tenantId : TenantId)

def idempotencyReceiptCrosslinks (keyDigest : IdempotencyKeyDigest) (row : IdempotencyRow) : Bool :=
  match row.receipt with
  | .createCall => true
  | .serviceCommand operation view =>
    (state.serviceCommandResults.get? view.command.command.commandId).any fun stored =>
      decide (stored.view = view) &&
        receiptClaimMatches stored.request.operationIdempotency keyDigest row operation &&
        decide (stored.request.command.tenantId = tenantId) &&
        decide (stored.request.command.callId = row.callId)
  | .controlCommand operation view =>
    ((state.controlCommandResults.get? view.command.commandId).any fun stored =>
      decide (stored.view = view) &&
        receiptClaimMatches stored.request.operationIdempotency keyDigest row operation &&
        decide (stored.request.tenantId = tenantId) &&
        decide (stored.request.callId = row.callId)) &&
      (state.controlOutbox.get? view.effect.effectId).any fun current =>
        controlEffectIdentityMatches current view.effect

def retireIdempotencyRow (atTime : Timestamp) (state : MemoryState)
    (key : TenantId × IdempotencyKeyDigest) : Except RepositoryError MemoryState := do
  let row ← orFail (state.idempotency.get? key) .unavailable
  reject (¬ state.idempotencyReceiptCrosslinks key.1 key.2 row) .unavailable
  let removed := { state with idempotency := state.idempotency.erase key }
  match retiredClaim key row atTime with
  | none => return removed
  | some claim => do
    reject (removed.retiredOperationClaims.contains claim.commandId) .unavailable
    return { removed with
      retiredOperationClaims := removed.retiredOperationClaims.insert claim.commandId claim }

def expiredIdempotencyKeys (atTime : Timestamp) : List (TenantId × IdempotencyKeyDigest) :=
  (state.idempotency.rows.filter fun row => row.2.expiresAt ≤ atTime).map Prod.fst

def retireExpiredIdempotency (atTime : Timestamp) : Except RepositoryError MemoryState :=
  foldFallible (retireIdempotencyRow atTime) state (state.expiredIdempotencyKeys atTime)

def validateNewAttachment (callId : CallId) (issue : AttachmentIssue) :
    Except RepositoryError Unit :=
  reject (state.attachments.contains issue.tokenDigest ∨
      state.attachmentIds.contains issue.attachmentId ∨
      state.activeAttachments.contains (callId, issue.legId, issue.bindingGeneration))
    .attachmentConflict

def insertAttachment (callId : CallId) (worker : WorkerLease) (state : MemoryState)
    (issue : AttachmentIssue) : Except RepositoryError MemoryState := do
  state.validateNewAttachment callId issue
  let row : AttachmentRow :=
    { attachmentId := issue.attachmentId, tokenDigest := issue.tokenDigest
      purpose := issue.purpose, tenantId := tenantId, callId := callId, legId := issue.legId
      bindingGeneration := issue.bindingGeneration, transport := issue.transport
      expectedPrincipal := issue.expectedPrincipal, worker := worker
      expiresAt := issue.expiresAt, consumedAt := none, revokedAt := none, binding := none }
  return { state with
    attachmentIds := state.attachmentIds.insert issue.attachmentId issue.tokenDigest
    activeAttachments := state.activeAttachments.insert
      (callId, issue.legId, issue.bindingGeneration) issue.tokenDigest
    attachments := state.attachments.insert issue.tokenDigest row }

def insertAttachments (callId : CallId) (worker : WorkerLease) (atTime : Timestamp)
    (issues : List AttachmentIssue) : Except RepositoryError MemoryState := do
  let call ← orFail (state.calls.get? callId) .notFound
  checkAll (fun issue => validateAttachmentIssue call.aggregate issue atTime) issues
  foldFallible (insertAttachment tenantId callId worker) state issues

end MemoryState

def attachmentEffectMatches (issue : AttachmentIssue) : EffectIntent → Bool
  | .awaitLegAttachment legId bindingGeneration =>
    decide (issue.purpose = .publicInbound) && decide (legId = issue.legId) &&
      decide (bindingGeneration = issue.bindingGeneration)
  | .startLeg legId bindingGeneration kind _ =>
    decide (issue.purpose = .providerMedia) && decide (kind = .telnyx) &&
      decide (legId = issue.legId) && decide (bindingGeneration = issue.bindingGeneration)
  | .startLegReplacement legId _ pendingBindingGeneration kind _ =>
    decide (issue.purpose = .providerMedia) && decide (kind = .telnyx) &&
      decide (legId = issue.legId) &&
      decide (pendingBindingGeneration = issue.bindingGeneration)
  | _ => false

def validateAttachmentEffect (effects : List EffectIntent) (issue : AttachmentIssue) :
    Except RepositoryError Unit :=
  reject (¬ effects.any (attachmentEffectMatches issue))
    (.invalidInput "attachment purpose is not backed by its signaling effect")

/-- Checks on the attachments issued together with a decided command. -/
def MemoryState.validateIssues (state : MemoryState) (callId : CallId) (decision : CallDecision)
    (atTime : Timestamp) (issues : List AttachmentIssue) : Except RepositoryError Unit :=
  checkAll (fun issue => do
    validateAttachmentIssue decision.aggregate issue atTime
    validateAttachmentEffect decision.effects issue
    state.validateNewAttachment callId issue) issues

structure EffectBatch where
  tenantId : TenantId
  callId : CallId
  worker : WorkerLease
  commandId : CommandId
  aggregateVersion : Nat
  atTime : Timestamp

def DeadlineRecord.cancel (record : DeadlineRecord) (atTime : Timestamp) : DeadlineRecord :=
  match record.state with
  | .completed _ => record
  | _ => { record with state := .cancelled atTime }

def EffectBatch.record (batch : EffectBatch) (effectId : EffectId) (ordinal : Nat)
    (intent : EffectIntent) : OutboxRecord :=
  { effectId := effectId, commandId := batch.commandId, ordinal := ordinal
    tenantId := batch.tenantId, callId := batch.callId
    aggregateVersion := batch.aggregateVersion, worker := batch.worker, intent := intent
    availableAt := batch.atTime, state := .ready }

abbrev DeadlineRows := Table DeadlineKey DeadlineRecord

def persistDeadline (batch : EffectBatch) (rows : DeadlineRows) :
    EffectIntent → Except RepositoryError DeadlineRows
  | .scheduleDeadline kind generation dueAt => do
    let key := (batch.callId, kind, generation)
    reject (rows.contains key) (.invalidInput "deadline generation already exists")
    return rows.insert key ⟨batch.tenantId, batch.callId, kind, generation, dueAt, .pending⟩
  | .cancelDeadline kind generation => do
    let key := (batch.callId, kind, generation)
    let record ← orFail (rows.get? key) (.invalidInput "cancelled deadline does not exist")
    return rows.insert key (DeadlineRecord.cancel record batch.atTime)
  | _ => .ok rows

def validateDeadlineClaim (rows : DeadlineRows) (claim : Option DeadlineClaimGuard)
    (atTime : Timestamp) : Except RepositoryError Unit :=
  match claim with
  | none => .ok ()
  | some claim => do
    let record ← orFail (rows.get? (claim.callId, claim.kind, claim.generation)) .staleClaim
    match record.state with
    | .claimed worker generation expiresAt =>
      reject (worker ≠ claim.worker ∨ generation ≠ claim.claimGeneration ∨
        expiresAt ≤ atTime) .staleClaim
    | _ => .error .staleClaim

def completeDeadlineClaim (rows : DeadlineRows) (claim : Option DeadlineClaimGuard)
    (atTime : Timestamp) : Except RepositoryError DeadlineRows :=
  match claim with
  | none => .ok rows
  | some claim => do
    let key := (claim.callId, claim.kind, claim.generation)
    let record ← orFail (rows.get? key) .staleClaim
    return rows.insert key { record with state := .completed atTime }

namespace MemoryState

def persistEffectsFrom (ids : EffectSupply) (batch : EffectBatch) :
    Nat → MemoryState → List EffectIntent → Except RepositoryError (MemoryState × List OutboxRecord)
  | _, state, [] => .ok (state, [])
  | ordinal, state, intent :: rest => do
    let deadlines ← persistDeadline batch state.deadlines intent
    let record := batch.record (ids ordinal) ordinal intent
    let next ← persistEffectsFrom ids batch (ordinal + 1)
      { state with
        deadlines := deadlines
        outbox := state.outbox.insert record.effectId record } rest
    return (next.1, record :: next.2)

def persistEffects (state : MemoryState) (ids : EffectSupply) (batch : EffectBatch)
    (effects : List EffectIntent) : Except RepositoryError (MemoryState × List OutboxRecord) :=
  persistEffectsFrom ids batch 0 state effects

end MemoryState

variable (next : CallAggregate) (request : CommandCommit)

def validateCommandDeadlineClaim : Except RepositoryError Unit :=
  match request.command, request.deadlineClaim with
  | .deadlineElapsed _ kind generation _, some claim =>
    reject (claim.callId ≠ request.callId ∨ claim.kind ≠ kind ∨
      claim.generation ≠ generation ∨ claim.worker ≠ request.worker) .staleClaim
  | .deadlineElapsed .., none => .error (.invalidInput "deadline command requires an exact claim")
  | _, some _ => .error .staleClaim
  | _, none => .ok ()

/-- A binding stays while its leg is of the same generation and still signaling or up. -/
def bindingRetained (legId : LegId) (binding : ConnectionBinding) : Bool :=
  (next.leg legId).any fun leg =>
    decide (leg.bindingGeneration = binding.bindingGeneration) &&
      decide (leg.state ∈ [LegState.signaling, .connected, .held, .ending])

/-- A control effect stays while its leg is of the same generation and connected or held. -/
def controlTargetRetained (record : ControlOutboxRecord) : Bool :=
  (next.leg record.legId).any fun leg =>
    decide (leg.bindingGeneration = record.bindingGeneration) &&
      decide (leg.state = .connected ∨ leg.state = .held)

/-- Provider media stays attached to the current or the pending generation of its leg. -/
def providerAttachmentRetained (row : AttachmentRow) : Bool :=
  ((next.leg row.legId).any fun leg => leg.bindingGeneration = row.bindingGeneration) ||
    (next.replacement.any fun replacement => replacement.legId = row.legId ∧
      replacement.pendingBindingGeneration = row.bindingGeneration)

def bindingRetired : FailureDetails :=
  .sanitized "binding_retired" "control target binding retired" false

namespace MemoryState

variable (state : MemoryState) (callId : CallId)

/-- Give up the durable ownership of a connection, if it is still the owner's. -/
def releaseConnection (state : MemoryState) (row : LegId × ConnectionBinding) : MemoryState :=
  let binding := row.2
  let key : BindingKey := (callId, row.1, binding.bindingGeneration)
  let principalKey : PrincipalBindingKey := (binding.principalFingerprint, key)
  { state with
    connectionOwners :=
      if state.connectionOwners.get? binding.connectionId = some key
      then state.connectionOwners.erase binding.connectionId else state.connectionOwners
    principalBindings :=
      if state.principalBindings.get? principalKey = some binding.connectionId
      then state.principalBindings.erase principalKey else state.principalBindings }

/-- The same for a retired attachment, unless its connection is the leg's current one. -/
def releaseUnlessCurrent (state : MemoryState) (binding : ConnectionBinding) : MemoryState :=
  if ((state.calls.get? callId).bind fun call => call.bindings.get? binding.legId).any fun current =>
      current.connectionId = binding.connectionId then state
  else releaseConnection callId state (binding.legId, binding)

def retireControl (next : CallAggregate) (commandId : CommandId) (state : MemoryState)
    (record : ControlOutboxRecord) : Except RepositoryError MemoryState := do
  let failed := { record with state := .failed next.updatedAt bindingRetired }
  reject (state.controlRetirements.contains record.effectId) .unavailable
  return { state with
    controlOutbox := state.controlOutbox.insert record.effectId failed
    controlRetirements := state.controlRetirements.insert record.effectId
      ⟨record.effectId, commandId, record.tenantId, record.callId, record.legId,
        record.bindingGeneration, next.updatedAt, bindingRetired⟩ }

def retiredControls (next : CallAggregate) : List ControlOutboxRecord :=
  state.controlOutbox.values.filter fun record => decide (record.callId = callId) &&
    controlOutboxIsUnfinished record && !controlTargetRetained next record

/-- Is this an attachment of the call whose provider media the next aggregate drops? -/
def attachmentDropped (next : CallAggregate) (row : AttachmentRow) : Bool :=
  decide (row.callId = callId) && decide (row.purpose = .providerMedia) &&
    !providerAttachmentRetained next row

/-- Drop the retired bindings of the call and the ownership of their connections. -/
def unbindRetired (next : CallAggregate) (call : StoredCall) : MemoryState :=
  let retired := call.bindings.rows.filter fun row => !bindingRetained next row.1 row.2
  retired.foldl (releaseConnection callId)
    { state with
      calls := state.calls.insert callId
        { call with bindings := call.bindings.filter (bindingRetained next) } }

/-- Revoke the dropped attachments of the call and give up their connections. -/
def revokeDropped (next : CallAggregate) : MemoryState :=
  let dropped := (state.attachments.values.filter (attachmentDropped callId next)).filterMap
    AttachmentRow.binding
  dropped.foldl (releaseUnlessCurrent callId)
    { state with
      attachments := state.attachments.mapValues fun _ row =>
        if attachmentDropped callId next row then
          { row with revokedAt := some (row.revokedAt.getD next.updatedAt) }
        else row }

def retireInactiveBindings (next : CallAggregate) (commandId : CommandId) :
    Except RepositoryError MemoryState := do
  let controls := state.retiredControls callId next
  let call ← orFail (state.calls.get? callId) .notFound
  let unbound := state.unbindRetired callId next call
  foldFallible (retireControl next commandId) (unbound.revokeDropped callId next) controls

end MemoryState

def CommandCommit.stored (observedVersion : Nat) (decision : CallDecision) : StoredCommand :=
  { commandId := request.commandId, tenantId := request.tenantId, callId := request.callId
    observedVersion := observedVersion, resultVersion := decision.aggregate.version
    command := request.command, worker := request.worker, attachments := request.attachments
    deadlineClaim := request.deadlineClaim, disposition := decision.disposition
    recordedAt := request.atTime }

def CommandCommit.batch (version : Nat) : EffectBatch :=
  ⟨request.tenantId, request.callId, request.worker, request.commandId, version, request.atTime⟩

def CreateCall.stored (request : CreateCall) (decision : CallDecision) : StoredCommand :=
  { commandId := request.commandId, tenantId := request.initial.tenantId
    callId := request.initial.id, observedVersion := request.initial.version
    resultVersion := decision.aggregate.version, command := request.command
    worker := request.worker, attachments := request.attachments, deadlineClaim := none
    disposition := decision.disposition, recordedAt := request.atTime }

def CreateCall.batch (request : CreateCall) (version : Nat) : EffectBatch :=
  ⟨request.initial.tenantId, request.initial.id, request.worker, request.commandId, version,
    request.atTime⟩

namespace MemoryState

variable (ids : EffectSupply) (state : MemoryState)

def releaseAssignmentInState (tenantId : TenantId) (callId : CallId) (worker : WorkerLease)
    (atTime : Timestamp) : Except RepositoryError (MemoryState × Bool) := do
  state.ensureWorker worker true atTime
  let call ← state.tenantCall tenantId callId
  reject (call.assignment.lease ≠ worker) .staleWorkerFence
  reject (¬ call.aggregate.state.isTerminal)
    (.invalidInput "capacity release requires a terminal call")
  if call.assignment.releasedAt.isSome then return (state, false)
  else
    let row ← orFail (state.workers.get? worker.workerId) .staleWorkerFence
    reject (row.reservedCalls = 0) .unavailable
    return ({ state with
      calls := state.calls.insert callId
        { call with assignment := { call.assignment with releasedAt := some atTime } }
      workers := state.workers.insert worker.workerId
        { row with reservedCalls := row.reservedCalls - 1
                   updatedAt := state.authoritativeTime atTime } }, true)

def commandIdConflictsWithServiceNamespace (commandId : CommandId) : Bool :=
  state.controlCommands.contains commandId || state.outboundBindingResults.contains commandId

def commandView (command : StoredCommand) : Except RepositoryError CommandCommitView :=
  orFail ((state.commandResults.get? command.commandId).filter fun result =>
    result.command = command) .unavailable

def retainReceipt (key : TenantId × IdempotencyKeyDigest) (row : IdempotencyRow) : MemoryState :=
  { state with idempotency := state.idempotency.insert key row }

def retainResult (view : CommandCommitView) : MemoryState :=
  { state with
    commandResults := state.commandResults.insert view.command.commandId view }

/-- Put a new call, its legs, its worker and its command in place. -/
def admitCall (stored : StoredCall) (command : StoredCommand) (worker : WorkerSnapshot) :
    MemoryState :=
  { state with
    calls := state.calls.insert command.callId stored
    legOwners := (state.legOwners.insert stored.aggregate.left.id command.callId).insert
      stored.aggregate.right.id command.callId
    workers := state.workers.insert command.worker.workerId worker
    commands := state.commands.insert command.commandId command }

/-- The part of a creation after the idempotency key was found free. -/
def createNewCall (request : CreateCall) (decision : CallDecision) (expiresAt : Timestamp) :
    Except RepositoryError (MemoryState × CreateCallOutcome) := do
  let tenantId := request.initial.tenantId
  let callId := request.initial.id
  reject (state.commands.contains request.commandId ∨
      state.controlCommands.contains request.commandId ∨
      state.outboundBindingResults.contains request.commandId) .commandConflict
  reject (state.calls.contains callId ∨
      request.initial.legs.any fun leg => state.legOwners.contains leg.id)
    (.invalidInput "call or leg identifier already exists")
  state.ensureWorker request.worker false request.atTime
  let worker ← orFail (state.workers.get? request.worker.workerId) .staleWorkerFence
  reject (worker.reservedCalls ≥ worker.maxCalls) .capacityExceeded
  let aggregate := decision.aggregate
  state.validateIssues callId decision request.atTime request.attachments
  let fingerprint ← RouteCatalogFingerprint.fromCapabilities worker.capabilities
  let stored : StoredCall :=
    { aggregate := aggregate, assignment := ⟨request.worker, fingerprint, request.atTime, none⟩
      bindings := .empty }
  let command := CreateCall.stored request decision
  let admitted := state.admitCall stored command
    { worker with reservedCalls := worker.reservedCalls + 1
                  updatedAt := state.authoritativeTime request.atTime }
  let attached ← admitted.insertAttachments tenantId callId request.worker request.atTime
    request.attachments
  let persisted ← attached.persistEffects ids (CreateCall.batch request aggregate.version)
    decision.effects
  let receipted := persisted.1.retainReceipt (tenantId, request.idempotencyKey)
    ⟨request.requestDigest, callId, expiresAt, .createCall⟩
  return (receipted.retainResult ⟨command, stored, persisted.2⟩, .created stored)

def decideCreate (request : CreateCall) : Except RepositoryError (CallDecision × Timestamp) := do
  validateCommandTimestamp request.command request.atTime
  mapFailure request.initial.validate .domainRejected
  reject (request.initial.version ≠ 0 ∨ request.initial.state ≠ .pending)
    (.invalidInput "initial call must be pending at version zero")
  let decision ← mapFailure (request.initial.decide request.command) .domainRejected
  reject (decision.disposition ≠ .applied)
    (.invalidInput "initial call command must change durable state")
  let expiresAt ← idempotencyExpiry request.atTime
  return (decision, expiresAt)

def createCallInState (request : CreateCall) :
    Except RepositoryError (MemoryState × CreateCallOutcome) := do
  let (decision, expiresAt) ← decideCreate request
  let retired ← state.retireExpiredIdempotency request.atTime
  let key := (request.initial.tenantId, request.idempotencyKey)
  match (retired.idempotency.get? key).filter fun row => row.expiresAt > request.atTime with
  | some existing => do
    reject (existing.requestDigest ≠ request.requestDigest ∨ existing.receipt ≠ .createCall)
      .idempotencyConflict
    let call ← retired.tenantCall request.initial.tenantId existing.callId
    return (retired, .replayed call)
  | none =>
    let cleared := { retired with idempotency := retired.idempotency.erase key }
    createNewCall ids cleared request decision expiresAt

/-- Put the decided aggregate and the row of the command in place. -/
def recordDecision (call : StoredCall) (aggregate : CallAggregate) (command : StoredCommand) :
    MemoryState :=
  { state with
    calls := state.calls.insert command.callId { call with aggregate := aggregate }
    commands := state.commands.insert command.commandId command }

def withDeadlines (deadlines : DeadlineRows) : MemoryState :=
  { state with deadlines := deadlines }

/-- Complete the claimed deadline, and give back the place of a call that has ended. -/
def settleDecision (request : CommandCommit) (ended : Bool) :
    Except RepositoryError MemoryState := do
  let deadlines ← completeDeadlineClaim state.deadlines request.deadlineClaim request.atTime
  let completed := state.withDeadlines deadlines
  if ended then
    let released ← completed.releaseAssignmentInState request.tenantId request.callId
      request.worker request.atTime
    return released.1
  else return completed

/-- Put a decided command in place with its attachments and effects, up to its settlement. -/
def prepareDecision (request : CommandCommit) (observedVersion : Nat) (decision : CallDecision) :
    Except RepositoryError (MemoryState × List OutboxRecord) := do
  let aggregate := decision.aggregate
  let retired ← (if decision.disposition = .applied
    then state.retireInactiveBindings request.callId aggregate request.commandId
    else .ok state)
  let call ← orFail (retired.calls.get? request.callId) .notFound
  let recorded := retired.recordDecision call aggregate
    (CommandCommit.stored request observedVersion decision)
  let attached ← recorded.insertAttachments request.tenantId request.callId request.worker
    request.atTime request.attachments
  attached.persistEffects ids (CommandCommit.batch request aggregate.version) decision.effects

/-- Store the outcome of a decided command on the current call. -/
def storeDecision (request : CommandCommit) (observedVersion : Nat) (decision : CallDecision) :
    Except RepositoryError (MemoryState × CommandCommitOutcome) := do
  let prepared ← prepareDecision ids state request observedVersion decision
  let settled ← prepared.1.settleDecision request decision.aggregate.state.isTerminal
  let call ← settled.tenantCall request.tenantId request.callId
  let view : CommandCommitView :=
    ⟨CommandCommit.stored request observedVersion decision, call, prepared.2⟩
  return (settled.retainResult view, .committed view)

def commitCommandInState (request : CommandCommit) :
    Except RepositoryError (MemoryState × CommandCommitOutcome) := do
  validateCommandTimestamp request.command request.atTime
  reject (state.commandIdConflictsWithServiceNamespace request.commandId) .commandConflict
  match state.commands.get? request.commandId with
  | some existing => do
    state.ensureWorker request.worker true request.atTime
    let call ← state.tenantCall request.tenantId request.callId
    reject (call.assignment.lease ≠ request.worker) .staleWorkerFence
    reject (existing.tenantId ≠ request.tenantId ∨ existing.callId ≠ request.callId ∨
        existing.observedVersion ≠ request.expectedVersion ∨
        existing.command ≠ request.command ∨ existing.worker ≠ request.worker ∨
        existing.attachments ≠ request.attachments ∨
        existing.deadlineClaim ≠ request.deadlineClaim ∨
        existing.recordedAt ≠ request.atTime) .commandConflict
    let view ← state.commandView existing
    return (state, .replayed view)
  | none => do
    state.ensureCallWorker request.tenantId request.callId request.worker request.atTime
    let current ← state.tenantCall request.tenantId request.callId
    reject (current.aggregate.version ≠ request.expectedVersion) .versionConflict
    validateCommandDeadlineClaim request
    validateDeadlineClaim state.deadlines request.deadlineClaim request.atTime
    let decision ← mapFailure (current.aggregate.decide request.command) .domainRejected
    state.validateIssues request.callId decision request.atTime request.attachments
    storeDecision ids state request current.aggregate.version decision

end MemoryState

end Bridgefu.Persistence
