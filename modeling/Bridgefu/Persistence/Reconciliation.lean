/- digest: Outbound bindings, initial contexts, and the reconciliation of effects and events. -/

import Bridgefu.Persistence.Services

set_option autoImplicit false

namespace Bridgefu.Persistence

open Lib CallEngine CallService

def OutboundConnectionBind.binding (request : OutboundConnectionBind) : ConnectionBinding :=
  ⟨request.connectionId, request.legId, request.bindingGeneration, request.transport,
    request.principalFingerprint, request.atTime⟩

def validateEffectClaim (state : OutboxState) (worker : WorkerLease)
    (claimGeneration : Nat) (atTime : Timestamp) : Except RepositoryError Unit :=
  reject (¬ MemoryState.holdsOutboxClaim state worker claimGeneration atTime) .staleClaim

namespace MemoryState

/-- The effect must be the dial of exactly this leg, generation and kind. -/
def validateStartLegEffect (effect : OutboxRecord) (aggregate : CallAggregate)
    (request : OutboundConnectionBind) : Except RepositoryError Unit :=
  match effect.intent with
  | .startLeg legId bindingGeneration kind _ => do
    reject (legId ≠ request.legId ∨ bindingGeneration ≠ request.bindingGeneration) .staleClaim
    let leg ← orFail (aggregate.leg request.legId) .notFound
    reject (leg.kind ≠ kind) .staleClaim
  | _ => .error .staleClaim

def bindOutboundConnection (state : MemoryState) (request : OutboundConnectionBind) :
    Except RepositoryError (MemoryState × OutboundConnectionBindOutcome) := do
  match state.outboundBindingResults.get? request.operationId with
  | some existing => do
    reject (existing.request ≠ request) .commandConflict
    return (state, .replayed existing.binding)
  | none => do
    reject (state.commands.contains request.operationId ∨
      state.controlCommands.contains request.operationId ∨
      state.serviceCommandResults.contains request.operationId) .commandConflict
    state.ensureCallWorker request.tenantId request.callId request.worker request.atTime
    reject (request.operationId.uuid ≠ request.effectId.uuid)
      (.invalidInput "outbound binding operation must be derived from its effect")
    let effect ← orFail (state.outbox.get? request.effectId) .staleClaim
    reject (effect.tenantId ≠ request.tenantId ∨ effect.callId ≠ request.callId ∨
      effect.worker ≠ request.worker) .staleClaim
    let call ← orFail (state.calls.get? request.callId) .notFound
    validateStartLegEffect effect call.aggregate request
    validateEffectClaim effect.state request.worker request.claimGeneration request.atTime
    let plan ← orFail (state.executionPlans.get? request.callId) .notFound
    let authorized ← plan.authorizationPrincipalFingerprint
    reject (authorized ≠ request.principalFingerprint) .staleClaim
    let spec ← orFail (plan.spec request.legId) .notFound
    validateEndpointTransport spec.endpoint request.transport
    let leg ← orFail (call.aggregate.leg request.legId) .notFound
    reject (leg.signalingInitiator ≠ .bridgefu)
      (.invalidInput "outbound binding requires Bridgefu signaling initiation")
    reject (leg.bindingGeneration ≠ request.bindingGeneration) .staleClaim
    -- a stale worker must not publish a destination into a call that has moved on
    reject (call.aggregate.state ≠ .connecting ∨ leg.state ≠ .pending) .staleClaim
    reject (request.atTime < call.aggregate.updatedAt)
      (.invalidInput "outbound binding time predates call state")
    reject (call.bindings.contains request.legId) .attachmentConflict
    let key : BindingKey := (request.callId, request.legId, request.bindingGeneration)
    let principalKey : PrincipalBindingKey := (request.principalFingerprint, key)
    reject (state.usedConnectionIds.contains request.connectionId ∨
      state.connectionOwners.contains request.connectionId ∨
      state.principalBindings.contains principalKey) .attachmentConflict
    let binding := OutboundConnectionBind.binding request
    return ({ state with
      calls := state.calls.insert request.callId
        { call with bindings := call.bindings.insert request.legId binding }
      connectionOwners := state.connectionOwners.insert request.connectionId key
      usedConnectionIds := state.usedConnectionIds.insert request.connectionId ()
      principalBindings := state.principalBindings.insert principalKey request.connectionId
      outboundBindingResults := state.outboundBindingResults.insert request.operationId
        ⟨request, binding⟩ }, .bound binding)

end MemoryState

def validateInitialContextPayload [Libraries] (record : StoredInitialContext) :
    Except RepositoryError Unit := do
  reject (record.sourceLegId = record.targetLegId ∨ record.envelope = [] ∨
      record.envelope.length > maxContextBytes ∨ record.messageId.value.isEmpty ∨
      record.messageId.value.utf8ByteSize > Libraries.maxDataMessageIdBytes ∨
      record.messageId.value.toList.any isControl)
    (.invalidInput "invalid initial context record")
  let envelope ← orFail (Libraries.parseContextEnvelope record.envelope)
    (.invalidInput "invalid initial context envelope")
  reject (¬ envelope.valid ∨ ¬ envelope.validBinding record.tenantId.value
      (Libraries.callIdText record.callId) (Libraries.legIdText record.sourceLegId))
    (.invalidInput "invalid initial context envelope")
  reject (¬ Libraries.sipInitialHeadersValid record.initialSipHeaders)
    (.invalidInput "invalid initial SIP headers")

/-- A named route from a remote WebRTC source to a leg that the service dials. -/
def routedFromWebRtc (plan : CallExecutionPlan) (source target : LegExecutionSpec)
    (record : StoredInitialContext) : Bool :=
  record.initialSipHeaders.isEmpty && plan.namedRoute.isSome &&
    (match source.endpoint with
      | .webRtc _ => true
      | _ => false) &&
    (match plan.legSignalingInitiator source.legId with
      | .ok .remote => true
      | _ => false) &&
    (match plan.legSignalingInitiator target.legId with
      | .ok .bridgefu => true
      | _ => false)

namespace MemoryState

/-- Initial context is authorized by the endpoint of the immutable plan. The aggregate's leg
kind changes with a successful replacement and plays no part. -/
def validateInitialContextTarget (state : MemoryState) (record : StoredInitialContext) :
    Except RepositoryError Unit := do
  let plan ← orFail (state.executionPlans.get? record.callId) .notFound
  let source ← orFail (plan.spec record.sourceLegId) .notFound
  let target ← orFail (plan.spec record.targetLegId) .notFound
  let unauthorized := RepositoryError.invalidInput
    "initial context target is not authorized by its execution plan"
  match target.endpoint with
  | .sip .. => do
    let mode ← plan.sipInitialContextMode target.legId
    reject (mode ≠ .required) unauthorized
  | .amazonConnect .. =>
    reject (¬ routedFromWebRtc plan source target record ∨
      (plan.amazonConnectStartSpec target.legId).isOk = false) unauthorized
  | .provider .telnyx .. => reject (¬ routedFromWebRtc plan source target record) unauthorized
  | _ => .error unauthorized

def recordInitialContext [Libraries] (state : MemoryState) (record : StoredInitialContext) :
    Except RepositoryError (MemoryState × InitialContextRecordOutcome) := do
  validateInitialContextPayload record
  let call ← state.tenantCall record.tenantId record.callId
  reject (¬ state.serviceManagedCalls.contains record.callId) .notFound
  let key : InitialContextKey :=
    (record.callId, record.targetLegId, record.targetBindingGeneration)
  match state.initialContexts.get? key with
  | some existing => do
    reject (existing ≠ record) .commandConflict
    return (state, .replayed existing)
  | none => do
    reject (state.initialContextMessageIds.contains (record.callId, record.messageId))
      .commandConflict
    let source ← orFail (call.aggregate.leg record.sourceLegId) .notFound
    let target ← orFail (call.aggregate.leg record.targetLegId) .notFound
    reject (source.bindingGeneration ≠ record.sourceBindingGeneration ∨
      target.bindingGeneration ≠ record.targetBindingGeneration) .staleClaim
    state.validateInitialContextTarget record
    let binding ← orFail ((call.bindings.get? record.sourceLegId).filter fun binding =>
      binding.connectionId = record.sourceConnectionId ∧
        binding.legId = record.sourceLegId ∧
        binding.bindingGeneration = record.sourceBindingGeneration) .staleClaim
    reject (record.recordedAt < binding.boundAt)
      (.invalidInput "initial context time predates its source binding")
    return ({ state with
      initialContextMessageIds := state.initialContextMessageIds.insert
        (record.callId, record.messageId) key
      initialContexts := state.initialContexts.insert key record }, .recorded record)

end MemoryState

def externalReferenceKey : ExternalReferenceValue → ExternalReferenceKey
  | .providerCall account providerCallId => .provider account providerCallId
  | .signaling label value => .signaling label value

def validateExternalReferenceEffect (record : OutboxRecord)
    (binding : ExternalReferenceBinding) : Except RepositoryError Unit :=
  let authorized : Bool := match record.intent with
    | .startLeg legId bindingGeneration .. => decide (legId = binding.legId) &&
        decide (bindingGeneration = binding.bindingGeneration) && decide (binding.role = .media)
    | .connectProviderDestination legId bindingGeneration => decide (legId = binding.legId) &&
        decide (bindingGeneration = binding.bindingGeneration) &&
        decide (binding.role = .destination)
    | .startLegReplacement legId _ pendingBindingGeneration .. => decide (legId = binding.legId) &&
        decide (pendingBindingGeneration = binding.bindingGeneration)
    | _ => false
  reject (¬ authorized)
    (.invalidInput "external reference role does not match its provider effect")

def validateExternalReferenceEndpoint [Libraries] (endpoint : LegEndpointConfig)
    (value : ExternalReferenceValue) : Except RepositoryError Unit :=
  match endpoint, value with
  | .amazonConnect .., .signaling label _ =>
    reject (label ≠ Libraries.amazonConnectContactReferenceKind) .providerReferenceConflict
  | .provider _ accountProfile _, .providerCall account _ =>
    reject (account.value ≠ accountProfile) .providerReferenceConflict
  | .provider .., .signaling .. => .error .providerReferenceConflict
  | _, .providerCall .. => .error .providerReferenceConflict
  | _, .signaling label _ =>
    reject (label = Libraries.amazonConnectContactReferenceKind) .providerReferenceConflict

namespace MemoryState

def validateExternalReferenceAuthority [Libraries] (state : MemoryState) (callId : CallId)
    (legId : LegId) (bindingGeneration : Nat) (effectId : EffectId)
    (value : ExternalReferenceValue) : Except RepositoryError Unit :=
  match state.serviceEffectPayloads.get? effectId with
  | some payload => do
    let record ← orFail (state.outbox.get? effectId) .providerReferenceConflict
    match payload.payload with
    | .legReplacement payloadLegId _ pendingBindingGeneration endpoint .. => do
      reject (record.callId ≠ callId ∨ payloadLegId ≠ legId ∨
        pendingBindingGeneration ≠ bindingGeneration) .providerReferenceConflict
      validateExternalReferenceEndpoint endpoint value
    | .transfer .. => .error .providerReferenceConflict
  | none => do
    let plan ← orFail (state.executionPlans.get? callId) .notFound
    let spec ← orFail (plan.spec legId) .providerReferenceConflict
    validateExternalReferenceEndpoint spec.endpoint value

/-- Is the generation the pending one of the replacement that this effect carries out? -/
def replacementGenerationAuthorized (state : MemoryState) (effectId : EffectId)
    (binding : ExternalReferenceBinding) : Bool :=
  (state.serviceEffectPayloads.get? effectId).any fun payload =>
    match payload.payload with
    | .legReplacement legId _ pendingBindingGeneration .. => decide (legId = binding.legId) &&
        decide (pendingBindingGeneration = binding.bindingGeneration)
    | .transfer .. => false

def storeExternalReferenceInState [Libraries] (request : EffectResultReconciliation)
    (state : MemoryState) (binding : ExternalReferenceBinding) :
    Except RepositoryError
      (MemoryState × StoredExternalReference × List ProviderEventEnvelope) := do
  state.validateExternalReferenceAuthority request.callId binding.legId
    binding.bindingGeneration request.effectId binding.value
  let call ← state.tenantCall request.tenantId request.callId
  let leg ← orFail (call.aggregate.leg binding.legId) .notFound
  reject (leg.bindingGeneration ≠ binding.bindingGeneration ∧
    ¬ state.replacementGenerationAuthorized request.effectId binding) .staleClaim
  let bindingKey : ExternalReferenceBindingKey :=
    (request.callId, binding.legId, binding.bindingGeneration, binding.role)
  let referenceKey := externalReferenceKey binding.value
  reject (state.externalReferences.contains referenceKey ∨
    state.externalReferenceBindings.contains bindingKey) .providerReferenceConflict
  let stored : StoredExternalReference :=
    ⟨request.tenantId, request.callId, binding.legId, binding.bindingGeneration, binding.role,
      request.effectId, binding.value, request.atTime⟩
  let referenced := { state with
    externalReferenceBindings := state.externalReferenceBindings.insert bindingKey referenceKey
    externalReferences := state.externalReferences.insert referenceKey stored }
  match binding.value with
  | .providerCall account providerCallId => do
    let bound ← referenced.bindProviderReferenceInState
      { tenantId := request.tenantId, callId := request.callId, legId := binding.legId
        role := binding.role, account := account, providerCallId := providerCallId
        worker := request.worker, atTime := request.atTime }
    return (bound.1, stored, bound.2)
  | .signaling .. => return (referenced, stored, [])

/-- Store a list of references, collecting the rows and the events they release. -/
def storeExternalReferences [Libraries] (request : EffectResultReconciliation) :
    MemoryState → List ExternalReferenceBinding → Except RepositoryError
      (MemoryState × List StoredExternalReference × List ProviderEventEnvelope)
  | state, [] => .ok (state, [], [])
  | state, binding :: rest => do
    let first ← storeExternalReferenceInState request state binding
    let others ← storeExternalReferences request first.1 rest
    return (others.1, first.2.1 :: others.2.1, first.2.2 ++ others.2.2)

end MemoryState

def effectFollowUpMatches (intent : EffectIntent) (result : ServiceEffectResult)
    (command : CallCommand) : Bool :=
  match intent, result, command with
  | .startLeg legId generation .., .succeeded, .providerMediaStarted _ commandLeg commandGeneration =>
    decide (legId = commandLeg) && decide (generation = commandGeneration)
  | .startLeg legId generation .amazonConnect .outbound, .succeeded,
      .setLegState _ commandLeg commandGeneration .failed (some _) =>
      decide (legId = commandLeg) && decide (generation = commandGeneration)
  | .startLeg legId generation .., .succeeded,
      .setLegState _ commandLeg commandGeneration state none =>
      decide (state = .signaling ∨ state = .connected) &&
        decide (legId = commandLeg) && decide (generation = commandGeneration)
  | .startLeg legId generation .., .failed expected,
      .setLegState _ commandLeg commandGeneration .failed (some actual)
  | .connectProviderDestination legId generation, .failed expected,
      .setLegState _ commandLeg commandGeneration .failed (some actual)
  | .stopLeg legId generation _, .failed expected,
      .setLegState _ commandLeg commandGeneration .failed (some actual) =>
      decide (legId = commandLeg) && decide (generation = commandGeneration) &&
        decide (expected = actual)
  | .stopLeg legId generation _, .succeeded,
      .setLegState _ commandLeg commandGeneration .ended none =>
      decide (legId = commandLeg) && decide (generation = commandGeneration)
  | .bridgeMedia leftLegId rightLegId, .failed expected,
      .setLegState _ commandLeg _ .failed (some actual) =>
      decide (commandLeg = leftLegId ∨ commandLeg = rightLegId) && decide (expected = actual)
  | .executeTransfer generation, .succeeded, .finishTransfer _ commandGeneration .completed =>
    decide (generation = commandGeneration)
  | .executeTransfer generation, .failed expected,
      .finishTransfer _ commandGeneration (.rejected actual) =>
      decide (generation = commandGeneration) && decide (expected = actual)
  | .startLegReplacement _ _ pending _ deadline, .succeeded,
      .finishLegReplacement _ commandDeadline commandBinding .connected =>
      decide (deadline = commandDeadline) && decide (pending = commandBinding)
  | .startLegReplacement _ _ pending _ deadline, .failed expected,
      .finishLegReplacement _ commandDeadline commandBinding (.rejected actual) =>
      decide (deadline = commandDeadline) && decide (pending = commandBinding) &&
        decide (expected = actual)
  | _, _, _ => false

def validateEffectFollowUp (intent : EffectIntent) (result : ServiceEffectResult)
    (command : CallCommand) : Except RepositoryError Unit :=
  reject (¬ effectFollowUpMatches intent result command)
    (.invalidInput "effect follow-up does not match claimed intent or result")

def validateControlEffectTarget (call : StoredCall) (record : ControlOutboxRecord) :
    Except RepositoryError Unit := do
  let leg ← orFail ((call.aggregate.leg record.legId).filter fun leg =>
    leg.bindingGeneration = record.bindingGeneration ∧
      (leg.state = .connected ∨ leg.state = .held)) .staleClaim
  let binding ← orFail ((call.bindings.get? record.legId).filter fun binding =>
    binding.legId = leg.id ∧ binding.bindingGeneration = record.bindingGeneration) .staleClaim
  reject (record.availableAt < binding.boundAt ∨ call.assignment.releasedAt.isSome) .staleClaim

variable (target : ProviderEventTarget) (request : EffectResultReconciliation)

def EffectResultReconciliation.references : List ExternalReferenceBinding :=
  request.externalReference.toList ++ request.additionalExternalReferences

def normalizeReconciliation [Libraries] (request : EffectResultReconciliation) :
    Except RepositoryError EffectResultReconciliation := do
  let followUp ← (match request.followUp with
    | some followUp => do
      let normal ← normalizeServiceCommand followUp
      return some normal
    | none => .ok none)
  let references := EffectResultReconciliation.references request
  checkAll (fun reference : ExternalReferenceBinding => reference.value.validate) references
  checkAllAfter (fun seen reference =>
    reject (seen.any fun earlier => (earlier.legId = reference.legId ∧
        earlier.bindingGeneration = reference.bindingGeneration ∧ earlier.role = reference.role) ∨
        externalReferenceKey earlier.value = externalReferenceKey reference.value)
      RepositoryError.providerReferenceConflict) [] references
  return { request with followUp := followUp }

def completedState (result : ServiceEffectResult) (atTime : Timestamp) : OutboxState :=
  match result with
  | .succeeded => .succeeded atTime
  | .failed failure => .failed atTime failure

def validateEffectOwnership (tenantId : TenantId) (callId : CallId) (owner : WorkerLease)
    (state : OutboxState) (availableAt : Timestamp) : Except RepositoryError Unit := do
  reject (tenantId ≠ request.tenantId ∨ callId ≠ request.callId ∨ owner ≠ request.worker)
    .staleClaim
  validateEffectClaim state request.worker request.claimGeneration request.atTime
  reject (request.atTime < availableAt)
    (.invalidInput "effect completion predates effect availability")

def isStartLegReplacement : EffectIntent → Bool
  | .startLegReplacement .. => true
  | _ => false

namespace MemoryState

variable (state : MemoryState) (request : EffectResultReconciliation)

def reconciledCall : Except RepositoryError StoredCall := do
  let call ← state.tenantCall request.tenantId request.callId
  reject (call.assignment.lease ≠ request.worker) .staleWorkerFence
  return call

def ensurePlanned (callId : CallId) : Except RepositoryError Unit :=
  reject (¬ state.serviceManagedCalls.contains callId ∨ ¬ state.executionPlans.contains callId)
    .notFound

/-- A failed effect may bind one reference only: the media of a replacement, for its cleanup. -/
def validateResultReferences (record : OutboxRecord) : Except RepositoryError Unit := do
  let references := EffectResultReconciliation.references request
  let cleanup : Bool := isStartLegReplacement record.intent && decide (references.length = 1) &&
    references.all fun reference => reference.role = .media
  reject (references ≠ [] ∧ request.result ≠ .succeeded ∧ ¬ cleanup)
    (.invalidInput "failed effect can bind only its replacement media reference for cleanup")
  checkAll (validateExternalReferenceEffect record) references

def commitEffectFollowUp (ids : EffectSupply) (state : MemoryState)
    (request : EffectResultReconciliation) (record : OutboxRecord) :
    Except RepositoryError (MemoryState × Option ServiceCommandView) :=
  match request.followUp with
  | none => .ok (state, none)
  | some followUp => do
    reject (followUp.command.tenantId ≠ request.tenantId ∨
        followUp.command.callId ≠ request.callId ∨
        followUp.command.worker ≠ request.worker ∨ followUp.command.atTime ≠ request.atTime ∨
        followUp.command.command.atTime ≠ request.atTime)
      (.invalidInput "effect follow-up ownership or timestamp differs")
    validateEffectFollowUp record.intent request.result followUp.command.command
    let committed ← commitServiceCommandInState ids state followUp false
    match committed.2 with
    | .committed view => return (committed.1, some view)
    | .replayed _ => .error .commandConflict

def reconcileCallEffect [Libraries] (ids : EffectSupply) (state : MemoryState)
    (request : EffectResultReconciliation) (record : OutboxRecord) :
    Except RepositoryError (MemoryState × EffectResultView) := do
  validateEffectOwnership request record.tenantId record.callId record.worker record.state
    record.availableAt
  let _ ← state.reconciledCall request
  state.ensurePlanned request.callId
  validateResultReferences request record
  let primary ← storeExternalReferences request state request.externalReference.toList
  let additional ← storeExternalReferences request primary.1 request.additionalExternalReferences
  let released := (primary.2.2 ++ additional.2.2).insertionSort fun left right =>
    left.receiptSequence ≤ right.receiptSequence
  let followed ← commitEffectFollowUp ids additional.1 request record
  let current ← orFail (followed.1.outbox.get? request.effectId) .notFound
  let completed := { current with state := completedState request.result request.atTime }
  let view : EffectResultView :=
    ⟨.call completed, primary.2.1.head?, additional.2.1, released, followed.2⟩
  return ({ followed.1 with outbox := followed.1.outbox.insert request.effectId completed }, view)

def reconcileControlEffect (record : ControlOutboxRecord) :
    Except RepositoryError (MemoryState × EffectResultView) := do
  validateEffectOwnership request record.tenantId record.callId record.worker record.state
    record.availableAt
  let call ← state.reconciledCall request
  validateControlEffectTarget call record
  state.ensurePlanned request.callId
  reject (EffectResultReconciliation.references request ≠ [] ∧ request.result ≠ .succeeded)
    (.invalidInput "failed effect can bind only its replacement media reference for cleanup")
  reject (EffectResultReconciliation.references request ≠ [])
    (.invalidInput "control effect cannot bind an external reference")
  reject request.followUp.isSome
    (.invalidInput "control effect cannot commit a call follow-up")
  let completed := { record with state := completedState request.result request.atTime }
  return ({ state with controlOutbox := state.controlOutbox.insert request.effectId completed },
    ⟨.control completed, none, [], [], none⟩)

def reconcileEffectResult [Libraries] (ids : EffectSupply) (state : MemoryState)
    (request : EffectResultReconciliation) :
    Except RepositoryError (MemoryState × EffectResultOutcome) := do
  let request ← normalizeReconciliation request
  match state.reconciliationResults.get? request.effectId with
  | some existing => do
    reject (existing.request ≠ request) .staleClaim
    return (state, .replayed existing.view)
  | none => do
    state.ensureWorker request.worker true request.atTime
    let reconciled ← (match state.outbox.get? request.effectId,
        state.controlOutbox.get? request.effectId with
      | some record, none => reconcileCallEffect ids state request record
      | none, some record => state.reconcileControlEffect request record
      | none, none => .error .notFound
      | some _, some _ => .error .unavailable)
    return ({ reconciled.1 with
      reconciliationResults := reconciled.1.reconciliationResults.insert request.effectId
        ⟨request, reconciled.2⟩ }, .reconciled reconciled.2)

end MemoryState

def normalizeProviderEventReconciliation [Libraries]
    (request : ProviderEventReconciliationTransaction) :
    Except RepositoryError ProviderEventReconciliationTransaction :=
  match request.followUp with
  | none => .ok request
  | some followUp => do
    let normal ← normalizeServiceCommand followUp
    reject (normal.operationIdempotency.isSome ∨ normal.boundConnection.isSome)
      (.invalidInput "provider follow-up cannot carry public or transport idempotency")
    return { request with followUp := some normal }

def endpointOfAccount (endpoint : LegEndpointConfig) (account : ProviderAccountKey) : Bool :=
  match endpoint with
  | .provider _ accountProfile _ => decide (accountProfile = account.value)
  | _ => false

def transferDeadlineStands (aggregate : CallAggregate) (generation : Nat) : Bool :=
  (aggregate.deadlines.get .transfer).dueAt.isSome &&
    decide ((aggregate.deadlines.get .transfer).generation = generation)

/-- Commands that a callback about this provider leg may commit. -/
def providerFollowUpMatches (referenceGeneration : Nat) (aggregate : CallAggregate) :
    CallCommand → Bool
  | .setLegState _ legId bindingGeneration state _ => decide (legId = target.legId) &&
      decide (bindingGeneration = referenceGeneration) &&
      decide (state ≠ .pending ∧ state ≠ .awaitingAttach)
  | .rotateLegBinding _ legId bindingGeneration => decide (legId = target.legId) &&
      decide (bindingGeneration = referenceGeneration)
  | .finishTransfer _ deadlineGeneration _ => decide (target.role = .media) &&
      decide (aggregate.state = .transferring) &&
      ((aggregate.leg target.legId).any fun leg => leg.bindingGeneration = referenceGeneration) &&
      transferDeadlineStands aggregate deadlineGeneration
  | .finishLegReplacement _ deadlineGeneration pendingBindingGeneration result =>
    (match result with
      | .connected => decide (target.role = .destination)
      | .rejected _ => true) &&
    decide (aggregate.state = .transferring) &&
    (aggregate.replacement.any fun replacement => replacement.legId = target.legId ∧
      replacement.pendingBindingGeneration = referenceGeneration ∧
      pendingBindingGeneration = referenceGeneration) &&
    transferDeadlineStands aggregate deadlineGeneration
  | .beginEnding .. => true
  | _ => false

def validateProviderServiceFollowUp (referenceGeneration : Nat) (aggregate : CallAggregate)
    (command : CallCommand) : Except RepositoryError Unit :=
  reject (¬ providerFollowUpMatches target referenceGeneration aggregate command)
    (.invalidInput "provider follow-up does not match the referenced provider leg")

namespace MemoryState

variable (state : MemoryState) (event : ProviderEventEnvelope)

def providerExternalReference (target : ProviderEventTarget) :
    Except RepositoryError StoredExternalReference := do
  let key := ExternalReferenceKey.provider event.account event.providerCallId
  let reference ← orFail (state.externalReferences.get? key) .providerReferenceConflict
  reject (reference.tenantId ≠ target.tenantId ∨ reference.callId ≠ target.callId ∨
      reference.legId ≠ target.legId ∨ reference.role ≠ target.role ∨
      reference.value ≠ .providerCall event.account event.providerCallId ∨
      state.externalReferenceBindings.get?
        (target.callId, target.legId, reference.bindingGeneration, target.role) ≠ some key)
    .providerReferenceConflict
  return reference

/-- The account is the plan's for the leg, or that of the replacement behind the reference. -/
def accountAuthorized (target : ProviderEventTarget) (account : ProviderAccountKey)
    (reference : StoredExternalReference) : Bool :=
  ((state.executionPlans.get? target.callId).any fun plan =>
    (plan.spec target.legId).any fun spec => endpointOfAccount spec.endpoint account) ||
  ((state.serviceEffectPayloads.get? reference.effectId).any fun payload =>
    match payload.payload with
    | .legReplacement legId _ _ endpoint .. =>
      decide (legId = target.legId) && endpointOfAccount endpoint account
    | .transfer .. => false)

/-- Does the follow-up settle the pending replacement that the reference belongs to? -/
def settlesPendingReplacement (target : ProviderEventTarget) (aggregate : CallAggregate)
    (referenceGeneration : Nat) (followUp : Option ServiceCommandTransaction) : Bool :=
  followUp.any fun followUp =>
    match followUp.command.command with
    | .finishLegReplacement _ _ pendingBindingGeneration _ =>
      aggregate.replacement.any fun replacement => replacement.legId = target.legId ∧
        replacement.pendingBindingGeneration = referenceGeneration ∧
        pendingBindingGeneration = referenceGeneration
    | _ => false

def ensureProviderEventServiceReference (request : ProviderEventReconciliationTransaction)
    (requireCurrentGeneration : Bool) : Except RepositoryError Unit := do
  let target := request.target
  let call ← state.tenantCall target.tenantId target.callId
  reject (¬ state.serviceManagedCalls.contains target.callId) .notFound
  let reference ← state.providerExternalReference event target
  reject (¬ state.accountAuthorized target request.account reference) .providerReferenceConflict
  let leg ← orFail (call.aggregate.leg target.legId) .providerReferenceConflict
  reject (requireCurrentGeneration ∧ leg.bindingGeneration ≠ reference.bindingGeneration ∧
      ¬ settlesPendingReplacement target call.aggregate reference.bindingGeneration
        request.followUp) .staleClaim
  let row ← orFail (state.providerReferences.get? (request.account, event.providerCallId))
    .providerReferenceConflict
  reject (row.target ≠ target ∨ row.boundAt ≠ reference.boundAt) .providerReferenceConflict

def ensureStaleOrTerminalProviderAck (target : ProviderEventTarget) (worker : WorkerLease)
    (atTime : Timestamp) : Except RepositoryError Unit := do
  let call ← state.tenantCall target.tenantId target.callId
  if call.aggregate.state.isTerminal then state.ensureTerminalCallWorker target worker atTime
  else
    state.ensureCallWorker target.tenantId target.callId worker atTime
    let reference ← state.providerExternalReference event target
    let leg ← orFail (call.aggregate.leg target.legId) .providerReferenceConflict
    reject (reference.bindingGeneration = leg.bindingGeneration) .providerReferenceConflict

/-- Does the claim on the event expire only after this time? -/
def providerClaimOutlives (atTime : Timestamp) : Bool :=
  match event.state with
  | .claimed _ _ _ expiresAt => decide (expiresAt > atTime)
  | _ => false

def commitProviderFollowUp (ids : EffectSupply) (state : MemoryState)
    (event : ProviderEventEnvelope) (request : ProviderEventReconciliationTransaction) :
    Except RepositoryError (MemoryState × Option ServiceCommandView) :=
  match request.followUp with
  | some followUp => do
    let target := request.target
    state.ensureCallWorker target.tenantId target.callId request.worker request.atTime
    reject (followUp.command.tenantId ≠ target.tenantId ∨
        followUp.command.callId ≠ target.callId ∨ followUp.command.worker ≠ request.worker ∨
        followUp.command.atTime ≠ request.atTime ∨
        followUp.command.command.atTime ≠ request.atTime)
      (.invalidInput "provider follow-up ownership or timestamp differs")
    let reference ← state.providerExternalReference event target
    let call ← orFail (state.calls.get? target.callId) .notFound
    validateProviderServiceFollowUp target reference.bindingGeneration call.aggregate
      followUp.command.command
    let committed ← commitServiceCommandInState ids state followUp false
    match committed.2 with
    | .committed view => return (committed.1, some view)
    | .replayed _ => .error .commandConflict
  | none => do
    state.ensureStaleOrTerminalProviderAck event request.target request.worker request.atTime
    return (state, none)

def reconcileProviderEventInState (ids : EffectSupply) (state : MemoryState)
    (request : ProviderEventReconciliationTransaction) :
    Except RepositoryError (MemoryState × ProviderEventReconciliationOutcome) := do
  let key := (request.account, request.eventDigest)
  let event ← orFail (state.providerEvents.get? key) .notFound
  -- an exact replay is independent of the claim, the lease and the call
  if event.state = .applied then
    match state.providerCompletions.get? key with
    | some (.serviceReconciliation recorded view) => do
      reject (recorded ≠ request ∨ view.event ≠ event) .staleClaim
      return (state, .replayed view)
    | _ => .error .staleClaim
  else
    reject (event.target ≠ some request.target) .providerReferenceConflict
    state.ensureProviderEventServiceReference event request request.followUp.isSome
    reject (¬ holdsProviderClaim event request.worker request.claimGeneration request.atTime ∨
      ¬ providerClaimOutlives event (state.authoritativeTime request.atTime)) .staleClaim
    let followed ← commitProviderFollowUp ids state event request
    let current ← orFail (followed.1.providerEvents.get? key) .notFound
    let applied := { current with state := .applied, appliedAt := some request.atTime }
    let view : ProviderEventReconciliationView :=
      ⟨applied, request.target, request.worker, request.claimGeneration, followed.2⟩
    reject (followed.1.providerCompletions.contains key) .unavailable
    return ({ followed.1 with
      providerEvents := followed.1.providerEvents.insert key applied
      providerCompletions := followed.1.providerCompletions.insert key
        (.serviceReconciliation request view) }, .reconciled view)

def reconcileProviderEvent [Libraries] (ids : EffectSupply) (state : MemoryState)
    (request : ProviderEventReconciliationTransaction) :
    Except RepositoryError (MemoryState × ProviderEventReconciliationOutcome) := do
  let request ← normalizeProviderEventReconciliation request
  reconcileProviderEventInState ids state request

end MemoryState

end Bridgefu.Persistence
