/- digest: Service transactions: planned creation, guarded commands, controls and media activity. -/

import Bridgefu.Persistence.CallRepository

set_option autoImplicit false

namespace Bridgefu.Persistence

open Lib CallEngine CallService

namespace MemoryState

variable (state : MemoryState) (tenantId : TenantId)

def originalCreateResult (callId : CallId) : Except RepositoryError CommandCommitView :=
  match state.commandResults.values.filter fun result =>
      result.command.callId = callId ∧ result.command.observedVersion = 0 with
  | [result] => .ok result
  | _ => .error .unavailable

/-- The unexpired receipt held under an idempotency key. -/
def liveReceipt (keyDigest : IdempotencyKeyDigest) (atTime : Timestamp) : Option IdempotencyRow :=
  (state.idempotency.get? (tenantId, keyDigest)).filter fun row => row.expiresAt > atTime

def loadCreateReplayInState [Libraries] (state : MemoryState) (tenantId : TenantId)
    (keyDigest : IdempotencyKeyDigest) (requestDigest : RequestDigest) (atTime : Timestamp) :
    Except RepositoryError (Option StoredServiceCall) :=
  match state.liveReceipt tenantId keyDigest atTime with
  | none => .ok none
  | some existing => do
    reject (existing.requestDigest ≠ requestDigest ∨ existing.receipt ≠ .createCall)
      .idempotencyConflict
    let result ← state.originalCreateResult existing.callId
    reject (result.call.aggregate.tenantId ≠ tenantId) .unavailable
    let plan ← orFail (state.executionPlans.get? existing.callId) .unavailable
    mapFailure (plan.validateAgainst result.call.aggregate) RepositoryError.unavailable
    return some ⟨result.call, plan, result.command.attachments⟩

/-- Errors of one placement that leave the next candidate to be tried. -/
def isAdmissionError : RepositoryError → Bool
  | .capacityExceeded | .staleWorkerFence | .workerCapabilityUnavailable => true
  | _ => false

/-- The draft that a candidate without room leaves: expired receipts are retired and the key is freed
before the worker is looked at. An error that ends the transaction drops its draft. -/
def refusedDraft (draft : MemoryState) (candidate : CreateCall) : MemoryState :=
  match draft.retireExpiredIdempotency candidate.atTime with
  | .ok retired =>
    let key := (candidate.initial.tenantId, candidate.idempotencyKey)
    { retired with idempotency := retired.idempotency.erase key }
  | .error _ => draft

/-- Place the call on the first candidate that admits it, all on one draft. -/
def placeCall (ids : EffectSupply) (requiredCapabilities : List String) :
    MemoryState → RepositoryError → List CreateCall →
      Except RepositoryError (MemoryState × CreateCallOutcome)
  | _, lastAdmissionError, [] => .error lastAdmissionError
  | draft, _, candidate :: rest =>
    match draft.ensureWorkerCapabilities candidate.worker requiredCapabilities candidate.atTime with
    | .error error =>
      if error ∈ [.staleWorkerFence, .workerCapabilityUnavailable]
      then placeCall ids requiredCapabilities draft error rest
      else .error error
    | .ok () =>
      match createCallInState ids draft candidate with
      | .ok placed => .ok placed
      | .error error =>
        if isAdmissionError error
        then placeCall ids requiredCapabilities (draft.refusedDraft candidate) error rest
        else .error error

/-- The same creation on another worker, with the attachments issued for it. -/
def onWorker (create : CreateCall) (worker : WorkerLease) (attachments : List AttachmentIssue) :
    CreateCall :=
  { create with worker := worker, attachments := attachments }

def candidates (request : ServiceCreateTransaction) : List CreateCall :=
  request.create :: request.alternatives.map fun alternative =>
    onWorker request.create alternative.worker alternative.attachments

def createWithPlan [Libraries] (ids : EffectSupply) (state : MemoryState)
    (request : ServiceCreateTransaction) :
    Except RepositoryError (MemoryState × ServiceCreateOutcome) := do
  let create := request.create
  let replay ← state.loadCreateReplayInState create.initial.tenantId create.idempotencyKey
    create.requestDigest create.atTime
  match replay with
  | some stored => return (state, .replayed stored)
  | none => do
    request.plan.validateForCreate create.initial
    let _ ← request.plan.authorizationPrincipalFingerprint
    let requiredCapabilities ← request.plan.requiredWorkerCapabilities
    let placed ← placeCall ids requiredCapabilities state .capacityExceeded (candidates request)
    match placed.2 with
    | .created call => do
      let callId := call.aggregate.id
      reject (placed.1.serviceManagedCalls.contains callId ∨
        placed.1.executionPlans.contains callId) .unavailable
      let planned := { placed.1 with
        serviceManagedCalls := placed.1.serviceManagedCalls.insert callId ()
        executionPlans := placed.1.executionPlans.insert callId request.plan }
      let result ← planned.originalCreateResult callId
      return (planned, .created ⟨call, request.plan, result.command.attachments⟩)
    | .replayed call => do
      let callId := call.aggregate.id
      reject (¬ placed.1.serviceManagedCalls.contains callId) .unavailable
      let plan ← orFail (placed.1.executionPlans.get? callId) .unavailable
      let result ← placed.1.originalCreateResult callId
      return (placed.1, .replayed ⟨result.call, plan, result.command.attachments⟩)

/-- Retire expired receipts, then look one up for the claimed operation. -/
def claimedReceipt (callId : CallId) (idempotency : OperationIdempotency) (atTime : Timestamp) :
    Except RepositoryError (MemoryState × Option OperationIdempotencyReceipt) := do
  let retired ← state.retireExpiredIdempotency atTime
  match retired.idempotency.get? (tenantId, idempotency.keyDigest) with
  | none => return (retired, none)
  | some existing => do
    reject (existing.requestDigest ≠ idempotency.requestDigest ∨ existing.callId ≠ callId)
      .idempotencyConflict
    return (retired, some existing.receipt)

def replayServiceOperation (request : ServiceCommandTransaction) :
    Except RepositoryError (MemoryState × Option ServiceCommandView) :=
  match request.operationIdempotency with
  | none => .ok (state, none)
  | some idempotency => do
    let found ← state.claimedReceipt request.command.tenantId request.command.callId idempotency
      request.command.atTime
    match found.2 with
    | none => return (found.1, none)
    | some (.serviceCommand operation view) => do
      reject (operation ≠ idempotency.operation ∨
        view.command.command.tenantId ≠ request.command.tenantId ∨
        view.command.command.callId ≠ request.command.callId) .idempotencyConflict
      return (found.1, some view)
    | some _ => .error .idempotencyConflict

def replayControlOperation (request : ControlCommandTransaction) :
    Except RepositoryError (MemoryState × Option ControlCommandView) :=
  match request.operationIdempotency with
  | none => .ok (state, none)
  | some idempotency => do
    let found ← state.claimedReceipt request.tenantId request.callId idempotency request.atTime
    match found.2 with
    | none => return (found.1, none)
    | some (.controlCommand operation view) => do
      reject (operation ≠ idempotency.operation ∨
        view.command.tenantId ≠ request.tenantId ∨
        view.command.callId ≠ request.callId) .idempotencyConflict
      return (found.1, some view)
    | some _ => .error .idempotencyConflict

def retainOperationReceipt (callId : CallId) (idempotency : Option OperationIdempotency)
    (receipt : ServiceOperationKind → OperationIdempotencyReceipt) (atTime : Timestamp) :
    Except RepositoryError MemoryState :=
  match idempotency with
  | none => .ok state
  | some idempotency => do
    let expiresAt ← idempotencyExpiry atTime
    let key := (tenantId, idempotency.keyDigest)
    reject (state.idempotency.contains key) .unavailable
    return state.retainReceipt key
      ⟨idempotency.requestDigest, callId, expiresAt, receipt idempotency.operation⟩

end MemoryState

/-- The leg and generation that a lifecycle command reports about. -/
def lifecycleSubject : CallCommand → Option (LegId × Nat)
  | .setLegState _ legId bindingGeneration .. => some (legId, bindingGeneration)
  | .sourceTerminatedBeforeAnswer _ legId bindingGeneration _ => some (legId, bindingGeneration)
  | _ => none

def isMediaDeadlineCommand : CallCommand → Bool
  | .armDeadline _ .media _ => true
  | _ => false

def connectedReplacement : CallCommand → Option Nat
  | .finishLegReplacement _ _ pendingBindingGeneration .connected => some pendingBindingGeneration
  | _ => none

def normalizeServiceCommand [Libraries] (request : ServiceCommandTransaction) :
    Except RepositoryError ServiceCommandTransaction := do
  reject (request.boundConnection.isSome.toNat + request.mediaActivity.isSome.toNat +
      request.replacementConnection.isSome.toNat > 1)
    (.invalidInput "service command cannot carry multiple connection guards")
  checkAll (fun idempotency : OperationIdempotency =>
    idempotency.validateServiceCommand request.command.command)
    request.operationIdempotency.toList
  reject (request.boundConnection.any fun guard => request.operationIdempotency.isSome ∨
      lifecycleSubject request.command.command ≠ some (guard.legId, guard.bindingGeneration))
    (.invalidInput "bound connection guard does not match lifecycle command")
  reject (request.mediaActivity.isSome ∧ (request.operationIdempotency.isSome ∨
      request.effectPayloads ≠ [] ∨ ¬ isMediaDeadlineCommand request.command.command))
    (.invalidInput "media activity guard does not match media deadline command")
  reject (request.replacementConnection.any fun promotion =>
      request.operationIdempotency.isSome ∨ request.effectPayloads ≠ [] ∨
      promotion.previousConnectionId = promotion.connectionId ∨
      connectedReplacement request.command.command ≠ some promotion.pendingBindingGeneration)
    (.invalidInput "replacement connection does not match a connected replacement result")
  let sorted := request.effectPayloads.insertionSort fun left right =>
    left.ordinal ≤ right.ordinal
  reject ((sorted.zip sorted.tail).any fun pair => pair.1.ordinal = pair.2.ordinal)
    (.invalidInput "duplicate service effect payload ordinal")
  checkAll (fun input : ServiceEffectPayloadInput => input.payload.validate) sorted
  return { request with effectPayloads := sorted }

def ReplacementConnectionPromotion.binding (promotion : ReplacementConnectionPromotion)
    (boundAt : Timestamp) : ConnectionBinding :=
  ⟨promotion.connectionId, promotion.legId, promotion.pendingBindingGeneration,
    promotion.transport, promotion.principalFingerprint, boundAt⟩

def endpointTransport : LegEndpointConfig → AttachmentTransport
  | .sip .. | .provider .. => .sip
  | .webRtc _ | .whip _ | .whep _ | .amazonConnect .. => .webRtc

def validateEndpointTransport (endpoint : LegEndpointConfig) (transport : AttachmentTransport) :
    Except RepositoryError Unit :=
  reject (endpointTransport endpoint ≠ transport)
    (.invalidInput "outbound binding transport does not match execution endpoint")

def payloadReplaces (payload : ServiceEffectPayload) (legId : LegId)
    (previous pending : Nat) : Option (LegEndpointConfig × PrincipalFingerprint) :=
  match payload with
  | .legReplacement payloadLeg payloadPrevious payloadPending endpoint _ _ _ principal =>
    if payloadLeg = legId ∧ payloadPrevious = previous ∧ payloadPending = pending
    then some (endpoint, principal) else none
  | .transfer .. => none

namespace MemoryState

variable (state : MemoryState) (request : ServiceCommandTransaction)

/-- Has the promoted connection been authenticated by an attachment of the pending generation? -/
def authenticatedPendingAttachment (callId : CallId) (promotion : ReplacementConnectionPromotion) :
    Bool :=
  state.attachments.any fun _ row => decide (row.callId = callId) &&
    decide (row.legId = promotion.legId) &&
    decide (row.bindingGeneration = promotion.pendingBindingGeneration) &&
    decide (row.purpose = .providerMedia) && decide (row.transport = promotion.transport) &&
    decide (row.expectedPrincipal = promotion.principalFingerprint) && row.revokedAt.isNone &&
    (row.binding.any fun pending => decide (pending.connectionId = promotion.connectionId) &&
      decide (pending.bindingGeneration = promotion.pendingBindingGeneration) &&
      decide (pending.principalFingerprint = promotion.principalFingerprint)) &&
    decide (state.connectionOwners.get? promotion.connectionId =
      some (callId, promotion.legId, promotion.pendingBindingGeneration))

def replacementPayload (callId : CallId) (legId : LegId) (previous pending : Nat) :
    Option (LegEndpointConfig × PrincipalFingerprint) :=
  state.serviceEffectPayloads.values.findSome? fun stored =>
    if (state.outbox.get? stored.effectId).any fun effect => effect.callId = callId
    then payloadReplaces stored.payload legId previous pending else none

def validateReplacementConnection : Except RepositoryError Unit :=
  match request.replacementConnection with
  | none => .ok ()
  | some promotion => do
    let callId := request.command.callId
    let call ← orFail (state.calls.get? callId) .notFound
    let replacement ← orFail call.aggregate.replacement .staleClaim
    let binding ← orFail (call.bindings.get? promotion.legId) .staleClaim
    let unused : Bool := !state.usedConnectionIds.contains promotion.connectionId &&
      !state.connectionOwners.contains promotion.connectionId
    reject (replacement.legId ≠ promotion.legId ∨
        replacement.previousBindingGeneration ≠ promotion.previousBindingGeneration ∨
        replacement.pendingBindingGeneration ≠ promotion.pendingBindingGeneration ∨
        binding.connectionId ≠ promotion.previousConnectionId ∨
        binding.bindingGeneration ≠ promotion.previousBindingGeneration ∨
        (¬ unused ∧ ¬ state.authenticatedPendingAttachment callId promotion)) .staleClaim
    let payload ← orFail (state.replacementPayload callId promotion.legId
      promotion.previousBindingGeneration promotion.pendingBindingGeneration) .staleClaim
    reject (payload.2 ≠ promotion.principalFingerprint) .staleClaim
    validateEndpointTransport payload.1 promotion.transport

/-- Install the promoted connection and show it in the result of the command. -/
def applyReplacementConnection (core : CommandCommitView) :
    Except RepositoryError (MemoryState × CommandCommitView) :=
  match request.replacementConnection with
  | none => .ok (state, core)
  | some promotion => do
    let callId := request.command.callId
    let binding := ReplacementConnectionPromotion.binding promotion request.command.atTime
    let key : BindingKey := (callId, promotion.legId, promotion.pendingBindingGeneration)
    let call ← orFail (state.calls.get? callId) .notFound
    let installed := { state with
      calls := state.calls.insert callId
        { call with bindings := call.bindings.insert promotion.legId binding }
      connectionOwners := state.connectionOwners.insert promotion.connectionId key
      principalBindings := state.principalBindings.insert (promotion.principalFingerprint, key)
        promotion.connectionId
      usedConnectionIds := state.usedConnectionIds.insert promotion.connectionId () }
    let promoted ← installed.tenantCall request.command.tenantId callId
    let view ← orFail (installed.commandResults.get? request.command.commandId) .unavailable
    return ({ installed with
      commandResults := installed.commandResults.insert request.command.commandId
        { view with call := promoted } }, { core with call := promoted })

def validateTransferPayloadTargets : Except RepositoryError Unit := do
  let call ← orFail (state.calls.get? request.command.callId) .notFound
  checkAll (fun input : ServiceEffectPayloadInput =>
    match input.payload with
    | .transfer targetLegId targetBindingGeneration _ => do
      let leg ← orFail (call.aggregate.leg targetLegId)
        (.invalidInput "transfer target leg does not belong to call")
      reject (leg.bindingGeneration ≠ targetBindingGeneration) .staleClaim
      reject (leg.state ≠ .connected ∧ leg.state ≠ .held) .domainRejected
    | .legReplacement legId previous pending endpoint .. => do
      let leg ← orFail (call.aggregate.leg legId)
        (.invalidInput "replacement target leg does not belong to call")
      let expectedPending ← mapFailure
        (nextBindingGeneration leg.replacementGenerationCursor) RepositoryError.staleClaim
      reject (leg.bindingGeneration ≠ previous ∨ pending ≠ expectedPending ∨
        leg.state ≠ .connected) .staleClaim
      match request.command.command with
      | .beginLegReplacement _ _ pendingKind _ =>
        reject (endpoint.kind ≠ pendingKind) .staleClaim
      | _ => .error (.invalidInput "replacement payload requires begin replacement command"))
    request.effectPayloads

def validateMediaActivityGuard : Except RepositoryError Unit :=
  match request.mediaActivity with
  | none => .ok ()
  | some activity => do
    let callId := request.command.callId
    let call ← orFail (state.calls.get? callId) .notFound
    let leg ← orFail (call.aggregate.leg activity.legId) .staleClaim
    let binding ← orFail ((call.bindings.get? activity.legId).filter fun binding =>
      binding.connectionId = activity.connectionId ∧
        binding.bindingGeneration = activity.bindingGeneration) .staleClaim
    let key : BindingKey := (callId, activity.legId, activity.bindingGeneration)
    reject (leg.bindingGeneration ≠ activity.bindingGeneration ∨
        (leg.state ≠ .connected ∧ leg.state ≠ .held) ∨
        state.connectionOwners.get? activity.connectionId ≠ some key ∨
        request.command.atTime < call.aggregate.updatedAt ∨
        request.command.atTime < binding.boundAt) .staleClaim
    let expected ← (match state.mediaActivityGenerations.get? key with
      | some previous => nextCounter previous
      | none => .ok 1)
    reject (activity.activityGeneration ≠ expected) .staleClaim

/-- The payload stored for one effect: transfers and replacements need one, others have none. -/
def effectPayload (inputs : List ServiceEffectPayloadInput) (effect : OutboxRecord) :
    Except RepositoryError (Option StoredServiceEffectPayload) :=
  let stored (payload : ServiceEffectPayload) : StoredServiceEffectPayload :=
    ⟨effect.effectId, effect.commandId, effect.ordinal, payload⟩
  match effect.intent, (inputs.find? fun input => input.ordinal = effect.ordinal).map
      ServiceEffectPayloadInput.payload with
  | .executeTransfer _, some (.transfer legId generation target) =>
    .ok (some (stored (.transfer legId generation target)))
  | .startLegReplacement .., some (.legReplacement legId previous pending endpoint start routeId
      route principal) =>
      .ok (some (stored (.legReplacement legId previous pending endpoint start routeId route
        principal)))
  | .executeTransfer _, none => .error (.invalidInput "transfer effect requires a service payload")
  | .startLegReplacement .., none =>
    .error (.invalidInput "leg replacement effect requires a service payload")
  | _, some _ =>
    .error (.invalidInput "service payload ordinal does not target a compatible effect")
  | _, none => .ok none

def collectPayloads (inputs : List ServiceEffectPayloadInput) :
    List OutboxRecord → Except RepositoryError (List StoredServiceEffectPayload)
  | [] => .ok []
  | effect :: rest => do
    let payload ← effectPayload inputs effect
    let others ← collectPayloads inputs rest
    return payload.toList ++ others

def insertPayload (payload : StoredServiceEffectPayload) : Except RepositoryError MemoryState := do
  reject (state.serviceEffectPayloads.contains payload.effectId) .unavailable
  return { state with
    serviceEffectPayloads := state.serviceEffectPayloads.insert payload.effectId payload }

def recordServiceCommand (view : ServiceCommandView) : MemoryState :=
  { state with
    serviceCommandResults := state.serviceCommandResults.insert request.command.commandId
      ⟨request, view⟩
    mediaActivityGenerations := match request.mediaActivity with
      | some activity => state.mediaActivityGenerations.insert
          (request.command.callId, activity.legId, activity.bindingGeneration)
          activity.activityGeneration
      | none => state.mediaActivityGenerations }

def storeServiceCommand (core : CommandCommitView) :
    Except RepositoryError (MemoryState × ServiceCommandOutcome) := do
  let promoted ← state.applyReplacementConnection request core
  let payloads ← collectPayloads request.effectPayloads core.outbox
  reject (payloads.length ≠ request.effectPayloads.length)
    (.invalidInput "service payload ordinal does not exist")
  let paid ← foldFallible insertPayload promoted.1 payloads
  let view : ServiceCommandView := ⟨promoted.2, payloads⟩
  let recorded := paid.recordServiceCommand request view
  let retained ← recorded.retainOperationReceipt request.command.tenantId request.command.callId
    request.operationIdempotency (fun operation => .serviceCommand operation view)
    request.command.atTime
  return (retained, .committed view)

/-- A service command whose idempotency key holds no receipt. -/
def commitUnclaimedServiceCommand (ids : EffectSupply) (state : MemoryState)
    (request : ServiceCommandTransaction) :
    Except RepositoryError (MemoryState × ServiceCommandOutcome) := do
  let commandId := request.command.commandId
  match state.serviceCommandResults.get? commandId with
  | some existing => do
    reject (existing.request ≠ request) .commandConflict
    return (state, .replayed existing.view)
  | none => do
    reject (state.commands.contains commandId ∨ state.controlCommands.contains commandId ∨
      state.outboundBindingResults.contains commandId) .commandConflict
    reject (¬ state.serviceManagedCalls.contains request.command.callId ∨
      ¬ state.executionPlans.contains request.command.callId) .notFound
    state.validateTransferPayloadTargets request
    state.validateMediaActivityGuard request
    state.validateReplacementConnection request
    let committed ← commitCommandInState ids state request.command
    match committed.2 with
    | .committed core => committed.1.storeServiceCommand request core
    | .replayed _ => .error .commandConflict

def commitServiceCommandInState (ids : EffectSupply) (state : MemoryState)
    (request : ServiceCommandTransaction) (allowMediaActivity : Bool) :
    Except RepositoryError (MemoryState × ServiceCommandOutcome) := do
  reject (request.mediaActivity.isSome ∧ ¬ allowMediaActivity)
    (.invalidInput "media activity requires the guarded repository operation")
  let replay ← state.replayServiceOperation request
  match replay.2 with
  | some view => return (replay.1, .replayed view)
  | none => commitUnclaimedServiceCommand ids replay.1 request

def commitWithEffectPayloads [Libraries] (ids : EffectSupply) (state : MemoryState)
    (request : ServiceCommandTransaction) :
    Except RepositoryError (MemoryState × ServiceCommandOutcome) := do
  let request ← normalizeServiceCommand request
  commitServiceCommandInState ids state request false

/-- Leg and endpoint of the replacement payloads of a request. -/
def replacementInputs (inputs : List ServiceEffectPayloadInput) :
    List (LegId × LegEndpointConfig) :=
  inputs.filterMap fun input =>
    match input.payload with
    | .legReplacement legId _ _ endpoint .. => some (legId, endpoint)
    | .transfer .. => none

def validateLegReplacementWorkerGuard : Except RepositoryError Unit :=
  match request.command.command with
  | .beginLegReplacement _ commandLegId pendingKind _ => do
    let replacements := replacementInputs request.effectPayloads
    let first ← orFail replacements.head?
      (.invalidInput "guarded replacement requires one replacement payload")
    reject (replacements.length > 1 ∨ first.1 ≠ commandLegId ∨ first.2.kind ≠ pendingKind)
      (.invalidInput "guarded replacement payload does not match command")
    let requiredCapability ← first.2.requiredWorkerCapability .bridgefu
    state.ensureWorker request.command.worker false request.command.atTime
    let call ← state.tenantCall request.command.tenantId request.command.callId
    reject (call.assignment.releasedAt.isSome ∨
      call.assignment.lease ≠ request.command.worker) .staleWorkerFence
    let worker ← state.leasedWorker request.command.worker
    reject (requiredCapability ∉ worker.capabilities.items) .staleWorkerFence
  | _ => .error (.invalidInput "worker guard requires begin leg replacement")

def commitLegReplacementWithWorkerGuard [Libraries] (ids : EffectSupply) (state : MemoryState)
    (request : ServiceCommandTransaction) :
    Except RepositoryError (MemoryState × ServiceCommandOutcome) := do
  let request ← normalizeServiceCommand request
  -- the durable receipt answers a lost response even after the worker drained
  let replay ← state.replayServiceOperation request
  match replay.2 with
  | some view => return (replay.1, .replayed view)
  | none => do
    replay.1.validateLegReplacementWorkerGuard request
    commitServiceCommandInState ids replay.1 request false

/-- A lifecycle report that only the connection bound to the leg may make. -/
def commitGuardedLifecycle [Libraries] (ids : EffectSupply) (state : MemoryState)
    (command : CommandCommit) (guard : BoundConnectionGuard) :
    Except RepositoryError (MemoryState × ServiceCommandOutcome) := do
  let transaction ← normalizeServiceCommand
    { command := command, effectPayloads := [], operationIdempotency := none
      boundConnection := some guard, mediaActivity := none, replacementConnection := none }
  -- an exact replay wins even after the call or the binding has advanced
  if state.serviceCommandResults.contains command.commandId then
    commitServiceCommandInState ids state transaction false
  else
    state.ensureCallWorker command.tenantId command.callId command.worker command.atTime
    let call ← orFail (state.calls.get? command.callId) .notFound
    let binding ← orFail ((call.bindings.get? guard.legId).filter fun binding =>
      binding.connectionId = guard.connectionId ∧
        binding.bindingGeneration = guard.bindingGeneration) .staleClaim
    reject (state.connectionOwners.get? guard.connectionId ≠
        some (command.callId, guard.legId, guard.bindingGeneration) ∨
      binding.legId ≠ guard.legId) .staleClaim
    commitServiceCommandInState ids state transaction false

def BoundConnectionStateCommit.commit (request : BoundConnectionStateCommit) : CommandCommit :=
  { tenantId := request.tenantId, callId := request.callId
    expectedVersion := request.expectedVersion, commandId := request.commandId
    command := .setLegState request.atTime request.legId request.bindingGeneration
      request.state request.failure
    worker := request.worker, attachments := [], deadlineClaim := none
    atTime := request.atTime }

def commitBoundConnectionState [Libraries] (ids : EffectSupply) (state : MemoryState)
    (request : BoundConnectionStateCommit) :
    Except RepositoryError (MemoryState × ServiceCommandOutcome) := do
  reject (request.state ∉ [LegState.signaling, .connected, .held, .ending, .ended, .failed])
    (.invalidInput "invalid bound connection lifecycle state")
  commitGuardedLifecycle ids state (BoundConnectionStateCommit.commit request)
    ⟨request.connectionId, request.legId, request.bindingGeneration⟩

def BoundSourceTerminationCommit.commit (request : BoundSourceTerminationCommit) : CommandCommit :=
  { tenantId := request.tenantId, callId := request.callId
    expectedVersion := request.expectedVersion, commandId := request.commandId
    command := .sourceTerminatedBeforeAnswer request.atTime request.sourceLegId
      request.bindingGeneration request.reason
    worker := request.worker, attachments := [], deadlineClaim := none
    atTime := request.atTime }

def commitBoundSourceTermination [Libraries] (ids : EffectSupply) (state : MemoryState)
    (request : BoundSourceTerminationCommit) :
    Except RepositoryError (MemoryState × ServiceCommandOutcome) :=
  commitGuardedLifecycle ids state (BoundSourceTerminationCommit.commit request)
    ⟨request.connectionId, request.sourceLegId, request.bindingGeneration⟩

def MediaActivityCommit.commit (request : MediaActivityCommit) : CommandCommit :=
  { tenantId := request.tenantId, callId := request.callId
    expectedVersion := request.expectedVersion, commandId := request.commandId
    command := .armDeadline request.atTime .media request.dueAt
    worker := request.worker, attachments := [], deadlineClaim := none
    atTime := request.atTime }

def commitMediaActivity [Libraries] (ids : EffectSupply) (state : MemoryState)
    (request : MediaActivityCommit) :
    Except RepositoryError (MemoryState × ServiceCommandOutcome) := do
  let transaction ← normalizeServiceCommand
    { command := MediaActivityCommit.commit request
      effectPayloads := [], operationIdempotency := none, boundConnection := none
      mediaActivity := some ⟨request.connectionId, request.legId, request.bindingGeneration,
        request.activityGeneration⟩
      replacementConnection := none }
  commitServiceCommandInState ids state transaction true

/-- Rows kept for a new control command and its effect. -/
def recordControl (request : ControlCommandTransaction) (view : ControlCommandView) : MemoryState :=
  { state with
    controlCommands := state.controlCommands.insert request.commandId view.command
    controlOutbox := state.controlOutbox.insert view.effect.effectId view.effect
    controlSequences := state.controlSequences.insert
      (request.callId, request.legId, request.bindingGeneration) view.effect.sequence
    controlCommandResults := state.controlCommandResults.insert request.commandId
      ⟨request, view⟩ }

/-- A control command whose idempotency key holds no receipt. -/
def enqueueUnclaimedControl (ids : EffectSupply) (state : MemoryState)
    (request : ControlCommandTransaction) :
    Except RepositoryError (MemoryState × ControlCommandOutcome) := do
  match state.controlCommandResults.get? request.commandId with
  | some existing => do
    reject (existing.request ≠ request) .commandConflict
    return (state, .replayed existing.view)
  | none => do
    reject (state.commands.contains request.commandId ∨
      state.serviceCommandResults.contains request.commandId ∨
      state.outboundBindingResults.contains request.commandId) .commandConflict
    state.ensureCallWorker request.tenantId request.callId request.worker request.atTime
    reject (¬ state.serviceManagedCalls.contains request.callId ∨
      ¬ state.executionPlans.contains request.callId) .notFound
    let call ← orFail (state.calls.get? request.callId) .notFound
    let leg ← orFail (call.aggregate.leg request.legId) .notFound
    reject (leg.bindingGeneration ≠ request.bindingGeneration) .staleClaim
    reject (leg.state ≠ .connected ∧ leg.state ≠ .held) .domainRejected
    let binding ← orFail ((call.bindings.get? request.legId).filter fun binding =>
      binding.bindingGeneration = request.bindingGeneration) .staleClaim
    reject (binding.legId ≠ request.legId) .unavailable
    reject (request.atTime < call.aggregate.updatedAt ∨ request.atTime < binding.boundAt)
      (.invalidInput "control time predates its current binding")
    let key : ExternalBindingKey := (request.callId, request.legId, request.bindingGeneration)
    let sequence ← (match state.controlSequences.get? key with
      | some previous => nextCounter previous
      | none => .ok 1)
    let effectId := ids 0
    reject (state.outbox.contains effectId ∨ state.controlOutbox.contains effectId) .unavailable
    let command : StoredControlCommand :=
      ⟨request.commandId, request.tenantId, request.callId, request.legId,
        request.bindingGeneration, request.worker, request.intent, request.atTime⟩
    let effect : ControlOutboxRecord :=
      { effectId := effectId, commandId := request.commandId, tenantId := request.tenantId
        callId := request.callId, legId := request.legId
        bindingGeneration := request.bindingGeneration, worker := request.worker
        sequence := sequence, intent := request.intent, availableAt := request.atTime
        state := .ready }
    let view : ControlCommandView := ⟨command, effect⟩
    let recorded := state.recordControl request view
    let retained ← recorded.retainOperationReceipt request.tenantId request.callId
      request.operationIdempotency (fun operation => .controlCommand operation view)
      request.atTime
    return (retained, .enqueued view)

def enqueueControl (ids : EffectSupply) (state : MemoryState)
    (request : ControlCommandTransaction) :
    Except RepositoryError (MemoryState × ControlCommandOutcome) := do
  request.intent.validate
  checkAll (fun idempotency : OperationIdempotency => idempotency.validateControl request.intent)
    request.operationIdempotency.toList
  let replay ← state.replayControlOperation request
  match replay.2 with
  | some view => return (replay.1, .replayed view)
  | none => enqueueUnclaimedControl ids replay.1 request

def claimControlEffect (worker : WorkerLease) (atTime expiresAt : Timestamp) (state : MemoryState)
    (effectId : EffectId) : Except RepositoryError (MemoryState × Option ClaimedControlEffect) := do
  let record ← orFail (state.controlOutbox.get? effectId) .notFound
  if ¬ state.controlOutboxClaimable record worker atTime then return (state, none)
  else match outboxClaimGeneration record.state with
    | none => return (state, none)
    | some previous => do
      let generation ← nextCounter previous
      let next := { record with state := .claimed worker generation atTime expiresAt }
      return ({ state with controlOutbox := state.controlOutbox.insert effectId next },
        some ⟨next, generation⟩)

def controlClaimBefore (left right : ControlOutboxRecord) : Prop :=
  left.callId.uuid < right.callId.uuid ∨ (left.callId.uuid = right.callId.uuid ∧
    (left.legId.uuid < right.legId.uuid ∨ (left.legId.uuid = right.legId.uuid ∧
      (left.bindingGeneration < right.bindingGeneration ∨
        (left.bindingGeneration = right.bindingGeneration ∧
          (left.sequence < right.sequence ∨
            (left.sequence = right.sequence ∧ left.effectId.uuid ≤ right.effectId.uuid)))))))

instance (left right : ControlOutboxRecord) : Decidable (controlClaimBefore left right) :=
  inferInstanceAs (Decidable (_ ∨ _))

def claimControlEffects (worker : WorkerLease) (atTime : Timestamp) (claimTtl limit : Nat) :
    Except RepositoryError (MemoryState × List ClaimedControlEffect) := do
  let expiresAt ← chronoTtl atTime claimTtl
  if limit = 0 then return (state, [])
  else
    state.ensureWorker worker true atTime
    let eligible := (state.controlOutbox.values.filter fun record =>
      state.controlOutboxClaimable record worker atTime).insertionSort controlClaimBefore
    claimEach (claimControlEffect worker atTime expiresAt) limit state
      ((eligible.take limit).map ControlOutboxRecord.effectId)

end MemoryState

end Bridgefu.Persistence
