/- digest: Keyed requests: a key that holds one request conflicts with every other request. -/

import Bridgefu.CallService.Transcripts
import Bridgefu.Lib.Relational
import Bridgefu.Persistence.Execution
import Bridgefu.Persistence.Refinement

set_option autoImplicit false

/-! Before the service acts on a keyed request it looks for the receipt of an earlier one, and its
commit looks again. The digest on the receipt decides whether the earlier request was the same. -/

namespace Bridgefu.Persistence

open Lib CallEngine CallService

variable {state : MemoryState} {tenant : TenantId} {atTime : Timestamp}

namespace MemoryState

def loadServiceCommandReplay (state : MemoryState) (tenantId : TenantId) (callId : CallId)
    (keyDigest : IdempotencyKeyDigest) (requestDigest : RequestDigest)
    (operation : ServiceOperationKind) (atTime : Timestamp) :
    Except RepositoryError (Option ServiceCommandView) :=
  match state.liveReceipt tenantId keyDigest atTime with
  | none => .ok none
  | some existing => do
    reject (existing.requestDigest ≠ requestDigest ∨ existing.callId ≠ callId)
      .idempotencyConflict
    match existing.receipt with
    | .serviceCommand retained view => do
      reject (retained ≠ operation ∨ view.command.command.tenantId ≠ tenantId ∨
        view.command.command.callId ≠ callId) .idempotencyConflict
      return some view
    | _ => .error .idempotencyConflict

def loadControlCommandReplay (state : MemoryState) (tenantId : TenantId) (callId : CallId)
    (keyDigest : IdempotencyKeyDigest) (requestDigest : RequestDigest)
    (operation : ServiceOperationKind) (atTime : Timestamp) :
    Except RepositoryError (Option ControlCommandView) :=
  match state.liveReceipt tenantId keyDigest atTime with
  | none => .ok none
  | some existing => do
    reject (existing.requestDigest ≠ requestDigest ∨ existing.callId ≠ callId)
      .idempotencyConflict
    match existing.receipt with
    | .controlCommand retained view => do
      reject (retained ≠ operation ∨ view.command.tenantId ≠ tenantId ∨
        view.command.callId ≠ callId) .idempotencyConflict
      return some view
    | _ => .error .idempotencyConflict

end MemoryState

section Service

variable [Libraries] [RequestLibrary] (crypto : CallServiceCrypto) (tenant : TenantId)
  (principal : PrincipalFingerprint) (key : IdempotencyKey)

/-- The claim that a request makes under its key. -/
def operationOf (request : PublicRequest) : Option OperationIdempotency :=
  crypto.operationIdempotency tenant principal key request.operation request.callId
    request.transcript

/-- A call without a named route may have been created by an older version of the service. -/
def loadCreateReplay (state : MemoryState) (legs : RequestedLeg × RequestedLeg)
    (namedRoute : Option NamedRouteBinding) (atTime : Timestamp) :
    Option (Except RepositoryError (Option StoredServiceCall)) := do
  let operation ← operationOf crypto tenant principal key (.createCall legs namedRoute)
  match state.loadCreateReplayInState tenant operation.keyDigest operation.requestDigest
      atTime with
  | .error .idempotencyConflict =>
    match namedRoute, legacyCreateTranscript legs with
    | none, some legacyTranscript => do
      let legacy ← crypto.operationIdempotency tenant principal key .createCall none
        legacyTranscript
      return state.loadCreateReplayInState tenant legacy.keyDigest legacy.requestDigest atTime
    | _, _ => return .error .idempotencyConflict
  | replay => return replay

inductive ServiceReplay where
  | created (call : StoredServiceCall)
  | command (view : ServiceCommandView)
  | control (view : ControlCommandView)

def loadReplay (state : MemoryState) (request : PublicRequest) (atTime : Timestamp) :
    Option (Except RepositoryError (Option ServiceReplay)) :=
  match request with
  | .createCall legs namedRoute => do
    let replay ← loadCreateReplay crypto tenant principal key state legs namedRoute atTime
    return replay.map (Option.map .created)
  | .transferCall callId .. | .replaceLeg callId .. => do
    let operation ← operationOf crypto tenant principal key request
    return (state.loadServiceCommandReplay tenant callId operation.keyDigest
      operation.requestDigest operation.operation atTime).map (Option.map .command)
  | .dtmfCall callId .. => do
    let operation ← operationOf crypto tenant principal key request
    return (state.loadControlCommandReplay tenant callId operation.keyDigest
      operation.requestDigest operation.operation atTime).map (Option.map .control)

end Service

/-- The live receipt under the key is of another request. -/
def MemoryState.HeldByOther (state : MemoryState) (tenant : TenantId)
    (claim : OperationIdempotency) (atTime : Timestamp) : Prop :=
  ∃ row, state.liveReceipt tenant claim.keyDigest atTime = some row ∧
    row.requestDigest ≠ claim.requestDigest

/-- The answer of a commit under a key that holds another request. Expired receipts are retired
first, which fails only on a damaged state. -/
def MemoryState.conflict {α : Type} (state : MemoryState) (atTime : Timestamp) :
    Except RepositoryError α := do
  let _ ← state.retireExpiredIdempotency atTime
  .error .idempotencyConflict

private theorem MemoryState.conflict_bind {α β : Type} (next : α → Except RepositoryError β) :
    state.conflict atTime >>= next = state.conflict atTime := by
  unfold conflict
  cases state.retireExpiredIdempotency atTime <;> rfl

namespace MemoryState.HeldByOther

variable {claim : OperationIdempotency}

variable (held : state.HeldByOther tenant claim atTime)
include held

private theorem createReplay [Libraries] :
    state.loadCreateReplayInState tenant claim.keyDigest claim.requestDigest atTime =
      .error .idempotencyConflict := by
  obtain ⟨_, live, differs⟩ := held
  unfold loadCreateReplayInState
  rw [live]
  exact bind_reject_pos (.inl differs) _ _

private theorem serviceCommandReplay (callId : CallId) (operation : ServiceOperationKind) :
    state.loadServiceCommandReplay tenant callId claim.keyDigest claim.requestDigest operation
      atTime = .error .idempotencyConflict := by
  obtain ⟨_, live, differs⟩ := held
  unfold loadServiceCommandReplay
  rw [live]
  exact bind_reject_pos (.inl differs) _ _

private theorem controlCommandReplay (callId : CallId) (operation : ServiceOperationKind) :
    state.loadControlCommandReplay tenant callId claim.keyDigest claim.requestDigest operation
      atTime = .error .idempotencyConflict := by
  obtain ⟨_, live, differs⟩ := held
  unfold loadControlCommandReplay
  rw [live]
  exact bind_reject_pos (.inl differs) _ _

private theorem retired {next} (done : state.retireExpiredIdempotency atTime = .ok next) :
    ∃ row, next.idempotency.get? (tenant, claim.keyDigest) = some row ∧
      atTime < row.expiresAt ∧ row.requestDigest ≠ claim.requestDigest := by
  obtain ⟨row, live, differs⟩ := held
  rw [← liveReceipt_retired done, liveReceipt, Option.filter_eq_some_iff, decide_eq_true_eq] at live
  exact ⟨row, live.1, live.2, differs⟩

private theorem claimedReceipt (callId : CallId) :
    state.claimedReceipt tenant callId claim atTime = state.conflict atTime := by
  refine bind_congr_ok fun _ done => ?_
  obtain ⟨_, found, -, differs⟩ := held.retired done
  rw [found]
  exact bind_reject_pos (.inl differs) _ _

private theorem replayServiceOperation {request : ServiceCommandTransaction}
    (owner : request.command.tenantId = tenant) (moment : request.command.atTime = atTime)
    (claims : request.operationIdempotency = some claim) :
    state.replayServiceOperation request = state.conflict atTime := by
  unfold MemoryState.replayServiceOperation
  rw [claims, owner, moment]
  dsimp only
  rw [held.claimedReceipt, conflict_bind]

private theorem replayControlOperation {request : ControlCommandTransaction}
    (owner : request.tenantId = tenant) (moment : request.atTime = atTime)
    (claims : request.operationIdempotency = some claim) :
    state.replayControlOperation request = state.conflict atTime := by
  unfold MemoryState.replayControlOperation
  rw [claims, owner, moment]
  dsimp only
  rw [held.claimedReceipt, conflict_bind]

private theorem createCallInState (ids : EffectSupply) {request : CreateCall}
    (owner : request.initial.tenantId = tenant) (moment : request.atTime = atTime)
    (keyed : request.idempotencyKey = claim.keyDigest)
    (digested : request.requestDigest = claim.requestDigest) :
    state.createCallInState ids request = decideCreate request >>= fun _ => state.conflict atTime := by
  refine bind_congr_ok fun _ _ => ?_
  rw [← moment] at held ⊢
  refine bind_congr_ok fun _ done => ?_
  obtain ⟨_, found, unexpired, differs⟩ := held.retired done
  dsimp only
  rw [owner, keyed, found, digested, Option.filter_some, if_pos (by simpa using unexpired)]
  exact bind_reject_pos (.inl differs) _ _

end MemoryState.HeldByOther

private theorem normalizeServiceCommand_claimed [Libraries] {request normal}
    (done : normalizeServiceCommand request = .ok normal) :
    normal.command = request.command ∧
      normal.operationIdempotency = request.operationIdempotency ∧
      (request.operationIdempotency.isSome → normal.mediaActivity = none) := by
  simp only [normalizeServiceCommand, bind_eq_ok, exists_unit, pure_eq_ok, reject_eq_ok] at done
  obtain ⟨-, -, -, silent, -, -, -, rfl⟩ := done
  refine ⟨rfl, rfl, fun claims => ?_⟩
  by_contra active
  exact silent ⟨Option.isSome_iff_ne_none.mpr active, .inl claims⟩

/-- What commits under the claim answer: the error of a check of their own, or the conflict. -/
structure MemoryState.Conflicts [Libraries] (state : MemoryState) (tenant : TenantId)
    (claim : OperationIdempotency) (atTime : Timestamp) : Prop where
  claimed : ∀ callId, state.claimedReceipt tenant callId claim atTime = state.conflict atTime
  service : ∀ ids (request : ServiceCommandTransaction), request.command.tenantId = tenant →
    request.command.atTime = atTime → request.operationIdempotency = some claim →
      commitWithEffectPayloads ids state request =
        (normalizeServiceCommand request >>= fun _ => state.conflict atTime) ∧
      commitLegReplacementWithWorkerGuard ids state request =
        (normalizeServiceCommand request >>= fun _ => state.conflict atTime)
  control : ∀ ids (request : ControlCommandTransaction), request.tenantId = tenant →
    request.atTime = atTime → request.operationIdempotency = some claim →
      enqueueControl ids state request = (do
        request.intent.validate
        claim.validateControl request.intent
        state.conflict atTime)
  create : ∀ ids (request : CreateCall), request.initial.tenantId = tenant →
    request.atTime = atTime → request.idempotencyKey = claim.keyDigest →
    request.requestDigest = claim.requestDigest →
      createCallInState ids state request =
        (decideCreate request >>= fun _ => state.conflict atTime) ∧
      ∀ plan alternatives, createWithPlan ids state ⟨request, plan, alternatives⟩ =
        .error .idempotencyConflict

private theorem MemoryState.HeldByOther.conflicts [Libraries] {claim}
    (held : state.HeldByOther tenant claim atTime) : state.Conflicts tenant claim atTime where
  claimed := held.claimedReceipt
  service ids request owner moment claims := by
    have answered : ∀ normal, normalizeServiceCommand request = .ok normal →
        state.replayServiceOperation normal = state.conflict atTime := by
      intro normal done
      obtain ⟨command, claim, -⟩ := normalizeServiceCommand_claimed done
      exact held.replayServiceOperation (command ▸ owner) (command ▸ moment) (claim.trans claims)
    refine ⟨bind_congr_ok fun normal done => ?_, bind_congr_ok fun normal done => ?_⟩
    · have silent := (normalizeServiceCommand_claimed done).2.2 (by simp [claims])
      rw [commitServiceCommandInState, answered normal done, silent]
      exact conflict_bind _
    · rw [answered normal done]
      exact conflict_bind _
  control ids request owner moment claims := by
    refine bind_congr_ok fun _ _ => ?_
    rw [held.replayControlOperation owner moment claims, conflict_bind, claims,
      Option.toList_some, checkAll, checkAll, bind_assoc]
    rfl
  create ids request owner moment keyed digested := by
    refine ⟨held.createCallInState ids owner moment keyed digested, fun plan alternatives => ?_⟩
    rw [createWithPlan]
    dsimp only
    rw [owner, moment, keyed, digested, held.createReplay]
    rfl

section Conflicts

variable [RequestLibrary] {crypto : CallServiceCrypto} {principal principal' : PrincipalFingerprint}
  {key : IdempotencyKey}

private theorem heldByOther_of_differs (collisionFree : Function.Injective crypto.mac)
    {first claim claim' row} (claims : operationOf crypto tenant principal key first = some claim)
    (live : state.liveReceipt tenant claim.keyDigest atTime = some row)
    (written : row.requestDigest = claim.requestDigest) {operation callId transcript}
    (claims' : crypto.operationIdempotency tenant principal' key operation callId transcript =
      some claim')
    (differs : ¬ (principal = principal' ∧ first.operation = operation ∧ first.callId = callId ∧
      ∃ text, first.transcript = some text ∧ transcript = some text)) :
    state.HeldByOther tenant claim' atTime := by
  refine ⟨row, ?_, ?_⟩
  · rw [← operationIdempotency_keyDigest claims claims']
    exact live
  · intro same
    exact differs (operationIdempotency_requestDigest collisionFree claims claims'
      (written.symm.trans same))

private theorem legacy_differs {first : PublicRequest} {legs legacy}
    (older : legacyCreateTranscript legs = some legacy) :
    ¬ (principal = principal' ∧ first.operation = .createCall ∧ first.callId = none ∧
      ∃ text, first.transcript = some text ∧ legacy = some text) := by
  rintro ⟨-, kind, -, _, written, writtenLegacy⟩
  cases first with
  | createCall => exact legacyCreateTranscript_ne older writtenLegacy written
  | transferCall | replaceLeg | dtmfCall => nomatch kind

variable [Libraries]

private theorem loadCreateReplay_conflicts {legs route claim}
    (claims : operationOf crypto tenant principal key (.createCall legs route) = some claim)
    (held : state.HeldByOther tenant claim atTime)
    (older : ∀ legacy claim', legacyCreateTranscript legs = some legacy →
      crypto.operationIdempotency tenant principal key .createCall none legacy = some claim' →
        state.HeldByOther tenant claim' atTime) :
    loadCreateReplay crypto tenant principal key state legs route atTime =
      some (.error .idempotencyConflict) := by
  unfold loadCreateReplay
  simp only [claims, Option.bind_eq_bind, Option.bind_some, held.createReplay]
  split
  · rename_i legacy before
    obtain ⟨claim', claims'⟩ : ∃ claim', crypto.operationIdempotency _ _ _
        .createCall none legacy = some claim' :=
      operationIdempotency_covered (legacyCreateTranscript_covered before) claims
    rw [claims', Option.bind_some, (older _ claim' before claims').createReplay,
      Option.pure_def]
  · rfl

private theorem loadReplay_conflicts (collisionFree : Function.Injective crypto.mac)
    {first second claim claim' row}
    (claims : operationOf crypto tenant principal key first = some claim)
    (live : state.liveReceipt tenant claim.keyDigest atTime = some row)
    (written : row.requestDigest = claim.requestDigest)
    (claims' : operationOf crypto tenant principal' key second = some claim')
    (different : ¬ (principal = principal' ∧ first.Same second)) :
    loadReplay crypto tenant principal' key state second atTime =
        some (.error .idempotencyConflict) ∧
      state.Conflicts tenant claim' atTime := by
  have held : state.HeldByOther tenant claim' atTime := by
    refine heldByOther_of_differs collisionFree claims live written claims' ?_
    rintro ⟨principals, kind, callIds, _, writes, writes'⟩
    exact different ⟨principals, callIds, transcript_determines kind writes writes'⟩
  refine ⟨?_, held.conflicts⟩
  cases second with
  | createCall =>
    have replay := loadCreateReplay_conflicts claims' held fun _ _ older claims'' =>
      heldByOther_of_differs collisionFree claims live written claims'' (legacy_differs older)
    rw [loadReplay, replay]
    rfl
  | transferCall | replaceLeg =>
    rw [loadReplay, claims', Option.bind_eq_bind, Option.bind_some,
      held.serviceCommandReplay]
    rfl
  | dtmfCall =>
    rw [loadReplay, claims', Option.bind_eq_bind, Option.bind_some,
      held.controlCommandReplay]
    rfl

end Conflicts

/-- Transcripts of one kind determine their requests, and a key that holds one request conflicts
with every other, when it is looked up and when it is committed. -/
theorem requests_distinguished [Libraries] [RequestLibrary] (crypto : CallServiceCrypto)
    (collisionFree : Function.Injective crypto.mac) :
    (∀ (first second : PublicRequest) (text : List UInt8), first.operation = second.operation →
      first.transcript = some text → second.transcript = some text → first.SameBody second) ∧
    (∀ callId legId target callId' legId' route destination (text : List UInt8),
      (PublicRequest.transferCall callId legId target).transcript = some text →
        (PublicRequest.replaceLeg callId' legId' route destination).transcript ≠ some text) ∧
    (∀ legs legs' route legacy (text : List UInt8), legacyCreateTranscript legs = some legacy →
      legacy = some text → (PublicRequest.createCall legs' route).transcript ≠ some text) ∧
    ∀ (state : MemoryState) (tenant : TenantId) (key : IdempotencyKey) (atTime : Timestamp)
      (principal principal' : PrincipalFingerprint) (first second : PublicRequest)
      (claim claim' : OperationIdempotency) (row : IdempotencyRow),
      operationOf crypto tenant principal key first = some claim →
      operationOf crypto tenant principal' key second = some claim' →
      state.liveReceipt tenant claim.keyDigest atTime = some row →
      row.requestDigest = claim.requestDigest →
      ¬ (principal = principal' ∧ first.Same second) →
        loadReplay crypto tenant principal' key state second atTime =
            some (.error .idempotencyConflict) ∧
          state.Conflicts tenant claim' atTime := by
  refine ⟨?_, ?_, ?_, ?_⟩
  · intro first second text kind written written'
    exact transcript_determines kind written written'
  · intro callId legId target callId' legId' route destination text written written'
    have same : (PublicRequest.transferCall callId legId target).SameBody
        (.replaceLeg callId' legId' route destination) := transcript_determines rfl written written'
    exact same
  · intro _ _ route _ text older written written'
    exact legacyCreateTranscript_ne older written written'
  · intro _ _ _ _ _ _ first second _ _ _ claims claims'
      live written different
    exact loadReplay_conflicts collisionFree claims live written claims' different

namespace Sample

@[reducible] def requestLibrary : RequestLibrary := ⟨fun _ => []⟩

attribute [local instance] libraries requestLibrary

/-- A code that repeats its message. -/
def crypto : CallServiceCrypto := ⟨fun message => Nat.ofDigits 257 (message.map (·.toNat + 1))⟩

private theorem crypto_injective : Function.Injective crypto.mac := by
  intro message message' same
  have digits : ∀ message : List UInt8,
      Nat.digits 257 (crypto.mac message) = message.map (·.toNat + 1) := by
    intro message
    refine Nat.digits_ofDigits 257 (by decide) _ ?_ ?_
    · intro _ member
      obtain ⟨byte, -, rfl⟩ := List.mem_map.mp member
      exact Nat.succ_lt_succ byte.toNat_lt
    · intro _
      rw [List.getLast_map]
      exact Nat.succ_ne_zero _
  have maps : message.map (·.toNat + 1) = message'.map (·.toNat + 1) := by
    rw [← digits, ← digits, same]
  refine List.map_injective_iff.mpr ?_ maps
  intro byte _ values
  exact UInt8.toNat_inj.mp (Nat.succ.inj values)

def key : IdempotencyKey := ⟨"key", by decide +kernel⟩

def principal : PrincipalFingerprint := ⟨1⟩

def callerLeg : RequestedLeg := ⟨.inbound, none, .sendReceive, .webRtc none, none⟩

def calleeLeg (mediaFlow : MediaFlow) : RequestedLeg :=
  ⟨.outbound, none, mediaFlow, .sip (some "sip:callee@example.test") .none, none⟩

def duplexCall : PublicRequest := .createCall (callerLeg, calleeLeg .sendReceive) none

def listenedCall : PublicRequest := .createCall (callerLeg, calleeLeg .receiveOnly) none

@[irreducible] def listenedClaim : OperationIdempotency :=
  (operationOf crypto tenantId principal key listenedCall).get (by decide +kernel)

@[irreducible] def duplexClaim : OperationIdempotency :=
  (operationOf crypto tenantId principal key duplexCall).get (by decide +kernel)

/-- The key holds the call that only receives. -/
def listened : MemoryState := { MemoryState.initial with
  idempotency := MemoryState.initial.idempotency.insert (tenantId, listenedClaim.keyDigest)
    ⟨listenedClaim.requestDigest, callId, 1000, .createCall⟩ }

private theorem listenedClaim_claims :
    operationOf crypto tenantId principal key listenedCall = some listenedClaim := by
  unfold listenedClaim
  exact (Option.some_get _).symm

private theorem duplexClaim_claims :
    operationOf crypto tenantId principal key duplexCall = some duplexClaim := by
  unfold duplexClaim
  exact (Option.some_get _).symm

theorem requests_distinguished_media_flow :
    loadReplay crypto tenantId principal key listened duplexCall 0 =
        some (.error .idempotencyConflict) ∧
      listened.Conflicts tenantId duplexClaim 0 := by
  refine (requests_distinguished _ crypto_injective).2.2.2 _ _ key 0 _
    _ _ _ _ _
    ⟨listenedClaim.requestDigest, callId, 1000, .createCall⟩ listenedClaim_claims
    duplexClaim_claims ?_ rfl ?_
  · unfold MemoryState.liveReceipt listened
    rw [Table.get?_insert_self]
    rfl
  · rintro ⟨-, -, ⟨-, callees⟩, -⟩
    exact absurd callees.mediaFlow (by decide)

end Sample

end Bridgefu.Persistence
