/- digest: What a worker loads for a claimed control effect and where it sends it. -/

import Bridgefu.Persistence.Services

/-!
A claimed control effect is sent through the gateway of its binding, to the provider call behind the
binding or straight to the connection. What the remote side answers is left to the outside: the model
ends with the target that the worker picks, or with the failure that it reports.
-/

set_option autoImplicit false

namespace Bridgefu.Worker

open Lib CallEngine CallService Persistence

/-- Attachments with the version that their command observed, by version and identifier. -/
def attachmentBefore (left right : Nat × AttachmentIssue) : Prop :=
  left.1 < right.1 ∨ (left.1 = right.1 ∧ left.2.attachmentId.uuid ≤ right.2.attachmentId.uuid)

instance (left right : Nat × AttachmentIssue) : Decidable (attachmentBefore left right) :=
  inferInstanceAs (Decidable (_ ∨ _))

variable (state : MemoryState) (stored : StoredServiceCall)

def serviceCallAttachments (callId : CallId) : Except RepositoryError (List AttachmentIssue) := do
  let issued := (state.commands.values.filter fun command => command.callId = callId).flatMap
    fun command => command.attachments.map fun attachment => (command.observedVersion, attachment)
  let attachments := issued.insertionSort attachmentBefore
  checkAll (fun entry : Nat × AttachmentIssue => do
    let row ← orFail (state.attachments.get? entry.2.tokenDigest) RepositoryError.unavailable
    reject (row.callId ≠ callId ∨ row.attachmentId ≠ entry.2.attachmentId) .unavailable) attachments
  return attachments.map Prod.snd

def loadServiceCall (tenantId : TenantId) (callId : CallId) :
    Except RepositoryError StoredServiceCall := do
  let call ← state.tenantCall tenantId callId
  reject (¬ state.serviceManagedCalls.contains callId) .notFound
  let plan ← orFail (state.executionPlans.get? callId) .notFound
  let attachments ← serviceCallAttachments state callId
  return ⟨call, plan, attachments⟩

def loadEffectPayload (tenantId : TenantId) (effectId : EffectId) :
    Except RepositoryError (Option StoredServiceEffectPayload) := do
  let record ← orFail ((state.outbox.get? effectId).filter fun record => record.tenantId = tenantId)
    .notFound
  let payload := state.serviceEffectPayloads.get? effectId
  reject (payload.any fun payload => payload.commandId ≠ record.commandId) .unavailable
  return payload

def loadExternalReferenceForBinding (tenantId : TenantId) (callId : CallId) (legId : LegId)
    (bindingGeneration : Nat) (role : ProviderReferenceRole) :
    Except RepositoryError (Option StoredExternalReference) := do
  let call ← state.tenantCall tenantId callId
  reject (call.aggregate.leg legId).isNone .notFound
  match state.externalReferenceBindings.get? (callId, legId, bindingGeneration, role) with
  | none => return none
  | some key => do
    let reference ← orFail (state.externalReferences.get? key) .unavailable
    reject (reference.tenantId ≠ tenantId ∨ reference.bindingGeneration ≠ bindingGeneration ∨
      reference.role ≠ role) .unavailable
    return some reference

structure ProviderEndpointConfig where
  provider : ProviderKind
  accountProfile : String
  destination : Option String

structure ProviderExecutionReference where
  account : ProviderAccountKey
  providerCallId : ProviderCallId

inductive ProviderExecutionError where
  | disabled
  | unsupported
  | accountProfileMismatch
  | invalidRequest
  | remote (retryable : Bool)

def ProviderExecutionError.retryable : ProviderExecutionError → Bool
  | .remote retryable => retryable
  | _ => false

def providerExecutionFailure (operation : String) (error : ProviderExecutionError) :
    FailureDetails :=
  let code := match error with
    | .disabled => "provider_execution_disabled"
    | .unsupported => "provider_operation_unsupported"
    | .accountProfileMismatch => "provider_account_mismatch"
    | .invalidRequest => "provider_request_invalid"
    | .remote _ => operation
  .sanitized code "the provider operation did not complete successfully" error.retryable

def telnyxEndpoint : LegEndpointConfig → Option ProviderEndpointConfig
  | .provider .telnyx accountProfile destination => some ⟨.telnyx, accountProfile, destination⟩
  | _ => none

def providerEndpointForLeg (legId : LegId) : Option ProviderEndpointConfig :=
  (stored.plan.legs.find? fun spec => spec.legId = legId).bind fun spec =>
    telnyxEndpoint spec.endpoint

/-- Does the reference name a provider call of the endpoint's account? -/
def ofAccount (value : ExternalReferenceValue) (endpoint : ProviderEndpointConfig) : Bool :=
  match value with
  | .providerCall account _ => account.value = endpoint.accountProfile
  | .signaling .. => false

/-- The endpoint that a replacement payload gives the pending generation of the leg. -/
def replacementEndpoint (legId : LegId) (bindingGeneration : Nat) :
    ServiceEffectPayload → Option ProviderEndpointConfig
  | .legReplacement payloadLeg _ pendingBindingGeneration endpoint .. =>
    if payloadLeg = legId ∧ pendingBindingGeneration = bindingGeneration
    then telnyxEndpoint endpoint else none
  | .transfer .. => none

/-- The endpoint behind the reference: that of the plan, or that of the replacement which stored the
reference. -/
def mediaEndpoint (tenantId : TenantId) (legId : LegId) (bindingGeneration : Nat)
    (reference : StoredExternalReference) : Except ProviderExecutionError ProviderEndpointConfig :=
  match (providerEndpointForLeg stored legId).filter (ofAccount reference.value) with
  | some endpoint => .ok endpoint
  | none => do
    let payload ← mapFailure (loadEffectPayload state tenantId reference.effectId)
      (ProviderExecutionError.remote true)
    orFail (payload.bind fun payload =>
      replacementEndpoint legId bindingGeneration payload.payload) .invalidRequest

def loadProviderMediaForBinding (tenantId : TenantId) (callId : CallId) (legId : LegId)
    (bindingGeneration : Nat) :
    Except ProviderExecutionError (ProviderEndpointConfig × ProviderExecutionReference) := do
  let found ← mapFailure (loadExternalReferenceForBinding state tenantId callId legId
    bindingGeneration .media) (ProviderExecutionError.remote true)
  let reference ← orFail found .invalidRequest
  let endpoint ← mediaEndpoint state stored tenantId legId bindingGeneration reference
  match reference.value with
  | .providerCall account providerCallId =>
    if account.value = endpoint.accountProfile then .ok (endpoint, ⟨account, providerCallId⟩)
    else .error .accountProfileMismatch
  | .signaling .. => .error .accountProfileMismatch

/-- The actor's view of a bound connection, with the gateway route that it may have. -/
structure ActorBinding (Route : Type) where
  connectionId : ConnectionId
  legId : LegId
  bindingGeneration : Nat
  state : LegState
  privateEgress : Option Route

inductive ControlTarget (Route : Type) where
  | gateway (binding : ActorBinding Route) (route : Route)
  | provider (endpoint : ProviderEndpointConfig) (mediaCall : ProviderExecutionReference)
  | connection (binding : ActorBinding Route)

/-- The target of a claimed control effect. Without a gateway of the worker's own, the route of the
binding is not used. -/
def executeControlEffect {Route : Type} (state : MemoryState) (privateEgress : Bool)
    (bindings : Table LegId (ActorBinding Route)) (record : ControlOutboxRecord) :
    Except FailureDetails (ControlTarget Route) :=
  match (bindings.get? record.legId).filter fun binding =>
      binding.bindingGeneration = record.bindingGeneration with
  | none => .error (.sanitized "dtmf_binding_stale"
      "the DTMF target transport binding is no longer current" false)
  | some binding =>
    match if privateEgress then binding.privateEgress else none with
    | some route => .ok (.gateway binding route)
    | none =>
      match loadServiceCall state record.tenantId record.callId with
      | .error _ => .error (.sanitized "dtmf_call_unavailable"
          "the DTMF target call is unavailable" true)
      | .ok stored =>
        match loadProviderMediaForBinding state stored record.tenantId record.callId
            record.legId record.bindingGeneration with
        | .ok (endpoint, mediaCall) => .ok (.provider endpoint mediaCall)
        | .error .invalidRequest => .ok (.connection binding)
        | .error error =>
          .error (providerExecutionFailure "provider_dtmf_reference_failed" error)

/-- The target is a binding of the given generation, or the provider call stored for it. -/
def ControlTarget.Addresses {Route : Type} (state : MemoryState) (callId : CallId) (legId : LegId)
    (generation : Nat) : ControlTarget Route → Prop
  | .gateway binding _ | .connection binding => binding.bindingGeneration = generation
  | .provider _ mediaCall => ∃ key reference,
      state.externalReferenceBindings.get? (callId, legId, generation, .media) = some key ∧
      state.externalReferences.get? key = some reference ∧
      reference.bindingGeneration = generation ∧
      reference.value = .providerCall mediaCall.account mediaCall.providerCallId

private theorem loadProviderMediaForBinding_ok
    {state stored tenantId callId legId bindingGeneration endpoint mediaCall}
    (loaded : loadProviderMediaForBinding state stored tenantId callId legId bindingGeneration =
      .ok (endpoint, mediaCall)) :
    ∃ key reference,
      state.externalReferenceBindings.get? (callId, legId, bindingGeneration, .media) = some key ∧
      state.externalReferences.get? key = some reference ∧
      reference.bindingGeneration = bindingGeneration ∧
      reference.value = .providerCall mediaCall.account mediaCall.providerCallId := by
  simp only [loadProviderMediaForBinding, bind_eq_ok, mapFailure_eq_ok, orFail_eq_ok] at loaded
  obtain ⟨_, lookup, reference, rfl, _, -, loaded⟩ := loaded
  have value : reference.value = .providerCall mediaCall.account mediaCall.providerCallId := by
    split at loaded
    · split at loaded
      · cases loaded
        assumption
      · cases loaded
    · cases loaded
  simp only [loadExternalReferenceForBinding, bind_eq_ok, exists_unit] at lookup
  obtain ⟨_, -, -, lookup⟩ := lookup
  split at lookup
  · cases lookup
  · rename_i key bound
    simp only [bind_eq_ok, exists_unit, orFail_eq_ok] at lookup
    obtain ⟨_, row, exact', same⟩ := lookup
    cases same
    rw [reject_eq_ok] at exact'
    simp only [not_or, not_not] at exact'
    exact ⟨key, reference, bound, row, exact'.2.1, value⟩

theorem executeControlEffect_addresses {Route state privateEgress bindings}
    {record} {target : ControlTarget Route}
    (sent : executeControlEffect state privateEgress bindings record = .ok target) :
    target.Addresses state record.callId record.legId record.bindingGeneration := by
  unfold executeControlEffect at sent
  split at sent
  · cases sent
  · rename_i binding current
    rw [Option.filter_eq_some_iff, decide_eq_true_eq] at current
    split at sent
    · cases sent
      exact current.2
    · split at sent
      · cases sent
      · split at sent
        · rename_i loaded
          cases sent
          exact loadProviderMediaForBinding_ok loaded
        · cases sent
          exact current.2
        · cases sent

end Bridgefu.Worker
