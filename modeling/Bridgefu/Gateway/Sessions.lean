/- digest: Sessions of the worker listener and of the public gateway, resolved and reauthorised. -/

import Bridgefu.PrivateEgress.Store
import Bridgefu.Lib.Trace

set_option autoImplicit false

/-! A session is resolved once, when its peer connects, and reauthorised whenever the peer refreshes
its token. Reauthorisation resolves the session again, with every check of the first admission. -/

namespace Bridgefu.Gateway

open Lib CallEngine PrivateEgress Table

abbrev SessionId := String

/-- The wire sessions of the private listener. Their prefixes differ, so a text is one at most. -/
inductive WireSession where
  | call (tenantId : TenantId) (callId : CallId) (legId : LegId)
  | attachment (tenantId : TenantId) (requestId : Uuid)
  | privateEgress (tenantId : TenantId) (admissionId : Uuid)
  | broadcast (broadcastId listenerId : Uuid)

structure AuthenticatedPrincipal where
  tenant : Option String
  scopes : List String

/-- Identifiers, the URL-safe alphabet without padding, digests and scopes are left to libraries. -/
class SessionLibrary where
  parseUuid : String → Option Uuid
  uuidText : Uuid → String
  decode : String → Option (List UInt8)
  encode : List UInt8 → String
  fromUtf8 : List UInt8 → Option String
  sha256 : List UInt8 → List UInt8
  requireScope : AuthenticatedPrincipal → String → Bool
  receiveOnlyScope : String

open SessionLibrary

def stripPrefix (head text : String) : Option String :=
  (text.toList.dropPrefix? head.toList).map String.ofList

def TenantId.parse (value : String) : Option TenantId :=
  if value.isEmpty ∨ 128 < value.utf8ByteSize ∨
      ¬ value.toList.all fun c => c.isAlphanum || c ∈ ['.', '_', ':', '-'] then none
  else some ⟨value⟩

/-- Does the text name a broadcast resource? -/
def validateResourceId (value : String) : Bool :=
  !value.isEmpty && decide (value.utf8ByteSize ≤ 256) &&
    value.toList.all fun c => c.isAlphanum || c ∈ ['-', '_', '.', '~']

section Texts

variable [SessionLibrary]

def parseId (text : String) : Option Uuid := (parseUuid text).filter (!·.isNil)

def parseTenant (encoded : String) : Option TenantId := do
  TenantId.parse (← fromUtf8 (← decode encoded))

/-- The parts of a wire session after the given first one. -/
def wireParts (head : String) (wire : SessionId) : Option (List String) :=
  match (wire.toList.splitOn '.').map String.ofList with
  | first :: parts => if first = head then some parts else none
  | [] => none

def parseWireSession (wire : SessionId) : Option WireSession := do
  match ← wireParts "bf-private-v1" wire with
  | [tenant, call, leg] => return .call (← parseTenant tenant) ⟨← parseId call⟩ ⟨← parseId leg⟩
  | _ => none

def parseAttachmentWireSession (wire : SessionId) : Option WireSession := do
  match ← wireParts "bf-admit-v1" wire with
  | [tenant, request] => return .attachment (← parseTenant tenant) (← parseId request)
  | _ => none

def parsePrivateEgressWireSession (wire : SessionId) : Option WireSession := do
  match ← wireParts "bf-egress-v1" wire with
  | [tenant, admission] => return .privateEgress (← parseTenant tenant) (← parseId admission)
  | _ => none

def parsePrivateBroadcastWireSession (wire : SessionId) : Option WireSession := do
  match ← wireParts "bf-broadcast-session-v1" wire with
  | [broadcast, listener] => return .broadcast (← parseId broadcast) (← parseId listener)
  | _ => none

def parseSession (wire : SessionId) : Option WireSession :=
  parseWireSession wire <|> parseAttachmentWireSession wire <|>
    parsePrivateEgressWireSession wire <|> parsePrivateBroadcastWireSession wire

/-- The listener that a broadcast connection is named after. -/
def privateBroadcastListenerId (connection : ConnectionId) : Option Uuid :=
  (stripPrefix "bf-broadcast-conn-v1." connection.value).bind parseId

/-- The digest of a token of 32 bytes in its canonical form. -/
def parsePresentedAttachmentToken (token : String) : Option (List UInt8) := do
  let raw ← if token.utf8ByteSize = 43 then decode token else none
  if raw.length = 32 ∧ encode raw = token then return sha256 raw else none

def parsePublicSession (value : String) : Option String := do
  let suffix ← stripPrefix "bf-public-attach-v1:" value
  match suffix.toList.span (· ≠ ':') with
  | (transport, _ :: token) =>
    if String.ofList transport ∈ ["sip", "webrtc"] then
      let _ ← parsePresentedAttachmentToken (String.ofList token)
      return String.ofList token
    else none
  | (_, []) => none

end Texts

inductive ResourceBindingError where
  | unavailable (code : String)
  | forbidden (code : String)
  deriving DecidableEq

structure CodecInfo where
  name : String
  clockRateHz : Nat
  channels : Nat
  deriving DecidableEq

structure PrivateEgressStreamAdmission where
  version : Nat
  admissionId : Uuid
  worker : WorkerLease
  source : PrivateEgressSource
  target : PrivateEgressTarget
  codec : CodecInfo
  issuedAtMs : Int
  expiresAtMs : Int
  deriving DecidableEq

inductive PrivateEgressStreamError where
  | invalidAdmission
  | expired
  | ownershipMismatch
  | alreadyUsed
  | capacityExceeded
  | connectionUnavailable

def PrivateEgressStreamAdmission.validate (admission : PrivateEgressStreamAdmission)
    (nowMs : Int) : Except PrivateEgressStreamError Unit := do
  reject (admission.version ≠ 1 ∨ admission.admissionId.isNil ∨ admission.worker.fence = 0 ∨
    admission.codec.name.isEmpty ∨ 64 < admission.codec.name.utf8ByteSize ∨
    admission.codec.clockRateHz = 0 ∨ admission.codec.channels = 0 ∨
    2 < admission.codec.channels ∨
    ¬ admission.codec.name.toList.all fun c => c.isAlphanum || c ∈ ['.', '_', '-']) .invalidAdmission
  let lifetime := admission.expiresAtMs - admission.issuedAtMs
  reject (¬ 0 < lifetime ∨ 30000 < lifetime) .invalidAdmission
  reject (admission.expiresAtMs < nowMs) .expired

structure StreamAdmissionEntry where
  admission : PrivateEgressStreamAdmission
  bound : Bool
  deriving DecidableEq

/-- Every entry holds a permit of the capacity. -/
structure AdmissionRegistry where
  worker : WorkerLease
  entries : Table Uuid StreamAdmissionEntry
  capacity : Nat
  draining : Bool
  deriving DecidableEq

namespace AdmissionRegistry

variable (registry : AdmissionRegistry) (admission : PrivateEgressStreamAdmission)

def sweepExpired (nowMs : Int) : AdmissionRegistry :=
  { registry with entries := registry.entries.filter fun _ entry =>
      !(decide (entry.admission.expiresAtMs < nowMs) && !entry.bound) }

/-- A reservation for which there is no room, or whose identifier is taken, has swept all the same. -/
def reserve (nowMs : Int) : AdmissionRegistry × Except PrivateEgressStreamError Unit :=
  if registry.draining then (registry, .error .connectionUnavailable)
  else match admission.validate nowMs with
  | .error refused => (registry, .error refused)
  | .ok () =>
    if admission.worker ≠ registry.worker then (registry, .error .ownershipMismatch)
    else
      let swept := registry.sweepExpired nowMs
      if swept.capacity ≤ swept.entries.rows.length then (swept, .error .capacityExceeded)
      else if swept.entries.contains admission.admissionId then (swept, .error .alreadyUsed)
      else ({ swept with
        entries := swept.entries.insert admission.admissionId ⟨admission, false⟩ }, .ok ())

def authorizesId (admissionId : Uuid) (tenantId : TenantId) (nowMs : Int) : Bool :=
  (registry.entries.get? admissionId).any fun entry =>
    decide (entry.admission.worker = registry.worker) &&
      decide (entry.admission.source.tenantId = tenantId) &&
      decide (nowMs ≤ entry.admission.expiresAtMs)

def admitStream (nowMs : Int) : Except PrivateEgressStreamError AdmissionRegistry := do
  admission.validate nowMs
  let entry ← orFail (registry.entries.get? admission.admissionId) .ownershipMismatch
  reject (entry.admission ≠ admission) .ownershipMismatch
  reject entry.bound .alreadyUsed
  return { registry with
    entries := registry.entries.insert admission.admissionId { entry with bound := true } }

def release (admissionId : Uuid) : AdmissionRegistry :=
  { registry with entries := registry.entries.erase admissionId }

end AdmissionRegistry

structure WorkerBroadcastGrant where
  tenantId : TenantId
  worker : WorkerLease
  grantGeneration : Uuid
  deriving DecidableEq

structure BroadcastAuthority where
  worker : WorkerLease
  active : Table String WorkerBroadcastGrant
  listeners : Table (String × Uuid) Uuid
  deriving DecidableEq

namespace BroadcastAuthority

variable (authority : BroadcastAuthority) (broadcastId : String)

def authorizeAndBind (tenantId broadcastId : String) (listenerId : Uuid) (workerFence : Nat)
    (grantGeneration : Uuid) : BroadcastAuthority × Bool :=
  if workerFence ≠ authority.worker.fence ∨ listenerId.isNil ∨ grantGeneration.isNil then
    (authority, false)
  else match authority.active.get? broadcastId with
    | none => (authority, false)
    | some grant =>
      if grant.tenantId.value ≠ tenantId ∨ grant.worker ≠ authority.worker ∨
          grant.grantGeneration ≠ grantGeneration then (authority, false)
      else match authority.listeners.get? (broadcastId, listenerId) with
        | some generation => (authority, decide (generation = grantGeneration))
        | none => ({ authority with listeners :=
            authority.listeners.insert (broadcastId, listenerId) grantGeneration }, true)

def revalidateListener (listenerId : Uuid) : Bool :=
  (authority.listeners.get? (broadcastId, listenerId)).any fun generation =>
    (authority.active.get? broadcastId).any fun grant =>
      decide (grant.worker = authority.worker) && decide (grant.grantGeneration = generation)

def activeForTenant (tenantId broadcastId : String) : Bool :=
  (authority.active.get? broadcastId).any fun grant =>
    decide (grant.tenantId.value = tenantId) && decide (grant.worker = authority.worker)

def unbindListener (listenerId : Uuid) : BroadcastAuthority :=
  { authority with listeners := authority.listeners.erase (broadcastId, listenerId) }

/-- The record has passed the checks of an active broadcast of this worker. -/
def activate (tenantId : TenantId) (grantGeneration : Uuid) : BroadcastAuthority :=
  { authority with active :=
      authority.active.insert broadcastId ⟨tenantId, authority.worker, grantGeneration⟩ }

def revoke : BroadcastAuthority :=
  { authority with
    active := authority.active.erase broadcastId
    listeners := authority.listeners.filter fun binding _ => binding.1 ≠ broadcastId }

end BroadcastAuthority

structure PrivateSessionResolver where
  draining : Bool
  broadcastAuthority : Option BroadcastAuthority
  admissions : Option AdmissionRegistry

def privateForwardScope : String := "bridgefu:gateway-forward"

def uctpSessionScope : String := "uctp:session"

namespace PrivateSessionResolver

variable [SessionLibrary]

variable (resolver : PrivateSessionResolver) (nowMs : Int)

def resolveSession (principal : AuthenticatedPrincipal) (wireSession : SessionId) :
    Except ResourceBindingError SessionId := do
  reject resolver.draining (.unavailable "worker-draining")
  reject (¬ (requireScope principal privateForwardScope ∧
    requireScope principal uctpSessionScope)) (.forbidden "forwarding-scope-required")
  let principalTenant ← orFail principal.tenant (.forbidden "tenant-required")
  let tenant ← match parseSession wireSession with
    | some (.call tenantId _ _) | some (.attachment tenantId _) => pure (some tenantId)
    | some (.privateEgress tenantId admissionId) => do
      reject (¬ resolver.admissions.any (·.authorizesId admissionId tenantId nowMs))
        (.forbidden "private-egress-admission-inactive")
      pure (some tenantId)
    | some (.broadcast broadcastId _) => do
      reject (¬ resolver.broadcastAuthority.any
        (·.activeForTenant principalTenant (uuidText broadcastId)))
        (.forbidden "private-broadcast-inactive")
      pure none
    | none => .error (.forbidden "invalid-route-id")
  reject (tenant.any (·.value ≠ principalTenant)) (.forbidden "route-tenant-mismatch")
  return wireSession

def reauthorizeSession (principal : AuthenticatedPrincipal)
    (wireSession canonicalSession : SessionId) : Except ResourceBindingError Unit := do
  let resolved ← resolver.resolveSession nowMs principal wireSession
  reject (resolved ≠ canonicalSession) (.forbidden "private-session-ownership-changed")

def reauthorizeConnection (principal : AuthenticatedPrincipal)
    (wireSession canonicalSession : SessionId) (wireConnection : ConnectionId) :
    Except ResourceBindingError Unit := do
  resolver.reauthorizeSession nowMs principal wireSession canonicalSession
  match parseSession wireSession with
  | some (.broadcast broadcastId listenerId) =>
    reject (privateBroadcastListenerId wireConnection ≠ some listenerId ∨
      ¬ resolver.broadcastAuthority.any (·.revalidateListener (uuidText broadcastId) listenerId))
      (.forbidden "private-broadcast-connection-mismatch")
  | _ => return ()

end PrivateSessionResolver

inductive SessionStep where
  | beginDrain
  | reserve (admission : PrivateEgressStreamAdmission) (nowMs : Int)
  | admitStream (admission : PrivateEgressStreamAdmission) (nowMs : Int)
  | release (admissionId : Uuid)
  | drainAdmissions
  | releaseAll
  | activate (broadcastId : String) (tenantId : TenantId) (grantGeneration : Uuid)
  | bind (tenantId broadcastId : String) (listenerId : Uuid) (workerFence : Nat)
      (grantGeneration : Uuid)
  | unbind (broadcastId : String) (listenerId : Uuid)
  | revoke (broadcastId : String)

namespace PrivateSessionResolver

def next (resolver : PrivateSessionResolver) : SessionStep → PrivateSessionResolver
  | .beginDrain => { resolver with draining := true }
  | .reserve admission nowMs => { resolver with
      admissions := resolver.admissions.map fun held => (held.reserve admission nowMs).1 }
  | .admitStream admission nowMs => { resolver with
      admissions := resolver.admissions.map fun held =>
        orKeep (held.admitStream admission nowMs) held }
  | .release admissionId => { resolver with
      admissions := resolver.admissions.map (·.release admissionId) }
  | .drainAdmissions => { resolver with
      admissions := resolver.admissions.map ({ · with draining := true }) }
  | .releaseAll => { resolver with
      admissions := resolver.admissions.map ({ · with entries := .empty }) }
  | .activate broadcastId tenantId generation => { resolver with
      broadcastAuthority :=
        resolver.broadcastAuthority.map (·.activate broadcastId tenantId generation) }
  | .bind tenantId broadcastId listenerId fence generation => { resolver with
      broadcastAuthority := resolver.broadcastAuthority.map fun held =>
        (held.authorizeAndBind tenantId broadcastId listenerId fence generation).1 }
  | .unbind broadcastId listenerId => { resolver with
      broadcastAuthority := resolver.broadcastAuthority.map (·.unbindListener broadcastId listenerId) }
  | .revoke broadcastId => { resolver with
      broadcastAuthority := resolver.broadcastAuthority.map (·.revoke broadcastId) }

end PrivateSessionResolver

def AdmissionRegistry.Binds (registry : AdmissionRegistry) (worker : WorkerLease)
    (admissionId : Uuid) (admission : PrivateEgressStreamAdmission) : Prop :=
  registry.worker = worker ∧ registry.entries.get? admissionId = some ⟨admission, true⟩

namespace AdmissionRegistry.Binds

variable {registry after : AdmissionRegistry} {worker : WorkerLease} {admissionId : Uuid}
  {admission other : PrivateEgressStreamAdmission} {nowMs : Int}

private theorem reserve (binds : registry.Binds worker admissionId admission)
    (other : PrivateEgressStreamAdmission) (nowMs : Int) :
    (registry.reserve other nowMs).1.Binds worker admissionId admission := by
  have swept : (registry.sweepExpired nowMs).Binds worker admissionId admission :=
    ⟨binds.1, by simp [sweepExpired, binds.2]⟩
  unfold AdmissionRegistry.reserve
  split
  · exact binds
  split
  · exact binds
  split
  · exact binds
  dsimp only
  split
  · exact swept
  split_ifs with free
  · exact swept
  · refine ⟨swept.1, (get?_insert_ne _ _ ?_).trans swept.2⟩
    rintro rfl
    exact free ((contains_eq_true _ _).mpr ⟨_, swept.2⟩)

private theorem admitStream (binds : registry.Binds worker admissionId admission)
    (done : registry.admitStream other nowMs = .ok after) :
    after.Binds worker admissionId admission := by
  obtain ⟨mine, stored⟩ := binds
  simp only [AdmissionRegistry.admitStream, bind_eq_ok, exists_unit, orFail_eq_ok, reject_eq_ok,
    pure_eq_ok] at done
  obtain ⟨-, _, found, -, unbound, rfl⟩ := done
  refine ⟨mine, (get?_insert_ne _ _ ?_).trans stored⟩
  rintro rfl
  cases found.symm.trans stored
  exact unbound rfl

end AdmissionRegistry.Binds

private theorem BroadcastAuthority.authorizeAndBind_keeps (authority : BroadcastAuthority)
    (tenantId broadcastId : String) (listenerId : Uuid) (fence : Nat) (generation : Uuid) :
    let after := (authority.authorizeAndBind tenantId broadcastId listenerId fence generation).1
    after.worker = authority.worker ∧ after.active = authority.active ∧
      ∀ binding held, authority.listeners.get? binding = some held →
        after.listeners.get? binding = some held := by
  unfold authorizeAndBind
  split
  · exact ⟨rfl, rfl, fun _ _ => id⟩
  split
  · exact ⟨rfl, rfl, fun _ _ => id⟩
  split
  · exact ⟨rfl, rfl, fun _ _ => id⟩
  split
  · exact ⟨rfl, rfl, fun _ _ => id⟩
  · rename_i free
    refine ⟨rfl, rfl, fun _ _ stored => (get?_insert_ne _ _ ?_).trans stored⟩
    rintro rfl
    cases free.symm.trans stored

section Bound

variable [SessionLibrary]

/-- The admission of the stream is bound, the listener is bound under the grant of the tenant. The
last argument is the time at which the admission expires. -/
inductive Bound (resolver : PrivateSessionResolver) (tenant : String) :
    WireSession → Option Int → Prop
  | call {tenantId callId legId} : Bound resolver tenant (.call tenantId callId legId) none
  | attachment {tenantId requestId} : Bound resolver tenant (.attachment tenantId requestId) none
  | privateEgress {registry admission admissionId}
      (registered : resolver.admissions = some registry)
      (stored : registry.entries.get? admissionId = some ⟨admission, true⟩)
      (mine : admission.worker = registry.worker) :
      Bound resolver tenant (.privateEgress admission.source.tenantId admissionId)
        (some admission.expiresAtMs)
  | broadcast {authority grant broadcastId listenerId}
      (present : resolver.broadcastAuthority = some authority)
      (active : authority.active.get? (uuidText broadcastId) = some grant)
      (owned : grant.tenantId.value = tenant) (mine : grant.worker = authority.worker)
      (listens : authority.listeners.get? (uuidText broadcastId, listenerId) =
        some grant.grantGeneration) :
      Bound resolver tenant (.broadcast broadcastId listenerId) none

/-- The step releases the admission, unbinds the listener, or revokes or replaces the grant. -/
def SessionStep.Ends (resolver : PrivateSessionResolver) (step : SessionStep) :
    WireSession → Prop
  | .call _ _ _ | .attachment _ _ => False
  | .privateEgress _ admissionId => step = .release admissionId ∨ step = .releaseAll
  | .broadcast broadcastId listenerId =>
    step = .unbind (uuidText broadcastId) listenerId ∨
      step = .revoke (uuidText broadcastId) ∨
      ∃ tenantId generation, step = .activate (uuidText broadcastId) tenantId
        generation ∧ (resolver.next step).broadcastAuthority ≠ resolver.broadcastAuthority

variable {resolver : PrivateSessionResolver} {tenant : String} {session : WireSession}
  {deadline : Option Int}

theorem Bound.next (bound : Bound resolver tenant session deadline) {step}
    (goes : ¬ step.Ends resolver session) : Bound (resolver.next step) tenant session deadline := by
  cases bound with
  | call => exact .call
  | attachment => exact .attachment
  | @privateEgress registry admission admissionId registered stored mine =>
    have binds : registry.Binds registry.worker admissionId admission := ⟨rfl, stored⟩
    have held : ∀ change : AdmissionRegistry → AdmissionRegistry,
        (resolver.next step).admissions = resolver.admissions.map change →
        (change registry).Binds registry.worker admissionId admission →
        Bound (resolver.next step) tenant
          (.privateEgress admission.source.tenantId admissionId) (some admission.expiresAtMs) := by
      intro change changed kept
      rw [registered] at changed
      exact .privateEgress changed kept.2 (mine.trans kept.1.symm)
    cases step with
    | reserve other nowMs => exact held _ rfl (binds.reserve other nowMs)
    | admitStream =>
      exact held _ rfl (orKeep_induction (motive := fun after : AdmissionRegistry =>
        after.Binds registry.worker _ admission) binds
        fun _ done => binds.admitStream done)
    | release =>
      refine held _ rfl ⟨rfl, ?_⟩
      rw [AdmissionRegistry.release, get?_erase, if_neg]
      · exact stored
      · rintro rfl
        exact goes (.inl rfl)
    | releaseAll => exact absurd (.inr rfl) goes
    | drainAdmissions => exact held _ rfl binds
    | _ => exact held id (by rw [Option.map_id]; rfl) binds
  | @broadcast authority grant broadcastId listenerId present active owned mine listens =>
    have held : ∀ change : BroadcastAuthority → BroadcastAuthority,
        (resolver.next step).broadcastAuthority = resolver.broadcastAuthority.map change →
        (change authority).worker = authority.worker →
        (change authority).active.get? (uuidText broadcastId) = some grant →
        (change authority).listeners.get? (uuidText broadcastId, listenerId) =
          some grant.grantGeneration →
        Bound (resolver.next step) tenant (.broadcast broadcastId listenerId) none := by
      intro change changed worker still heard
      rw [present] at changed
      exact .broadcast changed still owned (mine.trans worker.symm) heard
    cases step with
    | activate other tenantId generation =>
      by_cases same : other = uuidText broadcastId
      · have kept : (resolver.next (.activate other tenantId generation)).broadcastAuthority =
            resolver.broadcastAuthority := by
          by_contra changed
          exact goes (.inr (.inr ⟨tenantId, generation, by rw [same], changed⟩))
        exact .broadcast (kept.trans present) active owned mine listens
      · exact held _ rfl rfl ((get?_insert_ne _ _ (symm same)).trans active) listens
    | bind tenantId other listener fence generation =>
      have kept := authority.authorizeAndBind_keeps tenantId other listener fence generation
      refine held _ rfl kept.1 (kept.2.1 ▸ active) (kept.2.2 _ _ listens)
    | unbind =>
      refine held _ rfl rfl active ?_
      rw [BroadcastAuthority.unbindListener, get?_erase, if_neg]
      · exact listens
      · rintro ⟨⟩
        exact goes (.inl rfl)
    | revoke other =>
      have differs : uuidText broadcastId ≠ other := by
        rintro rfl
        exact goes (.inr (.inl rfl))
      refine held _ rfl rfl ?_ ?_
      · rw [BroadcastAuthority.revoke, get?_erase, if_neg differs]
        exact active
      · simp [BroadcastAuthority.revoke, listens, differs]
    | _ => exact held id (by rw [Option.map_id]; rfl) rfl active listens

def PrivateSessionResolver.Grants (resolver : PrivateSessionResolver) (nowMs : Int)
    (tenant : String) : WireSession → Prop
  | .call tenantId _ _ | .attachment tenantId _ => tenantId.value = tenant
  | .privateEgress tenantId admissionId =>
    resolver.admissions.any (·.authorizesId admissionId tenantId nowMs) ∧ tenantId.value = tenant
  | .broadcast broadcastId _ => resolver.broadcastAuthority.any
      (·.activeForTenant tenant (uuidText broadcastId))

private theorem PrivateSessionResolver.resolveSession_eq_ok {nowMs principal}
    {wire canonical} (named : principal.tenant = some tenant)
    (parsed : parseSession wire = some session) :
    resolver.resolveSession nowMs principal wire = .ok canonical ↔
      resolver.draining = false ∧ (requireScope principal privateForwardScope ∧
        requireScope principal uctpSessionScope) ∧
      resolver.Grants nowMs tenant session ∧ wire = canonical := by
  rw [resolveSession, named, parsed]
  cases session <;> simp [Grants, and_assoc]

private theorem Bound.grants_iff (bound : Bound resolver tenant session deadline)
    {first : PrivateSessionResolver} {earlier nowMs}
    (granted : first.Grants earlier tenant session) :
    resolver.Grants nowMs tenant session ↔ ∀ expiresAtMs ∈ deadline, nowMs ≤ expiresAtMs := by
  cases bound with
  | call | attachment => simpa [PrivateSessionResolver.Grants] using granted
  | privateEgress registered stored mine =>
    have tenant := granted.2
    simp [PrivateSessionResolver.Grants, AdmissionRegistry.authorizesId, registered, stored, mine,
      tenant]
  | broadcast present active owned mine =>
    simp [PrivateSessionResolver.Grants, BroadcastAuthority.activeForTenant, present, active,
      owned, mine]

private theorem Bound.revalidates {broadcastId listenerId}
    (bound : Bound resolver tenant (.broadcast broadcastId listenerId) deadline) :
    resolver.broadcastAuthority.any
      (·.revalidateListener (uuidText broadcastId) listenerId) := by
  cases bound with
  | broadcast present active _ mine listens =>
    simp [BroadcastAuthority.revalidateListener, present, active, mine, listens]

theorem Bound.run (bound : Bound resolver tenant session deadline) (steps : List SessionStep)
    (going : ∀ step ∈ trace PrivateSessionResolver.next resolver steps,
      ¬ step.2.Ends step.1 session) :
    Bound (steps.foldl PrivateSessionResolver.next resolver) tenant session deadline := by
  induction steps generalizing resolver with
  | nil => exact bound
  | cons step _ ih =>
    exact ih (bound.next (going (resolver, step) List.mem_cons_self))
      fun _ member => going _ (List.mem_cons_of_mem _ member)

end Bound

section Public

variable [SessionLibrary]

def exactSubscriberBroadcast (principal : AuthenticatedPrincipal) : Option String :=
  if principal.scopes.any (· ∈ ["*", "broadcast:publish", "broadcast:relay"]) then none
  else match principal.scopes.filterMap (stripPrefix "broadcast:subscribe:") with
    | [broadcastId] => if validateResourceId broadcastId then some broadcastId else none
    | _ => none

def publicResolveSession (draining : Bool) (principal : AuthenticatedPrincipal)
    (wireSession : SessionId) : Except ResourceBindingError SessionId := do
  reject draining (.unavailable "gateway-draining")
  match exactSubscriberBroadcast principal with
  | some broadcastId =>
    reject (¬ (requireScope principal uctpSessionScope ∧
      requireScope principal "uctp:subscribe" ∧ requireScope principal receiveOnlyScope))
      (.forbidden "broadcast-scope-required")
    reject (wireSession ≠ broadcastId ∨ (parseUuid broadcastId).isNone)
      (.forbidden "broadcast-session-mismatch")
    return broadcastId
  | none =>
    reject (¬ (requireScope principal "bridgefu:gateway-attach" ∧
      requireScope principal uctpSessionScope)) (.forbidden "attachment-scope-required")
    let token ← orFail (parsePublicSession wireSession) (.forbidden "invalid-attachment-session")
    let digest ← orFail (parsePresentedAttachmentToken token)
      (.forbidden "invalid-attachment-session")
    return "bf-public-attach-v1:digest:" ++ encode digest

def publicReauthorizeSession (draining : Bool) (principal : AuthenticatedPrincipal)
    (wireSession canonicalSession : SessionId) : Except ResourceBindingError Unit := do
  let expected ← publicResolveSession draining principal wireSession
  reject (expected ≠ canonicalSession) (.forbidden "attachment-session-changed")

end Public

/-- A session that was resolved and is bound is reauthorised until it is released or revoked, if and
only if the listener does not drain and the admission of a stream has not expired. A public session
is reauthorised if and only if the gateway does not drain. -/
theorem bound_sessions_reauthorised [SessionLibrary] :
    (∀ (first middle : PrivateSessionResolver) (principal : AuthenticatedPrincipal)
        (wire canonical : SessionId) (earlier : Int) (tenant : String) (session : WireSession)
        (deadline : Option Int), first.resolveSession earlier principal wire = .ok canonical →
      principal.tenant = some tenant → parseSession wire = some session →
      Bound middle tenant session deadline → ∀ steps : List SessionStep,
      (∀ step ∈ trace PrivateSessionResolver.next middle steps, ¬ step.2.Ends step.1 session) →
      ∀ refreshed : AuthenticatedPrincipal, refreshed.tenant = some tenant →
      requireScope refreshed privateForwardScope →
      requireScope refreshed uctpSessionScope → ∀ nowMs : Int,
      let last := steps.foldl PrivateSessionResolver.next middle
      (last.reauthorizeSession nowMs refreshed wire canonical = .ok () ↔
        last.draining = false ∧ ∀ expiresAtMs ∈ deadline, nowMs ≤ expiresAtMs) ∧
      ∀ connection, (∀ broadcastId listenerId, session = .broadcast broadcastId listenerId →
        privateBroadcastListenerId connection = some listenerId) →
      (last.reauthorizeConnection nowMs refreshed wire canonical connection = .ok () ↔
        last.draining = false ∧ ∀ expiresAtMs ∈ deadline, nowMs ≤ expiresAtMs)) ∧
    ∀ (principal : AuthenticatedPrincipal) (wire canonical : SessionId),
      publicResolveSession false principal wire = .ok canonical → ∀ draining,
      (publicReauthorizeSession draining principal wire canonical = .ok () ↔
        draining = false) := by
  refine ⟨?_, fun principal wire canonical resolved draining => ?_⟩
  · intro _ _ principal wire canonical _ tenant session deadline resolved named
      parsed bound steps going refreshed same forwards opens nowMs last
    obtain ⟨-, -, granted, rfl⟩ :=
      (PrivateSessionResolver.resolveSession_eq_ok named parsed).mp resolved
    have held : Bound last tenant session deadline := bound.run _ going
    have session_ok : last.reauthorizeSession nowMs refreshed wire wire = .ok () ↔
        last.draining = false ∧ ∀ expiresAtMs ∈ deadline, nowMs ≤ expiresAtMs := by
      simp only [PrivateSessionResolver.reauthorizeSession, bind_eq_ok,
        PrivateSessionResolver.resolveSession_eq_ok same parsed, held.grants_iff granted]
      simp [forwards, opens]
    refine ⟨session_ok, fun _ listens => ?_⟩
    simp only [PrivateSessionResolver.reauthorizeConnection, bind_eq_ok, session_ok, parsed]
    cases session with
    | broadcast broadcastId listenerId =>
      simp [listens broadcastId listenerId rfl, held.revalidates]
    | _ => simp
  · cases draining with
    | false => simp [publicReauthorizeSession, resolved]
    | true => simp [publicReauthorizeSession, publicResolveSession]

namespace Sample

def admission : PrivateEgressStreamAdmission :=
  ⟨1, 7, ⟨⟨1⟩, 2⟩, ⟨⟨"tenant"⟩, ⟨3⟩, ⟨4⟩, 1⟩, ⟨⟨5⟩, 1⟩, ⟨"PCMU", 8000, 1⟩, 0, 30000⟩

def stream : SessionId := "bf-egress-v1.dGVuYW50.00000000-0000-0000-0000-000000000007"

/-- The token of 32 zero bytes, and its digest. -/
def token : String := "AAAAAAAAAAAAAAAAAAAAAAAAAAAAAAAAAAAAAAAAAAA"

def digest : String := "Zmh6rfhivXdsj8GLjp-OIAiXFIVu4jOzkCpZHQ1fKSU"

/-- What the libraries make of the texts above. -/
@[reducible] def sessionLibrary : SessionLibrary where
  parseUuid text := if text = "00000000-0000-0000-0000-000000000007" then some 7 else none
  uuidText _ := "00000000-0000-0000-0000-000000000007"
  decode text := if text = "dGVuYW50" then some [116, 101, 110, 97, 110, 116]
    else if text = token then some (List.replicate 32 0) else none
  encode bytes := if bytes = List.replicate 32 0 then token else digest
  fromUtf8 bytes := some (String.ofList (bytes.map fun byte => Char.ofNat byte.toNat))
  sha256 _ := [102, 104, 122, 173, 248, 98, 189, 119, 108, 143, 193, 139, 142, 159, 142, 32, 8, 151,
    20, 133, 110, 226, 51, 179, 144, 42, 89, 29, 13, 95, 41, 37]
  requireScope principal scope := decide (scope ∈ principal.scopes)
  receiveOnlyScope := "uctp:receive-only"

def gateway : AuthenticatedPrincipal := ⟨some "tenant", [privateForwardScope, uctpSessionScope]⟩

def caller : AuthenticatedPrincipal :=
  ⟨some "tenant", ["bridgefu:gateway-attach", uctpSessionScope]⟩

/-- The stream has been reserved and admitted. -/
def listener : PrivateSessionResolver :=
  [SessionStep.reserve admission 0, .admitStream admission 100].foldl PrivateSessionResolver.next
    ⟨false, none, some ⟨⟨⟨1⟩, 2⟩, .empty, 4, false⟩⟩

end Sample

section

attribute [local instance] Sample.sessionLibrary

open Sample in
theorem bound_sessions_reauthorised_stream :
    listener.reauthorizeSession 30000 gateway stream stream = .ok () := by
  have registered : listener.admissions =
      some ⟨⟨⟨1⟩, 2⟩, Table.empty.insert 7 ⟨admission, true⟩, 4, false⟩ := by decide +kernel
  have bound : Bound listener "tenant" (.privateEgress admission.source.tenantId 7)
      (some admission.expiresAtMs) :=
    .privateEgress registered (Table.get?_insert_self ..) rfl
  exact ((bound_sessions_reauthorised.1 listener listener gateway _ _ 200 "tenant" _ _
    (by decide +kernel) rfl rfl bound [] (fun _ member => absurd member List.not_mem_nil) gateway
    rfl (by decide) (by decide) 30000).1).mpr ⟨by decide +kernel, by decide⟩

open Sample in
/-- Thirty seconds into its call a stream is refused, and so is every session of a listener or of a
gateway that drains. -/
theorem bound_sessions_refused :
    listener.resolveSession 200 gateway stream = .ok stream ∧
    listener.reauthorizeSession 30001 gateway stream stream =
      .error (.forbidden "private-egress-admission-inactive") ∧
    (listener.next .beginDrain).reauthorizeSession 300 gateway stream stream =
      .error (.unavailable "worker-draining") ∧
    publicResolveSession false caller ("bf-public-attach-v1:webrtc:" ++ token) =
      .ok ("bf-public-attach-v1:digest:" ++ digest) ∧
    publicReauthorizeSession true caller ("bf-public-attach-v1:webrtc:" ++ token)
      ("bf-public-attach-v1:digest:" ++ digest) = .error (.unavailable "gateway-draining") := by
  decide +kernel

end

end Bridgefu.Gateway
