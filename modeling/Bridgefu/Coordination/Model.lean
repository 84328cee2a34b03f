/- digest: Coordination events, hints and their bounds: what a projection may be told. -/

import Bridgefu.CallEngine.Repository

set_option autoImplicit false

/-! The coordination outbox feeds a projection of the authoritative repository: worker
snapshots, call routes, attachment routes, replay markers and wakeups. Events carry a sequence
number and an authoritative recording time. Instants and durations are in nanoseconds. -/

namespace Bridgefu.Coordination

open Lib CallEngine

def maxNameBytes : Nat := 128

def maxCapabilities : Nat := 65

def maxPollInterval : Nat := seconds 30

def maxProjectionLifetime : Nat := seconds (24 * 60 * 60)

inductive CoordinationError where
  | invalidInput (reason : String)
  | sequenceConflict
  | staleFence
  | leaseExpired
  | drainIsOneWay
  | staleClaim
  | counterExhausted
  | unavailable
  | invalidData
  deriving DecidableEq

structure DeploymentId where
  name : String
  deriving DecidableEq

structure ReplayDigest where
  bytes : Nat
  deriving DecidableEq

structure WorkerCoordinationSnapshot where
  lease : WorkerLease
  maxCalls : Nat
  reservedCalls : Nat
  draining : Bool
  capabilities : StringSet
  leaseExpiresAt : Timestamp
  deriving DecidableEq

structure CallRouteHint where
  callId : CallId
  worker : WorkerLease
  expiresAt : Timestamp
  deriving DecidableEq

structure AttachmentRouteHint where
  tokenDigest : AttachmentTokenDigest
  worker : WorkerLease
  routeCatalogFingerprint : Option RouteCatalogFingerprint
  transport : AttachmentTransport
  tenantBinding : PrincipalFingerprint
  expiresAt : Timestamp
  deriving DecidableEq

structure AttachmentRouteLookup where
  tokenDigest : AttachmentTokenDigest
  transport : AttachmentTransport
  tenantBinding : PrincipalFingerprint

structure ReplayMarker where
  digest : ReplayDigest
  expiresAt : Timestamp
  deriving DecidableEq

inductive WakeupReason where
  | effects
  | controls
  | deadlines
  | providerEvents
  | assignment
  | broadcasts
  deriving DecidableEq

inductive CoordinationPayload where
  | worker (snapshot : WorkerCoordinationSnapshot)
  | route (hint : CallRouteHint)
  | routeRemoved (callId : CallId)
  | attachmentRoute (hint : AttachmentRouteHint)
  | attachmentRouteRemoved (tokenDigest : AttachmentTokenDigest)
  | replay (marker : ReplayMarker)
  | wakeWorker (workerId : WorkerId) (reason : WakeupReason)
  deriving DecidableEq

structure CoordinationEvent where
  deployment : DeploymentId
  sequence : Nat
  payload : CoordinationPayload
  recordedAt : Timestamp
  deriving DecidableEq

structure WakeupMessage where
  entryId : String
  sequence : Nat
  reason : WakeupReason

structure WorkerSelectionRequest where
  requiredCapabilities : StringSet
  limit : Nat

inductive ProjectionApplyOutcome where
  | applied
  | duplicate
  | stale
  deriving DecidableEq

def validateCapabilities (capabilities : StringSet) : Except CoordinationError Unit :=
  reject (capabilities.items.length > maxCapabilities ∨
      capabilities.items.any fun capability =>
        capability.isEmpty || decide (capability.utf8ByteSize > maxNameBytes) ||
          capability.toList.any isControl)
    (.invalidInput "invalid projected worker capability")

def WorkerCoordinationSnapshot.validate (snapshot : WorkerCoordinationSnapshot) :
    Except CoordinationError Unit := do
  reject (snapshot.maxCalls = 0 ∨ snapshot.reservedCalls > snapshot.maxCalls)
    (.invalidInput "invalid projected worker capacity")
  validateCapabilities snapshot.capabilities

def WorkerSelectionRequest.validate (request : WorkerSelectionRequest) :
    Except CoordinationError Unit := do
  reject (request.limit = 0 ∨ request.limit > 1024) (.invalidInput "invalid selection limit")
  validateCapabilities request.requiredCapabilities

def validateProjectionExpiry (expiresAt recordedAt : Timestamp) (error : String) :
    Except CoordinationError Unit := do
  reject (recordedAt + maxProjectionLifetime > maxTimestamp) .invalidData
  reject (expiresAt ≤ recordedAt ∨ expiresAt > recordedAt + maxProjectionLifetime)
    (.invalidInput error)

/-- Milliseconds from the epoch, rounded down. -/
def timestampMillis (instant : Timestamp) : Int := instant / 1000000

def CoordinationEvent.validate (event : CoordinationEvent) : Except CoordinationError Unit := do
  reject (timestampMillis event.recordedAt < 0)
    (.invalidInput "coordination time must follow the Unix epoch")
  match event.payload with
  | .worker worker => do
    worker.validate
    validateProjectionExpiry worker.leaseExpiresAt event.recordedAt
      "invalid projected worker lease expiry"
  | .route route =>
    validateProjectionExpiry route.expiresAt event.recordedAt "invalid projected route expiry"
  | .attachmentRoute route =>
    validateProjectionExpiry route.expiresAt event.recordedAt
      "invalid projected attachment route expiry"
  | .replay marker =>
    validateProjectionExpiry marker.expiresAt event.recordedAt "invalid projected replay expiry"
  | .routeRemoved _ | .attachmentRouteRemoved _ | .wakeWorker _ _ => return ()

def validatePollInterval (interval : Nat) : Except CoordinationError Unit :=
  reject (interval = 0 ∨ interval > maxPollInterval)
    (.invalidInput "invalid database fallback poll interval")

private theorem validateProjectionExpiry_eq_ok (expiresAt recordedAt : Timestamp) (error : String) :
    validateProjectionExpiry expiresAt recordedAt error = .ok () ↔
      recordedAt + maxProjectionLifetime ≤ maxTimestamp ∧ recordedAt < expiresAt ∧
        expiresAt ≤ recordedAt + maxProjectionLifetime := by
  simp only [validateProjectionExpiry, bind_eq_ok, exists_unit, reject_eq_ok, not_or, Int.not_lt,
    Int.not_le]

/-- When the hint that an event projects expires. Removals and wakeups project none. -/
def CoordinationPayload.expiry? : CoordinationPayload → Option Timestamp
  | .worker snapshot => some snapshot.leaseExpiresAt
  | .route hint => some hint.expiresAt
  | .attachmentRoute hint => some hint.expiresAt
  | .replay marker => some marker.expiresAt
  | .routeRemoved _ | .attachmentRouteRemoved _ | .wakeWorker _ _ => none

theorem CoordinationEvent.lifetime {event : CoordinationEvent} (valid : event.validate = .ok ())
    {expiresAt} (expiry : event.payload.expiry? = some expiresAt) :
    event.recordedAt < expiresAt ∧ expiresAt ≤ event.recordedAt + maxProjectionLifetime := by
  rw [validate, bind_eq_ok, exists_unit] at valid
  obtain ⟨-, valid⟩ := valid
  revert valid expiry
  cases event.payload <;>
    simp only [CoordinationPayload.expiry?, validateProjectionExpiry_eq_ok, bind_eq_ok,
      exists_unit, Option.some.injEq, reduceCtorEq, false_implies, and_imp] <;>
    rintro rfl
  case worker => exact fun _ _ starts ends => ⟨starts, ends⟩
  all_goals exact fun _ starts ends => ⟨starts, ends⟩

/-- The retention of what an event projects counts from here, or from when it is applied. -/
def CoordinationEvent.keptFrom (event : CoordinationEvent) : Timestamp :=
  event.payload.expiry?.getD event.recordedAt

theorem CoordinationEvent.recordedAt_le_keptFrom {event : CoordinationEvent}
    (valid : event.validate = .ok ()) : event.recordedAt ≤ event.keptFrom := by
  unfold keptFrom
  cases expiry : event.payload.expiry? with
  | none => exact Int.le_refl _
  | some => exact Int.le_of_lt (event.lifetime valid expiry).1

end Bridgefu.Coordination
