/- digest: The standalone coordinator: versioned projections, hints, wakeups, under one lock. -/

import Bridgefu.Coordination.Model
import Bridgefu.Lib.Retention

set_option autoImplicit false

/-! Every operation takes the lock, drops what has expired and then acts. A failing operation
keeps what it had already changed, so operations return the state they leave next to their
result. Deliveries and wakeups read the clock under the lock, up to three times: for the cleanup,
for the retention of what is written, and for a published wakeup. The other operations have read
it before they wait for the lock. Waiting for a notification is left out: a poll is the passes
over the stream that it makes. -/

namespace Bridgefu.Coordination

open Lib CallEngine

def defaultTombstoneTtl : Nat := seconds (24 * 60 * 60)

def defaultStreamTtl : Nat := seconds (24 * 60 * 60)

/-- A projection: for each key the latest write that is still retained. -/
abbrev Projected (K V : Type) := Table K (Versioned Nat Timestamp V)

structure MemoryWakeupEntry where
  id : Nat
  sequence : Nat
  reason : WakeupReason

structure PendingWakeup where
  consumer : String
  deliveredAt : Timestamp

structure MemoryConsumerGroup where
  lastDelivered : Nat
  pending : Table Nat PendingWakeup
  retainedUntil : Option Timestamp

def MemoryConsumerGroup.default : MemoryConsumerGroup where
  lastDelivered := 0
  pending := .empty
  retainedUntil := none

structure MemoryWakeupStream where
  entries : List MemoryWakeupEntry
  retainedUntil : Timestamp

structure MemoryState where
  workers : Projected WorkerId WorkerCoordinationSnapshot
  routes : Projected CallId (Option CallRouteHint)
  attachmentRoutes : Projected AttachmentTokenDigest (Option AttachmentRouteHint)
  replay : Projected ReplayDigest ReplayMarker
  wakeupSequences : Projected WorkerId WakeupReason
  streams : Table WorkerId MemoryWakeupStream
  groups : Table (WorkerId × String) MemoryConsumerGroup
  nextStreamId : Nat

def MemoryState.default : MemoryState where
  workers := .empty
  routes := .empty
  attachmentRoutes := .empty
  replay := .empty
  wakeupSequences := .empty
  streams := .empty
  groups := .empty
  nextStreamId := 0

structure MemoryCoordinator where
  deployment : DeploymentId
  maxStreamLen : Nat
  tombstoneTtl : Nat
  streamTtl : Nat
  deriving DecidableEq

/-- What the clock shows to one operation. It never goes back. -/
structure ClockReadings where
  cleaned : Timestamp
  applied : Timestamp
  published : Timestamp
  cleanedFirst : cleaned ≤ applied
  publishedLast : applied ≤ published
  deriving DecidableEq

def ClockReadings.always (now : Timestamp) : ClockReadings :=
  ⟨now, now, now, Int.le_refl _, Int.le_refl _⟩

/-- What an operation leaves under the lock and what it returns. -/
abbrev Locked (α : Type) := MemoryState × Except CoordinationError α

/-- An update that changes nothing when it fails. -/
def Locked.orKeep {α : Type} (state : MemoryState)
    (update : Except CoordinationError (MemoryState × α)) : Locked α :=
  match update with
  | .ok (next, result) => (next, .ok result)
  | .error error => (state, .error error)

def retainedUntil (expiry now : Timestamp) (retention : Nat) :
    Except CoordinationError Timestamp := do
  reject (retention > maxSignedDuration) (.invalidInput "coordination retention is too large")
  reject (max expiry now + retention > maxTimestamp) .invalidData
  return max expiry now + retention

def validateName (value : String) : Except CoordinationError String := do
  reject (value.isEmpty ∨ value.utf8ByteSize > maxNameBytes ∨
      value.toList.any fun c => decide (c.toNat ≤ 0x20) || c.toNat == 0x7f)
    (.invalidInput "invalid consumer or group name")
  return value

def applyVersioned {K V : Type} [DecidableEq K] [DecidableEq V] (values : Projected K V) (key : K)
    (sequence : Nat) (value : V) (retainedUntil : Timestamp) :
    Except CoordinationError (Projected K V × ProjectionApplyOutcome) :=
  let stored := values.insert key ⟨sequence, value, retainedUntil⟩
  match values.get? key with
  | none => .ok (stored, .applied)
  | some existing =>
    if sequence < existing.sequence then .ok (values, .stale)
    else if sequence = existing.sequence then
      if value = existing.value then .ok (values, .duplicate) else .error .sequenceConflict
    else .ok (stored, .applied)

def cleanupLocked (state : MemoryState) (now : Timestamp) : MemoryState :=
  let expiredWorkers := state.streams.filter fun _ stream => decide (stream.retainedUntil ≤ now)
  { state with
    workers := sweep state.workers now
    routes := sweep state.routes now
    attachmentRoutes := sweep state.attachmentRoutes now
    replay := sweep state.replay now
    wakeupSequences := sweep state.wakeupSequences now
    streams := state.streams.filter fun _ stream => !decide (stream.retainedUntil ≤ now)
    groups := state.groups.filter fun key group =>
      !expiredWorkers.contains key.1 && group.retainedUntil.any fun kept => decide (now < kept) }

namespace MemoryCoordinator

variable (self : MemoryCoordinator)

def new (deployment : DeploymentId) (maxStreamLen : Nat) :
    Except CoordinationError MemoryCoordinator := do
  reject (maxStreamLen = 0 ∨ maxStreamLen > 1000000) (.invalidInput "invalid wakeup stream bound")
  return ⟨deployment, maxStreamLen, defaultTombstoneTtl, defaultStreamTtl⟩

variable (now : Timestamp) (state : MemoryState)

def publishLocked (workerId : WorkerId) (sequence : Nat) (reason : WakeupReason) :
    Except CoordinationError MemoryState := do
  let streamRetainedUntil ← retainedUntil now now self.streamTtl
  reject (state.nextStreamId + 1 ≥ 2 ^ 64) .counterExhausted
  let entry : MemoryWakeupEntry := ⟨state.nextStreamId + 1, sequence, reason⟩
  let entries := ((state.streams.get? workerId).elim [] (·.entries)) ++ [entry]
  -- the front is popped until the bound is met; popped entries are no longer pending
  let surplus := entries.length - self.maxStreamLen
  let trimmed := (entries.take surplus).map (·.id)
  return { state with
    nextStreamId := state.nextStreamId + 1
    streams := state.streams.insert workerId ⟨entries.drop surplus, streamRetainedUntil⟩
    groups := state.groups.mapValues fun key group =>
      if key.1 = workerId then
        { group with pending := group.pending.filter fun id _ => !trimmed.contains id }
      else group }

def applyWorker (sequence : Nat) (recordedAt : Timestamp) (incoming : WorkerCoordinationSnapshot) :
    Except CoordinationError (MemoryState × ProjectionApplyOutcome) := do
  incoming.validate
  let keepUntil ← retainedUntil incoming.leaseExpiresAt now self.tombstoneTtl
  let stored := { state with
    workers := state.workers.insert incoming.lease.workerId ⟨sequence, incoming, keepUntil⟩ }
  match state.workers.get? incoming.lease.workerId with
  | none => return (stored, .applied)
  | some existing =>
    if sequence < existing.sequence then return (state, .stale)
    else if sequence = existing.sequence then
      if incoming = existing.value then return (state, .duplicate) else .error .sequenceConflict
    else do
      reject (incoming.lease.fence < existing.value.lease.fence) .staleFence
      if incoming.lease.fence = existing.value.lease.fence then do
        reject (existing.value.leaseExpiresAt ≤ recordedAt) .leaseExpired
        reject (existing.value.draining ∧ ¬ incoming.draining) .drainIsOneWay
      return (stored, .applied)

def project {K V : Type} [DecidableEq K] [DecidableEq V] (now expiry : Timestamp)
    (values : Projected K V) (store : Projected K V → MemoryState) (key : K) (sequence : Nat)
    (value : V) : Except CoordinationError (MemoryState × ProjectionApplyOutcome) := do
  let keepUntil ← retainedUntil expiry now self.tombstoneTtl
  let written ← applyVersioned values key sequence value keepUntil
  return (store written.1, written.2)

def applyRoute (sequence : Nat) (incoming : CallRouteHint) :
    Except CoordinationError (MemoryState × ProjectionApplyOutcome) :=
  self.project now incoming.expiresAt state.routes (fun routes => { state with routes := routes })
    incoming.callId sequence (some incoming)

def removeRoute (sequence : Nat) (recordedAt : Timestamp) (callId : CallId) :
    Except CoordinationError (MemoryState × ProjectionApplyOutcome) :=
  self.project now recordedAt state.routes (fun routes => { state with routes := routes })
    callId sequence none

def applyAttachmentRoute (sequence : Nat) (incoming : AttachmentRouteHint) :
    Except CoordinationError (MemoryState × ProjectionApplyOutcome) :=
  self.project now incoming.expiresAt state.attachmentRoutes
    (fun routes => { state with attachmentRoutes := routes })
    incoming.tokenDigest sequence (some incoming)

def removeAttachmentRoute (sequence : Nat) (recordedAt : Timestamp)
    (tokenDigest : AttachmentTokenDigest) :
    Except CoordinationError (MemoryState × ProjectionApplyOutcome) :=
  self.project now recordedAt state.attachmentRoutes
    (fun routes => { state with attachmentRoutes := routes }) tokenDigest sequence none

def applyReplay (sequence : Nat) (incoming : ReplayMarker) :
    Except CoordinationError (MemoryState × ProjectionApplyOutcome) :=
  self.project now incoming.expiresAt state.replay (fun replay => { state with replay := replay })
    incoming.digest sequence incoming

/-- The recorded sequence stays when publishing the wakeup then fails. -/
def applyWakeup (clock : ClockReadings) (state : MemoryState) (sequence : Nat)
    (workerId : WorkerId) (reason : WakeupReason) : Locked ProjectionApplyOutcome :=
  let recorded := do
    let keepUntil ← retainedUntil clock.applied clock.applied self.streamTtl
    applyVersioned state.wakeupSequences workerId sequence reason keepUntil
  match recorded with
  | .error error => (state, .error error)
  | .ok (wakeupSequences, outcome) =>
    let state := { state with wakeupSequences := wakeupSequences }
    if outcome = .applied then
      Locked.orKeep state do
        let next ← self.publishLocked clock.published state workerId sequence reason
        return (next, outcome)
    else (state, .ok outcome)

/-- The write of a checked event. -/
def applyPayload (clock : ClockReadings) (state : MemoryState) (event : CoordinationEvent) :
    Locked ProjectionApplyOutcome :=
  let now := clock.applied
  match event.payload with
  | .worker worker =>
    .orKeep state (self.applyWorker now state event.sequence event.recordedAt worker)
  | .route route => .orKeep state (self.applyRoute now state event.sequence route)
  | .routeRemoved callId =>
    .orKeep state (self.removeRoute now state event.sequence event.recordedAt callId)
  | .attachmentRoute route =>
    .orKeep state (self.applyAttachmentRoute now state event.sequence route)
  | .attachmentRouteRemoved digest =>
    .orKeep state (self.removeAttachmentRoute now state event.sequence event.recordedAt digest)
  | .replay marker => .orKeep state (self.applyReplay now state event.sequence marker)
  | .wakeWorker workerId reason => self.applyWakeup clock state event.sequence workerId reason

def apply (clock : ClockReadings) (state : MemoryState) (event : CoordinationEvent) :
    Locked ProjectionApplyOutcome :=
  match event.validate with
  | .error error => (state, .error error)
  | .ok () =>
    if event.deployment ≠ self.deployment then
      (state, .error (.invalidInput "coordination deployment mismatch"))
    else self.applyPayload clock (cleanupLocked state clock.cleaned) event

def publishWakeup (clock : ClockReadings) (state : MemoryState) (workerId : WorkerId)
    (sequence : Nat) (reason : WakeupReason) : Locked Unit :=
  let done := self.applyWakeup clock (cleanupLocked state clock.cleaned) sequence workerId reason
  (done.1, (fun _ => ()) <$> done.2)

/-- Least loaded first, then by reservations, worker and newest fence. -/
def preferred (left right : WorkerCoordinationSnapshot) : Bool :=
  let leftLoad := left.reservedCalls * right.maxCalls
  let rightLoad := right.reservedCalls * left.maxCalls
  if leftLoad ≠ rightLoad then decide (leftLoad < rightLoad)
  else if left.reservedCalls ≠ right.reservedCalls then
    decide (left.reservedCalls < right.reservedCalls)
  else if left.lease.workerId ≠ right.lease.workerId then
    decide (left.lease.workerId.uuid < right.lease.workerId.uuid)
  else decide (right.lease.fence ≤ left.lease.fence)

def workerHints (request : WorkerSelectionRequest) : Locked (List WorkerCoordinationSnapshot) :=
  match request.validate with
  | .error error => (state, .error error)
  | .ok () =>
    let state := cleanupLocked state now
    let workers := (state.workers.values.map (·.value)).filter fun worker =>
      decide (now < worker.leaseExpiresAt) && !worker.draining &&
        decide (worker.reservedCalls < worker.maxCalls) &&
        request.requiredCapabilities.isSubset worker.capabilities
    (state, .ok ((workers.mergeSort preferred).take request.limit))

def routeHint (callId : CallId) : Locked (Option CallRouteHint) :=
  let state := cleanupLocked state now
  match (state.routes.get? callId).bind (·.value) with
  | none => (state, .ok none)
  | some route =>
    if route.expiresAt ≤ now then (state, .ok none)
    else
      let workerIsLive := (state.workers.get? route.worker.workerId).any fun worker =>
        decide (worker.value.lease = route.worker) && decide (now < worker.value.leaseExpiresAt)
      (state, .ok (if workerIsLive then some route else none))

def attachmentRouteHint (lookup : AttachmentRouteLookup) : Locked (Option AttachmentRouteHint) :=
  let state := cleanupLocked state now
  match (state.attachmentRoutes.get? lookup.tokenDigest).bind (·.value) with
  | none => (state, .ok none)
  | some route =>
    if route.expiresAt ≤ now ∨ route.transport ≠ lookup.transport ∨
        route.tenantBinding ≠ lookup.tenantBinding then (state, .ok none)
    else
      let workerIsLive := (state.workers.get? route.worker.workerId).any fun worker =>
        decide (worker.value.lease = route.worker) &&
          decide (now < worker.value.leaseExpiresAt) && !worker.value.draining
      (state, .ok (if workerIsLive then some route else none))

def replaySeen (digest : ReplayDigest) : Locked Bool :=
  let state := cleanupLocked state now
  (state, .ok ((state.replay.get? digest).any fun entry => decide (now < entry.value.expiresAt)))

end MemoryCoordinator

structure MemoryWakeupConsumer where
  workerId : WorkerId
  group : String
  consumer : String
  pollInterval : Nat

def MemoryWakeupEntry.memoryMessage (entry : MemoryWakeupEntry) : WakeupMessage where
  entryId := toString entry.id ++ "-0"
  sequence := entry.sequence
  reason := entry.reason

/-- Decimal digits, with an optional sign, that fit 64 bits. -/
def parseU64 (text : List Char) : Option Nat :=
  let digits := if text.head? = some '+' then text.tail else text
  if digits.isEmpty || !digits.all Char.isDigit then none
  else
    let value := digits.foldl (fun sum c => 10 * sum + (c.toNat - '0'.toNat)) 0
    if value < 2 ^ 64 then some value else none

def parseEntryId (id : String) : Option Nat :=
  let text := id.toList
  if ['-', '0'].isSuffixOf text then parseU64 (text.take (text.length - 2)) else none

namespace MemoryCoordinator

variable (self : MemoryCoordinator)

def wakeupConsumer (now : Timestamp) (state : MemoryState) (workerId : WorkerId)
    (group consumer : String) (pollInterval : Nat) : Locked MemoryWakeupConsumer :=
  Locked.orKeep state do
    validatePollInterval pollInterval
    let group ← validateName group
    let consumer ← validateName consumer
    let kept ← retainedUntil now now self.streamTtl
    let state := cleanupLocked state now
    let joined := (state.groups.get? (workerId, group)).getD .default
    return ({ state with
      groups := state.groups.insert (workerId, group) { joined with retainedUntil := some kept } },
      ⟨workerId, group, consumer, pollInterval⟩)

end MemoryCoordinator

namespace MemoryWakeupConsumer

variable (coordinator : MemoryCoordinator) (self : MemoryWakeupConsumer)

variable (now : Timestamp) (state : MemoryState)

def entries : List MemoryWakeupEntry :=
  (state.streams.get? self.workerId).elim [] (·.entries)

def takeReady (count : Nat) : Locked (List WakeupMessage) :=
  Locked.orKeep state do
    let kept ← retainedUntil now now coordinator.streamTtl
    let state := cleanupLocked state now
    let group := (state.groups.get? (self.workerId, self.group)).getD .default
    let ready := ((self.entries state).filter
      fun entry => decide (group.lastDelivered < entry.id)).take count
    let delivered := ready.foldl (fun group entry =>
      { group with
        lastDelivered := max group.lastDelivered entry.id
        pending := group.pending.insert entry.id ⟨self.consumer, now⟩ })
      { group with retainedUntil := some kept }
    return ({ state with groups := state.groups.insert (self.workerId, self.group) delivered },
      ready.map (·.memoryMessage))

def poll (count : Nat) : Locked (List WakeupMessage) :=
  self.takeReady coordinator now state (min 1024 (max 1 count))

def autoClaim (minIdle count : Nat) : Locked (List WakeupMessage) :=
  if minIdle = 0 ∨ count = 0 ∨ count > 1024 then
    (state, .error (.invalidInput "invalid wakeup auto-claim request"))
  else if minIdle > maxSignedDuration then
    (state, .error (.invalidInput "auto-claim idle is too large"))
  else
    let state := cleanupLocked state now
    Locked.orKeep state do
      let kept ← retainedUntil now now coordinator.streamTtl
      let group := { (state.groups.get? (self.workerId, self.group)).getD .default with
        retainedUntil := some kept }
      let eligible := ((group.pending.filter fun _ pending =>
        decide (pending.consumer ≠ self.consumer) &&
          decide (pending.deliveredAt + minIdle ≤ now)).keys).take count
      let claimed := (self.entries state).filter fun entry => eligible.contains entry.id
      let moved := claimed.foldl (fun group entry =>
        if group.pending.contains entry.id then
          { group with pending := group.pending.insert entry.id ⟨self.consumer, now⟩ }
        else group) group
      return ({ state with groups := state.groups.insert (self.workerId, self.group) moved },
        claimed.map (·.memoryMessage))

/-- The group is made before its retention is computed, and stays when that fails. -/
def acknowledge (entryIds : List String) : Locked Nat :=
  match entryIds.mapM parseEntryId with
  | none => (state, .error (.invalidInput "invalid memory stream ID"))
  | some ids =>
    let state := cleanupLocked state now
    let key := (self.workerId, self.group)
    let group := (state.groups.get? key).getD .default
    let state := { state with groups := state.groups.insert key group }
    Locked.orKeep state do
      let kept ← retainedUntil now now coordinator.streamTtl
      let removed := ids.foldl (fun (seen : Table Nat PendingWakeup × Nat) id =>
        if seen.1.contains id then (seen.1.erase id, seen.2 + 1) else seen) (group.pending, 0)
      let group := { group with pending := removed.1, retainedUntil := some kept }
      return ({ state with groups := state.groups.insert key group }, removed.2)

end MemoryWakeupConsumer

private theorem retainedUntil_eq_ok {expiry now kept retention}
    (done : retainedUntil expiry now retention = .ok kept) : kept = max expiry now + retention := by
  simp only [retainedUntil, bind_eq_ok, exists_unit, pure_eq_ok] at done
  exact done.2.2.symm

private theorem applyVersioned_eq_ok {K V} [DecidableEq K] [DecidableEq V] {values : Projected K V}
    {key sequence value kept next outcome}
    (done : applyVersioned values key sequence value kept = .ok (next, outcome)) :
    (outcome ≠ .applied ∧ next = values) ∨
      (outcome = .applied ∧ next = values.insert key ⟨sequence, value, kept⟩ ∧
        ∀ old, values.get? key = some old → old.sequence < sequence) := by
  unfold applyVersioned at done
  cases found : values.get? key with
  | none =>
    rw [found] at done
    obtain ⟨rfl, rfl⟩ := done
    exact .inr ⟨rfl, rfl, nofun⟩
  | some =>
    simp only [found] at done
    split at done
    · cases done
      exact .inl ⟨by decide, rfl⟩
    · split at done
      · split_ifs at done
        cases done
        exact .inl ⟨by decide, rfl⟩
      · cases done
        refine .inr ⟨rfl, rfl, ?_⟩
        rintro _ stored
        cases stored
        omega

theorem MemoryCoordinator.project_eq_ok {K V} [DecidableEq K] [DecidableEq V]
    {self : MemoryCoordinator} {now expiry values} {store : Projected K V → MemoryState}
    {key sequence value next outcome}
    (done : self.project now expiry values store key sequence value = .ok (next, outcome)) :
    (outcome ≠ .applied ∧ next = store values) ∨
      (outcome = .applied ∧
        (∀ old, values.get? key = some old → old.sequence < sequence) ∧
        ∃ kept, expiry + self.tombstoneTtl ≤ kept ∧
          next = store (values.insert key ⟨sequence, value, kept⟩)) := by
  simp only [project, bind_eq_ok] at done
  obtain ⟨kept, retained, ⟨_, _⟩, written, rfl, rfl⟩ := done
  have bound := retainedUntil_eq_ok retained
  rcases applyVersioned_eq_ok written with ⟨ignored, rfl⟩ | ⟨applied, rfl, newer⟩
  · exact .inl ⟨ignored, rfl⟩
  · refine .inr ⟨applied, newer, kept, ?_, rfl⟩
    rw [bound]
    exact Int.add_le_add_right (le_max_left _ now) _

end Bridgefu.Coordination
