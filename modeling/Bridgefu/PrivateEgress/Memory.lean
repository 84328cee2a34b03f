/- digest: The memory store of private egress: epochs, commands, routes, journal, sweeps. -/

import Bridgefu.PrivateEgress.Store

set_option autoImplicit false

/-! Every operation runs under one lock and returns the state it leaves next to its result. -/

namespace Bridgefu.PrivateEgress

open Lib CallEngine

def i64Max : Int := 2 ^ 63 - 1

def i64Min : Int := -2 ^ 63

def u64Max : Nat := 2 ^ 64 - 1

/-- The difference, held within the range of signed 64-bit integers. -/
def saturatingSub (first second : Int) : Int := max i64Min (min i64Max (first - second))

structure MemoryCommandRecord where
  epoch : Uuid
  digest : Nat
  createdAtMs : Int
  completedAtMs : Option Int
  response : Option PrivateEgressResponse
  deriving DecidableEq

structure MemoryRouteRecord where
  epoch : Uuid
  state : Option PrivateEgressLifecycleState
  pending : Option (Uuid × PrivateEgressLifecycleState)
  nextLifecycleSequence : Nat
  tombstonedAtMs : Option Int
  recoveryRequired : Bool
  deriving DecidableEq

structure MemoryLifecycleRecord where
  epoch : Uuid
  key : PrivateEgressRouteKey
  event : PrivateEgressLifecycleEvent
  acked : Bool
  createdAtMs : Int
  deriving DecidableEq

/-- Everything is stored under the gateway that owns it. -/
structure MemoryState where
  activeEpochs : Table String Uuid
  commands : Table (String × Uuid) MemoryCommandRecord
  routes : Table (String × PrivateEgressRouteKey) MemoryRouteRecord
  lifecycle : Table (String × Uuid) MemoryLifecycleRecord
  deriving DecidableEq

def MemoryState.default : MemoryState := ⟨.empty, .empty, .empty, .empty⟩

structure MemoryPrivateEgressStateStore where
  maxEntries : Nat
  ttl : Nat

variable (store : MemoryPrivateEgressStateStore)

def MemoryPrivateEgressStateStore.ttlMs : Int :=
  min store.ttl i64Max

abbrev Locked (α : Type) := MemoryState × Except PrivateEgressError α

namespace MemoryRouteRecord

variable (route : MemoryRouteRecord)

/-- A transition is claimed, or the route has begun and not ended. -/
def isOpen : Bool :=
  route.pending.isSome || route.state.any fun state => !isTerminal state

def fail (atMs : Int) : MemoryRouteRecord :=
  { route with pending := none, state := some .failed, tombstonedAtMs := some atMs }

/-- The route enters a state, and gets a tombstone with the last one. -/
def enter (next : PrivateEgressLifecycleState) (atMs : Int) : MemoryRouteRecord :=
  { route with
    state := some next
    tombstonedAtMs := if isTerminal next then some atMs else route.tombstonedAtMs }

/-- How a lifecycle event moves the route. Progress is reported on the way to activation only. -/
def move (current : PrivateEgressLifecycleState) (kind : PrivateEgressLifecycleKind) (atMs : Int) :
    Except PrivateEgressError MemoryRouteRecord :=
  match kind with
  | .state next _ => do
    reject (route.pending.isSome ∨ ¬ lifecycleTransitionAllowed current next) .invalidTransition
    return route.enter next atMs
  | .progress statusCode _ => do
    reject (current ≠ .prepared ∨
        ¬ (route.pending.all fun pending => decide (pending.2 = .active)) ∨
        ¬ (100 ≤ statusCode ∧ statusCode ≤ 199)) .invalidTransition
    return route

def isExpired (ttlMs atMs : Int) : Bool :=
  !route.recoveryRequired &&
    route.tombstonedAtMs.any fun completed => decide (ttlMs ≤ saturatingSub atMs completed)

end MemoryRouteRecord

namespace MemoryState

variable (state : MemoryState) (epoch : PrivateEgressGatewayEpoch)

def ensureEpoch : Except PrivateEgressError Unit :=
  reject (state.activeEpochs.get? epoch.gatewayId ≠ some epoch.instanceId) .deadEpoch

def fenceCommand (atMs : Int) (key : String × Uuid) (command : MemoryCommandRecord) :
    MemoryCommandRecord :=
  if key.1 = epoch.gatewayId ∧ command.epoch ≠ epoch.instanceId then
    { command with
      epoch := epoch.instanceId
      response := some (.rejected key.2 .deadEpoch)
      completedAtMs := some atMs }
  else command

/-- Open routes of the dead epoch fail, and wait for their recovery. -/
def fenceRoute (deadEpoch : Uuid) (atMs : Int) (key : String × PrivateEgressRouteKey)
    (route : MemoryRouteRecord) : MemoryRouteRecord :=
  if key.1 = epoch.gatewayId ∧ route.epoch = deadEpoch ∧ route.isOpen then
    { route.fail atMs with recoveryRequired := true }
  else route

def recoveredRoutes (gatewayId : String) : List PrivateEgressRecoveredRoute :=
  (state.routes.rows.filter fun row =>
    decide (row.1.1 = gatewayId) && row.2.recoveryRequired).map fun row => ⟨row.2.epoch, row.1.2⟩

/-- The state after the epoch has taken over from the previous one, if it was another. -/
def fenced (atMs : Int) : MemoryState :=
  let activated := { state with
    activeEpochs := state.activeEpochs.insert epoch.gatewayId epoch.instanceId }
  match (state.activeEpochs.get? epoch.gatewayId).filter (· ≠ epoch.instanceId) with
  | none => activated
  | some deadEpoch =>
    { activated with
      commands := activated.commands.mapValues (fenceCommand epoch atMs)
      routes := activated.routes.mapValues (fenceRoute epoch deadEpoch atMs) }

def beginEpoch (atMs : Int) : Locked (List PrivateEgressRecoveredRoute) :=
  let fenced := state.fenced epoch atMs
  (fenced, .ok (fenced.recoveredRoutes epoch.gatewayId))

def assertEpoch : Locked Unit :=
  (state, state.ensureEpoch epoch)

def setRoute (key : PrivateEgressRouteKey) (route : MemoryRouteRecord) : MemoryState :=
  { state with routes := state.routes.insert (epoch.gatewayId, key) route }

def completeRouteRecovery (key : PrivateEgressRouteKey) : Locked Unit :=
  settle state do
    state.ensureEpoch epoch
    let route ← orFail (state.routes.get? (epoch.gatewayId, key)) .stateUnavailable
    reject (route.recoveryRequired = false ∨ route.state ≠ some .failed ∨
      route.tombstonedAtMs.isNone) .invalidTransition
    return (state.setRoute epoch key { route with recoveryRequired := false }, .ok ())

/-- Completed commands, tombstoned routes with their events, and acknowledged events are forgotten
after a while. -/
def sweep (store : MemoryPrivateEgressStateStore) (state : MemoryState) (atMs : Int) :
    MemoryState :=
  { state with
    commands := state.commands.filter fun _ command =>
      decide (saturatingSub atMs (command.completedAtMs.getD command.createdAtMs) < store.ttlMs) ||
        command.response.isNone
    routes := state.routes.filter fun _ route => !route.isExpired store.ttlMs atMs
    lifecycle := (state.lifecycle.filter fun key record =>
        !(state.routes.get? (key.1, record.key)).any fun route =>
          route.isExpired store.ttlMs atMs).filter fun _ record =>
      !record.acked || decide (saturatingSub atMs record.createdAtMs < store.ttlMs) }

def claimCommand (store : MemoryPrivateEgressStateStore) (state : MemoryState)
    (epoch : PrivateEgressGatewayEpoch) (commandId : Uuid) (digest : Nat) (atMs : Int) :
    Locked PrivateEgressCommandClaim :=
  settle state do
    state.ensureEpoch epoch
    let swept := state.sweep store atMs
    match swept.commands.get? (epoch.gatewayId, commandId) with
    | some record =>
      if record.digest ≠ digest then return (swept, .error .replayConflict)
      else match record.response with
        | some response => return (swept, .ok (.completed response))
        | none => return (swept, .ok .inFlight)
    | none =>
      if store.maxEntries ≤ swept.commands.rows.length then
        return (swept, .error .capacityExceeded)
      else
        let record : MemoryCommandRecord := ⟨epoch.instanceId, digest, atMs, none, none⟩
        return ({ swept with
          commands := swept.commands.insert (epoch.gatewayId, commandId) record }, .ok .acquired)

def completeCommand (commandId : Uuid) (digest : Nat) (response : PrivateEgressResponse)
    (atMs : Int) : Locked Unit :=
  settle state do
    state.ensureEpoch epoch
    let record ← orFail (state.commands.get? (epoch.gatewayId, commandId)) .stateUnavailable
    reject (record.epoch ≠ epoch.instanceId ∨ record.digest ≠ digest) .replayConflict
    match record.response with
    | some existing =>
      reject (existing ≠ response) .replayConflict
      return (state, .ok ())
    | none =>
      let record := { record with response := some response, completedAtMs := some atMs }
      return ({ state with
        commands := state.commands.insert (epoch.gatewayId, commandId) record }, .ok ())

def claimRouteTransition (store : MemoryPrivateEgressStateStore) (state : MemoryState)
    (epoch : PrivateEgressGatewayEpoch) (key : PrivateEgressRouteKey) (commandId : Uuid)
    (expected : Option PrivateEgressLifecycleState) (next : PrivateEgressLifecycleState) :
    Locked Unit :=
  settle state do
    state.ensureEpoch epoch
    match state.routes.get? (epoch.gatewayId, key) with
    | some route =>
      reject (¬ (route.epoch = epoch.instanceId ∧ route.state = expected ∧
        route.pending = none ∧ route.tombstonedAtMs = none)) .invalidTransition
      return (state.setRoute epoch key { route with pending := some (commandId, next) }, .ok ())
    | none =>
      reject (expected ≠ none) .invalidTransition
      reject (store.maxEntries ≤ state.routes.rows.length) .capacityExceeded
      let route : MemoryRouteRecord :=
        ⟨epoch.instanceId, none, some (commandId, next), 0, none, false⟩
      return (state.setRoute epoch key route, .ok ())

def completeRouteTransition (key : PrivateEgressRouteKey) (commandId : Uuid)
    (next : PrivateEgressLifecycleState) (atMs : Int) : Locked Unit :=
  settle state do
    state.ensureEpoch epoch
    let route ← orFail (state.routes.get? (epoch.gatewayId, key)) .invalidTransition
    reject (route.epoch ≠ epoch.instanceId ∨ route.pending ≠ some (commandId, next))
      .invalidTransition
    return (state.setRoute epoch key ({ route with pending := none }.enter next atMs), .ok ())

def abortRouteTransition (key : PrivateEgressRouteKey) (commandId : Uuid) : Locked Unit :=
  settle state do
    state.ensureEpoch epoch
    let route ← orFail (state.routes.get? (epoch.gatewayId, key)) .invalidTransition
    reject (route.epoch ≠ epoch.instanceId ∨
      route.pending.all fun pending => decide (pending.1 ≠ commandId)) .invalidTransition
    if route.state.isNone then
      return ({ state with routes := state.routes.erase (epoch.gatewayId, key) }, .ok ())
    else return (state.setRoute epoch key { route with pending := none }, .ok ())

/-- The open routes of a source in this epoch. -/
def isFailing (authority : PrivateEgressRouteAuthority) (key : String × PrivateEgressRouteKey)
    (route : MemoryRouteRecord) : Bool :=
  decide (key.1 = epoch.gatewayId) && decide (route.epoch = epoch.instanceId) &&
    key.2.belongsTo authority && route.isOpen

def failSource (authority : PrivateEgressRouteAuthority) (atMs : Int) :
    Locked (List PrivateEgressRouteKey) :=
  settle state do
    state.ensureEpoch epoch
    let keys := (state.routes.rows.filter fun row => isFailing epoch authority row.1 row.2).map
      fun row => row.1.2
    return ({ state with
      routes := state.routes.mapValues fun key route =>
        if isFailing epoch authority key route then route.fail atMs else route }, .ok keys)

/-- The route has moved before its sequence can run out. -/
def appendLifecycle (store : MemoryPrivateEgressStateStore) (state : MemoryState)
    (epoch : PrivateEgressGatewayEpoch) (key : PrivateEgressRouteKey)
    (event : PrivateEgressLifecycleEvent) (atMs : Int) : Locked PrivateEgressLifecycleEvent :=
  settle state do
    state.ensureEpoch epoch
    reject (event.isFreshOf key = false) .ownershipMismatch
    reject (state.lifecycle.contains (epoch.gatewayId, event.eventId)) .replayConflict
    reject (store.maxEntries ≤ state.lifecycle.rows.length) .capacityExceeded
    let route ← orFail (state.routes.get? (epoch.gatewayId, key)) .invalidTransition
    reject (route.epoch ≠ epoch.instanceId ∨ route.recoveryRequired ∨
      route.tombstonedAtMs.isSome) .invalidTransition
    let current ← orFail route.state .invalidTransition
    let moved ← route.move current event.kind atMs
    let sequence := moved.nextLifecycleSequence + 1
    if u64Max < sequence then return (state.setRoute epoch key moved, .error .stateUnavailable)
    else
      let stamped := { event with gatewayEpoch := epoch.instanceId, sequence := sequence }
      let appended := state.setRoute epoch key { moved with nextLifecycleSequence := sequence }
      return ({ appended with
        lifecycle := appended.lifecycle.insert (epoch.gatewayId, event.eventId)
          ⟨epoch.instanceId, key, stamped, false, atMs⟩ }, .ok stamped)

def ackLifecycle (key : PrivateEgressRouteKey) (eventId : Uuid) (sequence : Nat) : Locked Unit :=
  settle state do
    state.ensureEpoch epoch
    let record ← orFail (state.lifecycle.get? (epoch.gatewayId, eventId)) .invalidResponse
    reject (record.epoch ≠ epoch.instanceId ∨ record.key ≠ key ∨ record.event.sequence ≠ sequence)
      .ownershipMismatch
    return ({ state with
      lifecycle := state.lifecycle.insert (epoch.gatewayId, eventId)
        { record with acked := true } }, .ok ())

def isUnacked (key : PrivateEgressRouteKey) (place : String × Uuid)
    (record : MemoryLifecycleRecord) : Bool :=
  decide (place.1 = epoch.gatewayId) && decide (record.epoch = epoch.instanceId) &&
    decide (record.key = key) && !record.acked

def unackedLifecycle (key : PrivateEgressRouteKey) : Locked (List PrivateEgressLifecycleEvent) :=
  settle state do
    state.ensureEpoch epoch
    let events := (state.lifecycle.rows.filter fun row => isUnacked epoch key row.1 row.2).map
      (·.2.event)
    return (state, .ok (events.mergeSort fun first second => first.sequence ≤ second.sequence))

end MemoryState

def MemoryState.perform (state : MemoryState) :
    Operation → Locked Answer
  | .beginEpoch epoch atMs => answered .recovered (state.beginEpoch epoch atMs)
  | .assertEpoch epoch => finished (state.assertEpoch epoch)
  | .completeRouteRecovery epoch key => finished (state.completeRouteRecovery epoch key)
  | .claimCommand epoch commandId digest atMs =>
    answered .claim (state.claimCommand store epoch commandId digest atMs)
  | .completeCommand epoch commandId digest response atMs =>
    finished (state.completeCommand epoch commandId digest response atMs)
  | .claimRouteTransition epoch key commandId expected next =>
    finished (state.claimRouteTransition store epoch key commandId expected next)
  | .completeRouteTransition epoch key commandId next atMs =>
    finished (state.completeRouteTransition epoch key commandId next atMs)
  | .abortRouteTransition epoch key commandId =>
    finished (state.abortRouteTransition epoch key commandId)
  | .failSource epoch authority atMs => answered .failed (state.failSource epoch authority atMs)
  | .appendLifecycle epoch key event atMs =>
    answered .stamped (state.appendLifecycle store epoch key event atMs)
  | .ackLifecycle epoch key eventId sequence =>
    finished (state.ackLifecycle epoch key eventId sequence)
  | .unackedLifecycle epoch key => answered .unacked (state.unackedLifecycle epoch key)

def MemoryState.next (state : MemoryState) (operation : Operation) :
    MemoryState := (state.perform store operation).1

end Bridgefu.PrivateEgress
