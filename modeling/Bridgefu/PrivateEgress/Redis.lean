/- digest: The Redis store of private egress: one script for each operation, one slot a gateway. -/

import Bridgefu.PrivateEgress.Store

set_option autoImplicit false

/-! Every script runs atomically, on the keys of one gateway and with the clock of the server. A
value of a hash is a record that the script encodes and decodes again. Identifiers, digests, labels
and times stand for their texts, and a field whose text is empty is `none`. Scripts that sweep keep
what they have deleted when they are refused later on. -/

namespace Bridgefu.PrivateEgress

open Lib CallEngine

/-- What the scripts rely on: digests for names, the numbers of Lua and the order of its tables. -/
class RedisLibrary (Name : Type) where
  slot : String → Name
  slot_injective : Function.Injective slot
  routeField : PrivateEgressRouteKey → Name
  routeField_injective : Function.Injective routeField
  sourceDigest : PrivateEgressRouteAuthority → Name
  sourceDigest_injective : Function.Injective sourceDigest
  /-- A whole number as a number of Lua. -/
  number : Nat → Nat
  number_eq : ∀ n, n < 2 ^ 53 → number n = n
  /-- The order in which a table is walked that was built with these members. -/
  walk : List String → List String
  walk_perm : ∀ members, (walk members).Perm members

open RedisLibrary

/-- A text of a record: the value that is read from it, and the order of its members. -/
structure JsonText (α : Type) where
  value : α
  members : List String
  deriving DecidableEq

structure RedisCommand where
  epoch : Uuid
  digest : Nat
  responseJson : Option (JsonText PrivateEgressResponse)
  createdAtMs : Int
  completedAtMs : Option Int
  expiresAtMs : Int

structure RedisRoute (Name : Type) where
  epoch : Uuid
  keyJson : PrivateEgressRouteKey
  sourceDigest : Name
  state : Option PrivateEgressLifecycleState
  pendingCommand : Option Uuid
  pendingNext : Option PrivateEgressLifecycleState
  nextSequence : Nat
  tombstonedAtMs : Option Int
  recoveryRequired : Bool
  expiresAtMs : Int

structure RedisLifecycle (Name : Type) where
  epoch : Uuid
  routeField : Name
  sequence : Nat
  eventJson : PrivateEgressLifecycleEvent
  acked : Bool
  expiresAtMs : Int

structure RedisGateway (Name : Type) where
  epoch : Option Uuid
  commands : Table Uuid RedisCommand
  routes : Table Name (RedisRoute Name)
  lifecycle : Table Uuid (RedisLifecycle Name)

def RedisGateway.empty {Name : Type} : RedisGateway Name := ⟨none, .empty, .empty, .empty⟩

structure RedisPrivateEgressStateStore where
  entryTtlMs : Int
  maxEntries : Nat

abbrev Scripted (Name α : Type) := RedisGateway Name × Except PrivateEgressError α

def responseMembers : List String :=
  ["version", "command_id", "accepted", "replayed", "state", "failure_code", "external_reference"]

def responseText (response : PrivateEgressResponse) : JsonText PrivateEgressResponse :=
  ⟨response, responseMembers⟩

variable {Name : Type}

namespace RedisCommand

def isExpired (record : RedisCommand) (nowMs : Int) : Bool :=
  record.responseJson.isSome && decide (record.expiresAtMs ≤ nowMs)

end RedisCommand

namespace RedisRoute

variable (record : RedisRoute Name)

def isTerminal : Bool :=
  decide (record.state = some .ended) || decide (record.state = some .failed)

/-- A transition is claimed, or the route has not come to its end. -/
def isOpen : Bool :=
  record.pendingCommand.isSome || !record.isTerminal

def fail (nowMs ttl : Int) (recoveryRequired : Bool) : RedisRoute Name :=
  { record with
    pendingCommand := none
    pendingNext := none
    state := some .failed
    tombstonedAtMs := some nowMs
    recoveryRequired := recoveryRequired
    expiresAtMs := nowMs + ttl }

/-- The tombstone comes with the last state. -/
def enter (next : PrivateEgressLifecycleState) (nowMs ttl : Int) : RedisRoute Name :=
  { record with
    state := some next
    tombstonedAtMs :=
      if next = .ended ∨ next = .failed then some nowMs else record.tombstonedAtMs
    expiresAtMs := nowMs + ttl }

end RedisRoute

def RedisLifecycle.isExpired (record : RedisLifecycle Name) (nowMs : Int) : Bool :=
  record.acked && decide (record.expiresAtMs ≤ nowMs)

namespace RedisGateway

variable (store : RedisPrivateEgressStateStore) (gateway : RedisGateway Name)

def ensureEpoch (epoch : Uuid) : Except PrivateEgressError Unit :=
  reject (gateway.epoch ≠ some epoch) .deadEpoch

def assertEpochScript (epoch : Uuid) : Scripted Name Unit :=
  (gateway, gateway.ensureEpoch epoch)

def claimCommandScript (epoch commandId : Uuid) (digest : Nat) (nowMs : Int) :
    Scripted Name PrivateEgressCommandClaim :=
  settle gateway do
    gateway.ensureEpoch epoch
    let swept := { gateway with
      commands := gateway.commands.filter fun _ record => !record.isExpired nowMs }
    match swept.commands.get? commandId with
    | some record =>
      if record.digest ≠ digest then return (swept, .error .replayConflict)
      else match record.responseJson with
        | some text => return (swept, .ok (.completed text.value))
        | none => return (swept, .ok .inFlight)
    | none =>
      if store.maxEntries ≤ swept.commands.rows.length then
        return (swept, .error .capacityExceeded)
      else
        let record : RedisCommand :=
          ⟨epoch, digest, none, nowMs, none, nowMs + store.entryTtlMs⟩
        return ({ swept with commands := swept.commands.insert commandId record }, .ok .acquired)

/-- The stored text is compared with the text of the response. -/
def completeCommandScript (epoch commandId : Uuid) (digest : Nat)
    (response : JsonText PrivateEgressResponse) (nowMs : Int) : Scripted Name Unit :=
  settle gateway do
    gateway.ensureEpoch epoch
    let record ← orFail (gateway.commands.get? commandId) .stateUnavailable
    reject (record.epoch ≠ epoch ∨ record.digest ≠ digest) .replayConflict
    match record.responseJson with
    | some existing =>
      reject (existing ≠ response) .replayConflict
      return (gateway, .ok ())
    | none =>
      let record := { record with
        responseJson := some response
        completedAtMs := some nowMs
        expiresAtMs := nowMs + store.entryTtlMs }
      return ({ gateway with commands := gateway.commands.insert commandId record }, .ok ())

section Routes

variable [DecidableEq Name]

variable (store : RedisPrivateEgressStateStore) (gateway : RedisGateway Name)

def setRoute (field : Name) (record : RedisRoute Name) : RedisGateway Name :=
  { gateway with routes := gateway.routes.insert field record }

def completeRecoveryScript (epoch : Uuid) (field : Name) (nowMs : Int) : Scripted Name Unit :=
  settle gateway do
    gateway.ensureEpoch epoch
    let record ← orFail (gateway.routes.get? field) .stateUnavailable
    reject (record.recoveryRequired = false ∨ record.state ≠ some .failed ∨
      record.tombstonedAtMs = none) .invalidTransition
    let record := { record with
      recoveryRequired := false
      expiresAtMs := nowMs + store.entryTtlMs }
    return (gateway.setRoute field record, .ok ())

/-- Tombstoned routes are swept first. -/
def claimRouteScript (epoch : Uuid) (field : Name) (commandId : Uuid)
    (expected : Option PrivateEgressLifecycleState) (next : PrivateEgressLifecycleState)
    (keyJson : PrivateEgressRouteKey) (sourceDigest : Name) (nowMs : Int) : Scripted Name Unit :=
  settle gateway do
    gateway.ensureEpoch epoch
    let swept := { gateway with
      routes := gateway.routes.filter fun _ record =>
        !(!record.recoveryRequired && record.tombstonedAtMs.isSome &&
          decide (record.expiresAtMs ≤ nowMs)) }
    let claim (record : RedisRoute Name) : RedisRoute Name :=
      { record with
        pendingCommand := some commandId
        pendingNext := some next
        expiresAtMs := nowMs + store.entryTtlMs }
    match swept.routes.get? field with
    | some record =>
      if record.epoch ≠ epoch ∨ record.state ≠ expected ∨ record.pendingCommand ≠ none ∨
          record.tombstonedAtMs ≠ none ∨ record.recoveryRequired then
        return (swept, .error .invalidTransition)
      else return (swept.setRoute field (claim record), .ok ())
    | none =>
      if expected ≠ none then return (swept, .error .invalidTransition)
      else if store.maxEntries ≤ swept.routes.rows.length then
        return (swept, .error .capacityExceeded)
      else
        let record : RedisRoute Name :=
          ⟨epoch, keyJson, sourceDigest, none, none, none, 0, none, false,
            nowMs + store.entryTtlMs⟩
        return (swept.setRoute field (claim record), .ok ())

def completeRouteScript (epoch : Uuid) (field : Name) (commandId : Uuid)
    (next : PrivateEgressLifecycleState) (nowMs : Int) : Scripted Name Unit :=
  settle gateway do
    gateway.ensureEpoch epoch
    let record ← orFail (gateway.routes.get? field) .invalidTransition
    reject (record.epoch ≠ epoch ∨ record.pendingCommand ≠ some commandId ∨
      record.pendingNext ≠ some next) .invalidTransition
    let record := { record with pendingCommand := none, pendingNext := none }
    return (gateway.setRoute field (record.enter next nowMs store.entryTtlMs), .ok ())

def abortRouteScript (epoch : Uuid) (field : Name) (commandId : Uuid) (nowMs : Int) :
    Scripted Name Unit :=
  settle gateway do
    gateway.ensureEpoch epoch
    let record ← orFail (gateway.routes.get? field) .invalidTransition
    reject (record.epoch ≠ epoch ∨ record.pendingCommand ≠ some commandId) .invalidTransition
    if record.state = none then
      return ({ gateway with routes := gateway.routes.erase field }, .ok ())
    else
      let record := { record with
        pendingCommand := none
        pendingNext := none
        expiresAtMs := nowMs + store.entryTtlMs }
      return (gateway.setRoute field record, .ok ())

def isFailing (epoch : Uuid) (sourceDigest : Name) (record : RedisRoute Name) : Bool :=
  decide (record.epoch = epoch) && decide (record.sourceDigest = sourceDigest) && record.isOpen

def failSourceScript (epoch : Uuid) (sourceDigest : Name) (nowMs : Int) :
    Scripted Name (List PrivateEgressRouteKey) :=
  settle gateway do
    gateway.ensureEpoch epoch
    let keys := (gateway.routes.values.filter (isFailing epoch sourceDigest)).map (·.keyJson)
    return ({ gateway with
      routes := gateway.routes.mapValues fun _ record =>
        if isFailing epoch sourceDigest record then record.fail nowMs store.entryTtlMs false
        else record }, .ok keys)

end Routes

end RedisGateway

section Library

variable [RedisLibrary Name]

/-- The response that the takeover writes, in the order in which its table is walked. -/
def rejectedText (Name : Type) [RedisLibrary Name] (commandId : Uuid) :
    JsonText PrivateEgressResponse where
  value := {
    version := 1
    commandId := commandId
    accepted := false
    replayed := false
    state := none
    failureCode := some "dead_epoch"
    externalReference := none }
  members := walk Name responseMembers

def decodedEvent (Name : Type) [RedisLibrary Name] (event : PrivateEgressLifecycleEvent) :
    PrivateEgressLifecycleEvent :=
  { event with
    version := number Name event.version
    worker := { event.worker with fence := number Name event.worker.fence }
    source := { event.source with
      bindingGeneration := number Name event.source.bindingGeneration }
    target := { event.target with
      bindingGeneration := number Name event.target.bindingGeneration }
    sequence := number Name event.sequence
    kind := match event.kind with
      | .state state reasonCode => .state state reasonCode
      | .progress statusCode earlyMedia =>
        .progress (number Name statusCode) earlyMedia }

namespace RedisGateway

variable (store : RedisPrivateEgressStateStore) (gateway : RedisGateway Name)

/-- Commands of other epochs are rejected, and expired ones deleted. -/
def begunCommands (epoch : Uuid) (nowMs ttl : Int) : Table Uuid RedisCommand :=
  (gateway.commands.filter fun _ record =>
      !(decide (record.epoch = epoch) && record.isExpired nowMs)).mapValues fun commandId record =>
    if record.epoch ≠ epoch then
      { record with
        epoch := epoch
        responseJson := some (rejectedText Name commandId)
        completedAtMs := some nowMs
        expiresAtMs := nowMs + ttl }
    else record

/-- Routes of other epochs fail unless they have ended, and expired ones are deleted. -/
def begunRoutes (epoch : Uuid) (nowMs ttl : Int) : Table Name (RedisRoute Name) :=
  (gateway.routes.filter fun _ record =>
      !(record.isTerminal && !record.recoveryRequired && record.tombstonedAtMs.isSome &&
        decide (record.expiresAtMs ≤ nowMs))).mapValues fun _ record =>
    if record.epoch ≠ epoch ∧ (record.recoveryRequired ∨ record.isOpen) then
      record.fail nowMs ttl true
    else record

def beginEpochScript (epoch : Uuid) (nowMs : Int) :
    Scripted Name (List PrivateEgressRecoveredRoute) :=
  let routes := gateway.begunRoutes epoch nowMs store.entryTtlMs
  ({ epoch := some epoch
     commands := gateway.begunCommands epoch nowMs store.entryTtlMs
     routes := routes
     lifecycle := gateway.lifecycle.filter fun _ record =>
       !(decide (record.epoch ≠ epoch) || record.isExpired nowMs) },
    .ok ((routes.values.filter (·.recoveryRequired)).map fun record =>
      ⟨record.epoch, record.keyJson⟩))

def moveRoute (record : RedisRoute Name) (kind : PrivateEgressLifecycleKind) (nowMs ttl : Int) :
    Except PrivateEgressError (RedisRoute Name) :=
  match kind with
  | .progress status _ => do
    reject (record.state ≠ some .prepared ∨
        ¬ (record.pendingCommand = none ∨ record.pendingNext = some .active) ∨
        status < 100 ∨ status > 199) .invalidTransition
    return { record with expiresAtMs := nowMs + ttl }
  | .state next _ => do
    reject (record.pendingCommand ≠ none) .invalidTransition
    reject (¬ ((record.state = some .prepared ∧
          (next = .prepared ∨ next = .active ∨ next = .ended ∨ next = .failed)) ∨
        (record.state = some .active ∧ (next = .active ∨ next = .ended ∨ next = .failed))))
      .invalidTransition
    return record.enter next nowMs ttl

variable [DecidableEq Name]

def appendLifecycleScript (epoch : Uuid) (field : Name) (event : PrivateEgressLifecycleEvent)
    (nowMs : Int) : Scripted Name PrivateEgressLifecycleEvent :=
  settle gateway do
    gateway.ensureEpoch epoch
    let swept := { gateway with
      lifecycle := gateway.lifecycle.filter fun _ record => !record.isExpired nowMs }
    return settle swept do
      reject (swept.lifecycle.contains event.eventId) .replayConflict
      reject (store.maxEntries ≤ swept.lifecycle.rows.length) .capacityExceeded
      let route ← orFail (swept.routes.get? field) .invalidTransition
      reject (route.epoch ≠ epoch ∨ route.recoveryRequired ∨ route.tombstonedAtMs.isSome)
        .invalidTransition
      let decoded := decodedEvent Name event
      reject (number Name event.version ≠ 1 ∨ decoded.version ≠ 1) .invalidTransition
      let moved ← moveRoute route decoded.kind nowMs store.entryTtlMs
      let sequence := number Name (moved.nextSequence + 1)
      let stamped := { decoded with gatewayEpoch := epoch, sequence := sequence }
      let appended := swept.setRoute field { moved with nextSequence := sequence }
      return ({ appended with
        lifecycle := appended.lifecycle.insert event.eventId
          ⟨epoch, field, sequence, stamped, false, nowMs + store.entryTtlMs⟩ }, .ok stamped)

def ackLifecycleScript (epoch : Uuid) (field : Name) (eventId : Uuid) (sequence : Nat)
    (nowMs : Int) : Scripted Name Unit :=
  settle gateway do
    gateway.ensureEpoch epoch
    let record ← orFail (gateway.lifecycle.get? eventId) .invalidResponse
    reject (record.epoch ≠ epoch ∨ record.routeField ≠ field ∨
      record.sequence ≠ number Name sequence) .ownershipMismatch
    let record := { record with acked := true, expiresAtMs := nowMs + store.entryTtlMs }
    return ({ gateway with lifecycle := gateway.lifecycle.insert eventId record }, .ok ())

def isUnacked (epoch : Uuid) (field : Name) (record : RedisLifecycle Name) : Bool :=
  decide (record.epoch = epoch) && decide (record.routeField = field) && !record.acked

/-- The numbers of the journal are checked against the events once more. -/
def unackedLifecycleScript (epoch : Uuid) (field : Name) :
    Scripted Name (List PrivateEgressLifecycleEvent) :=
  settle gateway do
    gateway.ensureEpoch epoch
    let records := gateway.lifecycle.values.filter (isUnacked epoch field)
    reject (records.any fun record => decide (record.eventJson.sequence ≠ record.sequence))
      .stateUnavailable
    let events := records.map (·.eventJson)
    return (gateway, .ok (events.mergeSort fun first second => first.sequence ≤ second.sequence))

end RedisGateway

/-- The gateways that have keys, by their slots. -/
structure RedisState (Name : Type) where
  gateways : Table Name (RedisGateway Name)

def RedisState.default : RedisState Name := ⟨.empty⟩

namespace RedisState

variable [DecidableEq Name]

variable (store : RedisPrivateEgressStateStore) (state : RedisState Name)

def gateway (gatewayId : String) : RedisGateway Name :=
  (state.gateways.get? (slot gatewayId)).getD .empty

def run {α : Type} (state : RedisState Name) (gatewayId : String)
    (script : RedisGateway Name → Scripted Name α) :
    RedisState Name × Except PrivateEgressError α :=
  let outcome := script (state.gateway gatewayId)
  (⟨state.gateways.insert (slot gatewayId) outcome.1⟩, outcome.2)

/-- The event is checked before its script runs. -/
def appendLifecycle (epoch : PrivateEgressGatewayEpoch) (key : PrivateEgressRouteKey)
    (event : PrivateEgressLifecycleEvent) (nowMs : Int) :
    RedisState Name × Except PrivateEgressError PrivateEgressLifecycleEvent :=
  if event.isFreshOf key = false then (state, .error .ownershipMismatch)
  else state.run epoch.gatewayId fun gateway =>
    gateway.appendLifecycleScript store epoch.instanceId (routeField key) event nowMs

/-- The server reads its own clock; the times of the operations are not used. -/
def perform (nowMs : Int) :
    Operation → RedisState Name × Except PrivateEgressError Answer
  | .beginEpoch epoch _ => answered .recovered <| state.run epoch.gatewayId fun gateway =>
    gateway.beginEpochScript store epoch.instanceId nowMs
  | .assertEpoch epoch => finished <| state.run epoch.gatewayId fun gateway =>
    gateway.assertEpochScript epoch.instanceId
  | .completeRouteRecovery epoch key => finished <| state.run epoch.gatewayId fun gateway =>
    gateway.completeRecoveryScript store epoch.instanceId (routeField key) nowMs
  | .claimCommand epoch commandId digest _ =>
    answered .claim <| state.run epoch.gatewayId fun gateway =>
      gateway.claimCommandScript store epoch.instanceId commandId digest nowMs
  | .completeCommand epoch commandId digest response _ =>
    finished <| state.run epoch.gatewayId fun gateway =>
      gateway.completeCommandScript store epoch.instanceId commandId digest
        (responseText response) nowMs
  | .claimRouteTransition epoch key commandId expected next =>
    finished <| state.run epoch.gatewayId fun gateway =>
      gateway.claimRouteScript store epoch.instanceId (routeField key) commandId
        expected next key (sourceDigest key.authority) nowMs
  | .completeRouteTransition epoch key commandId next _ =>
    finished <| state.run epoch.gatewayId fun gateway =>
      gateway.completeRouteScript store epoch.instanceId (routeField key) commandId
        next nowMs
  | .abortRouteTransition epoch key commandId =>
    finished <| state.run epoch.gatewayId fun gateway =>
      gateway.abortRouteScript store epoch.instanceId (routeField key) commandId nowMs
  | .failSource epoch authority _ => answered .failed <| state.run epoch.gatewayId fun gateway =>
    gateway.failSourceScript store epoch.instanceId (sourceDigest authority) nowMs
  | .appendLifecycle epoch key event _ =>
    answered .stamped (state.appendLifecycle store epoch key event nowMs)
  | .ackLifecycle epoch key eventId sequence =>
    finished <| state.run epoch.gatewayId fun gateway =>
      gateway.ackLifecycleScript store epoch.instanceId (routeField key) eventId
        sequence nowMs
  | .unackedLifecycle epoch key => answered .unacked <| state.run epoch.gatewayId fun gateway =>
    gateway.unackedLifecycleScript epoch.instanceId (routeField key)

end RedisState

end Library

end Bridgefu.PrivateEgress
