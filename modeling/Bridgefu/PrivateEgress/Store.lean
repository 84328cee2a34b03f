/- digest: The contract of private-egress state stores: epochs, routes, responses, lifecycle. -/

import Bridgefu.CallEngine.Repository

set_option autoImplicit false

/-! A gateway process is an incarnation, or epoch, of a stable gateway. Its state store claims and
completes commands, moves routes through their life and keeps a journal of lifecycle events until
they are acknowledged. Times are in milliseconds. -/

namespace Bridgefu.PrivateEgress

open Lib CallEngine

abbrev Uuid := Nat

def Uuid.isNil (uuid : Uuid) : Bool := decide (uuid = 0)

structure PrivateEgressGatewayEpoch where
  gatewayId : String
  instanceId : Uuid

structure PrivateEgressSource where
  tenantId : TenantId
  callId : CallId
  legId : LegId
  bindingGeneration : Nat
  deriving DecidableEq

structure PrivateEgressTarget where
  legId : LegId
  bindingGeneration : Nat
  deriving DecidableEq

structure PrivateEgressRouteAuthority where
  worker : WorkerLease
  source : PrivateEgressSource
  deriving DecidableEq

structure PrivateEgressRouteKey where
  worker : WorkerLease
  tenantId : TenantId
  callId : CallId
  sourceLegId : LegId
  sourceBindingGeneration : Nat
  target : PrivateEgressTarget
  deriving DecidableEq

namespace PrivateEgressRouteKey

def authority (key : PrivateEgressRouteKey) : PrivateEgressRouteAuthority where
  worker := key.worker
  source := {
    tenantId := key.tenantId
    callId := key.callId
    legId := key.sourceLegId
    bindingGeneration := key.sourceBindingGeneration }

def belongsTo (key : PrivateEgressRouteKey) (authority : PrivateEgressRouteAuthority) : Bool :=
  decide (key.worker = authority.worker) &&
    decide (key.tenantId = authority.source.tenantId) &&
    decide (key.callId = authority.source.callId) &&
    decide (key.sourceLegId = authority.source.legId) &&
    decide (key.sourceBindingGeneration = authority.source.bindingGeneration)

theorem belongsTo_iff (key : PrivateEgressRouteKey) (authority : PrivateEgressRouteAuthority) :
    key.belongsTo authority = true ↔ key.authority = authority := by
  obtain ⟨_, _, _, _, _⟩ := authority
  simp [belongsTo, authority, and_assoc]

end PrivateEgressRouteKey

inductive PrivateEgressError where
  | invalidCommand
  | invalidResponse
  | expired
  | ownershipMismatch
  | replayConflict
  | invalidTransition
  | capacityExceeded
  | timeout
  | handlerRejected
  | draining
  | stateUnavailable
  | deadEpoch
  | deadEpochRecoveryFailed
  deriving DecidableEq

def PrivateEgressError.code : PrivateEgressError → String
  | .invalidCommand => "invalid_command"
  | .invalidResponse => "invalid_response"
  | .expired => "expired"
  | .ownershipMismatch => "ownership_mismatch"
  | .replayConflict => "replay_conflict"
  | .invalidTransition => "invalid_transition"
  | .capacityExceeded => "capacity_exceeded"
  | .timeout => "timeout"
  | .handlerRejected => "handler_rejected"
  | .draining => "draining"
  | .stateUnavailable => "state_unavailable"
  | .deadEpoch => "dead_epoch"
  | .deadEpochRecoveryFailed => "dead_epoch_recovery_failed"

inductive PrivateEgressLifecycleState where
  | prepared
  | active
  | ended
  | failed
  deriving DecidableEq

def isTerminal : PrivateEgressLifecycleState → Bool
  | .ended | .failed => true
  | .prepared | .active => false

def lifecycleTransitionAllowed : PrivateEgressLifecycleState → PrivateEgressLifecycleState → Bool
  | .prepared, .prepared | .prepared, .active | .prepared, .ended | .prepared, .failed => true
  | .active, .active | .active, .ended | .active, .failed => true
  | _, _ => false

inductive PrivateEgressLifecycleKind where
  | state (state : PrivateEgressLifecycleState) (reasonCode : Option String)
  | progress (statusCode : Nat) (earlyMedia : Bool)
  deriving DecidableEq

def protocolVersion : Nat := 1

structure PrivateEgressResponse where
  version : Nat
  commandId : Uuid
  accepted : Bool
  replayed : Bool
  state : Option PrivateEgressLifecycleState
  failureCode : Option String
  externalReference : Option String
  deriving DecidableEq

def PrivateEgressResponse.rejected (commandId : Uuid) (error : PrivateEgressError) :
    PrivateEgressResponse where
  version := protocolVersion
  commandId := commandId
  accepted := false
  replayed := false
  state := none
  failureCode := some error.code
  externalReference := none

structure PrivateEgressLifecycleEvent where
  version : Nat
  eventId : Uuid
  worker : WorkerLease
  source : PrivateEgressSource
  target : PrivateEgressTarget
  gatewayEpoch : Uuid
  sequence : Nat
  kind : PrivateEgressLifecycleKind
  deriving DecidableEq

/-- An event that has not been journaled, of exactly this route. -/
def PrivateEgressLifecycleEvent.isFreshOf (event : PrivateEgressLifecycleEvent)
    (key : PrivateEgressRouteKey) : Bool :=
  decide (event.worker = key.worker) && decide (event.source = key.authority.source) &&
    decide (event.target = key.target) && event.gatewayEpoch.isNil && decide (event.sequence = 0)

inductive PrivateEgressCommandClaim where
  | acquired
  | inFlight
  | completed (response : PrivateEgressResponse)
  deriving DecidableEq

structure PrivateEgressRecoveredRoute where
  deadEpoch : Uuid
  key : PrivateEgressRouteKey
  deriving DecidableEq

inductive Operation where
  | beginEpoch (epoch : PrivateEgressGatewayEpoch) (atMs : Int)
  | assertEpoch (epoch : PrivateEgressGatewayEpoch)
  | completeRouteRecovery (epoch : PrivateEgressGatewayEpoch) (key : PrivateEgressRouteKey)
  | claimCommand (epoch : PrivateEgressGatewayEpoch) (commandId : Uuid) (digest : Nat) (atMs : Int)
  | completeCommand (epoch : PrivateEgressGatewayEpoch) (commandId : Uuid) (digest : Nat)
      (response : PrivateEgressResponse) (atMs : Int)
  | claimRouteTransition (epoch : PrivateEgressGatewayEpoch) (key : PrivateEgressRouteKey)
      (commandId : Uuid) (expected : Option PrivateEgressLifecycleState)
      (next : PrivateEgressLifecycleState)
  | completeRouteTransition (epoch : PrivateEgressGatewayEpoch) (key : PrivateEgressRouteKey)
      (commandId : Uuid) (next : PrivateEgressLifecycleState) (atMs : Int)
  | abortRouteTransition (epoch : PrivateEgressGatewayEpoch) (key : PrivateEgressRouteKey)
      (commandId : Uuid)
  | failSource (epoch : PrivateEgressGatewayEpoch) (authority : PrivateEgressRouteAuthority)
      (atMs : Int)
  | appendLifecycle (epoch : PrivateEgressGatewayEpoch) (key : PrivateEgressRouteKey)
      (event : PrivateEgressLifecycleEvent) (atMs : Int)
  | ackLifecycle (epoch : PrivateEgressGatewayEpoch) (key : PrivateEgressRouteKey)
      (eventId : Uuid) (sequence : Nat)
  | unackedLifecycle (epoch : PrivateEgressGatewayEpoch) (key : PrivateEgressRouteKey)

def Operation.epoch : Operation → PrivateEgressGatewayEpoch
  | .beginEpoch epoch _ | .assertEpoch epoch | .completeRouteRecovery epoch _
  | .claimCommand epoch _ _ _ | .completeCommand epoch _ _ _ _
  | .claimRouteTransition epoch _ _ _ _ | .completeRouteTransition epoch _ _ _ _
  | .abortRouteTransition epoch _ _ | .failSource epoch _ _ | .appendLifecycle epoch _ _ _
  | .ackLifecycle epoch _ _ _ | .unackedLifecycle epoch _ => epoch

/-- Beginning an epoch needs no authority. -/
def Operation.begins : Operation → Bool
  | .beginEpoch _ _ => true
  | _ => false

/-- What a successful operation returns. -/
inductive Answer where
  | done
  | recovered (routes : List PrivateEgressRecoveredRoute)
  | claim (claim : PrivateEgressCommandClaim)
  | failed (keys : List PrivateEgressRouteKey)
  | stamped (event : PrivateEgressLifecycleEvent)
  | unacked (events : List PrivateEgressLifecycleEvent)
  deriving DecidableEq

def answered {σ α : Type} (answer : α → Answer) (outcome : σ × Except PrivateEgressError α) :
    σ × Except PrivateEgressError Answer :=
  (outcome.1, outcome.2.map answer)

/-- The operation hands nothing on. -/
def finished {σ : Type} (outcome : σ × Except PrivateEgressError Unit) :
    σ × Except PrivateEgressError Answer :=
  answered (fun _ => .done) outcome

end Bridgefu.PrivateEgress
