/- digest: The routing table of the gateway forwarder: route slots and the call pins beside them. -/

import Bridgefu.CallEngine.Repository
import Bridgefu.Lib.Trace

set_option autoImplicit false

/-! A gateway keeps one slot for each logical route and one pin for each call with a slot. The pin
says which worker owns the call, and counts the slots. Every operation runs under the lock of the
table, and finds its slot by the key alone. -/

namespace Bridgefu.Gateway

open Lib CallEngine Table

structure CallRouteKey where
  tenantId : TenantId
  callId : CallId
  deriving DecidableEq

/-- Source routes have no generation, destination routes are staged beside each other by it. -/
structure GatewayRouteKey where
  tenantId : TenantId
  callId : CallId
  legId : LegId
  bindingGeneration : Option Nat
  deriving DecidableEq

namespace GatewayRouteKey

def new (tenantId : TenantId) (callId : CallId) (legId : LegId) : GatewayRouteKey :=
  ⟨tenantId, callId, legId, none⟩

def callKey (key : GatewayRouteKey) : CallRouteKey := ⟨key.tenantId, key.callId⟩

end GatewayRouteKey

inductive GatewayForwardingError where
  | routeAlreadyExists
  | workerPinMismatch
  | routeNotActive

/-- A route object. Its identity is the address of the shared object in the source. -/
structure RouteInner where
  identity : Nat
  key : GatewayRouteKey
  workerId : WorkerId
  deriving DecidableEq

structure CallPin where
  workerId : WorkerId
  routeCount : Nat

inductive RouteSlot where
  | pending (workerId : WorkerId)
  | active (route : RouteInner)
  deriving DecidableEq

namespace RouteSlot

def workerId : RouteSlot → WorkerId
  | .pending workerId => workerId
  | .active route => route.workerId

def route? : RouteSlot → Option RouteInner
  | .pending _ => none
  | .active route => some route

end RouteSlot

structure RoutingState where
  calls : Table CallRouteKey CallPin
  routes : Table GatewayRouteKey RouteSlot

namespace RoutingState

def initial : RoutingState := ⟨.empty, .empty⟩

def reserveRoute (routing : RoutingState) (key : GatewayRouteKey) (workerId : WorkerId) :
    Except GatewayForwardingError RoutingState := do
  reject (routing.routes.contains key) .routeAlreadyExists
  let routes := routing.routes.insert key (.pending workerId)
  match routing.calls.get? key.callKey with
  | some pin =>
    reject (pin.workerId ≠ workerId) .workerPinMismatch
    return ⟨routing.calls.insert key.callKey { pin with routeCount := pin.routeCount + 1 },
      routes⟩
  | none => return ⟨routing.calls.insert key.callKey ⟨workerId, 1⟩, routes⟩

def activateRoute (routing : RoutingState) (key : GatewayRouteKey) (route : RouteInner) :
    Except GatewayForwardingError RoutingState :=
  match routing.routes.get? key with
  | some (.pending workerId) => do
    reject (workerId ≠ route.workerId) .routeNotActive
    return { routing with routes := routing.routes.insert key (.active route) }
  | _ => .error .routeNotActive

/-- One slot less for the call of the key. The last one takes the pin with it. -/
def releaseCallPin (routing : RoutingState) (key : GatewayRouteKey) : RoutingState :=
  match routing.calls.get? key.callKey with
  | none => routing
  | some pin =>
    if pin.routeCount - 1 = 0 then { routing with calls := routing.calls.erase key.callKey }
    else { routing with
      calls := routing.calls.insert key.callKey { pin with routeCount := pin.routeCount - 1 } }

/-- The slot is taken out, whatever it holds, and its pin is released. -/
def removeSlot (routing : RoutingState) (key : GatewayRouteKey) : RoutingState :=
  if routing.routes.contains key then
    releaseCallPin { routing with routes := routing.routes.erase key } key
  else routing

def rollbackRoute (routing : RoutingState) (key : GatewayRouteKey) : RoutingState :=
  routing.removeSlot key

/-- The retired route is handed on, to be closed outside the lock. -/
def retireRoute (routing : RoutingState) (key : GatewayRouteKey) :
    RoutingState × Option RouteInner :=
  (routing.removeSlot key, (routing.routes.get? key).bind RouteSlot.route?)

end RoutingState

inductive RoutingOperation where
  | reserveRoute (key : GatewayRouteKey) (workerId : WorkerId)
  | activateRoute (key : GatewayRouteKey) (route : RouteInner)
  | rollbackRoute (key : GatewayRouteKey)
  | retireRoute (key : GatewayRouteKey)

/-- A refused operation leaves the table as it is. -/
def RoutingState.next (routing : RoutingState) : RoutingOperation → RoutingState
  | .reserveRoute key workerId => orKeep (routing.reserveRoute key workerId) routing
  | .activateRoute key route => orKeep (routing.activateRoute key route) routing
  | .rollbackRoute key => routing.rollbackRoute key
  | .retireRoute key => (routing.retireRoute key).1

namespace RoutingState

def slots (routing : RoutingState) (call : CallRouteKey) : Nat :=
  routing.routes.count fun key _ => decide (key.callKey = call)

def pinCount (routing : RoutingState) (call : CallRouteKey) : Nat :=
  (routing.calls.get? call).elim 0 CallPin.routeCount

/-- Pins count the slots of their call, and all of these are on the worker of the pin. -/
structure Pinned (routing : RoutingState) : Prop where
  counted : ∀ call, routing.pinCount call = routing.slots call
  positive : ∀ call pin, routing.calls.get? call = some pin → 0 < pin.routeCount
  placed : ∀ key slot pin, routing.routes.get? key = some slot →
    routing.calls.get? key.callKey = some pin → slot.workerId = pin.workerId

variable {routing : RoutingState} {key : GatewayRouteKey} {workerId : WorkerId}

private theorem slots_pos_iff (routing : RoutingState) (call : CallRouteKey) :
    0 < routing.slots call ↔
      ∃ key slot, routing.routes.get? key = some slot ∧ key.callKey = call := by
  rw [Nat.pos_iff_ne_zero, ne_eq, slots, count_eq_zero]
  push Not
  simp

private theorem slots_insert (routing : RoutingState) (free : routing.routes.get? key = none)
    (slot : RouteSlot) (calls : Table CallRouteKey CallPin) (call : CallRouteKey) :
    slots ⟨calls, routing.routes.insert key slot⟩ call =
      routing.slots call + if key.callKey = call then 1 else 0 := by
  unfold slots
  rw [count_insert, count_erase_of_none _ _ free]
  simp

private theorem slots_replace {slot} (stored : routing.routes.get? key = some slot)
    (next : RouteSlot) (call : CallRouteKey) :
    slots { routing with routes := routing.routes.insert key next } call = routing.slots call :=
  Nat.add_right_cancel (routing.routes.count_replace _ next stored)

private theorem slots_erase {slot} (stored : routing.routes.get? key = some slot)
    (calls : Table CallRouteKey CallPin) (call : CallRouteKey) :
    slots ⟨calls, routing.routes.erase key⟩ call + (if key.callKey = call then 1 else 0) =
      routing.slots call := by
  have erased := routing.routes.count_erase_add (fun key _ => decide (key.callKey = call)) stored
  simpa [slots] using erased

private theorem Pinned.exists_pin (pinned : routing.Pinned) {slot}
    (stored : routing.routes.get? key = some slot) :
    ∃ pin, routing.calls.get? key.callKey = some pin := by
  have some := (slots_pos_iff _ key.callKey).mpr ⟨key, slot, stored, rfl⟩
  have counted := pinned.counted key.callKey
  cases missing : routing.calls.get? key.callKey with
  | some pin => exact ⟨pin, rfl⟩
  | none =>
    rw [pinCount, missing, Option.elim_none] at counted
    omega

private theorem Pinned.exists_slot (pinned : routing.Pinned) {call pin}
    (found : routing.calls.get? call = some pin) :
    ∃ key slot, routing.routes.get? key = some slot ∧ key.callKey = call := by
  have counted := pinned.counted call
  have positive := pinned.positive _ pin found
  rw [pinCount, found] at counted
  exact (slots_pos_iff _ call).mp (counted ▸ positive)

variable {after : RoutingState} {route : RouteInner}

theorem reserveRoute_eq_ok (done : routing.reserveRoute key workerId = .ok after) :
    routing.routes.get? key = none ∧
      (∀ pin, routing.calls.get? key.callKey = some pin → pin.workerId = workerId) ∧
      after = ⟨routing.calls.insert key.callKey ⟨workerId, routing.pinCount key.callKey + 1⟩,
        routing.routes.insert key (.pending workerId)⟩ := by
  rw [reserveRoute, bind_eq_ok, exists_unit, reject_eq_ok, Bool.not_eq_true,
    contains_eq_false] at done
  obtain ⟨free, done⟩ := done
  refine ⟨free, ?_⟩
  unfold pinCount
  cases found : routing.calls.get? key.callKey with
  | none =>
    rw [found] at done
    cases done
    exact ⟨fun _ missing => (nomatch missing), rfl⟩
  | some =>
    rw [found] at done
    rw [bind_eq_ok, exists_unit, reject_eq_ok, pure_eq_ok, not_not] at done
    obtain ⟨rfl, rfl⟩ := done
    refine ⟨fun _ same => ?_, rfl⟩
    cases same
    rfl

theorem activateRoute_eq_ok (done : routing.activateRoute key route = .ok after) :
    routing.routes.get? key = some (.pending route.workerId) ∧
      after = { routing with routes := routing.routes.insert key (.active route) } := by
  unfold activateRoute at done
  split at done
  · rename_i reserved stored
    rw [bind_eq_ok, exists_unit, reject_eq_ok, pure_eq_ok, not_not] at done
    obtain ⟨rfl, rfl⟩ := done
    exact ⟨stored, rfl⟩
  · cases done

theorem activateRoute_eq_error {refused}
    (failed : routing.activateRoute key route = .error refused) :
    routing.routes.get? key ≠ some (.pending route.workerId) := by
  intro reserved
  rw [activateRoute, reserved, bind_eq_error, reject_eq_error] at failed
  rcases failed with ⟨other, -⟩ | ⟨_, -, never⟩
  · exact other rfl
  · cases never

private theorem Pinned.reserve (pinned : routing.Pinned)
    (done : routing.reserveRoute key workerId = .ok after) : after.Pinned := by
  obtain ⟨free, here, rfl⟩ := reserveRoute_eq_ok done
  refine ⟨fun call => ?_, fun call pin found => ?_, fun _ slot pin stored found => ?_⟩
  · rw [slots_insert _ free, ← pinned.counted]
    unfold pinCount
    rw [get?_insert]
    by_cases same : call = key.callKey
    · rw [if_pos same, if_pos same.symm, same]
      rfl
    · rw [if_neg same, if_neg (Ne.symm same)]
      rfl
  · rcases get?_insert_some found with ⟨-, rfl⟩ | ⟨-, found⟩
    · exact Nat.succ_pos _
    · exact pinned.positive _ pin found
  · rw [get?_insert] at stored found
    split at found
    · cases found
      split at stored
      · cases stored
        rfl
      · -- an older slot of the call is on the worker of its pin, which is this worker
        rename_i same older
        obtain ⟨pin, pinnedTo⟩ := pinned.exists_pin stored
        exact (pinned.placed _ _ pin stored pinnedTo).trans (here pin (same ▸ pinnedTo))
    · rename_i different
      split_ifs at stored with same
      · exact absurd (congrArg GatewayRouteKey.callKey same) different
      · exact pinned.placed _ _ pin stored found

private theorem Pinned.activate (pinned : routing.Pinned)
    (done : routing.activateRoute key route = .ok after) : after.Pinned := by
  obtain ⟨reserved, rfl⟩ := activateRoute_eq_ok done
  refine ⟨fun call => ?_, pinned.positive, fun _ _ pin stored found => ?_⟩
  · rw [slots_replace reserved]
    exact pinned.counted call
  · rcases get?_insert_some stored with ⟨rfl, rfl⟩ | ⟨-, stored⟩
    · exact pinned.placed _ (.pending route.workerId) pin reserved found
    · exact pinned.placed _ _ pin stored found

private theorem pinCount_releaseCallPin (routing : RoutingState) {pin}
    (found : routing.calls.get? key.callKey = some pin) (positive : 0 < pin.routeCount)
    (call : CallRouteKey) :
    (routing.releaseCallPin key).pinCount call + (if key.callKey = call then 1 else 0) =
      routing.pinCount call := by
  unfold releaseCallPin pinCount
  simp only [found]
  by_cases same : call = key.callKey
  · subst same
    rw [found]
    split
    · simp only [get?_erase, if_true, Option.elim_none, Option.elim_some]
      omega
    · simp only [get?_insert, if_true, Option.elim_some]
      omega
  · rw [if_neg (Ne.symm same)]
    split <;> simp [same]

private theorem releaseCallPin_pin {call pin}
    (found : (routing.releaseCallPin key).calls.get? call = some pin) :
    ∃ old, routing.calls.get? call = some old ∧ pin.workerId = old.workerId ∧
      (0 < old.routeCount → 0 < pin.routeCount) := by
  unfold releaseCallPin at found
  split at found
  · exact ⟨pin, found, rfl, id⟩
  · rename_i old stored
    split_ifs at found with several
    · rw [get?_erase] at found
      split_ifs at found
      exact ⟨pin, found, rfl, id⟩
    · rcases get?_insert_some found with ⟨same, rfl⟩ | ⟨-, found⟩
      · exact ⟨old, same ▸ stored, rfl, fun _ => Nat.pos_of_ne_zero several⟩
      · exact ⟨pin, found, rfl, id⟩

@[simp] theorem releaseCallPin_routes (routing : RoutingState) (key : GatewayRouteKey) :
    (routing.releaseCallPin key).routes = routing.routes := by
  unfold releaseCallPin
  split
  · rfl
  · split <;> rfl

theorem removeSlot_routes (routing : RoutingState) (key : GatewayRouteKey) :
    (routing.removeSlot key).routes = routing.routes.erase key := by
  unfold removeSlot
  split_ifs with free
  · rw [releaseCallPin_routes]
  · have absent := (contains_eq_false ..).mp (Bool.not_eq_true _ ▸ free)
    exact (erase_of_none _ absent).symm

private theorem Pinned.remove (pinned : routing.Pinned) (key : GatewayRouteKey) :
    (routing.removeSlot key).Pinned := by
  unfold removeSlot
  split_ifs with present
  · obtain ⟨_, stored⟩ := (contains_eq_true ..).mp present
    obtain ⟨pin, found⟩ := pinned.exists_pin stored
    refine ⟨fun call => ?_, fun call later held => ?_, fun _ _ later held pinnedTo => ?_⟩
    · have released := pinCount_releaseCallPin
        { routing with routes := routing.routes.erase key } found (pinned.positive _ pin found) call
      have erased := slots_erase stored routing.calls call
      have counted : routing.pinCount call = routing.slots call := pinned.counted call
      have same : ∀ calls, slots ⟨calls, routing.routes.erase key⟩ call =
          slots (releaseCallPin { routing with routes := routing.routes.erase key } key) call :=
        fun calls => by rw [slots, slots, releaseCallPin_routes]
      have before : pinCount { routing with routes := routing.routes.erase key } call =
          routing.pinCount call := rfl
      rw [same] at erased
      omega
    · obtain ⟨old, before, -, positive⟩ := releaseCallPin_pin held
      exact positive (pinned.positive _ old before)
    · obtain ⟨old, before, same, -⟩ := releaseCallPin_pin pinnedTo
      rw [releaseCallPin_routes, get?_erase] at held
      split_ifs at held
      exact (pinned.placed _ _ old held before).trans same.symm
  · exact pinned

theorem Pinned.next (pinned : routing.Pinned) (operation : RoutingOperation) :
    (routing.next operation).Pinned := by
  cases operation with
  | reserveRoute => exact orKeep_induction pinned fun _ done => pinned.reserve done
  | activateRoute => exact orKeep_induction pinned fun _ done => pinned.activate done
  | rollbackRoute key | retireRoute key => exact pinned.remove key

private theorem initial_pinned : initial.Pinned :=
  ⟨fun _ => rfl, fun _ _ missing => (nomatch missing), fun _ _ _ missing => (nomatch missing)⟩

theorem run_pinned (operations : List RoutingOperation) : (operations.foldl next initial).Pinned :=
  foldl_induction initial_pinned (fun _ operation held => held.next operation) operations

end RoutingState

/-- In every reachable table a call has a pin exactly when it has a slot, the pin counts the slots
of the call, and all of them are on the worker of the pin, hence on one worker. -/
theorem call_pins (operations : List RoutingOperation) (call : CallRouteKey) :
    let routing := operations.foldl RoutingState.next .initial
    ((routing.calls.get? call).isSome ↔
      ∃ key slot, routing.routes.get? key = some slot ∧ key.callKey = call) ∧
    (∀ pin, routing.calls.get? call = some pin →
      pin.routeCount = routing.routes.count (fun key _ => decide (key.callKey = call)) ∧
      ∀ key slot, routing.routes.get? key = some slot → key.callKey = call →
        slot.workerId = pin.workerId) ∧
    ∀ first firstSlot second secondSlot, routing.routes.get? first = some firstSlot →
      routing.routes.get? second = some secondSlot → first.callKey = call →
      second.callKey = call → firstSlot.workerId = secondSlot.workerId := by
  intro routing
  have pinned : routing.Pinned := RoutingState.run_pinned operations
  have placed : ∀ pin, routing.calls.get? call = some pin → ∀ key slot,
      routing.routes.get? key = some slot → key.callKey = call → slot.workerId = pin.workerId := by
    rintro pin found key slot stored rfl
    exact pinned.placed key _ pin stored found
  refine ⟨⟨fun some => ?_, ?_⟩, fun pin found => ⟨?_, placed pin found⟩, ?_⟩
  · obtain ⟨pin, found⟩ := Option.isSome_iff_exists.mp some
    exact pinned.exists_slot found
  · rintro ⟨key, slot, stored, rfl⟩
    exact Option.isSome_iff_exists.mpr (pinned.exists_pin stored)
  · have counted := pinned.counted call
    rw [RoutingState.pinCount, found] at counted
    exact counted
  · rintro _ _ _ _ one two rfl same
    obtain ⟨pin, found⟩ := pinned.exists_pin one
    exact (placed pin found _ _ one rfl).trans
      (placed pin found _ _ two same).symm

end Bridgefu.Gateway
