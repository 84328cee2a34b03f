/- digest: Opens, closes, failures and shutdowns of gateway routes, and whose slots they touch. -/

import Bridgefu.Gateway.Routes

set_option autoImplicit false

/-! An open reserves a slot, signals to the worker, and then activates the slot or rolls it back.
A route that was published is retired by its handle, by a failure, by the remote side or by the
shutdown of the gateway. Each of them signals between its first check and the table, so that other
operations run in between. The table knows a slot by its key alone: which reservation a slot
belongs to is recorded here beside it. -/

namespace Bridgefu.Gateway

open Lib CallEngine Table

/-- Where the open of a route stands. An open whose activation failed has to roll back. -/
inductive OpenPhase where
  | opening
  | abandoning
  | published
  | finished
  deriving DecidableEq

/-- One open of a route, and the flags of the route object and of its handle. -/
structure Reservation where
  key : GatewayRouteKey
  workerId : WorkerId
  phase : OpenPhase
  closed : Bool
  terminalSignaled : Bool
  dropped : Bool
  deriving DecidableEq

/-- The table with all opens so far, and the operations that have still to reach it. -/
structure ForwarderState where
  routing : RoutingState
  reservations : Table Nat Reservation
  nextIdentity : Nat
  /-- Whose slot it is. No operation reads this. -/
  owners : Table GatewayRouteKey Nat
  retirements : List Nat

/-- The lock-protected steps, each for the reservation of the given identity. -/
inductive ForwarderStep where
  | reserve (key : GatewayRouteKey) (workerId : WorkerId)
  | activate (identity : Nat)
  | rollback (identity : Nat)
  | close (identity : Nat)
  | fail (identity : Nat)
  | dropHandle (identity : Nat)
  | shutdown
  | retire (identity : Nat)
  | forceClose (identity : Nat)
  | retireRemote (identity : Nat)
  | refuseSubscription (identity : Nat)

def Reservation.route (reservation : Reservation) (identity : Nat) : RouteInner :=
  ⟨identity, reservation.key, reservation.workerId⟩

namespace ForwarderState

def initial : ForwarderState := ⟨.initial, .empty, 0, .empty, []⟩

variable (state : ForwarderState) (identity : Nat)

def reserve (key : GatewayRouteKey) (workerId : WorkerId) : ForwarderState :=
  match state.routing.reserveRoute key workerId with
  | .error _ => state
  | .ok routing =>
    { state with
      routing := routing
      reservations := state.reservations.insert state.nextIdentity
        ⟨key, workerId, .opening, false, false, false⟩
      nextIdentity := state.nextIdentity + 1
      owners := state.owners.insert key state.nextIdentity }

def setReservation (reservation : Reservation) : ForwarderState :=
  { state with reservations := state.reservations.insert identity reservation }

def activate (reservation : Reservation) : ForwarderState :=
  match state.routing.activateRoute reservation.key (reservation.route identity) with
  | .error _ => state.setReservation identity { reservation with phase := .abandoning }
  | .ok routing =>
    { state with routing := routing }.setReservation identity
      { reservation with phase := .published }

def rollback (reservation : Reservation) : ForwarderState :=
  { state with
    routing := state.routing.rollbackRoute reservation.key
    owners := state.owners.erase reservation.key }.setReservation identity
      { reservation with phase := .finished }

def markClosed (reservations : Table Nat Reservation) (retired : Option RouteInner) :
    Table Nat Reservation :=
  reservations.mapValues fun identity reservation =>
    if retired.any fun route => decide (route.identity = identity) then
      { reservation with closed := true }
    else reservation

/-- Take the slot under the key out of the table, and close the route that it held. -/
def retireRoute (key : GatewayRouteKey) : ForwarderState :=
  let retired := state.routing.retireRoute key
  { state with
    routing := retired.1
    reservations := markClosed state.reservations retired.2
    owners := state.owners.erase key }

/-- The operation goes on to signal, and reaches the table later. -/
def beginRetirement : ForwarderState :=
  { state with retirements := identity :: state.retirements }

/-- Run a step on the reservation it is for, if that stands where the step needs it. -/
def withReservation (ready : Reservation → Bool) (step : Reservation → ForwarderState) :
    ForwarderState :=
  match state.reservations.get? identity with
  | some reservation => if ready reservation then step reservation else state
  | none => state

def isPublished (reservation : Reservation) : Bool := decide (reservation.phase = .published)

def isHeld (reservation : Reservation) : Bool := isPublished reservation && !reservation.dropped

def next : ForwarderStep → ForwarderState
  | .reserve key workerId => state.reserve key workerId
  | .activate identity =>
    state.withReservation identity (fun reservation => decide (reservation.phase = .opening))
      (state.activate identity)
  | .rollback identity =>
    state.withReservation identity
      (fun reservation => decide (reservation.phase = .opening) ||
        decide (reservation.phase = .abandoning))
      (state.rollback identity)
  -- closing a route that is known to be closed does nothing
  | .close identity =>
    state.withReservation identity (fun reservation => isHeld reservation && !reservation.closed)
      fun _ => state.beginRetirement identity
  -- only the first failure is signaled
  | .fail identity =>
    state.withReservation identity
      (fun reservation => isPublished reservation && !reservation.terminalSignaled)
      fun reservation => (state.setReservation identity
        { reservation with terminalSignaled := true }).beginRetirement identity
  | .dropHandle identity =>
    state.withReservation identity isHeld fun reservation =>
      let dropped := state.setReservation identity { reservation with dropped := true }
      if reservation.closed then dropped else dropped.beginRetirement identity
  -- the keys are collected first, and retired one by one
  | .shutdown => { state with retirements := state.owners.values ++ state.retirements }
  | .retire identity =>
    if identity ∈ state.retirements then
      { state with retirements := state.retirements.erase identity }.withReservation identity
        (fun _ => true) fun reservation =>
          { state with retirements := state.retirements.erase identity }.retireRoute
            reservation.key
    else state
  | .forceClose identity =>
    state.withReservation identity isHeld fun reservation => state.retireRoute reservation.key
  | .retireRemote identity | .refuseSubscription identity =>
    state.withReservation identity isPublished fun reservation =>
      state.retireRoute reservation.key

/-- The reservation that a step acts for. An open acts for the one it makes, and the snapshot of a
shutdown for none. -/
def actsFor : ForwarderStep → Option Nat
  | .reserve _ _ => some state.nextIdentity
  | .shutdown => none
  | .activate identity | .rollback identity | .close identity | .fail identity
  | .dropHandle identity | .retire identity | .forceClose identity | .retireRemote identity
  | .refuseSubscription identity => some identity

/-- The slots of other reservations are neither removed nor activated, and their routes are not
closed. -/
def SparesOthers (before after : ForwarderState) (identity : Option Nat) : Prop :=
  ∀ key owner, before.owners.get? key = some owner → identity ≠ some owner →
    after.routing.routes.get? key = before.routing.routes.get? key ∧
    (after.reservations.get? owner).map Reservation.closed =
      (before.reservations.get? owner).map Reservation.closed

def Spares (step : ForwarderStep) : Prop :=
  state.SparesOthers (state.next step) (state.actsFor step)

/-- The slot under the key is free, or belongs to the reservation. -/
def Holds (key : GatewayRouteKey) : Prop :=
  ∀ owner, state.owners.get? key = some owner → owner = identity

/-- The slot that the step takes out of the table, if there is one, is its own. An activation may
also find the slot of another reservation if that is not pending on the worker. -/
def Entitled (step : ForwarderStep) : Prop :=
  match step with
  | .activate identity => ∀ reservation, state.reservations.get? identity = some reservation →
      reservation.phase = .opening → state.Holds identity reservation.key ∨
        state.routing.routes.get? reservation.key ≠ some (.pending reservation.workerId)
  | .rollback identity => ∀ reservation, state.reservations.get? identity = some reservation →
      reservation.phase = .opening ∨ reservation.phase = .abandoning →
        state.Holds identity reservation.key
  | .retire identity => ∀ reservation, state.reservations.get? identity = some reservation →
      identity ∈ state.retirements → state.Holds identity reservation.key
  | .forceClose identity => ∀ reservation, state.reservations.get? identity = some reservation →
      isHeld reservation → state.Holds identity reservation.key
  | .retireRemote identity | .refuseSubscription identity =>
    ∀ reservation, state.reservations.get? identity = some reservation →
      isPublished reservation → state.Holds identity reservation.key
  | .reserve _ _ | .close _ | .fail _ | .dropHandle _ | .shutdown => True

/-- The part of a reservation that never changes, and the flag that a retirement sets. -/
def standing (reservations : Table Nat Reservation) (identity : Nat) :
    Option (GatewayRouteKey × Bool) :=
  (reservations.get? identity).map fun reservation => (reservation.key, reservation.closed)

/-- The states that a step may leave. -/
inductive Change (state : ForwarderState) : ForwarderStep → ForwarderState → Prop
  | quiet {step after} (routing : after.routing = state.routing)
      (owners : after.owners = state.owners) (identities : after.nextIdentity = state.nextIdentity)
      (standing : ∀ identity,
        standing after.reservations identity = standing state.reservations identity)
      (entitled : state.Entitled step) : Change state step after
  | reserve {key workerId routing} (done : state.routing.reserveRoute key workerId = .ok routing) :
      Change state (.reserve key workerId) (state.reserve key workerId)
  | activate {identity reservation routing}
      (stored : state.reservations.get? identity = some reservation)
      (opening : reservation.phase = .opening)
      (done : state.routing.activateRoute reservation.key (reservation.route identity) =
        .ok routing) :
      Change state (.activate identity) (state.activate identity reservation)
  | remove {step identity reservation after} (acts : state.actsFor step = some identity)
      (stored : state.reservations.get? identity = some reservation)
      (routing : after.routing = state.routing.removeSlot reservation.key)
      (owners : after.owners = state.owners.erase reservation.key)
      (identities : after.nextIdentity = state.nextIdentity)
      (keys : ∀ identity, (standing after.reservations identity).map Prod.fst =
        (standing state.reservations identity).map Prod.fst)
      (closed : ∀ other, standing after.reservations other ≠ standing state.reservations other →
        ∃ route, state.routing.routes.get? reservation.key = some (.active route) ∧
          route.identity = other)
      (entitled : state.Entitled step ↔ state.Holds identity reservation.key) :
      Change state step after

section Change

variable {state : ForwarderState}

variable {identity : Nat}

private theorem standing_insert {reservations reservation later}
    (stored : reservations.get? identity = some reservation) (key : later.key = reservation.key)
    (closed : later.closed = reservation.closed) (other : Nat) :
    standing (reservations.insert identity later) other = standing reservations other := by
  unfold standing
  rw [get?_insert]
  split_ifs with same
  · subst same
    rw [stored, Option.map_some, Option.map_some, key, closed]
  · rfl

private theorem standing_markClosed (reservations : Table Nat Reservation)
    (retired : Option RouteInner) (identity : Nat) :
    standing (markClosed reservations retired) identity =
      (standing reservations identity).map fun known =>
        (known.1, known.2 || retired.any fun route => decide (route.identity = identity)) := by
  unfold standing markClosed
  rw [get?_mapValues, Option.map_map, Option.map_map]
  congr 1
  funext reservation
  dsimp only [Function.comp]
  split_ifs with named
  · rw [named, Bool.or_true]
  · rw [Bool.not_eq_true] at named
    rw [named, Bool.or_false]

private theorem Change.retire {step reservation} (acts : state.actsFor step = some identity)
    (stored : state.reservations.get? identity = some reservation) (retirements : List Nat)
    (entitled : state.Entitled step ↔ state.Holds identity reservation.key) :
    Change state step
      (retireRoute { state with retirements := retirements } reservation.key) := by
  refine .remove acts stored rfl rfl rfl (fun other => ?_) (fun other moved => ?_) entitled
  · unfold retireRoute
    rw [standing_markClosed]
    cases standing state.reservations other <;> rfl
  · unfold retireRoute at moved
    rw [standing_markClosed] at moved
    have named : ((state.routing.retireRoute reservation.key).2.any fun route =>
        decide (route.identity = other)) = true := by
      by_contra unnamed
      rw [Bool.not_eq_true] at unnamed
      refine moved ?_
      cases standing state.reservations other with
      | none => rfl
      | some => simp only [unnamed, Bool.or_false, Option.map_some]
    obtain ⟨route, retired, same⟩ := (Option.any_eq_true _ _).mp named
    refine ⟨route, ?_, of_decide_eq_true same⟩
    rw [RoutingState.retireRoute, Option.bind_eq_some_iff] at retired
    obtain ⟨slot, found, held⟩ := retired
    cases slot with
    | pending => cases held
    | active =>
      cases held
      exact found

private theorem withReservation_induction {motive : ForwarderState → Prop} {ready} {step}
    (idle : (∀ reservation, state.reservations.get? identity = some reservation →
      ready reservation = false) → motive state)
    (acts : ∀ reservation, state.reservations.get? identity = some reservation →
      ready reservation → motive (step reservation)) :
    motive (state.withReservation identity ready step) := by
  unfold withReservation
  split
  · rename_i reservation stored
    split_ifs with stands
    · exact acts _ stored stands
    · refine idle fun known found => ?_
      cases stored.symm.trans found
      exact Bool.not_eq_true _ ▸ stands
  · rename_i missing
    exact idle fun known found => nomatch missing.symm.trans found

private theorem Change.idle {step} (entitled : state.Entitled step) : Change state step state :=
  .quiet rfl rfl rfl (fun _ => rfl) entitled

private theorem entitled_iff {reservation} (stands : Reservation → Prop)
    (stored : state.reservations.get? identity = some reservation) (ready : stands reservation) :
    (∀ known, state.reservations.get? identity = some known → stands known →
      state.Holds identity known.key) ↔ state.Holds identity reservation.key := by
  constructor
  · intro every
    exact every _ stored ready
  · intro holds _ found _
    cases stored.symm.trans found
    exact holds

private theorem Change.retires {step ready} (acts : state.actsFor step = some identity)
    (entitled : state.Entitled step ↔ ∀ known, state.reservations.get? identity = some known →
      ready known → state.Holds identity known.key) :
    Change state step (state.withReservation identity ready fun reservation =>
      state.retireRoute reservation.key) := by
  refine withReservation_induction (fun stands => .idle (entitled.mpr fun _ found ready => ?_))
    fun _ stored ready => ?_
  · exact nomatch ready.symm.trans (stands _ found)
  · exact .retire acts stored state.retirements (entitled.trans (entitled_iff _ stored ready))

private theorem next_change (state : ForwarderState) (step : ForwarderStep) :
    Change state step (state.next step) := by
  cases step with
  | reserve key workerId =>
    cases done : state.routing.reserveRoute key workerId with
    | ok => exact .reserve done
    | error =>
      have same : state.next (.reserve key workerId) = state := by
        show state.reserve key workerId = state
        unfold reserve
        rw [done]
      rw [same]
      exact .idle trivial
  | activate identity =>
    refine withReservation_induction (fun stands => .idle fun known found opening => ?_)
      fun reservation stored opening => ?_
    · exact absurd opening (of_decide_eq_false (stands _ found))
    · cases done : state.routing.activateRoute reservation.key (reservation.route identity) with
      | ok => exact .activate stored (of_decide_eq_true opening) done
      | error =>
        unfold activate
        rw [done]
        refine .quiet rfl rfl rfl (standing_insert stored rfl rfl) fun known found _ => ?_
        cases stored.symm.trans found
        exact .inr (RoutingState.activateRoute_eq_error done)
  | rollback identity =>
    refine withReservation_induction (fun stands => .idle fun known found ready => ?_)
      fun reservation stored ready => ?_
    · have neither := stands _ found
      rw [Bool.or_eq_false_iff, decide_eq_false_iff_not, decide_eq_false_iff_not] at neither
      exact absurd ready (not_or.mpr neither)
    · have kept : ∀ other, standing (state.reservations.insert identity
          { reservation with phase := .finished }) other = standing state.reservations other :=
        standing_insert stored rfl rfl
      refine .remove rfl stored rfl rfl rfl (fun other => congrArg _ (kept other))
        (fun other moved => absurd (kept other) moved) (entitled_iff
          (fun known => known.phase = .opening ∨ known.phase = .abandoning) stored ?_)
      simpa only [Bool.or_eq_true, decide_eq_true_eq] using ready
  | close =>
    refine withReservation_induction (fun _ => .idle trivial) fun reservation stored ready => ?_
    exact .quiet rfl rfl rfl (fun _ => rfl) trivial
  | fail =>
    refine withReservation_induction (fun _ => .idle trivial) fun reservation stored ready => ?_
    exact .quiet rfl rfl rfl (standing_insert stored rfl rfl) trivial
  | dropHandle =>
    refine withReservation_induction (fun _ => .idle trivial) fun reservation stored ready => ?_
    split <;> exact .quiet rfl rfl rfl (standing_insert stored rfl rfl) trivial
  | shutdown => exact .quiet rfl rfl rfl (fun _ => rfl) trivial
  | retire identity =>
    unfold next
    dsimp only
    split
    · rename_i begun
      refine withReservation_induction (fun stands => ?_) fun reservation stored ready => ?_
      · exact .quiet rfl rfl rfl (fun _ => rfl) fun known found _ =>
          nomatch stands _ found
      · have present : state.reservations.get? identity = some reservation := stored
        exact .retire rfl present _
          (entitled_iff (fun _ => identity ∈ state.retirements) present begun)
    · rename_i idle
      exact .idle fun _ _ begun => absurd begun idle
  | forceClose | retireRemote | refuseSubscription => exact .retires rfl .rfl

end Change

/-- Every slot has an owner, which reserved it, and routes are in the slots of their keys. -/
structure Consistent (state : ForwarderState) : Prop where
  owned : ∀ key, (state.owners.get? key).isSome = (state.routing.routes.get? key).isSome
  reserved : ∀ key owner, state.owners.get? key = some owner →
    (standing state.reservations owner).map Prod.fst = some key
  placed : ∀ key route, state.routing.routes.get? key = some (.active route) →
    (standing state.reservations route.identity).map Prod.fst = some key
  fresh : ∀ identity, state.nextIdentity ≤ identity → standing state.reservations identity = none

variable {state after : ForwarderState}

private theorem Consistent.keep (consistent : state.Consistent)
    (routing : after.routing = state.routing)
    (owners : after.owners = state.owners) (identities : after.nextIdentity = state.nextIdentity)
    (keys : ∀ identity, (standing after.reservations identity).map Prod.fst =
      (standing state.reservations identity).map Prod.fst) : after.Consistent where
  owned := by
    rw [routing, owners]
    exact consistent.owned
  reserved := fun key _ found => by
    rw [keys]
    exact consistent.reserved key _ (owners ▸ found)
  placed := fun key _ found => by
    rw [keys]
    exact consistent.placed key _ (routing ▸ found)
  fresh := fun _ later => by
    have none := consistent.fresh _ (identities ▸ later)
    rw [← Option.map_eq_none_iff, keys, none]
    rfl

private theorem Consistent.change {step} (consistent : state.Consistent)
    (change : Change state step after) : after.Consistent := by
  cases change with
  | quiet routing owners identities standing =>
    exact consistent.keep routing owners identities fun identity =>
      congrArg (Option.map Prod.fst) (standing identity)
  | @reserve key workerId routing done =>
    obtain ⟨_, -, rfl⟩ := RoutingState.reserveRoute_eq_ok done
    have unused := consistent.fresh state.nextIdentity (Nat.le_refl _)
    have older : ∀ identity key', (standing state.reservations identity).map Prod.fst = some key' →
        (standing (state.reservations.insert state.nextIdentity
          ⟨key, workerId, .opening, false, false, false⟩) identity).map Prod.fst = some key' := by
      intro identity key' known
      unfold standing at known unused ⊢
      rw [get?_insert]
      split_ifs with same
      · rw [same, unused] at known
        cases known
      · exact known
    unfold reserve
    rw [done]
    refine ⟨fun other => ?_, forall_insert (fun other owner found =>
      older _ _ (consistent.reserved _ _ found)) (by simp [standing]),
      fun other route found => ?_, fun identity later => ?_⟩
    · rw [get?_insert, get?_insert]
      split
      · rfl
      · exact consistent.owned other
    · rw [get?_insert] at found
      split at found
      · cases found
      · exact older route.identity _ (consistent.placed _ _ found)
    · dsimp only at later ⊢
      have none := consistent.fresh _ (Nat.le_of_succ_le later)
      unfold standing at none ⊢
      rw [get?_insert_ne _ _ (by omega)]
      exact none
  | @activate identity reservation routing stored opening done =>
    obtain ⟨reserved, rfl⟩ := RoutingState.activateRoute_eq_ok done
    have kept : ∀ other, standing (state.reservations.insert identity
        { reservation with phase := .published }) other = standing state.reservations other :=
      standing_insert stored rfl rfl
    unfold activate setReservation
    rw [done]
    refine ⟨fun other => ?_, fun other owner found => ?_, fun other route found => ?_,
      fun later after => (kept later).trans (consistent.fresh _ after)⟩
    · rw [get?_insert, consistent.owned]
      split_ifs with same
      · rw [same, reserved]
        rfl
      · rfl
    · rw [kept]
      exact consistent.reserved _ _ found
    · rw [kept]
      rw [get?_insert] at found
      split_ifs at found with same
      · cases found
        rw [same, standing, Reservation.route, stored]
        rfl
      · exact consistent.placed _ _ found
  | @remove _ identity reservation _ _ stored routing owners identities keys =>
    refine ⟨fun other => ?_, fun other owner found => ?_, fun other route found => ?_,
      fun later after => ?_⟩
    · rw [routing, owners, RoutingState.removeSlot_routes, get?_erase, get?_erase]
      split
      · rfl
      · exact consistent.owned other
    · rw [owners, get?_erase] at found
      split at found
      · cases found
      · rw [keys]
        exact consistent.reserved _ _ found
    · rw [routing, RoutingState.removeSlot_routes, get?_erase] at found
      split_ifs at found
      rw [keys]
      exact consistent.placed _ _ found
    · have none := consistent.fresh _ (identities ▸ after)
      rw [← Option.map_eq_none_iff, keys, none]
      rfl

private theorem initial_consistent : initial.Consistent :=
  ⟨fun _ => rfl, fun _ _ missing => (nomatch missing), fun _ _ missing => (nomatch missing),
    fun _ _ => rfl⟩

theorem run_consistent (steps : List ForwarderStep) : (steps.foldl next initial).Consistent :=
  foldl_induction initial_consistent
    (fun state step held => held.change (next_change state step)) steps

private theorem Consistent.closed_kept (consistent : state.Consistent) {key other owner}
    (owned : state.owners.get? other = some owner) (different : other ≠ key) :
    ¬ ∃ route, state.routing.routes.get? key = some (.active route) ∧ route.identity = owner := by
  rintro ⟨_, found, rfl⟩
  have here := consistent.placed key _ found
  have there := consistent.reserved _ _ owned
  exact different (Option.some.inj (there.symm.trans here))

private theorem Consistent.spares_remove (consistent : state.Consistent) {identity key}
    (routing : after.routing = state.routing.removeSlot key)
    (closed : ∀ other, standing after.reservations other ≠ standing state.reservations other →
      ∃ route, state.routing.routes.get? key = some (.active route) ∧ route.identity = other) :
    state.SparesOthers after (some identity) ↔ state.Holds identity key := by
  unfold SparesOthers
  rw [routing, RoutingState.removeSlot_routes]
  constructor
  · intro spared owner owned
    by_contra other
    -- the slot of another reservation was there, and is gone
    have same := (spared key _ owned fun equal => other (Option.some.inj equal).symm).1
    rw [get?_erase, if_pos rfl] at same
    have slot := consistent.owned key
    rw [owned, ← same] at slot
    cases slot
  · intro holds other owner owned foreign
    have different : other ≠ key := by
      rintro rfl
      exact foreign (congrArg _ (holds _ owned).symm)
    constructor
    · rw [get?_erase, if_neg different]
    · have kept : standing after.reservations owner = standing state.reservations owner := by
        by_contra moved
        exact consistent.closed_kept owned different (closed _ moved)
      have flags := congrArg (Option.map Prod.snd) kept
      simpa only [standing, Option.map_map, Function.comp_def] using flags

private theorem Consistent.spares_activate {identity reservation routing}
    (done : state.routing.activateRoute reservation.key (reservation.route identity) =
      .ok routing) :
    state.SparesOthers (state.activate identity reservation) (some identity) ↔
      state.Holds identity reservation.key := by
  obtain ⟨reserved, rfl⟩ := RoutingState.activateRoute_eq_ok done
  unfold SparesOthers activate setReservation
  rw [done]
  constructor
  · intro spared owner owned
    by_contra other
    have same := (spared reservation.key _ owned fun equal =>
      other (Option.some.inj equal).symm).1
    rw [get?_insert_self, reserved] at same
    cases same
  · intro holds key owner owned foreign
    have different : key ≠ reservation.key := by
      rintro rfl
      exact foreign (congrArg _ (holds _ owned).symm)
    have mine : owner ≠ identity := fun same => foreign (congrArg _ same.symm)
    rw [get?_insert_ne _ _ different, get?_insert_ne _ _ mine]
    exact ⟨rfl, rfl⟩

private theorem Consistent.spares_change {step} (consistent : state.Consistent)
    (change : Change state step after) :
    state.SparesOthers after (state.actsFor step) ↔ state.Entitled step := by
  cases change with
  | quiet routing owners identities standing entitled =>
    refine ⟨fun _ => entitled, fun _ key owner owned foreign => ⟨by rw [routing], ?_⟩⟩
    have flags := congrArg (Option.map Prod.snd) (standing owner)
    simpa only [ForwarderState.standing, Option.map_map, Function.comp_def] using flags
  | @reserve key _ routing done =>
    refine ⟨fun _ => trivial, fun _ other owner owned foreign => ?_⟩
    obtain ⟨free, -, rfl⟩ := RoutingState.reserveRoute_eq_ok done
    have slot := consistent.owned other
    have different : other ≠ key := by
      rintro rfl
      rw [owned, free] at slot
      cases slot
    have older : owner ≠ state.nextIdentity := fun same => foreign (congrArg _ same.symm)
    unfold reserve
    rw [done]
    rw [get?_insert_ne _ _ different, get?_insert_ne _ _ older]
    exact ⟨rfl, rfl⟩
  | @activate identity reservation routing stored opening done =>
    refine (spares_activate done).trans ⟨fun holds _ found _ => ?_, fun entitled => ?_⟩
    · cases stored.symm.trans found
      exact .inl holds
    · obtain ⟨reserved, -⟩ := RoutingState.activateRoute_eq_ok done
      exact (entitled _ stored opening).resolve_right fun other => other reserved
  | @remove _ identity reservation _ acts stored routing owners identities _ closed entitled =>
    rw [acts, entitled]
    exact consistent.spares_remove routing closed

end ForwarderState

/-- In every run, a step leaves the slots and routes of other reservations alone exactly when the
slot that it takes under its key is its own. -/
theorem route_ownership (steps : List ForwarderStep) (state : ForwarderState)
    (step : ForwarderStep)
    (taken : (state, step) ∈ trace ForwarderState.next .initial steps) :
    state.Spares step ↔ state.Entitled step := by
  obtain ⟨first, -, -, rfl⟩ := mem_trace taken
  exact (ForwarderState.run_consistent first).spares_change (ForwarderState.next_change _ step)

/-- The operations of the table lead to it. -/
def RoutingState.Reached (routing : RoutingState) : Prop :=
  ∃ operations : List RoutingOperation, operations.foldl RoutingState.next .initial = routing

theorem RoutingState.Reached.next {routing : RoutingState} (reached : routing.Reached)
    (operation : RoutingOperation) : (routing.next operation).Reached := by
  obtain ⟨operations, rfl⟩ := reached
  exact ⟨operations ++ [operation], List.foldl_concat ..⟩

/-- What the forwarder does to the table, operations of the table do, so its pins hold as well. -/
theorem forwarder_refines_table (steps : List ForwarderStep) :
    let forwarder := steps.foldl ForwarderState.next .initial
    forwarder.routing.Reached ∧ forwarder.routing.Pinned ∧ forwarder.Consistent := by
  intro forwarder
  have reached : forwarder.routing.Reached := by
    refine foldl_induction (motive := fun state : ForwarderState => state.routing.Reached)
      ⟨[], rfl⟩ (fun state step reached => ?_) steps
    have change := ForwarderState.next_change state step
    generalize state.next step = after at change
    cases change with
    | quiet routing => exact routing ▸ reached
    | @reserve key workerId _ done =>
      have next := reached.next (.reserveRoute key workerId)
      simpa [ForwarderState.reserve, RoutingState.next, done, orKeep] using next
    | @activate identity reservation _ _ _ done =>
      have next := reached.next (.activateRoute reservation.key (reservation.route identity))
      simpa [ForwarderState.activate, ForwarderState.setReservation, RoutingState.next, done,
        orKeep] using next
    | @remove _ _ reservation _ _ _ routing =>
      exact routing ▸ reached.next (.rollbackRoute reservation.key)
  refine ⟨reached, ?_, ForwarderState.run_consistent steps⟩
  obtain ⟨operations, same⟩ := reached
  exact same ▸ RoutingState.run_pinned operations

namespace Sample

def routeKey : GatewayRouteKey := .new ⟨"tenant"⟩ ⟨1⟩ ⟨2⟩

/-- The route is being closed when the remote side ends it, and a new one takes its place. -/
def reuse : List ForwarderStep :=
  [.reserve routeKey ⟨7⟩, .activate 0, .close 0, .retireRemote 0, .reserve routeKey ⟨7⟩,
    .activate 1]

def otherKey : GatewayRouteKey := .new ⟨"tenant"⟩ ⟨1⟩ ⟨3⟩

/-- A route of the other leg is opened beside the new one. -/
def both : List ForwarderStep := reuse ++ [.reserve otherKey ⟨7⟩, .activate 2]

def beside : ForwarderState := both.foldl ForwarderState.next .initial

end Sample

/-- The newer of two reservations of a key may close its route, and spares the other leg. -/
theorem route_ownership_reused :
    Sample.beside.owners.get? Sample.routeKey = some 1 ∧
      Sample.beside.owners.get? Sample.otherKey = some 2 ∧
      Sample.beside.Spares (.forceClose 1) := by
  have mine : Sample.beside.owners.get? Sample.routeKey = some 1 := by decide +kernel
  refine ⟨mine, by decide +kernel,
    (route_ownership (Sample.both ++ [.forceClose 1]) _ _ ?_).mpr ?_⟩
  · rw [trace_append]
    exact List.mem_append_right _ List.mem_cons_self
  · intro _ found _ _ owned
    have stored : (Sample.beside.reservations.get? 1).map Reservation.key = some Sample.routeKey := by
      decide +kernel
    rw [found, Option.map_some, Option.some.injEq] at stored
    rw [stored] at owned
    exact Option.some.inj (owned.symm.trans mine)

/-- The close of the old route removes the slot of the new one, and closes its route. -/
theorem close_removes_newer_route :
    let state := Sample.reuse.foldl ForwarderState.next .initial
    state.owners.get? Sample.routeKey = some 1 ∧
      state.routing.routes.get? Sample.routeKey = some (.active ⟨1, Sample.routeKey, ⟨7⟩⟩) ∧
      (state.next (.retire 0)).routing.routes.get? Sample.routeKey = none ∧
      ((state.next (.retire 0)).reservations.get? 1).map Reservation.closed = some true := by
  decide +kernel

end Bridgefu.Gateway
