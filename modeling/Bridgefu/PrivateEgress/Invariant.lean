/- digest: What holds of every route of the memory store, over every run of its operations. -/

import Bridgefu.PrivateEgress.Memory
import Bridgefu.Lib.Trace

set_option autoImplicit false

/-! An operation moves the row of a route in one of a few ways, and only under the epoch that is
active at the gateway. The invariant of routes is kept by each of these ways, and so is the mark
that a route waits for its recovery, until the recovery is acknowledged. -/

namespace Bridgefu.PrivateEgress

open Lib CallEngine MemoryState Table

def MemoryRouteRecord.Terminal (route : MemoryRouteRecord) : Prop :=
  ∃ state, route.state = some state ∧ isTerminal state

/-- What holds of a route of a gateway with this active epoch. -/
structure MemoryRouteRecord.Sound (active : Option Uuid) (route : MemoryRouteRecord) : Prop where
  tombstoned : route.tombstonedAtMs.isSome ↔ route.Terminal
  settled : route.Terminal → route.pending = none
  claimed : route.state = none → route.pending.isSome
  recovering : route.recoveryRequired → route.state = some .failed ∧ route.tombstonedAtMs.isSome
  current : ¬ route.Terminal ∨ route.pending.isSome → active = some route.epoch

namespace MemoryRouteRecord

variable {active : Option Uuid} {route : MemoryRouteRecord}

theorem terminal_iff (route : MemoryRouteRecord) :
    route.Terminal ↔ route.state.any isTerminal = true := by
  unfold Terminal
  cases route.state <;> simp

theorem Sound.isOpen_iff (sound : route.Sound active) : route.isOpen = true ↔ ¬ route.Terminal := by
  have claimed := sound.claimed
  have settled := sound.settled
  rw [terminal_iff] at settled ⊢
  unfold isOpen
  cases state : route.state with
  | none => simp [claimed state]
  | some current =>
    rw [state] at settled
    cases terminal : isTerminal current with
    | true => simp [settled terminal]
    | false => simp [terminal]

theorem Sound.quiet (sound : route.Sound active) (going : route.isOpen) :
    route.recoveryRequired = false := by
  rw [← Bool.not_eq_true]
  intro waits
  exact sound.isOpen_iff.mp going ⟨.failed, (sound.recovering waits).1, rfl⟩

theorem Sound.of_pending (sound : route.Sound active) (pending : route.pending.isSome) :
    ¬ route.Terminal ∧ route.tombstonedAtMs = none ∧ route.recoveryRequired = false := by
  have going : ¬ route.Terminal := fun ended => by
    rw [sound.settled ended] at pending
    cases pending
  have unmarked : route.tombstonedAtMs = none := by
    rw [← Option.not_isSome_iff_eq_none, sound.tombstoned]
    exact going
  exact ⟨going, unmarked, sound.quiet (sound.isOpen_iff.mpr going)⟩

private theorem sound_fail (active : Option Uuid) (route : MemoryRouteRecord) (atMs : Int) :
    (route.fail atMs).Sound active where
  tombstoned := ⟨fun _ => ⟨.failed, rfl, rfl⟩, fun _ => rfl⟩
  settled := fun _ => rfl
  claimed := nofun
  recovering := fun _ => ⟨rfl, rfl⟩
  current := by
    rintro (going | pending)
    · exact absurd ⟨.failed, rfl, rfl⟩ going
    · cases pending

private theorem sound_enter (route : MemoryRouteRecord) (free : route.pending = none)
    (unmarked : route.tombstonedAtMs = none) (quiet : route.recoveryRequired = false)
    (next : PrivateEgressLifecycleState) (atMs : Int) (current : active = some route.epoch) :
    (route.enter next atMs).Sound active where
  tombstoned := by
    rw [terminal_iff]
    unfold enter
    rw [unmarked]
    cases next <;> simp
  settled := fun _ => free
  claimed := nofun
  recovering := fun waits => by
    unfold enter at waits
    rw [quiet] at waits
    cases waits
  current := fun _ => current

end MemoryRouteRecord

/-- How an operation may change the row of a route, at a gateway with this active epoch. -/
inductive RouteStep (acknowledged : Prop) (active : Option Uuid) :
    Option MemoryRouteRecord → Option MemoryRouteRecord → Prop
  | same (row : Option MemoryRouteRecord) : RouteStep acknowledged active row row
  | create {epoch} (pending : Uuid × PrivateEgressLifecycleState) (current : active = some epoch) :
      RouteStep acknowledged active none (some ⟨epoch, none, some pending, 0, none, false⟩)
  | claim {route} (pending : Uuid × PrivateEgressLifecycleState)
      (current : active = some route.epoch) (unmarked : route.tombstonedAtMs = none) :
      RouteStep acknowledged active (some route) (some { route with pending := some pending })
  | complete {route} (next : PrivateEgressLifecycleState) (atMs : Int)
      (current : active = some route.epoch) (pending : route.pending.isSome) :
      RouteStep acknowledged active (some route)
        (some ({ route with pending := none }.enter next atMs))
  | drop {route} (pending : route.pending.isSome) : RouteStep acknowledged active (some route) none
  | release {route} (current : active = some route.epoch) (pending : route.pending.isSome)
      (begun : route.state.isSome) :
      RouteStep acknowledged active (some route) (some { route with pending := none })
  | fail {route} (atMs : Int) (going : route.isOpen) :
      RouteStep acknowledged active (some route) (some (route.fail atMs))
  | report {route} (next : PrivateEgressLifecycleState) (atMs : Int) (sequence : Nat)
      (current : active = some route.epoch) (free : route.pending = none)
      (unmarked : route.tombstonedAtMs = none) (quiet : route.recoveryRequired = false) :
      RouteStep acknowledged active (some route)
        (some { route.enter next atMs with nextLifecycleSequence := sequence })
  | number {route} (sequence : Nat) :
      RouteStep acknowledged active (some route)
        (some { route with nextLifecycleSequence := sequence })
  | recover {route} (acknowledges : acknowledged) :
      RouteStep acknowledged active (some route) (some { route with recoveryRequired := false })
  | expire {route} (quiet : route.recoveryRequired = false) :
      RouteStep acknowledged active (some route) none

def RowSound (active : Option Uuid) (row : Option MemoryRouteRecord) : Prop :=
  ∀ route, row = some route → route.Sound active

section RouteStep

variable {acknowledged : Prop} {active : Option Uuid} {before after : Option MemoryRouteRecord}

private theorem RouteStep.sound (step : RouteStep acknowledged active before after)
    (held : RowSound active before) : RowSound active after := by
  cases step with
  | same => exact held
  | create pending current =>
    rintro _ ⟨⟩
    have going : ∀ epoch : Uuid, ¬ MemoryRouteRecord.Terminal
        ⟨epoch, none, some pending, 0, none, false⟩ := fun _ ⟨_, missing, _⟩ => nomatch missing
    exact {
      tombstoned := ⟨fun marked => (nomatch marked), fun ended => absurd ended (going _)⟩
      settled := fun ended => absurd ended (going _)
      claimed := fun _ => rfl
      recovering := fun waits => (nomatch waits)
      current := fun _ => current }
  | @claim route pending current unmarked =>
    rintro _ ⟨⟩
    have sound := held _ rfl
    have going : ¬ route.Terminal := fun ended => by
      have marked := sound.tombstoned.mpr ended
      rw [unmarked] at marked
      cases marked
    exact { sound with
      settled := fun ended => absurd ended going
      claimed := fun _ => rfl
      current := fun _ => current }
  | @complete route next atMs current pending =>
    rintro _ ⟨⟩
    obtain ⟨-, unmarked, quiet⟩ := (held _ rfl).of_pending pending
    exact MemoryRouteRecord.sound_enter { route with pending := none } rfl unmarked
      quiet _ _ current
  | drop | expire => exact nofun
  | @release route current pending begun =>
    rintro _ ⟨⟩
    exact { held _ rfl with
      settled := fun _ => rfl
      claimed := fun missing => by
        have none : route.state = none := missing
        rw [none] at begun
        cases begun
      current := fun _ => current }
  | fail atMs =>
    rintro _ ⟨⟩
    exact MemoryRouteRecord.sound_fail _ _ atMs
  | @report route next atMs _ current free unmarked quiet =>
    rintro _ ⟨⟩
    exact { MemoryRouteRecord.sound_enter _ free unmarked quiet _ _ current with }
  | @number route =>
    rintro _ ⟨⟩
    exact { held _ rfl with }
  | @recover route =>
    rintro _ ⟨⟩
    exact { held _ rfl with recovering := nofun }

private theorem RouteStep.waits (step : RouteStep acknowledged active before after)
    (held : RowSound active before) {route} (stored : before = some route)
    (waits : route.recoveryRequired) (unacknowledged : ¬ acknowledged) :
    ∃ later, after = some later ∧ later.recoveryRequired ∧ later.epoch = route.epoch := by
  subst stored
  have sound := held _ rfl
  obtain ⟨failed, _⟩ := sound.recovering waits
  have ended : route.Terminal := ⟨.failed, failed, rfl⟩
  have free := sound.settled ended
  cases step with
  | same | claim | release | number => exact ⟨_, rfl, waits, rfl⟩
  | complete next atMs current pending | drop pending =>
    rw [free] at pending
    cases pending
  | fail atMs going => exact absurd ended (sound.isOpen_iff.mp going)
  | report next atMs _ current _ _ quiet => cases waits.symm.trans quiet
  | recover acknowledges => exact absurd acknowledges unacknowledged
  | expire quiet => cases waits.symm.trans quiet

end RouteStep

def Operation.Acknowledges (store : MemoryPrivateEgressStateStore) (state : MemoryState)
    (operation : Operation) (place : String × PrivateEgressRouteKey) : Prop :=
  ∃ epoch, operation = .completeRouteRecovery epoch place.2 ∧ epoch.gatewayId = place.1 ∧
    (state.perform store operation).2 = .ok .done

abbrev Operation.Moves (store : MemoryPrivateEgressStateStore) (state : MemoryState)
    (operation : Operation) (key : PrivateEgressRouteKey) (after : Option MemoryRouteRecord) :
    Prop :=
  RouteStep (operation.Acknowledges store state (operation.epoch.gatewayId, key))
    (state.activeEpochs.get? operation.epoch.gatewayId)
    (state.routes.get? (operation.epoch.gatewayId, key)) after

/-- The states that an operation may leave. -/
inductive Effect (store : MemoryPrivateEgressStateStore) (state : MemoryState)
    (operation : Operation) : MemoryState → Prop
  | nothing : Effect store state operation state
  | fence {epoch atMs} (begins : operation = .beginEpoch epoch atMs) :
      Effect store state operation (state.fenced epoch atMs)
  | sweep {epoch commandId digest atMs}
      (claims : operation = .claimCommand epoch commandId digest atMs) :
      Effect store state operation (state.sweep store atMs)
  | claim {epoch commandId digest atMs}
      (claims : operation = .claimCommand epoch commandId digest atMs)
      (record : MemoryCommandRecord) :
      Effect store state operation { state.sweep store atMs with
        commands := (state.sweep store atMs).commands.insert (epoch.gatewayId, commandId) record }
  | command (commandId : Uuid) (record : MemoryCommandRecord) :
      Effect store state operation { state with
        commands := state.commands.insert (operation.epoch.gatewayId, commandId) record }
  | route {key route} (moves : operation.Moves store state key (some route)) :
      Effect store state operation (state.setRoute operation.epoch key route)
  | drop {key} (moves : operation.Moves store state key none) :
      Effect store state operation { state with
        routes := state.routes.erase (operation.epoch.gatewayId, key) }
  | failSource {epoch authority atMs} (fails : operation = .failSource epoch authority atMs) :
      Effect store state operation { state with
        routes := state.routes.mapValues fun key route =>
          if isFailing epoch authority key route then route.fail atMs else route }
  | append {epoch key event atMs} (appends : operation = .appendLifecycle epoch key event atMs)
      (active : state.activeEpochs.get? epoch.gatewayId = some epoch.instanceId) {route}
      (moves : operation.Moves store state key (some route)) {record}
      (mine : record.epoch = epoch.instanceId) :
      Effect store state operation { state.setRoute epoch key route with
        lifecycle := state.lifecycle.insert (epoch.gatewayId, event.eventId) record }
  | acknowledge {eventId record}
      (stored : state.lifecycle.get? (operation.epoch.gatewayId, eventId) = some record) :
      Effect store state operation { state with
        lifecycle := state.lifecycle.insert (operation.epoch.gatewayId, eventId)
          { record with acked := true } }

def Operation.reads : Operation → Bool
  | .assertEpoch _ | .unackedLifecycle _ _ => true
  | _ => false

def Operation.writesRoute : Operation → Bool
  | .completeRouteRecovery _ _ | .claimRouteTransition _ _ _ _ _
  | .completeRouteTransition _ _ _ _ _ | .abortRouteTransition _ _ _
  | .appendLifecycle _ _ _ _ => true
  | _ => false

/-- An operation that is refused or only reads leaves the state. Every other has one write. -/
inductive Written (store : MemoryPrivateEgressStateStore) (state : MemoryState) :
    Operation → Locked Answer → Prop
  | refused {operation} (failure : PrivateEgressError) :
      Written store state operation (state, .error failure)
  | read {operation} (reads : operation.reads) (answer : Answer) :
      Written store state operation (state, .ok answer)
  | fence {epoch atMs} (answer : Except PrivateEgressError Answer) :
      Written store state (.beginEpoch epoch atMs) (state.fenced epoch atMs, answer)
  | sweep {epoch commandId digest atMs answer} (active : state.ensureEpoch epoch = .ok ())
      (other : answer ≠ .ok (.claim .acquired)) :
      Written store state (.claimCommand epoch commandId digest atMs)
        (state.sweep store atMs, answer)
  | claim {epoch commandId digest atMs} (active : state.ensureEpoch epoch = .ok ())
      (absent : (state.sweep store atMs).commands.get? (epoch.gatewayId, commandId) = none) :
      Written store state (.claimCommand epoch commandId digest atMs)
        ({ state.sweep store atMs with
          commands := (state.sweep store atMs).commands.insert (epoch.gatewayId, commandId)
            ⟨epoch.instanceId, digest, atMs, none, none⟩ }, .ok (.claim .acquired))
  | repeated {epoch commandId atMs record response}
      (stored : state.commands.get? (epoch.gatewayId, commandId) = some record)
      (answered : record.response = some response) :
      Written store state (.completeCommand epoch commandId record.digest response atMs)
        (state, .ok .done)
  | complete {epoch commandId atMs record response}
      (stored : state.commands.get? (epoch.gatewayId, commandId) = some record)
      (unanswered : record.response = none) :
      Written store state (.completeCommand epoch commandId record.digest response atMs)
        ({ state with
          commands := state.commands.insert (epoch.gatewayId, commandId)
            { record with response := some response, completedAtMs := some atMs } }, .ok .done)
  | route {operation key later answer} (writes : operation.writesRoute)
      (moves : operation.Moves store state key (some later))
      (kept : ∀ route, state.routes.get? (operation.epoch.gatewayId, key) = some route →
        later.epoch = route.epoch ∧ later.nextLifecycleSequence = route.nextLifecycleSequence ∧
          (later.state = none → route.state = none))
      (silent : ∀ event, answer ≠ .ok (.stamped event)) :
      Written store state operation (state.setRoute operation.epoch key later, answer)
  | drop {epoch key commandId route}
      (stored : state.routes.get? (epoch.gatewayId, key) = some route)
      (pending : route.pending.isSome) (unbegun : route.state = none) :
      Written store state (.abortRouteTransition epoch key commandId)
        ({ state with routes := state.routes.erase (epoch.gatewayId, key) }, .ok .done)
  | failSource {epoch authority atMs} (answer : Except PrivateEgressError Answer) :
      Written store state (.failSource epoch authority atMs)
        ({ state with
          routes := state.routes.mapValues fun key route =>
            if isFailing epoch authority key route then route.fail atMs else route },
          answer)
  | append {epoch : PrivateEgressGatewayEpoch} {key : PrivateEgressRouteKey}
      {event : PrivateEgressLifecycleEvent} {atMs : Int} {route moved : MemoryRouteRecord}
      (active : state.activeEpochs.get? epoch.gatewayId = some epoch.instanceId)
      (fresh : state.lifecycle.get? (epoch.gatewayId, event.eventId) = none)
      (stored : state.routes.get? (epoch.gatewayId, key) = some route)
      (mine : route.epoch = epoch.instanceId) (same : moved.epoch = route.epoch)
      (begun : moved.state ≠ none)
      (moves : Operation.Moves store state (.appendLifecycle epoch key event atMs) key
        (some { moved with nextLifecycleSequence := route.nextLifecycleSequence + 1 })) :
      Written store state (.appendLifecycle epoch key event atMs)
        ({ state.setRoute epoch key { moved with
            nextLifecycleSequence := route.nextLifecycleSequence + 1 } with
          lifecycle := state.lifecycle.insert (epoch.gatewayId, event.eventId)
            ⟨epoch.instanceId, key, { event with
              gatewayEpoch := epoch.instanceId, sequence := route.nextLifecycleSequence + 1 },
              false, atMs⟩ },
          .ok (.stamped { event with
            gatewayEpoch := epoch.instanceId, sequence := route.nextLifecycleSequence + 1 }))
  | acknowledge {epoch key eventId sequence record}
      (stored : state.lifecycle.get? (epoch.gatewayId, eventId) = some record) :
      Written store state (.ackLifecycle epoch key eventId sequence)
        ({ state with
          lifecycle := state.lifecycle.insert (epoch.gatewayId, eventId)
            { record with acked := true } }, .ok .done)

section Effect

variable {store : MemoryPrivateEgressStateStore} {state after : MemoryState} {operation : Operation}
  {epoch : PrivateEgressGatewayEpoch} {key : PrivateEgressRouteKey}

theorem ensureEpoch_eq_ok : state.ensureEpoch epoch = .ok () ↔
    state.activeEpochs.get? epoch.gatewayId = some epoch.instanceId := by
  rw [ensureEpoch, reject_eq_ok, not_not]

private theorem Written.of_settle {α answer} {checked : Except PrivateEgressError (Locked α)}
    (done : ∀ outcome, checked = .ok outcome → state.perform store operation =
      answered answer outcome → Written store state operation (answered answer outcome))
    (performs : state.perform store operation = answered answer (settle state checked)) :
    Written store state operation (state.perform store operation) := by
  rw [performs]
  refine settle_induction (motive := fun outcome => settle _ checked = outcome →
    Written _ _ _ (answered _ outcome)) (fun failure _ _ => .refused failure)
    (fun outcome checks whole => ?_) rfl
  exact done _ checks (whole ▸ performs)

variable {atMs : Int}

private theorem move_eq_ok {route moved : MemoryRouteRecord} {current kind}
    (done : route.move current kind atMs = .ok moved) :
    (∃ next, route.pending = none ∧ moved = route.enter next atMs) ∨ moved = route := by
  cases kind with
  | state next =>
    rw [MemoryRouteRecord.move, bind_eq_ok, exists_unit, reject_eq_ok, pure_eq_ok,
      not_or, Option.not_isSome_iff_eq_none] at done
    exact .inl ⟨next, done.1.1, done.2.symm⟩
  | progress =>
    rw [MemoryRouteRecord.move, bind_eq_ok, exists_unit, pure_eq_ok] at done
    exact .inr done.2.symm

private theorem move_begun {route moved : MemoryRouteRecord} {current kind}
    (reached : route.state = some current) (done : route.move current kind atMs = .ok moved) :
    moved.epoch = route.epoch ∧ moved.nextLifecycleSequence = route.nextLifecycleSequence ∧
      moved.state ≠ none := by
  rcases move_eq_ok done with ⟨_, -, rfl⟩ | rfl
  · exact ⟨rfl, rfl, nofun⟩
  · refine ⟨rfl, rfl, ?_⟩
    rw [reached]
    exact nofun

private theorem Written.rewrites {route later answer} (writes : operation.writesRoute)
    (stored : state.routes.get? (operation.epoch.gatewayId, key) = some route)
    (moves : RouteStep (operation.Acknowledges store state (operation.epoch.gatewayId, key))
      (state.activeEpochs.get? operation.epoch.gatewayId) (some route) (some later))
    (silent : ∀ event, answer ≠ .ok (.stamped event))
    (kept : later.epoch = route.epoch ∧ later.nextLifecycleSequence = route.nextLifecycleSequence ∧
      (later.state = none → route.state = none) := by exact ⟨rfl, rfl, id⟩) :
    Written store state operation (state.setRoute operation.epoch key later, answer) := by
  rw [← stored] at moves
  refine .route writes moves (fun _ found => ?_) silent
  cases stored.symm.trans found
  exact kept

private theorem completeRouteRecovery_written {epoch key} :
    Written store state (.completeRouteRecovery epoch key)
      (state.perform store (.completeRouteRecovery epoch key)) := by
  refine Written.of_settle (fun outcome done whole => ?_) rfl
  simp only [bind_eq_ok, exists_unit, orFail_eq_ok, pure_eq_ok] at done
  obtain ⟨-, route, stored, -, rfl⟩ := done
  exact .rewrites rfl stored (.recover ⟨epoch, rfl, rfl, congrArg Prod.snd whole⟩)
    fun _ => by rintro ⟨⟩

private theorem claimCommand_written {epoch commandId digest atMs} :
    Written store state (.claimCommand epoch commandId digest atMs)
      (state.perform store (.claimCommand epoch commandId digest atMs)) := by
  refine Written.of_settle (fun outcome done _ => ?_) rfl
  simp only [bind_eq_ok, exists_unit] at done
  obtain ⟨active, done⟩ := done
  split at done
  · split at done
    · cases done
      exact .sweep active (by rintro ⟨⟩)
    · split at done <;> cases done <;> exact .sweep active (by rintro ⟨⟩)
  · rename_i absent
    split at done
    · cases done
      exact .sweep active (by rintro ⟨⟩)
    · cases done
      exact .claim active absent

private theorem completeCommand_written {epoch commandId digest response atMs} :
    Written store state (.completeCommand epoch commandId digest response atMs)
      (state.perform store (.completeCommand epoch commandId digest response atMs)) := by
  refine Written.of_settle (fun outcome done _ => ?_) rfl
  simp only [bind_eq_ok, exists_unit, orFail_eq_ok, reject_eq_ok, not_or, not_not] at done
  obtain ⟨-, record, stored, ⟨-, rfl⟩, done⟩ := done
  split at done
  · rename_i existing answered
    rw [bind_eq_ok, exists_unit, reject_eq_ok, pure_eq_ok, not_not] at done
    obtain ⟨rfl, rfl⟩ := done
    exact .repeated stored answered
  · rename_i unanswered
    cases done
    exact .complete stored unanswered

private theorem claimRouteTransition_written {epoch key commandId expected next} :
    Written store state (.claimRouteTransition epoch key commandId expected next)
      (state.perform store (.claimRouteTransition epoch key commandId expected next)) := by
  refine Written.of_settle (fun outcome done _ => ?_) rfl
  rw [bind_eq_ok, exists_unit, ensureEpoch_eq_ok] at done
  obtain ⟨current, done⟩ := done
  split at done
  · rename_i route stored
    rw [bind_eq_ok, exists_unit, reject_eq_ok, pure_eq_ok, not_not] at done
    obtain ⟨⟨mine, -, -, unmarked⟩, rfl⟩ := done
    exact .rewrites rfl stored (.claim _ (mine ▸ current) unmarked) fun _ => by rintro ⟨⟩
  · rename_i absent
    simp only [bind_eq_ok, exists_unit, pure_eq_ok] at done
    obtain ⟨-, -, rfl⟩ := done
    refine .route rfl ?_ (fun _ found => by cases absent.symm.trans found) fun _ => by rintro ⟨⟩
    unfold Operation.Moves Operation.epoch
    rw [absent]
    exact .create _ current

private theorem completeRouteTransition_written {epoch key commandId next atMs} :
    Written store state (.completeRouteTransition epoch key commandId next atMs)
      (state.perform store (.completeRouteTransition epoch key commandId next atMs)) := by
  refine Written.of_settle (fun outcome done _ => ?_) rfl
  simp only [bind_eq_ok, exists_unit, ensureEpoch_eq_ok, orFail_eq_ok, reject_eq_ok, pure_eq_ok,
    not_or, not_not] at done
  obtain ⟨current, route, stored, ⟨mine, pending⟩, rfl⟩ := done
  exact .rewrites rfl stored (.complete _ _ (mine ▸ current) (by rw [pending]; rfl))
    (fun _ => by rintro ⟨⟩) ⟨rfl, rfl, by rintro ⟨⟩⟩

private theorem abortRouteTransition_written {epoch key commandId} :
    Written store state (.abortRouteTransition epoch key commandId)
      (state.perform store (.abortRouteTransition epoch key commandId)) := by
  refine Written.of_settle (fun outcome done _ => ?_) rfl
  simp only [bind_eq_ok, exists_unit, ensureEpoch_eq_ok, orFail_eq_ok, reject_eq_ok, not_or,
    not_not] at done
  obtain ⟨current, route, stored, ⟨mine, mismatch⟩, done⟩ := done
  have pending : route.pending.isSome := by
    cases claimed : route.pending with
    | none =>
      rw [claimed] at mismatch
      exact absurd rfl mismatch
    | some => rfl
  split_ifs at done with unbegun
  · cases done
    exact .drop stored pending (Option.isNone_iff_eq_none.mp unbegun)
  · cases done
    exact .rewrites rfl stored (.release (mine ▸ current) pending
      (Option.isSome_iff_ne_none.mpr (mt Option.isNone_iff_eq_none.mpr unbegun)))
      fun _ => by rintro ⟨⟩

private theorem appendLifecycle_written {epoch key event atMs} :
    Written store state (.appendLifecycle epoch key event atMs)
      (state.perform store (.appendLifecycle epoch key event atMs)) := by
  refine Written.of_settle (fun outcome done _ => ?_) rfl
  simp only [bind_eq_ok, exists_unit, ensureEpoch_eq_ok, orFail_eq_ok, reject_eq_ok, not_or,
    not_not, Bool.not_eq_true, Option.isSome_eq_false_iff, Option.isNone_iff_eq_none,
    contains_eq_false] at done
  obtain ⟨active, -, fresh, -, route, stored, ⟨mine, quiet, unmarked⟩, current, reached, moved,
    move, done⟩ := done
  obtain ⟨same, number, begun⟩ := move_begun reached move
  -- whatever the number that is stored with it, the route entered a state or stayed
  have moves : ∀ sequence, Operation.Moves store state (.appendLifecycle epoch key event atMs) key
      (some { moved with nextLifecycleSequence := sequence }) := by
    intro sequence
    unfold Operation.Moves Operation.epoch
    rw [stored]
    rcases move_eq_ok move with ⟨next, free, rfl⟩ | rfl
    · exact .report _ _ _ (mine ▸ active) free unmarked quiet
    · exact .number sequence
  split at done
  · cases done
    exact .rewrites rfl stored (stored ▸ moves moved.nextLifecycleSequence) (fun _ => by rintro ⟨⟩)
      ⟨same, number, fun missing => absurd missing begun⟩
  · cases done
    rw [number]
    exact .append active fresh stored mine same begun (moves (route.nextLifecycleSequence + 1))

theorem perform_written (store : MemoryPrivateEgressStateStore) (state : MemoryState)
    (operation : Operation) :
    Written store state operation (state.perform store operation) := by
  cases operation with
  | beginEpoch => exact .fence _
  | assertEpoch epoch =>
    show Written store state _ (state, (state.ensureEpoch epoch).map fun _ => .done)
    cases state.ensureEpoch epoch with
    | error failure => exact .refused failure
    | ok => exact .read rfl .done
  | unackedLifecycle =>
    refine Written.of_settle (fun outcome done _ => ?_) rfl
    rw [bind_eq_ok, exists_unit, pure_eq_ok] at done
    obtain ⟨-, rfl⟩ := done
    exact .read rfl _
  | completeRouteRecovery => exact completeRouteRecovery_written
  | claimCommand => exact claimCommand_written
  | completeCommand => exact completeCommand_written
  | claimRouteTransition => exact claimRouteTransition_written
  | completeRouteTransition => exact completeRouteTransition_written
  | abortRouteTransition => exact abortRouteTransition_written
  | failSource =>
    refine Written.of_settle (fun outcome done _ => ?_) rfl
    rw [bind_eq_ok, exists_unit, pure_eq_ok] at done
    obtain ⟨-, rfl⟩ := done
    exact .failSource _
  | appendLifecycle => exact appendLifecycle_written
  | ackLifecycle =>
    refine Written.of_settle (fun outcome done _ => ?_) rfl
    simp only [bind_eq_ok, exists_unit, orFail_eq_ok, pure_eq_ok] at done
    obtain ⟨-, record, stored, -, rfl⟩ := done
    exact .acknowledge stored

private theorem Written.effect {outcome} (written : Written store state operation outcome) :
    Effect store state operation outcome.1 := by
  cases written with
  | refused | read => exact .nothing
  | fence => exact .fence rfl
  | sweep => exact .sweep rfl
  | claim => exact .claim rfl _
  | repeated => exact .nothing
  | complete => exact .command _ _
  | route _ moves => exact .route moves
  | @drop epoch key commandId route stored pending =>
    have moves : Operation.Moves store state (.abortRouteTransition epoch key commandId) key
        none := by
      unfold Operation.Moves Operation.epoch
      rw [stored]
      exact .drop pending
    exact .drop moves
  | failSource => exact .failSource rfl
  | append active _ stored _ _ _ moves => exact .append rfl active moves rfl
  | acknowledge stored => exact .acknowledge stored

theorem next_effect (store : MemoryPrivateEgressStateStore) (state : MemoryState)
    (operation : Operation) : Effect store state operation (state.next store operation) :=
  (perform_written store state operation).effect

/-- The epochs stay, and every row of the route table takes a step. -/
structure Steps (acknowledged : String × PrivateEgressRouteKey → Prop)
    (before after : MemoryState) : Prop where
  epochs : after.activeEpochs = before.activeEpochs
  rows : ∀ place, RouteStep (acknowledged place) (before.activeEpochs.get? place.1)
    (before.routes.get? place) (after.routes.get? place)

section Steps

variable {acknowledged : String × PrivateEgressRouteKey → Prop}

private theorem Steps.of_routes_eq (epochs : after.activeEpochs = state.activeEpochs)
    (routes : after.routes = state.routes) : Steps acknowledged state after :=
  ⟨epochs, fun _ => routes ▸ .same _⟩

private theorem Steps.setRoute {route} (step : RouteStep (acknowledged (epoch.gatewayId, key))
      (state.activeEpochs.get? epoch.gatewayId) (state.routes.get? (epoch.gatewayId, key))
      (some route)) : Steps acknowledged state (state.setRoute epoch key route) := by
  refine ⟨rfl, fun place => ?_⟩
  unfold MemoryState.setRoute
  by_cases same : place = (epoch.gatewayId, key)
  · subst same
    rw [get?_insert_self]
    exact step
  · rw [get?_insert_ne _ _ same]
    exact .same _

private theorem Steps.sweep (store : MemoryPrivateEgressStateStore) (state : MemoryState)
    (atMs : Int) : Steps acknowledged state (state.sweep store atMs) := by
  refine ⟨rfl, fun place => ?_⟩
  unfold MemoryState.sweep
  rw [get?_filter]
  cases stored : state.routes.get? place with
  | none => exact .same _
  | some route =>
    rw [Option.filter_some]
    cases expired : route.isExpired store.ttlMs atMs with
    | false => exact .same _
    | true =>
      refine .expire ?_
      rw [MemoryRouteRecord.isExpired, Bool.and_eq_true, Bool.not_eq_true'] at expired
      exact expired.1

theorem Effect.steps {store operation} (effect : Effect store state operation after) :
    (∃ epoch atMs, operation = .beginEpoch epoch atMs ∧ after = state.fenced epoch atMs) ∨
      Steps (operation.Acknowledges store state) state after := by
  cases effect with
  | nothing | command | acknowledge => exact .inr (.of_routes_eq rfl rfl)
  | fence begins => exact .inl ⟨_, _, begins, rfl⟩
  | sweep => exact .inr (.sweep store state _)
  | @claim _ _ _ atMs =>
    exact .inr { Steps.sweep _ state atMs with }
  | route moves => exact .inr (.setRoute moves)
  | @drop _ moves =>
    refine .inr ⟨rfl, fun place => ?_⟩
    rw [get?_erase]
    split_ifs with same
    · subst same
      exact moves
    · exact .same _
  | failSource =>
    refine .inr ⟨rfl, fun place => ?_⟩
    rw [get?_mapValues]
    cases state.routes.get? place with
    | none => exact .same _
    | some =>
      rw [Option.map_some]
      split_ifs with failing
      · rw [isFailing, Bool.and_eq_true] at failing
        exact .fail _ failing.2
      · exact .same _
  | append appends _ moves =>
    subst appends
    exact .inr { Steps.setRoute moves with }

end Steps

namespace MemoryState

/-- What holds of every route of a state. -/
def Sound (state : MemoryState) : Prop :=
  ∀ place, RowSound (state.activeEpochs.get? place.1) (state.routes.get? place)

theorem fenced_active (state : MemoryState) (epoch : PrivateEgressGatewayEpoch) (atMs : Int) :
    (state.fenced epoch atMs).activeEpochs =
      state.activeEpochs.insert epoch.gatewayId epoch.instanceId := by
  unfold fenced
  split <;> rfl

variable {place : String × PrivateEgressRouteKey} {route : MemoryRouteRecord}

theorem fenced_routes (sound : state.Sound) (epoch : PrivateEgressGatewayEpoch) (atMs : Int)
    (place) :
    (state.fenced epoch atMs).routes.get? place = (state.routes.get? place).map fun route =>
      if place.1 = epoch.gatewayId ∧ route.epoch ≠ epoch.instanceId ∧ route.isOpen then
        { route.fail atMs with recoveryRequired := true } else route := by
  have current : ∀ route, state.routes.get? place = some route → place.1 = epoch.gatewayId →
      route.isOpen → state.activeEpochs.get? epoch.gatewayId = some route.epoch := by
    intro route stored mine going
    have held := sound _ _ stored
    rw [← mine]
    exact held.current (.inl (held.isOpen_iff.mp going))
  unfold fenced
  cases previous : (state.activeEpochs.get? epoch.gatewayId).filter (· ≠ epoch.instanceId) with
  | none =>
    cases stored : state.routes.get? place with
    | none => rfl
    | some route =>
      refine congrArg _ (if_neg ?_).symm
      rintro ⟨mine, other, going⟩
      rw [current _ stored mine going, Option.filter_some,
        if_pos (decide_eq_true other)] at previous
      cases previous
  | some =>
    obtain ⟨active, other⟩ := Option.filter_eq_some_iff.mp previous
    rw [get?_mapValues]
    refine Option.map_congr fun route stored =>
      if_congr (and_congr_right fun mine => ⟨?_, ?_⟩) rfl rfl
    · rintro ⟨rfl, going⟩
      exact ⟨of_decide_eq_true other, going⟩
    · rintro ⟨-, going⟩
      cases active.symm.trans (current route stored mine going)
      exact ⟨rfl, going⟩

private theorem fenced_sound (sound : state.Sound) (epoch : PrivateEgressGatewayEpoch)
    (atMs : Int) : (state.fenced epoch atMs).Sound := by
  intro _ route found
  rw [fenced_routes sound, Option.map_eq_some_iff] at found
  obtain ⟨before, stored, rfl⟩ := found
  have held := sound _ _ stored
  split_ifs with kept
  · have failed := MemoryRouteRecord.sound_fail none before atMs
    exact { failed with
      recovering := fun _ => ⟨rfl, rfl⟩
      current := fun going => by cases failed.current going }
  · refine { held with current := fun going => ?_ }
    have active := held.current going
    rw [fenced_active, get?_insert]
    split
    · -- an open route that stayed is of the epoch that begins
      rename_i mine
      have opened : before.isOpen := by
        rcases going with going | pending
        · exact held.isOpen_iff.mpr going
        · exact held.isOpen_iff.mpr (held.of_pending pending).1
      by_contra other
      exact kept ⟨mine, fun same => other (same ▸ rfl), opened⟩
    · exact active

private theorem fenced_waits (sound : state.Sound) (epoch : PrivateEgressGatewayEpoch) (atMs : Int)
    (stored : state.routes.get? place = some route) (waits : route.recoveryRequired) :
    (state.fenced epoch atMs).routes.get? place = some route := by
  have held := sound _ _ stored
  rw [fenced_routes sound, stored, Option.map_some, if_neg]
  rintro ⟨-, -, going⟩
  exact held.isOpen_iff.mp going ⟨.failed, (held.recovering waits).1, rfl⟩

private theorem mem_recoveredRoutes {gatewayId key}
    (stored : state.routes.get? (gatewayId, key) = some route) (waits : route.recoveryRequired) :
    ⟨route.epoch, key⟩ ∈ state.recoveredRoutes gatewayId := by
  refine List.mem_map.mpr ⟨((gatewayId, key), route), List.mem_filter.mpr ⟨?_, ?_⟩, rfl⟩
  · exact (mem_rows ..).mpr stored
  · rw [decide_eq_true rfl, waits]
    rfl

theorem next_sound (sound : state.Sound) (operation : Operation) :
    (state.next store operation).Sound := by
  rcases (next_effect _ _ operation).steps with ⟨_, atMs, -, fenced⟩ | steps
  · rw [fenced]
    exact fenced_sound sound _ atMs
  · intro place
    rw [steps.epochs]
    exact (steps.rows place).sound (sound place)

theorem run_sound (store : MemoryPrivateEgressStateStore) (sound : state.Sound)
    (operations : List Operation) :
    (operations.foldl (next store) state).Sound :=
  foldl_induction sound (fun _ operation held => next_sound held operation) operations

theorem default_sound : default.Sound := fun _ _ missing => nomatch missing

private theorem next_waits (sound : state.Sound) {operation place route}
    (stored : state.routes.get? place = some route) (waits : route.recoveryRequired)
    (unacknowledged : ¬ operation.Acknowledges store state place) :
    ∃ later, (state.next store operation).routes.get? place = some later ∧
      later.recoveryRequired ∧ later.epoch = route.epoch := by
  rcases (next_effect _ _ operation).steps with ⟨_, _, -, fenced⟩ | steps
  · rw [fenced]
    exact ⟨route, fenced_waits sound _ _ stored waits, waits, rfl⟩
  · exact (steps.rows place).waits (sound place) stored waits unacknowledged

theorem run_waits (sound : state.Sound) {place route}
    (stored : state.routes.get? place = some route) (waits : route.recoveryRequired)
    (operations : List Operation) (unacknowledged : ∀ step ∈ trace (next store) state operations,
      ¬ step.2.Acknowledges store step.1 place) :
    ∃ later, (operations.foldl (next store) state).routes.get? place = some later ∧
      later.recoveryRequired ∧ later.epoch = route.epoch := by
  induction operations generalizing state route with
  | nil => exact ⟨route, stored, waits, rfl⟩
  | cons operation _ ih =>
    obtain ⟨_, found, still, same⟩ := next_waits sound stored waits
      (unacknowledged (state, operation) List.mem_cons_self)
    obtain ⟨last, held, marked, epoch⟩ := ih (next_sound sound operation) found still
      fun _ member => unacknowledged _ (List.mem_cons_of_mem _ member)
    exact ⟨last, held, marked, epoch.trans same⟩

private theorem settle_dead {α epoch} (refused : state.ensureEpoch epoch = .error .deadEpoch)
    (rest : Unit → Except PrivateEgressError (Locked α)) (answer : α → Answer) :
    answered answer (settle state (state.ensureEpoch epoch >>= rest)) =
      (state, .error .deadEpoch) := by
  rw [refused]
  rfl

/-- Nothing but the beginning of an epoch is done for an epoch that is not active. -/
theorem perform_dead {operation} (guarded : operation.begins = false)
    (dead : state.activeEpochs.get? operation.epoch.gatewayId ≠
      some operation.epoch.instanceId) :
    state.perform store operation = (state, .error .deadEpoch) := by
  have refused : state.ensureEpoch operation.epoch = .error .deadEpoch := if_pos dead
  cases operation with
  | beginEpoch => cases guarded
  | assertEpoch => exact Prod.ext rfl (congrArg (Except.map fun _ => Answer.done) refused)
  | _ => exact settle_dead refused _ _

end MemoryState

/-- In every reachable state the routes are sound, operations of other epochs than the active one
fail and change nothing, every epoch can begin and is then the active one, and a route that waits
for its recovery is reported by every beginning of an epoch until the recovery is acknowledged. -/
theorem store_invariant (store : MemoryPrivateEgressStateStore) (operations : List Operation) :
    let state := operations.foldl (MemoryState.next store) .default
    (∀ gatewayId key route, state.routes.get? (gatewayId, key) = some route →
      (route.tombstonedAtMs.isSome ↔ route.Terminal) ∧
      (route.Terminal → route.pending = none) ∧
      (route.state = none → route.pending.isSome) ∧
      (route.recoveryRequired → route.state = some .failed ∧ route.tombstonedAtMs.isSome) ∧
      (¬ route.Terminal ∨ route.pending.isSome →
        state.activeEpochs.get? gatewayId = some route.epoch)) ∧
    (∀ operation : Operation, operation.begins = false →
      state.activeEpochs.get? operation.epoch.gatewayId ≠ some operation.epoch.instanceId →
        state.perform store operation = (state, .error .deadEpoch)) ∧
    (∀ (epoch : PrivateEgressGatewayEpoch) (atMs : Int),
      (∃ recovered, (state.perform store (.beginEpoch epoch atMs)).2 = .ok (.recovered recovered)) ∧
      (state.next store (.beginEpoch epoch atMs)).activeEpochs.get? epoch.gatewayId =
        some epoch.instanceId) ∧
    (∀ gatewayId key route, state.routes.get? (gatewayId, key) = some route →
      route.recoveryRequired → ∀ later : List Operation,
        (∀ step ∈ trace (MemoryState.next store) state later,
          ¬ step.2.Acknowledges store step.1 (gatewayId, key)) →
        (∃ last, (later.foldl (MemoryState.next store) state).routes.get? (gatewayId, key) =
          some last ∧ last.recoveryRequired) ∧
        ∀ instanceId atMs, ∃ recovered,
          ((later.foldl (MemoryState.next store) state).perform store
            (.beginEpoch ⟨gatewayId, instanceId⟩ atMs)).2 = .ok (.recovered recovered) ∧
          ⟨route.epoch, key⟩ ∈ recovered) := by
  have sound := run_sound store default_sound operations
  refine ⟨fun gatewayId key route stored => ?_, fun _ => perform_dead, fun epoch atMs => ?_, ?_⟩
  · have held := sound (gatewayId, key) _ stored
    exact ⟨held.tombstoned, held.settled, held.claimed, held.recovering, held.current⟩
  · refine ⟨⟨_, rfl⟩, ?_⟩
    show ((_ : MemoryState).fenced epoch atMs).activeEpochs.get? _ = _
    rw [fenced_active, get?_insert_self]
  · intro gatewayId key route stored waits later unacknowledged
    obtain ⟨last, found, still, same⟩ := run_waits sound stored waits _
      unacknowledged
    refine ⟨⟨last, found, still⟩, fun instanceId atMs => ?_⟩
    have kept := fenced_waits (run_sound _ sound later)
      ⟨gatewayId, instanceId⟩ atMs found still
    refine ⟨_, rfl, ?_⟩
    rw [← same]
    exact mem_recoveredRoutes kept still

end Effect

namespace Sample

def store : MemoryPrivateEgressStateStore := ⟨8, 60000⟩

def key : PrivateEgressRouteKey :=
  ⟨⟨⟨151⟩, 9⟩, ⟨"durable-tenant"⟩, ⟨152⟩, ⟨153⟩, 1, ⟨⟨154⟩, 1⟩⟩

def first : PrivateEgressGatewayEpoch := ⟨"gateway", 1⟩

def second : PrivateEgressGatewayEpoch := ⟨"gateway", 2⟩

/-- The route was being prepared when the gateway restarted. -/
def restart : List Operation :=
  [.beginEpoch first 1000, .claimRouteTransition first key 7 none .prepared,
    .beginEpoch second 2000]

/-- A long time passes with a sweep. -/
def quiet : List Operation := [.claimCommand second 8 0 900000]

end Sample

theorem store_invariant_restart : ∃ recovered,
    (((Sample.restart ++ Sample.quiet).foldl (MemoryState.next Sample.store) .default).perform
      Sample.store (.beginEpoch ⟨"gateway", 3⟩ 900001)).2 = .ok (.recovered recovered) ∧
      ⟨1, Sample.key⟩ ∈ recovered := by
  have stored : (Sample.restart.foldl (next Sample.store) .default).routes.get?
      ("gateway", Sample.key) =
        some ⟨1, some .failed, none, 0, some 2000, true⟩ := by decide +kernel
  refine ((store_invariant Sample.store Sample.restart).2.2.2 "gateway" Sample.key _ stored rfl
    Sample.quiet ?_).2 3 900001
  intro _ member
  obtain rfl := List.mem_singleton.mp member
  exact fun ⟨_, impossible, _⟩ => nomatch impossible

/-- The first epoch has been superseded, and begins again. -/
theorem superseded_epoch_begins_again :
    let state := [Operation.beginEpoch Sample.first 1000, .beginEpoch Sample.second 2000].foldl
      (MemoryState.next Sample.store) .default
    state.activeEpochs.get? "gateway" = some 2 ∧
      (state.perform Sample.store (.beginEpoch Sample.first 3000)).2 = .ok (.recovered []) ∧
      (state.perform Sample.store (.beginEpoch Sample.first 3000)).1 ≠ state := by
  decide +kernel

end Bridgefu.PrivateEgress
