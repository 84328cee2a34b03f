/- digest: Rows of the memory store and of the Redis store that correspond, and what keeps them so. -/

import Bridgefu.PrivateEgress.Journal
import Bridgefu.PrivateEgress.Redis
import Bridgefu.Lib.Relational

set_option autoImplicit false

/-! The two stores are run side by side. Their commands and routes correspond row by row, and so do
the events of the active epoch; the Redis store deletes the others when an epoch begins. -/

namespace Bridgefu.PrivateEgress

open Lib CallEngine RedisLibrary MemoryState Table Paired

variable {memory : MemoryState} {key : PrivateEgressRouteKey}

variable {Name : Type}

/-- The stored text denotes the response. -/
structure CommandMatches (memory : MemoryCommandRecord) (redis : RedisCommand) : Prop where
  epoch : redis.epoch = memory.epoch
  digest : redis.digest = memory.digest
  response : redis.responseJson.map (·.value) = memory.response

section Library

variable [RedisLibrary Name]

structure RouteMatches (key : PrivateEgressRouteKey) (memory : MemoryRouteRecord)
    (redis : RedisRoute Name) : Prop where
  epoch : redis.epoch = memory.epoch
  keyJson : redis.keyJson = key
  sourceDigest : redis.sourceDigest = sourceDigest key.authority
  state : redis.state = memory.state
  pendingCommand : redis.pendingCommand = memory.pending.map (·.1)
  pendingNext : redis.pendingNext = memory.pending.map (·.2)
  sequence : redis.nextSequence = memory.nextLifecycleSequence
  tombstoned : redis.tombstonedAtMs.isSome = memory.tombstonedAtMs.isSome
  recovery : redis.recoveryRequired = memory.recoveryRequired

structure LifecycleMatches (memory : MemoryLifecycleRecord) (redis : RedisLifecycle Name) :
    Prop where
  epoch : redis.epoch = memory.epoch
  routeField : redis.routeField = routeField memory.key
  event : redis.eventJson = memory.event
  sequence : redis.sequence = memory.event.sequence
  acked : redis.acked = memory.acked

namespace RouteMatches

variable {route : MemoryRouteRecord} {record : RedisRoute Name}

variable (agree : RouteMatches key route record)
include agree

private theorem unmarked_iff : record.tombstonedAtMs = none ↔ route.tombstonedAtMs = none := by
  rw [← Option.isSome_eq_false_iff.trans Option.isNone_iff_eq_none,
    ← Option.isSome_eq_false_iff.trans Option.isNone_iff_eq_none, agree.tombstoned]

private theorem unclaimed_iff : record.pendingCommand = none ↔ route.pending = none := by
  rw [agree.pendingCommand, Option.map_eq_none_iff]

private theorem isTerminal_iff : record.isTerminal = true ↔ route.Terminal := by
  rw [MemoryRouteRecord.terminal_iff, RedisRoute.isTerminal, agree.state]
  cases route.state with
  | none => simp
  | some state => cases state <;> simp [isTerminal]

private theorem isOpen_eq {active} (sound : route.Sound active) : record.isOpen = route.isOpen := by
  rw [Bool.eq_iff_iff, sound.isOpen_iff, ← agree.isTerminal_iff, RedisRoute.isOpen,
    Bool.or_eq_true, Bool.not_eq_true', Bool.not_eq_true]
  constructor
  · rintro (pending | going)
    · rw [agree.pendingCommand, Option.isSome_map] at pending
      rw [← Bool.not_eq_true, agree.isTerminal_iff]
      exact (sound.of_pending pending).1
    · exact going
  · exact .inr

private theorem fail (atMs nowMs ttl : Int) (recoveryRequired : Bool) :
    RouteMatches key { route.fail atMs with recoveryRequired := recoveryRequired }
      (record.fail nowMs ttl recoveryRequired) :=
  ⟨agree.epoch, agree.keyJson, agree.sourceDigest, rfl, rfl, rfl, agree.sequence, rfl, rfl⟩

private theorem enter (next : PrivateEgressLifecycleState) (atMs nowMs ttl : Int) :
    RouteMatches key (route.enter next atMs) (record.enter next nowMs ttl) := by
  refine ⟨agree.epoch, agree.keyJson, agree.sourceDigest, rfl, agree.pendingCommand,
    agree.pendingNext, agree.sequence, ?_, agree.recovery⟩
  unfold RedisRoute.enter MemoryRouteRecord.enter
  cases next <;> simp [isTerminal, agree.tombstoned]

end RouteMatches

def PrivateEgressLifecycleEvent.Exact (event : PrivateEgressLifecycleEvent) : Prop :=
  event.version < 2 ^ 53 ∧ event.worker.fence < 2 ^ 53 ∧
    event.source.bindingGeneration < 2 ^ 53 ∧ event.target.bindingGeneration < 2 ^ 53 ∧
    event.sequence < 2 ^ 53 ∧ match event.kind with
      | .state _ _ => True
      | .progress statusCode _ => statusCode < 2 ^ 53

private theorem decodedEvent_eq {event} (exact : event.Exact) :
    decodedEvent Name event = event := by
  obtain ⟨version, fence, source, target, sequence, kind⟩ := exact
  obtain ⟨_, _, _, _, _, _, _, eventKind⟩ := event
  unfold decodedEvent
  rw [number_eq _ version, number_eq _ fence, number_eq _ source, number_eq _ target,
    number_eq _ sequence]
  cases eventKind with
  | state => rfl
  | progress =>
    dsimp only at kind ⊢
    rw [number_eq _ kind]

variable {record : RedisRoute Name}

private theorem move_agrees {route} (agree : RouteMatches key route record) {current}
    (reached : route.state = some current) (kind : PrivateEgressLifecycleKind)
    (atMs nowMs ttl : Int) :
    (∃ moved moved', route.move current kind atMs = .ok moved ∧
      RedisGateway.moveRoute record kind nowMs ttl = .ok moved' ∧ RouteMatches key moved moved' ∧
      moved.state.isSome ∧ moved.nextLifecycleSequence = route.nextLifecycleSequence) ∨
    ∃ e f, route.move current kind atMs = .error e ∧
      RedisGateway.moveRoute record kind nowMs ttl = .error f := by
  have state := agree.state.trans reached
  cases kind with
  | state next =>
    have allowed : lifecycleTransitionAllowed current next = true ↔
        ((record.state = some .prepared ∧
            (next = .prepared ∨ next = .active ∨ next = .ended ∨ next = .failed)) ∨
          (record.state = some .active ∧ (next = .active ∨ next = .ended ∨ next = .failed))) := by
      rw [state]
      cases current <;> cases next <;> simp [lifecycleTransitionAllowed]
    unfold MemoryRouteRecord.move RedisGateway.moveRoute
    dsimp only
    by_cases free : route.pending = none
    · have unclaimed := not_not.mpr (agree.unclaimed_iff.mpr free)
      by_cases passes : lifecycleTransitionAllowed current next = true
      · refine .inl ⟨_, _, ?_, ?_, agree.enter next atMs nowMs ttl, rfl, rfl⟩
        · exact bind_reject_neg (by simp [free, passes]) _ _
        · rw [bind_reject_neg unclaimed, bind_reject_neg (not_not.mpr (allowed.mp passes))]
          rfl
      · refine .inr ⟨_, .invalidTransition, bind_reject_pos (.inr passes) _ _, ?_⟩
        rw [bind_reject_neg unclaimed]
        exact bind_reject_pos (mt allowed.mpr passes) _ _
    · refine .inr ⟨_, .invalidTransition,
        bind_reject_pos (.inl (Option.isSome_iff_ne_none.mpr free)) _ _, ?_⟩
      exact bind_reject_pos (mt agree.unclaimed_iff.mp free) _ _
  | progress statusCode =>
    have refused : (current ≠ .prepared ∨
        ¬ ((route.pending.all fun pending => decide (pending.2 = .active)) = true) ∨
        ¬ (100 ≤ statusCode ∧ statusCode ≤ 199)) ↔
        (record.state ≠ some .prepared ∨
          ¬ (record.pendingCommand = none ∨ record.pendingNext = some .active) ∨
          statusCode < 100 ∨ statusCode > 199) := by
      rw [state, agree.pendingCommand, agree.pendingNext]
      cases route.pending <;> simp [imp_iff_not_or]
    by_cases fires : current ≠ .prepared ∨
        ¬ ((route.pending.all fun pending => decide (pending.2 = .active)) = true) ∨
        ¬ (100 ≤ statusCode ∧ statusCode ≤ 199)
    · exact .inr ⟨_, _, bind_reject_pos fires _ _, bind_reject_pos (refused.mp fires) _ _⟩
    · refine .inl ⟨route, { record with expiresAtMs := nowMs + ttl }, ?_, ?_, ?_, ?_, rfl⟩
      · exact bind_reject_neg fires _ _
      · exact bind_reject_neg (mt refused.mpr fires) _ _
      · exact { agree with }
      · rw [reached]
        rfl

omit [RedisLibrary Name] in
private theorem moveRoute_unbegun (unbegun : record.state = none)
    (kind : PrivateEgressLifecycleKind) (nowMs ttl : Int) :
    RedisGateway.moveRoute record kind nowMs ttl = .error .invalidTransition := by
  have away : ∀ state, record.state ≠ some state := fun state equal => by
    rw [unbegun] at equal
    cases equal
  unfold RedisGateway.moveRoute
  cases kind with
  | progress => exact bind_reject_pos (.inl (away _)) _ _
  | state =>
    dsimp only
    by_cases free : record.pendingCommand = none
    · rw [bind_reject_neg (not_not.mpr free)]
      refine bind_reject_pos ?_ _ _
      rintro (⟨prepared, -⟩ | ⟨activated, -⟩)
      · exact away _ prepared
      · exact away _ activated
    · exact bind_reject_pos free _ _

private theorem fenced_rows_agree {epoch : PrivateEgressGatewayEpoch} {route active}
    (agree : RouteMatches key route record)
    (held : route.Sound active) (atMs nowMs ttl : Int) :
    RouteMatches key
      (if epoch.gatewayId = epoch.gatewayId ∧ route.epoch ≠ epoch.instanceId ∧ route.isOpen then
        { route.fail atMs with recoveryRequired := true } else route)
      (if record.epoch ≠ epoch.instanceId ∧ (record.recoveryRequired ∨ record.isOpen) then
        record.fail nowMs ttl true else record) := by
  rw [agree.epoch, agree.recovery, agree.isOpen_eq held]
  by_cases other : route.epoch ≠ epoch.instanceId
  · by_cases going : route.isOpen = true
    · rw [if_pos ⟨rfl, other, going⟩, if_pos ⟨other, .inr going⟩]
      exact agree.fail _ _ ttl true
    · rw [if_neg fun both => going both.2.2]
      by_cases waits : route.recoveryRequired = true
      · rw [if_pos ⟨other, .inl waits⟩]
        obtain ⟨failed, marked⟩ := held.recovering waits
        have free := held.settled ⟨.failed, failed, rfl⟩
        refine ⟨agree.epoch, agree.keyJson, agree.sourceDigest, failed.symm, ?_, ?_, agree.sequence,
          marked.symm, waits.symm⟩
        · rw [free]
          rfl
        · rw [free]
          rfl
      · rw [if_neg fun both => both.2.elim waits going]
        exact agree
  · rw [if_neg fun both => other both.2.1, if_neg fun both => other both.1]
    exact agree

variable [DecidableEq Name]

def MemoryState.currentEvent (state : MemoryState) (gatewayId : String) (eventId : Uuid) :
    Option MemoryLifecycleRecord :=
  (state.lifecycle.get? (gatewayId, eventId)).filter fun record =>
    decide (state.activeEpochs.get? gatewayId = some record.epoch)

/-- The keys of a gateway hold what the memory store holds for it. -/
structure GatewayMatches (gatewayId : String) (memory : MemoryState)
    (gateway : RedisGateway Name) : Prop where
  epoch : gateway.epoch = memory.activeEpochs.get? gatewayId
  commands : ∀ commandId, Option.Rel CommandMatches
    (memory.commands.get? (gatewayId, commandId)) (gateway.commands.get? commandId)
  routes : ∀ key, Option.Rel (RouteMatches key) (memory.routes.get? (gatewayId, key))
    (gateway.routes.get? (routeField key))
  fields : ∀ field record, gateway.routes.get? field = some record →
    field = routeField record.keyJson
  events : ∀ eventId, Option.Rel LifecycleMatches (memory.currentEvent gatewayId eventId)
    (gateway.lifecycle.get? eventId)
  /-- Commands are of the active epoch. -/
  current : ∀ commandId record, memory.commands.get? (gatewayId, commandId) = some record →
    memory.activeEpochs.get? gatewayId = some record.epoch
  /-- Events have been numbered by their route. -/
  journal : ∀ eventId record, memory.lifecycle.get? (gatewayId, eventId) = some record →
    record.event.eventId = eventId ∧ ∃ route, memory.routes.get? (gatewayId, record.key) =
      some route ∧ route.state.isSome ∧ record.event.sequence ≤ route.nextLifecycleSequence
  numbered : ∀ first second record other,
    memory.lifecycle.get? (gatewayId, first) = some record →
    memory.lifecycle.get? (gatewayId, second) = some other → record.key = other.key →
    record.event.sequence = other.event.sequence → first = second

namespace GatewayMatches

variable {gatewayId : String} {gateway : RedisGateway Name}

private theorem setCommand (held : GatewayMatches gatewayId memory gateway) {commandId}
    {record stored} (agree : CommandMatches record stored)
    (current : memory.activeEpochs.get? gatewayId = some record.epoch) :
    GatewayMatches gatewayId { memory with
        commands := memory.commands.insert (gatewayId, commandId) record }
      { gateway with commands := gateway.commands.insert commandId stored } := by
  refine { held with commands := fun other => ?_, current := fun other found => ?_ }
  · by_cases same : other = commandId
    · subst same
      rw [get?_insert_self, get?_insert_self]
      exact .some agree
    · rw [get?_insert_ne _ _ (fun equal => same (Prod.mk.inj equal).2),
        get?_insert_ne _ _ same]
      exact held.commands other
  · rw [get?_insert]
    split
    · rintro ⟨⟩
      exact current
    · exact held.current _ found

private theorem setRoute {epoch} (held : GatewayMatches epoch.gatewayId memory gateway)
    {key route stored} (agree : RouteMatches key route stored)
    (grows : ∀ old, memory.routes.get? (epoch.gatewayId, key) = some old → old.state.isSome →
      route.state.isSome ∧ old.nextLifecycleSequence ≤ route.nextLifecycleSequence) :
    GatewayMatches epoch.gatewayId (memory.setRoute epoch key route)
      (gateway.setRoute (routeField key) stored) := by
  unfold MemoryState.setRoute RedisGateway.setRoute
  refine { held with
    routes := fun other => ?_, fields := fun _ record found => ?_,
    journal := fun _ record found => ?_ }
  · by_cases same : other = key
    · subst same
      rw [get?_insert_self, get?_insert_self]
      exact .some agree
    · rw [get?_insert_ne _ _ (fun equal => same (Prod.mk.inj equal).2),
        get?_insert_ne _ _
          (fun equal => same (routeField_injective equal))]
      exact held.routes other
  · rcases get?_insert_some found with ⟨same, rfl⟩ | ⟨-, found⟩
    · rw [agree.keyJson]
      exact same
    · exact held.fields _ _ found
  · obtain ⟨named, old, before, begun, small⟩ := held.journal _ _ found
    refine ⟨named, ?_⟩
    by_cases same : record.key = key
    · rw [same] at before
      obtain ⟨still, more⟩ := grows old before begun
      rw [same]
      exact ⟨route, get?_insert_self .., still, Nat.le_trans small more⟩
    · rw [get?_insert_ne _ _ (fun equal => same (Prod.mk.inj equal).2)]
      exact ⟨old, before, begun, small⟩

variable (held : GatewayMatches gatewayId memory gateway)
include held

private theorem eraseRoute {key route} (stored : memory.routes.get? (gatewayId, key) = some route)
    (fresh : route.state = none) :
    GatewayMatches gatewayId { memory with routes := memory.routes.erase (gatewayId, key) }
      { gateway with routes := gateway.routes.erase (routeField key) } := by
  refine { held with
    routes := fun other => ?_, fields := fun _ record found => ?_,
    journal := fun _ record found => ?_ }
  · rw [get?_erase, get?_erase]
    by_cases same : other = key
    · subst same
      rw [if_pos rfl, if_pos rfl]
      exact .none
    · rw [if_neg fun equal => same (Prod.mk.inj equal).2,
        if_neg fun equal => same (routeField_injective equal)]
      exact held.routes other
  · rw [get?_erase] at found
    split_ifs at found
    exact held.fields _ _ found
  · obtain ⟨named, old, before, begun, small⟩ := held.journal _ _ found
    refine ⟨named, old, ?_, begun, small⟩
    rw [get?_erase, if_neg]
    · exact before
    · intro equal
      rw [equal, stored] at before
      cases before
      rw [fresh] at begun
      cases begun

private theorem mapRoutes {onMemory} {onRedis}
    (agree : ∀ key route record, memory.routes.get? (gatewayId, key) = some route →
      RouteMatches key route record →
        RouteMatches key (onMemory (gatewayId, key) route)
          (onRedis (routeField key) record))
    (grows : ∀ place route, route.state.isSome → (onMemory place route).state.isSome ∧
      route.nextLifecycleSequence ≤ (onMemory place route).nextLifecycleSequence)
    (named : ∀ field record, (onRedis field record).keyJson = record.keyJson) :
    GatewayMatches gatewayId { memory with routes := memory.routes.mapValues onMemory }
      { gateway with routes := gateway.routes.mapValues onRedis } := by
  refine { held with
    routes := fun key => ?_, fields := fun _ record found => ?_,
    journal := fun _ record found => ?_ }
  · rw [get?_mapValues, get?_mapValues]
    rcases rel_cases (held.routes key) with
      ⟨absent, missing⟩ | ⟨route, record, stored, found, rows⟩
    · rw [absent, missing]
      exact .none
    · rw [stored, found]
      exact .some (agree key _ _ stored rows)
  · rw [get?_mapValues, Option.map_eq_some_iff] at found
    obtain ⟨_, stored, rfl⟩ := found
    rw [named]
    exact held.fields _ _ stored
  · obtain ⟨same, route, stored, begun, small⟩ := held.journal _ _ found
    obtain ⟨still, more⟩ := grows (gatewayId, record.key) _ begun
    refine ⟨same, _, ?_, still, Nat.le_trans small more⟩
    rw [get?_mapValues, stored]
    rfl

private theorem mem_routes_iff {ρ} {onMemory : PrivateEgressRouteKey → MemoryRouteRecord → Bool}
    {onRedis} (left : PrivateEgressRouteKey → MemoryRouteRecord → ρ) (right : RedisRoute Name → ρ)
    (agree : ∀ key route record, memory.routes.get? (gatewayId, key) = some route →
      RouteMatches key route record →
        onMemory key route = onRedis record ∧ left key route = right record) (item : ρ) :
    (item ∈ (memory.routes.rows.filter fun row =>
        decide (row.1.1 = gatewayId) && onMemory row.1.2 row.2).map fun row =>
      left row.1.2 row.2) ↔ item ∈ (gateway.routes.values.filter onRedis).map right := by
  simp only [List.mem_map, List.mem_filter, Bool.and_eq_true, decide_eq_true_eq, mem_values]
  constructor
  · rintro ⟨⟨⟨_, key⟩, route⟩, ⟨member, rfl, chosen⟩, rfl⟩
    have stored := get?_of_mem member
    have rel := held.routes key
    rw [stored] at rel
    obtain ⟨record, found, rows⟩ := rel_some rel
    obtain ⟨test, value⟩ := agree key _ _ stored rows
    exact ⟨record, ⟨⟨_, found⟩, test ▸ chosen⟩, value.symm⟩
  · rintro ⟨record, ⟨⟨_, found⟩, chosen⟩, rfl⟩
    have rel := held.routes record.keyJson
    rw [← held.fields _ _ found, found] at rel
    obtain ⟨route, stored, rows⟩ := some_rel rel
    obtain ⟨test, value⟩ := agree record.keyJson _ _ stored rows
    exact ⟨((gatewayId, record.keyJson), route),
      ⟨(mem_rows ..).mpr stored, rfl, test ▸ chosen⟩, value⟩

private theorem setEvent {eventId record stored} (agree : LifecycleMatches record stored)
    (current : memory.activeEpochs.get? gatewayId = some record.epoch)
    (journal : record.event.eventId = eventId ∧ ∃ route, memory.routes.get?
      (gatewayId, record.key) = some route ∧ route.state.isSome ∧
        record.event.sequence ≤ route.nextLifecycleSequence)
    (free : ∀ other event, other ≠ eventId → memory.lifecycle.get? (gatewayId, other) = some event →
      event.key = record.key → event.event.sequence ≠ record.event.sequence) :
    GatewayMatches gatewayId { memory with
        lifecycle := memory.lifecycle.insert (gatewayId, eventId) record }
      { gateway with lifecycle := gateway.lifecycle.insert eventId stored } := by
  refine { held with
    events := fun other => ?_, journal := fun other _ present => ?_,
    numbered := fun first second one two here there key sequence => ?_ }
  · unfold currentEvent
    by_cases same : other = eventId
    · subst same
      rw [get?_insert_self, get?_insert_self, Option.filter_some,
        if_pos (decide_eq_true current)]
      exact .some agree
    · rw [get?_insert_ne _ _ (fun equal => same (Prod.mk.inj equal).2),
        get?_insert_ne _ _ same]
      exact held.events other
  · rcases get?_insert_some present with ⟨same, rfl⟩ | ⟨-, present⟩
    · cases same
      exact journal
    · exact held.journal _ _ present
  · rw [get?_insert] at here there
    split at here <;> split at there
    · rename_i equal equal'
      exact (Prod.mk.inj equal).2.trans (Prod.mk.inj equal').2.symm
    · rename_i equal different
      cases here
      have other : second ≠ eventId := fun same => different (same ▸ rfl)
      exact absurd sequence.symm (free _ two other there key.symm)
    · rename_i different equal
      cases there
      have other : first ≠ eventId := fun same => different (same ▸ rfl)
      exact absurd sequence (free _ one other here key)
    · exact held.numbered _ _ one two here there key sequence

end GatewayMatches

/-- No record of the gateway has outlived its retention. -/
structure RedisGateway.Kept (gateway : RedisGateway Name) (nowMs : Int) : Prop where
  commands : ∀ commandId record, gateway.commands.get? commandId = some record →
    record.isExpired nowMs = false
  routes : ∀ field record, gateway.routes.get? field = some record →
    record.recoveryRequired = false → record.tombstonedAtMs.isSome → nowMs < record.expiresAtMs
  lifecycle : ∀ eventId record, gateway.lifecycle.get? eventId = some record →
    record.isExpired nowMs = false

omit [RedisLibrary Name] in
private theorem RedisGateway.Kept.late {gateway : RedisGateway Name} {nowMs}
    (kept : gateway.Kept nowMs) {field record} (stored : gateway.routes.get? field = some record) :
    (!record.recoveryRequired && record.tombstonedAtMs.isSome &&
      decide (record.expiresAtMs ≤ nowMs)) = false := by
  have late := kept.routes _ _ stored
  cases waits : record.recoveryRequired with
  | true => rfl
  | false =>
    cases marked : record.tombstonedAtMs.isSome with
    | false => rfl
    | true => exact decide_eq_false (Int.not_le.mpr (late waits marked))

structure RedisGateway.Room (store : RedisPrivateEgressStateStore) (gateway : RedisGateway Name) :
    Prop where
  commands : gateway.commands.rows.length < store.maxEntries
  routes : gateway.routes.rows.length < store.maxEntries
  lifecycle : gateway.lifecycle.rows.length < store.maxEntries

structure MemoryState.Room (store : MemoryPrivateEgressStateStore) (state : MemoryState) :
    Prop where
  commands : state.commands.rows.length < store.maxEntries
  routes : state.routes.rows.length < store.maxEntries
  lifecycle : state.lifecycle.rows.length < store.maxEntries

section Operations

variable {epoch : PrivateEgressGatewayEpoch} {gateway : RedisGateway Name}
  {memoryStore : MemoryPrivateEgressStateStore} {redisStore : RedisPrivateEgressStateStore}
  {α : Type} {same : α → α → Prop} {nowMs : Int}

/-- What an operation of the memory store and its script do for a gateway. -/
abbrev Pairs (gatewayId : String) (same : α → α → Prop) (left : Locked α)
    (right : Scripted Name α) : Prop :=
  Paired (GatewayMatches gatewayId) same left right

section

variable (held : GatewayMatches epoch.gatewayId memory gateway)
include held

private theorem pairs_live {left} {right}
    (next : memory.activeEpochs.get? epoch.gatewayId = some epoch.instanceId →
      Pairs epoch.gatewayId same (settle memory (left ())) (settle gateway (right ()))) :
    Pairs epoch.gatewayId same (settle memory (memory.ensureEpoch epoch >>= left))
      (settle gateway (gateway.ensureEpoch epoch.instanceId >>= right)) := by
  refine check ?_ held fun live => next (not_not.mp live)
  rw [held.epoch]

theorem assertEpoch_pairs : Pairs epoch.gatewayId Eq (memory.assertEpoch epoch)
      (gateway.assertEpochScript epoch.instanceId) := by
  unfold assertEpoch RedisGateway.assertEpochScript ensureEpoch
    RedisGateway.ensureEpoch
  rw [held.epoch]
  refine ⟨held, ?_⟩
  by_cases live : memory.activeEpochs.get? epoch.gatewayId = some epoch.instanceId
  · exact .inl ⟨(), (), if_neg (not_not.mpr live), if_neg (not_not.mpr live), rfl⟩
  · exact .inr ⟨_, _, if_pos live, if_pos live⟩

theorem completeRouteRecovery_pairs (key : PrivateEgressRouteKey) :
    Pairs epoch.gatewayId Eq (memory.completeRouteRecovery epoch key)
      (gateway.completeRecoveryScript redisStore epoch.instanceId (routeField key)
        nowMs) := by
  refine pairs_live held fun _ => lookup (held.routes key) held fun _ _ stored _ agree =>
    check ?_ held fun _ => done (held.setRoute ?_ ?_) rfl
  · rw [agree.recovery, agree.state, agree.unmarked_iff, Option.isNone_iff_eq_none]
  · exact { agree with recovery := rfl }
  · intro _ before begun
    cases stored.symm.trans before
    exact ⟨begun, Nat.le_refl _⟩

theorem claimCommand_pairs {atMs} (swept : memory.sweep memoryStore atMs = memory)
    (kept : gateway.Kept nowMs) (memoryRoom : memory.Room memoryStore)
    (redisRoom : gateway.Room redisStore) (commandId : Uuid) (digest : Nat) :
    Pairs epoch.gatewayId Eq (memory.claimCommand memoryStore epoch commandId digest atMs)
      (gateway.claimCommandScript redisStore epoch.instanceId commandId digest nowMs) := by
  refine pairs_live held fun active => ?_
  have nothing : gateway.commands.filter (fun _ record => !record.isExpired nowMs) =
      gateway.commands := filter_eq_self _ fun commandId record stored => by
    rw [kept.commands _ _ stored]
    rfl
  dsimp only
  rw [swept, nothing]
  rcases rel_cases (held.commands commandId) with
    ⟨absent, missing⟩ | ⟨command, record, stored, found, agree⟩
  · rw [absent, missing]
    rw [if_neg (Nat.not_le.mpr memoryRoom.commands), if_neg (Nat.not_le.mpr redisRoom.commands)]
    exact done (held.setCommand ⟨rfl, rfl, rfl⟩ active) rfl
  · rw [stored, found]
    rw [settle_ite, settle_ite, agree.digest]
    refine guard .rfl held _ _ fun _ => ?_
    have response := agree.response
    cases text : record.responseJson with
    | none =>
      rw [text] at response
      rw [← response]
      exact done held rfl
    | some =>
      rw [text] at response
      rw [← response]
      exact done held rfl

end

/-- The completion gets as far as the stored text, and repeats its value with another text. -/
def Rewords (gateway : RedisGateway Name) (epoch commandId : Uuid) (digest : Nat)
    (response : PrivateEgressResponse) : Prop :=
  gateway.epoch = some epoch ∧ ∃ record text, gateway.commands.get? commandId = some record ∧
    record.epoch = epoch ∧ record.digest = digest ∧ record.responseJson = some text ∧
    text.value = response ∧ text ≠ responseText response

section

variable (held : GatewayMatches epoch.gatewayId memory gateway)
include held

theorem completeCommand_pairs {commandId digest response}
    (faithful : ¬ Rewords gateway epoch.instanceId commandId digest response) (atMs : Int) :
    Pairs epoch.gatewayId Eq (memory.completeCommand epoch commandId digest response atMs)
      (gateway.completeCommandScript redisStore epoch.instanceId commandId digest
        (responseText response) nowMs) := by
  refine pairs_live held fun live => ?_
  refine lookup (held.commands commandId) held fun command record stored found agree =>
    check (by rw [agree.epoch, agree.digest]) held fun matching => ?_
  obtain ⟨mine, same⟩ := not_or.mp matching
  have denoted := agree.response
  cases text : record.responseJson with
  | none =>
    rw [text] at denoted
    rw [← denoted]
    refine done (held.setCommand ?_ ?_) rfl
    · exact { agree with response := rfl }
    · exact held.current _ command stored
  | some existing =>
    rw [text] at denoted
    rw [← denoted]
    refine check (not_congr ⟨fun equal => ?_, fun equal => ?_⟩) held fun _ => done held rfl
    · by_contra different
      exact faithful ⟨held.epoch.trans live, record, existing, found,
        agree.epoch.trans (not_not.mp mine), agree.digest.trans (not_not.mp same), text, equal,
        different⟩
    · rw [equal]
      rfl

theorem claimRouteTransition_pairs (sound : memory.Sound) (kept : gateway.Kept nowMs)
    (memoryRoom : memory.Room memoryStore) (redisRoom : gateway.Room redisStore)
    (key : PrivateEgressRouteKey) (commandId : Uuid) (expected : Option PrivateEgressLifecycleState)
    (next : PrivateEgressLifecycleState) : Pairs epoch.gatewayId Eq
      (memory.claimRouteTransition memoryStore epoch key commandId expected next)
      (gateway.claimRouteScript redisStore epoch.instanceId (routeField key) commandId
        expected next key (sourceDigest key.authority) nowMs) := by
  refine pairs_live held fun _ => ?_
  have nothing : (gateway.routes.filter fun _ record =>
      !(!record.recoveryRequired && record.tombstonedAtMs.isSome &&
        decide (record.expiresAtMs ≤ nowMs))) = gateway.routes :=
    filter_eq_self _ fun _ record stored => by
      rw [kept.late stored]
      rfl
  dsimp only
  rw [nothing]
  rcases rel_cases (held.routes key) with ⟨absent, missing⟩ | ⟨_, record, stored, found, agree⟩
  · rw [absent, missing]
    rw [settle_reject, settle_reject, settle_ite, if_neg (Nat.not_le.mpr memoryRoom.routes),
      if_neg (Nat.not_le.mpr redisRoom.routes)]
    refine guard .rfl held _ _ fun _ => done (held.setRoute ?_ fun old before => ?_) rfl
    · exact ⟨rfl, rfl, rfl, rfl, rfl, rfl, rfl, rfl, rfl⟩
    · cases absent.symm.trans before
  · rw [stored, found]
    rw [settle_reject, settle_ite]
    refine guard ?_ held _ _ fun _ => done (held.setRoute ?_ ?_) rfl
    · rw [agree.epoch, agree.state, agree.recovery, ne_eq, ne_eq, ne_eq, ne_eq,
        agree.unclaimed_iff, agree.unmarked_iff]
      have waits := (sound (epoch.gatewayId, key) _ stored).recovering
      constructor
      · intro refused
        by_contra passed
        simp only [not_or, not_not] at passed
        exact refused ⟨passed.1, passed.2.1, passed.2.2.1, passed.2.2.2.1⟩
      · rintro refused ⟨mine, reached, free, unmarked⟩
        rcases refused with other | other | other | other | other
        · exact other mine
        · exact other reached
        · exact other free
        · exact other unmarked
        · have marked := (waits other).2
          rw [unmarked] at marked
          cases marked
    · exact { agree with pendingCommand := rfl, pendingNext := rfl }
    · intro old before begun
      cases stored.symm.trans before
      exact ⟨begun, Nat.le_refl _⟩

theorem completeRouteTransition_pairs (key : PrivateEgressRouteKey) (commandId : Uuid)
    (next : PrivateEgressLifecycleState) (atMs : Int) :
    Pairs epoch.gatewayId Eq (memory.completeRouteTransition epoch key commandId next atMs)
      (gateway.completeRouteScript redisStore epoch.instanceId (routeField key)
        commandId next nowMs) := by
  refine pairs_live held fun _ => lookup (held.routes key) held fun route record stored _ agree =>
    check ?_ held fun _ => done (held.setRoute ?_ ?_) rfl
  · rw [agree.epoch, agree.pendingCommand, agree.pendingNext]
    cases route.pending with
    | none => simp
    | some => simp [Prod.ext_iff, imp_iff_not_or]
  · have released : RouteMatches key { route with pending := none }
        { record with pendingCommand := none, pendingNext := none } :=
      { agree with pendingCommand := rfl, pendingNext := rfl }
    exact released.enter _ _ _ redisStore.entryTtlMs
  · intro _ before _
    cases stored.symm.trans before
    exact ⟨rfl, Nat.le_refl _⟩

theorem abortRouteTransition_pairs (key : PrivateEgressRouteKey) (commandId : Uuid) :
    Pairs epoch.gatewayId Eq (memory.abortRouteTransition epoch key commandId)
      (gateway.abortRouteScript redisStore epoch.instanceId (routeField key) commandId
        nowMs) := by
  refine pairs_live held fun _ => lookup (held.routes key) held fun route _ stored _ agree =>
    check ?_ held fun _ => ?_
  · rw [agree.epoch, agree.pendingCommand]
    cases route.pending <;> simp
  · cases state : route.state with
    | none =>
      rw [if_pos (agree.state.trans state)]
      exact done (held.eraseRoute stored state) rfl
    | some _ =>
      rw [
        if_neg fun missing => Option.some_ne_none _ (state.symm.trans (agree.state.symm.trans missing))]
      refine done (held.setRoute ?_ fun _ before _ => ?_) rfl
      · exact { agree with
          state := agree.state.trans state, pendingCommand := rfl, pendingNext := rfl }
      · cases stored.symm.trans before
        exact ⟨rfl, Nat.le_refl _⟩

theorem failSource_pairs (sound : memory.Sound) (authority : PrivateEgressRouteAuthority)
    (atMs : Int) : Pairs epoch.gatewayId (fun left right => ∀ key, key ∈ left ↔ key ∈ right)
      (memory.failSource epoch authority atMs)
      (gateway.failSourceScript redisStore epoch.instanceId (sourceDigest authority)
        nowMs) := by
  refine pairs_live held fun _ => ?_
  have chosen : ∀ key route (record : RedisRoute Name),
      memory.routes.get? (epoch.gatewayId, key) = some route → RouteMatches key route record →
        isFailing epoch authority (epoch.gatewayId, key) route =
          RedisGateway.isFailing epoch.instanceId (sourceDigest authority) record := by
    intro key route record stored agree
    have digest : key.belongsTo authority = decide ((sourceDigest key.authority :
        Name) = sourceDigest authority) := by
      rw [Bool.eq_iff_iff, PrivateEgressRouteKey.belongsTo_iff, decide_eq_true_eq,
        sourceDigest_injective.eq_iff]
    unfold isFailing RedisGateway.isFailing
    rw [agree.isOpen_eq (sound _ _ stored), agree.epoch, agree.sourceDigest, digest,
      decide_eq_true (rfl : epoch.gatewayId = epoch.gatewayId), Bool.true_and]
  refine done (held.mapRoutes ?_ ?_ ?_) fun key => ?_
  · intro key route record stored agree
    rw [← chosen key _ _ stored agree]
    split_ifs with failing
    · rw [isFailing, Bool.and_eq_true] at failing
      have quiet := (sound _ _ stored).quiet failing.2
      have failed : route.fail atMs = { route.fail atMs with recoveryRequired := false } := by
        rw [← quiet]
        rfl
      rw [failed]
      exact agree.fail _ _ redisStore.entryTtlMs false
    · exact agree
  · intro _ route begun
    split
    · exact ⟨rfl, Nat.le_refl _⟩
    · exact ⟨begun, Nat.le_refl _⟩
  · intro _ record
    split <;> rfl
  · have listed := held.mem_routes_iff (fun key _ => key) (·.keyJson)
      (fun key route record stored agree =>
        ⟨chosen key _ _ stored agree, agree.keyJson.symm⟩) key
    refine trans ?_ listed
    have absorbed : ∀ row : (String × PrivateEgressRouteKey) × MemoryRouteRecord,
        isFailing epoch authority row.1 row.2 =
          (decide (row.1.1 = epoch.gatewayId) &&
            isFailing epoch authority (epoch.gatewayId, row.1.2) row.2) := by
      intro row
      unfold isFailing
      by_cases mine : row.1.1 = epoch.gatewayId <;> simp [mine]
    simp only [← absorbed]

end

theorem appendLifecycle_pairs (held : GatewayMatches epoch.gatewayId memory gateway)
    (kept : gateway.Kept nowMs) (memoryRoom : memory.Room memoryStore)
    (redisRoom : gateway.Room redisStore) {event}
    (owned : event.isFreshOf key = true) (version : event.version = 1) (exact : event.Exact)
    (unused : memory.lifecycle.get? (epoch.gatewayId, event.eventId) = none)
    (counted : ∀ route, memory.routes.get? (epoch.gatewayId, key) = some route →
      route.nextLifecycleSequence + 1 < 2 ^ 53) (atMs : Int) :
    Pairs epoch.gatewayId Eq (memory.appendLifecycle memoryStore epoch key event atMs)
      (gateway.appendLifecycleScript redisStore epoch.instanceId (routeField key)
        event nowMs) := by
  refine pairs_live held fun active => ?_
  have nothing : gateway.lifecycle.filter (fun _ record => !record.isExpired nowMs) =
      gateway.lifecycle := filter_eq_self _ fun eventId record stored => by
    rw [kept.lifecycle _ _ stored]
    rfl
  have missing : gateway.lifecycle.get? event.eventId = none := by
    have rel := held.events event.eventId
    rw [currentEvent, unused] at rel
    exact rel_none rel
  have owned' : ¬ event.isFreshOf key = false := by
    rw [owned]
    exact Bool.noConfusion
  have unjournaled : memory.lifecycle.contains (epoch.gatewayId, event.eventId) = false := by
    rw [contains, unused]
    rfl
  have unwritten : gateway.lifecycle.contains event.eventId = false := by
    rw [contains, missing]
    rfl
  rw [nothing, settle_pure, settle_reject, if_neg owned', settle_reject,
    if_neg (Bool.not_eq_true _ ▸ unjournaled), settle_reject,
    if_neg (Nat.not_le.mpr memoryRoom.lifecycle), settle_reject,
    if_neg (Bool.not_eq_true _ ▸ unwritten), settle_reject,
    if_neg (Nat.not_le.mpr redisRoom.lifecycle)]
  refine lookup (held.routes key) held fun route record stored _ agree => check ?_ held fun _ => ?_
  · rw [agree.epoch, agree.recovery, agree.tombstoned]
  · have versioned : ¬ (number Name event.version ≠ 1 ∨
        (decodedEvent Name event).version ≠ 1) := by
      rw [decodedEvent_eq exact, number_eq _ exact.1, version]
      decide
    rw [bind_reject_neg versioned, decodedEvent_eq exact]
    cases reached : route.state with
    | none =>
      rw [moveRoute_unbegun (agree.state.trans reached)]
      exact refused held _ _
    | some =>
      rw [settle_orFail_some]
      rcases move_agrees agree reached event.kind _ _ redisStore.entryTtlMs with
        ⟨moved, moved', moves, moves', rows, begun, same⟩ | ⟨e, f, fails, fails'⟩
      · have small := counted _ stored
        have sequence : moved'.nextSequence + 1 = moved.nextLifecycleSequence + 1 := by
          rw [rows.sequence]
        have bounded : ¬ u64Max < moved.nextLifecycleSequence + 1 := by
          rw [u64Max]
          omega
        rw [moves, moves', settle_ok, settle_ok, if_neg bounded, sequence,
          number_eq _ (same ▸ small)]
        refine done ?_ rfl
        have routed : GatewayMatches epoch.gatewayId
            (memory.setRoute epoch key
              { moved with nextLifecycleSequence := moved.nextLifecycleSequence + 1 })
            (gateway.setRoute (routeField key)
              { moved' with nextSequence := moved.nextLifecycleSequence + 1 }) :=
          held.setRoute { rows with sequence := rfl } fun _ before _ => by
            cases stored.symm.trans before
            exact ⟨begun, same ▸ Nat.le_succ _⟩
        refine routed.setEvent ⟨rfl, rfl, rfl, rfl, rfl⟩ active ?_ ?_
        · exact ⟨rfl, _, get?_insert_self .., begun, Nat.le_refl _⟩
        · -- the events of the route have smaller numbers
          intro _ _ _ there mine equal
          obtain ⟨-, before, known, -, smaller⟩ := held.journal _ _ there
          dsimp only at mine equal
          rw [mine, stored] at known
          cases known
          omega
      · rw [fails, fails']
        exact refused held _ _

theorem ackLifecycle_pairs (held : GatewayMatches epoch.gatewayId memory gateway)
    (key : PrivateEgressRouteKey) (eventId : Uuid) {sequence} (exact : sequence < 2 ^ 53) :
    Pairs epoch.gatewayId Eq (memory.ackLifecycle epoch key eventId sequence)
      (gateway.ackLifecycleScript redisStore epoch.instanceId (routeField key) eventId
        sequence nowMs) := by
  refine pairs_live held fun active => ?_
  have rel := held.events eventId
  unfold currentEvent at rel
  cases stored : memory.lifecycle.get? (epoch.gatewayId, eventId) with
  | none =>
    rw [stored] at rel
    rw [rel_none rel]
    exact refused held _ _
  | some record =>
    rw [stored, Option.filter_some, active] at rel
    rw [settle_orFail_some, settle_reject]
    by_cases mine : record.epoch = epoch.instanceId
    · rw [mine, if_pos (decide_eq_true rfl)] at rel
      obtain ⟨_, present, agree⟩ := rel_some rel
      rw [present, settle_orFail_some, settle_reject]
      refine guard ?_ held _ _ fun _ => done (held.setEvent ?_ ?_ ?_ ?_) rfl
      · rw [agree.epoch, agree.routeField, agree.sequence, number_eq _ exact,
          ne_eq, ne_eq, ne_eq, ne_eq, routeField_injective.eq_iff]
      · exact { agree with acked := rfl }
      · exact active.trans (congrArg _ mine.symm)
      · exact held.journal _ record stored
      · intro _ _ different there key sequence
        exact different (held.numbered _ _ _ _ there stored key sequence)
    · rw [if_neg (by
        rw [decide_eq_true_eq, Option.some_inj]
        exact fun same => mine same.symm)] at rel
      rw [if_pos (.inl mine), rel_none rel]
      exact refused held _ _

private theorem sorted_eq {first second : List PrivateEgressLifecycleEvent}
    (distinct : first.Nodup) (distinct' : second.Nodup) (same : ∀ item, item ∈ first ↔ item ∈ second)
    (ranked : ∀ item ∈ first, ∀ other ∈ first, item.sequence = other.sequence → item = other) :
    first.mergeSort (fun item other => item.sequence ≤ other.sequence) =
      second.mergeSort fun item other => item.sequence ≤ other.sequence := by
  have perm := (List.perm_ext_iff_of_nodup distinct distinct').mpr same
  refine List.Perm.eq_of_pairwise ?_ (pairwise_sequence first) (pairwise_sequence second)
    ((List.mergeSort_perm _ _).trans (perm.trans (List.mergeSort_perm _ _).symm))
  intro _ other member member' le le'
  have inFirst := (List.mergeSort_perm _ _).mem_iff.mp member
  have inSecond := (same other).mpr ((List.mergeSort_perm _ _).mem_iff.mp member')
  exact ranked _ inFirst _ inSecond (Nat.le_antisymm le le')

section

variable (held : GatewayMatches epoch.gatewayId memory gateway)
include held

private theorem GatewayMatches.event_cases
    (active : memory.activeEpochs.get? epoch.gatewayId = some epoch.instanceId) (eventId : Uuid) :
    (∀ record, memory.lifecycle.get? (epoch.gatewayId, eventId) = some record →
      record.epoch = epoch.instanceId → ∃ found, gateway.lifecycle.get? eventId = some found ∧
        LifecycleMatches record found) ∧
    ∀ found, gateway.lifecycle.get? eventId = some found → ∃ record,
      memory.lifecycle.get? (epoch.gatewayId, eventId) = some record ∧
        record.epoch = epoch.instanceId ∧ LifecycleMatches record found := by
  have rel := held.events eventId
  rw [currentEvent, active] at rel
  constructor
  · intro record stored mine
    rw [stored, Option.filter_some, mine, if_pos (decide_eq_true rfl)] at rel
    exact rel_some rel
  · intro _ present
    rw [present] at rel
    obtain ⟨record, current, agree⟩ := some_rel rel
    obtain ⟨stored, mine⟩ := Option.filter_eq_some_iff.mp current
    exact ⟨record, stored, (Option.some_inj.mp (of_decide_eq_true mine)).symm, agree⟩

theorem unackedLifecycle_pairs (key : PrivateEgressRouteKey) :
    Pairs epoch.gatewayId Eq (memory.unackedLifecycle epoch key)
      (gateway.unackedLifecycleScript epoch.instanceId (routeField key)) := by
  refine pairs_live held fun active => ?_
  have inMemory : ∀ event, (event ∈ (memory.lifecycle.rows.filter fun row =>
      isUnacked epoch key row.1 row.2).map (·.2.event)) ↔
        ∃ eventId record, memory.lifecycle.get? (epoch.gatewayId, eventId) = some record ∧
          record.epoch = epoch.instanceId ∧ record.key = key ∧ record.acked = false ∧
            record.event = event := by
    intro event
    simp only [List.mem_map, List.mem_filter, isUnacked, Bool.and_eq_true,
      decide_eq_true_eq, Bool.not_eq_true']
    constructor
    · rintro ⟨⟨⟨_, eventId⟩, record⟩, ⟨member, ⟨⟨rfl, mine⟩, own⟩, waits⟩, rfl⟩
      exact ⟨eventId, record, get?_of_mem member, mine, own, waits, rfl⟩
    · rintro ⟨eventId, record, stored, mine, own, waits, rfl⟩
      exact ⟨((epoch.gatewayId, eventId), record),
        ⟨(mem_rows ..).mpr stored, ⟨⟨rfl, mine⟩, own⟩, waits⟩, rfl⟩
  have inRedis : ∀ event, (event ∈ (gateway.lifecycle.values.filter
      (RedisGateway.isUnacked epoch.instanceId (routeField key))).map (·.eventJson)) ↔
        ∃ eventId record, memory.lifecycle.get? (epoch.gatewayId, eventId) = some record ∧
          record.epoch = epoch.instanceId ∧ record.key = key ∧ record.acked = false ∧
            record.event = event := by
    intro event
    simp only [List.mem_map, List.mem_filter, mem_values, RedisGateway.isUnacked,
      Bool.and_eq_true, decide_eq_true_eq, Bool.not_eq_true']
    constructor
    · rintro ⟨found, ⟨⟨eventId, present⟩, ⟨_, own⟩, waits⟩, rfl⟩
      obtain ⟨record, stored, mine, agree⟩ := (held.event_cases active eventId).2 _ present
      rw [agree.routeField] at own
      exact ⟨eventId, record, stored, mine, routeField_injective own,
        agree.acked ▸ waits, agree.event.symm⟩
    · rintro ⟨eventId, record, stored, mine, own, waits, rfl⟩
      obtain ⟨found, present, agree⟩ := (held.event_cases active eventId).1 _ stored mine
      refine ⟨found, ⟨⟨eventId, present⟩, ⟨agree.epoch.trans mine, ?_⟩, agree.acked.trans waits⟩,
        agree.event⟩
      rw [agree.routeField, own]
  have checked : ¬ ((gateway.lifecycle.values.filter
      (RedisGateway.isUnacked epoch.instanceId (routeField key))).any fun record =>
        decide (record.eventJson.sequence ≠ record.sequence)) = true := by
    rw [List.any_eq_true]
    rintro ⟨found, member, differs⟩
    obtain ⟨eventId, present⟩ := (mem_values ..).mp (List.mem_filter.mp member).1
    obtain ⟨record, -, -, agree⟩ := (held.event_cases active eventId).2 _ present
    rw [decide_eq_true_eq, agree.event, agree.sequence] at differs
    exact differs rfl
  rw [settle_reject, if_neg checked]
  refine done held (sorted_eq ?_ ?_ (fun event => ?_) ?_)
  · refine memory.lifecycle.nodup_selected (fun event => (epoch.gatewayId, event.eventId)) ?_
    rintro ⟨gatewayId, eventId⟩ record stored chosen
    simp only [isUnacked, Bool.and_eq_true, decide_eq_true_eq] at chosen
    obtain ⟨⟨⟨rfl, -⟩, -⟩, -⟩ := chosen
    exact Prod.ext rfl (held.journal _ _ stored).1
  · rw [values, List.filter_map, List.map_map]
    refine gateway.lifecycle.nodup_selected (fun event => event.eventId) ?_
    intro eventId found present _
    obtain ⟨record, stored, -, agree⟩ := (held.event_cases active eventId).2 _ present
    show found.eventJson.eventId = eventId
    rw [agree.event]
    exact (held.journal _ _ stored).1
  · rw [inMemory, inRedis]
  · intro event member other member' equal
    obtain ⟨_, one, here, -, own, -, rfl⟩ := (inMemory event).mp member
    obtain ⟨_, two, there, -, own', -, rfl⟩ := (inMemory other).mp member'
    have same := held.numbered _ _ one two here there (own.trans own'.symm) equal
    subst same
    rw [here] at there
    cases there
    rfl

private theorem fenced_commands (atMs : Int) (commandId : Uuid) :
    (memory.fenced epoch atMs).commands.get? (epoch.gatewayId, commandId) =
      (memory.commands.get? (epoch.gatewayId, commandId)).map fun command =>
        if command.epoch ≠ epoch.instanceId then
          { command with
            epoch := epoch.instanceId
            response := some (.rejected commandId .deadEpoch)
            completedAtMs := some atMs } else command := by
  unfold fenced
  cases stored : memory.commands.get? (epoch.gatewayId, commandId) with
  | none => split <;> simp [stored]
  | some command =>
    rw [held.current _ _ stored, Option.filter_some]
    by_cases other : command.epoch ≠ epoch.instanceId
    · rw [if_pos (decide_eq_true other), Option.map_some, if_pos other]
      rw [get?_mapValues, stored, Option.map_some, fenceCommand, if_pos ⟨rfl, other⟩]
    · rw [if_neg (decide_eq_true_iff.not.mpr other), Option.map_some, if_neg other]
      exact stored

end

theorem fenced_lifecycle (memory : MemoryState) (epoch : PrivateEgressGatewayEpoch) (atMs : Int) :
    (memory.fenced epoch atMs).lifecycle = memory.lifecycle := by
  unfold fenced
  split <;> rfl

section Begun

variable (held : GatewayMatches epoch.gatewayId memory gateway) (kept : gateway.Kept nowMs)
  (atMs ttl : Int)

include held kept

private theorem begunCommands_matches (commandId : Uuid) : Option.Rel CommandMatches
    ((memory.fenced epoch atMs).commands.get? (epoch.gatewayId, commandId))
    ((gateway.begunCommands epoch.instanceId nowMs ttl).get? commandId) := by
  rw [RedisGateway.begunCommands, filter_eq_self gateway.commands fun commandId record stored => by
    rw [kept.commands _ _ stored, Bool.and_false]
    rfl]
  rw [get?_mapValues, fenced_commands held]
  rcases rel_cases (held.commands commandId) with
    ⟨absent, missing⟩ | ⟨command, record, stored, found, agree⟩
  · rw [absent, missing]
    exact .none
  · rw [stored, found, Option.map_some, Option.map_some, agree.epoch]
    refine .some ?_
    split
    · exact ⟨rfl, agree.digest, rfl⟩
    · exact agree

omit [RedisLibrary Name] held in
private theorem begunRoutes_get? (field : Name) :
    (gateway.begunRoutes epoch.instanceId nowMs ttl).get? field =
      (gateway.routes.get? field).map fun record =>
        if record.epoch ≠ epoch.instanceId ∧ (record.recoveryRequired ∨ record.isOpen) then
          record.fail nowMs ttl true
        else record := by
  rw [RedisGateway.begunRoutes, filter_eq_self gateway.routes fun field record stored => by
    rw [Bool.and_assoc, Bool.and_assoc, ← Bool.and_assoc (!record.recoveryRequired),
      kept.late stored, Bool.and_false]
    rfl]
  rw [get?_mapValues]

private theorem begunRoutes_matches (sound : memory.Sound) (key : PrivateEgressRouteKey) :
    Option.Rel (RouteMatches key) ((memory.fenced epoch atMs).routes.get? (epoch.gatewayId, key))
      ((gateway.begunRoutes epoch.instanceId nowMs ttl).get? (routeField key)) := by
  rw [begunRoutes_get? kept, fenced_routes sound]
  rcases rel_cases (held.routes key) with
    ⟨absent, missing⟩ | ⟨route, record, stored, found, agree⟩
  · rw [absent, missing]
    exact .none
  · rw [stored, found]
    exact .some (fenced_rows_agree agree (sound _ _ stored) _ _ _)

private theorem begunEvents_match
    (fresh : (∀ eventId record, memory.lifecycle.get? (epoch.gatewayId, eventId) = some record →
        record.epoch ≠ epoch.instanceId) ∨
      memory.activeEpochs.get? epoch.gatewayId = some epoch.instanceId) (eventId : Uuid) :
    Option.Rel LifecycleMatches ((memory.fenced epoch atMs).currentEvent epoch.gatewayId eventId)
      ((gateway.lifecycle.filter fun _ record =>
        !(decide (record.epoch ≠ epoch.instanceId) || record.isExpired nowMs)).get? eventId) := by
  unfold currentEvent
  rw [fenced_lifecycle, fenced_active, get?_insert_self, get?_filter]
  rcases rel_cases (held.events eventId) with
    ⟨gone, missing⟩ | ⟨record, found, here, present, agree⟩
  · rw [missing, Option.filter_eq_none_iff.mpr]
    · exact .none
    · -- in an epoch that goes on the event would be there
      intro record stored mine
      have own := (Option.some_inj.mp (of_decide_eq_true mine)).symm
      rw [currentEvent, stored, fresh.resolve_left fun new => new _ _ stored own,
        Option.filter_some, if_pos mine] at gone
      cases gone
  · obtain ⟨stored, -⟩ := Option.filter_eq_some_iff.mp here
    rw [stored, present, Option.filter_some, Option.filter_some,
      kept.lifecycle _ _ present, agree.epoch]
    by_cases mine : record.epoch = epoch.instanceId
    · simpa [mine] using agree
    · simp [mine, Ne.symm]

theorem beginEpoch_pairs (sound : memory.Sound)
    (fresh : (∀ eventId record, memory.lifecycle.get? (epoch.gatewayId, eventId) = some record →
        record.epoch ≠ epoch.instanceId) ∨
      memory.activeEpochs.get? epoch.gatewayId = some epoch.instanceId) :
    Pairs epoch.gatewayId (fun left right => ∀ route, route ∈ left ↔ route ∈ right)
      (memory.beginEpoch epoch atMs)
      (gateway.beginEpochScript redisStore epoch.instanceId nowMs) := by
  have active : (memory.fenced epoch atMs).activeEpochs.get? epoch.gatewayId =
      some epoch.instanceId := by
    rw [fenced_active, get?_insert_self]
  have after : GatewayMatches epoch.gatewayId (memory.fenced epoch atMs)
      (gateway.beginEpochScript redisStore epoch.instanceId nowMs).1 := by
    constructor
    case epoch => exact active.symm
    case commands => exact begunCommands_matches held kept atMs _
    case routes => exact begunRoutes_matches held kept atMs _ sound
    case fields =>
      intro field record found
      have found := (begunRoutes_get? kept _ field).symm.trans found
      obtain ⟨before, stored, rfl⟩ := Option.map_eq_some_iff.mp found
      have named := held.fields _ _ stored
      split
      · exact named
      · exact named
    case events => exact begunEvents_match held kept atMs fresh
    case current =>
      intro commandId command found
      rw [fenced_commands held, Option.map_eq_some_iff] at found
      obtain ⟨before, -, rfl⟩ := found
      rw [active]
      split_ifs with mine
      · rfl
      · exact congrArg _ (not_not.mp mine).symm
    case journal =>
      intro eventId record found
      rw [fenced_lifecycle] at found
      obtain ⟨named, route, stored, begun, small⟩ := held.journal _ _ found
      refine ⟨named, _, by rw [fenced_routes sound, stored, Option.map_some], ?_⟩
      split
      · exact ⟨rfl, small⟩
      · exact ⟨begun, small⟩
    case numbered =>
      rw [fenced_lifecycle]
      exact held.numbered
  refine done after fun recovered => ?_
  exact after.mem_routes_iff (fun key route => ⟨route.epoch, key⟩)
    (fun record => ⟨record.epoch, record.keyJson⟩) (fun key route record _ agree =>
      ⟨agree.recovery.symm, by rw [agree.epoch, agree.keyJson]⟩) recovered

end Begun

end Operations

end Library

end Bridgefu.PrivateEgress
