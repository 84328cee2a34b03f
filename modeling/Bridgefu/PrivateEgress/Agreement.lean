/- digest: The Redis store answers like the memory store, over every run of their operations. -/

import Bridgefu.PrivateEgress.Correspondence

set_option autoImplicit false

namespace Bridgefu.PrivateEgress

open Lib CallEngine Table MemoryState

/-- Nothing of the gateway has changed. -/
structure MemoryState.SameAt (gatewayId : String) (before after : MemoryState) : Prop where
  active : after.activeEpochs.get? gatewayId = before.activeEpochs.get? gatewayId
  commands : ∀ commandId,
    after.commands.get? (gatewayId, commandId) = before.commands.get? (gatewayId, commandId)
  routes : ∀ key, after.routes.get? (gatewayId, key) = before.routes.get? (gatewayId, key)
  events : ∀ eventId,
    after.lifecycle.get? (gatewayId, eventId) = before.lifecycle.get? (gatewayId, eventId)

namespace MemoryState

variable {store : MemoryPrivateEgressStateStore} {state : MemoryState} {gatewayId : String}
  {epoch : PrivateEgressGatewayEpoch}

theorem SameAt.refl (gatewayId : String) (state : MemoryState) : SameAt gatewayId state state :=
  ⟨rfl, fun _ => rfl, fun _ => rfl, fun _ => rfl⟩

section

variable (other : gatewayId ≠ epoch.gatewayId)
include other

private theorem sameAt_setRoute (key : PrivateEgressRouteKey) (route : MemoryRouteRecord) :
    SameAt gatewayId state (state.setRoute epoch key route) :=
  ⟨rfl, fun _ => rfl, fun _ => get?_insert_ne _ _ fun same => other (Prod.mk.inj same).1,
    fun _ => rfl⟩

private theorem sameAt_setCommand (commandId : Uuid) (record : MemoryCommandRecord) :
    SameAt gatewayId state { state with
      commands := state.commands.insert (epoch.gatewayId, commandId) record } :=
  ⟨rfl, fun _ => get?_insert_ne _ _ fun same => other (Prod.mk.inj same).1, fun _ => rfl,
    fun _ => rfl⟩

private theorem sameAt_setEvent (eventId : Uuid) (record : MemoryLifecycleRecord) :
    SameAt gatewayId state { state with
      lifecycle := state.lifecycle.insert (epoch.gatewayId, eventId) record } :=
  ⟨rfl, fun _ => rfl, fun _ => rfl,
    fun _ => get?_insert_ne _ _ fun same => other (Prod.mk.inj same).1⟩

private theorem sameAt_fenced (atMs : Int) : SameAt gatewayId state (state.fenced epoch atMs) := by
  have active : (state.activeEpochs.insert epoch.gatewayId epoch.instanceId).get? gatewayId =
      state.activeEpochs.get? gatewayId := get?_insert_ne _ _ other
  unfold fenced
  split
  · exact ⟨active, fun _ => rfl, fun _ => rfl, fun _ => rfl⟩
  · refine ⟨active, fun commandId => ?_, fun key => ?_, fun _ => rfl⟩
    · rw [get?_mapValues]
      cases state.commands.get? (gatewayId, commandId) with
      | none => rfl
      | some => exact congrArg some (if_neg fun both => other both.1)
    · rw [get?_mapValues]
      cases state.routes.get? (gatewayId, key) with
      | none => rfl
      | some => exact congrArg some (if_neg fun both => other both.1)

end

variable {operation : Operation} {after : MemoryState}

variable (effect : Effect store state operation after)
include effect

private theorem elsewhere_effect
    (swept : ∀ epoch commandId digest atMs, operation = .claimCommand epoch commandId digest atMs →
      state.sweep store atMs = state) (other : gatewayId ≠ operation.epoch.gatewayId) :
    SameAt gatewayId state after := by
  cases effect with
  | nothing => exact .refl _ _
  | fence begins =>
    subst begins
    exact sameAt_fenced other _
  | sweep claims =>
    rw [swept _ _ _ _ claims]
    exact .refl _ _
  | claim claims record =>
    rw [swept _ _ _ _ claims]
    subst claims
    exact sameAt_setCommand other _ record
  | command commandId record => exact sameAt_setCommand other commandId record
  | route => exact sameAt_setRoute other _ _
  | drop =>
    refine ⟨rfl, fun _ => rfl, fun _ => ?_, fun _ => rfl⟩
    exact (get?_erase ..).trans (if_neg fun same => other (Prod.mk.inj same).1)
  | failSource fails =>
    subst fails
    refine ⟨rfl, fun _ => rfl, fun key => ?_, fun _ => rfl⟩
    rw [get?_mapValues]
    cases state.routes.get? (gatewayId, key) with
    | none => rfl
    | some =>
      refine congrArg _ (if_neg fun failing => other ?_)
      simp only [isFailing, Bool.and_eq_true, decide_eq_true_eq] at failing
      exact failing.1.1.1
  | append appends =>
    subst appends
    refine ⟨rfl, fun _ => rfl, fun _ => ?_, fun _ => ?_⟩
    · exact get?_insert_ne _ _ fun same => other (Prod.mk.inj same).1
    · exact get?_insert_ne _ _ fun same => other (Prod.mk.inj same).1
  | acknowledge => exact sameAt_setEvent other _ _

private theorem active_effect {instanceId}
    (active : after.activeEpochs.get? gatewayId = some instanceId) :
    state.activeEpochs.get? gatewayId = some instanceId ∨
      ∃ atMs, operation = .beginEpoch ⟨gatewayId, instanceId⟩ atMs := by
  rcases effect.steps with ⟨_, atMs, begins, fenced⟩ | steps
  · rw [fenced, fenced_active, get?_insert] at active
    split_ifs at active with same
    · cases active
      subst same
      exact .inr ⟨atMs, begins⟩
    · exact .inl active
  · rw [steps.epochs] at active
    exact .inl active

private theorem event_effect {eventId record}
    (stored : after.lifecycle.get? (gatewayId, eventId) = some record) :
    (∃ before, state.lifecycle.get? (gatewayId, eventId) = some before ∧
      before.epoch = record.epoch) ∨
    ∃ epoch key event atMs, operation = .appendLifecycle epoch key event atMs ∧
      epoch.gatewayId = gatewayId ∧ event.eventId = eventId ∧
      state.activeEpochs.get? gatewayId = some record.epoch := by
  have swept : ∀ atMs, (state.sweep store atMs).lifecycle.get? (gatewayId, eventId) = some record →
      state.lifecycle.get? (gatewayId, eventId) = some record := by
    intro atMs found
    simp only [sweep, get?_filter, Option.filter_eq_some_iff] at found
    exact found.1.1
  revert stored
  cases effect with
  | nothing => exact fun stored => .inl ⟨record, stored, rfl⟩
  | fence =>
    rw [fenced_lifecycle]
    exact fun stored => .inl ⟨record, stored, rfl⟩
  | sweep | claim => exact fun stored => .inl ⟨record, swept _ stored, rfl⟩
  | command | route | drop | failSource => exact fun stored => .inl ⟨record, stored, rfl⟩
  | append appends active _ mine =>
    intro stored
    rcases get?_insert_some stored with ⟨same, rfl⟩ | ⟨-, stored⟩
    · cases same
      exact .inr ⟨_, _, _, _, appends, rfl, rfl, active.trans (congrArg _ mine.symm)⟩
    · exact .inl ⟨record, stored, rfl⟩
  | acknowledge before =>
    intro stored
    rcases get?_insert_some stored with ⟨same, rfl⟩ | ⟨-, stored⟩
    · cases same
      exact .inl ⟨_, before, rfl⟩
    · exact .inl ⟨record, stored, rfl⟩

end MemoryState

variable {Name : Type}

structure Stores (Name : Type) where
  memory : MemoryState
  redis : RedisState Name

/-- An operation, with the clock of the Redis server. -/
structure Call where
  operation : Operation
  nowMs : Int

structure Limits where
  memory : MemoryPrivateEgressStateStore
  redis : RedisPrivateEgressStateStore

/-- The answers are the same, up to the order in which routes are listed. -/
def Answer.Same : Answer → Answer → Prop
  | .recovered first, .recovered second => ∀ route, route ∈ first ↔ route ∈ second
  | .failed first, .failed second => ∀ key, key ∈ first ↔ key ∈ second
  | first, second => first = second

section Library

variable [DecidableEq Name] [RedisLibrary Name]

namespace Stores

def default : Stores Name := ⟨.default, .default⟩

def next (limits : Limits) (stores : Stores Name) (call : Call) : Stores Name where
  memory := stores.memory.next limits.memory call.operation
  redis := (stores.redis.perform limits.redis call.nowMs call.operation).1

/-- Both stores succeed with the same answer, or both fail. -/
def Agree (limits : Limits) (stores : Stores Name) (call : Call) : Prop :=
  (∃ first second, (stores.memory.perform limits.memory call.operation).2 = .ok first ∧
    (stores.redis.perform limits.redis call.nowMs call.operation).2 = .ok second ∧
    first.Same second) ∨
  ∃ first second, (stores.memory.perform limits.memory call.operation).2 = .error first ∧
    (stores.redis.perform limits.redis call.nowMs call.operation).2 = .error second

/-- Neither the retention nor the capacity of a store is reached, and numbers are exact. -/
structure Within (limits : Limits) (stores : Stores Name) (call : Call) : Prop where
  swept : ∀ epoch commandId digest atMs,
    call.operation = .claimCommand epoch commandId digest atMs →
      stores.memory.sweep limits.memory atMs = stores.memory
  kept : (stores.redis.gateway call.operation.epoch.gatewayId).Kept call.nowMs
  memoryRoom : stores.memory.Room limits.memory
  redisRoom : (stores.redis.gateway call.operation.epoch.gatewayId).Room limits.redis
  exactEvent : ∀ epoch key event atMs,
    call.operation = .appendLifecycle epoch key event atMs → event.Exact
  exactSequence : ∀ epoch key eventId sequence,
    call.operation = .ackLifecycle epoch key eventId sequence → sequence < 2 ^ 53
  counted : ∀ place route, stores.memory.routes.get? place = some route →
    route.nextLifecycleSequence + 1 < 2 ^ 53

/-- Epochs begin once, or again while they are active. Events have version 1 and fresh ids. -/
structure Proper (past : List (Stores Name × Call)) (stores : Stores Name) (call : Call) :
    Prop where
  epochs : ∀ epoch atMs, call.operation = .beginEpoch epoch atMs →
    (∀ place ∈ past, ∀ atMs, place.2.operation ≠ .beginEpoch epoch atMs) ∨
      stores.memory.activeEpochs.get? epoch.gatewayId = some epoch.instanceId
  events : ∀ epoch key event atMs, call.operation = .appendLifecycle epoch key event atMs →
    event.version = 1 ∧ ∀ place ∈ past, ∀ epoch' key' event' atMs',
      place.2.operation = .appendLifecycle epoch' key' event' atMs' →
        epoch'.gatewayId = epoch.gatewayId → event'.eventId ≠ event.eventId

/-- The call does not complete a command with the response that a takeover has written for it. -/
def Plain (stores : Stores Name) (call : Call) : Prop :=
  ∀ epoch commandId digest response atMs,
    call.operation = .completeCommand epoch commandId digest response atMs →
      ¬ Rewords (stores.redis.gateway epoch.gatewayId) epoch.instanceId commandId digest response

/-- The stores correspond, gateway by gateway. -/
structure Related (stores : Stores Name) : Prop where
  sound : stores.memory.Sound
  gateways : ∀ gatewayId, GatewayMatches gatewayId stores.memory (stores.redis.gateway gatewayId)

/-- Active epochs have begun in the past, and stored events were appended under such epochs. -/
structure Recorded (past : List (Stores Name × Call)) (stores : Stores Name) : Prop where
  epochs : ∀ gatewayId instanceId,
    stores.memory.activeEpochs.get? gatewayId = some instanceId →
      ∃ place ∈ past, ∃ atMs, place.2.operation = .beginEpoch ⟨gatewayId, instanceId⟩ atMs
  events : ∀ gatewayId eventId record,
    stores.memory.lifecycle.get? (gatewayId, eventId) = some record →
      (∃ place ∈ past, ∃ epoch key event atMs,
        place.2.operation = .appendLifecycle epoch key event atMs ∧
          epoch.gatewayId = gatewayId ∧ event.eventId = eventId) ∧
      ∃ place ∈ past, ∃ atMs, place.2.operation = .beginEpoch ⟨gatewayId, record.epoch⟩ atMs

end Stores

private theorem GatewayMatches.of_sameAt {gatewayId before after}
    {gateway : RedisGateway Name} (held : GatewayMatches gatewayId before gateway)
    (same : before.SameAt gatewayId after) : GatewayMatches gatewayId after gateway where
  epoch := held.epoch.trans same.active.symm
  commands := fun commandId => same.commands commandId ▸ held.commands commandId
  routes := fun key => same.routes key ▸ held.routes key
  fields := held.fields
  events := fun eventId => by
    unfold currentEvent
    rw [same.events, same.active]
    exact held.events eventId
  current := fun commandId record stored => by
    rw [same.commands] at stored
    rw [same.active]
    exact held.current _ _ stored
  journal := fun eventId record stored => by
    rw [same.events] at stored
    rw [same.routes]
    exact held.journal _ _ stored
  numbered := fun _ _ record _ here there => by
    rw [same.events] at here there
    exact held.numbered _ _ _ _ here there

private theorem RedisState.gateway_run {α} (state : RedisState Name) (gatewayId : String)
    (script : RedisGateway Name → Scripted Name α) (other : String) :
    (state.run gatewayId script).1.gateway other =
      if other = gatewayId then (script (state.gateway gatewayId)).1 else state.gateway other := by
  unfold run
  simp only [gateway, get?_insert, RedisLibrary.slot_injective.eq_iff]
  split <;> rfl

/-- What the call leaves for its gateway, and that the other gateways keep their keys. -/
def Leaves (redis : RedisState Name) (gatewayId : String) (memory : MemoryState)
    (after : RedisState Name) : Prop :=
  GatewayMatches gatewayId memory (after.gateway gatewayId) ∧
    ∀ other, other ≠ gatewayId → after.gateway other = redis.gateway other

private theorem Pairs.answered {α : Type} {same : α → α → Prop} {redis : RedisState Name}
    {gatewayId left} {script : RedisGateway Name → Scripted Name α}
    (pairs : Pairs gatewayId same left (script (redis.gateway gatewayId))) {answer : α → Answer}
    (lift : ∀ a b, same a b → (answer a).Same (answer b)) :
    Paired (Leaves redis gatewayId) Answer.Same (answered answer left)
      (answered answer (redis.run gatewayId script)) := by
  refine ⟨⟨?_, fun other different => ?_⟩, ?_⟩
  · show GatewayMatches gatewayId left.1 ((redis.run gatewayId script).1.gateway gatewayId)
    rw [RedisState.gateway_run, if_pos rfl]
    exact pairs.states
  · show (redis.run gatewayId script).1.gateway other = redis.gateway other
    rw [RedisState.gateway_run, if_neg different]
  · rcases pairs.answers with ⟨a, b, first, second, agree⟩ | ⟨e, f, first, second⟩
    · refine .inl ⟨answer a, answer b, ?_, ?_, lift a b agree⟩
      · exact congrArg (Except.map answer) first
      · exact congrArg (Except.map answer) second
    · refine .inr ⟨e, f, ?_, ?_⟩
      · exact congrArg (Except.map answer) first
      · exact congrArg (Except.map answer) second

namespace Stores

variable {limits : Limits} {stores : Stores Name} {past : List (Stores Name × Call)} {call : Call}

private theorem append_paired {epoch key} {event nowMs}
    (held : GatewayMatches epoch.gatewayId stores.memory (stores.redis.gateway epoch.gatewayId))
    (unused : stores.memory.lifecycle.get? (epoch.gatewayId, event.eventId) = none)
    (version : event.version = 1) (atMs : Int)
    (within : Within limits stores ⟨.appendLifecycle epoch key event atMs, nowMs⟩) :
    Paired (Leaves stores.redis epoch.gatewayId) Answer.Same
      (stores.memory.perform limits.memory (.appendLifecycle epoch key event atMs))
      (stores.redis.perform limits.redis nowMs (.appendLifecycle epoch key event atMs)) := by
  show Paired _ _ (answered .stamped
      (stores.memory.appendLifecycle limits.memory epoch key event atMs))
    (answered .stamped (stores.redis.appendLifecycle limits.redis epoch key event nowMs))
  unfold RedisState.appendLifecycle
  cases owned : event.isFreshOf key with
  | true =>
    rw [if_neg Bool.noConfusion]
    refine (appendLifecycle_pairs held within.kept within.memoryRoom within.redisRoom owned
      version (within.exactEvent _ key _ _ rfl) unused
      (fun route => within.counted _ route) atMs).answered ?_
    rintro _ _ rfl
    rfl
  | false =>
    have refused : ∃ error, stores.memory.appendLifecycle limits.memory epoch key event atMs =
        (stores.memory, .error error) := by
      unfold appendLifecycle ensureEpoch
      rw [settle_reject]
      split
      · exact ⟨_, rfl⟩
      · rw [settle_reject, if_pos owned]
        exact ⟨_, rfl⟩
    obtain ⟨error, refused⟩ := refused
    rw [refused]
    exact ⟨⟨held, fun _ _ => rfl⟩, .inr ⟨error, _, rfl, rfl⟩⟩

private theorem call_paired (related : stores.Related) (recorded : Recorded past stores)
    (proper : Proper past stores call) (within : Within limits stores call)
    (plain : Plain stores call) :
    Paired (Leaves stores.redis call.operation.epoch.gatewayId) Answer.Same
      (stores.memory.perform limits.memory call.operation)
      (stores.redis.perform limits.redis call.nowMs call.operation) := by
  obtain ⟨operation, _⟩ := call
  have held := related.gateways operation.epoch.gatewayId
  have eq {α : Type} {answer : α → Answer} (same : ∀ a, (answer a).Same (answer a)) (a b : α)
      (equal : a = b) : (answer a).Same (answer b) := equal ▸ same a
  cases operation with
  | beginEpoch epoch atMs =>
    refine (beginEpoch_pairs held within.kept atMs related.sound ?_).answered fun _ _ same => same
    refine (proper.epochs _ _ rfl).imp_left fun fresh eventId record stored mine => ?_
    obtain ⟨-, place, member, at', begins⟩ :=
      recorded.events epoch.gatewayId eventId record stored
    rw [mine] at begins
    exact fresh _ member at' begins
  | assertEpoch =>
    exact (assertEpoch_pairs held).answered (eq fun _ => rfl)
  | completeRouteRecovery epoch key =>
    exact (completeRouteRecovery_pairs held key).answered (eq fun _ => rfl)
  | claimCommand epoch commandId digest atMs =>
    exact (claimCommand_pairs held (within.swept _ _ _ _ rfl) within.kept
      within.memoryRoom within.redisRoom _ digest).answered (eq fun _ => rfl)
  | completeCommand epoch commandId digest _ atMs =>
    exact (completeCommand_pairs held (plain _ _ _ _ _ rfl) atMs).answered (eq fun _ => rfl)
  | claimRouteTransition epoch key commandId _ next =>
    exact (claimRouteTransition_pairs held related.sound within.kept within.memoryRoom
      within.redisRoom key _ _ next).answered (eq fun _ => rfl)
  | completeRouteTransition epoch key commandId next atMs =>
    exact (completeRouteTransition_pairs held key _ _ atMs).answered (eq fun _ => rfl)
  | abortRouteTransition epoch key commandId =>
    exact (abortRouteTransition_pairs held key commandId).answered (eq fun _ => rfl)
  | failSource epoch _ atMs =>
    exact (failSource_pairs held related.sound _ atMs).answered fun _ _ same => same
  | appendLifecycle epoch key event atMs =>
    obtain ⟨version, fresh⟩ := proper.events _ key _ _ rfl
    have unused : stores.memory.lifecycle.get? (epoch.gatewayId, event.eventId) = none := by
      rw [Option.eq_none_iff_forall_ne_some]
      intro record stored
      obtain ⟨⟨place, member, _, _, _, at', appends, gateway, same⟩, -⟩ :=
        recorded.events epoch.gatewayId event.eventId record stored
      exact fresh _ member _ _ _ at' appends gateway same
    exact append_paired held unused version _ within
  | ackLifecycle epoch key eventId _ =>
    exact (ackLifecycle_pairs held key _
      (within.exactSequence _ key _ _ rfl)).answered (eq fun _ => rfl)
  | unackedLifecycle epoch key =>
    exact (unackedLifecycle_pairs held key).answered (eq fun _ => rfl)

private theorem call_related (related : stores.Related)
    (paired : Paired (Leaves stores.redis call.operation.epoch.gatewayId) Answer.Same
      (stores.memory.perform limits.memory call.operation)
      (stores.redis.perform limits.redis call.nowMs call.operation))
    (within : Within limits stores call) : (stores.next limits call).Related where
  sound := next_sound related.sound call.operation
  gateways := fun gatewayId => by
    by_cases mine : gatewayId = call.operation.epoch.gatewayId
    · subst mine
      exact paired.states.1
    · have same := elsewhere_effect
        (next_effect limits.memory stores.memory call.operation) within.swept mine
      show GatewayMatches gatewayId _
        ((stores.redis.perform limits.redis call.nowMs call.operation).1.gateway gatewayId)
      rw [paired.states.2 _ mine]
      exact (related.gateways gatewayId).of_sameAt same

private theorem call_recorded (limits : Limits) (recorded : Recorded past stores) (call : Call) :
    Recorded (past ++ [(stores, call)]) (stores.next limits call) := by
  have effect := next_effect limits.memory stores.memory call.operation
  have earlier {holds : Stores Name × Call → Prop} (before : ∃ place ∈ past, holds place) :
      ∃ place ∈ past ++ [(stores, call)], holds place := by
    obtain ⟨place, member, held⟩ := before
    exact ⟨place, List.mem_append_left _ member, held⟩
  have last : (stores, call) ∈ past ++ [(stores, call)] :=
    List.mem_append_right _ List.mem_cons_self
  constructor
  · intro gatewayId _ active
    rcases active_effect effect active with before | ⟨atMs, begins⟩
    · exact earlier (recorded.epochs _ _ before)
    · exact ⟨_, last, atMs, begins⟩
  · intro gatewayId _ record stored
    rcases event_effect effect stored with
      ⟨before, there, same⟩ | ⟨epoch, key, event, atMs, appends, gateway, named, active⟩
    · obtain ⟨appended, begun⟩ := recorded.events _ _ _ there
      rw [same] at begun
      exact ⟨earlier appended, earlier begun⟩
    · exact ⟨⟨_, last, epoch, key, event, atMs, appends, gateway, named⟩,
        earlier (recorded.epochs _ record.epoch active)⟩

private theorem default_related : (default : Stores Name).Related where
  sound := default_sound
  gateways := fun _ => by
    exact {
      epoch := rfl
      commands := fun _ => .none
      routes := fun _ => .none
      fields := fun _ _ missing => (nomatch missing)
      events := fun _ => .none
      current := fun _ _ missing => (nomatch missing)
      journal := fun _ _ missing => (nomatch missing)
      numbered := fun _ _ _ _ missing => (nomatch missing) }

omit [DecidableEq Name] [RedisLibrary Name] in
private theorem default_recorded : Recorded [] (default : Stores Name) where
  epochs := fun _ _ missing => nomatch missing
  events := fun _ _ _ missing => nomatch missing

end Stores

/-- In every run in which no completion repeats the response of a takeover, both stores give the
same answer to every call. -/
theorem stores_agree (limits : Limits) (calls : List Call)
    (proper : ∀ past stores call future,
      trace (Stores.next limits) (Stores.default : Stores Name) calls =
        past ++ (stores, call) :: future → Stores.Proper past stores call)
    (within : ∀ place ∈ trace (Stores.next limits) (Stores.default : Stores Name) calls,
      place.1.Within limits place.2)
    (plain : ∀ place ∈ trace (Stores.next limits) (Stores.default : Stores Name) calls,
      place.1.Plain place.2) :
    ∀ place ∈ trace (Stores.next limits) (Stores.default : Stores Name) calls,
      place.1.Agree limits place.2 := by
  -- the past of a place is what its epochs and events are fresh against
  refine (trace_induction (motive := fun past (now : Stores Name) =>
    (∀ before stores call after, past = before ++ (stores, call) :: after →
      Stores.Proper before stores call) →
    (∀ place ∈ past, place.1.Within _ place.2) → (∀ place ∈ past, place.1.Plain place.2) →
      now.Related ∧ Stores.Recorded past now ∧ ∀ place ∈ past, place.1.Agree _ place.2)
    ?_ ?_ _ proper within plain).2.2
  · intro _ _ _
    exact ⟨Stores.default_related, Stores.default_recorded,
      fun _ member => absurd member List.not_mem_nil⟩
  · intro past now call held proper within plain
    have inPast : ∀ place ∈ past, place ∈ past ++ [(now, call)] :=
      fun place member => List.mem_append_left _ member
    have last : (now, call) ∈ past ++ [(now, call)] := List.mem_append_right _ List.mem_cons_self
    obtain ⟨related, recorded, agreed⟩ := held
      (fun before stores _ after split => proper _ _ _ (after ++ [(now, call)])
        (by rw [split, List.append_assoc, List.cons_append]))
      (fun place member => within place (inPast place member))
      fun place member => plain place (inPast place member)
    have paired := Stores.call_paired related recorded (proper _ now call [] rfl)
      (within _ last) (plain _ last)
    refine ⟨Stores.call_related related paired (within _ last),
      Stores.call_recorded _ recorded call, fun place member => ?_⟩
    rcases List.mem_append.mp member with before | here
    · exact agreed _ before
    · obtain rfl := List.mem_singleton.mp here
      exact paired.answers

end Library

namespace Sample

/-- Names that are their own digests. -/
abbrev Digest := String ⊕ PrivateEgressRouteKey ⊕ PrivateEgressRouteAuthority

def walkedMembers : List String :=
  ["state", "version", "external_reference", "replayed", "failure_code", "command_id", "accepted"]

def walk (members : List String) : List String :=
  if members = responseMembers then walkedMembers else members

@[reducible] def library : RedisLibrary Digest where
  slot := .inl
  slot_injective := fun _ _ same => Sum.inl.inj same
  routeField := fun key => .inr (.inl key)
  routeField_injective := fun _ _ same => Sum.inl.inj (Sum.inr.inj same)
  sourceDigest := fun authority => .inr (.inr authority)
  sourceDigest_injective := fun _ _ same => Sum.inr.inj (Sum.inr.inj same)
  number := id
  number_eq := fun _ _ => rfl
  walk := walk
  walk_perm := fun members => by
    unfold walk
    split_ifs with same
    · subst same
      decide
    · exact List.Perm.refl _

attribute [local instance] library

def limits : Limits := ⟨store, ⟨60000, 8⟩⟩

def start : Call := ⟨.beginEpoch first 1000, 1000⟩

def command : Call := ⟨.claimCommand first 7 42 1001, 1001⟩

def claim : List Call := [start, command]

/-- The gateway restarts before it completes the command. -/
def takeover : List Call := claim ++ [⟨.beginEpoch second 2000, 2000⟩]

/-- The new process completes the command with the response that it has been given. -/
def completion : Operation := .completeCommand second 7 42 (.rejected 7 .deadEpoch) 2001

/-- The new process completes the command with a response of its own. -/
def overruled : Call :=
  ⟨.completeCommand second 7 42 ⟨1, 7, true, false, some .prepared, none, none⟩ 2001, 2001⟩

def replaced : List Call := takeover ++ [overruled]

/-- A check that a call without routes and events stays within the limits. -/
def fits (place : Stores Digest × Call) : Bool :=
  let memory := place.1.memory
  let gateway := place.1.redis.gateway place.2.operation.epoch.gatewayId
  (match place.2.operation with
    | .claimCommand _ _ _ atMs => decide (memory.sweep store atMs = memory)
    | .appendLifecycle _ _ _ _ | .ackLifecycle _ _ _ _ => false
    | _ => true) &&
  gateway.commands.rows.all (fun row => !row.2.isExpired place.2.nowMs) &&
  decide (memory.commands.rows.length < 8 ∧ gateway.commands.rows.length < 8) &&
  memory.routes.rows.isEmpty && gateway.routes.rows.isEmpty &&
  memory.lifecycle.rows.isEmpty && gateway.lifecycle.rows.isEmpty

/-- A check that a completion brings another response than the stored one. -/
def differs (place : Stores Digest × Call) : Bool :=
  match place.2.operation with
  | .completeCommand epoch commandId _ response _ =>
    ((place.1.redis.gateway epoch.gatewayId).commands.get? commandId).all fun record =>
      record.responseJson.all fun text => decide (text.value ≠ response)
  | _ => true

end Sample

section Sample

attribute [local instance] Sample.library

private theorem within_of_fits {place : Stores Sample.Digest × Call}
    (fits : Sample.fits place = true) : place.1.Within Sample.limits place.2 := by
  simp only [Sample.fits, Bool.and_eq_true, List.isEmpty_iff, List.all_eq_true, Prod.forall,
    Table.mem_rows, Bool.not_eq_true', decide_eq_true_eq] at fits
  obtain ⟨⟨⟨⟨⟨⟨quiet, commands⟩, held, stored⟩, routes⟩, fields⟩, events⟩, journal⟩ := fits
  have absent {K V} [DecidableEq K] {table : Table K V} (empty : table.rows = []) {key value} :
      ¬ table.get? key = some value := by
    rw [← Table.mem_rows, empty]
    exact List.not_mem_nil
  constructor
  case swept =>
    intro _ _ _ _ claims
    rw [claims] at quiet
    exact of_decide_eq_true quiet
  case kept =>
    exact ⟨commands, fun _ _ found => absurd found (absent fields),
      fun _ _ found => absurd found (absent journal)⟩
  case memoryRoom =>
    refine ⟨held, ?_, ?_⟩
    · rw [routes]
      exact Nat.zero_lt_succ _
    · rw [events]
      exact Nat.zero_lt_succ _
  case redisRoom =>
    refine ⟨stored, ?_, ?_⟩
    · rw [fields]
      exact Nat.zero_lt_succ _
    · rw [journal]
      exact Nat.zero_lt_succ _
  case exactEvent | exactSequence =>
    intro _ _ _ _ writes
    rw [writes] at quiet
    cases quiet
  case counted => exact fun _ _ found => absurd found (absent routes)

/-- Both stores keep the response that the takeover has written for the command. -/
theorem stores_agree_replaced :
    (Sample.takeover.foldl (Stores.next Sample.limits) (Stores.default : Stores Sample.Digest)).Agree
      Sample.limits Sample.overruled := by
  have last : (Sample.takeover.foldl (Stores.next Sample.limits) Stores.default,
      Sample.overruled) ∈
        trace (Stores.next Sample.limits) (Stores.default : Stores Sample.Digest)
          Sample.replaced := by
    rw [Sample.replaced, trace_append]
    exact List.mem_append_right _ List.mem_cons_self
  refine stores_agree Sample.limits Sample.replaced ?_ ?_ ?_ _ last
  · intro _ _ _ _ split
    obtain ⟨before, _, inputs, rfl, rfl, -⟩ := trace_split split
    match before, inputs with
    | [], inputs =>
      cases inputs
      exact ⟨fun _ _ _ => .inl fun _ member => absurd member List.not_mem_nil,
        by rintro _ _ _ _ ⟨⟩⟩
    | [_], inputs =>
      cases inputs
      exact ⟨by rintro _ _ ⟨⟩, by rintro _ _ _ _ ⟨⟩⟩
    | [_, _], inputs =>
      cases inputs
      refine ⟨?_, by rintro _ _ _ _ ⟨⟩⟩
      rintro _ _ ⟨⟩
      refine .inl fun place member _ begins => ?_
      rcases List.mem_cons.mp member with rfl | member
      · cases begins
      · obtain rfl := List.mem_singleton.mp member
        cases begins
    | [_, _, _], inputs =>
      cases inputs
      exact ⟨by rintro _ _ ⟨⟩, by rintro _ _ _ _ ⟨⟩⟩
    | _ :: _ :: _ :: _ :: rest, inputs =>
      simp [Sample.replaced, Sample.takeover, Sample.claim] at inputs
  · have fits : (trace (Stores.next Sample.limits) (Stores.default : Stores Sample.Digest)
        Sample.replaced).all Sample.fits = true := by decide +kernel
    exact fun place member => within_of_fits (List.all_eq_true.mp fits place member)
  · have differs : (trace (Stores.next Sample.limits) (Stores.default : Stores Sample.Digest)
        Sample.replaced).all Sample.differs = true := by decide +kernel
    rintro place member epoch commandId _ response _ completes
      ⟨-, record, text, found, -, -, stored, same, -⟩
    have other := List.all_eq_true.mp differs place member
    simp [Sample.differs, completes, found, stored, same] at other

theorem takeover_response_reworded :
    let stores := Sample.takeover.foldl (Stores.next Sample.limits)
      (Stores.default : Stores Sample.Digest)
    (stores.memory.perform Sample.limits.memory Sample.completion).2 = .ok .done ∧
      (stores.redis.perform Sample.limits.redis 2001 Sample.completion).2 =
        .error .replayConflict := by
  decide +kernel

end Sample

end Bridgefu.PrivateEgress
