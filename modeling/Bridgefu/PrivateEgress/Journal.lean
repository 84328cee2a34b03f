/- digest: The lifecycle journal of the memory store: how routes number their events and keep them. -/

import Bridgefu.PrivateEgress.Invariant

set_option autoImplicit false

/-! A route numbers its events one by one. It leaves the table before it has begun, when it has no
events, or by a sweep, which takes its events along. An event that nobody acknowledged leaves the
journal with its route alone. -/

namespace Bridgefu.PrivateEgress

open Lib CallEngine Table

variable (store : MemoryPrivateEgressStateStore) (state : MemoryState)

def Operation.stamps (operation : Operation) (place : String × PrivateEgressRouteKey) :
    Option Nat :=
  match operation, (state.perform store operation).2 with
  | .appendLifecycle epoch key _ _, .ok (.stamped event) =>
    if (epoch.gatewayId, key) = place then some event.sequence else none
  | _, _ => none

/-- The route keeps its epoch and its number. It may begin, and may vanish before it has begun. -/
inductive Carried : Option MemoryRouteRecord → Option MemoryRouteRecord → Prop
  | same (row : Option MemoryRouteRecord) : Carried row row
  | create (epoch : Uuid) (pending : Uuid × PrivateEgressLifecycleState) :
      Carried none (some ⟨epoch, none, some pending, 0, none, false⟩)
  | keep {route later} (epoch : later.epoch = route.epoch)
      (number : later.nextLifecycleSequence = route.nextLifecycleSequence)
      (begun : later.state = none → route.state = none) : Carried (some route) (some later)
  | drop {route} (unbegun : route.state = none) : Carried (some route) none

/-- What an operation may do to the routes and to the journal. -/
inductive JournalEffect (store : MemoryPrivateEgressStateStore) (state : MemoryState)
    (operation : Operation) : MemoryState → Prop
  | carry {after} (lifecycle : after.lifecycle = state.lifecycle)
      (rows : ∀ place, Carried (state.routes.get? place) (after.routes.get? place))
      (silent : ∀ place, operation.stamps store state place = none) :
      JournalEffect store state operation after
  | sweep {epoch commandId digest atMs after}
      (claims : operation = .claimCommand epoch commandId digest atMs)
      (active : state.ensureEpoch epoch = .ok ())
      (routes : after.routes = (state.sweep store atMs).routes)
      (lifecycle : after.lifecycle = (state.sweep store atMs).lifecycle) :
      JournalEffect store state operation after
  | append {epoch : PrivateEgressGatewayEpoch} {key : PrivateEgressRouteKey}
      {event : PrivateEgressLifecycleEvent} {atMs : Int} {route moved : MemoryRouteRecord}
      (appends : operation = .appendLifecycle epoch key event atMs)
      (fresh : state.lifecycle.get? (epoch.gatewayId, event.eventId) = none)
      (stored : state.routes.get? (epoch.gatewayId, key) = some route)
      (mine : route.epoch = epoch.instanceId) (same : moved.epoch = route.epoch)
      (begun : moved.state ≠ none)
      (answer : (state.perform store operation).2 = .ok (.stamped { event with
        gatewayEpoch := epoch.instanceId, sequence := route.nextLifecycleSequence + 1 })) :
      JournalEffect store state operation { state.setRoute epoch key { moved with
          nextLifecycleSequence := route.nextLifecycleSequence + 1 } with
        lifecycle := state.lifecycle.insert (epoch.gatewayId, event.eventId)
          ⟨epoch.instanceId, key, { event with
            gatewayEpoch := epoch.instanceId, sequence := route.nextLifecycleSequence + 1 },
            false, atMs⟩ }
  | acknowledge {epoch key eventId sequence record}
      (acknowledges : operation = .ackLifecycle epoch key eventId sequence)
      (answer : (state.perform store operation).2 = .ok .done)
      (stored : state.lifecycle.get? (epoch.gatewayId, eventId) = some record) :
      JournalEffect store state operation { state with
        lifecycle := state.lifecycle.insert (epoch.gatewayId, eventId)
          { record with acked := true } }

section Numbers

variable {store : MemoryPrivateEgressStateStore} {state after : MemoryState} {operation : Operation}
  {epoch : PrivateEgressGatewayEpoch} {key : PrivateEgressRouteKey}

private theorem JournalEffect.nothing
    (silent : ∀ place, operation.stamps store state place = none) :
    JournalEffect store state operation state :=
  .carry rfl (fun _ => .same _) silent

private theorem Operation.stamps_eq_none
    (silent : ∀ event, (state.perform store operation).2 ≠ .ok (.stamped event))
    (place : String × PrivateEgressRouteKey) : operation.stamps store state place = none := by
  unfold stamps
  split
  · rename_i stamped
    exact absurd stamped (silent _)
  · rfl

private theorem Carried.of_moves {before later acknowledged active}
    (moves : RouteStep acknowledged active before (some later))
    (kept : ∀ route, before = some route → later.epoch = route.epoch ∧
      later.nextLifecycleSequence = route.nextLifecycleSequence ∧
      (later.state = none → route.state = none)) : Carried before (some later) := by
  cases before with
  | none =>
    cases moves with
    | create pending => exact .create _ pending
  | some _ =>
    obtain ⟨epoch, number, begun⟩ := kept _ rfl
    exact .keep epoch number begun

private theorem beginEpoch_journal {atMs} :
    JournalEffect store state (.beginEpoch epoch atMs) (state.fenced epoch atMs) := by
  refine .carry ?_ (fun place => ?_) fun _ => rfl
  · unfold MemoryState.fenced
    split <;> rfl
  · unfold MemoryState.fenced
    split
    · exact .same _
    · rw [get?_mapValues]
      cases state.routes.get? place with
      | none => exact .same _
      | some =>
        rw [Option.map_some]
        unfold MemoryState.fenceRoute
        split
        · exact .keep rfl rfl (by rintro ⟨⟩)
        · exact .same _

private theorem Written.journal {outcome} (written : Written store state operation outcome)
    (performs : state.perform store operation = outcome) :
    JournalEffect store state operation outcome.1 := by
  cases written with
  | refused =>
    exact .nothing (Operation.stamps_eq_none fun event => by rw [performs]; rintro ⟨⟩)
  | read reads =>
    cases operation with
    | assertEpoch | unackedLifecycle => exact .nothing fun _ => rfl
    | _ => cases reads
  | fence => exact beginEpoch_journal
  | sweep active | claim active => exact .sweep rfl active rfl rfl
  | repeated => exact .nothing fun _ => rfl
  | complete => exact .carry rfl (fun _ => .same _) fun _ => rfl
  | route _ moves kept silent =>
    refine .carry rfl (fun place => ?_) (Operation.stamps_eq_none fun event => by
      rw [performs]; exact silent event)
    unfold MemoryState.setRoute
    rw [get?_insert]
    split_ifs with same
    · subst same
      exact .of_moves moves kept
    · exact .same _
  | drop stored _ unbegun =>
    refine .carry rfl (fun place => ?_) fun _ => rfl
    rw [get?_erase]
    split_ifs with same
    · rw [same, stored]
      exact .drop unbegun
    · exact .same _
  | failSource =>
    refine .carry rfl (fun place => ?_) fun _ => rfl
    rw [get?_mapValues]
    cases state.routes.get? place with
    | none => exact .same _
    | some =>
      rw [Option.map_some]
      split
      · exact .keep rfl rfl (by rintro ⟨⟩)
      · exact .same _
  | append active fresh stored mine same begun =>
    exact .append rfl fresh stored mine same begun (congrArg Prod.snd performs)
  | acknowledge stored => exact .acknowledge rfl (congrArg Prod.snd performs) stored

private theorem next_journal (store : MemoryPrivateEgressStateStore) (state : MemoryState)
    (operation : Operation) : JournalEffect store state operation (state.next store operation) :=
  (perform_written store state operation).journal rfl

namespace MemoryState

/-- Every event has a number that its route has given out, and no two events of a route share one.
Routes that have not begun have given out none. -/
structure Numbered (state : MemoryState) : Prop where
  routed : ∀ gatewayId eventId record, state.lifecycle.get? (gatewayId, eventId) = some record →
    ∃ route, state.routes.get? (gatewayId, record.key) = some route ∧
      record.epoch = route.epoch ∧ 0 < record.event.sequence ∧
      record.event.sequence ≤ route.nextLifecycleSequence
  unbegun : ∀ place route, state.routes.get? place = some route → route.state = none →
    route.nextLifecycleSequence = 0
  distinct : ∀ gatewayId first second firstRecord secondRecord,
    state.lifecycle.get? (gatewayId, first) = some firstRecord →
    state.lifecycle.get? (gatewayId, second) = some secondRecord →
    firstRecord.key = secondRecord.key →
    firstRecord.event.sequence = secondRecord.event.sequence → first = second

section

variable (numbered : state.Numbered)
include numbered

private theorem Numbered.carry (lifecycle : after.lifecycle = state.lifecycle)
    (rows : ∀ place, Carried (state.routes.get? place) (after.routes.get? place)) :
    after.Numbered := by
  refine ⟨fun gatewayId _ record stored => ?_, fun place route found missing => ?_, ?_⟩
  · rw [lifecycle] at stored
    obtain ⟨route, found, epoch, positive, bounded⟩ := numbered.routed _ _ _ stored
    have carried := rows (gatewayId, record.key)
    rw [found] at carried
    generalize next : after.routes.get? (gatewayId, record.key) = row at carried
    cases carried with
    | same => exact ⟨route, rfl, epoch, positive, bounded⟩
    | @keep _ later kept number =>
      exact ⟨later, rfl, epoch.trans kept.symm, positive, number ▸ bounded⟩
    | drop unbegun =>
      have none := numbered.unbegun _ _ found unbegun
      omega
  · have carried := rows place
    rw [found] at carried
    generalize before : state.routes.get? place = row at carried
    cases carried with
    | same => exact numbered.unbegun place route before missing
    | create => rfl
    | @keep _ _ kept number begun =>
      rw [number]
      exact numbered.unbegun _ _ before (begun missing)
  · rw [lifecycle]
    exact numbered.distinct

private theorem Numbered.sweep (store : MemoryPrivateEgressStateStore) (atMs : Int)
    (routes : after.routes = (state.sweep store atMs).routes)
    (lifecycle : after.lifecycle = (state.sweep store atMs).lifecycle) : after.Numbered := by
  have older : ∀ place record, after.lifecycle.get? place = some record →
      state.lifecycle.get? place = some record ∧
        ∀ route, state.routes.get? (place.1, record.key) = some route →
          route.isExpired store.ttlMs atMs = false := by
    intro place record found
    rw [lifecycle, MemoryState.sweep] at found
    rw [get?_filter, get?_filter, Option.filter_eq_some_iff,
      Option.filter_eq_some_iff] at found
    obtain ⟨⟨stored, fresh⟩, -⟩ := found
    refine ⟨stored, fun route present => ?_⟩
    rw [present, Bool.not_eq_true'] at fresh
    exact fresh
  have kept : ∀ place route, state.routes.get? place = some route →
      route.isExpired store.ttlMs atMs = false → after.routes.get? place = some route := by
    intro place route present fresh
    rw [routes, MemoryState.sweep]
    rw [get?_filter, present, Option.filter_some, fresh]
    rfl
  refine ⟨fun gatewayId _ record stored => ?_, fun place route found missing => ?_,
    fun gatewayId _ _ _ _ one two => ?_⟩
  · obtain ⟨before, fresh⟩ := older _ _ stored
    obtain ⟨route, found, rest⟩ := numbered.routed _ _ _ before
    exact ⟨route, kept _ _ found (fresh _ found), rest⟩
  · rw [routes, MemoryState.sweep] at found
    rw [get?_filter, Option.filter_eq_some_iff] at found
    exact numbered.unbegun _ _ found.1 missing
  · exact numbered.distinct _ _ _ _ _ (older _ _ one).1
      (older _ _ two).1

private theorem Numbered.append {epoch key}
    {event : PrivateEgressLifecycleEvent} {atMs} {route moved : MemoryRouteRecord}
    (stored : state.routes.get? (epoch.gatewayId, key) = some route)
    (mine : route.epoch = epoch.instanceId) (same : moved.epoch = route.epoch)
    (begun : moved.state ≠ none) : Numbered { state.setRoute epoch key { moved with
          nextLifecycleSequence := route.nextLifecycleSequence + 1 } with
        lifecycle := state.lifecycle.insert (epoch.gatewayId, event.eventId)
          ⟨epoch.instanceId, key, { event with
            gatewayEpoch := epoch.instanceId, sequence := route.nextLifecycleSequence + 1 },
            false, atMs⟩ } := by
  -- the events of this route that are there have smaller numbers
  have smaller : ∀ eventId record,
      state.lifecycle.get? (epoch.gatewayId, eventId) = some record → record.key = key →
        record.event.sequence ≤ route.nextLifecycleSequence := by
    rintro eventId record found rfl
    obtain ⟨known, present, -, -, bounded⟩ := numbered.routed _ _ _ found
    cases stored.symm.trans present
    exact bounded
  refine ⟨fun gatewayId eventId record found => ?_, fun _ known found missing => ?_,
    fun gatewayId _ _ _ _ one two sameKey sameNumber => ?_⟩
  · rcases get?_insert_some found with ⟨⟨⟩, rfl⟩ | ⟨-, found⟩
    · refine ⟨_, get?_insert_self .., ?_, Nat.succ_pos _, Nat.le_refl _⟩
      exact mine.symm.trans same.symm
    · refine exists_insert (numbered.routed _ _ _ found) ?_
      rintro known present ⟨kept, positive, bounded⟩
      cases stored.symm.trans present
      exact ⟨kept.trans same.symm, positive, Nat.le_succ_of_le bounded⟩
  · rcases get?_insert_some found with ⟨-, rfl⟩ | ⟨-, found⟩
    · exact absurd missing begun
    · exact numbered.unbegun _ _ found missing
  · rw [get?_insert] at one two
    split at one <;> split at two
    · rename_i here there
      exact (Prod.mk.inj here).2.trans (Prod.mk.inj there).2.symm
    · rename_i here there
      cases here
      cases one
      have bounded := smaller _ _ two sameKey.symm
      dsimp only at sameNumber
      omega
    · rename_i here there
      cases there
      cases two
      have bounded := smaller _ _ one sameKey
      dsimp only at sameNumber
      omega
    · exact numbered.distinct _ _ _ _ _ one two sameKey
        sameNumber

private theorem Numbered.acknowledge {gatewayId eventId record}
    (stored : state.lifecycle.get? (gatewayId, eventId) = some record) : Numbered { state with
      lifecycle := state.lifecycle.insert (gatewayId, eventId) { record with acked := true } } := by
  -- the acknowledged record names the same event
  have older : ∀ place marked,
      (state.lifecycle.insert (gatewayId, eventId) { record with acked := true }).get? place =
        some marked → ∃ known, state.lifecycle.get? place = some known ∧
          marked.key = known.key ∧ marked.epoch = known.epoch ∧ marked.event = known.event := by
    intro place marked found
    rcases get?_insert_some found with ⟨here, rfl⟩ | ⟨-, found⟩
    · exact ⟨record, here ▸ stored, rfl, rfl, rfl⟩
    · exact ⟨marked, found, rfl, rfl, rfl⟩
  refine ⟨fun gateway event marked found => ?_, numbered.unbegun,
    fun gateway _ _ _ _ one two sameKey sameNumber => ?_⟩
  · obtain ⟨known, before, key, epoch, event⟩ := older _ _ found
    rw [key, epoch, event]
    exact numbered.routed _ _ _ before
  · obtain ⟨_, firstBefore, firstKey, -, firstEvent⟩ := older _ _ one
    obtain ⟨_, secondBefore, secondKey, -, secondEvent⟩ := older _ _ two
    rw [firstKey, secondKey] at sameKey
    rw [firstEvent, secondEvent] at sameNumber
    exact numbered.distinct _ _ _ _ _ firstBefore secondBefore
      sameKey sameNumber

private theorem Numbered.effect (effect : JournalEffect store state operation after) :
    after.Numbered := by
  cases effect with
  | carry lifecycle rows => exact numbered.carry lifecycle rows
  | sweep _ _ routes lifecycle => exact numbered.sweep store _ routes lifecycle
  | append _ _ stored mine same begun =>
    exact numbered.append stored mine same begun
  | acknowledge _ _ stored => exact numbered.acknowledge stored

end

private theorem default_numbered : MemoryState.default.Numbered :=
  ⟨fun _ _ _ missing => (nomatch missing), fun _ _ missing => (nomatch missing),
    fun _ _ _ _ _ missing => (nomatch missing)⟩

variable (store : MemoryPrivateEgressStateStore) (place : String × PrivateEgressRouteKey)

theorem run_numbered (operations : List Operation) :
    (operations.foldl (next store) .default).Numbered :=
  foldl_induction default_numbered
    (fun state operation held => held.effect (next_journal store state operation)) operations

/-- The numbers given out by the route since it was last created. -/
def incarnation (run : List (MemoryState × Operation)) : List Nat :=
  run.foldl (fun given step =>
    if (step.1.routes.get? place).isNone then []
    else given ++ (step.2.stamps store step.1 place).toList) []

private theorem incarnation_append (run : List (MemoryState × Operation)) (state : MemoryState)
    (operation : Operation) :
    incarnation store place (run ++ [(state, operation)]) =
      if (state.routes.get? place).isNone then []
      else incarnation store place run ++ (operation.stamps store state place).toList := by
  unfold incarnation
  rw [List.foldl_append]
  rfl

end MemoryState

private theorem JournalEffect.numbers {place route}
    (effect : JournalEffect store state operation after)
    (stored : state.routes.get? place = some route) :
    (operation.stamps store state place = none ∨
      operation.stamps store state place = some (route.nextLifecycleSequence + 1)) ∧
    ∀ later, after.routes.get? place = some later →
      later.nextLifecycleSequence =
        route.nextLifecycleSequence + (operation.stamps store state place).toList.length := by
  cases effect with
  | carry _ rows silent =>
    refine ⟨.inl (silent place), fun later found => ?_⟩
    have carried := rows place
    rw [stored, found] at carried
    rw [silent]
    cases carried with
    | same => rfl
    | keep epoch number => exact number
  | sweep claims _ routes =>
    subst claims
    refine ⟨.inl rfl, fun later found => ?_⟩
    rw [routes, MemoryState.sweep] at found
    rw [get?_filter, stored, Option.filter_eq_some_iff] at found
    cases found.1
    rfl
  | @append epoch key event atMs known _ appends _ present _ same _ answer =>
    subst appends
    have stamps : (Operation.appendLifecycle epoch key event atMs).stamps store state place =
        if (epoch.gatewayId, key) = place then some (known.nextLifecycleSequence + 1)
        else none := by
      simp only [Operation.stamps, answer]
    unfold MemoryState.setRoute
    by_cases here : place = (epoch.gatewayId, key)
    · subst here
      cases stored.symm.trans present
      rw [if_pos rfl] at stamps
      refine ⟨.inr stamps, fun later found => ?_⟩
      rw [get?_insert_self] at found
      cases found
      rw [stamps]
      rfl
    · rw [if_neg (Ne.symm here)] at stamps
      refine ⟨.inl stamps, fun later found => ?_⟩
      rw [get?_insert_ne _ _ here, stored] at found
      cases found
      rw [stamps]
      rfl
  | acknowledge acknowledges =>
    subst acknowledges
    refine ⟨.inl rfl, fun later found => ?_⟩
    cases stored.symm.trans found
    rfl

private theorem JournalEffect.creates {place later}
    (effect : JournalEffect store state operation after)
    (absent : state.routes.get? place = none) (found : after.routes.get? place = some later) :
    later.nextLifecycleSequence = 0 := by
  cases effect with
  | carry _ rows =>
    have carried := rows place
    rw [absent, found] at carried
    cases carried
    rfl
  | sweep _ _ routes =>
    rw [routes, MemoryState.sweep] at found
    rw [get?_filter, absent] at found
    cases found
  | append _ _ present =>
    unfold MemoryState.setRoute at found
    rw [get?_insert] at found
    split_ifs at found with here
    · rw [here, present] at absent
      cases absent
    · cases absent.symm.trans found
  | acknowledge => cases absent.symm.trans found

namespace MemoryState

theorem run_incarnation (store : MemoryPrivateEgressStateStore)
    (place : String × PrivateEgressRouteKey) (operations : List Operation) :
    ∃ count, incarnation store place (trace (next store) .default operations) =
        List.range' 1 count ∧
      ∀ route, (operations.foldl (next store) .default).routes.get? place = some route →
        route.nextLifecycleSequence = count := by
  refine trace_induction (motive := fun run now => ∃ count,
    incarnation _ _ run = List.range' 1 count ∧
      ∀ route, now.routes.get? place = some route → route.nextLifecycleSequence = count)
    ⟨0, rfl, fun route missing => ?_⟩ ?_ operations
  · have absent : default.routes.get? place = none := rfl
    cases absent.symm.trans missing
  rintro _ now operation ⟨count, given, counted⟩
  have effect := next_journal store now operation
  rw [incarnation_append]
  cases stored : now.routes.get? place with
  | none => exact ⟨0, rfl, fun route found => effect.creates stored found⟩
  | some route =>
    obtain ⟨stamps, continued⟩ := effect.numbers stored
    have number := counted _ stored
    rw [given]
    rcases stamps with silent | stamped
    · refine ⟨count, by rw [silent]; simp, fun later found => ?_⟩
      rw [continued _ found, silent, number]
      rfl
    · refine ⟨count + 1, ?_, fun later found => ?_⟩
      · rw [stamped, number, List.range'_1_concat, Nat.add_comm]
        rfl
      · rw [continued _ found, stamped, number]
        rfl

end MemoryState

end Numbers

def Operation.AcknowledgesEvent (operation : Operation) (place : String × Uuid) : Prop :=
  ∃ epoch key sequence, operation = .ackLifecycle epoch key place.2 sequence ∧
    epoch.gatewayId = place.1 ∧ (state.perform store operation).2 = .ok .done

def Operation.Supersedes (operation : Operation) (epoch : PrivateEgressGatewayEpoch) : Prop :=
  ∃ later atMs, operation = .beginEpoch later atMs ∧ later.gatewayId = epoch.gatewayId ∧
    later.instanceId ≠ epoch.instanceId

/-- The operation sweeps, and finds that the route has been tombstoned for long enough and does not
wait for its recovery. -/
def Operation.Expires (operation : Operation) (place : String × PrivateEgressRouteKey) : Prop :=
  ∃ epoch commandId digest atMs route, operation = .claimCommand epoch commandId digest atMs ∧
    state.ensureEpoch epoch = .ok () ∧ state.routes.get? place = some route ∧
    route.isExpired store.ttlMs atMs

variable {store : MemoryPrivateEgressStateStore} {state after : MemoryState} {operation : Operation}
  {epoch : PrivateEgressGatewayEpoch} {key : PrivateEgressRouteKey}

private theorem JournalEffect.keeps {place record}
    (effect : JournalEffect store state operation after)
    (stored : state.lifecycle.get? place = some record) (unacked : record.acked = false)
    (unacknowledged : ¬ operation.AcknowledgesEvent store state place)
    (unexpired : ¬ operation.Expires store state (place.1, record.key)) :
    after.lifecycle.get? place = some record := by
  cases effect with
  | carry lifecycle =>
    rw [lifecycle]
    exact stored
  | sweep claims active _ lifecycle =>
    rw [lifecycle, MemoryState.sweep]
    rw [get?_filter, get?_filter, Option.filter_eq_some_iff, Option.filter_eq_some_iff]
    refine ⟨⟨stored, ?_⟩, by rw [unacked]; rfl⟩
    rw [Bool.not_eq_true', Option.any_eq_false]
    intro route found
    by_contra expired
    rw [Bool.not_eq_false] at expired
    exact unexpired ⟨_, _, _, _, route, claims, active, found, expired⟩
  | append _ fresh =>
    rw [get?_insert]
    split_ifs with here
    · rw [here, fresh] at stored
      cases stored
    · exact stored
  | @acknowledge epoch key _ sequence _ acknowledges answer =>
    rw [get?_insert]
    split_ifs with here
    · subst here
      exact absurd ⟨epoch, key, sequence, acknowledges, rfl, answer⟩ unacknowledged
    · exact stored

theorem next_active (active : state.activeEpochs.get? epoch.gatewayId = some epoch.instanceId)
    (standing : ¬ operation.Supersedes epoch) :
    (state.next store operation).activeEpochs.get? epoch.gatewayId = some epoch.instanceId := by
  rcases (next_effect _ _ operation).steps with ⟨later, atMs, begins, fenced⟩ | steps
  · rw [fenced, MemoryState.fenced_active, get?_insert]
    split_ifs with here
    · by_contra other
      exact standing ⟨later, atMs, begins, here.symm, fun same => other (congrArg _ same)⟩
    · exact active
  · rw [steps.epochs]
    exact active

theorem run_keeps {eventId record} (operations : List Operation)
    (active : state.activeEpochs.get? epoch.gatewayId = some epoch.instanceId)
    (stored : state.lifecycle.get? (epoch.gatewayId, eventId) = some record)
    (unacked : record.acked = false)
    (undisturbed : ∀ step ∈ trace (MemoryState.next store) state operations,
      ¬ step.2.AcknowledgesEvent store step.1 (epoch.gatewayId, eventId) ∧
      ¬ step.2.Supersedes epoch ∧ ¬ step.2.Expires store step.1 (epoch.gatewayId, record.key)) :
    (operations.foldl (MemoryState.next store) state).activeEpochs.get? epoch.gatewayId =
        some epoch.instanceId ∧
      (operations.foldl (MemoryState.next store) state).lifecycle.get?
        (epoch.gatewayId, eventId) = some record := by
  induction operations generalizing state with
  | nil => exact ⟨active, stored⟩
  | cons operation _ ih =>
    obtain ⟨unacknowledged, standing, unexpired⟩ :=
      undisturbed (state, operation) List.mem_cons_self
    exact ih (next_active active standing)
      ((next_journal _ _ operation).keeps stored unacked unacknowledged unexpired)
      fun _ member => undisturbed _ (List.mem_cons_of_mem _ member)

theorem appended_record {epoch key event stamped atMs}
    (done : (state.perform store (.appendLifecycle epoch key event atMs)).2 =
      .ok (.stamped stamped)) :
    state.activeEpochs.get? epoch.gatewayId = some epoch.instanceId ∧
      (state.next store (.appendLifecycle epoch key event atMs)).lifecycle.get?
        (epoch.gatewayId, event.eventId) =
          some ⟨epoch.instanceId, key, stamped, false, atMs⟩ := by
  have written := perform_written store state (.appendLifecycle epoch key event atMs)
  unfold MemoryState.next
  generalize state.perform store (.appendLifecycle epoch key event atMs) = outcome at written done
  cases written with
  | refused => cases done
  | read reads => cases reads
  | route _ _ _ silent => exact absurd done (silent stamped)
  | append active =>
    cases done
    exact ⟨active, get?_insert_self ..⟩

namespace MemoryState

def unackedEvents (state : MemoryState) (epoch : PrivateEgressGatewayEpoch)
    (key : PrivateEgressRouteKey) : List PrivateEgressLifecycleEvent :=
  (state.lifecycle.rows.filter fun row => isUnacked epoch key row.1 row.2).map (·.2.event)

private theorem Numbered.unacked_nodup (numbered : state.Numbered)
    (epoch : PrivateEgressGatewayEpoch) (key : PrivateEgressRouteKey) :
    ((state.unackedEvents epoch key).map PrivateEgressLifecycleEvent.sequence).Nodup := by
  unfold unackedEvents
  rw [List.map_map]
  refine List.Nodup.map_on ?_ ((List.Nodup.of_map _ state.lifecycle.keysNodup).filter _)
  rintro ⟨⟨_, _⟩, _⟩ one ⟨⟨_, _⟩, _⟩ two same
  obtain ⟨oneStored, oneUnacked⟩ := List.mem_filter.mp one
  obtain ⟨twoStored, twoUnacked⟩ := List.mem_filter.mp two
  simp only [isUnacked, Bool.and_eq_true, decide_eq_true_eq] at oneUnacked twoUnacked
  obtain ⟨⟨⟨rfl, -⟩, rfl⟩, -⟩ := oneUnacked
  obtain ⟨⟨⟨rfl, -⟩, sameKey⟩, -⟩ := twoUnacked
  have found := get?_of_mem oneStored
  have also := get?_of_mem twoStored
  have equal := numbered.distinct _ _ _ _ _ found also
    sameKey.symm same
  subst equal
  cases found.symm.trans also
  rfl

private theorem unackedLifecycle_eq_ok {events} :
    (state.unackedLifecycle epoch key).2 = .ok events ↔
      state.activeEpochs.get? epoch.gatewayId = some epoch.instanceId ∧
        events = (state.unackedEvents epoch key).mergeSort
          fun first second => first.sequence ≤ second.sequence := by
  unfold unackedLifecycle unackedEvents ensureEpoch
  by_cases active : state.activeEpochs.get? epoch.gatewayId = some epoch.instanceId
  · rw [reject, if_neg (not_not.mpr active)]
    exact ⟨fun read => ⟨active, (Except.ok.inj read).symm⟩, fun ⟨_, same⟩ => congrArg _ same.symm⟩
  · rw [reject, if_pos active]
    exact ⟨fun read => (nomatch read), fun ⟨alive, _⟩ => absurd alive active⟩

theorem pairwise_sequence (events : List PrivateEgressLifecycleEvent) :
    (events.mergeSort fun first second => first.sequence ≤ second.sequence).Pairwise
      fun first second => first.sequence ≤ second.sequence := by
  refine (List.pairwise_mergeSort (fun first second _ one two => ?_)
    (fun first second => ?_) events).imp of_decide_eq_true
  · rw [decide_eq_true_eq] at one two ⊢
    omega
  · rw [Bool.or_eq_true, decide_eq_true_eq, decide_eq_true_eq]
    omega

theorem Numbered.unacked_increasing (numbered : state.Numbered) {events}
    (read : (state.unackedLifecycle epoch key).2 = .ok events) :
    events.Pairwise fun first second => first.sequence < second.sequence := by
  obtain ⟨-, rfl⟩ := unackedLifecycle_eq_ok.mp read
  have apart := (List.mergeSort_perm (state.unackedEvents _ key)
    fun first second => decide (first.sequence ≤ second.sequence)).map
      PrivateEgressLifecycleEvent.sequence |>.nodup_iff.mpr (numbered.unacked_nodup epoch key)
  exact ((pairwise_sequence _).and (List.pairwise_map.mp apart)).imp fun ⟨ordered, different⟩ =>
    Nat.lt_of_le_of_ne ordered different

theorem mem_unacked {eventId record}
    (active : state.activeEpochs.get? epoch.gatewayId = some epoch.instanceId)
    (stored : state.lifecycle.get? (epoch.gatewayId, eventId) = some record)
    (unacked : record.acked = false) (mine : record.epoch = epoch.instanceId) :
    ∃ events, (state.unackedLifecycle epoch record.key).2 = .ok events ∧
      record.event ∈ events := by
  refine ⟨_, unackedLifecycle_eq_ok.mpr ⟨active, rfl⟩, List.mem_mergeSort.mpr ?_⟩
  refine List.mem_map.mpr ⟨((epoch.gatewayId, eventId), record), List.mem_filter.mpr ⟨?_, ?_⟩, rfl⟩
  · exact (mem_rows ..).mpr stored
  · simp [isUnacked, mine, unacked]

end MemoryState

end Bridgefu.PrivateEgress
