/- digest: Steps of the coordinator and what each does to the tables that answer hints. -/

import Bridgefu.Coordination.Memory
import Bridgefu.Lib.Trace

set_option autoImplicit false

namespace Bridgefu.Coordination

open Lib CallEngine

inductive Operation where
  | apply (event : CoordinationEvent)
  | publishWakeup (workerId : WorkerId) (sequence : Nat) (reason : WakeupReason)
  | workerHints (request : WorkerSelectionRequest)
  | routeHint (callId : CallId)
  | attachmentRouteHint (lookup : AttachmentRouteLookup)
  | replaySeen (digest : ReplayDigest)
  | wakeupConsumer (workerId : WorkerId) (group consumer : String) (pollInterval : Nat)
  | poll (consumer : MemoryWakeupConsumer) (count : Nat)
  | autoClaim (consumer : MemoryWakeupConsumer) (minIdle count : Nat)
  | acknowledge (consumer : MemoryWakeupConsumer) (entryIds : List String)

/-- One operation and what the clock shows to it. -/
structure Step where
  clock : ClockReadings
  operation : Operation

/-- A step and the state it finds. -/
abbrev Place := MemoryState × Step

namespace MemoryCoordinator

variable (self : MemoryCoordinator)

def perform (state : MemoryState) (step : Step) : MemoryState :=
  let now := step.clock.cleaned
  match step.operation with
  | .apply event => (self.apply step.clock state event).1
  | .publishWakeup workerId sequence reason =>
    (self.publishWakeup step.clock state workerId sequence reason).1
  | .workerHints request => (workerHints now state request).1
  | .routeHint callId => (routeHint now state callId).1
  | .attachmentRouteHint lookup => (attachmentRouteHint now state lookup).1
  | .replaySeen digest => (replaySeen now state digest).1
  | .wakeupConsumer workerId group consumer pollInterval =>
    (self.wakeupConsumer now state workerId group consumer pollInterval).1
  | .poll consumer count => (consumer.poll self now state count).1
  | .autoClaim consumer minIdle count => (consumer.autoClaim self now state minIdle count).1
  | .acknowledge consumer entryIds => (consumer.acknowledge self now state entryIds).1

def places (steps : List Step) : List Place := trace self.perform .default steps

def final (steps : List Step) : MemoryState := steps.foldl self.perform .default

def applied (place : Place) : Option CoordinationEvent :=
  match place.2.operation with
  | .apply event =>
    if (self.apply place.2.clock place.1 event).2 = .ok .applied then some event else none
  | _ => none

def appliedEvents (past : List Place) : List CoordinationEvent := past.filterMap self.applied

end MemoryCoordinator

/-- An event that passes its own check and belongs to the coordinator's deployment. -/
structure MemoryCoordinator.Admits (coordinator : MemoryCoordinator) (event : CoordinationEvent) :
    Prop where
  valid : event.validate = .ok ()
  own : event.deployment = coordinator.deployment

instance (coordinator : MemoryCoordinator) (event : CoordinationEvent) :
    Decidable (coordinator.Admits event) :=
  decidable_of_iff (event.validate = .ok () ∧ event.deployment = coordinator.deployment)
    ⟨fun both => ⟨both.1, both.2⟩, fun admits => ⟨admits.valid, admits.own⟩⟩

/-- Is the clock read under the lock? -/
def Step.readsLocked (step : Step) : Bool :=
  match step.operation with
  | .apply _ | .publishWakeup _ _ _ => true
  | _ => false

/-- The clock does not go back. What it shows under the lock is not before any earlier reading,
while a reading from before the lock may have been overtaken by then. -/
def Clocked (steps : List Step) : Prop :=
  steps.Pairwise fun earlier later =>
    later.readsLocked = true → earlier.clock.published ≤ later.clock.cleaned

def Step.delivered? (step : Step) : Option CoordinationEvent :=
  match step.operation with
  | .apply event => some event
  | _ => none

/-- Later valid events of the deployment are not recorded before earlier ones. -/
def RecordedInOrder (self : MemoryCoordinator) (steps : List Step) : Prop :=
  ∀ first ∈ steps.filterMap Step.delivered?, ∀ second ∈ steps.filterMap Step.delivered?,
    self.Admits first → self.Admits second →
      first.sequence < second.sequence → first.recordedAt ≤ second.recordedAt

structure HintTables where
  routes : Projected CallId (Option CallRouteHint)
  attachmentRoutes : Projected AttachmentTokenDigest (Option AttachmentRouteHint)
  replay : Projected ReplayDigest ReplayMarker

def MemoryState.hintTables (state : MemoryState) : HintTables :=
  ⟨state.routes, state.attachmentRoutes, state.replay⟩

def HintTables.sweep (tables : HintTables) (now : Timestamp) : HintTables :=
  ⟨Lib.sweep tables.routes now, Lib.sweep tables.attachmentRoutes now,
    Lib.sweep tables.replay now⟩

@[simp] theorem hintTables_cleanupLocked (state : MemoryState) (now : Timestamp) :
    (cleanupLocked state now).hintTables = state.hintTables.sweep now := rfl

/-- One of the tables, and what an event writes to it. -/
structure Projection (K V : Type) where
  rows : HintTables → Projected K V
  writes : CoordinationPayload → Option (K × V)
  rows_sweep : ∀ tables now, rows (tables.sweep now) = Lib.sweep (rows tables) now

namespace Projection

def routes : Projection CallId (Option CallRouteHint) where
  rows := HintTables.routes
  writes
    | .route hint => some (hint.callId, some hint)
    | .routeRemoved callId => some (callId, none)
    | _ => none
  rows_sweep := fun _ _ => rfl

def attachmentRoutes : Projection AttachmentTokenDigest (Option AttachmentRouteHint) where
  rows := HintTables.attachmentRoutes
  writes
    | .attachmentRoute hint => some (hint.tokenDigest, some hint)
    | .attachmentRouteRemoved digest => some (digest, none)
    | _ => none
  rows_sweep := fun _ _ => rfl

def replay : Projection ReplayDigest ReplayMarker where
  rows := HintTables.replay
  writes
    | .replay marker => some (marker.digest, marker)
    | _ => none
  rows_sweep := fun _ _ => rfl

end Projection

private theorem Locked.orKeep_fst {α state}
    {update : Except CoordinationError (MemoryState × α)} {motive : MemoryState → Prop}
    (keep : motive state) (next : ∀ after result, update = .ok (after, result) → motive after) :
    motive (Locked.orKeep state update).1 := by
  unfold orKeep
  split
  · exact next _ _ rfl
  · exact keep

namespace MemoryCoordinator

variable (self : MemoryCoordinator)

private theorem publishLocked_hintTables {now state next workerId sequence reason}
    (done : self.publishLocked now state workerId sequence reason = .ok next) :
    next.hintTables = state.hintTables := by
  simp only [publishLocked, bind_eq_ok, exists_unit, pure_eq_ok] at done
  obtain ⟨_, _, _, rfl⟩ := done
  rfl

private theorem applyWakeup_hintTables (clock : ClockReadings) (state : MemoryState)
    (sequence : Nat) (workerId : WorkerId) (reason : WakeupReason) :
    (self.applyWakeup clock state sequence workerId reason).1.hintTables = state.hintTables := by
  unfold applyWakeup
  dsimp only
  split
  · rfl
  · split
    · refine Locked.orKeep_fst (motive := fun after => after.hintTables = state.hintTables) rfl ?_
      intro after _ done
      rw [bind_eq_ok] at done
      obtain ⟨_, published, rfl, -⟩ := done
      have kept := self.publishLocked_hintTables published
      exact kept
    · rfl

variable (consumer : MemoryWakeupConsumer) (now : Timestamp)

def Swept (state after : MemoryState) : Prop :=
  after.hintTables = state.hintTables ∨ after.hintTables = state.hintTables.sweep now

section

variable (state : MemoryState)
include state

private theorem wakeupConsumer_hintTables (workerId : WorkerId) (group consumer : String)
    (pollInterval : Nat) :
    Swept now state (self.wakeupConsumer now state workerId group consumer pollInterval).1 := by
  refine Locked.orKeep_fst (motive := Swept now state) (.inl rfl) ?_
  intro _ _ done
  simp only [bind_eq_ok, exists_unit] at done
  obtain ⟨-, _, -, _, -, _, -, rfl, -⟩ := done
  exact .inr rfl

private theorem poll_hintTables (count : Nat) :
    Swept now state (consumer.poll self now state count).1 := by
  refine Locked.orKeep_fst (motive := Swept now state) (.inl rfl) ?_
  intro _ _ done
  rw [bind_eq_ok] at done
  obtain ⟨_, -, rfl, -⟩ := done
  exact .inr rfl

private theorem autoClaim_hintTables (minIdle count : Nat) :
    Swept now state (consumer.autoClaim self now state minIdle count).1 := by
  unfold MemoryWakeupConsumer.autoClaim
  split
  · exact .inl rfl
  · split
    · exact .inl rfl
    · refine Locked.orKeep_fst (motive := Swept now state) (.inr rfl) ?_
      intro _ _ done
      rw [bind_eq_ok] at done
      obtain ⟨_, -, rfl, -⟩ := done
      exact .inr rfl

private theorem acknowledge_hintTables (entryIds : List String) :
    Swept now state (consumer.acknowledge self now state entryIds).1 := by
  unfold MemoryWakeupConsumer.acknowledge
  split
  · exact .inl rfl
  · refine Locked.orKeep_fst (motive := Swept now state) (.inr rfl) ?_
    intro _ _ done
    rw [bind_eq_ok] at done
    obtain ⟨_, -, rfl, -⟩ := done
    exact .inr rfl

/-- Steps other than deliveries touch the tables by sweeping alone. -/
theorem perform_hintTables {step} (other : step.delivered? = none) :
    Swept step.clock.cleaned state (self.perform state step) := by
  obtain ⟨clock, operation⟩ := step
  cases operation with
  | apply => cases other
  | publishWakeup workerId sequence reason =>
    have kept := self.applyWakeup_hintTables clock (cleanupLocked state clock.cleaned) sequence
      workerId reason
    exact .inr kept
  | workerHints =>
    simp only [perform, workerHints]
    split
    · exact .inl rfl
    · exact .inr rfl
  | routeHint =>
    simp only [perform, routeHint]
    split
    · exact .inr rfl
    · split <;> exact .inr rfl
  | attachmentRouteHint =>
    simp only [perform, attachmentRouteHint]
    split
    · exact .inr rfl
    · split <;> exact .inr rfl
  | replaySeen => exact .inr rfl
  | wakeupConsumer workerId _ consumer pollInterval =>
    exact self.wakeupConsumer_hintTables clock.cleaned _ _ _ _ pollInterval
  | poll consumer count => exact self.poll_hintTables consumer clock.cleaned state count
  | autoClaim consumer _ count =>
    exact self.autoClaim_hintTables _ clock.cleaned _ _ count
  | acknowledge consumer entryIds =>
    exact self.acknowledge_hintTables _ clock.cleaned _ entryIds

end

variable {self}

private theorem apply_of_admits {event} (admits : self.Admits event) (clock : ClockReadings)
    (state : MemoryState) :
    self.apply clock state event =
      self.applyPayload clock (cleanupLocked state clock.cleaned) event := by
  unfold apply
  rw [admits.valid]
  exact if_neg (not_not_intro admits.own)

theorem apply_of_not_admits {event} (refused : ¬ self.Admits event) (clock : ClockReadings)
    (state : MemoryState) : ∃ error, self.apply clock state event = (state, .error error) := by
  unfold apply
  cases valid : event.validate with
  | error error => exact ⟨error, rfl⟩
  | ok =>
    have foreign : event.deployment ≠ self.deployment := fun own => refused ⟨valid, own⟩
    exact ⟨_, if_pos foreign⟩

private theorem applyWorker_hintTables {now state next sequence recordedAt incoming outcome}
    (done : self.applyWorker now state sequence recordedAt incoming = .ok (next, outcome)) :
    next.hintTables = state.hintTables := by
  rw [applyWorker] at done
  split at done <;> grind [bind_eq_ok, pure_eq_ok, MemoryState.hintTables]

end MemoryCoordinator

namespace Projection

variable {K V : Type} [DecidableEq K] [DecidableEq V] (p : Projection K V)
  (coordinator : MemoryCoordinator)

/-- How deliveries reach a projection: an event that writes to it is a versioned write of its own
key, kept from its recording on, and any other event only sweeps it. -/
structure Lawful : Prop where
  written : ∀ clock state event key value, coordinator.Admits event →
    p.writes event.payload = some (key, value) →
    ∃ expiry store, event.recordedAt ≤ expiry ∧
      (∀ rows, p.rows (store rows).hintTables = rows) ∧
      coordinator.apply clock state event = Locked.orKeep (cleanupLocked state clock.cleaned)
        (coordinator.project clock.applied expiry
          (p.rows (cleanupLocked state clock.cleaned).hintTables) store key event.sequence value)
  silent : ∀ clock state event, coordinator.Admits event → p.writes event.payload = none →
    p.rows (coordinator.apply clock state event).1.hintTables =
      sweep (p.rows state.hintTables) clock.cleaned

/-- Where deliveries write: an event that writes to the projection is a versioned write of its own
key, and any other event only sweeps it. -/
structure Placed : Prop where
  written : ∀ clock state event key value, coordinator.Admits event →
    p.writes event.payload = some (key, value) →
    ∃ store, (∀ rows, p.rows (store rows).hintTables = rows) ∧
      coordinator.apply clock state event = Locked.orKeep (cleanupLocked state clock.cleaned)
        (coordinator.project clock.applied event.keptFrom
          (p.rows (cleanupLocked state clock.cleaned).hintTables) store key event.sequence value)
  silent : ∀ clock state event, coordinator.Admits event → p.writes event.payload = none →
    p.rows (coordinator.apply clock state event).1.hintTables =
      sweep (p.rows state.hintTables) clock.cleaned

variable {p coordinator} in
private theorem Placed.lawful (placed : p.Placed coordinator) : p.Lawful coordinator where
  written := by
    intro _ _ event key _ admits writes
    obtain ⟨store, reads, runs⟩ := placed.written _ _ _ key _ admits writes
    exact ⟨event.keptFrom, store, event.recordedAt_le_keptFrom admits.valid, reads, runs⟩
  silent := placed.silent

/-- What one step does to a projection. -/
inductive Changes (place : Place) : Projected K V → Prop
  | kept (quiet : ∀ event ∈ coordinator.applied place, p.writes event.payload = none) :
      Changes place (p.rows place.1.hintTables)
  | swept (quiet : ∀ event ∈ coordinator.applied place, p.writes event.payload = none) :
      Changes place (sweep (p.rows place.1.hintTables) place.2.clock.cleaned)
  | written {event key value kept} (applied : coordinator.applied place = some event)
      (admits : coordinator.Admits event) (writes : p.writes event.payload = some (key, value))
      (newer : ∀ old, (sweep (p.rows place.1.hintTables) place.2.clock.cleaned).get? key =
        some old → old.sequence < event.sequence)
      (outlives : event.recordedAt + coordinator.tombstoneTtl ≤ kept) :
      Changes place ((sweep (p.rows place.1.hintTables) place.2.clock.cleaned).insert key
        ⟨event.sequence, value, kept⟩)

variable {p coordinator}

private theorem changes_of_delivery (lawful : p.Lawful coordinator) {place event}
    (delivery : place.2.operation = .apply event) :
    p.Changes coordinator place (p.rows (coordinator.perform place.1 place.2).hintTables) := by
  obtain ⟨state, clock, _⟩ := place
  cases delivery
  show p.Changes coordinator _ (p.rows (coordinator.apply clock state event).1.hintTables)
  by_cases admits : coordinator.Admits event
  · cases writes : p.writes event.payload with
    | none =>
      rw [lawful.silent _ _ _ admits writes]
      refine .swept ?_
      intro other applied
      rw [MemoryCoordinator.applied, Option.mem_def, Option.ite_none_right_eq_some,
        Option.some.injEq] at applied
      rw [← applied.2, writes]
    | some written =>
      obtain ⟨key, value⟩ := written
      obtain ⟨_, _, late, reads, runs⟩ :=
        lawful.written clock state event key value admits writes
      cases done : coordinator.project clock.applied _
        (p.rows (cleanupLocked _ clock.cleaned).hintTables) _ key event.sequence
        value with
      | error error =>
        rw [done] at runs
        rw [runs]
        show p.Changes coordinator _ (p.rows (state.hintTables.sweep clock.cleaned))
        rw [p.rows_sweep]
        refine .swept ?_
        intro other applied
        simp [MemoryCoordinator.applied, runs, Locked.orKeep] at applied
      | ok result =>
        obtain ⟨_, _⟩ := result
        rw [done] at runs
        rw [runs]
        rcases MemoryCoordinator.project_eq_ok done with
          ⟨ignored, rfl⟩ | ⟨rfl, newer, kept, outlives, rfl⟩
        · rw [Locked.orKeep, reads, hintTables_cleanupLocked, p.rows_sweep]
          refine .swept ?_
          intro other applied
          simp [MemoryCoordinator.applied, runs, Locked.orKeep, ignored] at applied
        · rw [Locked.orKeep, reads, hintTables_cleanupLocked, p.rows_sweep]
          rw [hintTables_cleanupLocked, p.rows_sweep] at newer
          refine .written ?_ admits writes newer (le_trans ?_ outlives)
          · simp [MemoryCoordinator.applied, runs, Locked.orKeep]
          · exact Int.add_le_add_right late _
  · obtain ⟨error, refused⟩ := MemoryCoordinator.apply_of_not_admits admits _ state
    rw [refused]
    refine .kept ?_
    intro other applied
    simp [MemoryCoordinator.applied, refused] at applied

theorem Lawful.changes (lawful : p.Lawful coordinator) (place : Place) :
    p.Changes coordinator place (p.rows (coordinator.perform place.1 place.2).hintTables) := by
  cases delivered : place.2.delivered? with
  | some event =>
    have delivery : place.2.operation = .apply event := by grind [Step.delivered?]
    exact changes_of_delivery lawful delivery
  | none =>
    have quiet : ∀ event ∈ coordinator.applied place, p.writes event.payload = none := by
      grind [MemoryCoordinator.applied, Step.delivered?]
    rcases coordinator.perform_hintTables place.1 delivered with same | swept
    · rw [same]
      exact .kept quiet
    · rw [swept, p.rows_sweep]
      exact .swept quiet

private theorem project_fst {K V} [DecidableEq K] [DecidableEq V]
    {coordinator : MemoryCoordinator} {state now expiry values}
    {store : Projected K V → MemoryState} {key sequence value} {motive : MemoryState → Prop}
    (keep : motive state) (stored : ∀ rows, motive (store rows)) :
    motive (Locked.orKeep state
      (coordinator.project now expiry values store key sequence value)).1 := by
  refine Locked.orKeep_fst keep ?_
  intro _ _ done
  rcases MemoryCoordinator.project_eq_ok done with ⟨-, rfl⟩ | ⟨-, -, _, -, rfl⟩
  · exact stored _
  · exact stored _

private theorem worker_silent {K V} (p : Projection K V) {state}
    {now sequence recordedAt incoming} :
    p.rows (Locked.orKeep state
      (coordinator.applyWorker now state sequence recordedAt incoming)).1.hintTables =
        p.rows state.hintTables := by
  refine Locked.orKeep_fst
    (motive := fun after => p.rows after.hintTables = p.rows state.hintTables) rfl ?_
  intro after _ done
  rw [MemoryCoordinator.applyWorker_hintTables done]

variable (coordinator : MemoryCoordinator)

private theorem Placed.of_payload {K V} [DecidableEq K] [DecidableEq V] {p : Projection K V}
    (applied : ∀ clock state (event : CoordinationEvent), match p.writes event.payload with
      | some (key, value) => ∃ store, (∀ rows, p.rows (store rows).hintTables = rows) ∧
          coordinator.applyPayload clock state event = Locked.orKeep state
            (coordinator.project clock.applied event.keptFrom (p.rows state.hintTables) store key
              event.sequence value)
      | none => p.rows (coordinator.applyPayload clock state event).1.hintTables =
          p.rows state.hintTables) : p.Placed coordinator where
  written := by
    intro clock state event _ _ admits writes
    rw [MemoryCoordinator.apply_of_admits admits]
    have stored := applied clock (cleanupLocked state clock.cleaned) event
    rwa [writes] at stored
  silent := by
    intro clock state event admits writes
    rw [MemoryCoordinator.apply_of_admits admits]
    have same := applied clock (cleanupLocked state clock.cleaned) event
    rw [writes, hintTables_cleanupLocked, p.rows_sweep] at same
    exact same

theorem routes_placed : routes.Placed coordinator := by
  refine .of_payload _ fun _ state event => ?_
  unfold MemoryCoordinator.applyPayload CoordinationEvent.keptFrom
  cases event.payload with
  | route | routeRemoved => exact ⟨_, fun _ => rfl, rfl⟩
  | worker => exact worker_silent routes
  | wakeWorker => exact congrArg _ (coordinator.applyWakeup_hintTables _ _ _ _ _)
  | _ => exact project_fst (motive := fun after => after.routes = state.routes) rfl fun _ => rfl

theorem attachmentRoutes_placed : attachmentRoutes.Placed coordinator := by
  refine .of_payload _ fun _ state event => ?_
  unfold MemoryCoordinator.applyPayload CoordinationEvent.keptFrom
  cases event.payload with
  | attachmentRoute | attachmentRouteRemoved => exact ⟨_, fun _ => rfl, rfl⟩
  | worker => exact worker_silent attachmentRoutes
  | wakeWorker => exact congrArg _ (coordinator.applyWakeup_hintTables _ _ _ _ _)
  | _ =>
    exact project_fst (motive := fun after => after.attachmentRoutes = state.attachmentRoutes) rfl
      fun _ => rfl

theorem replay_placed : replay.Placed coordinator := by
  refine .of_payload _ fun _ state event => ?_
  unfold MemoryCoordinator.applyPayload CoordinationEvent.keptFrom
  cases event.payload with
  | replay => exact ⟨_, fun _ => rfl, rfl⟩
  | worker => exact worker_silent replay
  | wakeWorker => exact congrArg _ (coordinator.applyWakeup_hintTables _ _ _ _ _)
  | _ => exact project_fst (motive := fun after => after.replay = state.replay) rfl fun _ => rfl

theorem routes_lawful : routes.Lawful coordinator :=
  (routes_placed coordinator).lawful

theorem attachmentRoutes_lawful : attachmentRoutes.Lawful coordinator :=
  (attachmentRoutes_placed coordinator).lawful

theorem replay_lawful : replay.Lawful coordinator :=
  (replay_placed coordinator).lawful

end Projection

end Bridgefu.Coordination
