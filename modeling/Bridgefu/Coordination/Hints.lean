/- digest: Runs of the coordinator: no hint answers from a write older than one already applied. -/

import Bridgefu.Coordination.Projections

set_option autoImplicit false

/-! A tombstone is forgotten in the end, and a write that it had overruled may then be stored
again. It can no longer be answered: a hint lives for at most a day after its recording, and a
tombstone is kept for a day after the recording that it stands for. -/

namespace Bridgefu.Coordination

open Lib CallEngine Table
open MemoryCoordinator hiding applied

namespace MemoryCoordinator

variable {self : MemoryCoordinator}

variable {event : CoordinationEvent}

private theorem admits_of_applied {place} (applied : self.applied place = some event) :
    self.Admits event := by
  unfold MemoryCoordinator.applied at applied
  split at applied
  · rw [Option.ite_none_right_eq_some, Option.some.injEq] at applied
    obtain ⟨done, rfl⟩ := applied
    by_contra refused
    obtain ⟨_, failed⟩ := apply_of_not_admits refused place.2.clock place.1
    rw [failed] at done
    cases done
  · cases applied

private theorem mem_appliedEvents {past} :
    event ∈ self.appliedEvents past ↔ ∃ place ∈ past, self.applied place = some event :=
  List.mem_filterMap

private theorem admits_of_mem {past} (applied : event ∈ self.appliedEvents past) :
    self.Admits event := by
  obtain ⟨_, -, applied⟩ := mem_appliedEvents.mp applied
  exact admits_of_applied applied

private theorem delivered_of_applied {place} (applied : self.applied place = some event) :
    place.2.delivered? = some event := by
  unfold MemoryCoordinator.applied at applied
  unfold Step.delivered?
  split at applied
  · rw [Option.ite_none_right_eq_some] at applied
    exact applied.2
  · cases applied

private theorem mem_appliedEvents_concat {past place} :
    event ∈ self.appliedEvents (past ++ [place]) ↔
      event ∈ self.appliedEvents past ∨ self.applied place = some event := by
  simp [mem_appliedEvents]

end MemoryCoordinator

private theorem Step.readsLocked_of_delivered {step : Step} (delivered : step.delivered?.isSome) :
    step.readsLocked = true := by
  unfold Step.delivered? at delivered
  unfold Step.readsLocked
  split at delivered
  · rename_i operation
    rw [operation]
  · cases delivered

namespace RecordedInOrder

variable {coordinator : MemoryCoordinator}

private theorem initial {first second} (ordered : RecordedInOrder coordinator (first ++ second)) :
    RecordedInOrder coordinator first := by
  intro one oneIn two twoIn
  rw [RecordedInOrder, List.filterMap_append] at ordered
  exact ordered one (List.mem_append_left _ oneIn) two (List.mem_append_left _ twoIn)

private theorem recorded {past} (ordered : RecordedInOrder coordinator (past.map Prod.snd))
    {first second} (one : first ∈ coordinator.appliedEvents past)
    (two : second ∈ coordinator.appliedEvents past) (older : first.sequence < second.sequence) :
    first.recordedAt ≤ second.recordedAt := by
  have delivered : ∀ event ∈ coordinator.appliedEvents past,
      event ∈ (past.map Prod.snd).filterMap Step.delivered? := by
    intro event applied
    obtain ⟨place, member, applied⟩ := mem_appliedEvents.mp applied
    have delivery := delivered_of_applied applied
    exact List.mem_filterMap.mpr ⟨place.2, List.mem_map_of_mem member, delivery⟩
  exact ordered _ (delivered _ one) _ (delivered _ two)
    (admits_of_mem one) (admits_of_mem two) older

end RecordedInOrder

namespace Projection

variable {K V : Type} [DecidableEq K] (p : Projection K V) (coordinator : MemoryCoordinator)

/-- What the past of a run says about a projection: every row is what some applied event wrote,
no applied event is forgotten while a hint recorded before it could still be alive, and an older
event takes its place only by a delivery after that time. -/
structure History (past : List Place) (state : MemoryState) : Prop where
  source : ∀ key row, (p.rows state.hintTables).get? key = some row →
    ∃ event ∈ coordinator.appliedEvents past,
      p.writes event.payload = some (key, row.value) ∧ event.sequence = row.sequence
  floor : ∀ event ∈ coordinator.appliedEvents past, ∀ key value,
    p.writes event.payload = some (key, value) →
    ∀ now, (∀ place ∈ past, place.2.clock.published ≤ now) →
      Remembers (p.rows state.hintTables) now key event.sequence
        (event.recordedAt + maxProjectionLifetime)
  late : ∀ key row, (p.rows state.hintTables).get? key = some row →
    ∀ event ∈ coordinator.appliedEvents past, ∀ value,
      p.writes event.payload = some (key, value) → row.sequence < event.sequence →
      ∃ place ∈ past, place.2.delivered?.isSome ∧
        event.recordedAt + maxProjectionLifetime ≤ place.2.clock.cleaned

variable {p coordinator}

private theorem History.start (empty : p.rows MemoryState.default.hintTables = .empty) :
    p.History coordinator [] .default where
  source := by
    intro _ _ stored
    rw [empty] at stored
    cases stored
  floor := nofun
  late := nofun

/-- A row that is still alive was written by an event at least as late as any applied one. -/
theorem History.current {past state} (history : p.History coordinator past state)
    (ordered : RecordedInOrder coordinator (past.map Prod.snd)) {now}
    (asked : ∀ place ∈ past, place.2.delivered?.isSome → place.2.clock.cleaned ≤ now) {key row}
    (stored : (sweep (p.rows state.hintTables) now).get? key = some row)
    (alive : ∀ payload, p.writes payload = some (key, row.value) →
      ∃ expiresAt, payload.expiry? = some expiresAt ∧ now < expiresAt) {event}
    (applied : event ∈ coordinator.appliedEvents past) {value}
    (writes : p.writes event.payload = some (key, value)) :
    ∃ latest ∈ coordinator.appliedEvents past,
      p.writes latest.payload = some (key, row.value) ∧ event.sequence ≤ latest.sequence := by
  have found := (get?_sweep.mp stored).1
  obtain ⟨latest, wrote, same, number⟩ := history.source key row found
  refine ⟨latest, wrote, same, ?_⟩
  by_contra stale
  have older : latest.sequence < event.sequence := not_le.mp stale
  have recorded : latest.recordedAt ≤ event.recordedAt := ordered.recorded wrote applied older
  obtain ⟨expiresAt, expiry, living⟩ := alive latest.payload same
  have bounded := (latest.lifetime (admits_of_mem wrote).valid expiry).2
  have early : now < event.recordedAt + maxProjectionLifetime :=
    calc now < expiresAt := living
      _ ≤ latest.recordedAt + maxProjectionLifetime := bounded
      _ ≤ event.recordedAt + maxProjectionLifetime := Int.add_le_add_right recorded _
  obtain ⟨place, member, delivery, elapsed⟩ :=
    history.late key row found _ applied _ writes (number ▸ older)
  exact absurd early (not_lt.mpr (le_trans elapsed (asked place member delivery)))

variable [DecidableEq V]

section

variable {past : List Place} {place : Place} (lawful : p.Lawful coordinator)
  (history : p.History coordinator past place.1)
  (clocked : place.2.delivered?.isSome →
    ∀ earlier ∈ past, earlier.2.clock.published ≤ place.2.clock.cleaned)

include lawful history

private theorem History.next_source {key row}
    (stored : (p.rows (coordinator.perform place.1 place.2).hintTables).get? key = some row) :
    ∃ event ∈ coordinator.appliedEvents (past ++ [place]),
      p.writes event.payload = some (key, row.value) ∧ event.sequence = row.sequence := by
  have changes := lawful.changes place
  generalize p.rows (coordinator.perform place.1 place.2).hintTables = rows at changes stored
  cases changes with
  | kept =>
    obtain ⟨event, applied, wrote⟩ := history.source key row stored
    exact ⟨event, mem_appliedEvents_concat.mpr (.inl applied), wrote⟩
  | swept =>
    obtain ⟨event, applied, wrote⟩ := history.source key row (get?_sweep.mp stored).1
    exact ⟨event, mem_appliedEvents_concat.mpr (.inl applied), wrote⟩
  | @written event written value kept applied admits writes =>
    rcases get?_insert_some stored with ⟨rfl, rfl⟩ | ⟨-, stored⟩
    · refine ⟨event, ?_, writes, rfl⟩
      exact mem_appliedEvents_concat.mpr (.inr applied)
    · obtain ⟨event, applied, wrote⟩ := history.source key row (get?_sweep.mp stored).1
      exact ⟨event, mem_appliedEvents_concat.mpr (.inl applied), wrote⟩

include clocked

omit [DecidableEq V] lawful in
private theorem History.swept_floor {event} (delivery : coordinator.applied place = some event)
    {earlier} (applied : earlier ∈ coordinator.appliedEvents past) {key value}
    (writes : p.writes earlier.payload = some (key, value)) :
    Remembers (sweep (p.rows place.1.hintTables) place.2.clock.cleaned) place.2.clock.cleaned key
      earlier.sequence (earlier.recordedAt + maxProjectionLifetime) := by
  have delivered : place.2.delivered?.isSome := by
    rw [delivered_of_applied delivery]
    rfl
  -- a delivery sweeps at its first reading, when the whole past is over
  have known := history.floor _ applied key _ writes place.2.clock.cleaned (clocked delivered)
  exact known.sweep (le_refl _)

private theorem History.next_floor (retention : maxProjectionLifetime ≤ coordinator.tombstoneTtl)
    (ordered : ∀ first ∈ coordinator.appliedEvents past, ∀ second,
      coordinator.applied place = some second → first.sequence < second.sequence →
      first.recordedAt ≤ second.recordedAt) {event}
    (applied : event ∈ coordinator.appliedEvents (past ++ [place])) {key value}
    (writes : p.writes event.payload = some (key, value)) {now}
    (passed : ∀ other ∈ past ++ [place], other.2.clock.published ≤ now) :
    Remembers (p.rows (coordinator.perform place.1 place.2).hintTables) now key event.sequence
      (event.recordedAt + maxProjectionLifetime) := by
  have later : place.2.clock.cleaned ≤ now :=
    calc place.2.clock.cleaned ≤ place.2.clock.applied := place.2.clock.cleanedFirst
      _ ≤ place.2.clock.published := place.2.clock.publishedLast
      _ ≤ now := passed _ (by simp)
  have changes := lawful.changes place
  generalize p.rows (coordinator.perform place.1 place.2).hintTables = rows at changes
  rcases mem_appliedEvents_concat.mp applied with earlier | current
  · have known := history.floor _ earlier key _ writes now
      fun other before => passed _ (List.mem_append_left _ before)
    cases changes with
    | kept => exact known
    | swept => exact known.sweep later
    | @written latest written _ kept current admits _ newer outlives =>
      have remembered := history.swept_floor clocked current earlier writes
      refine (remembered.insert newer ?_).wait later
      intro _ older
      have recorded := ordered _ earlier _ current older
      have lived : event.recordedAt + maxProjectionLifetime ≤
          latest.recordedAt + coordinator.tombstoneTtl :=
        Int.add_le_add recorded (Int.ofNat_le.mpr retention)
      exact le_trans lived outlives
  · cases changes with
    | kept quiet | swept quiet =>
      rw [quiet _ current] at writes
      cases writes
    | written own admits wrote newer outlives =>
      rw [own] at current
      cases current
      rw [wrote] at writes
      cases writes
      have lived : event.recordedAt + maxProjectionLifetime ≤
          event.recordedAt + coordinator.tombstoneTtl :=
        Int.add_le_add_left (Int.ofNat_le.mpr retention) _
      exact Remembers.inserted (le_trans lived outlives)

private theorem History.next_late {key row}
    (stored : (p.rows (coordinator.perform place.1 place.2).hintTables).get? key = some row) {event}
    (applied : event ∈ coordinator.appliedEvents (past ++ [place])) {value}
    (writes : p.writes event.payload = some (key, value)) (older : row.sequence < event.sequence) :
    ∃ other ∈ past ++ [place], other.2.delivered?.isSome ∧
      event.recordedAt + maxProjectionLifetime ≤ other.2.clock.cleaned := by
  have before (found : (p.rows place.1.hintTables).get? key = some row)
      (earlier : event ∈ coordinator.appliedEvents past) :
      ∃ other ∈ past ++ [place], other.2.delivered?.isSome ∧
        event.recordedAt + maxProjectionLifetime ≤ other.2.clock.cleaned := by
    obtain ⟨other, member, late⟩ := history.late key row found _ earlier _ writes older
    exact ⟨other, List.mem_append_left _ member, late⟩
  have changes := lawful.changes place
  generalize p.rows (coordinator.perform place.1 place.2).hintTables = rows at changes stored
  rcases mem_appliedEvents_concat.mp applied with earlier | current
  · cases changes with
    | kept => exact before stored earlier
    | swept => exact before (get?_sweep.mp stored).1 earlier
    | written delivery _ _ newer =>
      rcases get?_insert_some stored with ⟨rfl, rfl⟩ | ⟨-, stored⟩
      · -- an older event is written over a newer one once that is forgotten
        have delivered := delivered_of_applied delivery
        rcases history.swept_floor clocked delivery earlier writes with elapsed |
            ⟨old, found, least, -⟩
        · exact ⟨place, by simp, by rw [delivered]; rfl, elapsed⟩
        · exact absurd (newer old found) (not_lt.mpr (le_trans (le_of_lt older) least))
      · exact before (get?_sweep.mp stored).1 earlier
  · cases changes with
    | kept quiet | swept quiet =>
      rw [quiet _ current] at writes
      cases writes
    | written own _ wrote =>
      rw [own] at current
      cases current
      rw [wrote] at writes
      cases writes
      rw [Table.get?_insert_self, Option.some.injEq] at stored
      rw [← stored] at older
      exact absurd older (lt_irrefl _)

theorem History.next (retention : maxProjectionLifetime ≤ coordinator.tombstoneTtl)
    (ordered : ∀ first ∈ coordinator.appliedEvents past, ∀ second,
      coordinator.applied place = some second → first.sequence < second.sequence →
      first.recordedAt ≤ second.recordedAt) :
    p.History coordinator (past ++ [place]) (coordinator.perform place.1 place.2) where
  source _ _ stored := history.next_source lawful stored
  floor _ applied _ _ writes _ passed :=
    history.next_floor lawful clocked retention ordered applied writes passed
  late _ _ stored _ applied _ writes older :=
    history.next_late lawful clocked stored applied writes older

end

private theorem Lawful.history (lawful : p.Lawful coordinator)
    (empty : p.rows MemoryState.default.hintTables = .empty)
    (retention : maxProjectionLifetime ≤ coordinator.tombstoneTtl) {steps} (clocked : Clocked steps)
    (ordered : RecordedInOrder coordinator steps) :
    p.History coordinator (coordinator.places steps) (coordinator.final steps) := by
  -- each initial part of the run is clocked and ordered too, so the premises are carried along
  have run : Clocked ((coordinator.places steps).map Prod.snd) →
      RecordedInOrder coordinator ((coordinator.places steps).map Prod.snd) →
      p.History coordinator (coordinator.places steps) (coordinator.final steps) := by
    refine trace_induction (motive := fun past now => Clocked (past.map Prod.snd) →
      RecordedInOrder _ (past.map Prod.snd) → p.History _ past now)
      (fun _ _ => .start empty) ?_ steps
    intro past _ _ held clocked ordered
    rw [List.map_append] at clocked ordered
    obtain ⟨before, -, bounds⟩ := List.pairwise_append.mp clocked
    have history := held before ordered.initial
    refine history.next lawful ?_ retention ?_
    · intro delivered earlier member
      exact bounds earlier.2 (List.mem_map_of_mem member) _ (by simp)
        (Step.readsLocked_of_delivered delivered)
    · intro _ one _ two older
      rw [← List.map_append] at ordered
      exact ordered.recorded (mem_appliedEvents_concat.mpr (.inl one))
        (mem_appliedEvents_concat.mpr (.inr two)) older
  unfold places at run
  rw [trace_map_snd] at run
  exact run clocked ordered

end Projection

/-- The call whose route an event sets or removes. -/
def CoordinationPayload.routedCall? : CoordinationPayload → Option CallId
  | .route hint => some hint.callId
  | .routeRemoved callId => some callId
  | _ => none

/-- The attachment whose route an event sets or removes. -/
def CoordinationPayload.routedAttachment? : CoordinationPayload → Option AttachmentTokenDigest
  | .attachmentRoute hint => some hint.tokenDigest
  | .attachmentRouteRemoved digest => some digest
  | _ => none

def CoordinationPayload.marked? : CoordinationPayload → Option ReplayDigest
  | .replay marker => some marker.digest
  | _ => none

namespace Projection

private theorem routes_key (payload : CoordinationPayload) :
    (routes.writes payload).map Prod.fst = payload.routedCall? := by
  cases payload <;> rfl

variable {payload : CoordinationPayload}

private theorem routes_hint {call hint} (writes : routes.writes payload = some (call, some hint)) :
    payload = .route hint := by
  cases payload <;> simp_all [routes]

private theorem attachmentRoutes_key (payload : CoordinationPayload) :
    (attachmentRoutes.writes payload).map Prod.fst = payload.routedAttachment? := by
  cases payload <;> rfl

private theorem attachmentRoutes_hint {digest hint}
    (writes : attachmentRoutes.writes payload = some (digest, some hint)) :
    payload = .attachmentRoute hint := by
  cases payload <;> simp_all [attachmentRoutes]

private theorem replay_key (payload : CoordinationPayload) :
    (replay.writes payload).map Prod.fst = payload.marked? := by
  cases payload <;> rfl

private theorem replay_marker {digest marker}
    (writes : replay.writes payload = some (digest, marker)) :
    payload = .replay marker ∧ marker.digest = digest := by
  cases payload with
  | replay =>
    rw [replay, Option.some.injEq, Prod.mk.injEq] at writes
    obtain ⟨keyed, rfl⟩ := writes
    exact ⟨rfl, keyed⟩
  | _ => simp [replay] at writes

end Projection

/-- The hints that a run leaves, asked at the given time: each answer comes from an applied event
that is not older than the given one of the same key. -/
structure AnswersSince (coordinator : MemoryCoordinator) (steps : List Step) (now : Timestamp)
    (event : CoordinationEvent) : Prop where
  route : ∀ call hint, event.payload.routedCall? = some call →
    (routeHint now (coordinator.final steps) call).2 = .ok (some hint) →
    ∃ latest ∈ coordinator.appliedEvents (coordinator.places steps),
      latest.payload = .route hint ∧ event.sequence ≤ latest.sequence
  attachmentRoute : ∀ lookup hint,
    event.payload.routedAttachment? = some lookup.tokenDigest →
    (attachmentRouteHint now (coordinator.final steps) lookup).2 =
      .ok (some hint) →
    ∃ latest ∈ coordinator.appliedEvents (coordinator.places steps),
      latest.payload = .attachmentRoute hint ∧ event.sequence ≤ latest.sequence
  replay : ∀ digest, event.payload.marked? = some digest →
    (replaySeen now (coordinator.final steps) digest).2 = .ok true →
    ∃ latest ∈ coordinator.appliedEvents (coordinator.places steps), ∃ marker,
      latest.payload = .replay marker ∧ marker.digest = digest ∧ now < marker.expiresAt ∧
        event.sequence ≤ latest.sequence

namespace MemoryCoordinator

variable {state : MemoryState}

private theorem routeHint_some {now call hint}
    (answered : (routeHint now state call).2 = .ok (some hint)) :
    now < hint.expiresAt ∧
      ∃ row, (sweep state.routes now).get? call = some row ∧ row.value = some hint := by
  unfold routeHint at answered
  dsimp only at answered
  split at answered
  · cases answered
  · rename_i route found
    split at answered
    · cases answered
    · rename_i alive
      rw [Except.ok.injEq, Option.ite_none_right_eq_some, Option.some.injEq] at answered
      obtain ⟨-, rfl⟩ := answered
      exact ⟨not_le.mp alive, Option.bind_eq_some_iff.mp found⟩

private theorem attachmentRouteHint_some {now lookup hint}
    (answered : (attachmentRouteHint now state lookup).2 = .ok (some hint)) :
    now < hint.expiresAt ∧
      ∃ row, (sweep state.attachmentRoutes now).get? lookup.tokenDigest = some row ∧
        row.value = some hint := by
  unfold attachmentRouteHint at answered
  dsimp only at answered
  split at answered
  · cases answered
  · rename_i route found
    split at answered
    · cases answered
    · rename_i alive
      rw [Except.ok.injEq, Option.ite_none_right_eq_some, Option.some.injEq] at answered
      obtain ⟨-, rfl⟩ := answered
      have unexpired : ¬ route.expiresAt ≤ now := fun expired => alive (.inl expired)
      exact ⟨not_le.mp unexpired, Option.bind_eq_some_iff.mp found⟩

private theorem replaySeen_true {now digest} (seen : (replaySeen now state digest).2 = .ok true) :
    ∃ row, (sweep state.replay now).get? digest = some row ∧ now < row.value.expiresAt := by
  simp only [replaySeen, Except.ok.injEq, Option.any_eq_true, decide_eq_true_eq] at seen
  exact seen

private theorem retention_of_new {deployment maxStreamLen coordinator}
    (made : new deployment maxStreamLen = .ok coordinator) :
    maxProjectionLifetime ≤ coordinator.tombstoneTtl := by
  rw [new, bind_eq_ok, exists_unit, pure_eq_ok] at made
  obtain ⟨-, rfl⟩ := made
  exact le_refl _

/-- Once an event is applied, no run of the coordinator, in whatever order events are delivered
and however often, brings back the hint of an older event of the same key, unless an event is
delivered while the asker waits for the lock. -/
theorem no_resurrection {deployment : DeploymentId} {maxStreamLen : Nat}
    {coordinator : MemoryCoordinator} (made : new deployment maxStreamLen = .ok coordinator)
    {steps : List Step} (clocked : Clocked steps) (ordered : RecordedInOrder coordinator steps)
    {now : Timestamp} (asked : ∀ step ∈ steps, step.delivered?.isSome → step.clock.cleaned ≤ now)
    {event : CoordinationEvent}
    (applied : event ∈ coordinator.appliedEvents (coordinator.places steps)) :
    AnswersSince coordinator steps now event := by
  have retention := retention_of_new made
  have inputs : (coordinator.places steps).map Prod.snd = steps := trace_map_snd _ _
  have pastOrdered : RecordedInOrder coordinator ((coordinator.places steps).map Prod.snd) := by
    rw [inputs]
    exact ordered
  have passed : ∀ place ∈ coordinator.places steps, place.2.delivered?.isSome →
      place.2.clock.cleaned ≤ now := by
    intro place member
    refine asked place.2 ?_
    rw [← inputs]
    exact List.mem_map_of_mem member
  constructor
  · intro _ hint concerns answered
    obtain ⟨alive, row, stored, value⟩ := routeHint_some answered
    have history := (Projection.routes_lawful coordinator).history rfl retention clocked ordered
    rw [← Projection.routes_key, Option.map_eq_some_iff] at concerns
    obtain ⟨⟨_, written⟩, writes, rfl⟩ := concerns
    obtain ⟨latest, member, wrote, newer⟩ := history.current pastOrdered passed stored (by
      intro payload wrote
      rw [value] at wrote
      rw [Projection.routes_hint wrote]
      exact ⟨hint.expiresAt, rfl, alive⟩) applied writes
    rw [value] at wrote
    exact ⟨latest, member, Projection.routes_hint wrote, newer⟩
  · intro lookup hint concerns answered
    obtain ⟨alive, row, stored, value⟩ := attachmentRouteHint_some answered
    have history :=
      (Projection.attachmentRoutes_lawful coordinator).history rfl retention clocked ordered
    rw [← Projection.attachmentRoutes_key, Option.map_eq_some_iff] at concerns
    obtain ⟨⟨digest, written⟩, writes, same⟩ := concerns
    rw [show digest = lookup.tokenDigest from same] at writes
    obtain ⟨latest, member, wrote, newer⟩ := history.current pastOrdered passed stored (by
      intro payload wrote
      rw [value] at wrote
      rw [Projection.attachmentRoutes_hint wrote]
      exact ⟨hint.expiresAt, rfl, alive⟩) applied writes
    rw [value] at wrote
    exact ⟨latest, member, Projection.attachmentRoutes_hint wrote, newer⟩
  · intro digest concerns seen
    obtain ⟨row, stored, alive⟩ := replaySeen_true seen
    have history := (Projection.replay_lawful coordinator).history rfl retention clocked ordered
    rw [← Projection.replay_key, Option.map_eq_some_iff] at concerns
    obtain ⟨⟨_, written⟩, writes, rfl⟩ := concerns
    obtain ⟨latest, member, wrote, newer⟩ := history.current pastOrdered passed stored (by
      intro payload wrote
      rw [(Projection.replay_marker wrote).1]
      exact ⟨row.value.expiresAt, rfl, alive⟩) applied writes
    obtain ⟨same, keyed⟩ := Projection.replay_marker wrote
    exact ⟨latest, member, row.value, same, keyed, alive, newer⟩

namespace Sample

def coordinator : MemoryCoordinator where
  deployment := ⟨"edge"⟩
  maxStreamLen := 8
  tombstoneTtl := defaultTombstoneTtl
  streamTtl := defaultStreamTtl

def lease : WorkerLease := ⟨⟨1⟩, 1⟩

/-- The only worker, seen alive at the given time for a whole day. -/
def worker (sequence : Nat) (recordedAt : Timestamp) : CoordinationEvent where
  deployment := ⟨"edge"⟩
  sequence := sequence
  payload := .worker ⟨lease, 4, 0, false, .empty, recordedAt + maxProjectionLifetime⟩
  recordedAt := recordedAt

def hint (recordedAt : Timestamp) : CallRouteHint :=
  ⟨⟨7⟩, lease, recordedAt + maxProjectionLifetime⟩

def routed (sequence : Nat) (recordedAt : Timestamp) : CoordinationEvent :=
  ⟨⟨"edge"⟩, sequence, .route (hint recordedAt), recordedAt⟩

def removed (sequence : Nat) (recordedAt : Timestamp) : CoordinationEvent :=
  ⟨⟨"edge"⟩, sequence, .routeRemoved ⟨7⟩, recordedAt⟩

def deliver (now : Timestamp) (event : CoordinationEvent) : Step := ⟨.always now, .apply event⟩

/-- A route, its removal, the first route again, and a new route. -/
def rerouted : List Step :=
  [deliver 0 (worker 1 0), deliver 0 (routed 2 0), deliver 1 (removed 3 1),
    deliver 2 (routed 2 0), deliver 9 (routed 4 5)]

/-- A route is delivered again when its removal has been forgotten. -/
def forgotten : List Step :=
  [deliver 0 (worker 1 0), deliver 0 (routed 2 0), deliver 0 (removed 3 0),
    deliver maxProjectionLifetime (routed 2 0)]

end Sample

theorem no_resurrection_rerouted :
    (routeHint 20 (Sample.coordinator.final Sample.rerouted) ⟨7⟩).2 = .ok (some (Sample.hint 5)) ∧
      ∃ latest ∈ Sample.coordinator.appliedEvents (Sample.coordinator.places Sample.rerouted),
        latest.payload = .route (Sample.hint 5) ∧ 3 ≤ latest.sequence := by
  have answered : (routeHint 20 (Sample.coordinator.final Sample.rerouted) ⟨7⟩).2 =
      .ok (some (Sample.hint 5)) := by decide +kernel
  have made : new ⟨"edge"⟩ 8 = .ok Sample.coordinator := by decide +kernel
  have clocked : Clocked Sample.rerouted := by
    unfold Clocked
    decide +kernel
  have ordered : RecordedInOrder Sample.coordinator Sample.rerouted := by
    unfold RecordedInOrder
    decide +kernel
  have applied : Sample.removed 3 1 ∈
      Sample.coordinator.appliedEvents (Sample.coordinator.places Sample.rerouted) := by
    decide +kernel
  exact ⟨answered, (no_resurrection made clocked ordered (by decide +kernel) applied).route ⟨7⟩
    (Sample.hint 5) rfl answered⟩

/-- An asker has read the clock a nanosecond before the route expires. The route is delivered
again before the asker gets the lock, and the removal is forgotten by then. -/
theorem overtaken_asker_resurrects :
    new ⟨"edge"⟩ 8 = .ok Sample.coordinator ∧ Clocked Sample.forgotten ∧
      RecordedInOrder Sample.coordinator Sample.forgotten ∧
      Sample.removed 3 0 ∈
        Sample.coordinator.appliedEvents (Sample.coordinator.places Sample.forgotten) ∧
      ¬ AnswersSince Sample.coordinator Sample.forgotten (maxProjectionLifetime - 1)
        (Sample.removed 3 0) := by
  refine ⟨by decide +kernel, ?_, ?_, by decide +kernel, ?_⟩
  · unfold Clocked
    decide +kernel
  · unfold RecordedInOrder
    decide +kernel
  · intro answers
    obtain ⟨latest, applied, routed, newer⟩ :=
      answers.route ⟨7⟩ (Sample.hint 0) rfl (by decide +kernel)
    have older : ∀ event ∈ Sample.coordinator.appliedEvents
        (Sample.coordinator.places Sample.forgotten),
        event.payload = .route (Sample.hint 0) → event.sequence = 2 := by decide +kernel
    rw [older latest applied routed] at newer
    exact absurd newer (by decide)

end MemoryCoordinator

end Bridgefu.Coordination
