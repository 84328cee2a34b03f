/- digest: Coordinators that were told the same events hold the same hints, the newest ones. -/

import Bridgefu.Coordination.Hints

set_option autoImplicit false

/-! Deliveries may come in any order and any number of times. As long as no row is swept, each key
holds the write of its largest sequence, so the order and the repetitions do not matter. -/

namespace Bridgefu.Coordination

open Lib CallEngine Projection Table

variable {V K : Type}

section Writes

variable [DecidableEq K] {values : Projected K V} {written : K → Versioned Nat Timestamp V → Prop}
  {key : K} {row : Versioned Nat Timestamp V}

def WrittenAlso (written : K → Versioned Nat Timestamp V → Prop) (key : K)
    (row : Versioned Nat Timestamp V) (other : K) (item : Versioned Nat Timestamp V) : Prop :=
  written other item ∨ (other = key ∧ item = row)

variable (held : ∀ key, Newest (written key) (values.get? key))
include held

private theorem newest_elsewhere {other} (different : other ≠ key) :
    Newest (WrittenAlso written key row other) (values.get? other) := by
  refine (held other).congr fun _ => ?_
  constructor
  · rintro (old | ⟨equal, -⟩)
    · exact old
    · exact absurd equal different
  · exact .inl

private theorem newest_stored (newer : ∀ old, written key old → old.sequence < row.sequence)
    (other : K) :
    Newest (WrittenAlso written key row other) ((values.insert key row).get? other) := by
  by_cases equal : other = key
  · rw [equal, get?_insert_self]
    refine ⟨.inr ⟨rfl, rfl⟩, ?_⟩
    rintro _ (old | ⟨-, rfl⟩)
    · exact le_of_lt (newer _ old)
    · exact le_rfl
  · rw [get?_insert_ne _ _ equal]
    exact newest_elsewhere held equal

private theorem newest_ignored {existing} (found : values.get? key = some existing)
    (older : row.sequence ≤ existing.sequence) (other : K) :
    Newest (WrittenAlso written key row other) (values.get? other) := by
  by_cases equal : other = key
  · have here := held key
    rw [found] at here
    rw [equal, found]
    refine ⟨.inl here.1, ?_⟩
    rintro _ (old | ⟨-, rfl⟩)
    · exact here.2 _ old
    · exact older
  · exact newest_elsewhere held equal

private theorem applyVersioned_newest [DecidableEq V]
    (consistent : ∀ old, written key old → old.sequence = row.sequence → old.value = row.value) :
    ∃ next outcome,
      applyVersioned values key row.sequence row.value row.retainedUntil = .ok (next, outcome) ∧
        ∀ other, Newest (WrittenAlso written key row other) (next.get? other) := by
  have here := held key
  unfold applyVersioned
  cases found : values.get? key with
  | none =>
    rw [found] at here
    exact ⟨_, _, rfl, newest_stored held fun old told => absurd told (here old)⟩
  | some existing =>
    rw [found] at here
    dsimp only
    by_cases older : row.sequence < existing.sequence
    · rw [if_pos older]
      exact ⟨_, _, rfl, newest_ignored held found (le_of_lt older)⟩
    · rw [if_neg older]
      by_cases equal : row.sequence = existing.sequence
      · have repeated : row.value = existing.value :=
          (consistent existing here.1 equal.symm).symm
        rw [if_pos equal, if_pos repeated]
        exact ⟨_, _, rfl, newest_ignored held found (le_of_eq equal)⟩
      · rw [if_neg equal]
        refine ⟨_, _, rfl, newest_stored held fun old told => ?_⟩
        have bound := here.2 old told
        omega

private theorem MemoryCoordinator.project_newest [DecidableEq V] {self : MemoryCoordinator}
    (consistent : ∀ old, written key old → old.sequence = row.sequence → old.value = row.value)
    {now expiry store}
    (retained : retainedUntil expiry now self.tombstoneTtl = .ok row.retainedUntil) :
    ∃ next outcome,
      self.project now expiry values store key row.sequence row.value = .ok (store next, outcome) ∧
        ∀ other, Newest (WrittenAlso written key row other) (next.get? other) := by
  obtain ⟨next, outcome, done, newest⟩ := applyVersioned_newest held consistent
  refine ⟨next, outcome, ?_, newest⟩
  simp only [project, bind_eq_ok, pure_eq_ok, Prod.mk.injEq]
  exact ⟨row.retainedUntil, retained, (next, outcome), done, rfl, rfl⟩

end Writes

/-- An event, and what the clock shows to the coordinator that it is delivered to. -/
structure Delivery where
  clock : ClockReadings
  event : CoordinationEvent

namespace MemoryCoordinator

variable (self : MemoryCoordinator)

def deliver (state : MemoryState) (delivery : Delivery) : MemoryState :=
  (self.apply delivery.clock state delivery.event).1

/-- The tables of a coordinator that was told the deliveries and nothing else. -/
def told (deliveries : List Delivery) : HintTables :=
  (deliveries.foldl self.deliver .default).hintTables

/-- No delivery finds a row to clean up. -/
def Undisturbed (deliveries : List Delivery) : Prop :=
  ∀ place ∈ trace self.deliver .default deliveries,
    place.1.hintTables.sweep place.2.clock.cleaned = place.1.hintTables

/-- The retention of the event ends at a time that can be represented. -/
def Retains (delivery : Delivery) : Prop :=
  self.tombstoneTtl ≤ maxSignedDuration ∧
    max delivery.event.keptFrom delivery.clock.applied + self.tombstoneTtl ≤ maxTimestamp

instance (delivery : Delivery) : Decidable (self.Retains delivery) := by
  unfold Retains
  infer_instance

def rowOf {V : Type} (delivery : Delivery) (value : V) : Versioned Nat Timestamp V where
  sequence := delivery.event.sequence
  value := value
  retainedUntil := max delivery.event.keptFrom delivery.clock.applied + self.tombstoneTtl

private theorem retainedUntil_of_retains {V delivery} {value : V}
    (retains : self.Retains delivery) :
    retainedUntil delivery.event.keptFrom delivery.clock.applied self.tombstoneTtl =
      .ok (self.rowOf delivery value).retainedUntil := by
  simp only [retainedUntil, bind_eq_ok, exists_unit, reject_eq_ok]
  exact ⟨not_lt.mpr retains.1, not_lt.mpr retains.2, rfl⟩

end MemoryCoordinator

/-- One payload for each sequence. -/
def Consistent (deliveries : List Delivery) : Prop :=
  ∀ first ∈ deliveries, ∀ second ∈ deliveries, first.event.sequence = second.event.sequence →
    first.event.payload = second.event.payload

namespace Projection

variable {p : Projection K V} {coordinator : MemoryCoordinator}

/-- The rows that the deliveries write to a key. -/
def Written (p : Projection K V) (coordinator : MemoryCoordinator) (deliveries : List Delivery)
    (key : K) (row : Versioned Nat Timestamp V) : Prop :=
  ∃ delivery ∈ deliveries, p.writes delivery.event.payload = some (key, row.value) ∧
    row = coordinator.rowOf delivery row.value

/-- Every key holds the newest write that was delivered. -/
def Holds [DecidableEq K] (p : Projection K V) (coordinator : MemoryCoordinator) (deliveries : List Delivery)
    (tables : HintTables) : Prop :=
  ∀ key, Newest (p.Written coordinator deliveries key) ((p.rows tables).get? key)

variable {deliveries : List Delivery} {delivery : Delivery}

private theorem written_concat {key row} :
    p.Written coordinator (deliveries ++ [delivery]) key row ↔
      p.Written coordinator deliveries key row ∨
        (p.writes delivery.event.payload = some (key, row.value) ∧
          row = coordinator.rowOf delivery row.value) := by
  simp [Written]

private theorem written_agrees (consistent : Consistent (deliveries ++ [delivery])) {key value}
    (writes : p.writes delivery.event.payload = some (key, value)) {old}
    (told : p.Written coordinator deliveries key old)
    (same : old.sequence = delivery.event.sequence) : old.value = value := by
  obtain ⟨earlier, member, wrote, made⟩ := told
  have sequence : earlier.event.sequence = delivery.event.sequence := by
    rw [← same, made]
    rfl
  have payload := consistent _ (List.mem_append_left _ member) _ (by simp) sequence
  rw [payload, writes] at wrote
  cases wrote
  rfl

private theorem Holds.retained [DecidableEq K] {tables}
    (held : p.Holds coordinator deliveries tables) (positive : 0 < coordinator.tombstoneTtl) {now}
    (frozen : ∀ delivery ∈ deliveries, delivery.clock.applied = now) :
    sweep (p.rows tables) now = p.rows tables := by
  refine sweep_eq_self fun key row stored => ?_
  have newest := held key
  rw [stored] at newest
  obtain ⟨delivery, member, -, made⟩ := newest.1
  have later : now ≤ max delivery.event.keptFrom delivery.clock.applied :=
    frozen delivery member ▸ le_max_right _ _
  have longer : now < now + coordinator.tombstoneTtl :=
    Int.lt_add_of_pos_right _ (by exact_mod_cast positive)
  calc now < now + coordinator.tombstoneTtl := longer
    _ ≤ max delivery.event.keptFrom delivery.clock.applied + coordinator.tombstoneTtl :=
      Int.add_le_add_right later _
    _ = row.retainedUntil := by rw [made]; rfl

variable [DecidableEq K] [DecidableEq V]

private theorem Placed.deliver_holds (placed : p.Placed coordinator) {state}
    (held : p.Holds coordinator deliveries state.hintTables)
    (admits : coordinator.Admits delivery.event) (retains : coordinator.Retains delivery)
    (consistent : Consistent (deliveries ++ [delivery]))
    (undisturbed : state.hintTables.sweep delivery.clock.cleaned = state.hintTables) :
    p.Holds coordinator (deliveries ++ [delivery])
      (coordinator.deliver state delivery).hintTables := by
  unfold MemoryCoordinator.deliver
  have unswept : sweep (p.rows state.hintTables) delivery.clock.cleaned =
      p.rows state.hintTables := by
    rw [← p.rows_sweep, undisturbed]
  cases writes : p.writes delivery.event.payload with
  | none =>
    rw [Holds, placed.silent delivery.clock _ delivery.event admits writes, unswept]
    refine fun key => (held key).congr fun row => ?_
    rw [written_concat, writes]
    simp
  | some write =>
    obtain ⟨key, value⟩ := write
    obtain ⟨store, reads, runs⟩ :=
      placed.written delivery.clock state delivery.event key value admits writes
    have agrees : ∀ old, p.Written coordinator deliveries key old →
        old.sequence = (coordinator.rowOf delivery value).sequence →
        old.value = (coordinator.rowOf delivery value).value :=
      fun _ told same => written_agrees consistent writes told same
    obtain ⟨next, outcome, done, newest⟩ :=
      MemoryCoordinator.project_newest held agrees (coordinator.retainedUntil_of_retains retains)
    rw [← unswept, ← p.rows_sweep] at done
    rw [runs, show coordinator.project delivery.clock.applied delivery.event.keptFrom
      (p.rows (cleanupLocked _ delivery.clock.cleaned).hintTables) _ key
      delivery.event.sequence value = .ok (store next, outcome) from done]
    show p.Holds coordinator (deliveries ++ [delivery]) (store next).hintTables
    rw [Holds, reads]
    refine fun other => (newest other).congr fun row => ?_
    rw [written_concat, writes]
    constructor
    · rintro (old | ⟨wrote, made⟩)
      · exact .inl old
      · cases wrote
        exact .inr ⟨rfl, made⟩
    · rintro (old | ⟨rfl, rfl⟩)
      · exact .inl old
      · exact .inr ⟨rfl, rfl⟩

private theorem Placed.told_holds (placed : p.Placed coordinator)
    (admits : ∀ delivery ∈ deliveries, coordinator.Admits delivery.event)
    (retains : ∀ delivery ∈ deliveries, coordinator.Retains delivery)
    (consistent : Consistent deliveries) (undisturbed : coordinator.Undisturbed deliveries)
    (empty : p.rows (MemoryState.default).hintTables = .empty) :
    p.Holds coordinator deliveries (coordinator.told deliveries) := by
  -- the induction takes the last delivery off, since the state that it finds is the run before it
  induction deliveries using List.reverseRecOn with
  | nil =>
    intro key
    show Newest _ ((p.rows (MemoryState.default).hintTables).get? key)
    rw [empty]
    rintro _ ⟨delivery, member, -⟩
    exact absurd member List.not_mem_nil
  | append_singleton earlier last ih =>
    have before : p.Holds coordinator earlier (coordinator.told earlier) := by
      refine ih (fun delivery member => admits _ (List.mem_append_left _ member))
        (fun delivery member => retains _ (List.mem_append_left _ member))
        (fun _ one _ two => consistent _ (List.mem_append_left _ one) _
          (List.mem_append_left _ two)) ?_
      intro _ member
      refine undisturbed _ ?_
      rw [trace_append]
      exact List.mem_append_left _ member
    have found : (earlier.foldl coordinator.deliver .default, last) ∈
        trace coordinator.deliver .default (earlier ++ [last]) := by
      rw [trace_append]
      exact List.mem_append_right _ (List.mem_cons_self)
    have next := placed.deliver_holds before (admits _ (by simp)) (retains last (by simp))
      consistent (undisturbed _ found)
    unfold MemoryCoordinator.told
    rw [List.foldl_append]
    exact next

/-- Two projections of the same events: each key holds its newest write, with the same sequence and
value in both. They are the same rows when the events are kept from the same time on. -/
structure Converges (p : Projection K V) (left right : MemoryCoordinator)
    (first second : List Delivery) : Prop where
  newest : p.Holds left first (left.told first)
  same : ∀ key, ((p.rows (left.told first)).get? key).map (fun row => (row.sequence, row.value)) =
    ((p.rows (right.told second)).get? key).map fun row => (row.sequence, row.value)
  equal : left.tombstoneTtl = right.tombstoneTtl →
    (∀ one ∈ first, ∀ two ∈ second, one.event.sequence = two.event.sequence →
      one.event = two.event ∧ one.clock.applied = two.clock.applied) →
    ∀ key, (p.rows (left.told first)).get? key = (p.rows (right.told second)).get? key

end Projection

private theorem MemoryCoordinator.undisturbed_of_frozen {coordinator : MemoryCoordinator}
    (positive : 0 < coordinator.tombstoneTtl) {now deliveries}
    (frozen : ∀ delivery ∈ deliveries, delivery.clock = .always now)
    (admits : ∀ delivery ∈ deliveries, coordinator.Admits delivery.event)
    (retains : ∀ delivery ∈ deliveries, coordinator.Retains delivery)
    (consistent : Consistent deliveries) : coordinator.Undisturbed deliveries := by
  induction deliveries using List.reverseRecOn with
  | nil => exact fun place member => absurd member List.not_mem_nil
  | append_singleton earlier last ih =>
    have within : ∀ {delivery}, delivery ∈ earlier → delivery ∈ earlier ++ [last] :=
      fun member => List.mem_append_left _ member
    have told := fun delivery member => admits delivery (within member)
    have kept := fun delivery member => retains delivery (within member)
    have fits : Consistent earlier := fun _ one _ two =>
      consistent _ (within one) _ (within two)
    have undisturbed := ih (fun delivery member => frozen _ (within member)) told kept fits
    have applied : ∀ delivery ∈ earlier, delivery.clock.applied = now := by
      intro delivery member
      rw [frozen _ (within member)]
      rfl
    intro place member
    rw [trace_append] at member
    rcases List.mem_append.mp member with old | new
    · exact undisturbed _ old
    · rw [trace, trace, List.mem_singleton] at new
      have clock : place.2.clock.cleaned = now := by
        rw [new, frozen _ (by simp)]
        rfl
      rw [new] at clock ⊢
      rw [show last.clock.cleaned = now from clock]
      have routes := ((routes_placed coordinator).told_holds told kept fits undisturbed
        rfl).retained positive applied
      have attachmentRoutes := ((attachmentRoutes_placed coordinator).told_holds told
        kept fits undisturbed rfl).retained positive applied
      have replay := ((replay_placed coordinator).told_holds told kept fits undisturbed
        rfl).retained positive applied
      exact congr (congrArg₂ HintTables.mk routes attachmentRoutes) replay

/-- Two coordinators are told the same valid events, one payload for each sequence, in any order
and any number of times. Nothing is cleaned up meanwhile, and every retention ends at a time that
can be represented. -/
structure ToldSame (left right : MemoryCoordinator) (first second : List Delivery) : Prop where
  events : ∀ event, event ∈ first.map (·.event) ↔ event ∈ second.map (·.event)
  consistent : Consistent first
  admitted : ∀ delivery ∈ first, left.Admits delivery.event ∧ right.Admits delivery.event
  undisturbedLeft : left.Undisturbed first
  undisturbedRight : right.Undisturbed second
  retainedLeft : ∀ delivery ∈ first, left.Retains delivery
  retainedRight : ∀ delivery ∈ second, right.Retains delivery

namespace ToldSame

variable {left right : MemoryCoordinator} {first second : List Delivery}

variable {delivery : Delivery}

section

variable (told : ToldSame left right first second)
include told

private theorem exists_left (member : delivery ∈ second) :
    ∃ other ∈ first, other.event = delivery.event := by
  have known := (told.events delivery.event).mpr (List.mem_map_of_mem member)
  exact List.mem_map.mp known

private theorem exists_right (member : delivery ∈ first) :
    ∃ other ∈ second, other.event = delivery.event := by
  have known := (told.events delivery.event).mp (List.mem_map_of_mem member)
  exact List.mem_map.mp known

private theorem consistent_right : Consistent second := by
  intro _ firstMember _ secondMember same
  obtain ⟨_, member, event⟩ := told.exists_left firstMember
  obtain ⟨_, member', event'⟩ := told.exists_left secondMember
  have payload := told.consistent _ member _ member' (by rw [event, event', same])
  rwa [event, event'] at payload

private theorem admitted_right (member : delivery ∈ second) : right.Admits delivery.event := by
  obtain ⟨_, known, event⟩ := told.exists_left member
  exact event ▸ (told.admitted _ known).2

end

variable [DecidableEq K] [DecidableEq V] {p : Projection K V}

private theorem converges (told : ToldSame left right first second) (placed : p.Placed left)
    (placed' : p.Placed right) (empty : p.rows (MemoryState.default).hintTables = .empty) :
    p.Converges left right first second := by
  have newest := placed.told_holds (fun delivery member => (told.admitted _ member).1)
    told.retainedLeft told.consistent told.undisturbedLeft empty
  have newest' := placed'.told_holds (fun _ member => told.admitted_right member)
    told.retainedRight told.consistent_right told.undisturbedRight empty
  -- a row of one run has a row of the same sequence in the other
  have known : ∀ key row, p.Written left first key row →
      ∃ other, p.Written right second key other ∧ other.sequence = row.sequence := by
    rintro key row ⟨delivery, member, writes, made⟩
    obtain ⟨other, heard, event⟩ := told.exists_right member
    refine ⟨right.rowOf _ row.value, ⟨other, heard, event ▸ writes, rfl⟩, ?_⟩
    rw [made]
    exact congrArg CoordinationEvent.sequence event
  have known' : ∀ key row, p.Written right second key row →
      ∃ other, p.Written left first key other ∧ other.sequence = row.sequence := by
    rintro key row ⟨delivery, member, writes, made⟩
    obtain ⟨other, heard, event⟩ := told.exists_left member
    refine ⟨left.rowOf _ row.value, ⟨other, heard, event ▸ writes, rfl⟩, ?_⟩
    rw [made]
    exact congrArg CoordinationEvent.sequence event
  refine ⟨newest, fun key => ?_, fun lifetime exact key => ?_⟩
  · refine (newest key).unique (newest' key) (known key) (known' key) ?_
    rintro row other ⟨delivery, member, writes, made⟩ ⟨delivery', member', writes', made'⟩ same
    obtain ⟨heard, also, event⟩ := told.exists_left member'
    have sequence : delivery.event.sequence = heard.event.sequence := by
      rw [made, made'] at same
      exact same.trans (congrArg CoordinationEvent.sequence event).symm
    have payload := told.consistent _ member _ also sequence
    rw [payload, event, writes'] at writes
    simp only [Option.some.injEq, Prod.mk.injEq, true_and] at writes
    rw [same, writes]
  · have agree : ((p.rows (left.told first)).get? key).map id =
        ((p.rows (right.told second)).get? key).map id := by
      refine (newest key).unique (newest' key) (known key) (known' key) ?_
      rintro row other ⟨delivery, member, writes, made⟩ ⟨delivery', member', writes', made'⟩ same
      have sequence : delivery.event.sequence = delivery'.event.sequence := by
        rw [made, made'] at same
        exact same
      obtain ⟨event, clock⟩ := exact delivery member _ member' sequence
      rw [event, writes'] at writes
      simp only [Option.some.injEq, Prod.mk.injEq, true_and] at writes
      rw [id, id, made, made', writes]
      simp only [MemoryCoordinator.rowOf, event, clock, lifetime]
    simpa using agree

end ToldSame

/-- Coordinators that are told the same events hold the same routes, attachment routes and replay
markers, and each key holds the event of its largest sequence. -/
theorem projections_converge {left right : MemoryCoordinator} {first second : List Delivery}
    (told : ToldSame left right first second) :
    Projection.routes.Converges left right first second ∧
      Projection.attachmentRoutes.Converges left right first second ∧
      Projection.replay.Converges left right first second :=
  ⟨told.converges (routes_placed left) (routes_placed right) rfl,
    told.converges (attachmentRoutes_placed left)
      (attachmentRoutes_placed right) rfl,
    told.converges (replay_placed left) (replay_placed right) rfl⟩

namespace MemoryCoordinator.Sample

/-- Events delivered one after the other while the clock stands still. -/
def frozen (now : Timestamp) (events : List CoordinationEvent) : List Delivery :=
  events.map fun event => ⟨.always now, event⟩

def inOrder : List Delivery := frozen 9 [routed 2 0, removed 3 1, routed 2 0, routed 4 5]

def outOfOrder : List Delivery := frozen 9 [routed 4 5, removed 3 1, routed 2 0]

/-- A route recorded so late that its retention would end after the largest time. -/
def lateRoute : CoordinationEvent where
  deployment := ⟨"edge"⟩
  sequence := 1
  payload := .route ⟨⟨7⟩, lease, maxTimestamp - maxProjectionLifetime + 1⟩
  recordedAt := maxTimestamp - maxProjectionLifetime

end MemoryCoordinator.Sample

section Witness

open MemoryCoordinator

theorem projections_converge_rerouted :
    ((Sample.coordinator.told Sample.inOrder).routes.get? ⟨7⟩).map (fun row => row.sequence) =
        some 4 ∧
      ∀ key, ((Sample.coordinator.told Sample.inOrder).routes.get? key).map
          (fun row => (row.sequence, row.value)) =
        ((Sample.coordinator.told Sample.outOfOrder).routes.get? key).map
          fun row => (row.sequence, row.value) := by
  have positive : 0 < Sample.coordinator.tombstoneTtl := by decide
  have admitted : ∀ delivery ∈ Sample.inOrder, Sample.coordinator.Admits delivery.event := by
    decide +kernel
  have retained : ∀ delivery ∈ Sample.inOrder, Sample.coordinator.Retains delivery := by
    decide +kernel
  have retained' : ∀ delivery ∈ Sample.outOfOrder, Sample.coordinator.Retains delivery := by
    decide +kernel
  have consistent : Consistent Sample.inOrder := by
    unfold Consistent
    decide +kernel
  have consistent' : Consistent Sample.outOfOrder := by
    unfold Consistent
    decide +kernel
  have still : ∀ delivery ∈ Sample.inOrder, delivery.clock = .always 9 := by decide +kernel
  have still' : ∀ delivery ∈ Sample.outOfOrder, delivery.clock = .always 9 := by decide +kernel
  have told : ToldSame Sample.coordinator Sample.coordinator Sample.inOrder Sample.outOfOrder := {
    events := by
      intro event
      simp only [Sample.inOrder, Sample.outOfOrder, Sample.frozen, List.map_cons, List.mem_cons]
      tauto
    consistent := consistent
    admitted := fun delivery member => ⟨admitted delivery member, admitted delivery member⟩
    undisturbedLeft := undisturbed_of_frozen positive still admitted retained consistent
    undisturbedRight := undisturbed_of_frozen positive still' (by decide +kernel) retained'
      consistent'
    retainedLeft := retained
    retainedRight := retained' }
  exact ⟨by decide +kernel, (projections_converge told).1.same⟩

/-- A valid event that a coordinator with the default retention refuses. -/
theorem late_route_refused :
    Sample.coordinator.Admits Sample.lateRoute ∧
      (Sample.coordinator.apply (.always 0) .default Sample.lateRoute).2 = .error .invalidData ∧
      (Sample.coordinator.told (Sample.frozen 0 [Sample.lateRoute])).routes.get? ⟨7⟩ = none := by
  decide +kernel

end Witness

end Bridgefu.Coordination
