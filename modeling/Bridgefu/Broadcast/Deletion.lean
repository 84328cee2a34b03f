/- digest: A broadcast that is being deleted does not come back, where completions fit the record. -/

import Bridgefu.Broadcast.Changes

set_option autoImplicit false

/-! A completion is accepted for the sake of its claim alone. The start and the stop command of a
broadcast are claimed independently, so a start may be reported after the stop. -/

namespace Bridgefu.Broadcast

open Lib CallEngine Table

def BroadcastCommandResult.Fits (result : BroadcastCommandResult) (state : DurableBroadcastState) :
    Prop :=
  match result with
  | .started _ => state = .pending
  | .stopped => True
  | .failed _ => state ≠ .deleted

instance (result : BroadcastCommandResult) (state : DurableBroadcastState) :
    Decidable (result.Fits state) := by
  unfold BroadcastCommandResult.Fits
  split <;> infer_instance

private theorem Completion.recordState_of_stopped {kind completion}
    (outcome : Completion.of kind .stopped = .ok completion) :
    completion.recordState = .deleted := by
  cases kind <;> cases outcome
  rfl

section Runs

variable [UuidLibrary]

/-- A new broadcast has a new identifier, and an accepted result fits the record. -/
def Permissible (state : MemoryBroadcastState) : Operation → Prop
  | .enqueueStart checkedAt _ commandId specification identity maxActive =>
    state.Creates checkedAt commandId specification identity maxActive →
      state.records.get? specification.broadcastId = none
  | .complete _ claim result => ∀ command ∈ state.held? claim,
      ∀ record ∈ state.records.get? command.broadcastId,
        (Completion.of claim.kind result).isOk → result.Fits record.state
  | _ => True

instance (state : MemoryBroadcastState) (operation : Operation) :
    Decidable (Permissible state operation) := by
  unfold Permissible
  split <;> infer_instance

def DurableBroadcastState.isLeaving : DurableBroadcastState → Bool
  | .deleting | .deleted | .failed => true
  | .pending | .active => false

variable {state : MemoryBroadcastState} {operation : Operation} {id : String}
  {record : DurableBroadcastRecord}

private theorem leaving_perform (permissible : Permissible state operation)
    (stored : state.records.get? id = some record) (leaving : record.state.isLeaving) :
    ∃ after, (perform state operation).records.get? id = some after ∧ after.state.isLeaving := by
  have change := perform_record state operation id
  generalize (perform state operation).records.get? id = left at change
  cases change with
  | kept => exact ⟨record, stored, leaving⟩
  | created creates own =>
    subst own
    rw [permissible creates] at stored
    cases stored
  | deleting | cleared => exact ⟨_, rfl, rfl⟩
  | @completed _ _ result _ completion _ held own outcome found =>
    subst own
    have fits := permissible _ held _ stored (by rw [outcome]; rfl)
    refine ⟨_, rfl, ?_⟩
    cases result with
    | started =>
      have pending : record.state = .pending := fits
      rw [pending] at leaving
      cases leaving
    | stopped =>
      show completion.recordState.isLeaving = true
      rw [Completion.recordState_of_stopped outcome]
      rfl
    | failed =>
      cases outcome
      rfl
  | failed | stale | reconciled => exact ⟨_, rfl, rfl⟩
  | cleaned found failed =>
    refine ⟨_, rfl, ?_⟩
    rw [failed]
    rfl

private theorem deleted_perform (wellFormed : WellFormed state)
    (permissible : Permissible state operation)
    (stored : state.records.get? id = some record) (deleted : record.state = .deleted) :
    ∃ after, (perform state operation).records.get? id = some after ∧ after.state = .deleted := by
  have change := perform_record state operation id
  generalize (perform state operation).records.get? id = left at change
  cases change with
  | kept => exact ⟨record, stored, deleted⟩
  | created creates own =>
    subst own
    rw [permissible creates] at stored
    cases stored
  | deleting found isOpen | reconciled found isOpen | cleaned found isOpen =>
    rw [stored] at found
    cases found
    rw [deleted] at isOpen
    cases isOpen
  | cleared => exact ⟨_, rfl, rfl⟩
  | @completed _ _ result _ _ _ held own outcome found =>
    subst own
    have fits := permissible _ held _ stored (by rw [outcome]; rfl)
    cases result with
    | started =>
      have pending : record.state = .pending := fits
      rw [deleted] at pending
      cases pending
    | stopped => exact ⟨_, rfl, Completion.recordState_of_stopped outcome⟩
    | failed => exact absurd deleted fits
  | failed found occupies =>
    rw [stored] at found
    cases found
    simp [DurableBroadcastRecord.occupies, deleted, DurableBroadcastState.isOpen] at occupies
  | stale found listed =>
    have stale := wellFormed.stale stored listed
    simp [DurableBroadcastRecord.isStale, deleted, DurableBroadcastState.isOpen,
      wellFormed.clean id record stored deleted] at stale

variable {worker : WorkerLease} {operations : List Operation}

private theorem occupies_perform (permissible : Permissible state operation) {after}
    (stored : (perform state operation).records.get? id = some after)
    (occupies : after.occupies worker) :
    (∃ before, state.records.get? id = some before ∧ before.occupies worker) ∨
      ∃ checkedAt now commandId specification identity maxActive,
        operation = .enqueueStart checkedAt now commandId specification identity maxActive ∧
          specification.broadcastId = id ∧ specification.worker = worker ∧
          state.Creates checkedAt commandId specification identity maxActive := by
  have change := perform_record state operation id
  rw [stored] at change
  -- a record that takes no place is excluded by its state
  simp only [DurableBroadcastRecord.occupies, Bool.and_eq_true, decide_eq_true_eq] at occupies ⊢
  obtain ⟨own, isOpen⟩ := occupies
  generalize left : some after = final at change
  cases change with
  | kept => exact .inl ⟨after, left.symm, own, isOpen⟩
  | created creates same =>
    cases left
    exact .inr ⟨_, _, _, _, _, _, rfl, same, own, creates⟩
  | @deleting _ _ _ _ _ _ record found wasOpen =>
    cases left
    exact .inl ⟨record, found, own, wasOpen⟩
  | cleared =>
    cases left
    cases isOpen
  | @completed now _ result _ completion record held same outcome found =>
    cases left
    subst same
    have fits := permissible _ held _ found (by rw [outcome]; rfl)
    cases result with
    | started =>
      have pending : record.state = .pending := fits
      exact .inl ⟨record, found, own, by rw [pending]; rfl⟩
    | stopped =>
      have deleted : (record.completed completion now).state = .deleted :=
        Completion.recordState_of_stopped outcome
      rw [deleted] at isOpen
      cases isOpen
    | failed =>
      cases outcome
      cases isOpen
  | failed | stale | reconciled =>
    cases left
    cases isOpen
  | @cleaned _ _ _ record found failed =>
    cases left
    rw [failed] at isOpen
    cases isOpen

/-- Every operation of the run is permissible in the state that it finds. -/
def PermissibleRun (state : MemoryBroadcastState) (operations : List Operation) : Prop :=
  ∀ place ∈ trace perform state operations, Permissible place.1 place.2

private theorem PermissibleRun.cons (permissible : PermissibleRun state (operation :: operations)) :
    Permissible state operation ∧ PermissibleRun (perform state operation) operations := by
  refine ⟨permissible (state, operation) (List.mem_cons_self), fun _ member => ?_⟩
  exact permissible _ (List.mem_cons_of_mem _ member)

private theorem PermissibleRun.append {first second}
    (permissible : PermissibleRun state (first ++ second)) :
    PermissibleRun state first ∧ PermissibleRun (first.foldl perform state) second := by
  constructor
  · intro place member
    refine permissible _ ?_
    rw [trace_append]
    exact List.mem_append_left _ member
  · intro place member
    refine permissible _ ?_
    rw [trace_append]
    exact List.mem_append_right _ member

private theorem leaving_run (permissible : PermissibleRun state operations)
    (stored : state.records.get? id = some record) (leaving : record.state.isLeaving) :
    ∃ after, (operations.foldl perform state).records.get? id = some after ∧
      after.state.isLeaving := by
  induction operations generalizing state record with
  | nil => exact ⟨record, stored, leaving⟩
  | cons _ _ ih =>
    obtain ⟨first, later⟩ := permissible.cons
    obtain ⟨_, found, still⟩ := leaving_perform first stored leaving
    exact ih later found still

private theorem deleted_run (wellFormed : WellFormed state)
    (permissible : PermissibleRun state operations)
    (stored : state.records.get? id = some record) (deleted : record.state = .deleted) :
    ∃ after, (operations.foldl perform state).records.get? id = some after ∧
      after.state = .deleted := by
  induction operations generalizing state record with
  | nil => exact ⟨record, stored, deleted⟩
  | cons operation _ ih =>
    obtain ⟨first, later⟩ := permissible.cons
    obtain ⟨_, found, still⟩ := deleted_perform wellFormed first stored deleted
    exact ih (wellFormed.perform operation) later found still

/-- Every start request for the worker asks for the same bound. -/
def SameBound (worker : WorkerLease) (bound : Nat) (operation : Operation) : Prop :=
  match operation with
  | .enqueueStart _ _ _ specification _ maxActive =>
    specification.worker = worker → maxActive = bound
  | _ => True

private theorem active_perform (permissible : Permissible state operation) {bound}
    (same : SameBound worker bound operation) (within : state.active worker ≤ bound) :
    (perform state operation).active worker ≤ bound := by
  by_cases creates : ∃ checkedAt now commandId specification identity maxActive,
      operation = .enqueueStart checkedAt now commandId specification identity maxActive ∧
        specification.worker = worker ∧
        state.Creates checkedAt commandId specification identity maxActive
  · obtain ⟨checkedAt, now, commandId, specification, identity, maxActive, rfl, own, creates⟩ :=
      creates
    have room : state.active worker < bound := by
      rw [← same own, ← own]
      exact creates.room
    -- without the new record no more places are taken than before
    have others : (((perform state (.enqueueStart checkedAt now commandId specification identity
        maxActive)).records.erase specification.broadcastId).count
          fun _ record => record.occupies worker) ≤ state.active worker := by
      refine count_le_of_imp _ _ fun id after stored occupies => ?_
      rw [get?_erase] at stored
      split_ifs at stored with different
      rcases occupies_perform permissible stored occupies with before | new
      · exact before
      · obtain ⟨_, _, _, _, _, _, request, named, -⟩ := new
        cases request
        exact absurd named.symm different
    cases stored : (perform state (.enqueueStart checkedAt now commandId specification identity
        maxActive)).records.get? specification.broadcastId with
    | none =>
      have kept := count_erase_of_none _ (fun _ record => record.occupies worker) stored
      unfold MemoryBroadcastState.active at others room ⊢
      omega
    | some record =>
      have added := count_erase_add _ (fun _ record => record.occupies worker) stored
      unfold MemoryBroadcastState.active at others room ⊢
      split at added <;> omega
  · refine Nat.le_trans (count_le_of_imp _ _ fun id after stored occupies => ?_) within
    rcases occupies_perform permissible stored occupies with before | new
    · exact before
    · obtain ⟨_, _, _, _, _, _, request, -, own, fresh⟩ := new
      exact absurd ⟨_, _, _, _, _, _, request, own, fresh⟩ creates

private theorem active_run (permissible : PermissibleRun state operations) {bound}
    (same : ∀ operation ∈ operations, SameBound worker bound operation)
    (within : state.active worker ≤ bound) :
    (operations.foldl perform state).active worker ≤ bound := by
  induction operations generalizing state with
  | nil => exact within
  | cons _ _ ih =>
    obtain ⟨first, later⟩ := permissible.cons
    have next := active_perform first (same _ (List.mem_cons_self)) within
    exact ih later (fun _ member => same _ (List.mem_cons_of_mem _ member)) next

/-- Deletion is final after the first operations: what is being deleted is never active again, what
is deleted stays deleted, and no worker has more open broadcasts than its start requests allow. -/
structure DeletionIsFinal (first later : List Operation) : Prop where
  deleting : ∀ id record, (final first).records.get? id = some record →
    record.state = .deleting → ∀ after, (final (first ++ later)).records.get? id = some after →
      after.state ≠ .active
  deleted : ∀ id record, (final first).records.get? id = some record → record.state = .deleted →
    ∃ after, (final (first ++ later)).records.get? id = some after ∧ after.state = .deleted
  bounded : ∀ worker bound,
    (∀ operation ∈ first ++ later, SameBound worker bound operation) →
      (final (first ++ later)).active worker ≤ bound

theorem deletion_is_final {first later : List Operation}
    (permissible : PermissibleRun .default (first ++ later)) : DeletionIsFinal first later := by
  have split : final (first ++ later) = later.foldl perform (final first) := List.foldl_append
  obtain ⟨-, second⟩ := permissible.append
  constructor
  case deleting =>
    intro id record stored deleting _ found
    obtain ⟨_, same, leaving⟩ := leaving_run second stored (by rw [deleting]; rfl)
    rw [split, show later.foldl _ (final first) =
      later.foldl _ (first.foldl _ .default) from rfl, same] at found
    cases found
    intro active
    rw [active] at leaving
    cases leaving
  case deleted =>
    intro id record stored deleted
    rw [split]
    exact deleted_run (wellFormed_final first) second stored deleted
  case bounded =>
    intro _ _ same
    exact active_run permissible same (Nat.zero_le _)

end Runs

section Witness

attribute [local instance] Sample.uuids

theorem deletion_is_final_town_hall :
    ((final (Sample.starting ++ [Sample.reportStarted 1] ++ Sample.stopping)).records.get?
        Sample.townHall).map (·.state) = some .deleting ∧
      ∀ after, (final (Sample.starting ++ [Sample.reportStarted 1] ++ Sample.stopping ++
          [Sample.reportStopped 4])).records.get? Sample.townHall = some after →
        after.state ≠ .active := by
  have permissible : PermissibleRun .default (Sample.starting ++ [Sample.reportStarted 1] ++
      Sample.stopping ++ [Sample.reportStopped 4]) := by
    unfold PermissibleRun
    decide +kernel
  have deleting : ((final (Sample.starting ++ [Sample.reportStarted 1] ++
      Sample.stopping)).records.get? Sample.townHall).map (·.state) = some .deleting := by
    decide +kernel
  obtain ⟨record, stored, state⟩ := Option.map_eq_some_iff.mp deleting
  exact ⟨deleting, (deletion_is_final permissible).deleting Sample.townHall record stored state⟩

/-- A start that is reported after the stop brings a deleted broadcast back. -/
theorem deleted_broadcast_returns :
    ((final (Sample.starting ++ Sample.stopping ++ [Sample.reportStopped 4])).records.get?
        Sample.townHall).map (·.state) = some .deleted ∧
      ((final (Sample.starting ++ Sample.stopping ++ [Sample.reportStopped 4,
        Sample.reportStarted 5])).records.get? Sample.townHall).map (·.state) = some .active := by
  decide +kernel

end Witness

end Bridgefu.Broadcast
