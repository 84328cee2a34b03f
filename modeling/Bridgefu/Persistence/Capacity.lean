/- digest: Capacity accounting: reservations count the unreleased assignments over every run. -/

import Bridgefu.CallEngine.Lifecycle
import Bridgefu.Persistence.Execution
import Bridgefu.Persistence.Simulation

set_option autoImplicit false

namespace Bridgefu.Persistence

open Lib CallEngine CallService MemoryState Table

/-- The call holds one place of the worker. -/
def occupies (workerId : WorkerId) (call : StoredCall) : Bool :=
  decide (call.assignment.lease.workerId = workerId) && call.assignment.releasedAt.isNone

/-- Number of calls assigned to the worker that have not been released. -/
def activeCalls (calls : Table CallId StoredCall) (workerId : WorkerId) : Nat :=
  calls.count fun _ call => occupies workerId call

private theorem activeCalls_replace {calls callId call} (next : StoredCall)
    (workerId : WorkerId) (found : calls.get? callId = some call) :
    activeCalls (calls.insert callId next) workerId + (if occupies workerId call then 1 else 0) =
      activeCalls calls workerId + if occupies workerId next then 1 else 0 :=
  calls.count_replace (fun _ call => occupies workerId call) next found

private theorem activeCalls_add {calls callId} (call : StoredCall)
    (workerId : WorkerId) (absent : calls.get? callId = none) :
    activeCalls (calls.insert callId call) workerId =
      activeCalls calls workerId + if occupies workerId call then 1 else 0 := by
  rw [activeCalls, count_insert, count_erase_of_none _ _ absent]
  rfl

/-- Reservations agree with the assignments, and a call is released exactly when it has ended. -/
structure Capacity (workers : Table WorkerId WorkerSnapshot) (calls : Table CallId StoredCall) :
    Prop where
  keyed : ∀ workerId worker, workers.get? workerId = some worker → worker.lease.workerId = workerId
  reserved : ∀ workerId worker, workers.get? workerId = some worker →
    worker.reservedCalls = activeCalls calls workerId
  limited : ∀ workerId worker, workers.get? workerId = some worker →
    worker.reservedCalls ≤ worker.maxCalls
  assigned : ∀ callId call, calls.get? callId = some call →
    ∃ worker, workers.get? call.assignment.lease.workerId = some worker
  released : ∀ callId call, calls.get? callId = some call →
    (call.aggregate.state.isTerminal = true ↔ call.assignment.releasedAt.isSome = true)

namespace Capacity

variable {workers : Table WorkerId WorkerSnapshot} {calls : Table CallId StoredCall}

private theorem empty : Capacity .empty .empty where
  keyed := forall_empty
  reserved := forall_empty
  limited := forall_empty
  assigned := forall_empty
  released := forall_empty

variable {workerId : WorkerId} {callId : CallId} {worker : WorkerSnapshot} {state : MemoryState}

section

variable (capacity : Capacity workers calls)
include capacity

private theorem activeCalls_of_unknown (unknown : workers.get? workerId = none) :
    activeCalls calls workerId = 0 := by
  rw [activeCalls, count_eq_zero]
  intro _ call found
  obtain ⟨_, row⟩ := capacity.assigned _ _ found
  by_cases same : call.assignment.lease.workerId = workerId
  · rw [same, unknown] at row
    cases row
  · simp [occupies, same]

private theorem occupied {call} (found : calls.get? callId = some call)
    (unreleased : call.assignment.releasedAt = none)
    (row : workers.get? call.assignment.lease.workerId = some worker) :
    worker.reservedCalls ≠ 0 := by
  rw [capacity.reserved _ _ row]
  intro none
  have counted := (count_eq_zero _ _).mp none _ _ found
  simp [occupies, unreleased] at counted

private theorem rewriteCall {call next} (found : calls.get? callId = some call)
    (sameWorker : next.assignment.lease.workerId = call.assignment.lease.workerId)
    (sameRelease : next.assignment.releasedAt = call.assignment.releasedAt)
    (sameEnd : next.aggregate.state.isTerminal = call.aggregate.state.isTerminal) :
    Capacity workers (calls.insert callId next) where
  keyed := capacity.keyed
  reserved := by
    intro workerId _ row
    have moved := activeCalls_replace next workerId found
    have same : occupies workerId next = occupies workerId call := by
      simp [occupies, sameWorker, sameRelease]
    rw [same, Nat.add_right_cancel_iff] at moved
    exact (capacity.reserved _ _ row).trans moved.symm
  limited := capacity.limited
  assigned := forall_insert capacity.assigned (by
    rw [sameWorker]
    exact capacity.assigned _ _ found)
  released := forall_insert capacity.released (by
    rw [sameEnd, sameRelease]
    exact capacity.released _ _ found)

private theorem rewriteBoth {call} (keyed : worker.lease.workerId = workerId)
    (reserved : worker.reservedCalls = activeCalls (calls.insert callId call) workerId)
    (limited : worker.reservedCalls ≤ worker.maxCalls) (others : ∀ other, other ≠ workerId →
      activeCalls (calls.insert callId call) other = activeCalls calls other)
    (assigned : call.assignment.lease.workerId = workerId)
    (released : call.aggregate.state.isTerminal = true ↔
      call.assignment.releasedAt.isSome = true) :
    Capacity (workers.insert workerId worker) (calls.insert callId call) where
  keyed := forall_insert capacity.keyed keyed
  reserved := by
    intro other current row
    rcases get?_insert_some row with ⟨same, rfl⟩ | ⟨different, row⟩
    · exact same ▸ reserved
    · rw [others _ different]
      exact capacity.reserved _ _ row
  limited := forall_insert capacity.limited limited
  assigned := by
    intro other current found
    rcases get?_insert_some found with ⟨-, rfl⟩ | ⟨-, found⟩
    · exact ⟨worker, assigned ▸ get?_insert_self ..⟩
    · exact known_insert (capacity.assigned _ _ found)
  released := forall_insert capacity.released released

private theorem rewriteWorker {next} (keyed : next.lease.workerId = workerId)
    (reserved : next.reservedCalls = activeCalls calls workerId)
    (limited : next.reservedCalls ≤ next.maxCalls) :
    Capacity (workers.insert workerId next) calls where
  keyed := forall_insert capacity.keyed keyed
  reserved := forall_insert capacity.reserved reserved
  limited := forall_insert capacity.limited limited
  assigned := fun callId call found => known_insert (capacity.assigned callId call found)
  released := capacity.released

end

private theorem goesOn_of_pending {a : CallAggregate} {command decision} (valid : a.Valid)
    (pending : a.state = .pending) (done : a.decide command = .ok decision) :
    decision.aggregate.state.isTerminal = false := by
  rcases CallAggregate.decide_moves done with ⟨-, same, -⟩ | ⟨-, move⟩
  · rw [same, pending]
    rfl
  · have follows := move.state_mem valid
    rw [pending] at follows
    cases state : decision.aggregate.state <;> simp_all [nextStates, CallState.isTerminal]

variable {ledger : Ledger}

section

variable (capacity : Capacity ledger.workers ledger.calls)
include capacity

private theorem registered (registers : ledger.Registers workerId worker) :
    Capacity (ledger.workers.insert workerId worker) ledger.calls := by
  unfold Ledger.Registers at registers
  split at registers
  · rename_i unknown
    obtain ⟨lease, none⟩ := registers
    exact capacity.rewriteWorker (by rw [lease])
      (none.trans (capacity.activeCalls_of_unknown unknown).symm) (by omega)
  · rename_i known row
    obtain ⟨lease, same, room⟩ := registers
    exact capacity.rewriteWorker (by rw [lease])
      (same.trans (capacity.reserved workerId known row)) (same ▸ room)

private theorem created {c} (admits : ledger.Admits c) :
    Capacity (ledger.create c).workers (ledger.create c).calls := by
  have valid := CallAggregate.validate_iff.mp admits.valid
  have goesOn := goesOn_of_pending valid admits.pending admits.decided
  have added := fun workerId => activeCalls_add c.stored workerId admits.newCall
  have places : ∀ workerId, occupies workerId c.stored = true ↔
      c.request.worker.workerId = workerId := by
    intro workerId
    rw [occupies, Creation.stored, Option.isNone_none, Bool.and_true]
    exact decide_eq_true_iff
  refine capacity.rewriteBoth ?_ ?_ admits.capacity ?_ rfl (by simp [Creation.stored, goesOn])
  · exact congrArg WorkerLease.workerId admits.lease
  · rw [added, if_pos ((places _).mpr rfl), ← capacity.reserved _ _ admits.worker]
    rfl
  · intro other different
    rw [added, if_neg fun same => different ((places other).mp same).symm, Nat.add_zero]

private theorem decided {c} (accepts : ledger.Accepts c) :
    Capacity (ledger.commit c).workers (ledger.commit c).calls := by
  have key : c.call.assignment.lease.workerId = c.request.worker.workerId := by
    rw [accepts.assigned]
  have before : c.call.aggregate.state.isTerminal = false := by
    simpa [accepts.unreleased] using capacity.released _ _ accepts.found
  by_cases ends : c.ends
  · have moved := fun workerId => activeCalls_replace c.stored workerId accepts.found
    have gone : ∀ workerId, occupies workerId c.stored = false := by
      simp [occupies, Commit.stored, Commit.assignment, ends]
    have placed : ∀ workerId, occupies workerId c.call = true ↔
        c.request.worker.workerId = workerId := by
      simp [occupies, accepts.unreleased, key]
    simp only [gone, Bool.false_eq_true, ↓reduceIte] at moved
    have held := capacity.reserved _ _ accepts.worker
    rw [Ledger.commit, ends]
    refine capacity.rewriteBoth ?_ ?_ ?_ ?_ ?_ ?_
    · exact congrArg WorkerLease.workerId accepts.lease
    · have one := moved c.request.worker.workerId
      rw [if_pos ((placed _).mpr rfl)] at one
      change c.worker.reservedCalls - 1 = _
      omega
    · have room := capacity.limited _ _ accepts.worker
      change c.worker.reservedCalls - 1 ≤ c.worker.maxCalls
      omega
    · intro other different
      have same := moved other
      rwa [if_neg fun same => different ((placed other).mp same).symm, Nat.add_zero] at same
    · simp [Commit.stored, Commit.assignment, ends, key]
    · have terminal : c.decision.aggregate.state.isTerminal = true := ends
      simp [Commit.stored, Commit.assignment, ends, terminal]
  · simp only [Ledger.commit, ends]
    refine capacity.rewriteCall accepts.found ?_ ?_ ?_
    · simp [Commit.stored, Commit.assignment, ends]
    · simp [Commit.stored, Commit.assignment, ends]
    · simpa [Commit.stored, before, Commit.ends] using ends

theorem step {permits after} (step : LedgerStep permits ledger after) :
    Capacity after.workers after.calls := by
  cases step with
  | registered workerId worker registers => exact capacity.registered registers
  | workerUpdated worker _ workerId found lease maxCalls reservedCalls =>
    have keyed := capacity.keyed _ _ found
    have reserved := capacity.reserved _ _ found
    have limited := capacity.limited _ _ found
    exact capacity.rewriteWorker (lease ▸ keyed) (reservedCalls ▸ reserved)
      (reservedCalls ▸ maxCalls ▸ limited)
  | created c _ admits => exact capacity.created admits
  | decided c permitted accepts => exact capacity.decided accepts
  | promoted c legId binding permitted _ accepts =>
    have decided := capacity.decided accepts
    have placed : (ledger.commit c).calls.get? c.request.callId = some c.stored :=
      get?_insert_self ..
    have rebound : Capacity _ ((ledger.commit c).calls.insert c.request.callId
        (c.promoted legId binding)) := decided.rewriteCall placed rfl rfl rfl
    rwa [Ledger.commit, insert_insert] at rebound
  | bound callId call legId binding acts found =>
    exact capacity.rewriteCall found rfl rfl rfl
  | released callId call worker atTime _ acts found terminal unreleased =>
    -- a terminal call has been released by the commit that ended it
    have ended := (capacity.released _ _ found).mp terminal
    simp [unreleased] at ended
  | restarted worker atTime callId call _ found sameWorker =>
    exact capacity.rewriteCall found sameWorker.symm rfl rfl
  | _ => exact capacity

end

theorem of_reachable [Libraries] (reachable : Reachable state) :
    Capacity state.workers state.calls :=
  reachable.invariant (fun ledger => Capacity ledger.workers ledger.calls) empty
    fun _ _ _ capacity step => capacity.step step

private theorem release_succeeds (capacity : Capacity state.workers calls) {tenantId worker atTime}
    (sameAssignment : (state.calls.get? callId).map StoredCall.assignment =
      (calls.get? callId).map StoredCall.assignment) :
    state.releaseAssignmentInState tenantId callId worker atTime ≠ .error .unavailable := by
  intro fails
  simp only [releaseAssignmentInState, ensureWorker,
    leasedWorker, tenantCall, bind_eq_error, reject_eq_error,
    orFail_eq_error, reduceCtorEq, and_false, exists_false, false_or, exists_unit] at fails
  obtain ⟨-, call, found, assigned, -, fails⟩ := fails
  split_ifs at fails with unreleased
  · exact (pure_eq_error _ _).mp fails
  · simp only [bind_eq_error, orFail_eq_error, reduceCtorEq, and_false, false_or, reject_eq_error,
      pure_eq_error, and_true, orFail_eq_ok, exists_const, or_false] at fails
    obtain ⟨row, held, exhausted⟩ := fails
    have current : state.calls.get? callId = some call := (tenantCall_ok found).1
    rw [current] at sameAssignment
    obtain ⟨stored, kept, same⟩ := Option.map_eq_some_iff.mp sameAssignment.symm
    rw [reject_eq_ok, not_not] at assigned
    have assignedRow : state.workers.get? stored.assignment.lease.workerId = some row := by
      rw [same, assigned]
      exact held
    exact capacity.occupied kept (by simpa [same] using unreleased) assignedRow exhausted

private theorem settle_succeeds (capacity : Capacity state.workers state.calls)
    {ids request version decision prepared}
    (prepares : prepareDecision ids state request version decision = .ok prepared) :
    prepared.1.settleDecision request decision.aggregate.state.isTerminal ≠
      .error .unavailable := by
  obtain ⟨_, found⟩ := prepareDecision_found prepares
  obtain ⟨_, _, _, -, -, -, -, -, ledger⟩ :=
    prepareDecision_ledger found prepares
  have workers : prepared.1.workers = state.workers := congrArg Ledger.workers ledger
  have calls : prepared.1.calls = _ := congrArg Ledger.calls ledger
  intro fails
  rcases (bind_eq_error _ _ _).mp fails with unclaimed | ⟨deadlines, -, fails⟩
  · unfold completeDeadlineClaim at unclaimed
    split at unclaimed
    · cases unclaimed
    · simp only [bind_eq_error, orFail_eq_error, pure_eq_error, reduceCtorEq, and_false,
        exists_false, or_false] at unclaimed
  · split at fails
    · simp only [bind_eq_error, pure_eq_error, and_false, exists_false, or_false] at fails
      have sameAssignment : (prepared.1.calls.get? request.callId).map StoredCall.assignment =
          (state.calls.get? request.callId).map StoredCall.assignment := by
        rw [calls, get?_insert_self, found]
        rfl
      have held : Capacity (prepared.1.withDeadlines deadlines).workers state.calls :=
        workers ▸ capacity
      exact held.release_succeeds sameAssignment fails
    · exact (pure_eq_error _ _).mp fails

end Capacity

def Ledger.releasedAt (callId : CallId) (ledger : Ledger) : Option Timestamp :=
  (ledger.calls.get? callId).bind fun call => call.assignment.releasedAt

private theorem LedgerStep.keeps_release {permits ledger after callId atTime}
    (released : ledger.releasedAt callId = some atTime) (step : LedgerStep permits ledger after) :
    after.releasedAt callId = some atTime := by
  have known := Option.bind_eq_some_iff.mp released
  cases step with
  | created c _ admits =>
    refine Option.bind_eq_some_iff.mpr (exists_insert known fun call found => ?_)
    cases found.symm.trans admits.newCall
  | decided c _ accepts | promoted c _ _ _ _ accepts =>
    refine Option.bind_eq_some_iff.mpr (exists_insert known fun call found ended => ?_)
    cases found.symm.trans accepts.found
    cases ended.symm.trans accepts.unreleased
  | bound key call _ _ acts found | restarted worker atTime key call _ found =>
    refine Option.bind_eq_some_iff.mpr (exists_insert known fun other same ended => ?_)
    cases same.symm.trans found
    exact ended
  | released key call worker atTime _ acts found _ unreleased =>
    refine Option.bind_eq_some_iff.mpr (exists_insert known fun other same ended => ?_)
    cases same.symm.trans found
    cases ended.symm.trans unreleased
  | _ => exact released

/-- In every reachable state the reservations of a worker are the number of its unreleased calls
and stay within its limit. A call is terminal exactly when it is released, which happens once in
the run, and the decrement never fails: not on a state with the same workers and assignments, and
not when a prepared command is settled. -/
theorem capacity_accounting [Libraries] {operations : List Operation} {state : MemoryState}
    (run : Run .initial operations state) :
    (∀ workerId, ((state.workers.get? workerId).elim 0 WorkerSnapshot.reservedCalls =
        activeCalls state.calls workerId) ∧
      ∀ worker, state.workers.get? workerId = some worker →
        worker.reservedCalls ≤ worker.maxCalls) ∧
    (∀ callId call, state.calls.get? callId = some call →
      (call.aggregate.state.isTerminal = true ↔ call.assignment.releasedAt.isSome = true)) ∧
    (∀ callId, ∃ count, Settles (Ledger.releasedAt callId) .initial operations state count) ∧
    (∀ callId count, Settles (Ledger.releasedAt callId) .initial operations state count →
      count = if (state.ledger.releasedAt callId).isSome then 1 else 0) ∧
    (∀ (working : MemoryState) tenantId callId worker atTime, working.workers = state.workers →
      (working.calls.get? callId).map StoredCall.assignment =
        (state.calls.get? callId).map StoredCall.assignment →
      working.releaseAssignmentInState tenantId callId worker atTime ≠ .error .unavailable) ∧
    (∀ ids request version decision prepared,
      MemoryState.prepareDecision ids state request version decision = .ok prepared →
      prepared.1.settleDecision request decision.aggregate.state.isTerminal ≠
        .error .unavailable) := by
  have capacity := Capacity.of_reachable ⟨operations, run⟩
  refine ⟨fun workerId => ⟨?_, capacity.limited workerId⟩, capacity.released,
    fun callId => run.settles (Ledger.releasedAt callId),
    fun _ _ settles => settles.count_eq (fun _ _ _ _ released step => step.keeps_release released)
      rfl, ?_, fun _ _ _ _ _ => capacity.settle_succeeds⟩
  · cases row : state.workers.get? workerId with
    | none => exact (capacity.activeCalls_of_unknown row).symm
    | some worker => exact capacity.reserved workerId worker row
  · intro _ _ callId worker _ sameWorkers sameAssignment
    exact (sameWorkers ▸ capacity).release_succeeds sameAssignment

section

attribute [local instance] Sample.libraries

theorem capacity_accounting_endedCall :
    Run .initial Sample.endedCall (.after Sample.endedCall) ∧
      ((MemoryState.after Sample.endedCall).ledger.releasedAt Sample.callId).isSome ∧
      ∀ count, Settles (Ledger.releasedAt Sample.callId) .initial Sample.endedCall
        (.after Sample.endedCall) count → count = 1 := by
  have run : Run .initial Sample.endedCall (.after Sample.endedCall) :=
    after_run (by decide +kernel)
  have ended : ((after Sample.endedCall).ledger.releasedAt Sample.callId).isSome := by
    decide +kernel
  refine ⟨run, ended, fun _ releases => ?_⟩
  have counted := (capacity_accounting run).2.2.2.1 Sample.callId _ releases
  rwa [if_pos ended] at counted

end

end Bridgefu.Persistence
