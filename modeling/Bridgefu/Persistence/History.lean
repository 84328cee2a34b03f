/- digest: No run of the repository takes back a call, a provider reference or a newer fence. -/

import Bridgefu.Persistence.CallRows
import Bridgefu.Persistence.Execution

set_option autoImplicit false

namespace Bridgefu.CallEngine

theorem StoredCall.Advances.trans {first middle last : StoredCall} (one : first.Advances middle)
    (two : middle.Advances last) : first.Advances last := by
  obtain ⟨id, tenantId, version, unchanged, legs, ended⟩ := one.aggregate
  obtain ⟨id', tenantId', version', unchanged', legs', ended'⟩ := two.aggregate
  refine ⟨⟨id'.trans id, tenantId'.trans tenantId, version.trans version', fun same => ?_,
    fun slot => (legs slot).trans (legs' slot), fun terminal => ?_⟩, two.released ∘ one.released⟩
  · -- a version between equal ones is the same
    exact (unchanged' (by omega)).trans (unchanged (by omega))
  · have same := ended terminal
    exact (ended' (same ▸ terminal)).trans same

end Bridgefu.CallEngine

namespace Bridgefu.Persistence

open Lib CallEngine CallService Table

/-- The worker of the lease has been given a newer fence. -/
def Ledger.Supersedes (ledger : Ledger) (lease : WorkerLease) : Prop :=
  ∃ worker, ledger.workers.get? lease.workerId = some worker ∧ lease.fence < worker.lease.fence

private theorem LedgerStep.supersedes {permits ledger after lease}
    (step : LedgerStep permits ledger after)
    (newer : ledger.Supersedes lease) : after.Supersedes lease := by
  have kept {key row next} (stored : ledger.workers.get? key = some row)
      (same : next.lease = row.lease) :
      { ledger with workers := ledger.workers.insert key next }.Supersedes lease := by
    refine exists_insert newer fun _ found older => ?_
    cases found.symm.trans stored
    rwa [same]
  cases step with
  | registered _ next registers =>
    refine exists_insert newer fun _ found older => ?_
    rw [Ledger.Registers, found] at registers
    rw [registers.1]
    exact Nat.lt_succ_of_lt older
  | workerUpdated _ _ _ stored lease => exact kept stored lease
  | created c _ admits => exact kept admits.worker rfl
  | decided c _ accepts | promoted c _ _ _ _ accepts =>
    rw [Ledger.Supersedes]
    simp only [Ledger.commit, Ledger.promote]
    split
    · exact kept accepts.worker rfl
    · exact newer
  | released _ _ _ _ _ _ _ _ _ stored => exact kept stored rfl
  | _ => exact newer

/-- What an earlier state leaves behind in a later one. -/
structure Continues (first last : MemoryState) : Prop where
  calls : ∀ callId call, first.calls.get? callId = some call →
    ∃ later, last.calls.get? callId = some later ∧ call.Advances later
  references : ∀ key row, first.providerReferences.get? key = some row →
    last.providerReferences.get? key = some row
  stale : ∀ lease, first.ledger.Supersedes lease →
    last.leasedWorker lease = .error .staleWorkerFence

theorem run_continues [Libraries] {first last operations} (reachable : Reachable first)
    (run : Run first operations last) : Continues first last := by
  constructor
  · intro callId call found
    have valid := reachable.invariant Ledger.CallsValid .initial fun _ _ _ valid => valid.step
    refine (run.keeps (fun ledger => ledger.CallsValid ∧ ∃ later,
      ledger.calls.get? callId = some later ∧ call.Advances later) ?_
      ⟨valid, call, found, .refl call⟩).2
    rintro _ _ _ ⟨valid, _, found, advances⟩ step
    obtain ⟨next, stored, onward⟩ := step.call_advances valid found
    exact ⟨valid.step step, next, stored, advances.trans onward⟩
  · intro key row found
    refine run.keeps (fun ledger => ledger.providerReferences.get? key = some row) ?_ found
    intro _ _ _ found step
    cases step with
    | referenceBound =>
      simp only [Ledger.refer]
      split_ifs with known
      · exact found
      · exact get?_insert_fresh found (by simpa using known)
    | _ => exact found
  · intro lease newer
    obtain ⟨later, row, fence⟩ := run.keeps _ (fun _ _ _ newer step => step.supersedes newer) newer
    have row : last.workers.get? lease.workerId = some later := row
    have other : later.lease ≠ lease := by
      rintro rfl
      exact fence.false
    simp [MemoryState.leasedWorker, row, Option.filter, other, orFail]

section

attribute [local instance] Sample.libraries

theorem run_continues_registered_again :
    ∃ last, Run (.after Sample.reregistered) [.registerWorker Sample.registration] last ∧
      last.leasedWorker Sample.worker = .error .staleWorkerFence := by
  have again : ((MemoryState.after Sample.reregistered).execute
      [.registerWorker Sample.registration]).toOption.any fun _ => true := by decide +kernel
  have older : ((MemoryState.after Sample.reregistered).workers.get? ⟨1⟩).any
      fun worker => decide (1 < worker.lease.fence) := by decide +kernel
  obtain ⟨last, done, -⟩ := (toOption_any _).mp again
  obtain ⟨worker, found, older⟩ := (Option.any_eq_true _ _).mp older
  have run := MemoryState.execute_run done
  exact ⟨last, run, (run_continues ⟨_, MemoryState.after_run (by decide +kernel)⟩ run).stale _
    ⟨worker, found, of_decide_eq_true older⟩⟩

end

end Bridgefu.Persistence
