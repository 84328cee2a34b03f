/- digest: A planned creation takes the first candidate that fits, as if it were the only one. -/

import Bridgefu.Persistence.Execution
import Bridgefu.Persistence.Refinement

set_option autoImplicit false

namespace Bridgefu.Persistence

open Lib CallEngine CallService Table

namespace MemoryState

/-- The worker of the candidate is live at the time of the request, capable and not full. -/
def Fits (state : MemoryState) (requiredCapabilities : List String) (candidate : CreateCall) :
    Prop :=
  ∃ worker, state.workers.get? candidate.worker.workerId = some worker ∧
    worker.lease = candidate.worker ∧
    state.authoritativeTime candidate.atTime < worker.leaseExpiresAt ∧ worker.draining = false ∧
    (∀ capability ∈ requiredCapabilities, capability ∈ worker.capabilities.items) ∧
    worker.reservedCalls < worker.maxCalls

instance (state : MemoryState) (requiredCapabilities : List String) (candidate : CreateCall) :
    Decidable (state.Fits requiredCapabilities candidate) :=
  decidable_of_iff ((state.workers.get? candidate.worker.workerId).any fun worker =>
      decide (worker.lease = candidate.worker ∧
        state.authoritativeTime candidate.atTime < worker.leaseExpiresAt ∧
        worker.draining = false ∧
        (∀ capability ∈ requiredCapabilities, capability ∈ worker.capabilities.items) ∧
        worker.reservedCalls < worker.maxCalls)) (by simp [Fits, Option.any_eq_true])

/-- Neither a plan nor the result of a first command is kept for the call. -/
def Unplanned (state : MemoryState) (callId : CallId) : Prop :=
  state.serviceManagedCalls.get? callId = none ∧ state.executionPlans.get? callId = none ∧
    ∀ result ∈ state.commandResults.values,
      ¬ (result.command.callId = callId ∧ result.command.observedVersion = 0)

/-- The same creation, on some worker. -/
def Alike (create candidate : CreateCall) : Prop :=
  ∃ lease attachments, candidate = onWorker create lease attachments

/-- No unexpired receipt stands under the key of the creation. -/
def Unreceipted (state : MemoryState) (create : CreateCall) : Prop :=
  state.liveReceipt create.initial.tenantId create.idempotencyKey create.atTime = none

variable {ids : EffectSupply} {state : MemoryState} {create candidate : CreateCall}
  {requiredCapabilities : List String}

private theorem ensureWorkerCapabilities_eq_ok {lease atTime} :
    state.ensureWorkerCapabilities lease requiredCapabilities atTime = .ok () ↔
      ∃ worker, state.workers.get? lease.workerId = some worker ∧ worker.lease = lease ∧
        state.authoritativeTime atTime < worker.leaseExpiresAt ∧ worker.draining = false ∧
        ∀ capability ∈ requiredCapabilities, capability ∈ worker.capabilities.items := by
  simp only [ensureWorkerCapabilities, ensureWorker, leasedWorker, bind_eq_ok, exists_unit,
    orFail_eq_ok, reject_eq_ok, Option.filter_eq_some_iff, decide_eq_true_eq]
  constructor
  · rintro ⟨⟨worker, ⟨row, same⟩, live⟩, _, ⟨found, -⟩, capable⟩
    cases row.symm.trans found
    rw [not_or, not_le] at live
    exact ⟨worker, row, same, live.1, by simpa using live.2, by simpa using capable⟩
  · rintro ⟨worker, row, same, live, awake, capable⟩
    exact ⟨⟨worker, ⟨row, same⟩, by simp [live, awake]⟩, worker, ⟨row, same⟩, by simpa using capable⟩

/-- A failure ends the transaction. -/
abbrev Final {α : Type} (attempt : Except RepositoryError α) : Prop :=
  FailsWith (fun error => isAdmissionError error = false) attempt

@[simp] theorem not_admission : (∀ reason, isAdmissionError (.invalidInput reason) = false) ∧
    isAdmissionError .notFound = false ∧ isAdmissionError .attachmentConflict = false ∧
    isAdmissionError .commandConflict = false ∧ isAdmissionError .domainRejected = false ∧
    isAdmissionError .unavailable = false :=
  ⟨fun _ => rfl, rfl, rfl, rfl, rfl, rfl⟩

/-- An attempt fails for good on every worker alike, or on a worker that has no room. -/
def OnlyRoom {α : Type} (state : MemoryState) (create : CreateCall)
    (attempt : CreateCall → Except RepositoryError α) : Prop :=
  (∃ error, isAdmissionError error = false ∧
    ∀ candidate, Alike create candidate → attempt candidate = .error error) ∨
  ∀ candidate, Alike create candidate →
    ∀ worker, state.workers.get? candidate.worker.workerId = some worker →
      state.ensureWorker candidate.worker false candidate.atTime = .ok () →
      if worker.maxCalls ≤ worker.reservedCalls then attempt candidate = .error .capacityExceeded
      else Final (attempt candidate)

private theorem decideCreate_final (request : CreateCall) : Final (decideCreate request) := by
  simp [decideCreate, validateCommandTimestamp, idempotencyExpiry, chronoTtl]

private theorem retireExpiredIdempotency_final (atTime : Timestamp) :
    Final (state.retireExpiredIdempotency atTime) := by
  refine failsWith_foldFallible (fun _ _ => ?_) _ _
  simp only [retireIdempotencyRow, failsWith_bind]
  refine ⟨by simp, fun _ _ => ⟨by simp, fun _ _ => ?_⟩⟩
  split <;> simp

private theorem persistEffects_final (batch : EffectBatch) (effects : List EffectIntent) :
    Final (state.persistEffects ids batch effects) := by
  unfold persistEffects
  generalize 0 = ordinal
  induction effects generalizing state ordinal with
  | nil => exact failsWith_ok _
  | cons intent _ ih =>
    have deadline : Final (persistDeadline batch state.deadlines intent) := by
      unfold persistDeadline
      split <;> simp
    simp [persistEffectsFrom, deadline, ih]

private theorem insertAttachments_final (tenantId : TenantId) (callId : CallId)
    (lease : WorkerLease) (atTime : Timestamp) (issues : List AttachmentIssue) :
    Final (state.insertAttachments tenantId callId lease atTime issues) := by
  refine (failsWith_bind _ _).mpr ⟨by simp, fun _ _ => (failsWith_bind _ _).mpr ⟨?_, ?_⟩⟩
  · refine failsWith_checkAll (fun issue => ?_) _
    simp [validateAttachmentIssue]
  · intro _ _
    refine failsWith_foldFallible (fun _ issue => ?_) _ _
    simp [insertAttachment, validateNewAttachment]

private theorem createNewCall_onlyRoom (ids : EffectSupply) (state : MemoryState)
    (create : CreateCall) (decision : CallDecision) (expiresAt : Timestamp) :
    state.OnlyRoom create (createNewCall ids state · decision expiresAt) := by
  by_cases used : state.commands.contains create.commandId ∨
      state.controlCommands.contains create.commandId ∨
      state.outboundBindingResults.contains create.commandId
  · refine .inl ⟨.commandConflict, rfl, ?_⟩
    rintro _ ⟨lease, attachments, rfl⟩
    exact (bind_eq_error _ _ _).mpr (.inl ((reject_eq_error _ _ _).mpr ⟨used, rfl⟩))
  by_cases known : state.calls.contains create.initial.id ∨
      create.initial.legs.any fun leg => state.legOwners.contains leg.id
  · refine .inl ⟨.invalidInput "call or leg identifier already exists", rfl, ?_⟩
    rintro _ ⟨lease, attachments, rfl⟩
    simp only [createNewCall, bind_eq_error, reject_eq_error, reject_eq_ok]
    exact .inr ⟨(), used, .inl ⟨known, trivial⟩⟩
  right
  rintro _ ⟨lease, attachments, rfl⟩ worker row owned
  split_ifs with full
  · simp only [createNewCall, bind_eq_error, reject_eq_error, reject_eq_ok, owned, row]
    refine .inr ⟨(), used, .inr ⟨(), known, .inr ⟨(), trivial, .inr ⟨worker, rfl, .inl ?_⟩⟩⟩⟩
    exact ⟨full, trivial⟩
  · have fingerprint : Final (RouteCatalogFingerprint.fromCapabilities worker.capabilities) := by
      unfold RouteCatalogFingerprint.fromCapabilities
      split <;> simp
    have issued : Final
        (state.validateIssues create.initial.id decision create.atTime attachments) := by
      refine failsWith_checkAll (fun _ => ?_) _
      simp [validateAttachmentIssue, validateNewAttachment, validateAttachmentEffect]
    unfold createNewCall onWorker
    rw [onWorker] at row owned
    simp [owned, row, full, issued, fingerprint, insertAttachments_final, persistEffects_final]

private theorem retireExpiredIdempotency_of_live {atTime}
    (live : ∀ key row, state.idempotency.get? key = some row → atTime < row.expiresAt) :
    state.retireExpiredIdempotency atTime = .ok state := by
  have none : state.expiredIdempotencyKeys atTime = [] := by
    rw [expiredIdempotencyKeys, List.map_eq_nil_iff, List.filter_eq_nil_iff]
    rintro ⟨key, row⟩ member
    simpa using live key row (get?_of_mem member)
  unfold retireExpiredIdempotency
  rw [none]
  rfl

private theorem refusedDraft_again {retired}
    (done : state.retireExpiredIdempotency create.atTime = .ok retired) :
    (state.refusedDraft create).retireExpiredIdempotency create.atTime =
        .ok (state.refusedDraft create) ∧
      (state.refusedDraft create).idempotency.get?
        (create.initial.tenantId, create.idempotencyKey) = none := by
  have draft : state.refusedDraft create = { retired with
      idempotency := retired.idempotency.erase
        (create.initial.tenantId, create.idempotencyKey) } := by
    rw [refusedDraft, done]
  refine ⟨retireExpiredIdempotency_of_live fun key row stored => ?_, by simp [draft]⟩
  obtain ⟨_, rfl⟩ := retireIdempotencyRows_ok done
  rw [draft, get?_erase] at stored
  split_ifs at stored
  rw [get?_filter, Option.filter_eq_some_iff] at stored
  by_contra expired
  refine of_decide_eq_true stored.2 (List.mem_map.mpr ⟨(key, row), ?_, rfl⟩)
  refine List.mem_filter.mpr ⟨(mem_rows ..).mpr stored.1, ?_⟩
  simpa using expired

private theorem refusedDraft_twice (state : MemoryState) (create : CreateCall) :
    (state.refusedDraft create).refusedDraft create = state.refusedDraft create := by
  cases done : state.retireExpiredIdempotency create.atTime with
  | error => simp only [refusedDraft, done]
  | ok =>
    obtain ⟨again, free⟩ := refusedDraft_again done
    conv_lhs => rw [refusedDraft, again]
    dsimp only
    rw [erase_of_none _ free]

private theorem refusedDraft_judges (state : MemoryState) (create : CreateCall) :
    (state.refusedDraft create).workers = state.workers ∧
      (state.refusedDraft create).ensureWorker = state.ensureWorker ∧
      (state.refusedDraft create).ensureWorkerCapabilities = state.ensureWorkerCapabilities := by
  unfold refusedDraft
  split
  · rename_i retired done
    obtain ⟨_, rfl⟩ := retireIdempotencyRows_ok done
    exact ⟨rfl, rfl, rfl⟩
  · exact ⟨rfl, rfl, rfl⟩

private theorem createCallInState_new {checked retired}
    (decided : decideCreate candidate = .ok checked)
    (done : state.retireExpiredIdempotency candidate.atTime = .ok retired)
    (unreceipted : retired.Unreceipted candidate) :
    createCallInState ids state candidate =
      createNewCall ids (state.refusedDraft candidate) candidate checked.1 checked.2 := by
  unfold Unreceipted liveReceipt at unreceipted
  simp only [createCallInState, refusedDraft, decided, done, bind, Except.bind, unreceipted]

private theorem Unreceipted.retired (unreceipted : state.Unreceipted create) {retired}
    (done : state.retireExpiredIdempotency create.atTime = .ok retired) :
    retired.Unreceipted create :=
  (liveReceipt_retired done).trans unreceipted

private theorem createCallInState_refused (unreceipted : state.Unreceipted create)
    (alike : Alike create candidate) :
    createCallInState ids (state.refusedDraft create) candidate =
      createCallInState ids state candidate := by
  obtain ⟨lease, attachments, rfl⟩ := alike
  cases decided : decideCreate (onWorker create lease attachments) with
  | error => simp only [createCallInState, decided]; rfl
  | ok _ =>
    cases done : state.retireExpiredIdempotency create.atTime with
    | error => rw [refusedDraft, done]
    | ok retired =>
      obtain ⟨again, free⟩ := refusedDraft_again done
      have freed : (state.refusedDraft create).Unreceipted create := by
        rw [Unreceipted, liveReceipt, free, Option.filter_none]
      rw [createCallInState_new decided again freed,
        createCallInState_new decided done (unreceipted.retired done)]
      exact congrArg (createNewCall ids · _ _ _) (refusedDraft_twice _ create)

private theorem createCallInState_onlyRoom (ids : EffectSupply)
    (unreceipted : state.Unreceipted create) :
    state.OnlyRoom create (createCallInState ids state) := by
  cases decided : decideCreate create with
  | error error =>
    refine .inl ⟨error, decideCreate_final _ _ decided, ?_⟩
    rintro _ ⟨lease, attachments, rfl⟩
    exact (bind_eq_error _ _ _).mpr (.inl decided)
  | ok checked =>
    cases done : state.retireExpiredIdempotency create.atTime with
    | error error =>
      refine .inl ⟨error, retireExpiredIdempotency_final _ _ done, ?_⟩
      rintro _ ⟨lease, attachments, rfl⟩
      refine (bind_eq_error _ _ _).mpr (.inr ⟨checked, decided, ?_⟩)
      exact (bind_eq_error _ _ _).mpr (.inl done)
    | ok retired =>
      have new : ∀ candidate, Alike create candidate → createCallInState ids state candidate =
          createNewCall ids (state.refusedDraft create) candidate checked.1 checked.2 := by
        rintro _ ⟨lease, attachments, rfl⟩
        exact createCallInState_new decided done (unreceipted.retired done)
      have room := createNewCall_onlyRoom ids (state.refusedDraft create) create checked.1
        checked.2
      simp only [OnlyRoom, refusedDraft_judges] at room
      refine room.imp ?_ fun attempts candidate alike => ?_
      · rintro ⟨error, final, fails⟩
        exact ⟨error, final, fun candidate alike => (new _ alike).trans (fails _ alike)⟩
      · rw [new _ alike]
        exact attempts _ alike

section

variable (unreceipted : state.Unreceipted create)
include unreceipted

private theorem placeCall_refused {candidates}
    (alike : ∀ candidate ∈ candidates, Alike create candidate)
    (lastAdmissionError : RepositoryError) :
    placeCall ids requiredCapabilities (state.refusedDraft create) lastAdmissionError candidates =
      placeCall ids requiredCapabilities state lastAdmissionError candidates := by
  induction candidates generalizing lastAdmissionError with
  | nil => rfl
  | cons candidate _ ih =>
    obtain ⟨first, others⟩ := List.forall_mem_cons.mp alike
    have same : ∀ draft : MemoryState, draft.refusedDraft candidate = draft.refusedDraft create := by
      obtain ⟨_, _, rfl⟩ := first
      exact fun _ => rfl
    simp only [placeCall, refusedDraft_judges, createCallInState_refused unreceipted first,
      same, refusedDraft_twice, ih others]

private theorem placeCall_skips {earlier rest}
    (alike : ∀ candidate ∈ earlier ++ rest, Alike create candidate)
    (unfit : ∀ candidate ∈ earlier, ¬ state.Fits requiredCapabilities candidate)
    (lastAdmissionError : RepositoryError) :
    (∃ error, placeCall ids requiredCapabilities state lastAdmissionError (earlier ++ rest) =
        .error error ∧
      ∀ candidate, Alike create candidate → createCallInState ids state candidate = .error error) ∨
    ∃ error, placeCall ids requiredCapabilities state lastAdmissionError (earlier ++ rest) =
      placeCall ids requiredCapabilities state error rest := by
  induction earlier generalizing lastAdmissionError with
  | nil => exact .inr ⟨lastAdmissionError, rfl⟩
  | cons candidate others ih =>
    have first := alike _ (List.mem_cons_self)
    have later : ∀ other ∈ others ++ rest, Alike create other :=
      fun other member => alike other (List.mem_cons_of_mem _ member)
    obtain ⟨misfit, unfit⟩ := List.forall_mem_cons.mp unfit
    rw [List.cons_append, placeCall]
    cases judged : state.ensureWorkerCapabilities candidate.worker _
        candidate.atTime with
    | error error =>
      have stale : FailsWith (· ∈ [.staleWorkerFence, .workerCapabilityUnavailable])
          (state.ensureWorkerCapabilities candidate.worker requiredCapabilities
            candidate.atTime) := by
        simp [ensureWorkerCapabilities, ensureWorker, leasedWorker]
      have stale := stale _ judged
      simp only [if_pos stale]
      exact ih later unfit error
    | ok =>
      obtain ⟨worker, row, same, live, awake, capable⟩ := ensureWorkerCapabilities_eq_ok.mp judged
      have full : worker.maxCalls ≤ worker.reservedCalls := by
        by_contra room
        exact misfit ⟨worker, row, same, live, awake, capable, Nat.lt_of_not_le room⟩
      rcases createCallInState_onlyRoom ids unreceipted with ⟨error, final, fails⟩ | attempts
      · simp only [fails candidate first, final]
        exact .inl ⟨error, rfl, fails⟩
      · rw [ensureWorkerCapabilities, bind_eq_ok, exists_unit] at judged
        have attempt := attempts _ first _ row judged.1
        rw [if_pos full] at attempt
        have same : state.refusedDraft candidate = state.refusedDraft create := by
          obtain ⟨_, _, rfl⟩ := first
          rfl
        simp only [attempt, same, placeCall_refused unreceipted later]
        exact ih later unfit .capacityExceeded

private theorem placeCall_fits (alike : Alike create candidate)
    (fits : state.Fits requiredCapabilities candidate) (lastAdmissionError : RepositoryError)
    (later : List CreateCall) :
    placeCall ids requiredCapabilities state lastAdmissionError (candidate :: later) =
      createCallInState ids state candidate := by
  obtain ⟨worker, row, same, live, awake, capable, room⟩ := fits
  have judged := ensureWorkerCapabilities_eq_ok.mpr ⟨worker, row, same, live, awake, capable⟩
  rw [placeCall, judged]
  rcases createCallInState_onlyRoom ids unreceipted with ⟨error, final, fails⟩ | attempts
  · simp [fails candidate alike, final]
  · rw [ensureWorkerCapabilities, bind_eq_ok, exists_unit] at judged
    have final := attempts _ alike _ row judged.1
    rw [if_neg (not_le.mpr room)] at final
    cases outcome : createCallInState ids _ candidate with
    | ok => rfl
    | error error => simp [final error outcome]

private theorem placeCall_first_fit {earlier later}
    (alike : ∀ other ∈ earlier ++ candidate :: later, Alike create other)
    (unfit : ∀ other ∈ earlier, ¬ state.Fits requiredCapabilities other)
    (fits : state.Fits requiredCapabilities candidate) (lastAdmissionError : RepositoryError) :
    placeCall ids requiredCapabilities state lastAdmissionError (earlier ++ candidate :: later) =
      createCallInState ids state candidate := by
  have chosen := alike _ (List.mem_append_right _ (List.mem_cons_self))
  rcases placeCall_skips unreceipted alike unfit lastAdmissionError with
    ⟨error, ended, fails⟩ | ⟨error, skipped⟩
  · rw [ended, fails _ chosen]
  · rw [skipped, placeCall_fits unreceipted chosen fits]

end

private theorem alike_of_mem_candidates {request} (member : candidate ∈ candidates request) :
    Alike request.create candidate := by
  rcases List.mem_cons.mp member with rfl | alternative
  · exact ⟨request.create.worker, request.create.attachments, rfl⟩
  · obtain ⟨other, -, rfl⟩ := List.mem_map.mp alternative
    exact ⟨other.worker, other.attachments, rfl⟩

private theorem created_rows {next stored}
    (done : createCallInState ids state candidate = .ok (next, .created stored)) :
    stored.assignment.lease = candidate.worker ∧
      next.calls = state.calls.insert candidate.initial.id stored ∧
      ∃ worker clock, state.workers.get? candidate.worker.workerId = some worker ∧
        next.workers = state.workers.insert candidate.worker.workerId
          { worker with reservedCalls := worker.reservedCalls + 1, updatedAt := clock } := by
  obtain ⟨-, _, replayed⟩ | ⟨c, rfl, -, row, ledger, created⟩ := createCallInState_ledger done
  · cases replayed
  · cases created
    exact ⟨rfl, congrArg Ledger.calls ledger, c.worker, c.clock, row, congrArg Ledger.workers ledger⟩

section

/-- The tables from which the plan of a call is checked and read. -/
private def planRows (state : MemoryState) :
    Table CallId Unit × Table CallId CallExecutionPlan × Table CommandId CommandCommitView :=
  (state.serviceManagedCalls, state.executionPlans, state.commandResults)

/-- The state with the plan of a created call in place. -/
def withPlan (state : MemoryState) (callId : CallId) (plan : CallExecutionPlan) : MemoryState :=
  { state with
    serviceManagedCalls := state.serviceManagedCalls.insert callId ()
    executionPlans := state.executionPlans.insert callId plan }

variable {next : MemoryState} {stored : StoredCall}

private theorem insertAttachments_planRows {tenantId callId lease atTime issues}
    (done : state.insertAttachments tenantId callId lease atTime issues = .ok next) :
    next.planRows = state.planRows := by
  simp only [insertAttachments, bind_eq_ok] at done
  obtain ⟨-, -, -, -, done⟩ := done
  refine foldFallible_preserves (fun draft => draft.planRows = state.planRows)
    (fun draft issue after kept inserted => ?_) rfl done
  simp only [insertAttachment, bind_eq_ok, pure_eq_ok] at inserted
  obtain ⟨-, -, rfl⟩ := inserted
  exact kept

private theorem persistEffects_planRows {batch effects result}
    (done : state.persistEffects ids batch effects = .ok result) :
    result.1.planRows = state.planRows := by
  unfold persistEffects at done
  generalize (0 : Nat) = ordinal at done
  induction effects generalizing state ordinal result with
  | nil =>
    cases done
    rfl
  | cons _ _ ih =>
    simp only [persistEffectsFrom, bind_eq_ok, pure_eq_ok] at done
    obtain ⟨_, -, _, later, rfl⟩ := done
    have kept := ih _ later
    exact kept

private theorem createNewCall_planRows {decision expiresAt}
    (done : createNewCall ids state candidate decision expiresAt = .ok (next, .created stored)) :
    stored.aggregate = decision.aggregate ∧ ∃ effects, next.planRows =
      (state.serviceManagedCalls, state.executionPlans, state.commandResults.insert
        candidate.commandId ⟨CreateCall.stored candidate decision, stored, effects⟩) := by
  simp only [createNewCall, bind_eq_ok, exists_unit, pure_eq_ok] at done
  obtain ⟨-, -, -, _, -, -, -, _, -, _, inserted, persisted, effects, rest⟩ := done
  cases rest
  have rows := (persistEffects_planRows effects).trans (insertAttachments_planRows inserted)
  simp only [planRows, Prod.mk.injEq] at rows
  obtain ⟨managed, plans, results⟩ := rows
  refine ⟨rfl, persisted.2, ?_⟩
  simp only [planRows, retainResult, retainReceipt, managed, plans, results]
  rfl

private theorem created_new
    (done : createCallInState ids state candidate = .ok (next, .created stored)) :
    state.Unreceipted candidate ∧ stored.aggregate.id = candidate.initial.id ∧
      ∃ result : CommandCommitView, result.command.callId = candidate.initial.id ∧
        result.command.observedVersion = 0 ∧ result.command.attachments = candidate.attachments ∧
        next.planRows = (state.serviceManagedCalls, state.executionPlans,
          state.commandResults.insert candidate.commandId result) := by
  simp only [createCallInState, decideCreate, bind_eq_ok, exists_unit, mapFailure_eq_ok,
    pure_eq_ok, reject_eq_ok, not_or, not_not] at done
  obtain ⟨_, ⟨-, -, fresh, decision, decided, -, _, -, rfl⟩, retired, swept, done⟩ := done
  have same : retired.liveReceipt candidate.initial.tenantId candidate.idempotencyKey
    candidate.atTime = _ := liveReceipt_retired swept
  rw [liveReceipt] at same
  split at done
  · simp only [bind_eq_ok, pure_eq_ok, Prod.mk.injEq, reduceCtorEq, and_false, exists_false] at done
  · rename_i free
    obtain ⟨_, rfl⟩ := retireIdempotencyRows_ok swept
    obtain ⟨aggregate, effects, rows⟩ := createNewCall_planRows done
    refine ⟨same.symm.trans free, ?_, _, rfl, fresh.1, rfl, rows⟩
    rw [aggregate]
    cases CallAggregate.decide_decided decided with
    | ignored _ kept => rw [kept]
    | applied _ kept => exact kept.id

private theorem originalCreateResult_withPlan {callId commandId plan} {result : CommandCommitView}
    (unplanned : state.Unplanned callId) (ofCall : result.command.callId = callId)
    (first : result.command.observedVersion = 0)
    (results : next.commandResults = state.commandResults.insert commandId result) :
    (next.withPlan callId plan).originalCreateResult callId = .ok result := by
  have others : (state.commandResults.erase commandId).values.filter (fun result =>
      result.command.callId = callId ∧ result.command.observedVersion = 0) = [] := by
    refine List.filter_eq_nil_iff.mpr fun other member => ?_
    obtain ⟨key, kept⟩ := (mem_values _ other).mp member
    rw [get?_erase] at kept
    split_ifs at kept
    simpa using unplanned.2.2 other ((mem_values _ other).mpr ⟨key, kept⟩)
  unfold originalCreateResult withPlan
  dsimp only
  rw [results, show (state.commandResults.insert commandId result).values =
    result :: (state.commandResults.erase commandId).values from rfl,
    List.filter_cons_of_pos (by simp [ofCall, first]), others]

private theorem createWithPlan_creates [Libraries] {request placed principal}
    (alike : Alike request.create candidate)
    (valid : request.plan.validateForCreate request.create.initial = .ok ())
    (authorized : request.plan.authorizationPrincipalFingerprint = .ok principal)
    (planned : request.plan.requiredWorkerCapabilities = .ok requiredCapabilities)
    (unplanned : state.Unplanned request.create.initial.id)
    (places : state.Unreceipted request.create →
      placeCall ids requiredCapabilities state .capacityExceeded (candidates request) =
        createCallInState ids state candidate)
    (done : createCallInState ids state candidate = .ok (placed, .created stored)) :
    state.createWithPlan ids request =
      .ok (placed.withPlan request.create.initial.id request.plan,
        .created ⟨stored, request.plan, candidate.attachments⟩) := by
  obtain ⟨unreceipted, sameId, result, ofCall, first, issued, rows⟩ := created_new done
  obtain ⟨lease, attachments, rfl⟩ := alike
  have unreceipted : state.Unreceipted request.create := unreceipted
  have sameId : stored.aggregate.id = request.create.initial.id := sameId
  simp only [planRows, Prod.mk.injEq] at rows
  obtain ⟨managed, plans, results⟩ := rows
  have answers : state.loadCreateReplayInState request.create.initial.tenantId
      request.create.idempotencyKey request.create.requestDigest request.create.atTime =
        .ok none := by
    unfold loadCreateReplayInState
    rw [unreceipted]
  have unmanaged : ¬ (placed.serviceManagedCalls.contains request.create.initial.id ∨
      placed.executionPlans.contains request.create.initial.id) := by
    simp [managed, plans, Table.contains, unplanned.1, unplanned.2.1]
  have original : (placed.withPlan request.create.initial.id request.plan).originalCreateResult
      request.create.initial.id = .ok result :=
    originalCreateResult_withPlan unplanned ofCall first results
  unfold withPlan at original ⊢
  simp only [createWithPlan, answers, valid, authorized, planned, places unreceipted, done,
    bind, Except.bind, reject, sameId, if_neg unmanaged, original, issued]
  rfl

end

/-- The request with this candidate for its only one. -/
def narrowed (request : ServiceCreateTransaction) (candidate : CreateCall) :
    ServiceCreateTransaction :=
  { request with create := candidate, alternatives := [] }

/-- Of every planned creation: it does what it would do with the first candidate alone that fits.
Where the plan is in order and this candidate takes the call, the call is created with its plan. A
call that is created is assigned to this candidate, whose worker has one more call reserved, and no
other call and no other worker is touched. When no candidate fits, nothing is. -/
theorem createWithPlan_first_fit [Libraries] (ids : EffectSupply) (state : MemoryState)
    (request : ServiceCreateTransaction) :
    (∀ requiredCapabilities earlier candidate later,
      request.plan.requiredWorkerCapabilities = .ok requiredCapabilities →
      candidates request = earlier ++ candidate :: later →
      (∀ other ∈ earlier, ¬ state.Fits requiredCapabilities other) →
      state.Fits requiredCapabilities candidate →
      state.createWithPlan ids request = state.createWithPlan ids (narrowed request candidate) ∧
      (∀ principal placed stored,
        request.plan.validateForCreate request.create.initial = .ok () →
        request.plan.authorizationPrincipalFingerprint = .ok principal →
        state.Unplanned request.create.initial.id →
        createCallInState ids state candidate = .ok (placed, .created stored) →
          state.createWithPlan ids request =
            .ok (placed.withPlan request.create.initial.id request.plan,
              .created ⟨stored, request.plan, candidate.attachments⟩)) ∧
      ∀ next created, state.createWithPlan ids request = .ok (next, .created created) →
        created.call.assignment.lease = candidate.worker ∧
        next.calls = state.calls.insert request.create.initial.id created.call ∧
        ∃ worker clock, state.workers.get? candidate.worker.workerId = some worker ∧
          next.workers = state.workers.insert candidate.worker.workerId
            { worker with reservedCalls := worker.reservedCalls + 1, updatedAt := clock }) ∧
    ((∀ requiredCapabilities, request.plan.requiredWorkerCapabilities = .ok requiredCapabilities →
        ∀ candidate ∈ candidates request, ¬ state.Fits requiredCapabilities candidate) →
      ∀ result, state.createWithPlan ids request = .ok result → result.1 = state) := by
  have alike : ∀ candidate ∈ candidates request, Alike request.create candidate :=
    fun _ => alike_of_mem_candidates
  refine ⟨fun requiredCapabilities _ candidate _ planned order unfit fits => ?_,
    fun unfit _ done => ?_⟩
  · rw [order] at alike
    have whole : state.Unreceipted request.create →
        placeCall ids requiredCapabilities state .capacityExceeded (candidates request) =
          createCallInState ids state candidate := fun unreceipted =>
      order ▸ placeCall_first_fit unreceipted alike unfit fits _
    have chosen := alike _ (List.mem_append_right _ (List.mem_cons_self))
    refine ⟨?_, fun _ _ _ valid authorized unplanned done =>
      createWithPlan_creates chosen valid authorized planned unplanned whole done,
      fun _ created done => ?_⟩
    · obtain ⟨lease, attachments, rfl⟩ := chosen
      have alone : state.Unreceipted request.create → placeCall ids requiredCapabilities state
          .capacityExceeded (candidates (narrowed request (onWorker request.create lease
            attachments))) = createCallInState ids state _ := fun unreceipted =>
        placeCall_fits unreceipted ⟨lease, attachments, rfl⟩ fits _ []
      refine bind_congr_ok fun replay answers => ?_
      cases replay with
      | some stored => rfl
      | none =>
        have unreceipted := loadCreateReplayInState_none answers
        refine bind_congr_ok fun _ _ => bind_congr_ok fun _ _ => bind_congr_ok fun _ again => ?_
        cases planned.symm.trans again
        rw [whole unreceipted]
        exact congrArg (· >>= _) (alone unreceipted).symm
    · rcases createWithPlan_ok done with ⟨-, _, replayed⟩ | ⟨required, placed, unreceipted,
        again, places, ledger, stored⟩
      · cases replayed
      · cases planned.symm.trans again
        rw [whole unreceipted] at places
        obtain ⟨assigned, calls, worker, clock, row, workers⟩ :=
          created_rows (places.trans (congrArg Except.ok (Prod.ext rfl (stored created rfl))))
        obtain ⟨lease, attachments, rfl⟩ := chosen
        exact ⟨assigned, (congrArg Ledger.calls ledger).trans calls, worker, clock, row,
          (congrArg Ledger.workers ledger).trans workers⟩
  · rcases createWithPlan_ok done with ⟨same, -⟩ | ⟨required, placed, unreceipted, planned, places,
      -⟩
    · exact same
    · rw [← List.append_nil (candidates request)] at places alike
      rcases placeCall_skips unreceipted alike (unfit _ planned) .capacityExceeded with
        ⟨error, ended, -⟩ | ⟨error, ended⟩
      all_goals cases places.symm.trans ended

end MemoryState

namespace Sample

attribute [local instance] libraries

/-- A call that takes the only place of its worker. -/
def otherCall : CreateCall :=
  { creation .sip [] with
    initial := { call .sip with
      id := ⟨2⟩
      left := .new ⟨3⟩ ⟨.inbound, .interactiveWebRtc⟩ ⟨.remote, .sendReceive⟩ 0
      right := .new ⟨4⟩ ⟨.outbound, .sip⟩ ⟨.bridgefu, .sendReceive⟩ 0 }
    commandId := ⟨9⟩
    idempotencyKey := ⟨9⟩ }

def secondWorker : WorkerLease := ⟨⟨2⟩, 1⟩

/-- Of two workers, the first is full. -/
def oneFull : MemoryState :=
  .after [.registerWorker { equipped with maxCalls := 1 },
    .registerWorker { equipped with workerId := secondWorker.workerId },
    .createCall otherCall]

/-- A planned creation that names both workers. -/
def contested : ServiceCreateTransaction :=
  ⟨creation .telnyx [invitation], plan, [⟨secondWorker, [invitation]⟩]⟩

def onSecond : CreateCall :=
  MemoryState.onWorker (creation .telnyx [invitation]) secondWorker [invitation]

def isCreated : Except RepositoryError (MemoryState × CreateCallOutcome) → Bool
  | .ok (_, .created _) => true
  | _ => false

private theorem isCreated_ok (answer : Except RepositoryError (MemoryState × CreateCallOutcome))
    (created : isCreated answer = true) :
    ∃ placed stored, answer = .ok (placed, .created stored) := by
  unfold isCreated at created
  split at created
  · exact ⟨_, _, rfl⟩
  · cases created

theorem createWithPlan_first_fit_contested :
    ∃ next created,
      oneFull.createWithPlan oneFull.nextEffects contested = .ok (next, .created created) ∧
      created.call.assignment.lease = secondWorker ∧
      next.calls = oneFull.calls.insert callId created.call ∧
      ∃ worker clock, oneFull.workers.get? secondWorker.workerId = some worker ∧
        next.workers = oneFull.workers.insert secondWorker.workerId
          { worker with reservedCalls := worker.reservedCalls + 1, updatedAt := clock } := by
  obtain ⟨-, creates, stores⟩ :=
    (MemoryState.createWithPlan_first_fit oneFull.nextEffects oneFull contested).1
      ["webrtc", "telnyx"] [creation .telnyx [invitation]] onSecond [] (by decide +kernel) rfl
      (by decide +kernel) (by decide +kernel)
  obtain ⟨placed, stored, done⟩ := isCreated_ok
    (MemoryState.createCallInState oneFull.nextEffects oneFull onSecond) (by decide +kernel)
  have created := creates ⟨1⟩ placed stored (by decide +kernel) rfl
    (by unfold MemoryState.Unplanned; decide +kernel) done
  exact ⟨_, _, created, stores _ _ created⟩

end Sample

end Bridgefu.Persistence
