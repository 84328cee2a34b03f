/- digest: Every operation of the repository moves the ledger by ledger steps. -/

import Bridgefu.Persistence.Ledger

/-!
Read bottom up: the helpers that leave the ledger alone, the commit of a decided command and the
creation of a call as one ledger step each, then the operations as paths of such steps.
-/

set_option autoImplicit false

namespace Bridgefu.Persistence

open Lib CallEngine CallService Table

variable {state next : MemoryState} {permits : Permits}

namespace MemoryState

variable {lease : WorkerLease} {worker : WorkerSnapshot} {atTime : Timestamp} {tenantId : TenantId}
  {callId : CallId} {call : StoredCall} {issues : List AttachmentIssue} {aggregate : CallAggregate}
  {commandId : CommandId} {ids : EffectSupply} {result : MemoryState × List OutboxRecord}
  {request : CommandCommit} {decision : CallDecision}

theorem leasedWorker_ok (done : state.leasedWorker lease = .ok worker) :
    state.workers.get? lease.workerId = some worker ∧ worker.lease = lease := by
  simpa [leasedWorker] using done

theorem ensureWorker_ok {allowDraining}
    (done : state.ensureWorker lease allowDraining atTime = .ok ()) :
    ∃ worker, state.workers.get? lease.workerId = some worker ∧ worker.lease = lease ∧
      state.authoritativeTime atTime < worker.leaseExpiresAt := by
  simp only [ensureWorker, bind_eq_ok, reject_eq_ok, not_or, not_le] at done
  obtain ⟨worker, leased, live, -⟩ := done
  obtain ⟨row, lease⟩ := leasedWorker_ok leased
  exact ⟨worker, row, lease, live⟩

theorem tenantCall_ok (done : state.tenantCall tenantId callId = .ok call) :
    state.calls.get? callId = some call ∧ call.aggregate.tenantId = tenantId := by
  simpa [tenantCall] using done

theorem ensureCallWorker_ok (done : state.ensureCallWorker tenantId callId lease atTime = .ok ()) :
    ∃ call, state.calls.get? callId = some call ∧ call.aggregate.tenantId = tenantId ∧
      call.assignment.releasedAt = none ∧ call.assignment.lease = lease := by
  simp only [ensureCallWorker, bind_eq_ok, exists_unit, reject_eq_ok, not_or, Bool.not_eq_true,
    Option.isSome_eq_false_iff, Option.isNone_iff_eq_none, not_not] at done
  obtain ⟨-, call, found, unreleased, lease⟩ := done
  obtain ⟨row, tenant⟩ := tenantCall_ok found
  exact ⟨call, row, tenant, unreleased, lease⟩

theorem retireIdempotencyRows_ok {keys}
    (done : foldFallible (retireIdempotencyRow atTime) state keys = .ok next) :
    ∃ claims, next = { state with
      idempotency := state.idempotency.filter fun key _ => decide (key ∉ keys)
      retiredOperationClaims := claims } := by
  induction keys generalizing state with
  | nil =>
    cases done
    refine ⟨next.retiredOperationClaims, ?_⟩
    rw [filter_eq_self _ fun _ _ _ => by simp]
  | cons key _ ih =>
    simp only [foldFallible, retireIdempotencyRow, bind_eq_ok, exists_unit] at done
    obtain ⟨middle, ⟨_, -, -, one⟩, others⟩ := done
    have erased : ∃ claims, middle = { state with
        idempotency := state.idempotency.erase key, retiredOperationClaims := claims } := by
      split at one
      · cases one
        exact ⟨_, rfl⟩
      · rw [bind_eq_ok, exists_unit, pure_eq_ok] at one
        exact ⟨_, one.2.symm⟩
    obtain ⟨_, rfl⟩ := erased
    obtain ⟨claims, rfl⟩ := ih others
    refine ⟨claims, ?_⟩
    simp [erase, filter, Bool.and_comm]

private theorem retireExpiredIdempotency_ledger
    (done : state.retireExpiredIdempotency atTime = .ok next) : next.ledger = state.ledger := by
  obtain ⟨_, rfl⟩ := retireIdempotencyRows_ok done
  rfl

theorem liveReceipt_retired {keyDigest} (done : state.retireExpiredIdempotency atTime = .ok next) :
    next.liveReceipt tenantId keyDigest atTime = state.liveReceipt tenantId keyDigest atTime := by
  obtain ⟨_, rfl⟩ := retireIdempotencyRows_ok done
  unfold liveReceipt
  rw [get?_filter]
  cases stored : state.idempotency.get? (tenantId, keyDigest) with
  | none => rfl
  | some row =>
    by_cases live : atTime < row.expiresAt
    · have kept : (tenantId, keyDigest) ∉ state.expiredIdempotencyKeys atTime := by
        intro expired
        obtain ⟨⟨_, other⟩, member, rfl⟩ := List.mem_map.mp expired
        obtain ⟨found, late⟩ := List.mem_filter.mp member
        cases stored.symm.trans ((mem_rows ..).mp found)
        exact absurd live (not_lt.mpr (of_decide_eq_true late))
      rw [Option.filter_some, if_pos (decide_eq_true kept)]
    · rw [Option.filter_filter]
      simp [Option.filter_some, live]

theorem refusedDraft_ledger (state : MemoryState) (candidate : CreateCall) :
    (state.refusedDraft candidate).ledger = state.ledger := by
  unfold refusedDraft
  split
  · rename_i retired done
    have quiet := retireExpiredIdempotency_ledger done
    exact quiet
  · rfl

private theorem insertAttachment_ledger {worker issue}
    (done : insertAttachment tenantId callId worker state issue = .ok next) :
    state.attachments.get? issue.tokenDigest = none ∧
      next.ledger = { state.ledger with
        attachments := state.attachments.insert issue.tokenDigest
          (AttachmentIssue.row tenantId callId worker issue) } := by
  rw [insertAttachment, validateNewAttachment, bind_eq_ok, exists_unit, reject_eq_ok, not_or,
    Bool.not_eq_true, contains_eq_false, pure_eq_ok] at done
  obtain ⟨⟨absent, -⟩, rfl⟩ := done
  exact ⟨absent, rfl⟩

private theorem insertAttachments_ledger {worker}
    (done : state.insertAttachments tenantId callId worker atTime issues = .ok next) :
    state.ledger.Issues issues ∧
      next.ledger = { state.ledger with
        attachments := state.ledger.attachments.insertAll
          (issuedRows tenantId callId worker issues) } := by
  simp only [insertAttachments, bind_eq_ok, exists_unit] at done
  obtain ⟨_, -, -, inserted⟩ := done
  induction issues generalizing state with
  | nil =>
    cases inserted
    exact ⟨⟨List.nodup_nil, by rintro _ ⟨⟩⟩, rfl⟩
  | cons issue rest ih =>
    rw [foldFallible, bind_eq_ok] at inserted
    obtain ⟨middle, one, others⟩ := inserted
    obtain ⟨absent, first⟩ := insertAttachment_ledger one
    obtain ⟨issued, later⟩ := ih others
    have rows : middle.ledger.attachments = state.attachments.insert issue.tokenDigest
        (AttachmentIssue.row tenantId callId worker issue) := congrArg Ledger.attachments first
    -- what is new after the first row was new before it, under another token
    have before : ∀ other ∈ rest, other.tokenDigest ≠ issue.tokenDigest ∧
        state.attachments.get? other.tokenDigest = none := by
      intro other member
      have free := issued.absent _ member
      rw [rows, get?_insert] at free
      split_ifs at free with different
      exact ⟨different, free⟩
    refine ⟨⟨?_, ?_⟩, ?_⟩
    · refine List.nodup_cons.mpr ⟨fun member => ?_, issued.distinct⟩
      obtain ⟨other, inRest, same⟩ := List.mem_map.mp member
      exact (before _ inRest).1 same
    · intro other member
      rcases List.mem_cons.mp member with rfl | inRest
      · exact absent
      · exact (before _ inRest).2
    · rw [later, first]
      rfl

private theorem releaseConnections_owners (callId : CallId)
    (rows : List (LegId × ConnectionBinding)) (state : MemoryState) :
    ∃ principals, rows.foldl (releaseConnection callId) state = { state with
      connectionOwners := rows.foldl (releaseOwner callId) state.connectionOwners
      principalBindings := principals } := by
  induction rows generalizing state with
  | nil => exact ⟨_, rfl⟩
  | cons row _ ih => exact ih (releaseConnection callId state row)

private theorem releaseDroppedConnections_owners (bindings : List ConnectionBinding)
    (state : MemoryState) (found : state.calls.get? callId = some call) :
    ∃ principals, bindings.foldl (releaseUnlessCurrent callId) state = { state with
      connectionOwners :=
        bindings.foldl (releaseDropped callId call.bindings) state.connectionOwners
      principalBindings := principals } := by
  induction bindings generalizing state with
  | nil => exact ⟨_, rfl⟩
  | cons _ _ ih =>
    simp only [List.foldl_cons, releaseUnlessCurrent, releaseDropped, found, Option.bind_some]
    split
    · exact ih _ found
    · exact ih _ found

private theorem revokeDropped_owners (aggregate : CallAggregate) (state : MemoryState)
    (found : state.calls.get? callId = some call) :
    ∃ principals, state.revokeDropped callId aggregate = { state with
      attachments := sweepAttachments callId aggregate state.attachments
      connectionOwners := ((state.attachments.values.filter
        (attachmentDropped callId aggregate)).filterMap AttachmentRow.binding).foldl
          (releaseDropped callId call.bindings) state.connectionOwners
      principalBindings := principals } :=
  releaseDroppedConnections_owners _ _ found

private theorem retireControls_ledger {records}
    (done : foldFallible (retireControl aggregate commandId) state records = .ok next) :
    ∃ controls, foldFallible (retireControlRow aggregate commandId)
        (state.controlOutbox, state.controlRetirements) records = .ok controls ∧
      next.ledger = { state.ledger with
        controlOutbox := controls.1, controlRetirements := controls.2 } := by
  induction records generalizing state with
  | nil =>
    cases done
    exact ⟨_, rfl, rfl⟩
  | cons _ _ ih =>
    rw [foldFallible, bind_eq_ok] at done
    obtain ⟨_, one, others⟩ := done
    obtain ⟨controls, folded, ledger⟩ := ih others
    rw [retireControl, bind_eq_ok, exists_unit, pure_eq_ok] at one
    obtain ⟨unretired, rfl⟩ := one
    refine ⟨controls, ?_, ledger⟩
    simp only [foldFallible, retireControlRow, bind_eq_ok, exists_unit]
    exact ⟨_, ⟨unretired, rfl⟩, folded⟩

private theorem retireInactiveBindings_ledger
    (done : state.retireInactiveBindings callId aggregate commandId = .ok next) :
    ∃ call controls, state.calls.get? callId = some call ∧
      foldFallible (retireControlRow aggregate commandId)
        (state.controlOutbox, state.controlRetirements)
        (controlsToRetire callId aggregate state.controlOutbox) = .ok controls ∧
      next.ledger = { state.ledger with
        calls := state.ledger.calls.insert callId
          { call with bindings := call.bindings.filter (bindingRetained aggregate) }
        attachments := sweepAttachments callId aggregate state.ledger.attachments
        connectionOwners := sweepOwners callId aggregate call.bindings state.ledger.attachments
          state.ledger.connectionOwners
        controlOutbox := controls.1
        controlRetirements := controls.2 } := by
  simp only [retireInactiveBindings, bind_eq_ok, orFail_eq_ok] at done
  obtain ⟨call, found, retired⟩ := done
  obtain ⟨_, unbound⟩ : ∃ principals, state.unbindRetired callId _ call = { state with
      calls := _, connectionOwners := _, principalBindings := principals } :=
    releaseConnections_owners ..
  obtain ⟨_, dropped⟩ := revokeDropped_owners _ (state.unbindRetired _ _ call)
    (by rw [unbound]; exact get?_insert_self ..)
  rw [dropped, unbound] at retired
  obtain ⟨controls, folded, ledger⟩ := retireControls_ledger retired
  exact ⟨call, controls, found, folded, ledger⟩

private theorem persistEffects_ledger {batch effects}
    (done : state.persistEffects ids batch effects = .ok result) :
    ∃ rows, foldFallible (persistDeadline batch) state.ledger.deadlines effects = .ok rows ∧
      result.2 = batch.records ids 0 effects ∧
      result.1.ledger = { state.ledger with
        deadlines := rows
        outbox := state.ledger.outbox.insertAll
          ((batch.records ids 0 effects).map OutboxRecord.entry) } := by
  unfold persistEffects at done
  generalize (0 : Nat) = ordinal at done ⊢
  induction effects generalizing state ordinal result with
  | nil =>
    cases done
    exact ⟨state.deadlines, rfl, rfl, rfl⟩
  | cons _ _ ih =>
    simp only [persistEffectsFrom, bind_eq_ok, pure_eq_ok] at done
    obtain ⟨rows, first, _, later, rfl⟩ := done
    obtain ⟨last, folded, records, ledger⟩ := ih (ordinal + 1) later
    refine ⟨last, ?_, ?_, ?_⟩
    · exact (bind_eq_ok _ _ _).mpr ⟨rows, first, folded⟩
    · simp [EffectBatch.records, records]
    · rw [ledger]
      rfl

theorem releaseAssignmentInState_ledger {result}
    (done : state.releaseAssignmentInState tenantId callId lease atTime = .ok result) :
    ∃ call, state.calls.get? callId = some call ∧ call.assignment.lease = lease ∧
      call.aggregate.state.isTerminal ∧
      (call.assignment.releasedAt = none → ∃ worker clock,
        state.workers.get? lease.workerId = some worker ∧ worker.reservedCalls ≠ 0 ∧
        result.1.ledger = { state.ledger with
          calls := state.ledger.calls.insert callId
            { call with assignment := { call.assignment with releasedAt := some atTime } }
          workers := state.ledger.workers.insert lease.workerId
            { worker with reservedCalls := worker.reservedCalls - 1, updatedAt := clock } }) ∧
      (call.assignment.releasedAt ≠ none → result.1 = state) := by
  simp only [releaseAssignmentInState, bind_eq_ok, exists_unit, reject_eq_ok,
    not_not] at done
  obtain ⟨-, call, found, assigned, terminal, done⟩ := done
  refine ⟨call, (tenantCall_ok found).1, assigned, terminal, ?_⟩
  split at done
  · rename_i released
    cases done
    refine ⟨fun unreleased => ?_, fun _ => rfl⟩
    simp [unreleased] at released
  · rename_i unreleased
    simp only [bind_eq_ok, exists_unit, reject_eq_ok, orFail_eq_ok, pure_eq_ok] at done
    obtain ⟨worker, row, reserved, rfl⟩ := done
    refine ⟨fun _ => ⟨worker, _, row, reserved, rfl⟩, fun released => ?_⟩
    simp [released] at unreleased

private theorem recordDecision_ledger (state : MemoryState) (call : StoredCall)
    (aggregate : CallAggregate) (command : StoredCommand) :
    (state.recordDecision call aggregate command).ledger = { state.ledger with
      calls := state.ledger.calls.insert command.callId { call with aggregate := aggregate }
      commands := state.ledger.commands.insert command.commandId command } := rfl

private theorem retainResult_ledger (state : MemoryState) (view : CommandCommitView) :
    (state.retainResult view).ledger = { state.ledger with
      commandResults := state.ledger.commandResults.insert view.command.commandId view } := rfl

/-- The control rows that a decision leaves, which only an Applied one changes. -/
def Ledger.retires (ledger : Ledger) (request : CommandCommit) (decision : CallDecision) :
    Except RepositoryError ControlRows :=
  if decision.disposition = .applied
  then foldFallible (retireControlRow decision.aggregate request.commandId)
    (ledger.controlOutbox, ledger.controlRetirements)
    (controlsToRetire request.callId decision.aggregate ledger.controlOutbox)
  else .ok (ledger.controlOutbox, ledger.controlRetirements)

private theorem swept_ledger (found : state.calls.get? request.callId = some call)
    (done : (if decision.disposition = .applied
      then state.retireInactiveBindings request.callId decision.aggregate request.commandId
      else .ok state) = .ok next) :
    ∃ bindings controls, bindings = (if decision.disposition = .applied
        then call.bindings.filter (bindingRetained decision.aggregate) else call.bindings) ∧
      Ledger.retires state.ledger request decision = .ok controls ∧
      next.calls.get? request.callId = some { call with bindings := bindings } ∧
      (∀ stored, next.calls.insert request.callId stored =
        state.calls.insert request.callId stored) ∧
      next.ledger = { state.ledger with
        calls := next.calls
        attachments := if decision.disposition = .applied
          then sweepAttachments request.callId decision.aggregate state.ledger.attachments
          else state.ledger.attachments
        connectionOwners := if decision.disposition = .applied
          then sweepOwners request.callId decision.aggregate call.bindings state.ledger.attachments
            state.ledger.connectionOwners
          else state.ledger.connectionOwners
        controlOutbox := controls.1
        controlRetirements := controls.2 } := by
  by_cases applied : decision.disposition = .applied
  · simp only [Ledger.retires, if_pos applied] at done ⊢
    obtain ⟨_, controls, same, retired, ledger⟩ := retireInactiveBindings_ledger done
    cases found.symm.trans same
    have calls : next.calls = _ := congrArg Ledger.calls ledger
    refine ⟨_, controls, rfl, retired, ?_, ?_, ?_⟩
    · rw [calls]
      exact get?_insert_self ..
    · intro _
      rw [calls, insert_insert]
      rfl
    · rw [ledger, calls]
  · simp only [Ledger.retires, if_neg applied] at done ⊢
    cases done
    exact ⟨_, _, rfl, rfl, found, fun _ => rfl, rfl⟩

private theorem settleDecision_ledger {ended}
    (found : state.ledger.calls.get? request.callId = some call)
    (unreleased : call.assignment.releasedAt = none)
    (row : state.ledger.workers.get? request.worker.workerId = some worker)
    (done : state.settleDecision request ended = .ok next) :
    ∃ deadlines clock,
      completeDeadlineClaim state.ledger.deadlines request.deadlineClaim request.atTime =
        .ok deadlines ∧ (ended → worker.reservedCalls ≠ 0) ∧
      next.ledger = if ended then { state.ledger with
          calls := state.ledger.calls.insert request.callId
            { call with assignment := { call.assignment with releasedAt := some request.atTime } }
          workers := state.ledger.workers.insert request.worker.workerId
            { worker with reservedCalls := worker.reservedCalls - 1, updatedAt := clock }
          deadlines := deadlines }
        else { state.ledger with deadlines := deadlines } := by
  rw [settleDecision, bind_eq_ok] at done
  obtain ⟨deadlines, completed, done⟩ := done
  split at done
  · rename_i isEnded
    simp only [bind_eq_ok, pure_eq_ok] at done
    obtain ⟨_, gaveBack, rfl⟩ := done
    obtain ⟨current, same, -, -, frees, -⟩ := releaseAssignmentInState_ledger gaveBack
    cases found.symm.trans same
    obtain ⟨current, clock, sameRow, reserved, ledger⟩ := frees unreleased
    cases row.symm.trans sameRow
    exact ⟨deadlines, clock, completed, fun _ => reserved, by rw [ledger, if_pos isEnded]; rfl⟩
  · rename_i goesOn
    cases done
    exact ⟨deadlines, request.atTime, completed, fun isEnded => absurd isEnded goesOn,
      by rw [if_neg goesOn]; rfl⟩

theorem prepareDecision_found {observedVersion}
    (done : prepareDecision ids state request observedVersion decision = .ok result) :
    ∃ call, state.calls.get? request.callId = some call := by
  simp only [prepareDecision, bind_eq_ok, orFail_eq_ok] at done
  obtain ⟨_, swept, current, stored, -⟩ := done
  split at swept
  · obtain ⟨call, -, found, -⟩ := retireInactiveBindings_ledger swept
    exact ⟨call, found⟩
  · cases swept
    exact ⟨current, stored⟩

private theorem issues_of_swept {ledger swept : Ledger} {applied} [Decidable applied]
    (rows : swept.attachments = if applied
      then sweepAttachments callId aggregate ledger.attachments else ledger.attachments)
    (issued : swept.Issues issues) : ledger.Issues issues := by
  refine ⟨issued.distinct, fun _ member => ?_⟩
  have absent := issued.absent _ member
  rw [rows] at absent
  split at absent
  · simpa [sweepAttachments] using absent
  · exact absent

theorem prepareDecision_ledger {observedVersion}
    (found : state.calls.get? request.callId = some call)
    (done : prepareDecision ids state request observedVersion decision = .ok result) :
    ∃ bindings rows controls, bindings = (if decision.disposition = .applied
        then call.bindings.filter (bindingRetained decision.aggregate) else call.bindings) ∧
      foldFallible (persistDeadline (CommandCommit.batch request decision.aggregate.version))
        state.ledger.deadlines decision.effects = .ok rows ∧
      Ledger.retires state.ledger request decision = .ok controls ∧
      state.ledger.Issues request.attachments ∧
      result.2 = (CommandCommit.batch request decision.aggregate.version).records ids 0
        decision.effects ∧
      result.1.ledger = { state.ledger with
        calls := state.ledger.calls.insert request.callId
          ⟨decision.aggregate, call.assignment, bindings⟩
        commands := state.ledger.commands.insert request.commandId
          (CommandCommit.stored request observedVersion decision)
        deadlines := rows
        outbox := state.ledger.outbox.insertAll (result.2.map OutboxRecord.entry)
        attachments := (if decision.disposition = .applied
          then sweepAttachments request.callId decision.aggregate state.ledger.attachments
          else state.ledger.attachments).insertAll
            (issuedRows request.tenantId request.callId request.worker request.attachments)
        connectionOwners := if decision.disposition = .applied
          then sweepOwners request.callId decision.aggregate call.bindings state.ledger.attachments
            state.ledger.connectionOwners
          else state.ledger.connectionOwners
        controlOutbox := controls.1
        controlRetirements := controls.2 } := by
  simp only [prepareDecision, bind_eq_ok, orFail_eq_ok] at done
  obtain ⟨_, swept, _, stored, attached, inserted, effects⟩ := done
  obtain ⟨bindings, controls, kept, retires, same, recorded, retiredLedger⟩ :=
    swept_ledger found swept
  cases stored.symm.trans same
  obtain ⟨issued, insertedLedger⟩ := insertAttachments_ledger inserted
  rw [recordDecision_ledger] at insertedLedger issued
  obtain ⟨rows, folded, records, persistedLedger⟩ := persistEffects_ledger effects
  have deadlines : attached.ledger.deadlines = state.ledger.deadlines := by
    rw [insertedLedger, retiredLedger]
  rw [deadlines] at folded
  have issues : state.ledger.Issues request.attachments := by
    have rows := congrArg Ledger.attachments retiredLedger
    exact issues_of_swept rows ⟨issued.distinct, issued.absent⟩
  refine ⟨bindings, rows, controls, kept, folded, retires, issues, records, ?_⟩
  rw [persistedLedger, insertedLedger, records, retiredLedger]
  rw [CommandCommit.stored, recorded]
  rfl

private theorem storeDecision_ledger {result} (found : state.calls.get? request.callId = some call)
    (unreleased : call.assignment.releasedAt = none)
    (row : state.workers.get? request.worker.workerId = some worker)
    (done : storeDecision ids state request call.aggregate.version decision = .ok result) :
    ∃ c : Commit, c.request = request ∧ c.ids = ids ∧ c.call = call ∧ c.decision = decision ∧
      c.worker = worker ∧ c.consumed = none ∧
      foldFallible (persistDeadline c.batch) state.deadlines decision.effects = .ok c.persisted ∧
      completeDeadlineClaim c.persisted request.deadlineClaim request.atTime = .ok c.deadlines ∧
      (c.ends → worker.reservedCalls ≠ 0) ∧
      Ledger.retires state.ledger request decision = .ok c.controls ∧
      state.ledger.Issues request.attachments ∧
      result.1.ledger = state.ledger.commit c ∧
      result.2 = .committed ⟨c.command, c.stored, c.records⟩ := by
  simp only [storeDecision, bind_eq_ok, pure_eq_ok] at done
  obtain ⟨prepared, prepares, settled, settles, last, shown, rfl⟩ := done
  obtain ⟨bindings, rows, controls, kept, folded, retired, issued, records, preparedLedger⟩ :=
    prepareDecision_ledger found prepares
  have placed : prepared.1.ledger.calls.get? request.callId =
      some ⟨decision.aggregate, call.assignment, bindings⟩ := by
    rw [preparedLedger]
    exact get?_insert_self ..
  obtain ⟨completed, clock, completes, reserved, settledLedger⟩ :=
    settleDecision_ledger placed unreleased (by rw [preparedLedger]; exact row) settles
  rw [preparedLedger, records] at settledLedger
  rw [preparedLedger] at completes
  let c : Commit := ⟨request, ids, call, none, decision, worker, rows, completed, controls, clock⟩
  have settledAs : settled.ledger = { state.ledger.commit c with
      commandResults := state.commandResults } := by
    rw [settledLedger]
    simp only [Ledger.commit, Commit.ends, Commit.stored, Commit.assignment, Commit.bindings,
      Commit.bound, Commit.attached, Option.filter_none, Option.map_none, c, ← kept,
      insert_insert]
    by_cases ended : decision.aggregate.state.isTerminal = true
    · simp only [ended]
      rfl
    · simp only [ended]
      rfl
  have shownAs : last = c.stored := by
    have calls : settled.calls = state.calls.insert request.callId c.stored :=
      congrArg Ledger.calls settledAs
    have row := (tenantCall_ok shown).1
    rw [calls, get?_insert_self] at row
    exact (Option.some.inj row).symm
  subst shownAs
  refine ⟨c, rfl, rfl, rfl, rfl, rfl, rfl, folded, completes, reserved, retired, issued, ?_,
    by rw [records]; rfl⟩
  rw [retainResult_ledger, settledAs, records]
  rfl

private theorem ownId_of_free (free : reject
    (state.commandIdConflictsWithServiceNamespace commandId) RepositoryError.commandConflict =
      .ok ()) : state.ledger.OwnId commandId := by
  rw [reject_eq_ok] at free
  simp only [commandIdConflictsWithServiceNamespace, Bool.or_eq_true, not_or,
    Bool.not_eq_true, contains_eq_false] at free
  exact ⟨free.1, free.2⟩

private theorem offered_of_validated
    (validated : state.validateIssues callId decision atTime issues = .ok ()) :
    ∀ issue ∈ issues, validateAttachmentIssue decision.aggregate issue atTime = .ok () := by
  intro _ member
  have checked := (checkAll_eq_ok _ _ _).mp validated _ member
  rw [bind_eq_ok, exists_unit] at checked
  exact checked.1

/-- A commit replays a stored command and changes nothing, or is one commit of the ledger. -/
theorem commitCommandInState_ledger {result} (unused : state.ledger.Unused ids)
    (done : commitCommandInState ids state request = .ok result) :
    (result.1 = state ∧ ∃ view, result.2 = .replayed view) ∨
      ∃ c : Commit, c.request = request ∧ c.consumed = none ∧ state.ledger.Accepts c ∧
        result.1.ledger = state.ledger.commit c ∧
        result.2 = .committed ⟨c.command, c.stored, c.records⟩ := by
  simp only [commitCommandInState, bind_eq_ok, exists_unit] at done
  obtain ⟨timestamp, ownId, done⟩ := done
  split at done
  · simp only [bind_eq_ok, exists_unit, pure_eq_ok] at done
    obtain ⟨-, call, -, -, -, view, -, rfl⟩ := done
    exact .inl ⟨rfl, view, rfl⟩
  · rename_i newCommand
    simp only [bind_eq_ok, exists_unit, mapFailure_eq_ok] at done
    obtain ⟨owned, call, found, version, claimMatches, claimLive, _, decided, offered,
      stores⟩ := done
    obtain ⟨_, row, tenant, unreleased, assigned⟩ := ensureCallWorker_ok owned
    cases (tenantCall_ok found).1.symm.trans row
    rw [ensureCallWorker, bind_eq_ok, exists_unit] at owned
    obtain ⟨worker, workerRow, lease, -⟩ := ensureWorker_ok owned.1
    obtain ⟨c, rfl, rfl, rfl, rfl, rfl, unattached, persisted, completed, reserved, retired, issued,
      ledger, outcome⟩ := storeDecision_ledger row unreleased workerRow stores
    refine .inr ⟨c, rfl, unattached, ?_, ledger, outcome⟩
    exact {
      timestamp := by simpa [validateCommandTimestamp] using timestamp
      found := row, tenant := tenant, unreleased := unreleased, assigned := assigned
      version := by simpa using version
      newCommand := newCommand, ownId := ownId_of_free ownId
      worker := workerRow, lease := lease
      claimMatches := claimMatches, claimLive := claimLive, decided := decided
      unused := unused, persisted := persisted, completed := completed, reserved := reserved
      consumes := by simp [unattached]
      issues := issued, offered := offered_of_validated offered, retired := retired }

private theorem retainReceipt_ledger (state : MemoryState) (key : TenantId × IdempotencyKeyDigest)
    (row : IdempotencyRow) : (state.retainReceipt key row).ledger = state.ledger := rfl

/-- What the checks before the creation of a call amount to. -/
structure Startable (request : CreateCall) (decision : CallDecision) : Prop where
  timestamp : request.command.atTime = request.atTime
  valid : request.initial.validate = .ok ()
  version : request.initial.version = 0
  pending : request.initial.state = .pending
  decided : request.initial.decide request.command = .ok decision
  applied : decision.disposition = .applied

private theorem createNewCall_ledger {request expiresAt result}
    (startable : Startable request decision)
    (done : createNewCall ids state request decision expiresAt = .ok result) :
    ∃ c : Creation, c.request = request ∧ (state.ledger.Unused ids → state.ledger.Admits c) ∧
      state.ledger.workers.get? request.worker.workerId = some c.worker ∧
      result.1.ledger = state.ledger.create c ∧ result.2 = .created c.stored := by
  simp only [createNewCall, bind_eq_ok, exists_unit, orFail_eq_ok, reject_eq_ok, pure_eq_ok] at done
  obtain ⟨free, newCall, owned, worker, row, capacity, offered, fingerprint, -, _, inserted,
    persisted, effects, rfl⟩ := done
  obtain ⟨_, same, lease, -⟩ := ensureWorker_ok owned
  cases row.symm.trans same
  obtain ⟨issued, attachedLedger⟩ := insertAttachments_ledger inserted
  obtain ⟨rows, folded, records, persistedLedger⟩ := persistEffects_ledger effects
  rw [attachedLedger] at folded persistedLedger
  simp only [not_or, Bool.not_eq_true, contains_eq_false] at free newCall
  refine ⟨⟨request, ids, decision, worker, fingerprint, rows,
    state.authoritativeTime request.atTime⟩, rfl, fun unused => ?_, row, ?_, rfl⟩
  · exact {
      timestamp := startable.timestamp, valid := startable.valid, version := startable.version
      pending := startable.pending, decided := startable.decided, applied := startable.applied
      newCall := newCall.1
      newCommand := free.1
      ownId := ⟨free.2.1, free.2.2⟩
      worker := row, lease := lease, capacity := Nat.lt_of_not_le capacity
      unused := unused, persisted := folded, issues := ⟨issued.distinct, issued.absent⟩
      offered := offered_of_validated offered }
  · rw [retainResult_ledger, retainReceipt_ledger, persistedLedger, records]
    rfl

theorem createCallInState_ledger {request result}
    (done : createCallInState ids state request = .ok result) :
    (result.1.ledger = state.ledger ∧ ∃ call, result.2 = .replayed call) ∨
      ∃ c : Creation, c.request = request ∧ (state.ledger.Unused ids → state.ledger.Admits c) ∧
        state.ledger.workers.get? request.worker.workerId = some c.worker ∧
        result.1.ledger = state.ledger.create c ∧ result.2 = .created c.stored := by
  simp only [createCallInState, decideCreate, bind_eq_ok, exists_unit, mapFailure_eq_ok,
    pure_eq_ok] at done
  obtain ⟨_, ⟨timestamp, valid, fresh, decision, decided, applied, _, -, rfl⟩, _,
    swept, done⟩ := done
  have quiet := retireExpiredIdempotency_ledger swept
  split at done
  · simp only [bind_eq_ok, exists_unit, pure_eq_ok] at done
    obtain ⟨-, call, -, rfl⟩ := done
    exact .inl ⟨quiet, call, rfl⟩
  · rw [reject_eq_ok, not_or] at fresh
    have startable : Startable request decision :=
      { timestamp := by simpa [validateCommandTimestamp] using timestamp
        valid := valid, version := by simpa using fresh.1, pending := by simpa using fresh.2
        decided := decided, applied := by simpa using applied }
    obtain ⟨c, same, admits, row, ledger, outcome⟩ := createNewCall_ledger startable done
    exact .inr ⟨c, same, quiet ▸ admits, quiet ▸ row, quiet ▸ ledger, outcome⟩

theorem loadCreateReplayInState_none [Libraries] {tenantId keyDigest requestDigest atTime}
    (answers : state.loadCreateReplayInState tenantId keyDigest requestDigest atTime = .ok none) :
    state.liveReceipt tenantId keyDigest atTime = none := by
  unfold loadCreateReplayInState at answers
  split at answers
  · assumption
  · simp only [bind_eq_ok, pure_eq_ok, reduceCtorEq, and_false, exists_false] at answers

theorem createWithPlan_ok [Libraries] {request result}
    (done : state.createWithPlan ids request = .ok result) :
    (result.1 = state ∧ ∃ call, result.2 = .replayed call) ∨ ∃ requiredCapabilities placed,
      state.liveReceipt request.create.initial.tenantId request.create.idempotencyKey
        request.create.atTime = none ∧
      request.plan.requiredWorkerCapabilities = .ok requiredCapabilities ∧
      placeCall ids requiredCapabilities state .capacityExceeded (candidates request) =
        .ok placed ∧
      result.1.ledger = placed.1.ledger ∧
      ∀ created, result.2 = .created created → placed.2 = .created created.call := by
  rw [createWithPlan, bind_eq_ok] at done
  obtain ⟨_, answers, done⟩ := done
  split at done
  · cases done
    exact .inl ⟨rfl, _, rfl⟩
  · simp only [bind_eq_ok, exists_unit] at done
    obtain ⟨-, _, -, requiredCapabilities, planned, placed, places, done⟩ := done
    refine .inr ⟨requiredCapabilities, placed, loadCreateReplayInState_none answers, planned, places,
      ?_⟩
    split at done
    all_goals
      rename_i call outcome
      simp only [bind_eq_ok, exists_unit, pure_eq_ok] at done
    · obtain ⟨-, original, -, rfl⟩ := done
      refine ⟨rfl, fun _ shown => ?_⟩
      cases shown
      exact outcome
    · obtain ⟨-, _, -, original, -, rfl⟩ := done
      exact ⟨rfl, by rintro _ ⟨⟩⟩

end MemoryState

/-- A path that leaves stored effects and provider events as they are. -/
structure CommandPath (permits : Permits) (before after : Ledger) : Prop where
  path : LedgerPath permits before after
  outbox : ∀ effectId record, before.outbox.get? effectId = some record →
    after.outbox.get? effectId = some record
  providerEvents : after.providerEvents = before.providerEvents

namespace CommandPath

variable {first second third : Ledger}

theorem refl (ledger : Ledger) : CommandPath permits ledger ledger :=
  ⟨.refl, fun _ _ found => found, rfl⟩

theorem trans (one : CommandPath permits first second) (two : CommandPath permits second third) :
    CommandPath permits first third :=
  ⟨one.path.trans two.path, fun effectId record found =>
    two.outbox effectId record (one.outbox effectId record found),
    two.providerEvents.trans one.providerEvents⟩

private theorem of_step (step : LedgerStep permits first second)
    (outbox : second.outbox = first.outbox)
    (providerEvents : second.providerEvents = first.providerEvents) :
    CommandPath permits first second :=
  ⟨.single step, fun _ _ found => outbox ▸ found, providerEvents⟩

private theorem commit_outbox {c} (accepts : first.Accepts c) (effectId : EffectId)
    (record : OutboxRecord) (found : first.outbox.get? effectId = some record) :
    (first.commit c).outbox.get? effectId = some record := by
  have absent : effectId ∉ (c.records.map OutboxRecord.entry).map Prod.fst := by
    intro member
    obtain ⟨n, same⟩ := EffectBatch.records_ids member
    have unused := accepts.unused.absent n
    rw [← same, found] at unused
    cases unused
  exact (get?_insertAll_of_absent first.outbox absent).trans found

theorem of_commit {c} (permitted : permits.Commits c.request)
    (accepts : first.Accepts c) : CommandPath permits first (first.commit c) :=
  ⟨.single (.decided c permitted accepts), commit_outbox accepts, rfl⟩

private theorem of_promote {c legId binding} (permitted : permits.Commits c.request)
    (mayPromote : permits.promotes) (accepts : first.Accepts c)
    (promotes : Ledger.Promotes c legId binding) (installs : first.Installs c legId binding) :
    CommandPath permits first (first.promote c legId binding) :=
  ⟨.single (.promoted c legId binding permitted mayPromote accepts promotes installs),
    commit_outbox accepts, rfl⟩

end CommandPath

namespace MemoryState

variable {request : ServiceCommandTransaction} {result : MemoryState × ServiceCommandOutcome}

private theorem insertPayloads_ledger {payloads}
    (done : foldFallible insertPayload state payloads = .ok next) : next.ledger = state.ledger := by
  refine foldFallible_preserves (fun s => s.ledger = state.ledger) ?_ rfl done
  intro s _ _ kept inserted
  rw [insertPayload, bind_eq_ok, exists_unit, pure_eq_ok] at inserted
  obtain ⟨-, rfl⟩ := inserted
  exact kept

theorem retainOperationReceipt_ledger {tenantId callId idempotency} {receipt atTime}
    (done : state.retainOperationReceipt tenantId callId idempotency receipt atTime = .ok next) :
    next.ledger = state.ledger := by
  unfold retainOperationReceipt at done
  split at done
  · cases done
    rfl
  · simp only [bind_eq_ok, exists_unit, pure_eq_ok] at done
    obtain ⟨_, -, -, rfl⟩ := done
    rfl

def Ledger.recordService (ledger : Ledger) (request : ServiceCommandTransaction)
    (view : ServiceCommandView) : Ledger :=
  { ledger with
    serviceCommandResults := ledger.serviceCommandResults.insert request.command.commandId
      ⟨request, view⟩ }

/-- Storing a service command promotes a connection at most, and records the result. -/
theorem storeServiceCommand_ledger {core}
    (done : state.storeServiceCommand request core = .ok result) :
    ∃ promoted view, view.command = promoted.2 ∧
      state.applyReplacementConnection request core = .ok promoted ∧
      result.1.ledger = Ledger.recordService promoted.1.ledger request view := by
  simp only [storeServiceCommand, bind_eq_ok, exists_unit, pure_eq_ok] at done
  obtain ⟨promoted, promotes, payloads, -, -, paid, inserted, _, receipted, rfl⟩ := done
  have unpaid : paid.ledger = promoted.1.ledger := insertPayloads_ledger inserted
  refine ⟨promoted, ⟨promoted.2, payloads⟩, rfl, promotes, ?_⟩
  rw [retainOperationReceipt_ledger receipted, ← unpaid]
  rfl

/-- The operation may commit the service command, which promotes a connection only as the result
of the replacement. -/
structure MayCommit (permits : Permits) (request : ServiceCommandTransaction) : Prop where
  permitted : permits.Commits request.command
  promotes : request.replacementConnection.isSome → permits.promotes
  connected : ∀ promotion, request.replacementConnection = some promotion →
    connectedReplacement request.command.command = some promotion.pendingBindingGeneration

theorem normalizeServiceCommand_ok [Libraries] {request normal}
    (done : normalizeServiceCommand request = .ok normal) :
    normal.command = request.command ∧
      normal.replacementConnection = request.replacementConnection ∧
      ∀ promotion, normal.replacementConnection = some promotion →
        connectedReplacement normal.command.command =
          some promotion.pendingBindingGeneration := by
  simp only [normalizeServiceCommand, bind_eq_ok, exists_unit, pure_eq_ok, reject_eq_ok] at done
  obtain ⟨-, -, -, -, promotes, -, -, rfl⟩ := done
  refine ⟨rfl, rfl, fun _ promoted => ?_⟩
  rw [promoted] at promotes
  simp only [Option.any_some, decide_eq_true_eq, not_or, not_not] at promotes
  exact promotes.2.2.2

theorem normalizeServiceCommand_mayCommit [Libraries]
    {request normal} (permitted : permits.Commits request.command)
    (promotes : request.replacementConnection.isSome → permits.promotes)
    (done : normalizeServiceCommand request = .ok normal) : MayCommit permits normal := by
  obtain ⟨command, promotion, connected⟩ := normalizeServiceCommand_ok done
  exact ⟨command ▸ permitted, promotion ▸ promotes, connected⟩

private theorem claimedReceipt_ledger {tenantId callId idempotency atTime result}
    (done : state.claimedReceipt tenantId callId idempotency atTime = .ok result) :
    result.1.ledger = state.ledger := by
  rw [claimedReceipt, bind_eq_ok] at done
  obtain ⟨_, swept, done⟩ := done
  have quiet := retireExpiredIdempotency_ledger swept
  split at done
  · cases done
    exact quiet
  · rw [bind_eq_ok, exists_unit, pure_eq_ok] at done
    obtain ⟨-, rfl⟩ := done
    exact quiet

theorem replayServiceOperation_ledger {result}
    (done : state.replayServiceOperation request = .ok result) :
    result.1.ledger = state.ledger := by
  unfold replayServiceOperation at done
  split at done
  · cases done
    rfl
  · rw [bind_eq_ok] at done
    obtain ⟨_, looked, done⟩ := done
    have quiet := claimedReceipt_ledger looked
    grind [bind_eq_ok, pure_eq_ok]

theorem replayControlOperation_ledger {request result}
    (done : state.replayControlOperation request = .ok result) :
    result.1.ledger = state.ledger := by
  unfold replayControlOperation at done
  split at done
  · cases done
    rfl
  · rw [bind_eq_ok] at done
    obtain ⟨_, looked, done⟩ := done
    have quiet := claimedReceipt_ledger looked
    grind [bind_eq_ok, pure_eq_ok]

theorem validateReplacementConnection_ok {promotion}
    (promoted : request.replacementConnection = some promotion)
    (validated : state.validateReplacementConnection request = .ok ()) :
    ∃ call replacement previous, state.ledger.calls.get? request.command.callId = some call ∧
      call.aggregate.replacement = some replacement ∧ replacement.legId = promotion.legId ∧
      replacement.pendingBindingGeneration = promotion.pendingBindingGeneration ∧
      call.bindings.get? promotion.legId = some previous ∧
      replacement.previousBindingGeneration = previous.bindingGeneration ∧
      previous.connectionId = promotion.previousConnectionId ∧
      (state.ledger.usedConnectionIds.get? promotion.connectionId = none ∧
          state.ledger.connectionOwners.get? promotion.connectionId = none ∨
        state.ledger.connectionOwners.get? promotion.connectionId =
            some (request.command.callId, promotion.legId, promotion.pendingBindingGeneration) ∧
          ∃ token row standby, state.ledger.attachments.get? token = some row ∧
            row.binding = some standby ∧ standby.connectionId = promotion.connectionId ∧
            row.callId = request.command.callId ∧ row.legId = promotion.legId ∧
            row.bindingGeneration = promotion.pendingBindingGeneration ∧
            row.purpose = .providerMedia ∧ row.revokedAt = none) := by
  simp only [validateReplacementConnection, promoted, bind_eq_ok, exists_unit, orFail_eq_ok,
    reject_eq_ok, not_or, not_not] at validated
  obtain ⟨call, found, replacement, pending, previous, bound,
    ⟨sameLeg, samePrevious, samePending, isPrevious, generation, source⟩, -⟩ := validated
  refine ⟨call, replacement, previous, found, pending, sameLeg, samePending, bound,
    samePrevious.trans generation.symm, isPrevious, ?_⟩
  rcases not_and_or.mp source with unused | standby
  · rw [not_not] at unused
    simp only [Bool.and_eq_true, Bool.not_eq_true', contains, Option.isSome_eq_false_iff,
      Option.isNone_iff_eq_none] at unused
    exact .inl unused
  · rw [not_not] at standby
    simp only [authenticatedPendingAttachment, any_eq_true, Bool.and_eq_true, decide_eq_true_eq,
      Option.any_eq_true, Option.isNone_iff_eq_none] at standby
    obtain ⟨token, row, attachment, ⟨⟨⟨⟨⟨⟨⟨⟨callId, legId⟩, generation⟩, purpose⟩, -⟩, -⟩,
      unrevoked⟩, pending, shown, ⟨connection, -⟩, -⟩, owner⟩⟩ := standby
    exact .inr ⟨owner, token, row, pending, attachment, shown, connection, callId, legId, generation,
      purpose, unrevoked⟩

theorem validateReplacementConnection_promotes {c promotion}
    (may : MayCommit permits request) (accepts : state.ledger.Accepts c)
    (sameRequest : c.request = request.command) (unattached : c.consumed = none)
    (promoted : request.replacementConnection = some promotion)
    (validated : state.validateReplacementConnection request = .ok ()) :
    let binding := ReplacementConnectionPromotion.binding promotion request.command.atTime
    Ledger.Promotes c promotion.legId binding ∧
      state.ledger.Installs c promotion.legId binding := by
  obtain ⟨_, replacement, previous, found, pending, sameLeg, samePending, bound, samePrevious, -,
    source⟩ := validateReplacementConnection_ok promoted validated
  rw [← sameRequest] at found source
  cases found.symm.trans accepts.found
  have connected := may.connected _ promoted
  rw [← sameRequest] at connected
  constructor
  · refine ⟨unattached, ⟨replacement, pending, sameLeg, samePending⟩, connected, ?_⟩
    have decided := accepts.decided
    unfold connectedReplacement at connected
    split at connected
    · rename_i command
      rw [command] at decided
      exact CallAggregate.decide_finishLegReplacement_goesOn (by simp [pending]) decided
    · cases connected
  · refine ⟨⟨previous, replacement, bound, pending, samePrevious⟩, rfl, source.imp_right ?_⟩
    rintro ⟨owner, token, row, standby, attachment, shown, connection, callId, legId, generation, -⟩
    exact ⟨owner, token, row, standby, attachment, shown, connection, callId, legId, generation⟩

private theorem applyCommitted_ledger {c promoted} (sameRequest : c.request = request.command)
    (unattached : c.consumed = none) (ledger : state.ledger = next.ledger.commit c)
    (done : state.applyReplacementConnection request ⟨c.command, c.stored, c.records⟩ =
      .ok promoted) :
    promoted.1.ledger.commandResults.get? request.command.commandId = some promoted.2 ∧
      (request.replacementConnection = none ∧ promoted.1.ledger = next.ledger.commit c ∨
        ∃ promotion, request.replacementConnection = some promotion ∧
          promoted.1.ledger = next.ledger.promote c promotion.legId
            (ReplacementConnectionPromotion.binding promotion request.command.atTime)) := by
  have placed : state.ledger.calls.get? request.command.callId = some c.stored := by
    rw [ledger, ← sameRequest]
    exact get?_insert_self ..
  have shown : state.ledger.commandResults.get? request.command.commandId =
      some ⟨c.command, c.stored, c.records⟩ := by
    rw [ledger, ← sameRequest]
    exact get?_insert_self ..
  unfold applyReplacementConnection at done
  split at done
  · rename_i unpromoted
    cases done
    exact ⟨shown, .inl ⟨unpromoted, ledger⟩⟩
  · rename_i promotion given
    simp only [bind_eq_ok, orFail_eq_ok, pure_eq_ok] at done
    obtain ⟨_, same, _, installed, _, kept, rfl⟩ := done
    cases placed.symm.trans same
    cases shown.symm.trans kept
    have row := (tenantCall_ok installed).1
    rw [get?_insert_self] at row
    cases row
    have unused : c.used next.ledger.usedConnectionIds = next.ledger.usedConnectionIds := by
      rw [Commit.used, unattached]
    refine ⟨get?_insert_self .., .inr ⟨promotion, given, ?_⟩⟩
    let binding := ReplacementConnectionPromotion.binding promotion request.command.atTime
    let key := (request.command.callId, promotion.legId, promotion.pendingBindingGeneration)
    refine (congrArg (fun ledger : Ledger => { ledger with
      calls := ledger.calls.insert request.command.callId (c.promoted promotion.legId binding)
      commandResults := ledger.commandResults.insert request.command.commandId
        ⟨c.command, c.promoted promotion.legId binding, c.records⟩
      connectionOwners := ledger.connectionOwners.insert promotion.connectionId key
      usedConnectionIds := ledger.usedConnectionIds.insert promotion.connectionId () })
      ledger).trans ?_
    simp only [Ledger.commit, insert_insert, unused, ← sameRequest, binding, key]
    rfl

theorem commitUnclaimedServiceCommand_ledger {ids} (unused : state.ledger.Unused ids)
    (done : commitUnclaimedServiceCommand ids state request = .ok result) :
    (result.1 = state ∧ ∃ view, result.2 = .replayed view) ∨
      ∃ c stored view, c.request = request.command ∧ c.consumed = none ∧ state.ledger.Accepts c ∧
        state.validateReplacementConnection request = .ok () ∧
        state.ledger.serviceCommandResults.get? request.command.commandId = none ∧
        stored.commandResults.get? request.command.commandId = some view.command ∧
        result.1.ledger = Ledger.recordService stored request view ∧
        (request.replacementConnection = none ∧ stored = state.ledger.commit c ∨
          ∃ promotion, request.replacementConnection = some promotion ∧
            stored = state.ledger.promote c promotion.legId
              (ReplacementConnectionPromotion.binding promotion request.command.atTime)) := by
  rw [commitUnclaimedServiceCommand] at done
  split at done
  · rw [bind_eq_ok, exists_unit, pure_eq_ok] at done
    obtain ⟨-, rfl⟩ := done
    exact .inl ⟨rfl, _, rfl⟩
  · rename_i newResult
    simp only [bind_eq_ok, exists_unit] at done
    obtain ⟨-, -, -, -, validated, _, commits, done⟩ := done
    split at done
    · rename_i core outcome
      obtain ⟨-, view, replayed⟩ | ⟨c, sameRequest, unattached, accepts, ledger, shows⟩ :=
        commitCommandInState_ledger unused commits
      · cases outcome.symm.trans replayed
      cases outcome.symm.trans shows
      obtain ⟨_, view, same, applies, stores⟩ := storeServiceCommand_ledger done
      obtain ⟨shown, kind⟩ := applyCommitted_ledger sameRequest unattached ledger applies
      exact .inr ⟨c, _, view, sameRequest, unattached, accepts, validated, newResult,
        same ▸ shown, stores, kind⟩
    · cases done

private theorem commitUnclaimedServiceCommand_path {ids} (unused : state.ledger.Unused ids)
    (may : MayCommit permits request)
    (done : commitUnclaimedServiceCommand ids state request = .ok result) :
    CommandPath permits state.ledger result.1.ledger := by
  obtain ⟨same, -⟩ | ⟨c, stored, view, sameRequest, unattached, accepts, validated, newResult, shown,
    ledger, kind⟩ := commitUnclaimedServiceCommand_ledger unused done
  · rw [same]
    exact .refl _
  have permitted : permits.Commits c.request := sameRequest ▸ may.permitted
  have path : CommandPath permits state.ledger stored ∧
      stored.serviceCommandResults = state.ledger.serviceCommandResults := by
    obtain ⟨-, rfl⟩ | ⟨_, given, rfl⟩ := kind
    · exact ⟨.of_commit permitted accepts, rfl⟩
    · obtain ⟨finishes, installs⟩ := validateReplacementConnection_promotes may accepts sameRequest
        unattached given validated
      exact ⟨.of_promote permitted (may.promotes (by simp [given])) accepts finishes installs, rfl⟩
  rw [ledger]
  exact path.1.trans (.of_step (.serviceRecorded request.command.commandId ⟨request, view⟩
    (path.2 ▸ newResult) shown) rfl rfl)

theorem commitServiceCommandInState_path {ids allowMediaActivity} (unused : state.ledger.Unused ids)
    (may : MayCommit permits request)
    (done : commitServiceCommandInState ids state request allowMediaActivity = .ok result) :
    CommandPath permits state.ledger result.1.ledger := by
  simp only [commitServiceCommandInState, bind_eq_ok, exists_unit] at done
  obtain ⟨-, replay, looked, done⟩ := done
  have quiet : replay.1.ledger = state.ledger := replayServiceOperation_ledger looked
  split at done
  · cases done
    rw [quiet]
    exact .refl _
  · rw [← quiet]
    exact commitUnclaimedServiceCommand_path (quiet ▸ unused) may done

end MemoryState

end Bridgefu.Persistence
