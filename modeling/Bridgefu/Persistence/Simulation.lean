/- digest: Each operation of the repository as a path of ledger steps, and runs of them. -/

import Bridgefu.Persistence.Refinement

set_option autoImplicit false

namespace Bridgefu.Persistence

open Lib CallEngine CallService Table Commit

variable {state next : MemoryState}

namespace MemoryState

variable {permits : Permits}

/-- An operation that succeeds takes the ledger along a path of steps. -/
def Moves (permits : Permits) (state : MemoryState) {α : Type}
    (attempt : Except RepositoryError (MemoryState × α)) : Prop :=
  ∀ result, attempt = .ok result → LedgerPath permits state.ledger result.1.ledger

private theorem repeated_path {α check} {answer : α} :
    Moves permits state (check >>= fun _ : Unit => pure (state, answer)) := by
  intro _ done
  rw [bind_eq_ok, exists_unit, pure_eq_ok] at done
  obtain ⟨-, rfl⟩ := done
  exact .refl

private theorem registerWorker_path {request} : Moves permits state
    (state.registerWorker request) := by
  intro _ done
  simp only [registerWorker, bind_eq_ok, exists_unit, pure_eq_ok] at done
  obtain ⟨-, _, -, _, -, _, admits, rfl⟩ := done
  refine .single (.registered request.workerId _ ?_)
  rw [Ledger.Registers, ledger]
  split at admits
  · rename_i known row
    simp only [bind_eq_ok, exists_unit, reject_eq_ok, nextCounter_eq_ok, pure_eq_ok] at admits
    obtain ⟨room, -, _, ⟨-, rfl⟩, rfl⟩ := admits
    rw [row]
    exact ⟨rfl, rfl, Nat.le_of_not_lt room⟩
  · rename_i row
    cases admits
    rw [row]
    exact ⟨rfl, rfl⟩

private theorem activateWorkerCapabilities_path {request} :
    Moves permits state (state.activateWorkerCapabilities request) := by
  intro _ done
  simp only [activateWorkerCapabilities, bind_eq_ok, exists_unit] at done
  obtain ⟨-, -, _, leased, -, done⟩ := done
  split at done
  · cases done
    exact .refl
  · rw [bind_eq_ok, exists_unit, pure_eq_ok] at done
    obtain ⟨-, rfl⟩ := done
    exact .single (.workerUpdated _ _ _ (leasedWorker_ok leased).1 rfl rfl rfl)

private theorem renewWorkerLease_path {request} : Moves permits state
    (state.renewWorkerLease request) := by
  intro _ done
  simp only [renewWorkerLease, bind_eq_ok, exists_unit] at done
  obtain ⟨-, _, leased, -, _, -, done⟩ := done
  split at done
  · cases done
    exact .refl
  · cases done
    exact .single (.workerUpdated _ _ _ (leasedWorker_ok leased).1 rfl rfl rfl)

variable {worker : WorkerLease} {atTime : Timestamp} {ids : EffectSupply}
  {event : ProviderEventEnvelope} {claimTtl limit : Nat} {record : OutboxRecord}
  {result : MemoryState × ServiceCommandOutcome} {request : EffectResultReconciliation}

private theorem setWorkerDraining_path {draining} :
    Moves permits state (state.setWorkerDraining worker draining atTime) := by
  intro _ done
  simp only [setWorkerDraining, bind_eq_ok, exists_unit, pure_eq_ok] at done
  obtain ⟨row, leased, -, -, rfl⟩ := done
  exact .single (.workerUpdated row _ _ (leasedWorker_ok leased).1 rfl rfl rfl)

section

variable (unused : state.ledger.Unused ids)
include unused

private theorem createCallInState_path {request} (initial : permits.creates request.initial) :
    Moves permits state (createCallInState ids state request) := by
  intro _ done
  obtain ⟨quiet, -⟩ | ⟨c, same, admits, -, ledger, -⟩ := createCallInState_ledger done
  · rw [quiet]
  · rw [ledger]
    exact .single (.created c (same ▸ initial) (admits unused))

private theorem placeCall_path {requiredCapabilities candidates lastAdmissionError}
    (initial : ∀ candidate ∈ candidates, permits.creates candidate.initial) : Moves permits state
      (placeCall ids requiredCapabilities state lastAdmissionError candidates) := by
  intro _ done
  induction candidates generalizing state lastAdmissionError with
  | nil => cases done
  | cons _ _ ih =>
    have others := fun other member => initial other (List.mem_cons_of_mem _ member)
    rw [placeCall] at done
    split at done
    · split_ifs at done
      exact ih unused others done
    · split at done
      · rename_i placed creates
        cases done
        exact createCallInState_path unused (initial _ (List.mem_cons_self)) _ creates
      · split_ifs at done
        rw [← refusedDraft_ledger] at unused ⊢
        exact ih unused others done

private theorem createWithPlan_path [Libraries] {request}
    (initial : permits.creates request.create.initial) :
    Moves permits state (state.createWithPlan ids request) := by
  intro _ done
  obtain ⟨quiet, -⟩ | ⟨_, _, -, -, places, ledger, -⟩ := createWithPlan_ok done
  · rw [quiet]
  · rw [ledger]
    refine placeCall_path unused (fun _ member => ?_) _ places
    rcases List.mem_cons.mp member with rfl | alternative
    · exact initial
    · obtain ⟨_, -, rfl⟩ := List.mem_map.mp alternative
      exact initial

private theorem commitCommandInState_path {request result} (permitted : permits.Commits request)
    (done : commitCommandInState ids state request = .ok result) :
    CommandPath permits state.ledger result.1.ledger := by
  obtain ⟨same, -⟩ | ⟨c, sameRequest, -, accepts, ledger, -⟩ :=
    commitCommandInState_ledger unused done
  · rw [same]
    exact .refl _
  · rw [ledger]
    exact .of_commit (sameRequest ▸ permitted) accepts

end

private theorem releaseAssignment_path {tenantId callId} (acts : permits.acts worker) :
    Moves permits state (state.releaseAssignment tenantId callId worker atTime) := by
  intro _ done
  obtain ⟨call, found, rfl, terminal, frees, keeps⟩ := releaseAssignmentInState_ledger done
  by_cases unreleased : call.assignment.releasedAt = none
  · obtain ⟨row, _, assigned, reserved, ledger⟩ := frees unreleased
    rw [ledger]
    exact .single (.released _ _ row _ _ acts found terminal unreleased assigned reserved)
  · rw [keeps unreleased]

private theorem accepts_attached {ledger : Ledger} {use c call}
    (unattached : c.consumed = none) (found : ledger.calls.get? c.request.callId = some call)
    (consumes : ledger.Consumes { c with call := call, consumed := some use } use)
    (accepts : (ledger.attach c.request.callId call use).Accepts c) :
    ledger.Accepts { c with call := call, consumed := some use } ∧
      (ledger.attach c.request.callId call use).commit c =
        ledger.commit { c with call := call, consumed := some use } := by
  have sameCall : c.call = if use.joins
      then { call with bindings := call.bindings.insert use.row.legId use.binding } else call := by
    have row := accepts.found
    rw [Ledger.attach] at row
    split_ifs at row with joins
    · rw [get?_insert_self] at row
      rw [if_pos joins]
      exact (Option.some.inj row).symm
    · rw [if_neg joins]
      exact Option.some.inj (row.symm.trans found)
  have issues : ledger.Issues c.request.attachments := by
    refine ⟨accepts.issues.distinct, fun _ member => ?_⟩
    have absent := accepts.issues.absent _ member
    rw [Ledger.attach, get?_insert] at absent
    split_ifs at absent
    exact absent
  have aggregate : c.call.aggregate = call.aggregate := by
    rw [sameCall]
    split <;> rfl
  have assignment : c.call.assignment = call.assignment := by
    rw [sameCall]
    split <;> rfl
  constructor
  · exact { accepts with
      found := found, issues := issues, decided := aggregate ▸ accepts.decided
      tenant := aggregate ▸ accepts.tenant, version := aggregate ▸ accepts.version
      unreleased := assignment ▸ accepts.unreleased, assigned := assignment ▸ accepts.assigned
      ownId := ⟨accepts.ownId.control, accepts.ownId.outbound⟩
      unused := ⟨accepts.unused.injective, accepts.unused.absent⟩
      consumes := by
        rintro _ ⟨⟩
        exact consumes }
  · obtain ⟨request, _, _, _, _, _, _, _, _, _⟩ :=
      c
    subst sameCall unattached
    cases joins : use.joins <;>
      simp only [Ledger.commit, Ledger.attach, stored, bindings, bound, attached, owners, joins,
        Option.filter_some, if_true, insert_insert]
    all_goals rfl

private theorem validateAttachmentConsumeCommand_ok {request}
    (done : validateAttachmentConsumeCommand request = .ok ()) :
    CallCommand.attaches request.command request.candidate.legId
      request.candidate.bindingGeneration := by
  rw [validateAttachmentConsumeCommand, bind_eq_ok, exists_unit, reject_eq_ok,
    Bool.not_eq_true, Bool.not_eq_false] at done
  obtain ⟨-, exact'⟩ := done
  split at exact'
  · rename_i command
    simp only [Bool.and_eq_true, decide_eq_true_eq] at exact'
    obtain ⟨⟨-, rfl⟩, rfl⟩ := exact'
    exact .inl ⟨_, command⟩
  · rename_i command
    simp only [Bool.and_eq_true, decide_eq_true_eq] at exact'
    obtain ⟨⟨-, rfl⟩, rfl⟩ := exact'
    exact .inr ⟨_, command⟩
  · simp at exact'

/-- The use of an attachment is one commit, which marks the attachment of the token. -/
theorem consumeAttachment_ledger {request result} (unused : state.ledger.Unused ids)
    (done : state.consumeAttachment ids request = .ok result) :
    ∃ c use, c.request = AttachmentConsume.commit request ∧ c.consumed = some use ∧
      use.token = request.candidate.tokenDigest ∧ state.ledger.Accepts c ∧
      result.1.ledger = state.ledger.commit c := by
  simp only [consumeAttachment, bind_eq_ok, exists_unit, mapFailure_eq_ok, orFail_eq_ok] at done
  obtain ⟨-, -, exact', -, row, attachment, presented, fresh, call, found, -, vacant, _,
    commits, done⟩ := done
  have stored := (tenantCall_ok found).1
  have attaches := validateAttachmentConsumeCommand_ok exact'
  rw [reject_eq_ok] at presented fresh
  simp only [not_or, not_not, Bool.not_eq_true, Option.isSome_eq_false_iff,
    Option.isNone_iff_eq_none, contains] at presented fresh
  obtain ⟨-, -, -, sameCall, sameLeg, sameGeneration, -, -, -, sameWorker, -, unconsumed,
    unrevoked⟩ := presented
  obtain ⟨-, _, replayed⟩ | ⟨c, sameRequest, unattached, accepts, ledger, -⟩ :=
    commitCommandInState_ledger (by exact ⟨unused.injective, unused.absent⟩) commits
  · rw [replayed] at done
    cases done
  have callId : c.request.callId = request.candidate.callId := congrArg _ sameRequest
  have command : c.request.command = request.command := congrArg _ sameRequest
  have worker : c.request.worker = request.candidate.worker := congrArg _ sameRequest
  let use : Consumption := ⟨request.candidate.tokenDigest, row, AttachmentConsume.binding request,
    !AttachmentConsume.replaces request call⟩
  have consumes : state.ledger.Consumes { c with call := call, consumed := some use } use :=
    { found := attachment, unconsumed := unconsumed, unrevoked := unrevoked
      call := sameCall.trans callId.symm, worker := sameWorker.trans worker.symm
      leg := sameLeg.symm, generation := sameGeneration.symm
      unused := fresh.1
      attaches := by
        rw [sameLeg, sameGeneration]
        exact command ▸ attaches
      vacant := fun joins => by
        have current : AttachmentConsume.replaces request call = false := by simpa [use] using joins
        simp only [current, and_true, reject_eq_ok, Bool.not_eq_true, contains_eq_false] at vacant
        rw [sameLeg]
        exact vacant
      pending := fun waits => by
        have replaces : AttachmentConsume.replaces request call = true := by
          simpa [use] using waits
        rw [AttachmentConsume.replaces, Bool.and_eq_true] at replaces
        rw [sameLeg, sameGeneration]
        exact replaces.2 }
  have placed : (state.attachConnection request
      (if AttachmentConsume.replaces request call then state.calls
        else state.calls.insert request.candidate.callId { call with
          bindings :=
            call.bindings.insert request.candidate.legId (AttachmentConsume.binding request) })
      { row with
        consumedAt := some request.atTime
        binding := some (AttachmentConsume.binding request) }).ledger =
        state.ledger.attach c.request.callId call use := by
    simp only [attachConnection, callId, use, ← sameCall, ← sameLeg, ← sameGeneration]
    cases AttachmentConsume.replaces request call <;> rfl
  rw [placed] at accepts ledger
  obtain ⟨attached, same⟩ := accepts_attached unattached (callId ▸ stored) consumes accepts
  rw [same] at ledger
  split at done
  · cases done
    exact ⟨{ c with call := call, consumed := some use }, use, sameRequest, rfl, rfl, attached, ledger⟩
  · cases done

private theorem consumeAttachment_path {request} (unused : state.ledger.Unused ids)
    (permitted : permits.Commits (AttachmentConsume.commit request)) :
    Moves permits state (state.consumeAttachment ids request) := by
  intro _ done
  obtain ⟨c, _, sameRequest, -, -, accepts, ledger⟩ := consumeAttachment_ledger unused done
  rw [ledger]
  exact .single (.decided c (sameRequest ▸ permitted) accepts)

private theorem ingestProviderEvent_path {request} :
    Moves permits state (state.ingestProviderEvent request) := by
  intro _ done
  simp only [ingestProviderEvent, bind_eq_ok, exists_unit] at done
  obtain ⟨-, done⟩ := done
  split at done
  · exact repeated_path _ done
  · rename_i newEvent
    simp only [bind_eq_ok, pure_eq_ok] at done
    obtain ⟨sequence, issued, rfl⟩ := done
    refine .single (.eventIngested (ProviderEventInput.envelope _ _ sequence)
      ⟨newEvent, rfl, rfl, rfl, ?_⟩)
    rw [Ledger.nextReceipt, ledger]
    split at issued
    · rename_i last known
      rw [nextCounter_eq_ok] at issued
      simp [known, issued.2, ProviderEventInput.envelope]
    · rename_i first
      cases issued
      simp [first, ProviderEventInput.envelope]

theorem bindProviderReferenceInState_path {request result}
    (done : state.bindProviderReferenceInState request = .ok result) :
    LedgerPath permits state.ledger result.1.ledger ∧
      result.1.outbox = state.outbox := by
  simp only [bindProviderReferenceInState, bind_eq_ok, exists_unit, pure_eq_ok] at done
  obtain ⟨owned, call, found, leg, references, bound, rfl⟩ := done
  refine ⟨.single ?_, rfl⟩
  obtain ⟨_, row, tenant, unreleased, -⟩ := ensureCallWorker_ok owned
  cases (tenantCall_ok found).1.symm.trans row
  have agrees : ∀ reference, state.providerReferences.get? (request.account,
      request.providerCallId) = some reference → reference.target =
        ⟨request.tenantId, request.callId, request.legId, request.role⟩ := by
    intro reference known
    rw [known] at bound
    rw [bind_eq_ok, exists_unit, reject_eq_ok, not_not] at bound
    exact bound.1
  have refers : state.ledger.Refers (request.account, request.providerCallId)
      ⟨request.tenantId, request.callId, request.legId, request.role⟩ call :=
    ⟨row, tenant, unreleased, by simpa [Option.isSome_iff_ne_none] using leg, agrees⟩
  have references_eq : references = (state.ledger.refer (request.account, request.providerCallId)
      ⟨request.tenantId, request.callId, request.legId, request.role⟩
      request.atTime).providerReferences := by
    rw [Ledger.refer, ledger]
    split at bound
    · rename_i known
      rw [bind_eq_ok, exists_unit, pure_eq_ok] at bound
      simp [known, ← bound.2]
    · rename_i unknown
      cases bound
      simp [unknown]
  subst references_eq
  exact .referenceBound _ _ _ request.atTime refers

private theorem bindProviderReference_path {request} :
    Moves permits state (state.bindProviderReference request) := by
  intro _ done
  rw [bindProviderReference, bind_eq_ok, exists_unit] at done
  exact (bindProviderReferenceInState_path done.2).1

private theorem eventHead_of_claimable
    (claimable : state.providerEventClaimable event worker atTime) :
    providerEventOpen event atTime ∧ state.ledger.EventHead event := by
  simp only [providerEventClaimable, Bool.and_eq_true, Bool.not_eq_true',
    any_eq_false] at claimable
  obtain ⟨⟨isOpen, -⟩, head⟩ := claimable
  refine ⟨isOpen, fun key _ row account providerCallId earlier => ?_⟩
  have applied := head key _ row
  simpa [account, providerCallId, earlier] using applied

private theorem claims_path {κ γ keys expiry check}
    {attempt : Timestamp → MemoryState → κ → Except RepositoryError (MemoryState × Option γ)}
    (each : ∀ expiresAt before key, Moves permits before (attempt expiresAt before key)) :
    Moves permits state (expiry >>= fun expiresAt => if limit = 0 then pure (state, [])
      else check >>= fun _ : Unit => claimEach (attempt expiresAt) limit state keys) := by
  intro _ done
  rw [bind_eq_ok] at done
  obtain ⟨_, -, done⟩ := done
  split at done
  · cases done
    exact .refl
  rw [bind_eq_ok, exists_unit] at done
  exact claimEach_preserves (fun s => LedgerPath _ state.ledger s.ledger)
    (fun _ key _ _ path one => path.trans (each _ _ key _ one)) .refl done.2

private theorem numbered_path {γ : Type} {last : Option Nat} {claim : Nat → MemoryState × Option γ}
    (claimed : ∀ previous, last = some previous →
      LedgerStep permits state.ledger (claim (previous + 1)).1.ledger) :
    Moves permits state (match last with
      | none => pure (state, none)
      | some previous => nextCounter previous >>= fun generation => pure (claim generation)) := by
  intro _ done
  split at done
  · cases done
    exact .refl
  · simp only [bind_eq_ok, nextCounter_eq_ok, pure_eq_ok] at done
    obtain ⟨_, ⟨-, rfl⟩, rfl⟩ := done
    exact .single (claimed _ rfl)

private theorem claimProviderEvents_path (permitted : permits.claims worker) :
    Moves permits state (state.claimProviderEvents worker atTime claimTtl limit) := by
  refine claims_path fun _ _ _ _ one => ?_
  simp only [claimProviderEvent, bind_eq_ok, orFail_eq_ok] at one
  obtain ⟨_, row, one⟩ := one
  split at one
  · cases one
    exact .refl
  rename_i claimable
  obtain ⟨isOpen, head⟩ := eventHead_of_claimable (by simpa using claimable)
  refine numbered_path (fun _ claimed => ?_) _ one
  exact .eventClaimed _ _ _ _ _ _ permitted row isOpen claimed head

private theorem applyProviderEvent_path {key completion generation}
    (applies : permits.applies key worker generation atTime)
    (found : state.providerEvents.get? key = some event)
    (holds : holdsProviderClaim event worker generation atTime) :
    Moves permits state (state.applyProviderEvent key completion atTime) := by
  intro _ done
  simp only [applyProviderEvent, bind_eq_ok, orFail_eq_ok, pure_eq_ok] at done
  obtain ⟨_, same, rfl⟩ := done
  cases found.symm.trans same
  exact .single (.eventApplied key _ _ _ _ applies found holds)

private theorem completeProviderEvent_path {request} (unused : state.ledger.Unused ids)
    (commits : permits.commits request.command) (acts : permits.acts request.worker)
    (permitted : permits.applies (request.account, request.eventDigest) request.worker
      request.claimGeneration request.atTime) :
    Moves permits state (state.completeProviderEvent ids request) := by
  intro _ done
  simp only [completeProviderEvent, bind_eq_ok, exists_unit, orFail_eq_ok] at done
  obtain ⟨agrees, -, _, found, -, done⟩ := done
  simp only [reject_eq_ok, not_or, not_not] at agrees
  split at done
  · split at done
    · exact repeated_path _ done
    · cases done
  · simp only [bind_eq_ok, exists_unit, reject_eq_ok, not_not, pure_eq_ok] at done
    obtain ⟨_, -, holds, -, committed, stores, _, applies, rfl⟩ := done
    have path : CommandPath permits _ _ :=
      commitCommandInState_path unused ⟨commits, agrees.2.1 ▸ acts⟩ stores
    have kept : committed.1.providerEvents = state.providerEvents := path.providerEvents
    exact path.path.trans (applyProviderEvent_path permitted (kept ▸ found) holds _ applies)

private theorem acknowledgeTerminalProviderEvent_path {request}
    (permitted : permits.applies (request.account, request.eventDigest) request.worker
      request.claimGeneration request.atTime) :
    Moves permits state (state.acknowledgeTerminalProviderEvent request) := by
  intro _ done
  simp only [acknowledgeTerminalProviderEvent, bind_eq_ok, exists_unit, orFail_eq_ok] at done
  obtain ⟨-, _, found, done⟩ := done
  split at done
  · split at done
    · exact repeated_path _ done
    · cases done
  · simp only [bind_eq_ok, exists_unit, reject_eq_ok, not_not, pure_eq_ok] at done
    obtain ⟨-, -, holds, _, applies, rfl⟩ := done
    exact applyProviderEvent_path permitted found holds _ applies

private theorem outboxHead_of_claimable (claimable : state.outboxClaimable record worker atTime) :
    OutboxState.claimableAt record.state atTime ∧ state.ledger.OutboxHead record := by
  simp only [outboxClaimable, Bool.and_eq_true, Bool.not_eq_true', any_eq_false] at claimable
  obtain ⟨⟨⟨-, isOpen⟩, -⟩, head⟩ := claimable
  refine ⟨isOpen, fun _ _ row callId earlier => ?_⟩
  have finished := head _ _ row
  simpa [callId, earlier] using finished

private theorem claimOutbox_path (permitted : permits.claims worker) :
    Moves permits state (state.claimOutbox worker atTime claimTtl limit) := by
  refine claims_path fun _ _ _ _ one => ?_
  simp only [claimOutboxRecord, bind_eq_ok, orFail_eq_ok] at one
  obtain ⟨_, row, one⟩ := one
  split at one
  · cases one
    exact .refl
  rename_i claimable
  obtain ⟨isOpen, head⟩ := outboxHead_of_claimable (by simpa using claimable)
  refine numbered_path (fun _ claimed => ?_) _ one
  exact .effectClaimed _ _ _ _ _ _ permitted row isOpen claimed head

private theorem completeOutbox_path {effectId claimGeneration completion}
    (completes : permits.completes effectId worker claimGeneration atTime) :
    Moves permits state (state.completeOutbox effectId worker claimGeneration completion atTime) := by
  intro _ done
  simp only [completeOutbox, bind_eq_ok, exists_unit, orFail_eq_ok, reject_eq_ok,
    not_not, pure_eq_ok] at done
  obtain ⟨-, -, _, row, holds, rfl⟩ := done
  refine .single (.effectCompleted _ _ _ _ _ _ completes row holds ?_)
  cases completion <;> simp [OutboxState.isUnfinished]

private theorem claimDueDeadlines_path (permitted : permits.claims worker) :
    Moves permits state (state.claimDueDeadlines worker atTime claimTtl limit) := by
  refine claims_path fun _ _ _ _ one => ?_
  simp only [claimDeadline, bind_eq_ok, orFail_eq_ok] at one
  obtain ⟨_, row, one⟩ := one
  refine numbered_path (fun _ claimed => ?_) _ one
  exact .deadlineClaimed _ _ _ _ _ permitted row claimed

private theorem claimRestartCalls_path (restarts : permits.restarts worker) :
    Moves permits state (state.claimRestartCalls worker atTime limit) := by
  intro _ done
  rw [claimRestartCalls] at done
  split at done
  · cases done
    exact .refl
  simp only [bind_eq_ok, exists_unit] at done
  obtain ⟨ensured, row, -, _, -, claims⟩ := done
  obtain ⟨holder, held, lease, -⟩ := ensureWorker_ok ensured
  -- Every chosen call stays with this worker, under the old fence or the new one.
  refine (claimEach_preserves (fun s => LedgerPath _ state.ledger s.ledger ∧
    s.workers = state.workers ∧
    ∀ callId call, s.calls.get? callId = some call → ∀ original,
      state.calls.get? callId = some original →
        original.assignment.lease.workerId = worker.workerId →
        original.assignment.lease.fence < worker.fence →
        call.assignment.lease.workerId = worker.workerId ∧
          call.assignment.lease.fence ≤ worker.fence)
    (fun s callId member _ kept one => ?_) ⟨.refl, rfl, ?_⟩ claims).1
  · obtain ⟨path, workers, stays⟩ := kept
    simp only [restartCall, bind_eq_ok, orFail_eq_ok, pure_eq_ok] at one
    obtain ⟨call, found, rfl⟩ := one
    have chosen := List.mem_of_mem_take member
    rw [List.mem_insertionSort, List.mem_map] at chosen
    obtain ⟨⟨id, original⟩, inRows, rfl⟩ := chosen
    rw [List.mem_filter, decide_eq_true_eq] at inRows
    obtain ⟨sameWorker, notNewer⟩ := stays id _ found _ (get?_of_mem inRows.1)
      inRows.2.1 inRows.2.2.1
    have row : s.workers.get? worker.workerId = some holder := workers ▸ held
    have leased : ∃ row, s.ledger.workers.get? worker.workerId = some row ∧ row.lease = worker :=
      ⟨holder, row, lease⟩
    refine ⟨path.tail (.restarted _ _ id _ restarts found sameWorker notNewer leased),
      workers, ?_⟩
    intro _ _ row _ same ours older
    rcases get?_insert_some row with ⟨-, rfl⟩ | ⟨-, row⟩
    · exact ⟨rfl, le_rfl⟩
    · exact stays _ _ row _ same ours older
  · intro callId call found original same ours older
    cases found.symm.trans same
    exact ⟨ours, older.le⟩

section

variable (unused : state.ledger.Unused ids)
include unused

private theorem commitWithEffectPayloads_path [Libraries] {request}
    (permitted : permits.Commits request.command)
    (mayPromote : request.replacementConnection.isSome → permits.promotes) :
    Moves permits state (state.commitWithEffectPayloads ids request) := by
  intro _ done
  rw [commitWithEffectPayloads, bind_eq_ok] at done
  obtain ⟨_, normalized, done⟩ := done
  have may := normalizeServiceCommand_mayCommit permitted mayPromote normalized
  exact (commitServiceCommandInState_path unused may done).path

private theorem commitLegReplacementWithWorkerGuard_path [Libraries] {request}
    (permitted : permits.Commits request.command)
    (mayPromote : request.replacementConnection.isSome → permits.promotes) :
    Moves permits state (state.commitLegReplacementWithWorkerGuard ids request) := by
  intro _ done
  simp only [commitLegReplacementWithWorkerGuard, bind_eq_ok] at done
  obtain ⟨_, normalized, _, looked, done⟩ := done
  have quiet := replayServiceOperation_ledger looked
  split at done
  · cases done
    exact quiet ▸ .refl
  · rw [bind_eq_ok, exists_unit] at done
    rw [← quiet]
    have may := normalizeServiceCommand_mayCommit permitted mayPromote normalized
    exact (commitServiceCommandInState_path (quiet ▸ unused) may done.2).path

private theorem commitGuardedLifecycle_path [Libraries] {command guard}
    (permitted : permits.Commits command) :
    Moves permits state (state.commitGuardedLifecycle ids command guard) := by
  intro _ done
  rw [commitGuardedLifecycle, bind_eq_ok] at done
  obtain ⟨normal, normalized, done⟩ := done
  have may : MayCommit permits normal :=
    normalizeServiceCommand_mayCommit permitted (by simp) normalized
  split at done
  · exact (commitServiceCommandInState_path unused may done).path
  · simp only [bind_eq_ok, exists_unit] at done
    obtain ⟨-, _, -, _, -, -, done⟩ := done
    exact (commitServiceCommandInState_path unused may done).path

private theorem commitBoundConnectionState_path [Libraries] {request}
    (permitted : permits.Commits (BoundConnectionStateCommit.commit request)) :
    Moves permits state (state.commitBoundConnectionState ids request) := by
  intro _ done
  rw [commitBoundConnectionState, bind_eq_ok, exists_unit] at done
  exact commitGuardedLifecycle_path unused permitted _ done.2

private theorem commitMediaActivity_path [Libraries] {request}
    (permitted : permits.Commits (MediaActivityCommit.commit request)) :
    Moves permits state (state.commitMediaActivity ids request) := by
  intro _ done
  rw [commitMediaActivity, bind_eq_ok] at done
  obtain ⟨normal, normalized, done⟩ := done
  have may : MayCommit permits normal :=
    normalizeServiceCommand_mayCommit permitted (by simp) normalized
  exact (commitServiceCommandInState_path unused may done).path

end

private theorem enqueueControl_path {request} : Moves permits state
    (state.enqueueControl ids request) := by
  intro _ done
  simp only [enqueueControl, bind_eq_ok, exists_unit] at done
  obtain ⟨-, -, replay, looked, done⟩ := done
  have quiet := replayControlOperation_ledger looked
  rw [← quiet]
  split at done
  · cases done
    exact .refl
  · rw [enqueueUnclaimedControl] at done
    split at done
    · exact repeated_path _ done
    · simp only [bind_eq_ok, exists_unit, pure_eq_ok] at done
      rename_i newResult
      obtain ⟨free, -, -, call, found, leg, ours, generation, isUp, _, -, -, -, sequence,
        numbered, newEffect, _, receipted, rfl⟩ := done
      rw [retainOperationReceipt_ledger receipted]
      rw [orFail_eq_ok] at found ours
      rw [reject_eq_ok] at free generation isUp newEffect
      simp only [not_or, Bool.not_eq_true, contains_eq_false] at free newEffect
      rw [not_not] at generation
      have number : sequence = replay.1.ledger.nextControl
          (request.callId, request.legId, request.bindingGeneration) := by
        rw [Ledger.nextControl, ledger]
        split at numbered
        · rename_i previous known
          rw [nextCounter_eq_ok] at numbered
          rw [known, numbered.2]
          rfl
        · rename_i unknown
          cases numbered
          rw [unknown]
          rfl
      subst number
      refine .single (.controlRecorded ⟨request, ⟨ControlCommandTransaction.command request,
        ControlCommandTransaction.effect _ (ids 0) _⟩⟩ {
          newCommand := free.1
          newService := free.2.1
          newResult := newResult
          newEffect := newEffect.2
          command := rfl, effect := rfl
          targets := ⟨call, leg, found, ours, generation, ?_⟩ })
      by_contra down
      exact isUp (not_or.mp down)

theorem controlHead_of_claimable {record}
    (claimable : state.controlOutboxClaimable record worker atTime) :
    OutboxState.claimableAt record.state atTime ∧ state.ledger.ControlHead record ∧
      state.ledger.Targets record.callId record.legId record.bindingGeneration := by
  simp only [controlOutboxClaimable, Bool.and_eq_true, Bool.not_eq_true', any_eq_false,
    Option.any_eq_true, decide_eq_true_eq] at claimable
  obtain ⟨⟨⟨-, isOpen⟩, call, found, -, leg, ours, generation, isUp⟩, head⟩ := claimable
  refine ⟨isOpen, ?_, call, leg, found, ours, generation, isUp⟩
  intro _ _ row callId legId sameGeneration earlier
  have finished := head _ _ row
  simpa [callId, legId, sameGeneration, earlier] using finished

private theorem claimControlEffects_path :
    Moves permits state (state.claimControlEffects worker atTime claimTtl limit) := by
  refine claims_path fun _ _ _ _ one => ?_
  simp only [claimControlEffect, bind_eq_ok, orFail_eq_ok] at one
  obtain ⟨_, row, one⟩ := one
  split at one
  · cases one
    exact .refl
  rename_i claimable
  obtain ⟨isOpen, head, targets⟩ := controlHead_of_claimable (by simpa using claimable)
  refine numbered_path (fun _ claimed => ?_) _ one
  exact .controlClaimed _ _ _ _ _ _ row isOpen claimed head targets

private theorem bindOutboundConnection_path {request} (acts : permits.acts request.worker) :
    Moves permits state (state.bindOutboundConnection request) := by
  intro _ done
  rw [bindOutboundConnection] at done
  split at done
  · exact repeated_path _ done
  · simp only [bind_eq_ok, exists_unit, orFail_eq_ok, pure_eq_ok] at done
    obtain ⟨free, owned, -, _, -, -, call, found, -, -, _, -, _, -, -, _, -, -,
      leg, ours, -, current, waits, -, unbound, unused, rfl⟩ := done
    simp only [reject_eq_ok, not_or, Bool.not_eq_true, contains_eq_false,
      not_not] at free current waits unbound unused
    obtain ⟨_, row, -, unreleased, lease⟩ := ensureCallWorker_ok owned
    cases found.symm.trans row
    have vacant : Ledger.Vacant call request.legId (OutboundConnectionBind.binding request) :=
      ⟨unbound, leg, ours, waits.2, current⟩
    have bound : LedgerStep permits state.ledger _ :=
      .bound request.callId call request.legId (OutboundConnectionBind.binding request)
        (lease ▸ acts) found unreleased vacant unused.1
    exact (Relation.ReflTransGen.single bound).tail
      (.outboundRecorded request.operationId _ free.1)

private theorem recordInitialContext_ledger [Libraries] {record result}
    (done : state.recordInitialContext record = .ok result) : result.1.ledger = state.ledger := by
  simp only [recordInitialContext, bind_eq_ok, exists_unit] at done
  obtain ⟨-, _, -, -, done⟩ := done
  split at done
  · rw [bind_eq_ok, exists_unit, pure_eq_ok] at done
    obtain ⟨-, rfl⟩ := done
    rfl
  · simp only [bind_eq_ok, exists_unit, pure_eq_ok] at done
    obtain ⟨-, _, -, _, -, -, -, _, -, -, rfl⟩ := done
    rfl

private theorem storeExternalReferenceInState_path [Libraries] {binding result}
    (done : storeExternalReferenceInState request state binding = .ok result) :
    LedgerPath permits state.ledger result.1.ledger ∧ result.1.outbox = state.outbox := by
  simp only [storeExternalReferenceInState, bind_eq_ok, exists_unit] at done
  obtain ⟨-, _, -, _, -, -, -, done⟩ := done
  split at done
  · simp only [bind_eq_ok, pure_eq_ok] at done
    obtain ⟨bound, binds, rfl⟩ := done
    have path : LedgerPath permits _ bound.1.ledger ∧ bound.1.outbox = _ :=
      bindProviderReferenceInState_path binds
    exact path
  · cases done
    exact ⟨.refl, rfl⟩

private theorem storeExternalReferences_path [Libraries] {bindings result}
    (done : storeExternalReferences request state bindings = .ok result) :
    LedgerPath permits state.ledger result.1.ledger ∧ result.1.outbox = state.outbox := by
  induction bindings generalizing state result with
  | nil =>
    cases done
    exact ⟨.refl, rfl⟩
  | cons _ _ ih =>
    simp only [storeExternalReferences, bind_eq_ok, pure_eq_ok] at done
    obtain ⟨first, one, _, later, rfl⟩ := done
    have first : LedgerPath permits _ _ ∧ _ := storeExternalReferenceInState_path one
    obtain ⟨path, outbox⟩ := ih later
    exact ⟨first.1.trans path, outbox.trans first.2⟩

/-- The operation may commit the follow-up of its reconciliation, once that is known to be under
the lease of the reconciliation. -/
def MayFollow (permits : Permits) (worker : WorkerLease)
    (followUp : Option ServiceCommandTransaction) : Prop :=
  ∀ request, followUp = some request → request.command.worker = worker → MayCommit permits request

/-- The operation names the follow-up among its commands. -/
def Follows (permits : Permits) (followUp : Option ServiceCommandTransaction) : Prop :=
  ∀ request, followUp = some request → permits.commits request.command ∧
    (request.replacementConnection.isSome → permits.promotes)

private theorem normalizeServiceCommand_mayFollow [Libraries] {request normal}
    (acts : permits.acts worker) (follows : Follows permits (some request))
    (done : normalizeServiceCommand request = .ok normal) :
    MayFollow permits worker (some normal) := by
  rintro _ ⟨⟩ sameWorker
  have sameCommand := (normalizeServiceCommand_ok done).1
  obtain ⟨commits, mayPromote⟩ := follows _ rfl
  rw [sameCommand] at sameWorker
  exact normalizeServiceCommand_mayCommit ⟨commits, sameWorker ▸ acts⟩ mayPromote done

private theorem commitEffectFollowUp_path {result} (unused : state.ledger.Unused ids)
    (may : MayFollow permits request.worker request.followUp)
    (done : commitEffectFollowUp ids state request record = .ok result) :
    CommandPath permits state.ledger result.1.ledger := by
  unfold commitEffectFollowUp at done
  split at done
  · cases done
    exact .refl _
  · rename_i followUp given
    simp only [bind_eq_ok, exists_unit, reject_eq_ok, not_or, not_not] at done
    obtain ⟨⟨-, -, sameWorker, -⟩, -, _, commits, done⟩ := done
    have path : CommandPath permits _ _ := commitServiceCommandInState_path unused
      (may _ given sameWorker) commits
    split at done
    · cases done
      exact path
    · cases done

private theorem reconcileCallEffect_path [Libraries]
    (unused : state.ledger.Unused ids) (may : MayFollow permits request.worker request.followUp)
    (completes : permits.completes request.effectId request.worker request.claimGeneration
      request.atTime)
    (found : state.outbox.get? request.effectId = some record) :
    Moves permits state (reconcileCallEffect ids state request record) := by
  intro _ done
  simp only [reconcileCallEffect, bind_eq_ok, exists_unit, orFail_eq_ok, pure_eq_ok] at done
  obtain ⟨owned, _, -, -, -, _, stored, additional, others, followed, follows, _, row,
    rfl⟩ := done
  obtain ⟨primaryPath, primaryOutbox⟩ : LedgerPath permits _ _ ∧ _ :=
    storeExternalReferences_path stored
  obtain ⟨path, outbox⟩ : LedgerPath permits _ _ ∧ _ := storeExternalReferences_path others
  have sameOutbox : additional.1.outbox = state.outbox := outbox.trans primaryOutbox
  have stillUnused : additional.1.ledger.Unused ids :=
    ⟨unused.injective, fun n => (congrArg (get? · (ids n)) sameOutbox).trans (unused.absent n)⟩
  have followPath : CommandPath permits _ _ :=
    commitEffectFollowUp_path stillUnused may follows
  have kept : followed.1.outbox.get? request.effectId = some record :=
    followPath.outbox request.effectId record
      ((congrArg (get? · request.effectId) sameOutbox).trans found)
  cases kept.symm.trans row
  simp only [validateEffectOwnership, validateEffectClaim, bind_eq_ok, exists_unit, reject_eq_ok,
    not_not] at owned
  refine ((primaryPath.trans path).trans followPath.path).tail
    (.effectCompleted _ _ _ _ _ _ completes kept owned.2.1 ?_)
  unfold completedState
  split <;> simp [OutboxState.isUnfinished]

private theorem normalizeReconciliation_ok [Libraries] {normal} (acts : permits.acts request.worker)
    (follows : Follows permits request.followUp)
    (done : normalizeReconciliation request = .ok normal) :
    ∃ followUp, normal = { request with followUp := followUp } ∧
      MayFollow permits request.worker followUp := by
  simp only [normalizeReconciliation, bind_eq_ok, exists_unit, pure_eq_ok] at done
  obtain ⟨followUp, normalized, -, -, rfl⟩ := done
  refine ⟨followUp, rfl, ?_⟩
  split at normalized
  · rename_i given
    simp only [bind_eq_ok, pure_eq_ok] at normalized
    obtain ⟨_, normalizes, rfl⟩ := normalized
    exact normalizeServiceCommand_mayFollow acts (given ▸ follows) normalizes
  · cases normalized
    rintro _ ⟨⟩

private theorem reconcileEffectResult_path [Libraries]
    (unused : state.ledger.Unused ids) (acts : permits.acts request.worker)
    (follows : Follows permits request.followUp)
    (completes : permits.completes request.effectId request.worker request.claimGeneration
      request.atTime) :
    Moves permits state (state.reconcileEffectResult ids request) := by
  intro _ done
  rw [reconcileEffectResult, bind_eq_ok] at done
  obtain ⟨_, normalized, done⟩ := done
  obtain ⟨_, rfl, may⟩ := normalizeReconciliation_ok acts follows normalized
  split at done
  · exact repeated_path _ done
  · simp only [bind_eq_ok, exists_unit, pure_eq_ok] at done
    obtain ⟨-, _, reconciles, rfl⟩ := done
    split at reconciles
    · rename_i record found _
      refine reconcileCallEffect_path unused ?_ ?_ ?_ _ reconciles
      exacts [may, completes, found]
    · rename_i record _ found
      simp only [reconcileControlEffect, bind_eq_ok, exists_unit, pure_eq_ok] at reconciles
      obtain ⟨owned, _, -, -, -, -, -, -, rfl⟩ := reconciles
      simp only [validateEffectOwnership, validateEffectClaim, bind_eq_ok, exists_unit,
        reject_eq_ok, not_not] at owned
      refine .single (.controlCompleted _ _ _ _ _ _ completes found owned.2.1 ?_)
      unfold completedState
      split <;> simp [OutboxState.isUnfinished]
    · cases reconciles
    · cases reconciles

private theorem commitProviderFollowUp_path {request result}
    (unused : state.ledger.Unused ids) (may : MayFollow permits request.worker request.followUp)
    (done : commitProviderFollowUp ids state event request = .ok result) :
    CommandPath permits state.ledger result.1.ledger := by
  unfold commitProviderFollowUp at done
  split at done
  · rename_i followUp given
    simp only [bind_eq_ok, exists_unit, reject_eq_ok, not_or, not_not] at done
    obtain ⟨-, ⟨-, -, sameWorker, -⟩, _, -, _, -, -, _, commits, done⟩ := done
    have path : CommandPath permits _ _ := commitServiceCommandInState_path unused
      (may _ given sameWorker) commits
    split at done
    · cases done
      exact path
    · cases done
  · rw [bind_eq_ok, exists_unit, pure_eq_ok] at done
    obtain ⟨-, rfl⟩ := done
    exact .refl _

private theorem normalizeProviderEventReconciliation_ok [Libraries] {request normal}
    (acts : permits.acts request.worker) (follows : Follows permits request.followUp)
    (done : normalizeProviderEventReconciliation request = .ok normal) :
    ∃ followUp, normal = { request with followUp := followUp } ∧
      MayFollow permits request.worker followUp := by
  unfold normalizeProviderEventReconciliation at done
  split at done
  · rename_i given
    cases done
    refine ⟨_, rfl, fun _ same => ?_⟩
    cases given.symm.trans same
  · rename_i given
    simp only [bind_eq_ok, exists_unit, pure_eq_ok] at done
    obtain ⟨_, normalizes, -, rfl⟩ := done
    exact ⟨_, rfl, normalizeServiceCommand_mayFollow acts (given ▸ follows) normalizes⟩

private theorem reconcileProviderEvent_path [Libraries] {request} (unused : state.ledger.Unused ids)
    (acts : permits.acts request.worker) (follows : Follows permits request.followUp)
    (applies : permits.applies (request.account, request.eventDigest) request.worker
      request.claimGeneration request.atTime) :
    Moves permits state (state.reconcileProviderEvent ids request) := by
  intro _ done
  rw [reconcileProviderEvent, bind_eq_ok] at done
  obtain ⟨_, normalized, done⟩ := done
  obtain ⟨_, rfl, may⟩ := normalizeProviderEventReconciliation_ok acts follows normalized
  simp only [reconcileProviderEventInState, bind_eq_ok, orFail_eq_ok] at done
  obtain ⟨_, found, done⟩ := done
  split at done
  · split at done
    · exact repeated_path _ done
    · cases done
  · simp only [bind_eq_ok, exists_unit, orFail_eq_ok, reject_eq_ok, not_or, not_not,
      pure_eq_ok] at done
    obtain ⟨-, -, ⟨holds, -⟩, followed, committed, _, row, -, rfl⟩ := done
    have path : CommandPath permits _ _ := commitProviderFollowUp_path unused may committed
    have kept : followed.1.providerEvents = state.providerEvents := path.providerEvents
    cases (kept ▸ found).symm.trans row
    exact path.path.tail (.eventApplied _ _ _ _ _ applies row holds)

end MemoryState

variable {operation : Operation} {operations : List Operation}

open MemoryState in
/-- Every operation moves the ledger by ledger steps. -/
theorem Operation.run_path [Libraries] {ids} (unused : state.ledger.Unused ids)
    (done : operation.run ids state = .ok next) :
    LedgerPath operation.permits state.ledger next.ledger := by
  cases operation <;>
    simp only [Operation.run, map_eq_ok] at done <;>
    obtain ⟨result, done, rfl⟩ := done
  case registerWorker => exact registerWorker_path _ done
  case activateWorkerCapabilities => exact activateWorkerCapabilities_path _ done
  case renewWorkerLease => exact renewWorkerLease_path _ done
  case setWorkerDraining => exact setWorkerDraining_path _ done
  case createCall => exact createCallInState_path unused rfl _ done
  case commitCommand =>
    simp only [MemoryState.commitCommand, bind_eq_ok, exists_unit] at done
    refine (commitCommandInState_path unused ?_ done.2).path
    exact ⟨rfl, List.Mem.head _⟩
  case releaseAssignment => exact releaseAssignment_path (List.Mem.head _) _ done
  case consumeAttachment => exact consumeAttachment_path unused ⟨rfl, List.Mem.head _⟩ _ done
  case ingestProviderEvent => exact ingestProviderEvent_path _ done
  case bindProviderReference => exact bindProviderReference_path _ done
  case claimProviderEvents => exact claimProviderEvents_path rfl _ done
  case completeProviderEvent =>
    exact completeProviderEvent_path unused rfl (List.Mem.head _) rfl _ done
  case acknowledgeTerminalProviderEvent => exact acknowledgeTerminalProviderEvent_path rfl _ done
  case claimOutbox => exact claimOutbox_path rfl _ done
  case completeOutbox => exact completeOutbox_path rfl _ done
  case claimDueDeadlines => exact claimDueDeadlines_path rfl _ done
  case claimRestartCalls => exact claimRestartCalls_path rfl _ done
  case createWithPlan => exact createWithPlan_path unused rfl _ done
  case commitWithEffectPayloads =>
    exact commitWithEffectPayloads_path unused ⟨rfl, List.Mem.head _⟩ id _ done
  case commitLegReplacementWithWorkerGuard =>
    exact commitLegReplacementWithWorkerGuard_path unused ⟨rfl, List.Mem.head _⟩ id _ done
  case commitBoundConnectionState =>
    exact commitBoundConnectionState_path unused ⟨rfl, List.Mem.head _⟩ _ done
  case commitBoundSourceTermination =>
    refine commitGuardedLifecycle_path unused ?_ _ done
    exact ⟨rfl, List.Mem.head _⟩
  case commitMediaActivity => exact commitMediaActivity_path unused ⟨rfl, List.Mem.head _⟩ _ done
  case enqueueControl => exact enqueueControl_path _ done
  case claimControlEffects => exact claimControlEffects_path _ done
  case bindOutboundConnection => exact bindOutboundConnection_path (List.Mem.head _) _ done
  case recordInitialContext => exact recordInitialContext_ledger done ▸ .refl
  case reconcileEffectResult request =>
    refine reconcileEffectResult_path unused (List.Mem.head _) (fun followUp given => ?_) rfl _ done
    simp [Operation.permits, Operation.commits, Operation.promotes, given]
  case reconcileProviderEvent request =>
    refine reconcileProviderEvent_path unused (List.Mem.head _) (fun followUp given => ?_) rfl _ done
    simp [Operation.permits, Operation.commits, Operation.promotes, given]

theorem Executes.path [Libraries] (executes : Executes state operation next) :
    LedgerPath operation.permits state.ledger next.ledger := by
  cases executes with
  | step clock ids fresh _ done =>
    have unused : (state.withClock clock).ledger.Unused ids := ⟨fresh.injective, fresh.outbox⟩
    have path := operation.run_path unused done
    exact path

section

variable (Keeps : Ledger → Prop)
include Keeps

theorem LedgerPath.keeps {permits before after}
    (step : ∀ before after, Keeps before → LedgerStep permits before after → Keeps after)
    (path : LedgerPath permits before after) (start : Keeps before) : Keeps after := by
  induction path with
  | refl => exact start
  | tail _ one ih => exact step _ _ ih one

theorem Executes.keeps [Libraries]
    (step : ∀ permits before after, Keeps before → LedgerStep permits before after → Keeps after)
    (executes : Executes state operation next) (start : Keeps state.ledger) : Keeps next.ledger :=
  executes.path.keeps Keeps (step operation.permits) start

theorem Run.keeps [Libraries] {first last}
    (step : ∀ permits before after, Keeps before → LedgerStep permits before after → Keeps after)
    (run : Run first operations last) (start : Keeps first.ledger) : Keeps last.ledger := by
  induction run with
  | nil => exact start
  | snoc _ executes ih => exact executes.keeps Keeps step ih

/-- What every ledger step keeps holds in every reachable state. -/
theorem Reachable.invariant [Libraries] (start : Keeps MemoryState.initial.ledger)
    (step : ∀ permits before after, Keeps before → LedgerStep permits before after → Keeps after)
    (reachable : Reachable state) : Keeps state.ledger := by
  obtain ⟨_, run⟩ := reachable
  exact run.keeps Keeps step start

end

/-- A run in which the observation changes the given number of times. -/
inductive Settles [Libraries] {α : Type} [DecidableEq α] (observe : Ledger → Option α) :
    MemoryState → List Operation → MemoryState → Nat → Prop
  | nil (state : MemoryState) : Settles observe state [] state 0
  | snoc {first middle last} {operations : List Operation} {operation : Operation} {count} :
      Settles observe first operations middle count → Executes middle operation last →
        Settles observe first (operations ++ [operation]) last
          (if observe last.ledger = observe middle.ledger then count else count + 1)

theorem Run.settles [Libraries] {α} [DecidableEq α] (observe : Ledger → Option α)
    {first last} (run : Run first operations last) :
    ∃ count, Settles observe first operations last count := by
  induction run with
  | nil => exact ⟨0, .nil _⟩
  | snoc _ executes ih =>
    obtain ⟨_, settles⟩ := ih
    exact ⟨_, settles.snoc executes⟩

/-- What no step takes back is settled once at most, and once if it is settled in the end. -/
theorem Settles.count_eq [Libraries] {α} [DecidableEq α] {observe : Ledger → Option α}
    (final : ∀ permits before after value, observe before = some value →
      LedgerStep permits before after → observe after = some value)
    (start : observe MemoryState.initial.ledger = none) {count}
    (settles : Settles observe .initial operations state count) :
    count = if (observe state.ledger).isSome then 1 else 0 := by
  induction settles with
  | nil =>
    rw [start]
    rfl
  | @snoc middle last _ _ _ before executes ih =>
    rw [ih]
    by_cases same : observe last.ledger = observe middle.ledger
    · rw [if_pos same, same]
    · cases earlier : observe middle.ledger with
      | some value =>
        have kept := executes.keeps (fun ledger => observe ledger = some value)
          (fun _ before _ settled step => final _ _ _ _ settled step)
          earlier
        exact absurd (kept.trans earlier.symm) same
      | none =>
        cases later : observe last.ledger with
        | some => rfl
        | none => exact absurd (later.trans earlier.symm) same

end Bridgefu.Persistence
