/- digest: An attachment is consumed once, by whom it was issued for, and never after it is withdrawn. -/

import Bridgefu.Persistence.Connections
import Bridgefu.Persistence.Execution

/-!
Presenters first have an attachment inspected and later consume what the inspection has handed them.
Any number of them may do so at the same time, with any operations in between. The rows of
attachments only go forward, so what an inspection has seen and what a withdrawal has done is still
true when a presenter comes back.
-/

set_option autoImplicit false

namespace Bridgefu.Persistence

open Lib CallEngine CallService MemoryState Table
open Commit (assignment marked stored)

variable {row : AttachmentRow} {after ledger : Ledger} {token : AttachmentTokenDigest}

namespace AttachmentRow

/-- What was issued, without what has happened to it. -/
def face (row : AttachmentRow) : AttachmentRow :=
  { row with consumedAt := none, revokedAt := none, binding := none }

/-- The second row is the first one later on. -/
structure Follows (row next : AttachmentRow) : Prop where
  face : next.face = row.face
  consumed : row.consumedAt.isSome = true → next.consumedAt.isSome = true
  revoked : row.revokedAt.isSome = true → next.revokedAt.isSome = true

namespace Follows

variable {next : AttachmentRow}

theorem refl (row : AttachmentRow) : Follows row row := ⟨rfl, id, id⟩

theorem trans {later} (one : Follows row next) (two : Follows next later) : Follows row later :=
  ⟨two.face.trans one.face, two.consumed ∘ one.consumed, two.revoked ∘ one.revoked⟩

private theorem callId (follows : Follows row next) : next.callId = row.callId := by
  have same := congrArg AttachmentRow.callId follows.face
  exact same

private theorem legId (follows : Follows row next) : next.legId = row.legId := by
  have same := congrArg AttachmentRow.legId follows.face
  exact same

private theorem bindingGeneration (follows : Follows row next) :
    next.bindingGeneration = row.bindingGeneration := by
  have same := congrArg AttachmentRow.bindingGeneration follows.face
  exact same

end Follows

end AttachmentRow

variable {aggregate : CallAggregate} {permits : Permits} {operations : List Operation}
  {lookup : AttachmentLookup} {state : MemoryState}

private theorem sweepAttachments_follows {callId attachments}
    (found : attachments.get? token = some row) :
    ∃ next, (sweepAttachments callId aggregate attachments).get? token = some next ∧
      row.Follows next ∧ (next.revokedAt = none → row = next ∧ (row.callId = callId →
        row.purpose = .providerMedia → providerAttachmentRetained aggregate row = true)) := by
  rw [sweepAttachments, get?_mapValues, found]
  refine ⟨_, rfl, ?_⟩
  dsimp only
  split_ifs with dropped
  · exact ⟨⟨rfl, id, fun _ => rfl⟩, by rintro ⟨⟩⟩
  · refine ⟨.refl row, fun _ => ⟨rfl, fun sameCall media => ?_⟩⟩
    simpa [attachmentDropped, sameCall, media] using dropped

private theorem Ledger.Issues.not_issued {issues} (issued : ledger.Issues issues)
    (found : ledger.attachments.get? token = some row) (tenantId : TenantId) (callId : CallId)
    (worker : WorkerLease) : token ∉ (issuedRows tenantId callId worker issues).map Prod.fst := by
  intro member
  obtain ⟨⟨_, _⟩, listed, rfl⟩ := List.mem_map.mp member
  obtain ⟨_, known, same, -⟩ := mem_issuedRows listed
  have absent := issued.absent _ known
  rw [same, found] at absent
  cases absent

private theorem Commit.attachments_of_marked {c} (accepts : ledger.Accepts c) {row next}
    (found : ledger.attachments.get? token = some row)
    (marked : (c.marked ledger.attachments).get? token = some next) :
    ∃ later, (c.attachments ledger.attachments).get? token = some later ∧ next.Follows later ∧
      (later.revokedAt = none → next = later ∧ (c.decision.disposition = .applied →
        next.callId = c.request.callId → next.purpose = .providerMedia →
          providerAttachmentRetained c.decision.aggregate next = true)) := by
  have issued : token ∉ c.issued.map Prod.fst := accepts.issues.not_issued found _ _ _
  rw [attachments, get?_insertAll_of_absent _ issued]
  split_ifs with isApplied
  · obtain ⟨later, swept, follows, kept⟩ := sweepAttachments_follows marked
    exact ⟨later, swept, follows, fun unrevoked => (kept unrevoked).imp_right fun retained _ => retained⟩
  · exact ⟨next, marked, .refl next, fun _ => ⟨rfl, fun now => absurd now isApplied⟩⟩

private theorem Commit.attachments_follow {c} (accepts : ledger.Accepts c)
    (found : ledger.attachments.get? token = some row) :
    ∃ next, (c.attachments ledger.attachments).get? token = some next ∧ row.Follows next ∧
      (next.consumedAt = none → next.revokedAt = none → row = next ∧
        (c.decision.disposition = .applied → row.callId = c.request.callId →
          row.purpose = .providerMedia →
            providerAttachmentRetained c.decision.aggregate row = true)) := by
  have marked : ∃ next, (c.marked ledger.attachments).get? token = some next ∧
      row.Follows next ∧ (next.consumedAt = none → row = next) := by
    unfold marked
    split
    · rename_i use consumed
      by_cases same : token = use.token
      · subst same
        cases (accepts.consumes use consumed).found.symm.trans found
        exact ⟨_, get?_insert_self .., ⟨rfl, fun _ => rfl, id⟩, by rintro ⟨⟩⟩
      · exact ⟨row, (get?_insert_ne _ _ same).trans found, .refl row, fun _ => rfl⟩
    · exact ⟨row, found, .refl row, fun _ => rfl⟩
  obtain ⟨next, known, follows, unmarked⟩ := marked
  obtain ⟨later, stored, after, unswept⟩ := attachments_of_marked accepts found known
  refine ⟨later, stored, follows.trans after, fun unconsumed unrevoked => ?_⟩
  obtain ⟨rfl, retained⟩ := unswept unrevoked
  obtain rfl := unmarked unconsumed
  exact ⟨rfl, retained⟩

/-- No step takes an attachment away or back. -/
theorem LedgerStep.attachment_follows (step : LedgerStep permits ledger after)
    (found : ledger.attachments.get? token = some row) :
    ∃ next, after.attachments.get? token = some next ∧ row.Follows next := by
  cases step with
  | created c _ admits =>
    have issued : token ∉ c.issued.map Prod.fst := admits.issues.not_issued found _ _ _
    refine ⟨row, ?_, .refl row⟩
    exact (get?_insertAll_of_absent _ issued).trans found
  | decided c _ accepts | promoted _ _ _ _ _ accepts =>
    obtain ⟨next, stored, follows, -⟩ := Commit.attachments_follow accepts found
    exact ⟨next, stored, follows⟩
  | restarted =>
    rw [Ledger.restart, get?_mapValues, found, Option.map_some]
    refine ⟨_, rfl, ?_⟩
    split
    · exact ⟨rfl, id, fun _ => rfl⟩
    · exact .refl row
  | _ => exact ⟨row, found, .refl row⟩

/-- The attachment is of the worker that has the call, and provider media is of a generation that
the call still knows. -/
structure AttachmentRow.Fits (row : AttachmentRow) (call : StoredCall) : Prop where
  worker : row.worker = call.assignment.lease
  retained : row.purpose = .providerMedia →
    providerAttachmentRetained call.aggregate row = true

/-- Every attachment belongs to a stored call and, while it can be used, fits it. -/
def Ledger.RowsFit (ledger : Ledger) : Prop :=
  ∀ token row, ledger.attachments.get? token = some row →
    ∃ call, ledger.calls.get? row.callId = some call ∧
      (row.consumedAt = none → row.revokedAt = none → row.Fits call)

private theorem AttachmentIssue.row_retained {issue atTime}
    (validated : validateAttachmentIssue aggregate issue atTime = .ok ()) (tenantId : TenantId)
    (callId : CallId) (worker : WorkerLease) (media : issue.purpose = .providerMedia) :
    providerAttachmentRetained aggregate (AttachmentIssue.row tenantId callId worker issue) =
      true := by
  simp only [validateAttachmentIssue, bind_eq_ok, exists_unit, orFail_eq_ok, reject_eq_ok,
    media, not_not, Bool.and_eq_true, Bool.or_eq_true, decide_eq_true_eq] at validated
  obtain ⟨-, _, named, ordinary | pending, -⟩ := validated
  · simp only [providerAttachmentRetained, row, named, Option.any_some,
      ordinary.2.2.1, decide_true, Bool.true_or]
  · cases replacing : aggregate.replacement with
    | none => simp [CallAggregate.pendingTelnyx, replacing] at pending
    | some =>
      rw [CallAggregate.pendingTelnyx, replacing, Option.any_some, decide_eq_true_eq]
        at pending
      simp [providerAttachmentRetained, row, replacing, pending.1, pending.2.2]

namespace Ledger.RowsFit

private theorem rewriteCall (fit : ledger.RowsFit) {callId call next}
    (found : ledger.calls.get? callId = some call)
    (calls : after.calls = ledger.calls.insert callId next)
    (attachments : after.attachments = ledger.attachments)
    (aggregate : next.aggregate = call.aggregate)
    (lease : next.assignment.lease = call.assignment.lease) : after.RowsFit := by
  intro _ row stored
  rw [attachments] at stored
  rw [calls]
  refine exists_insert (fit _ row stored) fun _ known fits unconsumed unrevoked => ?_
  cases known.symm.trans found
  have before := fits unconsumed unrevoked
  exact ⟨before.worker.trans lease.symm, fun media => aggregate ▸ before.retained media⟩

private theorem created (fit : ledger.RowsFit) {c} (admits : ledger.Admits c) :
    (ledger.create c).RowsFit := by
  intro _ row stored
  rcases get?_insertAll _ stored with issued | known
  · obtain ⟨_, listed, -, rfl⟩ := mem_issuedRows issued
    refine ⟨c.stored, get?_insert_self .., fun _ _ => ⟨rfl, fun media => ?_⟩⟩
    exact AttachmentIssue.row_retained (admits.offered _ listed) _ _ _ media
  · obtain ⟨holder, found, fits⟩ := fit _ row known
    exact ⟨holder, get?_insert_fresh found admits.newCall, fits⟩

private theorem issued_of_new {c} (accepts : ledger.Accepts c)
    (stored : (c.attachments ledger.attachments).get? token = some row)
    (new : ledger.attachments.get? token = none) : (token, row) ∈ c.issued := by
  refine (get?_insertAll _ stored).resolve_right fun found => ?_
  have absent : (c.marked ledger.attachments).get? token = none := by
    unfold marked
    split
    · rename_i use consumed
      refine (get?_insert_ne _ _ ?_).trans new
      rintro rfl
      cases new.symm.trans (accepts.consumes use consumed).found
    · exact new
  split at found
  · rw [sweepAttachments, get?_mapValues, absent] at found
    cases found
  · cases absent.symm.trans found

private theorem committed (fit : ledger.RowsFit) {c} (accepts : ledger.Accepts c) {next}
    (calls : after.calls = ledger.calls.insert c.request.callId next)
    (attachments : after.attachments = c.attachments ledger.attachments)
    (aggregate : next.aggregate = c.decision.aggregate)
    (lease : next.assignment.lease = c.call.assignment.lease) : after.RowsFit := by
  intro token row stored
  rw [attachments] at stored
  rw [calls]
  cases known : ledger.attachments.get? token with
  | none =>
    obtain ⟨_, listed, -, rfl⟩ := mem_issuedRows (issued_of_new accepts stored known)
    refine ⟨next, get?_insert_self .., fun _ _ => ⟨?_, fun media => ?_⟩⟩
    · exact accepts.assigned.symm.trans lease.symm
    · rw [aggregate]
      exact AttachmentIssue.row_retained (accepts.offered _ listed) _ _ _ media
  | some old =>
    obtain ⟨same, isSame, follows, unchanged⟩ := Commit.attachments_follow accepts known
    cases isSame.symm.trans stored
    obtain ⟨call, found, fits⟩ := fit _ old known
    rw [← follows.callId] at found
    by_cases sameCall : row.callId = c.request.callId
    · rw [sameCall, accepts.found] at found
      cases found
      refine ⟨next, by rw [sameCall, get?_insert_self], fun unconsumed unrevoked => ?_⟩
      obtain ⟨rfl, retained⟩ := unchanged unconsumed unrevoked
      have before := fits unconsumed unrevoked
      refine ⟨before.worker.trans lease.symm, fun media => ?_⟩
      rw [aggregate]
      cases CallAggregate.decide_decided accepts.decided with
      | ignored _ same =>
        rw [same]
        exact before.retained media
      | applied isApplied => exact retained isApplied sameCall media
    · refine ⟨call, (get?_insert_ne _ _ sameCall).trans found, fun unconsumed unrevoked => ?_⟩
      obtain ⟨rfl, -⟩ := unchanged unconsumed unrevoked
      exact fits unconsumed unrevoked

private theorem restarted (fit : ledger.RowsFit) (worker : WorkerLease) (atTime : Timestamp)
    (callId : CallId) (call : StoredCall) :
    (ledger.restart worker atTime callId call).RowsFit := by
  intro _ _ stored
  rw [restart, get?_mapValues, Option.map_eq_some_iff] at stored
  obtain ⟨old, known, rfl⟩ := stored
  obtain ⟨holder, held, fits⟩ := fit _ old known
  by_cases sameCall : old.callId = callId
  · refine ⟨{ call with assignment := { call.assignment with lease := worker } }, ?_, ?_⟩
    · split <;> rw [restart, sameCall, get?_insert_self]
    · -- every attachment of the call that was not used is revoked
      intro unconsumed unrevoked
      split_ifs at unrevoked with used
      rw [if_neg used] at unconsumed
      exact absurd ⟨sameCall, by rw [unconsumed]; rfl⟩ used
  · have kept : ¬ (old.callId = callId ∧ old.consumedAt.isNone = true) := fun both => sameCall both.1
    rw [if_neg kept]
    exact ⟨holder, (get?_insert_ne _ _ sameCall).trans held, fits⟩

private theorem initial : MemoryState.initial.ledger.RowsFit := by
  intro _ _ found
  cases found

theorem step (fit : ledger.RowsFit) (step : LedgerStep permits ledger after) : after.RowsFit := by
  cases step with
  | created c _ admits => exact fit.created admits
  | decided c _ accepts =>
    refine fit.committed accepts rfl rfl rfl ?_
    rw [stored, assignment]
    split <;> rfl
  | promoted c _ _ _ _ accepts =>
    refine fit.committed accepts rfl rfl rfl ?_
    rw [Commit.promoted, stored, assignment]
    split <;> rfl
  | bound callId call _ _ _ found | released _ _ _ _ _ _ found =>
    exact fit.rewriteCall found rfl rfl rfl rfl
  | restarted worker atTime callId call => exact fit.restarted worker atTime callId call
  | _ => exact fit

end Ledger.RowsFit

/-- The repository, and what its inspections have handed out so far. -/
structure Lobby where
  state : MemoryState
  offers : List (AttachmentLookup × AttachmentCandidate)

def Lobby.opening : Lobby := ⟨.initial, []⟩

/-- A run in which presenters consume only what an inspection has handed out before. -/
inductive Attends [Libraries] : Lobby → List Operation → Lobby → Prop
  | nil (lobby : Lobby) : Attends lobby [] lobby
  | inspects {first lobby} {operations : List Operation} (clock : Option Timestamp)
      {lookup : AttachmentLookup} {candidate} :
      Attends first operations lobby →
        (lobby.state.withClock clock).inspectAttachment lookup = .ok candidate →
        Attends first operations { lobby with offers := (lookup, candidate) :: lobby.offers }
  | executes {first lobby} {operations : List Operation} {operation next} :
      Attends first operations lobby →
        Executes lobby.state operation next →
        (∀ request, operation = .consumeAttachment request →
          ∃ lookup, (lookup, request.candidate) ∈ lobby.offers) →
        Attends first (operations ++ [operation]) { lobby with state := next }

variable {first last : Lobby}

theorem Attends.run [Libraries] (attends : Attends first operations last) :
    Run first.state operations last.state := by
  induction attends with
  | nil => exact .nil _
  | inspects _ _ _ ih => exact ih
  | executes _ executes _ ih => exact ih.snoc executes

def Operation.consumes : Operation → Option AttachmentTokenDigest
  | .consumeAttachment request => some request.candidate.tokenDigest
  | _ => none

/-- The aggregate waits for the attachment that the candidate describes. -/
def Awaits (aggregate : CallAggregate) (candidate : AttachmentCandidate) : Prop :=
  ∀ row : AttachmentRow, row.purpose = candidate.purpose → row.legId = candidate.legId →
    row.bindingGeneration = candidate.bindingGeneration →
      attachmentAwaited aggregate row = true

/-- The candidate shows what the presenter has named, and its version is one at which the call
waited for the attachment. -/
structure Offer (ledger : Ledger) (lookup : AttachmentLookup) (candidate : AttachmentCandidate) :
    Prop where
  token : candidate.tokenDigest = lookup.tokenDigest
  tenant : candidate.tenantId = lookup.tenantId
  transport : candidate.transport = lookup.transport
  principal : candidate.expectedPrincipal = lookup.principalFingerprint
  worker : candidate.worker = lookup.worker
  awaited : ∃ call, ledger.calls.get? candidate.callId = some call ∧
    candidate.expectedVersion ≤ call.aggregate.version ∧
    (call.aggregate.version = candidate.expectedVersion → Awaits call.aggregate candidate)

theorem Offer.step {candidate} (offer : Offer ledger lookup candidate) (valid : ledger.CallsValid)
    (step : LedgerStep permits ledger after) : Offer after lookup candidate := by
  obtain ⟨_, found, _, awaits⟩ := offer.awaited
  obtain ⟨next, stored, advances⟩ := step.call_advances valid found
  have grows := advances.aggregate.version
  refine { offer with awaited := ⟨next, stored, by omega, fun same => ?_⟩ }
  have unchanged := advances.aggregate.unchanged (by omega)
  rw [unchanged] at same ⊢
  exact awaits same

private theorem inspectAttachment_offer {candidate}
    (found : state.inspectAttachment lookup = .ok candidate) :
    Offer state.ledger lookup candidate := by
  simp only [inspectAttachment, bind_eq_ok, exists_unit, mapFailure_eq_ok, pure_eq_ok] at found
  obtain ⟨-, _, _, shown, call, ofTenant, awaited, rfl⟩ := found
  rw [reject_eq_ok] at shown awaited
  simp only [not_or, not_not] at shown awaited
  obtain ⟨token, tenant, transport, principal, worker, -⟩ := shown
  refine ⟨token, tenant, transport, principal, worker,
    ⟨call, (tenantCall_ok ofTenant).1, le_rfl, fun _ _ purpose leg
      generation => ?_⟩⟩
  have now := awaited.2.2
  unfold attachmentAwaited at now ⊢
  rw [purpose, leg, generation]
  exact now

/-- The presented attachment is accepted in this state, for the call as it is now. -/
structure Admission (state : MemoryState) (lookup : AttachmentLookup)
    (request : AttachmentConsume) (row : AttachmentRow) (call : StoredCall) : Prop where
  found : state.attachments.get? lookup.tokenDigest = some row
  unconsumed : row.consumedAt = none
  unrevoked : row.revokedAt = none
  unexpired : state.authoritativeTime request.atTime < row.expiresAt
  tenant : row.tenantId = lookup.tenantId
  transport : row.transport = lookup.transport
  principal : row.expectedPrincipal = lookup.principalFingerprint ∧
    row.expectedPrincipal = request.principalFingerprint
  worker : row.worker = lookup.worker
  leased : state.ensureWorker lookup.worker true (state.authoritativeTime request.atTime) = .ok ()
  generation : row.bindingGeneration = request.candidate.bindingGeneration
  unused : state.usedConnectionIds.get? request.connectionId = none
  stored : state.calls.get? row.callId = some call
  assigned : call.assignment.lease = lookup.worker
  unreleased : call.assignment.releasedAt = none
  version : call.aggregate.version = request.candidate.expectedVersion
  awaited : attachmentAwaited call.aggregate row = true

private theorem Offer.admission {ids request result}
    (offer : Offer state.ledger lookup request.candidate) (unused : state.ledger.Unused ids)
    (done : state.consumeAttachment ids request = .ok result) :
    ∃ row call, Admission state lookup request row call := by
  obtain ⟨c, _, sameRequest, -, -, accepts, -⟩ :=
    consumeAttachment_ledger unused done
  have callId : c.request.callId = request.candidate.callId := congrArg _ sameRequest
  have worker : c.request.worker = request.candidate.worker := congrArg _ sameRequest
  have version : c.request.expectedVersion = request.candidate.expectedVersion :=
    congrArg _ sameRequest
  simp only [consumeAttachment, bind_eq_ok, exists_unit, mapFailure_eq_ok, orFail_eq_ok] at done
  obtain ⟨leased, -, -, -, row, attachment, presented, fresh, -⟩ := done
  rw [reject_eq_ok] at presented fresh
  simp only [not_or, not_not, Bool.not_eq_true, Option.isSome_eq_false_iff,
    Option.isNone_iff_eq_none, contains] at presented fresh
  obtain ⟨-, purpose, tenant, sameCall, sameLeg, generation, transport, expected, principal,
    sameWorker, unexpired, unconsumed, unrevoked⟩ := presented
  obtain ⟨call, found, -, awaits⟩ := offer.awaited
  have stored := accepts.found
  rw [callId] at stored
  cases found.symm.trans stored
  have current := accepts.version.trans version
  exact ⟨row, c.call,
    { found := offer.token ▸ attachment, unconsumed := unconsumed, unrevoked := unrevoked
      unexpired := by simpa using unexpired
      tenant := tenant.trans offer.tenant, transport := transport.trans offer.transport
      principal := ⟨expected.trans offer.principal, principal⟩
      worker := sameWorker.trans offer.worker, leased := offer.worker ▸ leased
      generation := generation, unused := fresh.1
      stored := by rw [sameCall]; exact found
      assigned := accepts.assigned.trans (worker.trans offer.worker)
      unreleased := accepts.unreleased, version := current
      awaited := awaits current row purpose sameLeg generation }⟩

/-- What withdraws an attachment: it is revoked, its call has been handed to a restarted worker, the
generation of its leg has moved on or is no longer pending, or the call has ended. -/
inductive AttachmentRow.Withdrawn (row : AttachmentRow) (call : StoredCall) : Prop
  | revoked (revoked : row.revokedAt.isSome = true)
  | restarted (other : row.worker ≠ call.assignment.lease)
  | rotated (leg : Leg) (named : call.aggregate.leg row.legId = some leg)
      (newer : row.bindingGeneration < leg.bindingGeneration)
  | replaced (media : row.purpose = .providerMedia)
      (dropped : providerAttachmentRetained call.aggregate row = false)
  | ended (terminal : call.aggregate.state.isTerminal = true)
  | released (released : call.assignment.releasedAt.isSome = true)

def Ledger.Withdrawn (ledger : Ledger) (token : AttachmentTokenDigest) : Prop :=
  ∃ row call, ledger.attachments.get? token = some row ∧
    ledger.calls.get? row.callId = some call ∧ row.Withdrawn call

/-- The same in terms that no later step can undo. -/
inductive AttachmentRow.Closed (row : AttachmentRow) (call : StoredCall) : Prop
  | consumed (consumed : row.consumedAt.isSome = true)
  | revoked (revoked : row.revokedAt.isSome = true)
  | rotated (leg : Leg) (named : call.aggregate.leg row.legId = some leg)
      (newer : row.bindingGeneration < leg.bindingGeneration)
  | ended (terminal : call.aggregate.state.isTerminal = true)
  | released (released : call.assignment.releasedAt.isSome = true)

def Ledger.Closed (ledger : Ledger) (token : AttachmentTokenDigest) : Prop :=
  ∃ row call, ledger.attachments.get? token = some row ∧
    ledger.calls.get? row.callId = some call ∧ row.Closed call

private theorem Ledger.Withdrawn.closed (withdrawn : ledger.Withdrawn token)
    (fit : ledger.RowsFit) : ledger.Closed token := by
  obtain ⟨row, call, found, stored, withdrawn⟩ := withdrawn
  refine ⟨row, call, found, stored, ?_⟩
  have fits : row.consumedAt = none → row.revokedAt = none → row.Fits call := by
    obtain ⟨_, held, fits⟩ := fit _ row found
    cases held.symm.trans stored
    exact fits
  have unfit : ¬ row.Fits call → row.Closed call := by
    intro unfit
    cases consumed : row.consumedAt with
    | some => exact .consumed (by rw [consumed]; rfl)
    | none =>
      cases revoked : row.revokedAt with
      | some => exact .revoked (by rw [revoked]; rfl)
      | none => exact absurd (fits consumed revoked) unfit
  cases withdrawn with
  | revoked revoked => exact .revoked revoked
  | restarted other => exact unfit fun fits => other fits.worker
  | rotated leg named newer => exact .rotated leg named newer
  | replaced media dropped =>
    refine unfit fun fits => ?_
    rw [fits.retained media] at dropped
    cases dropped
  | ended terminal => exact .ended terminal
  | released released => exact .released released

theorem Ledger.Closed.step (closed : ledger.Closed token) (valid : ledger.CallsValid)
    (step : LedgerStep permits ledger after) : after.Closed token := by
  obtain ⟨_, _, found, stored, closed⟩ := closed
  obtain ⟨next, known, follows⟩ := step.attachment_follows found
  obtain ⟨later, held, advances⟩ := step.call_advances valid stored
  refine ⟨next, later, known, by rw [follows.callId]; exact held, ?_⟩
  cases closed with
  | consumed consumed => exact .consumed (follows.consumed consumed)
  | revoked revoked => exact .revoked (follows.revoked revoked)
  | rotated leg named =>
    obtain ⟨now, isLeg, grows⟩ := advances.aggregate.leg named
    have low := grows.generation
    refine .rotated now (by rw [follows.legId]; exact isLeg) ?_
    rw [follows.bindingGeneration]
    omega
  | ended terminal =>
    refine .ended ?_
    rw [advances.aggregate.ended terminal]
    exact terminal
  | released released => exact .released (advances.released released)

private theorem attachmentAwaited_ok (valid : aggregate.Valid)
    (awaited : attachmentAwaited aggregate row = true) :
    (∀ leg, aggregate.leg row.legId = some leg → leg.bindingGeneration ≤ row.bindingGeneration) ∧
      aggregate.state.isTerminal = false := by
  cases named : aggregate.leg row.legId with
  | none => simp [attachmentAwaited, named] at awaited
  | some leg =>
    suffices current : leg.bindingGeneration ≤ row.bindingGeneration ∧
        aggregate.state.isTerminal = false from
      ⟨fun _ same => Option.some.inj same ▸ current.1, current.2⟩
    -- a leg that still comes up belongs to a call that has not ended
    have coming : leg.state ∈ [LegState.pending, .awaitingAttach, .signaling] →
        aggregate.state.isTerminal = false := by
      intro up
      obtain ⟨slot, isLeg, -⟩ := (CallAggregate.leg_eq_some_iff valid.distinct _ _).mp named
      have allowed := valid.legal.legs slot
      rw [core_legAt, isLeg, core_state] at allowed
      cases state : aggregate.state <;> rw [state] at allowed <;>
        cases legState : leg.state <;> rw [legState] at up allowed <;>
        simp_all [legAllowedIn, CallState.isTerminal, LegState.isTerminal]
    rw [attachmentAwaited, named, Option.any_some] at awaited
    cases purpose : row.purpose with
    | publicInbound =>
      simp only [purpose, Bool.and_eq_true, decide_eq_true_eq] at awaited
      obtain ⟨⟨same, -⟩, waiting⟩ := awaited
      exact ⟨by omega, coming (by simp [waiting])⟩
    | providerMedia =>
      simp only [purpose, Bool.or_eq_true, Bool.and_eq_true, decide_eq_true_eq] at awaited
      rcases awaited with ⟨⟨⟨same, -⟩, -⟩, waiting⟩ | pending
      · exact ⟨by omega, coming (by rcases waiting with waiting | waiting <;> simp [waiting])⟩
      · cases replacing : aggregate.replacement with
        | none => simp [CallAggregate.pendingTelnyx, replacing] at pending
        | some =>
          rw [CallAggregate.pendingTelnyx, replacing, Option.any_some, decide_eq_true_eq]
            at pending
          obtain ⟨_, isLeg, -, _⟩ := valid.replaced_leg replacing
          rw [pending.1, named] at isLeg
          cases isLeg
          have transferring := (valid.legal.transferring (by simp [replacing])).1
          rw [core_state] at transferring
          exact ⟨by omega, by rw [transferring]; rfl⟩

private theorem Admission.not_closed {request call}
    (admission : Admission state lookup request row call)
    (valid : state.ledger.CallsValid) : ¬ state.ledger.Closed lookup.tokenDigest := by
  rintro ⟨_, _, found, stored, closed⟩
  cases admission.found.symm.trans found
  cases admission.stored.symm.trans stored
  obtain ⟨current, goesOn⟩ := attachmentAwaited_ok (valid _ _ stored) admission.awaited
  cases closed with
  | consumed consumed => simp [admission.unconsumed] at consumed
  | revoked revoked => simp [admission.unrevoked] at revoked
  | rotated leg named =>
    have low := current leg named
    omega
  | ended terminal =>
    rw [goesOn] at terminal
    cases terminal
  | released released => simp [admission.unreleased] at released

def Ledger.Consumed (ledger : Ledger) (token : AttachmentTokenDigest) : Prop :=
  ∃ row, ledger.attachments.get? token = some row ∧ row.consumedAt.isSome = true

theorem Ledger.Consumed.step (consumed : ledger.Consumed token)
    (step : LedgerStep permits ledger after) : after.Consumed token := by
  obtain ⟨_, found, marked⟩ := consumed
  obtain ⟨next, known, follows⟩ := step.attachment_follows found
  exact ⟨next, known, follows.consumed marked⟩

private theorem Executes.consumes [Libraries] {state next operation}
    (executes : Executes state operation next) (consumes : operation.consumes = some token) :
    ¬ state.ledger.Consumed token ∧ next.ledger.Consumed token := by
  obtain ⟨clock, ids, fresh, _, done⟩ := executes
  cases operation with
  | consumeAttachment =>
    cases consumes
    have unused : (state.withClock clock).ledger.Unused ids := ⟨fresh.injective, fresh.outbox⟩
    rw [Operation.run, map_eq_ok] at done
    obtain ⟨_, done, rfl⟩ := done
    obtain ⟨c, use, -, consumed, token, accepts, ledger⟩ :=
      consumeAttachment_ledger unused done
    have uses := accepts.consumes use consumed
    have found := uses.found
    rw [token] at found
    constructor
    · rintro ⟨row, known, marked⟩
      have same : use.row = row := Option.some.inj (found.symm.trans known)
      rw [← same, uses.unconsumed] at marked
      cases marked
    · have marked : (c.marked state.ledger.attachments).get? use.token = some use.marked := by
        rw [marked, consumed]
        exact get?_insert_self ..
      obtain ⟨later, stored, follows, -⟩ := Commit.attachments_of_marked accepts uses.found marked
      refine ⟨later, ?_, follows.consumed rfl⟩
      rw [ledger, ← token]
      exact stored
  | _ => cases consumes

private theorem Run.consumed_once [Libraries] (run : Run .initial operations state)
    (token : AttachmentTokenDigest) :
    (operations.filterMap Operation.consumes).count token ≤ 1 ∧
      (token ∈ operations.filterMap Operation.consumes → state.ledger.Consumed token) := by
  induction run with
  | nil => simp
  | @snoc middle last operations operation run executes ih =>
    obtain ⟨_, marked⟩ := ih
    have stays : middle.ledger.Consumed token → last.ledger.Consumed token :=
      executes.keeps (fun ledger => ledger.Consumed token) fun _ _ _ consumed step =>
        consumed.step step
    rw [List.filterMap_append, List.count_append, List.mem_append]
    by_cases consumes : operation.consumes = some token
    · obtain ⟨before, after⟩ := executes.consumes consumes
      have absent : token ∉ operations.filterMap Operation.consumes := fun member =>
        before (marked member)
      rw [List.count_eq_zero_of_not_mem absent]
      refine ⟨?_, fun _ => after⟩
      simp [consumes]
    · have quiet : token ∉ [operation].filterMap Operation.consumes := by
        simpa using consumes
      rw [List.count_eq_zero_of_not_mem quiet]
      exact ⟨by omega, fun member => stays (marked (member.resolve_right quiet))⟩

/-- What the laws about presenters rest on. -/
structure Lobby.Sound (lobby : Lobby) : Prop where
  connected : lobby.state.ledger.Connected
  fit : lobby.state.ledger.RowsFit
  offers : ∀ lookup candidate, (lookup, candidate) ∈ lobby.offers →
    Offer lobby.state.ledger lookup candidate

private theorem Lobby.Sound.executes [Libraries] {lobby : Lobby} (sound : lobby.Sound)
    {operation next} (executes : Executes lobby.state operation next) :
    Lobby.Sound { lobby with state := next } where
  connected := executes.keeps Ledger.Connected (fun _ _ _ kept step => kept.step step)
    sound.connected
  fit := executes.keeps Ledger.RowsFit (fun _ _ _ kept step => kept.step step) sound.fit
  offers := by
    intro _ candidate member
    have kept := executes.keeps
      (fun ledger => ledger.CallsValid ∧ Offer _ _ candidate)
      (fun _ _ _ kept step => ⟨kept.1.step step, kept.2.step kept.1 step⟩)
      ⟨sound.connected.valid, sound.offers _ _ member⟩
    exact kept.2

private theorem Attends.sound [Libraries] (attends : Attends first operations last)
    (sound : first.Sound) : last.Sound := by
  induction attends with
  | nil => exact sound
  | @inspects _ _ _ _ _ _ found before =>
    refine ⟨before.connected, before.fit, fun _ _ member => ?_⟩
    rcases List.mem_cons.mp member with same | older
    · cases same
      have offer := inspectAttachment_offer found
      exact offer
    · exact before.offers _ _ older
  | executes _ executes _ before => exact before.executes executes

private theorem Lobby.Sound.opening : Lobby.opening.Sound where
  connected := .initial
  fit := .initial
  offers := by
    intro _ _ member
    cases member

private theorem Attends.closed [Libraries] (attends : Attends first operations last)
    (sound : first.Sound) (closed : first.state.ledger.Closed token) :
    last.state.ledger.Closed token ∧ token ∉ operations.filterMap Operation.consumes := by
  induction attends with
  | nil => exact ⟨closed, by simp⟩
  | inspects _ _ _ ih => exact ih
  | @executes lobby _ operation _ attends executes offered ih =>
    obtain ⟨before, unused⟩ := ih
    have good := attends.sound sound
    have kept := executes.keeps (fun ledger => ledger.CallsValid ∧ ledger.Closed token)
      (fun _ _ _ kept step => ⟨kept.1.step step, kept.2.step kept.1 step⟩)
      ⟨good.connected.valid, before⟩
    refine ⟨kept.2, ?_⟩
    rw [List.filterMap_append, List.mem_append]
    rintro (earlier | now)
    · exact unused earlier
    · have consumes : operation.consumes = some token := by simpa using now
      cases operation with
      | consumeAttachment request =>
        cases consumes
        obtain ⟨lookup, member⟩ := offered _ rfl
        have offer := good.offers _ _ member
        obtain ⟨clock, _, fresh, _, done⟩ := executes
        rw [Operation.run, map_eq_ok] at done
        obtain ⟨_, done, rfl⟩ := done
        have seen : Offer (lobby.state.withClock clock).ledger lookup request.candidate := offer
        obtain ⟨_, _, admission⟩ :=
          seen.admission ⟨fresh.injective, fresh.outbox⟩ done
        refine admission.not_closed good.connected.valid ?_
        rw [← offer.token]
        exact before
      | _ => cases consumes

/-- The law of attachments at a moment of a run and from there on. -/
structure SingleUse [Libraries] (past : List Operation) (lobby : Lobby) : Prop where
  /-- No token has been consumed twice. -/
  once : ∀ token, (past.filterMap Operation.consumes).count token ≤ 1
  /-- Whatever a connection is used for, now or later on, is for the same leg of the same call under
  the same generation. -/
  held : ∀ {last : MemoryState} {after : List Operation} {connectionId : ConnectionId}
    {key other : BindingKey}, Run lobby.state after last →
    lobby.state.ledger.Holds connectionId key → last.ledger.Holds connectionId other → other = key
  /-- A connection that is bound now and later on is bound at every moment in between. -/
  bound : ∀ {middle last : MemoryState} {between after : List Operation}
    {connectionId : ConnectionId} {key other : BindingKey}, Run lobby.state between middle →
    Run middle after last → lobby.state.ledger.Bound connectionId key →
    last.ledger.Bound connectionId other → other = key ∧ middle.ledger.Bound connectionId key
  /-- Whatever a presenter succeeds with was theirs to use. -/
  admits : ∀ {clock : Option Timestamp} {ids : EffectSupply} {lookup : AttachmentLookup}
    {request : AttachmentConsume} {result : MemoryState × ConsumedAttachment},
    Fresh ids lobby.state → (lookup, request.candidate) ∈ lobby.offers →
    (lobby.state.withClock clock).consumeAttachment ids request = .ok result →
    ∃ row call, Admission (lobby.state.withClock clock) lookup request row call
  /-- A withdrawn token is not consumed any more. -/
  withdrawn : ∀ {token : AttachmentTokenDigest} {after : List Operation} {later : Lobby},
    lobby.state.ledger.Withdrawn token → Attends lobby after later →
    token ∉ after.filterMap Operation.consumes

theorem attachments_single_use [Libraries] {past : List Operation} {lobby : Lobby}
    (attends : Attends .opening past lobby) : SingleUse past lobby := by
  have sound := attends.sound .opening
  have run : Run .initial past lobby.state := attends.run
  refine ⟨fun token => (run.consumed_once token).1,
    fun onward held again => onward.one_key ⟨past, run⟩ held again,
    fun one two bound again => one.bound_once ⟨past, run⟩ two bound again, ?_, ?_⟩
  · intro clock _ lookup request _ fresh member done
    have offer : Offer (lobby.state.withClock clock).ledger lookup request.candidate :=
      sound.offers lookup _ member
    exact offer.admission ⟨fresh.injective, fresh.outbox⟩ done
  · intro token _ _ withdrawn onward
    exact (onward.closed sound (withdrawn.closed sound.fit)).2

private theorem Run.attends [Libraries] {first last} (run : Run first operations last)
    (quiet : operations.filterMap Operation.consumes = [])
    (offers : List (AttachmentLookup × AttachmentCandidate)) :
    Attends ⟨first, offers⟩ operations ⟨last, offers⟩ := by
  induction run with
  | nil => exact .nil _
  | snoc _ executes ih =>
    rw [List.filterMap_append, List.append_eq_nil_iff] at quiet
    refine .executes (ih quiet.1) executes ?_
    rintro _ rfl
    cases quiet.2

section

attribute [local instance] Sample.libraries

/-- A caller joins a call with the attachment issued for it. -/
theorem attachments_single_use_joined :
    ∃ lobby, Attends .opening (Sample.awaitedCall ++ [Sample.joining]) lobby ∧
      SingleUse (Sample.awaitedCall ++ [Sample.joining]) lobby ∧
      lobby.state.ledger.Bound ⟨"connection"⟩ (Sample.callId, Sample.callerId, 1) := by
  have opened : Run .initial Sample.awaitedCall (.after Sample.awaitedCall) :=
    after_run (by decide +kernel)
  have inspected : ((after Sample.awaitedCall).withClock none).inspectAttachment
      Sample.arrival = .ok Sample.admittedCaller := by
    decide +kernel
  have joins : (((after Sample.awaitedCall).execute [Sample.joining]).toOption.any
      fun last => (last.calls.get? Sample.callId).any fun call =>
        (call.bindings.get? Sample.callerId).any fun binding =>
          decide (binding.connectionId = ⟨"connection"⟩ ∧ binding.bindingGeneration = 1)) =
        true := by
    decide +kernel
  obtain ⟨last, done, joins⟩ := (toOption_any _).mp joins
  simp only [Option.any_eq_true, decide_eq_true_eq] at joins
  obtain ⟨call, found, binding, bound, same⟩ := joins
  have attends : Attends .opening (Sample.awaitedCall ++ [Sample.joining])
      ⟨last, [(Sample.arrival, Sample.admittedCaller)]⟩ := by
    have waiting : Attends .opening Sample.awaitedCall
        ⟨.after Sample.awaitedCall, [(Sample.arrival, Sample.admittedCaller)]⟩ :=
      .inspects none (opened.attends rfl []) inspected
    have executes : Executes (.after Sample.awaitedCall) Sample.joining last := by
      rw [execute, bind_eq_ok] at done
      obtain ⟨_, one, same⟩ := done
      cases same
      exact .step _ _ (nextEffects_fresh _) _ one
    refine waiting.executes executes ?_
    rintro _ ⟨⟩
    exact ⟨Sample.arrival, List.mem_singleton_self _⟩
  exact ⟨_, attends, attachments_single_use attends, call, binding, found, bound, same⟩

end

end Bridgefu.Persistence
