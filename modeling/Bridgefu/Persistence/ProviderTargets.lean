/- digest: Which leg an accepted provider command is about, and when that is the leg it came for. -/

import Bridgefu.CallEngine.Replacement
import Bridgefu.Persistence.ProviderQueue
import Bridgefu.Persistence.CallRows

set_option autoImplicit false

namespace Bridgefu.CallEngine

open Lib CallAggregate CallCore

/-- The leg a command is about: the one it names, or the one whose pending replacement it reports
on, by its generations. A late report on a replacement that is settled is about no leg. -/
def CallAggregate.subject (a : CallAggregate) : CallCommand → Option LegId
  | .setLegState _ legId .. | .sourceTerminatedBeforeAnswer _ legId ..
  | .providerMediaStarted _ legId _ | .providerMediaAttached _ legId _
  | .rotateLegBinding _ legId _ | .beginLegReplacement _ legId .. => some legId
  | .finishLegReplacement _ deadlineGeneration pendingBindingGeneration _ =>
    (a.replacement.filter fun replacement =>
      deadlineGeneration = (a.deadlines.get .transfer).generation ∧
        pendingBindingGeneration = replacement.pendingBindingGeneration).map (·.legId)
  | .deadlineElapsed _ .transfer generation _ =>
    (a.replacement.filter fun _ =>
      generation = (a.deadlines.get .transfer).generation).map (·.legId)
  | _ => none

/-- The call as a whole starts, is torn down or comes to its end. -/
def CarriesLegs (before after : CallState) : Prop :=
  after ≠ before ∧ after ∈ .connecting :: closingStates

/-- The leg in the slot and its replacement are as they were. -/
def SparesLeg (before after : CallCore) (slot : LegSlot) : Prop :=
  after.legAt slot = before.legAt slot ∧
    after.replacement.filter (·.legId = (before.legAt slot).id) =
      before.replacement.filter (·.legId = (before.legAt slot).id)

variable {a : CallAggregate} {command : CallCommand} {c : CallCore} {sent : List EffectIntent}

private theorem CarriesLegs.of_closing {before after} (early : before ∉ closingStates)
    (closing : after ∈ closingStates) : CarriesLegs before after :=
  ⟨fun same => early (same ▸ closing), List.mem_cons_of_mem _ closing⟩

private theorem CarriesLegs.of_close (c : CallCore) (atTime : Timestamp) :
    CarriesLegs .ending (c.close atTime).state := by
  have closed := close_state_mem c atTime
  refine ⟨fun same => ?_, List.mem_cons_of_mem _ (List.mem_cons_of_mem _ closed)⟩
  simp [same] at closed

private theorem TakesDown.subject {slot leg} (down : TakesDown a command slot leg) :
    ∃ legId, a.legIndex legId = .ok slot ∧ some legId = a.subject command := by
  cases down with
  | reported guard | source guard => exact ⟨_, guard.found, rfl⟩

private theorem CallAggregate.FinishReplacementGuard.subject
    {slot atTime deadline binding replacement outcome}
    (guard : FinishReplacementGuard a slot atTime deadline binding replacement) :
    some replacement.legId =
      a.subject (.finishLegReplacement atTime deadline binding outcome) := by
  simp [CallAggregate.subject, guard.pending, guard.current, guard.generation]

private theorem CallAggregate.ElapsedGuard.subject {atTime supplied endingDeadline replacement}
    (guard : ElapsedGuard a atTime .transfer supplied)
    (pending : a.replacement = some replacement) :
    some replacement.legId = a.subject (.deadlineElapsed atTime .transfer supplied endingDeadline) := by
  simp [CallAggregate.subject, pending, guard.current]

private theorem Move.spares (valid : a.Valid) (move : Move a command c sent) {slot}
    (other : a.subject command ≠ some (a.legAt slot).id) :
    CarriesLegs a.state c.state ∨ SparesLeg a.core c slot := by
  have apart : ∀ {named legId}, a.legIndex legId = .ok named → some legId = a.subject command →
      slot ≠ named := by
    rintro named legId found about rfl
    exact other (about ▸ congrArg _ ((valid.legIndex_iff _ slot).mp found).symm)
  -- a command that settles the replacement of the other leg leaves none for this one
  have settled : ∀ {replacement}, a.replacement = some replacement →
      some replacement.legId = a.subject command →
        none = a.core.replacement.filter (·.legId = (a.core.legAt slot).id) := by
    rintro replacement pending about
    rw [← about, ne_eq, Option.some.injEq] at other
    exact symm (by simp [pending, other])
  cases move with
  | started guard => exact .inl ⟨by simp [guard.pending, arm, moveTo], by simp [arm, moveTo]⟩
  | reported guard | mediaStarted guard | mediaAttached guard | rotated guard =>
    exact .inr ⟨by simp [apart guard.found rfl], by simp⟩
  | answered guard => exact .inr ⟨by simp [apart guard.found rfl], by simp [moveTo, disarm]⟩
  | hungUp down early =>
    exact .inl (.of_closing (early_of_running (takesDown_running down early))
      (teardown_state_mem ..))
  | drained down =>
    obtain ⟨legId, found, about⟩ := down.subject
    exact .inr ⟨by simp [apart found about], by simp⟩
  | replacementAttached | rearmed | transferBegun | transferFinished =>
    exact .inr ⟨by simp, rfl⟩
  | @replacementBegun _ _ legId _ _ _ guard =>
    have named : legId ≠ (a.legAt slot).id := fun same => other (congrArg _ same)
    refine .inr ⟨by simp [apart guard.found rfl], ?_⟩
    simp [named, guard.unreplaced]
  | replacementFinished guard =>
    refine .inr ⟨?_, settled guard.pending guard.subject⟩
    rw [moveTo_legAt, legAt_withReplacement]
    simp [apart guard.found guard.subject]
  | endingBegun guard =>
    by_cases early : a.state ∈ closingStates
    · -- a second request only adds a deadline: no leg is up and no replacement is pending
      have ending : a.state = .ending := by
        have goesOn := guard.goesOn
        cases state : a.state <;> simp_all [CallState.isTerminal]
      have down : (a.legAt slot).state.isUp = false := by
        have allowed := valid.legal.legs slot
        cases leg : (a.legAt slot).state <;> simp_all [legAllowedIn, LegState.isUp, LegState.isTerminal]
      have idle : a.replacement = none := by
        by_contra pending
        cases ending.symm.trans (valid.legal.transferring pending).1
      exact .inr ⟨by simp [stoppedLeg, down], by simp [teardown_replacement, idle]⟩
    · exact .inl (.of_closing early (teardown_state_mem ..))
  | endingElapsed guard =>
    rw [elapsed_ending valid guard]
    exact .inl (.of_close ..)
  | replacementElapsed guard pending found =>
    refine .inr ⟨?_, settled pending (guard.subject pending)⟩
    rw [moveTo_legAt, legAt_withReplacement]
    simp [apart found (guard.subject pending)]
  | elapsed guard notEnding =>
    exact .inl (.of_closing (early_of_running (elapsed_running valid guard notEnding))
      (teardown_state_mem ..))

end Bridgefu.CallEngine

namespace Bridgefu.Persistence

open Lib CallEngine CallService

/-- The command is about no leg but that of the target, and the other leg is only carried along. -/
structure Concerns (target : ProviderEventTarget) (command : CallCommand)
    (before after : CallAggregate) : Prop where
  about : ∀ legId, before.subject command = some legId → legId = target.legId
  spares : ∀ slot, (before.legAt slot).id ≠ target.legId →
    CarriesLegs before.state after.state ∨ SparesLeg before.core after.core slot

/-- The leg of a command that is not compared with the target. -/
def uncompared (a : CallAggregate) : CallCommand → Option LegId
  | .setLegState .. | .providerMediaStarted .. | .rotateLegBinding .. => none
  | command => a.subject command

private theorem subject_compared {target command a}
    (checked : validateProviderCommandTarget target command = .ok ()) {legId}
    (about : a.subject command = some legId) :
    uncompared a command = some legId ∨ legId = target.legId := by
  cases command <;>
    simp_all [validateProviderCommandTarget, CallAggregate.subject, uncompared]

private theorem subject_of_uncompared {command legId a}
    (known : uncompared a command = some legId) : a.subject command = some legId := by
  cases command <;> simp_all [uncompared]

/-- Of every accepted completion of a provider event: it replays, or it commits its command on the
call of its provider reference, and concerns only the leg of this reference exactly if the leg of a
command that is not compared with the target is that leg. -/
theorem completeProviderEvent_concerns_iff [Libraries] {state : MemoryState}
    (reachable : Reachable state) {ids clock request result} (fresh : Fresh ids state)
    (done : (state.withClock clock).completeProviderEvent ids request = .ok result) :
    (∃ view, result.2.command = .replayed view ∧ result.1.calls = state.calls) ∨
      ∃ view event target call, result.2.command = .committed view ∧
        state.providerEvents.get? (request.account, request.eventDigest) = some event ∧
        (state.providerReferences.get? (event.account, event.providerCallId)).map
          ProviderReferenceRow.target = some target ∧
        request.command.tenantId = target.tenantId ∧ request.command.callId = target.callId ∧
        state.calls.get? target.callId = some call ∧
        result.1.calls = state.calls.insert target.callId view.call ∧
        (Concerns target request.command.command call.aggregate view.call.aggregate ↔
          ∀ legId, uncompared call.aggregate request.command.command = some legId →
            legId = target.legId) := by
  simp only [MemoryState.completeProviderEvent, bind_eq_ok, exists_unit, orFail_eq_ok] at done
  obtain ⟨-, -, event, found, bound, done⟩ := done
  split at done
  · split at done
    · rw [bind_eq_ok, exists_unit, pure_eq_ok] at done
      obtain ⟨-, rfl⟩ := done
      exact .inl ⟨_, rfl, rfl⟩
    · cases done
  · simp only [bind_eq_ok, exists_unit, orFail_eq_ok, pure_eq_ok] at done
    obtain ⟨target, targeted, -, checked, committed, commits, applied, applies, rfl⟩ := done
    have calls : applied.1.calls = committed.1.calls := by
      simp only [MemoryState.applyProviderEvent, bind_eq_ok, pure_eq_ok] at applies
      obtain ⟨-, -, rfl⟩ := applies
      rfl
    have unused : (state.withClock clock).ledger.Unused ids := ⟨fresh.injective, fresh.outbox⟩
    obtain ⟨same, view, replayed⟩ | ⟨c, given, -, accepts, ledger, outcome⟩ :=
      MemoryState.commitCommandInState_ledger unused commits
    · exact .inl ⟨view, replayed, by rw [calls, same]; rfl⟩
    right
    simp only [targeted, Option.toList_some, checkAll_eq_ok, List.mem_singleton, forall_eq,
      bind_eq_ok, exists_unit, reject_eq_ok, not_or, not_not] at bound
    obtain ⟨⟨tenant, call⟩, -⟩ := bound
    have reference := (EventBook.of_reachable reachable).targeted _ _ found
    have named : c.request.callId = target.callId := given ▸ call.symm
    have stored : state.calls.get? target.callId = some c.call := named ▸ accepts.found
    have valid := reachable.invariant Ledger.CallsValid .initial
      (fun _ _ _ valid step => valid.step step) _ _ stored
    have decided := accepts.decided
    rw [given] at decided
    refine ⟨_, event, target, c.call, outcome, found, reference ▸ targeted, tenant.symm, call.symm,
      stored, ?_, fun concerns legId open' => concerns.about _ (subject_of_uncompared open'),
      fun condition => ?_⟩
    · rw [calls, ← named]
      exact congrArg Ledger.calls ledger
    · have about : ∀ legId, c.call.aggregate.subject request.command.command = some legId →
          legId = target.legId := fun legId about =>
        (subject_compared checked about).elim (condition legId) id
      refine ⟨about, fun _ other => ?_⟩
      rcases CallAggregate.decide_moves decided with ⟨-, same, -⟩ | ⟨-, move⟩
      · exact .inr (by simp [SparesLeg, Commit.stored, same])
      · exact move.spares valid fun own => other (about _ own)

namespace Sample

/-- The event of the caller reports media of the callee. -/
def strayed : ProviderEventCommit :=
  { dialled with command := commit 1 (.providerMediaAttached 2 calleeId 1) }

attribute [local instance] libraries

/-- An event of a provider call has been claimed, which turned out to be the given leg. -/
def claimedEvent (legId : LegId) : MemoryState :=
  .after [.registerWorker registration, .createCall (creation .telnyx []),
    .ingestProviderEvent (event 1 "call.initiated"),
    .bindProviderReference { reference with legId := legId }, .claimProviderEvents worker 2 10 5]

def completed (legId : LegId) (request : ProviderEventCommit) :
    Except RepositoryError (MemoryState × ProviderEventCommitOutcome) :=
  (claimedEvent legId).completeProviderEvent (claimedEvent legId).nextEffects request

/-- An event of the caller is accepted with a command about the callee, whose state it changes. -/
theorem provider_command_strays : Reachable (claimedEvent callerId) ∧
    ((claimedEvent callerId).providerReferences.get? (account, providerCallId)).map (·.target) =
      some ⟨tenantId, callId, callerId, .destination⟩ ∧
    ((claimedEvent callerId).calls.get? callId).map (·.aggregate.right.state) = some .pending ∧
    (∃ result, completed callerId strayed = .ok result ∧
      result.2.command = .committed result.2.command.view ∧
      result.2.command.view.call.aggregate.right.state = .signaling) ∧
    ∀ before after, ¬ Concerns ⟨tenantId, callId, callerId, .destination⟩
      strayed.command.command before after := by
  have shown : (completed callerId strayed).toOption.any fun result =>
      decide (result.2.command = .committed result.2.command.view ∧
        result.2.command.view.call.aggregate.right.state = .signaling) := by decide +kernel
  obtain ⟨result, done, shown⟩ := (toOption_any _).mp shown
  refine ⟨⟨_, MemoryState.after_run (by decide +kernel)⟩, by decide +kernel, by decide +kernel,
    ⟨result, done, of_decide_eq_true shown⟩, fun _ _ concerns => ?_⟩
  cases concerns.about calleeId rfl

/-- An event of the callee reports that the callee is dialled. -/
theorem completeProviderEvent_concerns_dialled : ∃ event target call result view,
    completed calleeId dialled = .ok result ∧ result.2.command = .committed view ∧
      (claimedEvent calleeId).providerEvents.get? (account, ⟨1⟩) = some event ∧
      ((claimedEvent calleeId).providerReferences.get? (event.account, event.providerCallId)).map
        (·.target) = some target ∧
      Concerns target dialled.command.command call view.call.aggregate := by
  have shown : (completed calleeId dialled).toOption.any fun result =>
    decide (result.2.command = .committed result.2.command.view) := by decide +kernel
  obtain ⟨result, done, commits⟩ := (toOption_any _).mp shown
  have reachable : Reachable (claimedEvent calleeId) :=
    ⟨_, MemoryState.after_run (by decide +kernel)⟩
  obtain ⟨view, replayed, -⟩ | ⟨view, event, target, call, committed, found, reference, -, -, -, -,
      iff⟩ := @completeProviderEvent_concerns_iff _ _ reachable _ _ _ _
    (claimedEvent calleeId).nextEffects_fresh done
  · cases (of_decide_eq_true commits).symm.trans replayed
  · exact ⟨event, target, call.aggregate, result, view, done, committed, found, reference,
      iff.mpr fun _ => nofun⟩

end Sample

end Bridgefu.Persistence
