/- digest: What the promotion of a replacement connection leaves behind. -/

import Bridgefu.Persistence.Connections
import Bridgefu.Persistence.Execution

set_option autoImplicit false

namespace Bridgefu.CallEngine.CallAggregate

open Lib

/-- The generation of the transfer deadline that the result of a replacement answers. -/
def answeredDeadline : CallCommand → Option Nat
  | .finishLegReplacement _ deadlineGeneration _ _ => some deadlineGeneration
  | _ => none

variable {a : CallAggregate} {atTime : Timestamp} {supplied : Nat} {replacement : LegReplacement}
  {decision : CallDecision}

private theorem finishLegReplacement_applied {outcome result}
    (pending : a.replacement = some replacement)
    (done : a.finishLegReplacement atTime (a.deadlines.get .transfer).generation
      replacement.pendingBindingGeneration outcome = .ok result) :
    result.disposition = .applied := by
  simp only [finishLegReplacement, compareDeadlineGeneration, lt_irrefl, if_false, bind_eq_ok,
    Except.ok.injEq, exists_eq_left', pending, exists_unit, pure_eq_ok] at done
  obtain ⟨-, -, -, _, -, rfl⟩ := done
  rfl

private theorem decide_connected (valid : a.Valid) (pending : a.replacement = some replacement)
    (done : a.decide (.finishLegReplacement atTime supplied replacement.pendingBindingGeneration
      .connected) = .ok decision) :
    if supplied = (a.deadlines.get .transfer).generation then
      decision.disposition = .applied ∧ ∃ leg, decision.aggregate.leg replacement.legId = some leg ∧
        leg.bindingGeneration = replacement.pendingBindingGeneration
    else decision.aggregate = a := by
  have later := validate_iff.mp (decide_valid done)
  simp only [decide, applyCommand, bind_eq_ok, exists_unit, pure_eq_ok] at done
  obtain ⟨_, ran, next, advanced, -, rfl⟩ := done
  obtain ⟨_, other, rfl⟩ | ⟨slot, _, _, guard, rfl, rfl⟩ := finishLegReplacement_cases ran
  · rw [if_neg (by exact other), pure_eq_ok] at advanced
    rw [if_neg, ← advanced]
    · rfl
    · rintro rfl
      exact other (finishLegReplacement_applied pending ran)
  · cases pending.symm.trans guard.pending
    have leg : next.legAt slot = settledLeg (a.legAt slot) atTime replacement .connected := by
      rw [if_pos (show (applied _).disposition = .applied from rfl)] at advanced
      simp only [bind_eq_ok, pure_eq_ok] at advanced
      obtain ⟨_, -, rfl⟩ := advanced
      cases slot <;>
      · rw [Draft.setState, setCallState]
        split <;> rfl
    rw [if_pos guard.current]
    refine ⟨rfl, _, (leg_eq_some_iff later.distinct _ _).mpr ⟨slot, leg, ?_⟩, rfl⟩
    exact (valid.legIndex_iff _ slot).mp guard.found

end Bridgefu.CallEngine.CallAggregate

namespace Bridgefu.Persistence

open Lib CallEngine CallService Table

/-- The promotion of a connection, from the ledger before the command to the one after it: the
connection is new or stands by for the pending generation, it is what the leg is bound to, the
previous one is retired and no connection has two keys. -/
structure Promoted [Libraries] (start : MemoryState) (before after : Ledger) (callId : CallId)
    (promotion : ReplacementConnectionPromotion) : Prop where
  source : (∀ earlier operations key, Reachable earlier → Run earlier operations start →
      ¬ earlier.ledger.Holds promotion.connectionId key) ∨
    ∃ token row standby, before.attachments.get? token = some row ∧
      row.binding = some standby ∧ standby.connectionId = promotion.connectionId ∧
      row.callId = callId ∧ row.legId = promotion.legId ∧
      row.bindingGeneration = promotion.pendingBindingGeneration ∧
      row.purpose = .providerMedia ∧ row.revokedAt = none
  live : ∃ call binding leg, after.calls.get? callId = some call ∧
    call.bindings.get? promotion.legId = some binding ∧
    binding.connectionId = promotion.connectionId ∧
    binding.bindingGeneration = promotion.pendingBindingGeneration ∧
    call.aggregate.leg promotion.legId = some leg ∧
    leg.bindingGeneration = promotion.pendingBindingGeneration
  unbound : ∀ key, ¬ after.Bound promotion.previousConnectionId key
  released : after.connectionOwners.get? promotion.previousConnectionId = none
  unique : ∀ connectionId key other, after.Holds connectionId key →
    after.Holds connectionId other → other = key

variable {state next : MemoryState} {request : ServiceCommandTransaction} {ids : EffectSupply}
  {view : ServiceCommandView} {promotion : ReplacementConnectionPromotion}

namespace MemoryState

private theorem normalizeServiceCommand_different [Libraries] {given}
    (normalized : normalizeServiceCommand given = .ok request)
    (promotes : request.replacementConnection = some promotion) :
    promotion.previousConnectionId ≠ promotion.connectionId := by
  simp only [normalizeServiceCommand, bind_eq_ok, exists_unit, pure_eq_ok, reject_eq_ok]
    at normalized
  obtain ⟨-, -, -, -, distinct, -, -, rfl⟩ := normalized
  rw [show given.replacementConnection = _ from promotes] at distinct
  simp only [Option.any_some, decide_eq_true_eq, not_or] at distinct
  exact distinct.2.2.1

private theorem connectedReplacement_eq_some {command pending}
    (connected : connectedReplacement command = some pending) : ∃ supplied, command =
      .finishLegReplacement command.atTime supplied pending .connected := by
  unfold connectedReplacement at connected
  split at connected <;> cases connected
  exact ⟨_, rfl⟩

end MemoryState

private theorem Ledger.Accepts.retires {ledger : Ledger} {c legId previous leg}
    (accepts : ledger.Accepts c) (binding : ConnectionBinding) (one : ledger.OneBinding)
    (isApplied : c.decision.disposition = .applied)
    (bound : c.call.bindings.get? legId = some previous)
    (follows : c.decision.aggregate.leg legId = some leg)
    (newer : previous.bindingGeneration ≠ leg.bindingGeneration)
    (other : previous.connectionId ≠ binding.connectionId) :
    (ledger.promote c legId binding).connectionOwners.get? previous.connectionId = none ∧
      ∀ key, ledger.Bound previous.connectionId key →
        ¬ (ledger.promote c legId binding).Bound previous.connectionId key := by
  have carries : Carries c.call.bindings previous.connectionId
    (c.request.callId, legId, previous.bindingGeneration) := ⟨previous, bound, rfl, rfl⟩
  constructor
  · refine (get?_insert_ne _ _ other).trans
      ((Commit.swept_or_carries accepts one rfl carries).resolve_left ?_)
    rintro ⟨_, stays, -, generation⟩
    rw [Commit.bindings, if_pos isApplied, get?_filter, Option.filter_eq_some_iff,
      bindingRetained, follows, Option.any_some, Bool.and_eq_true, decide_eq_true_eq] at stays
    exact newer (generation.symm.trans stays.2.1.symm)
  · intro key held again
    cases one.unique _ _ key (.bound ((bound_iff accepts.found rfl).mpr carries)) (.bound held)
    obtain ⟨call, _, found, row, same, -⟩ := again
    cases (get?_insert_self ..).symm.trans found
    cases (get?_insert_self ..).symm.trans row
    exact other same.symm

open MemoryState in
/-- The promotion of a replacement connection retires the previous one exactly when the command
answers the transfer deadline that runs. -/
theorem promotion_settles_iff [Libraries] {start permits given allowMediaActivity}
    (reachable : Reachable start) (within : LedgerPath permits start.ledger state.ledger)
    (unused : state.ledger.Unused ids) (normalized : normalizeServiceCommand given = .ok request)
    (promotes : request.replacementConnection = some promotion)
    (done : commitServiceCommandInState ids state request allowMediaActivity =
      .ok (next, .committed view)) :
    Promoted start state.ledger next.ledger request.command.callId promotion ↔
      CallAggregate.answeredDeadline request.command.command =
        (state.ledger.calls.get? request.command.callId).map fun call =>
          (call.aggregate.deadlines.get .transfer).generation := by
  have before : state.ledger.Connected :=
    within.keeps _ (fun _ _ kept step => kept.step step) (.of_reachable reachable)
  have may : MayCommit (Operation.commitWithEffectPayloads given).permits request :=
    normalizeServiceCommand_mayCommit ⟨rfl, List.Mem.head _⟩ id normalized
  have after : next.ledger.Connected := (commitServiceCommandInState_path unused may done).path.keeps
    _ (fun _ _ kept step => kept.step step) before
  simp only [commitServiceCommandInState, bind_eq_ok, exists_unit] at done
  obtain ⟨-, replay, looked, done⟩ := done
  rw [← replayServiceOperation_ledger looked] at before unused within ⊢
  split at done
  · cases done
  obtain ⟨-, _, replayed⟩ | ⟨c, _, _, sameRequest, unattached, accepts, validated, -, -, ledger,
    ⟨none, -⟩ | ⟨other, same, rfl⟩⟩ := commitUnclaimedServiceCommand_ledger unused done
  · cases replayed
  · cases none.symm.trans promotes
  cases promotes.symm.trans same
  obtain ⟨finishes, installs⟩ := validateReplacementConnection_promotes may accepts sameRequest
    unattached promotes validated
  obtain ⟨call, replacement, previous, found, pending, sameLeg, samePending, bound, -, isPrevious,
    source⟩ := validateReplacementConnection_ok promotes validated
  have sameCall : c.call = call := by
    have row := accepts.found
    rw [sameRequest] at row
    exact Option.some.inj (row.symm.trans found)
  obtain ⟨old, leg, replaced, named, own, newer⟩ :=
    installs.generations finishes accepts before.valid
  rw [sameCall] at replaced named
  cases bound.symm.trans replaced
  obtain ⟨supplied, command⟩ := connectedReplacement_eq_some (may.connected promotion promotes)
  have outcome := accepts.decided
  rw [sameRequest, sameCall, command, ← samePending] at outcome
  replace outcome := CallAggregate.decide_connected (before.valid _ _ found) pending outcome
  rw [sameLeg, samePending] at outcome
  have placed : next.ledger.calls.get? request.command.callId = some (c.promoted promotion.legId
      (ReplacementConnectionPromotion.binding promotion request.command.atTime)) := by
    rw [ledger, ← sameRequest]
    exact get?_insert_self ..
  rw [command, CallAggregate.answeredDeadline, found, Option.map_some, Option.some.injEq]
  split at outcome
  · rename_i current
    obtain ⟨isApplied, later, follows, generation⟩ := outcome
    have different := normalizeServiceCommand_different normalized promotes
    have retires := accepts.retires (ReplacementConnectionPromotion.binding promotion
      request.command.atTime) before.one isApplied (sameCall ▸ bound) follows
      (by rw [generation, ← own]; exact newer.ne) (isPrevious ▸ different)
    rw [isPrevious] at retires
    refine iff_of_true ⟨source.imp (fun fresh earlier operations key reached run held => ?_)
      And.right, ⟨_, _, later, placed, get?_insert_self .., rfl, rfl, follows, generation⟩,
      fun key again => ?_, ledger ▸ retires.1, after.one.unique⟩ current
    · have keyed := run.keeps (fun ledger => ledger.Keyed promotion.connectionId key)
        (fun _ _ _ keyed step => keyed.step step) (.of_holds (.of_reachable reached) held)
      have used := (within.keeps (fun ledger => ledger.Keyed promotion.connectionId key)
        (fun _ _ keyed step => keyed.step step) keyed).used
      cases fresh.1.symm.trans used
    · rw [ledger] at again
      obtain ⟨steps, -⟩ := installs.connections finishes accepts before.valid before.one
      rcases steps.bound _ _ again with held | join
      · exact retires.2 key held again
      · exact different (congrArg Prod.fst (Option.some.inj join)).symm
  · rename_i stale
    refine iff_of_false (fun promoted => ?_) stale
    obtain ⟨call', _, leg', found', -, -, -, named', generation⟩ := promoted.live
    cases placed.symm.trans found'
    rw [Commit.promoted, Commit.stored, outcome] at named'
    cases named.symm.trans named'
    exact newer.ne generation

namespace Sample

attribute [local instance] libraries

def service (version : Nat) (command : CallCommand) : ServiceCommandTransaction :=
  ⟨commit version command, [], none, none, none, none⟩

/-- A connected caller is about to be replaced by way of the provider. -/
def replacing : MemoryState :=
  .after (plannedCall ++ [joining, callerReports 2 .connected 3,
    .commitWithEffectPayloads (service 3 (.setLegState 4 calleeId 1 .signaling none)),
    .commitWithEffectPayloads (service 4 (.setLegState 4 calleeId 1 .connected none)),
    .commitWithEffectPayloads { service 5 (.beginLegReplacement 5 callerId .telnyx 20) with
      effectPayloads := [⟨2, .legReplacement callerId 1 2 plan.right.endpoint none "route"
        (some ⟨"route", none, [⟨.destination, .telnyx, "account", "".pushn '0' 64⟩], none⟩) ⟨7⟩⟩] }])

/-- The new connection of the caller, for a deadline of the given generation. -/
def succession (deadlineGeneration : Nat) : ServiceCommandTransaction :=
  { service 6 (.finishLegReplacement 6 deadlineGeneration 2 .connected) with
    replacementConnection := some ⟨⟨"connection"⟩, ⟨"successor"⟩, callerId, 1, 2, .sip, ⟨7⟩⟩ }

/-- The state once the succession is committed, not replayed. -/
def succeeded (deadlineGeneration : Nat) : Option MemoryState :=
  match MemoryState.commitServiceCommandInState replacing.nextEffects replacing
    (succession deadlineGeneration) false with
  | .ok (next, .committed _) => some next
  | _ => none

private theorem replacing_reachable : Reachable replacing :=
    ⟨_, MemoryState.after_run (by decide +kernel)⟩

/-- The result for a deadline that no longer runs is committed and installs the new connection,
while the leg stays at its generation and the old connection keeps its owner. -/
theorem stale_answer_promotes : Reachable replacing ∧
    normalizeServiceCommand (succession 0) = .ok (succession 0) ∧
    (succeeded 0).any fun next =>
      (next.calls.get? callId).any (fun call => call.aggregate.left.bindingGeneration = 1 ∧
        (call.bindings.get? callerId).any fun binding => binding.bindingGeneration = 2) ∧
      next.connectionOwners.get? ⟨"connection"⟩ = some (callId, callerId, 1) :=
  ⟨replacing_reachable, rfl, by decide +kernel⟩

/-- The result for the deadline that runs retires the old connection. -/
theorem promotion_settles_current : ∃ next, succeeded 1 = some next ∧
    Promoted replacing replacing.ledger next.ledger callId
      ⟨⟨"connection"⟩, ⟨"successor"⟩, callerId, 1, 2, .sip, ⟨7⟩⟩ := by
  obtain ⟨next, done⟩ := Option.isSome_iff_exists.mp (show (succeeded 1).isSome by decide +kernel)
  refine ⟨next, done, ?_⟩
  unfold succeeded at done
  split at done <;> cases done
  rename_i committed
  have fresh := replacing.nextEffects_fresh
  have within : LedgerPath joining.permits replacing.ledger replacing.ledger := .refl
  have normal : normalizeServiceCommand (succession 1) = .ok (succession 1) := rfl
  exact (promotion_settles_iff replacing_reachable within ⟨fresh.injective, fresh.outbox⟩ normal rfl
    committed).mpr (by decide +kernel)

end Sample

end Bridgefu.Persistence
