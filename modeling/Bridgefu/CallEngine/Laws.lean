/- digest: What a decided command can do: identity kept, version advanced, deadlines traced. -/

import Bridgefu.CallEngine.Inversion

/-!
One description of a decision serves every later argument. An ignored command leaves the
aggregate alone. An applied one keeps the identities of the call and of its legs, advances the
version by one, and its effects account for every change of a deadline slot.
-/

set_option autoImplicit false

namespace Bridgefu.CallEngine

open Lib
open CallAggregate (decide setCallState)

structure SameLeg (before after : Leg) : Prop where
  id : after.id = before.id
  direction : after.direction = before.direction
  initiator : after.storedSignalingInitiator = before.storedSignalingInitiator
  mediaFlow : after.mediaFlow = before.mediaFlow
  createdAt : after.createdAt = before.createdAt

structure SameCall (before after : CallAggregate) : Prop where
  id : after.id = before.id
  tenantId : after.tenantId = before.tenantId
  createdAt : after.createdAt = before.createdAt
  left : SameLeg before.left after.left
  right : SameLeg before.right after.right

theorem SameLeg.refl (leg : Leg) : SameLeg leg leg := ⟨rfl, rfl, rfl, rfl, rfl⟩

theorem SameLeg.trans {first second third} (one : SameLeg first second)
    (two : SameLeg second third) : SameLeg first third :=
  ⟨two.id.trans one.id, two.direction.trans one.direction, two.initiator.trans one.initiator,
    two.mediaFlow.trans one.mediaFlow, two.createdAt.trans one.createdAt⟩

theorem SameCall.refl (a : CallAggregate) : SameCall a a := ⟨rfl, rfl, rfl, .refl _, .refl _⟩

theorem SameCall.trans {first second third} (one : SameCall first second)
    (two : SameCall second third) : SameCall first third :=
  ⟨two.id.trans one.id, two.tenantId.trans one.tenantId, two.createdAt.trans one.createdAt,
    one.left.trans two.left, one.right.trans two.right⟩

section

variable (a : CallAggregate)
include a

@[simp] theorem legAt_setLeg (slot other : LegSlot) (leg : Leg) :
    (a.setLeg slot leg).legAt other = if other = slot then leg else a.legAt other := by
  cases slot <;> cases other <;> rfl

@[simp] theorem setLeg_version (slot : LegSlot) (leg : Leg) :
    (a.setLeg slot leg).version = a.version := by
  cases slot <;> rfl

@[simp] theorem setLeg_deadlines (slot : LegSlot) (leg : Leg) :
    (a.setLeg slot leg).deadlines = a.deadlines := by
  cases slot <;> rfl

@[simp] theorem setCallState_version (state : CallState) (atTime : Timestamp) :
    (a.setCallState state atTime).version = a.version := by
  unfold setCallState
  split <;> rfl

@[simp] theorem setCallState_deadlines (state : CallState) (atTime : Timestamp) :
    (a.setCallState state atTime).deadlines = a.deadlines := by
  unfold setCallState
  split <;> rfl

@[simp] theorem setCallState_state (state : CallState) (atTime : Timestamp) :
    (a.setCallState state atTime).state = state := by
  unfold setCallState
  split
  · rfl
  · simpa using ‹¬ a.state ≠ state›

private theorem SameCall.setLeg (slot : LegSlot) (leg : Leg) (same : SameLeg (a.legAt slot) leg) :
    SameCall a (a.setLeg slot leg) := by
  cases slot with
  | left => exact ⟨rfl, rfl, rfl, same, .refl _⟩
  | right => exact ⟨rfl, rfl, rfl, .refl _, same⟩

private theorem SameCall.setCallState (state : CallState) (atTime : Timestamp) :
    SameCall a (a.setCallState state atTime) := by
  unfold CallAggregate.setCallState
  split
  · exact ⟨rfl, rfl, rfl, .refl _, .refl _⟩
  · exact .refl a

end

/-- The slots after one effect, if the effect agrees with them: a deadline is scheduled on an
idle slot under the next generation, and cancelled on an armed slot under its generation. -/
def deadlineEffect (slots : CallDeadlines) : EffectIntent → Option CallDeadlines
  | .scheduleDeadline kind generation dueAt =>
    if (slots.get kind).dueAt = none ∧ generation = (slots.get kind).generation + 1
    then some (slots.set kind ⟨generation, some dueAt⟩) else none
  | .cancelDeadline kind generation =>
    if (slots.get kind).dueAt.isSome ∧ generation = (slots.get kind).generation
    then some (slots.set kind ⟨generation, none⟩) else none
  | _ => some slots

/-- The effects account for the whole change from one set of slots to the other. -/
def DeadlineTrace (slots : CallDeadlines) (effects : List EffectIntent) (next : CallDeadlines) :
    Prop :=
  effects.foldlM deadlineEffect slots = some next

private theorem DeadlineTrace.nil (slots : CallDeadlines) : DeadlineTrace slots [] slots := rfl

private theorem DeadlineTrace.snoc {slots middle last effects effect}
    (trace : DeadlineTrace slots effects middle) (step : deadlineEffect middle effect = some last) :
    DeadlineTrace slots (effects ++ [effect]) last := by
  unfold DeadlineTrace at trace ⊢
  rw [List.foldlM_append, trace]
  simpa using step

private theorem DeadlineTrace.append {slots middle last effects more}
    (trace : DeadlineTrace slots effects middle) (later : DeadlineTrace middle more last) :
    DeadlineTrace slots (effects ++ more) last := by
  unfold DeadlineTrace at trace later ⊢
  rw [List.foldlM_append, trace]
  exact later

/-- Slots from which the effects of a command count: a deadline that fires is cleared first. -/
def firedSlots (a : CallAggregate) : CallCommand → CallDeadlines
  | .deadlineElapsed _ kind _ _ =>
    a.deadlines.set kind ⟨(a.deadlines.get kind).generation, none⟩
  | _ => a.deadlines

/-- A draft of a command on the aggregate: same call, same version, deadlines accounted for. -/
structure Draft.Follows (slots : CallDeadlines) (a : CallAggregate) (d : Draft) : Prop where
  same : SameCall a d.aggregate
  version : d.aggregate.version = a.version
  trace : DeadlineTrace slots d.effects d.aggregate.deadlines

namespace Draft.Follows

variable {slots : CallDeadlines} {a : CallAggregate} {d : Draft}

private theorem start (a : CallAggregate) : Draft.Follows a.deadlines a ⟨a, []⟩ :=
  ⟨.refl a, rfl, .nil _⟩

variable (follows : Draft.Follows slots a d)
include follows

private theorem change {next effects} (same : SameCall d.aggregate next)
    (version : next.version = d.aggregate.version)
    (deadlines : next.deadlines = d.aggregate.deadlines)
    (quiet : ∀ effect ∈ effects, ∀ s, deadlineEffect s effect = some s) :
    Draft.Follows slots a ⟨next, d.effects ++ effects⟩ := by
  refine ⟨follows.same.trans same, version.trans follows.version, follows.trace.append ?_⟩
  rw [deadlines]
  induction effects with
  | nil => exact .nil _
  | cons _ _ ih =>
    have first := quiet _ (List.mem_cons_self) d.aggregate.deadlines
    have later := ih fun _ member => quiet _ (List.mem_cons_of_mem _ member)
    simpa [DeadlineTrace, first] using later

private theorem push {effect}
    (quiet : ∀ s, deadlineEffect s effect = some s := by exact fun _ => rfl) :
    Draft.Follows slots a (d.push effect) :=
  follows.change (.refl _) rfl rfl (by simpa using quiet)

private theorem update {next} (same : SameCall d.aggregate next)
    (version : next.version = d.aggregate.version)
    (deadlines : next.deadlines = d.aggregate.deadlines) :
    Draft.Follows slots a { d with aggregate := next } :=
  ⟨follows.same.trans same, version.trans follows.version, deadlines ▸ follows.trace⟩

private theorem setState (state : CallState) (atTime : Timestamp) :
    Draft.Follows slots a (d.setState state atTime) :=
  follows.update (.setCallState _ _ _) (setCallState_version ..) (setCallState_deadlines ..)

private theorem cancelDeadlineInternal (kind : DeadlineKind) :
    Draft.Follows slots a (d.cancelDeadlineInternal kind) := by
  unfold Draft.cancelDeadlineInternal
  simp only
  split
  · exact follows
  · rename_i dueAt armed
    refine ⟨follows.same.trans ⟨rfl, rfl, rfl, .refl _, .refl _⟩, follows.version, ?_⟩
    exact follows.trace.snoc (by simp [deadlineEffect, armed, setSlot, Draft.push])

end Draft.Follows

@[simp] theorem cancelDeadlineInternal_legAt (d : Draft) (kind : DeadlineKind) (slot : LegSlot) :
    (d.cancelDeadlineInternal kind).aggregate.legAt slot = d.aggregate.legAt slot := by
  unfold Draft.cancelDeadlineInternal
  simp only
  split
  · rfl
  · cases slot <;> rfl

namespace Draft.Follows

variable {slots : CallDeadlines} {a : CallAggregate} {d : Draft}

variable (follows : Draft.Follows slots a d)
include follows

private theorem armDeadlineInternal {kind dueAt armed}
    (done : d.armDeadlineInternal kind dueAt = .ok armed) : Draft.Follows slots a armed.2 := by
  simp only [Draft.armDeadlineInternal, bind_eq_ok, pure_eq_ok, nextDeadlineGeneration,
    nextGeneration_eq_ok] at done
  obtain ⟨_, ⟨-, rfl⟩, rfl⟩ := done
  have cleared := follows.cancelDeadlineInternal kind
  have idle : ((d.cancelDeadlineInternal kind).aggregate.deadlines.get kind).dueAt = none := by
    unfold Draft.cancelDeadlineInternal
    simp only
    split
    · assumption
    · simp [setSlot, Draft.push]
  refine ⟨cleared.same.trans ⟨rfl, rfl, rfl, .refl _, .refl _⟩, cleared.version, ?_⟩
  exact cleared.trace.snoc (by simp [deadlineEffect, idle, setSlot, Draft.push])

private theorem setOutcome (outcome : Option TerminalOutcome) : Draft.Follows slots a
      { d with aggregate := { d.aggregate with terminalOutcome := outcome } } :=
  follows.update ⟨rfl, rfl, rfl, .refl _, .refl _⟩ rfl rfl

private theorem finalizeTerminal (atTime : Timestamp) :
    Draft.Follows slots a (d.finalizeTerminal atTime) := by
  have cleared := (((follows.cancelDeadlineInternal .setup).cancelDeadlineInternal
    .media).cancelDeadlineInternal .transfer).cancelDeadlineInternal .ending
  unfold Draft.finalizeTerminal
  simp only
  split <;> exact (cleared.setOutcome _).setState _ atTime

private theorem stopLegIfUp (slot : LegSlot) (atTime : Timestamp) (reason : StopLegReason) :
    Draft.Follows slots a (d.stopLegIfUp slot atTime reason) := by
  unfold Draft.stopLegIfUp
  simp only
  split
  · exact follows.change (.setLeg _ _ _ ⟨rfl, rfl, rfl, rfl, rfl⟩) (setLeg_version ..)
      (setLeg_deadlines ..) (by simp [deadlineEffect])
  · exact follows

private theorem enterEnding (atTime : Timestamp) (outcome : TerminalOutcome)
    (reason : StopLegReason) : Draft.Follows slots a (d.enterEnding atTime outcome reason) := by
  have unbridged : Draft.Follows slots a d.unbridgeIfUp := by
    unfold unbridgeIfUp
    split
    · exact follows.push
    · exact follows
  have aborted : Draft.Follows slots a d.unbridgeIfUp.abortReplacement := by
    unfold abortReplacement
    split
    · exact unbridged.change ⟨rfl, rfl, rfl, .refl _, .refl _⟩ rfl rfl (by simp [deadlineEffect])
    · exact unbridged
  have cleared := ((aborted.cancelDeadlineInternal .setup).cancelDeadlineInternal
    .media).cancelDeadlineInternal .transfer
  exact (((cleared.setOutcome _).setState .ending atTime).stopLegIfUp .left _
    reason).stopLegIfUp .right _ reason

private theorem beginEndingInternal {atTime outcome reason endingDeadline result}
    (done : d.beginEndingInternal atTime outcome reason endingDeadline = .ok result) :
    Draft.Follows slots a result := by
  have stopped := follows.enterEnding atTime outcome reason
  unfold Draft.beginEndingInternal at done
  simp only at done
  split at done
  · cases done
    exact stopped.finalizeTerminal atTime
  · split at done
    · simp only [bind_eq_ok, pure_eq_ok] at done
      obtain ⟨_, scheduled, rfl⟩ := done
      exact stopped.armDeadlineInternal scheduled
    · cases done
      exact stopped

private theorem reconcileLegState {slot atTime result}
    (done : d.reconcileLegState slot atTime = .ok result) : Draft.Follows slots a result := by
  unfold Draft.reconcileLegState at done
  simp only at done
  split at done
  · cases done
    have active := (follows.cancelDeadlineInternal .setup).setState .active atTime
    exact active.push
  · split at done
    · have recorded : Draft.Follows slots a (d.recordFailure (d.aggregate.legAt slot)) := by
        unfold recordFailure
        split
        · exact follows.setOutcome _
        · exact follows
      split at done
      · cases done
        exact recorded.finalizeTerminal atTime
      · cases done
        exact recorded
    · split at done
      · exact follows.beginEndingInternal done
      · cases done
        exact follows

end Draft.Follows

/-- Either the command was ignored and nothing changed, or its draft follows the aggregate. -/
def CommandResult.Follows (slots : CallDeadlines) (a : CallAggregate) (result : CommandResult) :
    Prop :=
  (result.disposition ≠ .applied ∧ result.draft = ⟨a, []⟩) ∨
    (result.disposition = .applied ∧ Draft.Follows slots a result.draft)

private theorem CommandResult.Follows.of_ignored {slots a disposition}
    (other : disposition ≠ .applied) :
    CommandResult.Follows slots a (ignored a disposition) := .inl ⟨other, rfl⟩

private theorem CommandResult.Follows.of_applied {slots a d} (follows : Draft.Follows slots a d) :
    CommandResult.Follows slots a (applied d) :=
  .inr ⟨rfl, follows⟩

namespace CallAggregate

variable {a : CallAggregate} {result : CommandResult} {atTime : Timestamp}

private theorem Ignores.follows {slots} (ignores : Ignores a result) :
    CommandResult.Follows slots a result := by
  obtain ⟨_, other, rfl⟩ := ignores
  exact .of_ignored other

private theorem startLeg_same (leg : Leg) (atTime : Timestamp) :
    SameLeg leg (startLeg leg atTime).1 := by
  unfold startLeg
  split
  · exact ⟨rfl, rfl, rfl, rfl, rfl⟩
  · exact .refl leg

private theorem startLeg_quiet (leg : Leg) (atTime : Timestamp) (s : CallDeadlines) :
    deadlineEffect s (startLeg leg atTime).2 = some s := by
  unfold startLeg
  split <;> rfl

private theorem startConnecting_follows {setupDeadline}
    (done : a.startConnecting atTime setupDeadline = .ok result) :
    CommandResult.Follows a.deadlines a result := by
  obtain ⟨_, -, scheduled, rfl⟩ := startConnecting_cases done
  have moved := SameCall.setCallState a .connecting atTime
  refine .of_applied (Draft.Follows.armDeadlineInternal ?_ scheduled)
  have quiet : ∀ effect ∈ [(startLeg a.left atTime).2, (startLeg a.right atTime).2],
      ∀ slots, deadlineEffect slots effect = some slots := by
    simp [startLeg_quiet]
  exact (Draft.Follows.start a).change
    ⟨moved.id, moved.tenantId, moved.createdAt, startLeg_same _ _, startLeg_same _ _⟩
    (setCallState_version ..) (setCallState_deadlines ..) quiet

private theorem setLeg_follows (slot : LegSlot) {leg}
    (same : SameLeg (a.legAt slot) leg := by exact ⟨rfl, rfl, rfl, rfl, rfl⟩) :
    Draft.Follows a.deadlines a ⟨a.setLeg slot leg, []⟩ :=
  (Draft.Follows.start a).update (.setLeg a slot leg same) (setLeg_version ..) (setLeg_deadlines ..)

private theorem signalIfPending_same (leg : Leg) (atTime : Timestamp) :
    SameLeg leg (signalIfPending leg atTime) := by
  unfold signalIfPending
  split
  · exact ⟨rfl, rfl, rfl, rfl, rfl⟩
  · exact .refl leg

private theorem providerMediaAttached_follows {legId supplied}
    (done : a.providerMediaAttached atTime legId supplied = .ok result) :
    CommandResult.Follows a.deadlines a result := by
  obtain ⟨_, -, rfl⟩ | ⟨-, rfl⟩ := providerMediaAttached_cases done
  · exact .of_applied (setLeg_follows _ (signalIfPending_same _ atTime))
  · exact .of_applied (.start a)

private theorem beginLegReplacement_follows {legId pendingKind transferDeadline}
    (done : a.beginLegReplacement atTime legId pendingKind transferDeadline = .ok result) :
    CommandResult.Follows a.deadlines a result := by
  obtain ⟨slot, armed, -, scheduled, rfl⟩ := beginLegReplacement_cases done
  have rearmed : Draft.Follows a.deadlines a armed.2 :=
    ((setLeg_follows slot).setState .transferring atTime).push.armDeadlineInternal scheduled
  refine .of_applied (rearmed.change ⟨rfl, rfl, rfl, .refl _, .refl _⟩ rfl rfl ?_)
  simp [deadlineEffect]

private theorem finishTransfer_follows {supplied outcome}
    (done : a.finishTransfer atTime supplied outcome = .ok result) :
    CommandResult.Follows a.deadlines a result := by
  obtain ignores | ⟨-, rfl⟩ := finishTransfer_cases done
  · exact ignores.follows
  · have cleared := (Draft.Follows.start a).cancelDeadlineInternal .transfer
    refine .of_applied (Draft.Follows.setState ?_ .active atTime)
    cases outcome with
    | rejected => exact cleared.push
    | completed => exact cleared

private theorem settledLeg_same (leg : Leg) (atTime : Timestamp) (replacement : LegReplacement)
    (outcome : LegReplacementResult) :
    SameLeg leg (settledLeg leg atTime replacement outcome) := by
  cases outcome <;> exact ⟨rfl, rfl, rfl, rfl, rfl⟩

private theorem settledEffect_quiet (replacement : LegReplacement) (outcome : LegReplacementResult)
    (s : CallDeadlines) : deadlineEffect s (settledEffect replacement outcome) = some s := by
  cases outcome <;> rfl

variable {suppliedDeadline suppliedBinding : Nat} {outcome : LegReplacementResult}
  {command : CallCommand} {decision : CallDecision}

private theorem finishLegReplacement_follows
    (done : a.finishLegReplacement atTime suppliedDeadline suppliedBinding outcome = .ok result) :
    CommandResult.Follows a.deadlines a result := by
  obtain ignores | ⟨slot, replacement, _, -, rfl, rfl⟩ := finishLegReplacement_cases done
  · exact ignores.follows
  · have cleared := (Draft.Follows.start a).cancelDeadlineInternal .transfer
    have dropped : Draft.Follows a.deadlines a
        (a.settledReplacement atTime slot replacement outcome) := by
      refine cleared.change (.trans (.setLeg _ _ _ ?_) ⟨rfl, rfl, rfl, .refl _, .refl _⟩)
        (setLeg_version ..) (setLeg_deadlines ..) (by simp [settledEffect_quiet])
      rw [cancelDeadlineInternal_legAt]
      exact settledLeg_same ..
    exact .of_applied (dropped.setState .active atTime).push

private theorem failUnfinished_same (leg : Leg) (atTime : Timestamp) :
    SameLeg leg (failUnfinished leg atTime) := by
  unfold failUnfinished
  split
  · exact .refl leg
  · exact ⟨rfl, rfl, rfl, rfl, rfl⟩

private theorem deadlineElapsed_follows {kind supplied endingDeadline}
    (done : a.deadlineElapsed atTime kind supplied endingDeadline = .ok result) :
    CommandResult.Follows (a.deadlines.set kind ⟨(a.deadlines.get kind).generation, none⟩) a
      result := by
  have fired : Draft.Follows (a.deadlines.set kind ⟨(a.deadlines.get kind).generation, none⟩) a
      (a.firedDraft kind) := ⟨⟨rfl, rfl, rfl, .refl _, .refl _⟩, rfl, .nil _⟩
  obtain ⟨ignores, -⟩ | ⟨-, ⟨rfl, rfl⟩ | ⟨slot, _, rfl, -, -, rfl⟩ |
    ⟨_, -, -, ended, rfl⟩⟩ := deadlineElapsed_cases done
  · exact ignores.follows
  · refine .of_applied (Draft.Follows.finalizeTerminal ?_ atTime)
    exact fired.update
      ⟨rfl, rfl, rfl, failUnfinished_same _ _, failUnfinished_same _ _⟩ rfl rfl
  · have same : SameCall (a.firedDraft .transfer).aggregate (a.restoredCall atTime slot) := by
      refine (SameCall.trans ?_ (.setLeg _ _ _ ?_)).trans (.setCallState _ _ _)
      · exact ⟨rfl, rfl, rfl, .refl _, .refl _⟩
      · cases slot <;> exact ⟨rfl, rfl, rfl, rfl, rfl⟩
    have restored := fired.update same (by simp [restoredCall]) (by simp [restoredCall])
    exact .of_applied restored.push.push
  · refine .of_applied (Draft.Follows.beginEndingInternal ?_ ended)
    unfold timeoutDraft
    split
    · exact fired.push
    · exact fired

theorem applyCommand_follows (done : a.applyCommand command = .ok result) :
    CommandResult.Follows (firedSlots a command) a result := by
  cases command with
  | startConnecting => exact startConnecting_follows done
  | setLegState =>
    obtain ignores | ⟨slot, draft, -, reconciled, rfl⟩ := setLegState_cases done
    · exact ignores.follows
    · exact .of_applied ((setLeg_follows slot).reconcileLegState reconciled)
  | sourceTerminatedBeforeAnswer =>
    obtain ignores | ⟨slot, draft, -, reconciled, rfl⟩ :=
      sourceTerminatedBeforeAnswer_cases done
    · exact ignores.follows
    · exact .of_applied ((setLeg_follows slot).reconcileLegState reconciled)
  | providerMediaStarted =>
    obtain ignores | ⟨slot, -, rfl⟩ := providerMediaStarted_cases done
    · exact ignores.follows
    · exact .of_applied (setLeg_follows _ (signalIfPending_same _ _)).push
  | providerMediaAttached => exact providerMediaAttached_follows done
  | rotateLegBinding =>
    obtain ignores | ⟨slot, -, rfl⟩ := rotateLegBinding_cases done
    · exact ignores.follows
    · exact .of_applied (setLeg_follows slot).push
  | armDeadline =>
    obtain ⟨armed, -, scheduled, rfl⟩ := armDeadlineCommand_cases done
    exact .of_applied ((Draft.Follows.start a).armDeadlineInternal scheduled)
  | beginTransfer t =>
    obtain ⟨armed, -, scheduled, rfl⟩ := beginTransfer_cases done
    have moved := (Draft.Follows.start a).setState .transferring t
    exact .of_applied (moved.armDeadlineInternal scheduled).push
  | beginLegReplacement => exact beginLegReplacement_follows done
  | finishTransfer => exact finishTransfer_follows done
  | finishLegReplacement => exact finishLegReplacement_follows done
  | beginEnding =>
    obtain ignores | ⟨draft, -, ended, rfl⟩ := beginEndingCommand_cases done
    · exact ignores.follows
    · exact .of_applied ((Draft.Follows.start a).beginEndingInternal ended)
  | deadlineElapsed => exact deadlineElapsed_follows done

/-- What a decision can do. -/
inductive Decided (a : CallAggregate) (command : CallCommand) (decision : CallDecision) : Prop
  | ignored (other : decision.disposition ≠ .applied) (same : decision.aggregate = a)
      (quiet : decision.effects = [])
  | applied (disposition : decision.disposition = .applied)
      (same : SameCall a decision.aggregate)
      (version : decision.aggregate.version = a.version + 1)
      (updatedAt : decision.aggregate.updatedAt = command.atTime)
      (trace : DeadlineTrace (firedSlots a command) decision.effects decision.aggregate.deadlines)

theorem decide_decided (done : a.decide command = .ok decision) : Decided a command decision := by
  simp only [decide, bind_eq_ok, exists_unit, pure_eq_ok] at done
  obtain ⟨_, ran, _, advanced, -, rfl⟩ := done
  obtain ⟨other, same⟩ | ⟨isApplied, follows⟩ := applyCommand_follows ran
  · rw [if_neg other, pure_eq_ok, same] at advanced
    subst advanced
    exact .ignored other rfl (by rw [same])
  · rw [if_pos isApplied] at advanced
    simp only [bind_eq_ok, pure_eq_ok, nextVersion, nextGeneration_eq_ok] at advanced
    obtain ⟨version, ⟨-, rfl⟩, rfl⟩ := advanced
    have same := follows.same
    exact .applied isApplied ⟨same.id, same.tenantId, same.createdAt, same.left, same.right⟩
      (by simp [follows.version]) rfl follows.trace

private theorem transferring_of_replacement (valid : a.validate = .ok ())
    (pending : a.replacement ≠ none) : a.state = .transferring := by
  simp only [validate, bind_eq_ok, exists_unit, reject_eq_ok] at valid
  obtain ⟨-, -, -, -, -, -, settled, -⟩ := valid
  by_contra other
  exact settled ⟨other, pending⟩

theorem decide_valid (done : a.decide command = .ok decision) :
    decision.aggregate.validate = .ok () := by
  simp only [decide, bind_eq_ok, exists_unit, pure_eq_ok] at done
  obtain ⟨_, -, _, -, valid, rfl⟩ := done
  exact valid

private theorem finishLegReplacement_active
    (done : a.finishLegReplacement atTime suppliedDeadline suppliedBinding outcome = .ok result)
    (isApplied : result.disposition = .applied) : result.draft.aggregate.state = .active := by
  obtain ⟨_, other, rfl⟩ | ⟨_, _, _, -, rfl, rfl⟩ :=
    finishLegReplacement_cases done
  · exact absurd isApplied other
  · simp [applied, Draft.push, Draft.setState]

theorem decide_finishLegReplacement_goesOn (pending : a.replacement ≠ none)
    (done : a.decide (.finishLegReplacement atTime suppliedDeadline suppliedBinding outcome) =
      .ok decision) : decision.aggregate.state.isTerminal = false := by
  have valid := decide_valid done
  simp only [decide, bind_eq_ok, exists_unit, pure_eq_ok] at done
  obtain ⟨result, ran, _, advanced, -, rfl⟩ := done
  by_cases isApplied : result.disposition = .applied
  · have active := finishLegReplacement_active ran isApplied
    rw [if_pos isApplied] at advanced
    simp only [bind_eq_ok, pure_eq_ok] at advanced
    obtain ⟨_, -, rfl⟩ := advanced
    simp [active, CallState.isTerminal]
  · obtain ⟨-, same⟩ | ⟨impossible, -⟩ := applyCommand_follows ran
    · rw [if_neg isApplied, pure_eq_ok, same] at advanced
      subst advanced
      have transferring : a.state = .transferring := transferring_of_replacement valid pending
      simp [transferring, CallState.isTerminal]
    · exact absurd impossible isApplied

end CallAggregate

end Bridgefu.CallEngine
