/- digest: Starts and stops of legs: one stop per leg and generation, and no start during teardown. -/

import Bridgefu.CallEngine.Lifecycle

set_option autoImplicit false

namespace Bridgefu.CallEngine

open Lib CallAggregate LegState
open CallCore hiding settle state

variable {c : CallCore} {leg : Leg} {command : CallCommand} {a : CallAggregate}
  {sent : List EffectIntent}

namespace EffectIntent

/-- Does the effect stop the given generation of a leg? -/
def stops (legId : LegId) (generation : Nat) : EffectIntent → Bool
  | .stopLeg stopped current _ => decide (stopped = legId ∧ current = generation)
  | _ => false

def startsLeg : EffectIntent → Bool
  | .startLeg .. | .awaitLegAttachment .. | .startLegReplacement .. => true
  | _ => false

end EffectIntent

def stopCount (effects : List EffectIntent) (legId : LegId) (generation : Nat) : Nat :=
  effects.countP (EffectIntent.stops legId generation)

def CallCommand.reportedState (command : CallCommand) (leg : Leg) : LegState :=
  match command with
  | .setLegState _ legId _ state _ => if leg.id = legId then state else leg.state
  | .sourceTerminatedBeforeAnswer _ legId _ reason =>
    if leg.id = legId then (if reason = .failed then .failed else .ended) else leg.state
  | _ => leg.state

@[simp] theorem stopCount_nil (legId : LegId) (generation : Nat) :
    stopCount [] legId generation = 0 := rfl

@[simp] theorem stopCount_append (first second : List EffectIntent) (legId : LegId)
    (generation : Nat) :
    stopCount (first ++ second) legId generation =
      stopCount first legId generation + stopCount second legId generation :=
  List.countP_append

private theorem stopCount_signals (effects : List EffectIntent) (legId : LegId) (generation : Nat) :
    stopCount (signals effects) legId generation = stopCount effects legId generation := by
  unfold stopCount signals
  rw [List.countP_filter]
  refine List.countP_congr fun effect _ => ?_
  cases effect <;> simp [EffectIntent.stops, EffectIntent.isDeadline]

private theorem stopCount_stopSignals (leg : Leg) (reason : StopLegReason) (legId : LegId)
    (generation : Nat) :
    stopCount (stopSignals leg reason) legId generation =
      if leg.state.isUp = true ∧ leg.id = legId ∧ leg.bindingGeneration = generation then 1
      else 0 := by
  unfold stopSignals
  by_cases up : leg.state.isUp = true
  · simp [up, stopCount, EffectIntent.stops]
  · simp [up]

namespace CallCore

theorem forall_endingSignals {P : EffectIntent → Prop} (unbridges : P c.unbridgeSignal)
    (aborts : ∀ legId generation, P (.abortLegReplacement legId generation))
    (stops : ∀ legId generation reason, P (.stopLeg legId generation reason))
    (reason : StopLegReason) : ∀ effect ∈ c.endingSignals reason, P effect := by
  intro _ member
  simp only [endingSignals, unbridgeSignals, abortSignals, stopSignals, List.mem_append] at member
  obtain ((member | member) | member) | member := member <;> split at member <;>
    simp only [List.mem_singleton, List.not_mem_nil] at member <;> subst member
  exacts [unbridges, aborts _ _, stops _ _ _, stops _ _ _]

private theorem stopCount_endingSignals (c : CallCore) (reason : StopLegReason) (legId : LegId)
    (generation : Nat) :
    stopCount (c.endingSignals reason) legId generation =
      stopCount (stopSignals c.left reason) legId generation +
        stopCount (stopSignals c.right reason) legId generation := by
  have unbridges : stopCount c.unbridgeSignals legId generation = 0 := by
    unfold unbridgeSignals
    split <;> rfl
  have aborts : stopCount c.abortSignals legId generation = 0 := by
    unfold abortSignals
    split <;> rfl
  simp [endingSignals, unbridges, aborts]

private theorem stopCount_endingSignals_eq {a : CallAggregate} (valid : a.Valid)
    (ids : ∀ slot, (c.legAt slot).id = (a.legAt slot).id) (reason : StopLegReason)
    (slot : LegSlot) (generation : Nat) :
    stopCount (c.endingSignals reason) (a.legAt slot).id generation =
      if (c.legAt slot).state.isUp = true ∧ (c.legAt slot).bindingGeneration = generation then 1
      else 0 := by
  have distinct : c.left.id ≠ c.right.id := by
    have left := ids .left
    have right := ids .right
    simp only [legAt] at left right
    rw [left, right]
    exact valid.distinct
  rw [← ids, stopCount_endingSignals, stopCount_stopSignals, stopCount_stopSignals]
  cases slot with
  | left => by_cases up : c.left.state.isUp = true <;> simp [legAt, distinct.symm, up]
  | right => by_cases up : c.right.state.isUp = true <;> simp [legAt, distinct, up]

end CallCore

/-- The generations of a leg only grow, and within its generation a leg that goes down stays
down. -/
structure LegAdvances (before after : Leg) : Prop where
  id : after.id = before.id
  generation : before.bindingGeneration ≤ after.bindingGeneration
  cursor : before.replacementGenerationCursor ≤ after.replacementGenerationCursor
  down : after.bindingGeneration = before.bindingGeneration → before.state.isUp = false →
    after.state.isUp = false

namespace LegAdvances

theorem refl (leg : Leg) : LegAdvances leg leg :=
  ⟨rfl, Nat.le_refl _, Nat.le_refl _, fun _ down => down⟩

theorem trans {first second third} (one : LegAdvances first second)
    (two : LegAdvances second third) : LegAdvances first third := by
  refine ⟨two.id.trans one.id, Nat.le_trans one.generation two.generation,
    Nat.le_trans one.cursor two.cursor, fun same down => ?_⟩
  have middle : second.bindingGeneration = first.bindingGeneration := by
    have low := one.generation
    have high := two.generation
    omega
  exact two.down (same.trans middle.symm) (one.down middle down)

end LegAdvances

/-- A leg that advances, and changes its kind only with its generation. -/
structure LegSucceeds (before after : Leg) : Prop extends LegAdvances before after where
  kind : after.bindingGeneration = before.bindingGeneration → after.kind = before.kind

namespace LegSucceeds

theorem refl (leg : Leg) : LegSucceeds leg leg := ⟨.refl leg, fun _ => rfl⟩

theorem trans {first second third} (one : LegSucceeds first second)
    (two : LegSucceeds second third) : LegSucceeds first third := by
  refine ⟨one.toLegAdvances.trans two.toLegAdvances, fun _ => ?_⟩
  have low := one.generation
  have high := two.generation
  exact (two.kind (by omega)).trans (one.kind (by omega))

private theorem restate {after} (id : after.id = leg.id)
    (same : after.bindingGeneration = leg.bindingGeneration)
    (stored : after.storedReplacementCursor = leg.storedReplacementCursor)
    (kind : after.kind = leg.kind)
    (down : leg.state.isUp = false → after.state.isUp = false) : LegSucceeds leg after where
  id := id
  generation := Nat.le_of_eq same.symm
  cursor := by simp [Leg.replacementGenerationCursor, same, stored]
  down := fun _ => down
  kind := fun _ => kind

private theorem restate_up {after} (id : after.id = leg.id)
    (same : after.bindingGeneration = leg.bindingGeneration)
    (stored : after.storedReplacementCursor = leg.storedReplacementCursor)
    (kind : after.kind = leg.kind) (up : leg.state.isUp = true) : LegSucceeds leg after :=
  restate id same stored kind fun down => by simp [up] at down

private theorem renew {after} (id : after.id = leg.id)
    (newer : leg.bindingGeneration < after.bindingGeneration)
    (cursor : leg.replacementGenerationCursor ≤ after.replacementGenerationCursor) :
    LegSucceeds leg after :=
  have grows := Nat.ne_of_gt newer
  ⟨⟨id, Nat.le_of_lt newer, cursor, fun same => absurd same grows⟩, fun same => absurd same grows⟩

private theorem stopped (leg : Leg) (atTime : Timestamp) : LegSucceeds leg
    (stoppedLeg leg atTime) := by
  unfold stoppedLeg
  split
  · exact restate rfl rfl rfl rfl fun _ => rfl
  · exact refl leg

private theorem rotated (leg : Leg) (atTime : Timestamp) :
    LegSucceeds leg (rotatedLeg leg atTime (leg.bindingGeneration + 1)) := by
  refine renew rfl (Nat.lt_succ_self _) ?_
  simp only [rotatedLeg, Leg.replacementGenerationCursor]
  cases leg.storedReplacementCursor with
  | none => simp
  | some cursor =>
    by_cases older : cursor < leg.bindingGeneration + 1
    · simp only [Option.any_some, older, decide_true, if_true, Option.getD_some]
      omega
    · simp only [Option.any_some, older, decide_false, Bool.false_eq_true, if_false,
        Option.getD_some, Nat.le_refl]

private theorem held (connected : leg.state = .connected) (atTime : Timestamp) :
    LegSucceeds leg (heldLeg leg atTime (leg.replacementGenerationCursor + 1)) :=
  ⟨⟨rfl, Nat.le_refl _, Nat.le_succ _, fun _ down => by
    simp [connected, isUp, isTerminal] at down⟩, fun _ => rfl⟩

private theorem promoted {replacement} (atTime : Timestamp)
    (newer : leg.bindingGeneration < replacement.pendingBindingGeneration) :
    LegSucceeds leg (settledLeg leg atTime replacement .connected) := by
  refine renew rfl newer ?_
  rw [settledLeg, Leg.replacementGenerationCursor]
  cases leg.storedReplacementCursor with
  | none => exact Nat.le_of_lt newer
  | some => exact Nat.le_refl _

end LegSucceeds

namespace CallAggregate

variable {before after : CallAggregate} {R : Leg → Leg → Prop}
  (ids : ∀ slot, (after.legAt slot).id = (before.legAt slot).id)
  (related : ∀ slot, R (before.legAt slot) (after.legAt slot))
include ids related

theorem leg_related (legId : LegId) : Option.Rel R (before.leg legId) (after.leg legId) := by
  unfold leg
  rw [show after.left.id = before.left.id from ids .left,
    show after.right.id = before.right.id from ids .right]
  split_ifs
  · exact .some (related .left)
  · exact .some (related .right)
  · exact .none

theorem leg_found {legId found} (held : before.leg legId = some found) :
    ∃ next, after.leg legId = some next ∧ R found next := by
  have both := leg_related ids related legId
  rw [held] at both
  generalize after.leg legId = next at both
  cases both with
  | some holds => exact ⟨_, rfl, holds⟩

end CallAggregate

private theorem LegState.isUp_ending_or_terminal {state}
    (down : state ∈ [ending, .ended, .failed]) : state.isUp = false := by
  cases state <;> simp_all [isUp, isTerminal]

namespace TakesDown

variable {slot : LegSlot}

variable (takes : TakesDown a command slot leg)
include takes

private theorem down : leg.state.isUp = false := by
  cases takes with
  | reported _ down => exact isUp_ending_or_terminal down
  | @source _ _ _ _ reason => cases reason <;> rfl

private theorem advances : LegSucceeds (a.legAt slot) leg := by
  have down := takes.down
  cases takes with
  | reported | source => exact .restate rfl rfl rfl rfl fun _ => down

private theorem setLeg_id (other : LegSlot) :
    ((a.core.setLeg slot leg).legAt other).id = (a.legAt other).id :=
  forall_setLeg (P := fun slot leg => leg.id = (a.legAt slot).id) (fun _ => by rw [core_legAt])
    takes.advances.id other

private theorem setLeg_generation (other : LegSlot) :
    ((a.core.setLeg slot leg).legAt other).bindingGeneration =
      (a.legAt other).bindingGeneration := by
  refine forall_setLeg (P := fun slot leg => leg.bindingGeneration =
    (a.legAt slot).bindingGeneration) (fun _ => by rw [core_legAt]) ?_ other
  cases takes <;> rfl

end TakesDown

namespace Move

private theorem stopped_advances {before : CallCore} (atTime : Timestamp)
    (outcome : TerminalOutcome) (deadline : Option Timestamp)
    (advances : ∀ slot, LegSucceeds (a.legAt slot) (before.legAt slot)) (slot : LegSlot) :
    LegSucceeds (a.legAt slot) ((before.teardown atTime outcome deadline).legAt slot) := by
  rw [teardown_legAt]
  exact (advances slot).trans (.stopped _ atTime)

private theorem report_advances {slot atTime legId supplied next failure}
    (guard : ReportGuard a slot atTime legId supplied next failure) :
    LegSucceeds (a.legAt slot) (reportedLeg (a.legAt slot) atTime next failure) := by
  refine .restate rfl rfl rfl rfl fun _ => ?_
  have transition := guard.transition
  change next.isUp = false
  cases state : (a.legAt slot).state <;> cases next <;>
    simp_all [validLegTransition, isUp, isTerminal]

/-- A leg keeps its identity, its generation only grows, and only with a new one it comes up again
or is of another kind. -/
theorem legs_advance (valid : a.Valid) (move : Move a command c sent) (slot : LegSlot) :
    LegSucceeds (a.legAt slot) (c.legAt slot) := by
  have same := core_legAt a
  have kept : ∀ slot, LegSucceeds (a.legAt slot) (a.core.legAt slot) := fun slot => by
    exact .refl _
  have disarmed : ∀ {kind} slot, LegSucceeds (a.legAt slot) ((a.core.disarm kind).legAt slot) := by
    simpa using kept
  cases move with
  | started guard =>
    have pending : (a.legAt slot).state = .pending := by
      have allowed := valid.legal.legs slot
      simpa [guard.pending, legAllowedIn] using allowed
    have starts : ∀ leg : Leg, leg.state = .pending → ∀ atTime,
        LegSucceeds leg (startLeg leg atTime).1 := by
      intro leg pending atTime
      unfold startLeg
      split
      · exact .restate_up rfl rfl rfl rfl (by simp [pending, isUp, isTerminal])
      · exact .refl leg
    cases slot with
    | left => exact starts a.left pending _
    | right => exact starts a.right pending _
  | reported guard => exact forall_setLeg kept (report_advances guard) slot
  | answered guard =>
    exact forall_setLeg kept (report_advances guard) slot
  | hungUp takes =>
    exact stopped_advances _ _ _ (forall_setLeg kept takes.advances) slot
  | drained takes =>
    rw [settle_legAt, recordFailure_legAt]
    exact forall_setLeg kept takes.advances slot
  | @mediaStarted changed | @mediaAttached changed =>
    refine forall_setLeg kept ?_ slot
    unfold signalIfPending
    split_ifs with pending
    · exact .restate_up rfl rfl rfl rfl (by simp [pending, isUp, isTerminal])
    · exact .refl _
  | replacementAttached => exact kept slot
  | rotated => exact forall_setLeg kept (.rotated _ _) slot
  | rearmed => rw [arm_legAt]; exact kept slot
  | transferBegun => rw [arm_legAt]; exact kept slot
  | replacementBegun _ guard =>
    exact forall_setLeg kept (.held guard.connected _) slot
  | transferFinished => rw [moveTo_legAt]; exact kept slot
  | @replacementFinished changed _ _ _ _ outcome guard =>
    refine forall_setLeg disarmed ?_ slot
    obtain ⟨-, held, previous, -, newer⟩ := valid.replacing_at guard.pending guard.found
    rw [same] at held previous
    cases outcome with
    | connected => exact .promoted _ (previous ▸ newer)
    | rejected => exact .restate_up rfl rfl rfl rfl (by simp [held, isUp, isTerminal])
  | endingBegun => exact stopped_advances _ _ _ kept slot
  | @endingElapsed atTime =>
    have fails : ∀ leg : Leg, LegSucceeds leg (failUnfinished leg atTime) := by
      intro leg
      unfold failUnfinished
      split
      · exact .refl leg
      · exact .restate rfl rfl rfl rfl fun _ => rfl
    cases slot with
    | left => exact fails a.left
    | right => exact fails a.right
  | replacementElapsed guard pending found =>
    have held := (valid.replacing_at pending found).held
    rw [same] at held
    refine forall_setLeg disarmed ?_ slot
    exact .restate_up rfl rfl rfl rfl (by simp [held, isUp, isTerminal])
  | elapsed =>
    exact stopped_advances _ _ _ disarmed slot

end Move

/-- The stops that a move sends: at most one per leg and generation, to legs that are up in it and
go down or get a new one. -/
structure StopsOnce (a : CallAggregate) (c : CallCore) (sent : List EffectIntent) : Prop where
  known : ∀ legId generation, 0 < stopCount sent legId generation →
    ∃ slot, (a.legAt slot).id = legId
  once : ∀ slot generation, stopCount sent (a.legAt slot).id generation ≤ 1
  stops : ∀ slot generation, 0 < stopCount sent (a.legAt slot).id generation →
    generation = (a.legAt slot).bindingGeneration ∧ (a.legAt slot).state.isUp = true ∧
      (generation < (c.legAt slot).bindingGeneration ∨ (c.legAt slot).state.isUp = false)

namespace StopsOnce

private theorem of_quiet (quiet : ∀ legId generation, stopCount sent legId generation = 0) :
    StopsOnce a c sent :=
  ⟨fun _ generation stopped => by simp [quiet] at stopped, fun slot generation => by simp [quiet],
    fun slot generation stopped => by simp [quiet] at stopped⟩

private theorem of_teardown (valid : a.Valid) (ids : ∀ slot, (c.legAt slot).id = (a.legAt slot).id)
    (same : ∀ slot, (c.legAt slot).state.isUp = true → c.legAt slot = a.legAt slot) {reason}
    (sends : ∀ legId generation,
      stopCount sent legId generation = stopCount (c.endingSignals reason) legId generation)
    (atTime : Timestamp) (outcome : TerminalOutcome) (deadline : Option Timestamp) :
    StopsOnce a (c.teardown atTime outcome deadline) sent := by
  have counted : ∀ slot generation, stopCount sent (a.legAt slot).id generation =
      if (c.legAt slot).state.isUp = true ∧ (c.legAt slot).bindingGeneration = generation then 1
      else 0 := by
    intro slot generation
    rw [sends, stopCount_endingSignals_eq valid ids]
  refine ⟨fun legId generation stopped => ?_, fun slot generation => ?_,
    fun slot generation stopped => ?_⟩
  · rw [sends, stopCount_endingSignals, stopCount_stopSignals, stopCount_stopSignals] at stopped
    by_cases left : c.left.id = legId
    · exact ⟨.left, (ids .left).symm.trans left⟩
    · by_cases right : c.right.id = legId
      · exact ⟨.right, (ids .right).symm.trans right⟩
      · simp [left, right] at stopped
  · rw [counted]
    split <;> simp
  · rw [counted] at stopped
    split_ifs at stopped with up
    · rw [same _ up.1] at up
      refine ⟨up.2.symm, up.1, .inr ?_⟩
      exact isUp_ending_or_terminal (by
        simpa [legAllowedIn] using stoppedLeg_allowed (c.legAt slot) atTime)
    · cases stopped

end StopsOnce

private theorem stopCount_timeoutCompensation (kind : DeadlineKind) (legId : LegId)
    (generation : Nat) : stopCount (timeoutCompensation kind) legId generation = 0 := by
  cases kind <;> rfl

private theorem promoted_stops_once {slot atTime suppliedDeadline suppliedBinding replacement}
    (valid : a.Valid)
    (guard : FinishReplacementGuard a slot atTime suppliedDeadline suppliedBinding replacement) :
    StopsOnce a ({ (a.core.disarm .transfer).setLeg slot
        (settledLeg (a.legAt slot) atTime replacement .connected) with
      replacement := none }.moveTo .active atTime)
      [settledEffect replacement .connected, a.core.bridgeSignal] := by
  have named := (valid.legIndex_iff _ _).mp guard.found
  obtain ⟨-, held, previous, -, newer⟩ := valid.replacing_at guard.pending guard.found
  rw [core_legAt] at held previous
  have counted : ∀ legId generation,
      stopCount [settledEffect replacement .connected, a.core.bridgeSignal] legId generation =
        if replacement.legId = legId ∧ replacement.previousBindingGeneration = generation then 1
        else 0 := by
    intro legId generation
    simp [stopCount, List.countP_cons, settledEffect, bridgeSignal, EffectIntent.stops]
  refine ⟨fun legId generation stopped => ⟨slot, ?_⟩, fun other generation => ?_,
    fun other generation stopped => ?_⟩
  · rw [counted] at stopped
    split_ifs at stopped with stop
    · exact named.trans stop.1
    · cases stopped
  · rw [counted]
    split <;> simp
  · rw [counted] at stopped
    split_ifs at stopped with stop
    · obtain rfl : slot = other := valid.slot_unique (named.trans stop.1)
      refine ⟨stop.2.symm.trans previous.symm, ?_, .inl ?_⟩
      · simp [held, isUp, isTerminal]
      · rw [moveTo_legAt, legAt_withReplacement, setLeg_legAt, if_pos rfl]
        exact stop.2 ▸ newer
    · cases stopped

private theorem Move.stops_once {c} (valid : a.Valid) (move : Move a command c sent) :
    StopsOnce a c sent := by
  cases move with
  | started =>
    refine .of_quiet fun legId generation => ?_
    have starts : ∀ leg atTime, (startLeg leg atTime).2.stops legId generation = false := by
      intro leg atTime
      unfold startLeg
      split <;> rfl
    simp [stopCount, starts]
  | @hungUp _ slot leg takes =>
    refine .of_teardown valid takes.setLeg_id (fun _ up => ?_) (fun _ _ => rfl) _ _ _
    rw [setLeg_legAt] at up ⊢
    split_ifs at up with another
    · rw [takes.down] at up
      cases up
    · rw [if_neg another, core_legAt]
  | reported | answered | drained | mediaStarted | mediaAttached | replacementAttached | rotated
  | rearmed | transferBegun | replacementBegun | endingElapsed | replacementElapsed =>
    exact .of_quiet fun legId generation => rfl
  | @transferFinished _ _ outcome =>
    exact .of_quiet fun legId generation => by cases outcome <;> rfl
  | @replacementFinished slot _ _ _ _ outcome guard =>
    cases outcome with
    | rejected => exact .of_quiet fun legId generation => rfl
    | connected => exact promoted_stops_once valid guard
  | endingBegun =>
    exact .of_teardown valid (fun slot => by rw [core_legAt]) (fun slot _ => core_legAt a slot)
      (fun _ _ => rfl) _ _ _
  | @elapsed _ kind =>
    exact .of_teardown valid (fun slot => by rw [disarm_legAt, core_legAt])
      (fun slot _ => (disarm_legAt ..).trans (core_legAt a slot))
      (fun _ _ => by cases kind <;> rfl) _ _ _

/-- The stops of the steps so far: at most one per leg and generation, and only for generations
in which the leg is not up any more. -/
structure StopHistory (past : List CallStep) (a : CallAggregate) : Prop where
  once : ∀ legId generation, stopCount (emitted past) legId generation ≤ 1
  spent : ∀ legId generation, 0 < stopCount (emitted past) legId generation →
    ∃ slot, (a.legAt slot).id = legId ∧ (generation < (a.legAt slot).bindingGeneration ∨
      (generation = (a.legAt slot).bindingGeneration ∧ (a.legAt slot).state.isUp = false))

theorem CallStep.stops_once (step : CallStep) (valid : step.before.Valid) :
    StopsOnce step.before step.after.core step.effects ∧
      ∀ slot, LegSucceeds (step.before.legAt slot) (step.after.legAt slot) := by
  cases step.happened with
  | nothing _ same quiet =>
    rw [same, quiet]
    exact ⟨.of_quiet fun _ _ => rfl, fun slot => .refl _⟩
  | moved _ move =>
    obtain ⟨known, once, stops⟩ := move.stops_once valid
    simp only [stopCount_signals] at known once stops
    exact ⟨⟨known, once, stops⟩, fun slot => by
      exact move.legs_advance valid slot⟩

namespace StopHistory

variable {past : List CallStep} {step : CallStep}

theorem next (history : StopHistory past step.before) (valid : step.before.Valid) :
    StopHistory (past ++ [step]) step.after := by
  obtain ⟨stops, advances⟩ := step.stops_once valid
  constructor
  · intro legId generation
    rw [emitted_append, emitted_singleton, stopCount_append]
    by_cases earlier : 0 < stopCount (emitted past) legId generation
    · -- the generation that was stopped before is not up, so the step does not stop it again
      have again : stopCount step.effects legId generation = 0 := by
        by_contra stopped
        obtain ⟨slot, rfl, spent⟩ := history.spent _ _ earlier
        obtain ⟨current, up, -⟩ := stops.stops _ _ (Nat.pos_of_ne_zero stopped)
        obtain older | ⟨-, down⟩ := spent
        · omega
        · simp [up] at down
      rw [again]
      exact history.once _ generation
    · have none : stopCount (emitted past) legId generation = 0 := by omega
      rw [none, Nat.zero_add]
      by_cases stopped : 0 < stopCount step.effects legId generation
      · obtain ⟨slot, rfl⟩ := stops.known _ _ stopped
        exact stops.once _ generation
      · omega
  · intro legId generation stopped
    rw [emitted_append, emitted_singleton, stopCount_append] at stopped
    by_cases earlier : 0 < stopCount (emitted past) legId generation
    · obtain ⟨slot, named, spent⟩ := history.spent _ _ earlier
      refine ⟨slot, (advances slot).id.trans named, ?_⟩
      have grows := (advances slot).generation
      obtain older | ⟨current, down⟩ := spent
      · exact .inl (Nat.lt_of_lt_of_le older grows)
      · obtain same | newer := Nat.eq_or_lt_of_le grows
        · exact .inr ⟨current.trans same, (advances slot).down same.symm down⟩
        · exact .inl (current ▸ newer)
    · have now : 0 < stopCount step.effects legId generation := by omega
      obtain ⟨slot, rfl⟩ := stops.known _ _ now
      obtain ⟨current, -, spent⟩ := stops.stops _ _ now
      refine ⟨slot, (advances slot).id, ?_⟩
      obtain newer | down := spent
      · exact .inl newer
      · obtain same | newer := Nat.eq_or_lt_of_le (advances slot).generation
        · exact .inr ⟨current.trans same, down⟩
        · exact .inl (current ▸ newer)

end StopHistory

private theorem TakesDown.reportedState {slot leg} (valid : a.Valid)
    (takes : TakesDown a command slot leg) (other : LegSlot) :
    ((a.core.setLeg slot leg).legAt other).state = command.reportedState (a.legAt other) := by
  have unnamed : ∀ legId, a.legIndex legId = .ok slot → other ≠ slot →
      (a.legAt other).id ≠ legId := by
    intro legId found another same
    exact another (valid.slot_unique (same.trans ((valid.legIndex_iff _ _).mp found).symm))
  rw [setLeg_legAt]
  split_ifs with here
  · subst here
    cases takes with
    | reported guard =>
      simp [CallCommand.reportedState, (valid.legIndex_iff _ _).mp guard.found, reportedLeg]
    | @source _ _ _ _ reason guard =>
      cases reason <;>
        simp [CallCommand.reportedState, (valid.legIndex_iff _ _).mp guard.found, terminatedSource]
  · cases takes with
    | reported guard | source guard =>
      simp [CallCommand.reportedState, unnamed _ guard.found here]

private theorem Enters.stopCount_eq {c} (valid : a.Valid) (enters : Enters a command c sent)
    (slot : LegSlot) :
    stopCount sent (a.legAt slot).id (a.legAt slot).bindingGeneration =
      if (command.reportedState (a.legAt slot)).isUp then 1 else 0 := by
  cases enters with
  | hungUp takes =>
    rw [stopCount_endingSignals_eq valid takes.setLeg_id, takes.setLeg_generation,
      takes.reportedState valid slot]
    simp
  | requested =>
    rw [stopCount_endingSignals_eq valid (fun slot => by rw [core_legAt])]
    cases up : (a.legAt slot).state.isUp <;> simp [CallCommand.reportedState, up]
  | @elapsed =>
    rw [stopCount_append, stopCount_timeoutCompensation,
      stopCount_endingSignals_eq valid (fun slot => by rw [disarm_legAt, core_legAt])]
    cases up : (a.legAt slot).state.isUp <;> simp [CallCommand.reportedState, up]

private theorem endingSignals_startsLeg (c : CallCore) (reason : StopLegReason) :
    ∀ effect ∈ c.endingSignals reason, effect.startsLeg = false :=
  forall_endingSignals (P := (·.startsLeg = false)) rfl (fun _ _ => rfl) (fun _ _ _ => rfl) reason

private theorem Move.unstarted {c} (valid : a.Valid) (move : Move a command c sent)
    (closing : c.state ∈ closingStates) : ∀ effect ∈ sent, effect.startsLeg = false := by
  by_cases earlier : a.state ∈ closingStates
  · cases move.drains earlier valid with
    | drained | rearmed | elapsed => simp
    | extended => exact endingSignals_startsLeg _ _
  · cases move.enters earlier closing valid with
    | hungUp | requested => exact endingSignals_startsLeg _ _
    | @elapsed =>
      intro _ member
      obtain compensates | ending := List.mem_append.mp member
      · unfold timeoutCompensation at compensates
        split at compensates <;> simp_all [EffectIntent.startsLeg]
      · exact endingSignals_startsLeg _ _ _ ending

private theorem CallStep.unstarted_of_closing (step : CallStep) (valid : step.before.Valid)
    (closing : step.after.state ∈ closingStates) :
    ∀ effect ∈ step.effects, effect.startsLeg = false := by
  intro effect member
  cases step.happened with
  | nothing _ _ quiet =>
    rw [quiet] at member
    cases member
  | moved _ move =>
    by_contra starts
    refine starts (move.unstarted valid closing _ (mem_signals.mpr ⟨member, ?_⟩))
    cases effect <;> simp_all [EffectIntent.startsLeg, EffectIntent.isDeadline]

/-- Starts and stops of the legs of a call that the commands are presented to. -/
structure LegAccounting (a : CallAggregate) (commands : List CallCommand) : Prop where
  once : ∀ legId generation, stopCount (emitted (a.steps commands)) legId generation ≤ 1
  entering : ∀ step ∈ a.steps commands, step.entersEnding = true →
    ∀ slot, stopCount step.effects (step.before.legAt slot).id
        (step.before.legAt slot).bindingGeneration =
      if (step.command.reportedState (step.before.legAt slot)).isUp then 1 else 0
  closed : ∀ past step future, a.steps commands = past ++ step :: future →
    step.after.state ∈ closingStates →
    ∀ effect ∈ emitted (step :: future), effect.startsLeg = false

/-- In every run each leg is stopped at most once per generation, the teardown stops every leg
that is up exactly once, and starts none any more. -/
theorem leg_accounting {a : CallAggregate} (validated : a.validate = .ok ())
    (commands : List CallCommand) : LegAccounting a commands where
  once := by
    have valid := validate_iff.mp validated
    have history : StopHistory (a.steps commands) (a.presentAll commands) :=
      run_induction valid
        ⟨fun _ _ => Nat.zero_le _, nofun⟩
        (fun _ step stepValid history => history.next stepValid) commands
    exact history.once
  entering := fun step member enters slot => by
    have stepValid := step_valid (validate_iff.mp validated) member
    simp only [CallStep.entersEnding, Bool.and_eq_true, decide_eq_true_eq] at enters
    cases step.happened with
    | nothing _ same =>
      rw [same] at enters
      exact absurd enters.2 enters.1
    | moved _ move =>
      rw [← stopCount_signals]
      exact (move.enters enters.1 enters.2 stepValid).stopCount_eq stepValid slot
  closed := fun _ _ _ split =>
    emitted_closing (fun step => step.unstarted_of_closing)
      (validate_iff.mp validated) split

theorem leg_accounting_replaced :
    Sample.newCall.validate = .ok () ∧ LegAccounting Sample.newCall Sample.replaced ∧
      stopCount (emitted (Sample.newCall.steps Sample.replaced)) Sample.calleeId 1 = 1 ∧
      stopCount (emitted (Sample.newCall.steps Sample.replaced)) Sample.calleeId 2 = 1 ∧
      stopCount (emitted (Sample.newCall.steps Sample.replaced)) Sample.callerId 1 = 0 :=
  ⟨by decide, leg_accounting (by decide) _, by decide +kernel⟩

end Bridgefu.CallEngine
