/- digest: Replacing a leg: reserved generations, how every replacement is resolved, what is restored. -/

import Bridgefu.CallEngine.LegStops

set_option autoImplicit false

namespace Bridgefu.CallEngine

open Lib CallAggregate CallCore

namespace EffectIntent

def reserves (legId : LegId) : EffectIntent → Option Nat
  | .startLegReplacement started _ pending _ _ => if started = legId then some pending else none
  | _ => none

/-- Does the effect give up the generation of the leg? -/
def aborts (legId : LegId) (generation : Nat) : EffectIntent → Bool
  | .abortLegReplacement aborted pending => decide (aborted = legId ∧ pending = generation)
  | _ => false

end EffectIntent

/-- The command reports that a replacement was rejected, or that the time for it is over. -/
def CallCommand.givesUp : CallCommand → Bool
  | .finishLegReplacement _ _ _ (.rejected _) | .deadlineElapsed _ .transfer _ _ => true
  | _ => false

variable (c : CallCore) (effects : List EffectIntent)

def reserved (legId : LegId) : List Nat :=
  effects.filterMap (EffectIntent.reserves legId)

def abortCount (legId : LegId) (generation : Nat) : Nat :=
  effects.countP (EffectIntent.aborts legId generation)

/-- Is the given generation of the leg about to take over? -/
def CallAggregate.isReplacing (a : CallAggregate) (legId : LegId) (generation : Nat) : Bool :=
  a.replacement.any fun replacement =>
    replacement.legId = legId ∧ replacement.pendingBindingGeneration = generation

namespace CallStep

variable (step : CallStep)

/-- Does the announced generation of the leg take over in this step? -/
def promotes (legId : LegId) (generation : Nat) : Bool :=
  step.before.isReplacing legId generation &&
    (step.after.leg legId).any fun leg => decide (leg.bindingGeneration = generation)

/-- How often the step resolves the replacement: by promoting or aborting it. -/
def resolutions (legId : LegId) (generation : Nat) : Nat :=
  abortCount step.effects legId generation + if step.promotes legId generation then 1 else 0

end CallStep

def resolutions (steps : List CallStep) (legId : LegId) (generation : Nat) : Nat :=
  (steps.map fun step => step.resolutions legId generation).sum

@[simp] theorem reserved_append (first second : List EffectIntent) (legId : LegId) :
    reserved (first ++ second) legId = reserved first legId ++ reserved second legId :=
  List.filterMap_append

@[simp] theorem abortCount_append (first second : List EffectIntent) (legId : LegId)
    (generation : Nat) :
    abortCount (first ++ second) legId generation =
      abortCount first legId generation + abortCount second legId generation :=
  List.countP_append

@[simp] theorem resolutions_append (first second : List CallStep) (legId : LegId)
    (generation : Nat) :
    resolutions (first ++ second) legId generation =
      resolutions first legId generation + resolutions second legId generation := by
  simp [resolutions]

@[simp] theorem resolutions_singleton (step : CallStep) (legId : LegId) (generation : Nat) :
    resolutions [step] legId generation = step.resolutions legId generation := by
  simp [resolutions]

private theorem reserved_signals (legId : LegId) :
    reserved (signals effects) legId = reserved effects legId := by
  unfold reserved signals
  rw [List.filterMap_filter]
  refine congrArg (effects.filterMap ·) (funext fun effect => ?_)
  cases effect <;> simp [EffectIntent.reserves, EffectIntent.isDeadline]

private theorem abortCount_signals (legId : LegId) (generation : Nat) :
    abortCount (signals effects) legId generation = abortCount effects legId generation := by
  unfold abortCount signals
  rw [List.countP_filter]
  refine List.countP_congr fun effect _ => ?_
  cases effect <;> simp [EffectIntent.aborts, EffectIntent.isDeadline]

def SameRoute (before after : Leg) : Prop :=
  after.kind = before.kind ∧ after.bindingGeneration = before.bindingGeneration

inductive ReplacementMove (a : CallAggregate) (c : CallCore) (sent : List EffectIntent) : Prop
  | quiet (starts : ∀ legId, reserved sent legId = [])
      (aborts : ∀ legId generation, abortCount sent legId generation = 0)
      (same : c.replacement = a.replacement)
      (route : a.replacement ≠ none → ∀ slot, SameRoute (a.legAt slot) (c.legAt slot))
  | begins {slot pendingKind} (idle : a.replacement = none)
      (starts : ∀ legId, reserved sent legId = if (a.legAt slot).id = legId
        then [(a.legAt slot).replacementGenerationCursor + 1] else [])
      (aborts : ∀ legId generation, abortCount sent legId generation = 0)
      (announced : c.replacement = some ⟨(a.legAt slot).id, (a.legAt slot).bindingGeneration,
        (a.legAt slot).replacementGenerationCursor + 1, pendingKind⟩)
      (route : ∀ slot, SameRoute (a.legAt slot) (c.legAt slot))
      (cursor : (c.legAt slot).replacementGenerationCursor =
        (a.legAt slot).replacementGenerationCursor + 1)
  | promotes {slot replacement} (pending : a.replacement = some replacement)
      (named : (a.legAt slot).id = replacement.legId) (starts : ∀ legId, reserved sent legId = [])
      (aborts : ∀ legId generation, abortCount sent legId generation = 0)
      (settled : c.replacement = none)
      (promoted : (c.legAt slot).bindingGeneration = replacement.pendingBindingGeneration)
      (stops : EffectIntent.stopLeg replacement.legId (a.legAt slot).bindingGeneration .requested ∈
        sent)
  | aborts {replacement} (pending : a.replacement = some replacement)
      (starts : ∀ legId, reserved sent legId = [])
      (aborts : ∀ legId generation, abortCount sent legId generation =
        if replacement.legId = legId ∧ replacement.pendingBindingGeneration = generation then 1
        else 0)
      (settled : c.replacement = none) (route : ∀ slot, SameRoute (a.legAt slot) (c.legAt slot))
      (restored : c.state ∉ closingStates → ∀ slot, (a.legAt slot).id = replacement.legId →
        (c.legAt slot).state = .connected)

namespace CallCore

variable {c : CallCore}

private theorem reserved_endingSignals (reason : StopLegReason) (legId : LegId) :
    reserved (c.endingSignals reason) legId = [] :=
  List.filterMap_eq_nil_iff.mpr (forall_endingSignals (P := (·.reserves legId = none)) rfl
    (fun _ _ => rfl) (fun _ _ _ => rfl) reason)

private theorem abortCount_endingSignals (reason : StopLegReason) (legId : LegId)
    (generation : Nat) : abortCount (c.endingSignals reason) legId generation =
      abortCount c.abortSignals legId generation := by
  have stops : ∀ leg, abortCount (stopSignals leg reason) legId generation = 0 := by
    intro leg
    unfold stopSignals
    split <;> rfl
  have unbridges : abortCount c.unbridgeSignals legId generation = 0 := by
    unfold unbridgeSignals
    split <;> rfl
  simp [endingSignals, stops, unbridges]

theorem teardown_replacement (atTime : Timestamp) (outcome : TerminalOutcome)
    (deadline : Option Timestamp) : (c.teardown atTime outcome deadline).replacement = none := by
  unfold teardown
  simp only
  split
  · rfl
  · split <;> rfl

@[simp] theorem settle_replacement (atTime : Timestamp) :
    (c.settle atTime).replacement = c.replacement := by
  unfold settle
  split <;> rfl

@[simp] theorem recordFailure_replacement (leg : Leg) :
    (c.recordFailure leg).replacement = c.replacement := by
  unfold recordFailure
  split <;> rfl

end CallCore

private theorem ReplacementMove.of_teardown {a} {c : CallCore} {sent}
    (same : c.replacement = a.replacement) (route : ∀ slot, SameRoute (a.legAt slot) (c.legAt slot))
    {reason} (starts : ∀ legId, reserved sent legId = reserved (c.endingSignals reason) legId)
    (aborts : ∀ legId generation, abortCount sent legId generation =
      abortCount (c.endingSignals reason) legId generation) (atTime : Timestamp)
    (outcome : TerminalOutcome) (deadline : Option Timestamp) :
    ReplacementMove a (c.teardown atTime outcome deadline) sent := by
  have settled := c.teardown_replacement atTime outcome deadline
  have stopped : ∀ slot,
      SameRoute (a.legAt slot) ((c.teardown atTime outcome deadline).legAt slot) := by
    intro slot
    rw [teardown_legAt]
    unfold stoppedLeg
    split <;> exact route slot
  simp only [reserved_endingSignals] at starts
  simp only [abortCount_endingSignals] at aborts
  unfold abortSignals at aborts
  rcases Option.eq_none_or_eq_some a.replacement with none | ⟨replacement, some⟩
  · rw [same, none] at aborts
    exact .quiet starts aborts (settled.trans none.symm) fun _ => stopped
  · rw [same, some] at aborts
    refine .aborts some starts (fun _ _ => ?_) settled stopped fun early => ?_
    · rw [aborts]
      simp [abortCount, EffectIntent.aborts]
    · exact absurd (c.teardown_state_mem _ _ deadline) early

namespace Move

variable {a : CallAggregate} {command : CallCommand} {c : CallCore} {sent : List EffectIntent}

variable {slot : LegSlot} {atTime : Timestamp}

private theorem core_route (a : CallAggregate) (slot : LegSlot) :
    SameRoute (a.legAt slot) (a.core.legAt slot) := by
  exact ⟨rfl, rfl⟩

private theorem idle_move (idle : a.replacement = none) (stays : c.replacement = none)
    (starts : ∀ legId, reserved sent legId = [] := by exact fun _ => rfl)
    (aborts : ∀ legId generation, abortCount sent legId generation = 0 := by exact fun _ _ => rfl) :
    ReplacementMove a c sent :=
  .quiet starts aborts (stays.trans idle.symm) fun pending => absurd idle pending

private theorem takesDown_route {leg} (takes : TakesDown a command slot leg) :
    SameRoute (a.legAt slot) leg := by
  cases takes <;> exact ⟨rfl, rfl⟩

private theorem begun_replacement {legId pendingKind transferDeadline}
    (valid : a.Valid) (guard : ReplaceGuard a slot atTime legId transferDeadline)
    (generation : Nat) :
    ReplacementMove a
      { ((a.core.setLeg slot (heldLeg (a.legAt slot) atTime
          ((a.legAt slot).replacementGenerationCursor + 1))).moveTo .transferring atTime).arm
          .transfer with
        replacement := some ⟨legId, (a.legAt slot).bindingGeneration,
          (a.legAt slot).replacementGenerationCursor + 1, pendingKind⟩ }
      [a.core.unbridgeSignal, .startLegReplacement legId (a.legAt slot).bindingGeneration
        ((a.legAt slot).replacementGenerationCursor + 1) pendingKind generation] := by
  obtain rfl := (valid.legIndex_iff _ _).mp guard.found
  refine .begins guard.unreplaced (fun other => ?_) (fun _ _ => rfl) rfl (fun other => ?_) ?_
  · by_cases here : (a.legAt slot).id = other <;>
      simp [reserved, List.filterMap_cons, unbridgeSignal, EffectIntent.reserves, here]
  · refine forall_setLeg (core_route a) ?_ other
    exact ⟨rfl, rfl⟩
  · rw [legAt_withReplacement, arm_legAt, moveTo_legAt, setLeg_legAt, if_pos rfl]
    rfl

private theorem elapsed_replacement {replacement} (valid : a.Valid)
    (pending : a.replacement = some replacement) (found : a.legIndex replacement.legId = .ok slot) :
    ReplacementMove a ({ (a.core.disarm .transfer).setLeg slot
        { a.legAt slot with state := .connected, stateChangedAt := atTime } with
      replacement := none }.moveTo .active atTime)
      [.abortLegReplacement replacement.legId replacement.pendingBindingGeneration,
        a.core.bridgeSignal] := by
  have named := (valid.legIndex_iff _ _).mp found
  refine .aborts pending (fun _ => rfl) (fun _ _ => ?_) rfl
    (fun other => ?_) (fun _ other here => ?_)
  · simp [abortCount, List.countP_cons, bridgeSignal, EffectIntent.aborts]
  · refine forall_setLeg (P := fun slot => SameRoute (a.legAt slot)) (fun other => ?_) ?_ other
    · exact core_route a other
    · exact ⟨rfl, rfl⟩
  · obtain rfl : slot = other := valid.slot_unique (named.trans here.symm)
    rw [moveTo_legAt, legAt_withReplacement, setLeg_legAt, if_pos rfl]

private theorem finished_replacement {suppliedDeadline suppliedBinding replacement}
    (valid : a.Valid)
    (guard : FinishReplacementGuard a slot atTime suppliedDeadline suppliedBinding replacement)
    (outcome : LegReplacementResult) :
    ReplacementMove a ({ (a.core.disarm .transfer).setLeg slot
        (settledLeg (a.legAt slot) atTime replacement outcome) with
      replacement := none }.moveTo .active atTime)
      [settledEffect replacement outcome, a.core.bridgeSignal] := by
  have named := (valid.legIndex_iff _ _).mp guard.found
  have previous := (valid.replacing_at guard.pending guard.found).previous
  rw [core_legAt] at previous
  cases outcome with
  | connected =>
    refine .promotes guard.pending named (fun _ => rfl) (fun _ _ => rfl) rfl ?_ ?_
    · rw [moveTo_legAt, legAt_withReplacement, setLeg_legAt, if_pos rfl]
      rfl
    · rw [previous]
      exact List.mem_cons_self
  | rejected => exact elapsed_replacement valid guard.pending guard.found

private theorem replacement_move (valid : a.Valid) (move : Move a command c sent) :
    ReplacementMove a c sent := by
  have idle : a.state ≠ .transferring → a.replacement = none := valid.legal.unreplaced
  cases move with
  | started guard =>
    have none := idle (by simp [guard.pending])
    have starts : ∀ legId leg atTime, (startLeg leg atTime).2.reserves legId = .none := by
      intro legId leg atTime
      unfold startLeg
      split <;> rfl
    have aborts : ∀ legId generation leg atTime,
        (startLeg leg atTime).2.aborts legId generation = false := by
      intro legId generation leg atTime
      unfold startLeg
      split <;> rfl
    exact idle_move none none (fun legId => by simp [reserved, starts])
      (fun legId generation => by simp [abortCount, aborts])
  | reported =>
    exact .quiet (fun _ => rfl) (fun _ _ => rfl) (by simp) fun _ =>
      forall_setLeg (core_route a) ⟨rfl, rfl⟩
  | answered guard answered =>
    have connecting : a.state = .connecting := by simpa using answered.1
    have none := idle (by simp [connecting])
    exact idle_move none (by simpa [moveTo, disarm] using none)
  | hungUp takes =>
    exact .of_teardown (by simp) (forall_setLeg (core_route a) (takesDown_route takes)) (fun _ => rfl)
      (fun _ _ => rfl) _ _ _
  | @drained _ slot leg takes ending =>
    have none := idle (by simp [ending])
    refine idle_move none ?_
    rw [settle_replacement, recordFailure_replacement, setLeg_replacement]
    exact none
  | mediaStarted guard | mediaAttached guard | rotated guard =>
    have none := idle (by simp [guard.connecting])
    exact idle_move none (by simpa using none)
  | replacementAttached =>
    exact .quiet (fun _ => rfl) (fun _ _ => rfl) rfl fun _ => core_route a
  | rearmed =>
    exact .quiet (fun _ => rfl) (fun _ _ => rfl) rfl fun _ slot => by
      exact core_route a slot
  | transferBegun _ guard =>
    have none := idle (by simp [guard.active])
    exact idle_move none none
  | replacementBegun generation guard => exact begun_replacement valid guard generation
  | @transferFinished _ _ outcome guard =>
    exact idle_move guard.unreplaced guard.unreplaced (fun _ => by cases outcome <;> rfl)
      (fun _ _ => by cases outcome <;> rfl)
  | replacementFinished guard => exact finished_replacement valid guard _
  | endingBegun =>
    exact .of_teardown rfl (core_route a) (fun _ => rfl) (fun _ _ => rfl) _ _ _
  | endingElapsed guard =>
    have none := idle (by simp [elapsed_ending valid guard])
    exact idle_move none none
  | replacementElapsed guard pending found => exact elapsed_replacement valid pending found
  | @elapsed _ kind =>
    refine .of_teardown rfl (fun slot => ?_) (fun _ => by cases kind <;> rfl)
      (fun _ _ => by cases kind <;> rfl) _ _ _
    exact core_route a slot

private theorem finished_pending {deadline pending result}
    (move : Move a (.finishLegReplacement atTime deadline pending result) c sent) :
    ∃ replacement, a.replacement = some replacement ∧
      replacement.pendingBindingGeneration = pending := by
  cases move with
  | replacementFinished guard => exact ⟨_, guard.pending, guard.generation.symm⟩
  | hungUp down | drained down => cases down

private theorem gives_up (move : Move a command c sent) (gives : command.givesUp = true)
    {replacement} (pending : a.replacement = some replacement) :
    .abortLegReplacement replacement.legId replacement.pendingBindingGeneration ∈ sent ∧
      c.replacement = none ∧ c.state = .active := by
  cases move with
  | @replacementFinished _ _ _ _ _ outcome guard =>
    cases guard.pending.symm.trans pending
    cases outcome with
    | connected => cases gives
    | rejected => exact ⟨List.mem_cons_self, rfl, rfl⟩
  | replacementElapsed _ same =>
    cases same.symm.trans pending
    exact ⟨List.mem_cons_self, rfl, rfl⟩
  | @elapsed _ kind _ _ _ _ unreplaced =>
    cases kind with
    | transfer => cases (unreplaced rfl).symm.trans pending
    | _ => cases gives
  | hungUp down | drained down => cases down <;> cases gives
  | _ => cases gives

end Move

private theorem CallStep.replacement_move (step : CallStep) (valid : step.before.Valid) :
    ReplacementMove step.before step.after.core step.effects := by
  cases step.happened with
  | nothing _ same quiet =>
    rw [same, quiet]
    exact .quiet (fun _ => rfl) (fun _ _ => rfl) rfl fun _ _ => by
      exact ⟨rfl, rfl⟩
  | moved _ move =>
    obtain ⟨starts, aborts, same, route⟩ | ⟨idle, starts, aborts, announced, route, cursor⟩ |
      ⟨pending, named, starts, aborts, settled, promoted, stops⟩ |
      ⟨pending, starts, aborts, settled, route, restored⟩ := move.replacement_move valid
    all_goals simp only [reserved_signals, abortCount_signals] at starts aborts
    · exact .quiet starts aborts same route
    · exact .begins idle starts aborts announced route cursor
    · exact .promotes pending named starts aborts settled promoted (mem_signals.mp stops).1
    · exact .aborts pending starts aborts settled route restored

/-- The replacements of the steps so far, up to a call. -/
structure ReplacementHistory (past : List CallStep) (a : CallAggregate) : Prop where
  reserved_le : ∀ legId, ∀ generation ∈ reserved (emitted past) legId,
    ∃ slot, (a.legAt slot).id = legId ∧ generation ≤ (a.legAt slot).replacementGenerationCursor
  resolved_le : ∀ legId generation, 0 < resolutions past legId generation →
    ∃ slot, (a.legAt slot).id = legId ∧ generation ≤ (a.legAt slot).replacementGenerationCursor
  increasing : ∀ legId, (reserved (emitted past) legId).Pairwise (· < ·)
  counted : ∀ legId, ∀ generation ∈ reserved (emitted past) legId,
    resolutions past legId generation = if a.isReplacing legId generation then 0 else 1
  route : ∀ start ∈ past, ∀ legId, ∀ generation ∈ reserved start.effects legId,
    a.isReplacing legId generation = true → ∀ slot, (a.legAt slot).id = legId →
      SameRoute (start.before.legAt slot) (a.legAt slot)
  restored : ∀ start ∈ past, ∀ legId, ∀ generation ∈ reserved start.effects legId,
    ∀ step ∈ past, 0 < abortCount step.effects legId generation →
      step.after.state ∉ closingStates → ∀ slot, (step.after.legAt slot).id = legId →
        SameRoute (start.before.legAt slot) (step.after.legAt slot) ∧
          (step.after.legAt slot).state = .connected

theorem SameRoute.trans {first second third} (one : SameRoute first second)
    (two : SameRoute second third) : SameRoute first third :=
  ⟨two.1.trans one.1, two.2.trans one.2⟩

variable {a : CallAggregate} {step : CallStep} {legId : LegId} {generation : Nat}

namespace CallAggregate

private theorem isReplacing_iff : a.isReplacing legId generation = true ↔
    ∃ replacement, a.replacement = some replacement ∧ replacement.legId = legId ∧
      replacement.pendingBindingGeneration = generation := by
  simp [isReplacing, Option.any_eq_true]

private theorem not_isReplacing (idle : a.replacement = none) :
    a.isReplacing legId generation = false := by
  simp [isReplacing, idle]

private theorem Valid.isReplacing_at (valid : a.Valid)
    (replacing : a.isReplacing legId generation = true) : ∃ slot, (a.legAt slot).id = legId ∧
      (a.legAt slot).replacementGenerationCursor = generation ∧
      (a.legAt slot).bindingGeneration < generation := by
  obtain ⟨_, pending, rfl, rfl⟩ := isReplacing_iff.mp replacing
  obtain ⟨slot, named, -, previous, cursor, newer⟩ := valid.legal.replacing _ pending
  exact ⟨slot, named, cursor.symm, previous ▸ newer⟩

end CallAggregate

namespace CallStep

private theorem promotes_iff (after : step.after.Valid) : step.promotes legId generation = true ↔
    step.before.isReplacing legId generation = true ∧ ∃ slot, (step.after.legAt slot).id = legId ∧
      (step.after.legAt slot).bindingGeneration = generation := by
  simp only [promotes, Bool.and_eq_true, Option.any_eq_true, decide_eq_true_eq,
    leg_eq_some_iff after.distinct]
  refine and_congr_right fun _ => ⟨?_, ?_⟩
  · rintro ⟨_, ⟨slot, rfl, named⟩, same⟩
    exact ⟨slot, named, same⟩
  · rintro ⟨slot, named, same⟩
    exact ⟨_, ⟨slot, rfl, named⟩, same⟩

private theorem not_promotes (valid : step.before.Valid)
    (route : ∀ slot, SameRoute (step.before.legAt slot) (step.after.core.legAt slot)) :
    step.promotes legId generation = false := by
  have after := step.after_valid valid
  by_contra promotes
  obtain ⟨replacing, slot, named, _⟩ := (promotes_iff after).mp (by simpa using promotes)
  obtain ⟨other, otherNamed, -, _⟩ := valid.isReplacing_at replacing
  have advances := (step.stops_once valid).2 slot
  obtain rfl : slot = other :=
    valid.slot_unique (advances.id.symm.trans (named.trans otherNamed.symm))
  have kept := (route slot).2
  rw [core_legAt] at kept
  omega

private theorem resolutions_eq (valid : step.before.Valid) :
    step.resolutions legId generation =
      if step.before.isReplacing legId generation = true ∧
        step.after.isReplacing legId generation = false then 1 else 0 := by
  have after := step.after_valid valid
  unfold resolutions
  cases step.replacement_move valid with
  | quiet _ aborts same route =>
    have unchanged : step.after.isReplacing legId generation =
        step.before.isReplacing legId generation :=
      congrArg (fun replacement : Option LegReplacement => replacement.any _) same
    have stays : step.promotes legId generation = false := by
      rcases Option.eq_none_or_eq_some step.before.replacement with none | ⟨replacement, some⟩
      · simp [promotes, not_isReplacing none]
      · exact not_promotes valid (route (by simp [some]))
    rw [aborts, stays, unchanged]
    simp
  | begins idle _ aborts =>
    simp [aborts, promotes, not_isReplacing idle]
  | @promotes slot replacement pending named _ aborts settled promoted =>
    rw [aborts, not_isReplacing settled]
    by_cases replacing : step.before.isReplacing legId generation = true
    · have promotes : step.promotes legId generation = true := by
        refine (promotes_iff after).mpr ⟨replacing, slot, ?_, ?_⟩
        all_goals
          obtain ⟨_, same, rfl, rfl⟩ := isReplacing_iff.mp replacing
          cases pending.symm.trans same
        · exact ((step.stops_once valid).2 slot).id.trans named
        · exact promoted
      simp [promotes, replacing]
    · simp [promotes, replacing]
  | @aborts replacement pending _ aborts settled route =>
    have replacing : step.before.isReplacing legId generation = true ↔
        replacement.legId = legId ∧ replacement.pendingBindingGeneration = generation := by
      simp [isReplacing_iff, pending]
    rw [aborts, not_promotes valid route, not_isReplacing settled]
    simp [replacing]

private theorem promotes_stops (valid : step.before.Valid)
    (promotes : step.promotes legId generation = true) :
    ∃ leg, step.before.leg legId = some leg ∧
      EffectIntent.stopLeg legId leg.bindingGeneration .requested ∈ step.effects := by
  have replacing := ((promotes_iff (step.after_valid valid)).mp promotes).1
  obtain ⟨_, pending, rfl, -⟩ := isReplacing_iff.mp replacing
  cases step.replacement_move valid with
  | quiet _ _ _ route =>
    rw [not_promotes valid (route (by simp [pending]))] at promotes
    cases promotes
  | begins idle =>
    rw [idle] at pending
    cases pending
  | promotes same named _ _ _ _ stops =>
    rw [pending] at same
    cases same
    exact ⟨_, (leg_eq_some_iff valid.distinct _ _).mpr ⟨_, rfl, named⟩, stops⟩
  | aborts _ _ _ _ route =>
    rw [not_promotes valid route] at promotes
    cases promotes

end CallStep

namespace ReplacementHistory

variable {past : List CallStep}

section

variable (valid : step.before.Valid)
include valid

private theorem cursor_mono (known : ∃ slot, (step.before.legAt slot).id = legId ∧
      generation ≤ (step.before.legAt slot).replacementGenerationCursor) :
    ∃ slot, (step.after.legAt slot).id = legId ∧
      generation ≤ (step.after.legAt slot).replacementGenerationCursor := by
  obtain ⟨slot, named, bound⟩ := known
  have advances := (step.stops_once valid).2 slot
  exact ⟨slot, advances.id.trans named, Nat.le_trans bound advances.cursor⟩

private theorem reserved_new (starts : generation ∈ reserved step.effects legId) :
    step.after.isReplacing legId generation = true ∧
      (∀ slot, SameRoute (step.before.legAt slot) (step.after.legAt slot)) ∧
      abortCount step.effects legId generation = 0 ∧
      ∀ older, (∃ slot, (step.before.legAt slot).id = legId ∧
        older ≤ (step.before.legAt slot).replacementGenerationCursor) → older < generation := by
  cases step.replacement_move valid with
  | quiet none | promotes _ _ none | aborts _ none => simp [none] at starts
  | @begins slot _ _ reserves aborts announced route =>
    rw [reserves] at starts
    split_ifs at starts with named
    · rw [List.mem_singleton] at starts
      subst starts
      refine ⟨?_, fun slot => ?_, aborts _ _, ?_⟩
      · exact isReplacing_iff.mpr ⟨_, announced, named, rfl⟩
      · exact route slot
      · rintro _ ⟨_, otherNamed, _⟩
        obtain rfl := valid.slot_unique (otherNamed.trans named.symm)
        omega
    · cases starts

private theorem isReplacing_before (replacing : step.after.isReplacing legId generation = true) :
    (step.before.isReplacing legId generation = true ∧
        ∀ slot, SameRoute (step.before.legAt slot) (step.after.legAt slot)) ∨
      generation ∈ reserved step.effects legId := by
  obtain ⟨replacement, pending, named, same⟩ := isReplacing_iff.mp replacing
  have pending : step.after.core.replacement = some replacement := pending
  cases step.replacement_move valid with
  | quiet _ _ unchanged route =>
    rw [unchanged] at pending
    refine .inl ⟨isReplacing_iff.mpr ⟨replacement, pending, named, same⟩, fun slot => ?_⟩
    exact route (by simp [pending]) slot
  | begins _ starts _ announced =>
    rw [announced] at pending
    cases pending
    refine .inr ?_
    rw [starts, if_pos (by exact named)]
    exact List.mem_singleton.mpr same.symm
  | promotes _ _ _ _ settled | aborts _ _ _ settled =>
    rw [settled] at pending
    cases pending

private theorem aborts_restores (aborted : 0 < abortCount step.effects legId generation)
    (early : step.after.state ∉ closingStates) : step.before.isReplacing legId generation = true ∧
      (∀ slot, SameRoute (step.before.legAt slot) (step.after.legAt slot)) ∧
      ∀ slot, (step.before.legAt slot).id = legId → (step.after.legAt slot).state = .connected := by
  cases step.replacement_move valid with
  | quiet _ none | begins _ _ none | promotes _ _ _ none =>
    rw [none] at aborted
    cases aborted
  | @aborts replacement pending _ counted _ route restored =>
    rw [counted] at aborted
    split_ifs at aborted with named
    · refine ⟨isReplacing_iff.mpr ⟨replacement, pending, named⟩, fun slot => ?_,
        fun slot here => ?_⟩
      · exact route slot
      · exact restored early _ (here.trans named.1.symm)
    · cases aborted

end

private theorem reserved_past {start} (member : start ∈ past)
    (starts : generation ∈ reserved start.effects legId) :
    generation ∈ reserved (emitted past) legId := by
  obtain ⟨effect, found, reserves⟩ := List.mem_filterMap.mp starts
  exact List.mem_filterMap.mpr ⟨effect, List.mem_flatMap.mpr ⟨start, member, found⟩, reserves⟩

private theorem resolutions_pos {source} (member : source ∈ past)
    (aborts : 0 < abortCount source.effects legId generation) :
    0 < resolutions past legId generation := by
  obtain ⟨_, _, rfl⟩ := List.append_of_mem member
  rw [← List.singleton_append, resolutions_append, resolutions_append, resolutions_singleton,
    CallStep.resolutions]
  omega

theorem next (history : ReplacementHistory past step.before) (valid : step.before.Valid) :
    ReplacementHistory (past ++ [step]) step.after where
  reserved_le := fun legId generation member => by
    rw [emitted_append, emitted_singleton, reserved_append] at member
    obtain earlier | starts := List.mem_append.mp member
    · exact cursor_mono valid (history.reserved_le _ _ earlier)
    · have replacing := (reserved_new valid starts).1
      obtain ⟨slot, named, cursor, -⟩ := (step.after_valid valid).isReplacing_at replacing
      exact ⟨slot, named, Nat.le_of_eq cursor.symm⟩
  resolved_le := fun legId generation resolved => by
    rw [resolutions_append, resolutions_singleton] at resolved
    by_cases earlier : 0 < resolutions past legId generation
    · exact cursor_mono valid (history.resolved_le _ _ earlier)
    · have now : 0 < step.resolutions legId generation := by omega
      rw [CallStep.resolutions_eq valid] at now
      split_ifs at now with resolves
      · obtain ⟨slot, named, cursor, -⟩ := valid.isReplacing_at resolves.1
        exact cursor_mono valid ⟨slot, named, Nat.le_of_eq cursor.symm⟩
      · cases now
  increasing := fun legId => by
    rw [emitted_append, emitted_singleton, reserved_append, List.pairwise_append]
    refine ⟨history.increasing legId, ?_, fun older earlier newer starts => ?_⟩
    · cases step.replacement_move valid with
      | quiet none | promotes _ _ none | aborts _ none => simp [none]
      | begins _ starts =>
        rw [starts]
        split <;> simp
    · exact (reserved_new valid starts).2.2.2 _ (history.reserved_le _ _ earlier)
  counted := fun legId generation member => by
    rw [emitted_append, emitted_singleton, reserved_append] at member
    rw [resolutions_append, resolutions_singleton, CallStep.resolutions_eq valid]
    obtain earlier | starts := List.mem_append.mp member
    · rw [history.counted _ _ earlier]
      cases before : step.before.isReplacing _ generation with
      | true => cases after : step.after.isReplacing legId generation <;> simp
      | false =>
        cases after : step.after.isReplacing _ generation with
        | false => simp
        | true =>
          obtain ⟨impossible, -⟩ | starts := isReplacing_before valid after
          · simp [before] at impossible
          · have newer := (reserved_new valid starts).2.2.2 _ (history.reserved_le _ _ earlier)
            exact absurd newer (Nat.lt_irrefl _)
    · obtain ⟨replacing, -, -, newer⟩ := reserved_new valid starts
      have unresolved : resolutions past legId generation = 0 := by
        by_contra resolved
        exact Nat.lt_irrefl _ (newer _ (history.resolved_le _ _ (Nat.pos_of_ne_zero resolved)))
      simp [unresolved, replacing]
  route := fun start place legId generation starts replacing slot named => by
    obtain earlier | rfl := (List.mem_append.mp place).imp_right List.mem_singleton.mp
    · obtain ⟨before, same⟩ | again := isReplacing_before valid replacing
      · have beforeNamed : (step.before.legAt slot).id = legId :=
          ((step.stops_once valid).2 slot).id.symm.trans named
        exact (history.route _ earlier _ _ starts before _ beforeNamed).trans
          (same slot)
      · have newer := (reserved_new valid again).2.2.2 _
          (history.reserved_le _ _ (reserved_past earlier starts))
        exact absurd newer (Nat.lt_irrefl _)
    · exact (reserved_new valid starts).2.1 slot
  restored := fun start place legId generation starts source origin aborts early slot named => by
    obtain earlier | rfl := (List.mem_append.mp place).imp_right List.mem_singleton.mp
    · obtain past | rfl := (List.mem_append.mp origin).imp_right List.mem_singleton.mp
      · exact history.restored _ earlier _ _ starts _ past aborts early _
          named
      · obtain ⟨replacing, same, connected⟩ := aborts_restores valid aborts early
        have beforeNamed := ((source.stops_once valid).2 slot).id.symm.trans named
        exact ⟨(history.route _ earlier _ _ starts replacing _ beforeNamed).trans
          (same slot), connected _ beforeNamed⟩
    · -- a generation just reserved has not been given up before
      obtain ⟨-, -, quiet, newer⟩ := reserved_new valid starts
      obtain past | rfl := (List.mem_append.mp origin).imp_right List.mem_singleton.mp
      · have older := newer _ (history.resolved_le _ _ (resolutions_pos past aborts))
        exact absurd older (Nat.lt_irrefl _)
      · rw [quiet] at aborts
        cases aborts

end ReplacementHistory

/-- After the step the leg has the kind and generation that it had at the start, and is connected. -/
def CallStep.Restores (start step : CallStep) (legId : LegId) : Prop :=
  ∃ before after, start.before.leg legId = some before ∧ step.after.leg legId = some after ∧
    after.kind = before.kind ∧ after.bindingGeneration = before.bindingGeneration ∧
    after.state = .connected

/-- The step gives the replacement up and goes on with the leg as it was when that began. -/
structure GivesUp (steps : List CallStep) (step : CallStep) (replacement : LegReplacement) :
    Prop where
  aborted : .abortLegReplacement replacement.legId replacement.pendingBindingGeneration ∈
    step.effects
  settled : step.after.replacement = none
  active : step.after.state = .active
  kept : step.Restores step replacement.legId
  restored : ∀ start ∈ steps, ∀ previous kind deadline,
    .startLegReplacement replacement.legId previous replacement.pendingBindingGeneration kind
      deadline ∈ start.effects → start.Restores step replacement.legId

structure LegReplacements (a : CallAggregate) (commands : List CallCommand) : Prop where
  increasing : ∀ legId, (reserved (emitted (a.steps commands)) legId).Pairwise (· < ·)
  resolved : ∀ past start future, a.steps commands = past ++ start :: future →
    ∀ legId previous pending kind deadline,
      .startLegReplacement legId previous pending kind deadline ∈ start.effects →
      resolutions (past ++ [start]) legId pending = 0 ∧
        resolutions future legId pending ≤ 1 ∧
        ((a.presentAll commands).state ≠ .transferring →
          resolutions future legId pending = 1)
  promoted : ∀ step ∈ a.steps commands, ∀ legId pending, step.promotes legId pending = true →
    ∃ leg, step.before.leg legId = some leg ∧
      .stopLeg legId leg.bindingGeneration .requested ∈ step.effects
  restored : ∀ start ∈ a.steps commands, ∀ legId previous pending kind deadline,
    .startLegReplacement legId previous pending kind deadline ∈ start.effects →
    ∀ step ∈ a.steps commands, .abortLegReplacement legId pending ∈ step.effects →
      step.after.state ∉ closingStates → start.Restores step legId
  rejected : ∀ step ∈ a.steps commands, step.isApplied = true →
    ∀ atTime deadline pending failure,
      step.command = .finishLegReplacement atTime deadline pending (.rejected failure) →
      ∃ replacement, step.before.replacement = some replacement ∧
        replacement.pendingBindingGeneration = pending ∧
        GivesUp (a.steps commands) step replacement
  elapsed : ∀ step ∈ a.steps commands, step.isApplied = true →
    ∀ atTime generation endingDeadline replacement,
      step.command = .deadlineElapsed atTime .transfer generation endingDeadline →
      step.before.replacement = some replacement → GivesUp (a.steps commands) step replacement

namespace CallAggregate

private theorem replacementHistory (valid : a.Valid) (commands : List CallCommand) :
    ReplacementHistory (a.steps commands) (a.presentAll commands) := by
  refine run_induction valid ?_ (fun _ _ stepValid history => history.next stepValid) commands
  exact ⟨nofun, nofun, fun _ => .nil, nofun, fun _ member => (nomatch member),
    fun _ member => (nomatch member)⟩

private theorem mem_reserved {effects legId previous pending kind deadline}
    (starts : .startLegReplacement legId previous pending kind deadline ∈ effects) :
    pending ∈ reserved effects legId :=
  List.mem_filterMap.mpr ⟨_, starts, by simp [EffectIntent.reserves]⟩

private theorem step_leg_id (valid : a.Valid) {commands step} (member : step ∈ a.steps commands)
    (slot : LegSlot) : (step.before.legAt slot).id = (a.legAt slot).id := by
  obtain ⟨first, -, -, before, -⟩ := mem_steps member
  rw [before]
  have kept : (a.presentAll first).Valid ∧
      ((a.presentAll first).legAt slot).id = (a.legAt slot).id :=
    foldl_induction (motive := fun now => now.Valid ∧ (now.legAt slot).id = (a.legAt slot).id)
      ⟨valid, rfl⟩ (fun now command held => ⟨CallStep.after_valid (now, command) held.1,
        ((CallStep.stops_once (now, command) held.1).2 slot).id.trans held.2⟩) first
  exact kept.2

private theorem replacement_resolved (valid : a.Valid) {commands past future start}
    (split : a.steps commands = past ++ start :: future) {legId pending}
    (starts : pending ∈ reserved start.effects legId) :
    resolutions (past ++ [start]) legId pending = 0 ∧ resolutions future legId pending ≤ 1 ∧
      ((a.presentAll commands).state ≠ .transferring →
        resolutions future legId pending = 1) := by
  obtain ⟨first, second, rfl, rfl, before, rfl⟩ := steps_split split
  have prefixSteps : a.steps (first ++ [start.command]) = a.steps first ++ [start] := by
    rw [steps_append, ← before]
    rfl
  have reached : a.presentAll (first ++ [start.command]) = start.after := by
    rw [presentAll_append, ← before]
    rfl
  have startValid : start.before.Valid := before ▸ presentAll_valid valid first
  have replacing := (ReplacementHistory.reserved_new startValid starts).1
  have atStart := (replacementHistory valid (first ++ [start.command])).counted _ _ (by
    rw [prefixSteps, emitted_append, emitted_singleton, reserved_append]
    exact List.mem_append_right _ starts)
  rw [prefixSteps, reached, replacing, if_pos rfl] at atStart
  have atEnd := (replacementHistory valid (first ++ start.command :: second)).counted _ _
    (ReplacementHistory.reserved_past (by rw [split]; simp) starts)
  rw [split, ← List.singleton_append, ← List.append_assoc, resolutions_append, atStart,
    Nat.zero_add] at atEnd
  refine ⟨atStart, ?_, fun settled => ?_⟩
  · rw [atEnd]
    split <;> simp
  · have last := presentAll_valid valid (first ++ start.command :: second)
    rw [atEnd, not_isReplacing (last.legal.unreplaced settled)]
    rfl

private theorem replacement_restored (valid : a.Valid) {commands start step}
    (place : start ∈ a.steps commands) (member : step ∈ a.steps commands)
    {legId previous pending kind deadline}
    (starts : .startLegReplacement legId previous pending kind deadline ∈ start.effects)
    (aborts : .abortLegReplacement legId pending ∈ step.effects)
    (early : step.after.state ∉ closingStates) : start.Restores step legId := by
  have stepValid := step_valid valid member
  have aborted : 0 < abortCount step.effects legId pending :=
    List.countP_pos_iff.mpr ⟨_, aborts, by simp [EffectIntent.aborts]⟩
  obtain ⟨replacing, -, -⟩ := ReplacementHistory.aborts_restores stepValid aborted early
  obtain ⟨slot, named, -⟩ := stepValid.isReplacing_at replacing
  have afterNamed : (step.after.legAt slot).id = legId :=
    ((step.stops_once stepValid).2 slot).id.trans named
  have startNamed : (start.before.legAt slot).id = legId :=
    (step_leg_id valid place slot).trans ((step_leg_id valid member slot).symm.trans named)
  obtain ⟨route, connected⟩ := (replacementHistory valid commands).restored _ place _
    _ (mem_reserved starts) _ member aborted early _ afterNamed
  exact ⟨_, _,
    (leg_eq_some_iff (step_valid valid place).distinct _ _).mpr ⟨slot, rfl, startNamed⟩,
    (leg_eq_some_iff (step.after_valid stepValid).distinct _ _).mpr ⟨slot, rfl, afterNamed⟩,
    route.1, route.2, connected⟩

private theorem gives_up (valid : a.Valid) {commands step} (member : step ∈ a.steps commands)
    (applied : step.isApplied = true) (gives : step.command.givesUp = true) {replacement}
    (pending : step.before.replacement = some replacement) :
    GivesUp (a.steps commands) step replacement := by
  have stepValid := step_valid valid member
  cases step.happened with
  | nothing unapplied => cases applied.symm.trans unapplied
  | moved _ move =>
    obtain ⟨sent, settled, active⟩ := move.gives_up gives pending
    have aborted := (mem_signals.mp sent).1
    have active : step.after.state = .active := active
    have early : step.after.state ∉ closingStates := by
      rw [active]
      decide
    have counted : 0 < abortCount step.effects replacement.legId
        replacement.pendingBindingGeneration :=
      List.countP_pos_iff.mpr ⟨_, aborted, by simp [EffectIntent.aborts]⟩
    obtain ⟨replacing, route, connected⟩ :=
      ReplacementHistory.aborts_restores stepValid counted early
    obtain ⟨slot, named, -⟩ := stepValid.isReplacing_at replacing
    refine ⟨aborted, settled, active, ⟨_, _,
      (leg_eq_some_iff stepValid.distinct _ _).mpr ⟨slot, rfl, named⟩,
      (leg_eq_some_iff (step.after_valid stepValid).distinct _ _).mpr ⟨slot, rfl, ?_⟩,
      (route slot).1, (route slot).2, connected slot named⟩, ?_⟩
    · exact ((step.stops_once stepValid).2 slot).id.trans named
    · intro _ place _ _ _ starts
      exact replacement_restored valid place member starts aborted early

private theorem finished_pending {step : CallStep} (applied : step.isApplied = true)
    {atTime deadline pending result}
    (command : step.command = .finishLegReplacement atTime deadline pending result) :
    ∃ replacement, step.before.replacement = some replacement ∧
      replacement.pendingBindingGeneration = pending := by
  cases step.happened with
  | nothing unapplied => cases applied.symm.trans unapplied
  | moved _ move =>
    rw [command] at move
    exact move.finished_pending

/-- In every run the generations reserved for a leg increase, every replacement that is started is
resolved at most once and exactly once when the transfer is over, a promotion stops the generation
before it, and a rejected replacement or one that runs out of time is given up and leaves the leg as
it was. -/
theorem leg_replacements (validated : a.validate = .ok ()) (commands : List CallCommand) :
    LegReplacements a commands where
  increasing := (replacementHistory (validate_iff.mp validated) commands).increasing
  resolved := fun _ start _ split legId previous pending kind deadline starts =>
    replacement_resolved (validate_iff.mp validated) split (mem_reserved starts)
  promoted := fun step member legId pending promotes =>
    CallStep.promotes_stops (step_valid (validate_iff.mp validated) member) promotes
  restored := fun start place legId previous pending kind deadline starts step member aborts
      early => replacement_restored (validate_iff.mp validated) place member starts aborts early
  rejected := fun step member applied atTime deadline pending failure command => by
    obtain ⟨replacement, replacing, same⟩ := finished_pending applied command
    refine ⟨replacement, replacing, same, ?_⟩
    exact gives_up (validate_iff.mp validated) member applied (by rw [command]; rfl) replacing
  elapsed := fun step member applied _ _ _ replacement command replacing =>
    gives_up (validate_iff.mp validated) member applied (by rw [command]; rfl) replacing

theorem leg_replacements_rejected :
    Sample.newCall.validate = .ok () ∧ LegReplacements Sample.newCall Sample.replacedTwice ∧
      reserved (emitted (Sample.newCall.steps Sample.replacedTwice)) Sample.calleeId = [2, 3] ∧
      resolutions (Sample.newCall.steps Sample.replacedTwice) Sample.calleeId 2 = 1 ∧
      resolutions (Sample.newCall.steps Sample.replacedTwice) Sample.calleeId 3 = 1 :=
  ⟨by decide, leg_replacements (by decide) _, by decide +kernel⟩

end CallAggregate

end Bridgefu.CallEngine
