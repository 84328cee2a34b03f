/- digest: What a valid call is: validation as a structure, and the legs that every change keeps valid. -/

import Bridgefu.CallEngine.Moves

/-!
Validation is read as a structure with one field per group of checks. The part about call state,
legs, replacement, outcome and deadlines speaks of the core only, so that it can be carried
through the moves.
-/

set_option autoImplicit false

namespace Bridgefu.CallEngine

open Lib CallAggregate

variable {a : CallAggregate}

/-- Leg states that a call in the given state may have. -/
def legAllowedIn : CallState → LegState → Bool
  | .pending, leg => decide (leg = .pending)
  | .connecting, leg => decide (leg ∈ [LegState.pending, .awaitingAttach, .signaling, .connected])
  | .active, leg | .transferring, leg => decide (leg ∈ [LegState.connected, .held])
  | .ending, leg => decide (leg ∈ [LegState.ending, .ended, .failed])
  | .ended, leg => decide (leg = .ended)
  | .failed, leg => leg.isTerminal

def outcomeAllowedIn : CallState → Option TerminalOutcome → Bool
  | .ending, outcome => outcome.isSome
  | .ended, outcome => decide (outcome = some .ended)
  | .failed, outcome => outcome.any TerminalOutcome.isFailed
  | _, outcome => outcome.isNone

/-- A leg with consistent generations, timestamps and failure. -/
structure LegValid (createdAt updatedAt : Timestamp) (leg : Leg) : Prop where
  generation : leg.bindingGeneration ≠ 0
  cursor : leg.bindingGeneration ≤ leg.replacementGenerationCursor
  created : createdAt ≤ leg.createdAt
  changed : leg.createdAt ≤ leg.stateChangedAt ∧ leg.stateChangedAt ≤ updatedAt
  connectedAt : ∀ t, leg.connectedAt = some t → leg.createdAt ≤ t ∧ t ≤ updatedAt
  endedAt : ∀ t, leg.endedAt = some t → leg.createdAt ≤ t ∧ t ≤ updatedAt
  failure : leg.state = .failed ↔ leg.failure ≠ none
  ended : leg.state.isTerminal = leg.endedAt.isSome

namespace CallCore

structure Replacing (c : CallCore) (replacement : LegReplacement) (slot : LegSlot) : Prop where
  leg : (c.legAt slot).id = replacement.legId
  held : (c.legAt slot).state = .held
  previous : (c.legAt slot).bindingGeneration = replacement.previousBindingGeneration
  pending : replacement.pendingBindingGeneration = (c.legAt slot).replacementGenerationCursor
  newer : replacement.previousBindingGeneration < replacement.pendingBindingGeneration

theorem Replacing.of_legAt {c next : CallCore} {replacement slot}
    (replacing : c.Replacing replacement slot) (same : next.legAt slot = c.legAt slot) :
    next.Replacing replacement slot :=
  ⟨by rw [same]; exact replacing.leg, by rw [same]; exact replacing.held,
    by rw [same]; exact replacing.previous, by rw [same]; exact replacing.pending,
    replacing.newer⟩

/-- A core whose parts agree with its call state. -/
structure Legal (c : CallCore) : Prop where
  legs : ∀ slot, legAllowedIn c.state (c.legAt slot).state = true
  outcome : outcomeAllowedIn c.state c.outcome = true
  failed : c.state = .ending → (∃ slot, (c.legAt slot).state = .failed) →
    c.outcome.any TerminalOutcome.isFailed = true
  deadlines : ∀ kind, c.armed kind = true → deadlineAllowedIn kind c.state = true
  transferring : c.replacement ≠ none → c.state = .transferring ∧ c.armed .transfer = true
  replacing : ∀ replacement, c.replacement = some replacement → ∃ slot, c.Replacing replacement slot

end CallCore

structure CallAggregate.Valid (a : CallAggregate) : Prop where
  distinct : a.left.id ≠ a.right.id
  flows : validateMediaFlows a.left.mediaFlow a.right.mediaFlow = .ok ()
  created : a.createdAt ≤ a.updatedAt
  changed : a.stateChangedAt ≤ a.updatedAt
  legs : ∀ slot, LegValid a.createdAt a.updatedAt (a.legAt slot)
  legal : a.core.Legal

namespace CallAggregate

private theorem validateLeg_iff (leg : Leg) :
    a.validateLeg leg = .ok () ↔ LegValid a.createdAt a.updatedAt leg := by
  simp only [validateLeg, bind_eq_ok, exists_unit, reject_eq_ok, not_or, not_and, Int.not_lt,
    not_not, Option.any_eq_true, decide_eq_true_eq, not_exists]
  constructor
  · rintro ⟨generation, cursor, ⟨created, changed, recent, connectedAt, endedAt⟩, detailed, sound,
      ended⟩
    exact ⟨generation, Nat.not_lt.mp cursor, created, ⟨changed, recent⟩,
      connectedAt, endedAt,
      ⟨detailed, fun given => Decidable.byContradiction fun other =>
        given (sound other)⟩, ended⟩
  · intro valid
    exact ⟨valid.generation, Nat.not_lt.mpr valid.cursor,
      ⟨valid.created, valid.changed.1, valid.changed.2, valid.connectedAt,
        valid.endedAt⟩, valid.failure.mp,
      fun other => Decidable.byContradiction fun given => other (valid.failure.mpr given),
      valid.ended⟩

private theorem forall_slot {holds : LegSlot → Prop} :
    (∀ slot, holds slot) ↔ holds .left ∧ holds .right :=
  ⟨fun every => ⟨every .left, every .right⟩, fun both slot => by
    cases slot
    · exact both.1
    · exact both.2⟩

theorem exists_slot {holds : LegSlot → Prop} :
    (∃ slot, holds slot) ↔ holds .left ∨ holds .right := by
  constructor
  · rintro ⟨slot, held⟩
    cases slot
    · exact .inl held
    · exact .inr held
  · rintro (held | held)
    · exact ⟨.left, held⟩
    · exact ⟨.right, held⟩

private theorem validateState_iff : a.validateState = .ok () ↔
    (∀ slot, legAllowedIn a.state (a.legAt slot).state = true) ∧
      (a.state ∈ [CallState.ending, .ended, .failed] →
        outcomeAllowedIn a.state a.terminalOutcome = true) ∧
      (a.state = .ending → (∃ slot, (a.legAt slot).state = .failed) →
        a.terminalOutcome.any TerminalOutcome.isFailed = true) := by
  unfold validateState
  cases state : a.state with
  | pending =>
    simp [forall_slot, legAt, legs, legAllowedIn]
    grind
  | connecting | active | transferring =>
    simp [forall_slot, legAt, legs, legAllowedIn]
    grind
  | ending =>
    simp [forall_slot, legAt, legs, legAllowedIn, outcomeAllowedIn, Option.isSome_iff_ne_none]
    grind
  | ended | failed =>
    simp [forall_slot, legAt, legs, legAllowedIn, outcomeAllowedIn]
    grind

theorem leg_eq_some_iff (distinct : a.left.id ≠ a.right.id) (id : LegId) (leg : Leg) :
    a.leg id = some leg ↔ ∃ slot, a.legAt slot = leg ∧ leg.id = id := by
  rw [exists_slot]
  unfold CallAggregate.leg
  simp only [legAt]
  grind

private theorem validateReplacement_iff (distinct : a.left.id ≠ a.right.id) :
    a.validateReplacement = .ok () ↔ ∀ replacement, a.replacement = some replacement →
      (a.state = .transferring ∧ a.core.armed .transfer = true) ∧
        ∃ slot, a.core.Replacing replacement slot := by
  unfold validateReplacement
  cases pending : a.replacement with
  | none => simp
  | some =>
    simp only [bind_eq_ok, orFail_eq_ok, reject_eq_ok, not_or, not_not, Option.some.injEq,
      forall_eq']
    constructor
    · rintro ⟨_, found, transferring, held, previous, cursor, newer, armed⟩
      obtain ⟨slot, same, id⟩ := (leg_eq_some_iff distinct _ _).mp found
      subst same
      exact ⟨⟨transferring, Option.isSome_iff_ne_none.mpr armed⟩, slot, id, held, previous, cursor,
        by omega⟩
    · rintro ⟨⟨transferring, armed⟩, slot, ⟨id, held, previous, cursor, newer⟩⟩
      exact ⟨a.legAt slot, (leg_eq_some_iff distinct _ _).mpr ⟨slot, rfl, id⟩, transferring, held,
        previous, cursor, by omega, Option.isSome_iff_ne_none.mp armed⟩

theorem validate_iff : a.validate = .ok () ↔ a.Valid := by
  simp only [validate, bind_eq_ok, exists_unit, reject_eq_ok, checkAll_eq_ok, validateLeg_iff,
    validateState_iff, not_or, not_and, Int.not_lt, not_not]
  constructor
  · rintro ⟨distinct, flows, ⟨created, changed⟩, legs, ⟨allowed, outcome, failed⟩, replacing, _,
      early, deadlines, -⟩
    rw [validateReplacement_iff distinct] at replacing
    refine ⟨distinct, flows, created, changed, ?_, ?_⟩
    · rw [forall_slot]
      exact ⟨legs a.left (by simp [CallAggregate.legs]), legs a.right (by simp [CallAggregate.legs])⟩
    · refine ⟨by simpa using allowed, ?_, by simpa using failed, ?_, ?_, fun replacement pending =>
        (replacing replacement pending).2⟩
      · by_cases late : a.state ∈ [CallState.ending, .ended, .failed]
        · exact outcome late
        · have none := early late
          cases state : a.state <;> simp [state] at late <;>
            simp [outcomeAllowedIn, state, none]
      · intro kind armed
        by_contra refused
        refine deadlines (List.any_eq_true.mpr ⟨kind, by cases kind <;> decide, ?_⟩)
        rw [core_state] at refused
        simp only [core] at armed
        simp [armed, refused]
      · intro pending
        obtain ⟨replacement, isSome⟩ := Option.ne_none_iff_exists'.mp pending
        exact (replacing _ isSome).1
  · intro valid
    have legal := valid.legal
    refine ⟨valid.distinct, valid.flows, ⟨valid.created, valid.changed⟩, ?_,
      ⟨by simpa using legal.legs, fun _ => legal.outcome, by simpa using legal.failed⟩, ?_, ?_, ?_,
      ?_, ?_⟩
    · have every := forall_slot.mp valid.legs
      simpa [legs, legAt] using every
    · rw [validateReplacement_iff valid.distinct]
      intro replacement pending
      exact ⟨legal.transferring (by simp [pending]), legal.replacing replacement pending⟩
    · intro other
      by_contra pending
      exact other (legal.transferring pending).1
    · intro early
      have outcome := legal.outcome
      cases state : a.state <;> simp [state] at early <;>
        simpa [outcomeAllowedIn, state] using outcome
    · intro armed
      obtain ⟨kind, -, found⟩ := List.any_eq_true.mp armed
      rw [Bool.and_eq_true, Bool.not_eq_true'] at found
      have allowed := legal.deadlines _ found.1
      rw [core_state, found.2] at allowed
      cases allowed
    · intro terminal armed
      obtain ⟨kind, -, found⟩ := List.any_eq_true.mp armed
      have allowed := legal.deadlines _ found
      cases state : a.state <;> simp [state, CallState.isTerminal] at terminal <;>
        cases kind <;> simp [deadlineAllowedIn, state] at allowed

end CallAggregate

namespace LegValid

variable {createdAt updatedAt atTime : Timestamp} {leg : Leg}
  (valid : LegValid createdAt updatedAt leg) (timely : updatedAt ≤ atTime)

include valid

private theorem unended (up : leg.state.isTerminal = false) : leg.endedAt = none := by
  have ended := valid.ended
  rw [up] at ended
  simpa using ended.symm

private theorem unfailed (up : leg.state.isTerminal = false) : leg.failure = none := by
  by_contra given
  have failed := valid.failure.mpr given
  simp [failed, LegState.isTerminal] at up

include timely

theorem later : LegValid createdAt atTime leg :=
  { valid with
    changed := ⟨valid.changed.1, Int.le_trans valid.changed.2 timely⟩
    connectedAt := fun t stamped =>
      (valid.connectedAt t stamped).imp_right fun recent => Int.le_trans recent timely
    endedAt := fun t stamped =>
      (valid.endedAt t stamped).imp_right fun recent => Int.le_trans recent timely }

private theorem createdAt_le : leg.createdAt ≤ atTime :=
  Int.le_trans valid.changed.1 (Int.le_trans valid.changed.2 timely)

theorem restate (up : leg.state.isTerminal = false) {next} (stays : next.isTerminal = false) :
    LegValid createdAt atTime { leg with state := next, stateChangedAt := atTime } := by
  have moved := valid.later timely
  refine { moved with
    changed := ⟨valid.createdAt_le timely, Int.le_refl _⟩
    failure := ?_
    ended := by simp [stays, valid.unended up] }
  have notFailed : next ≠ .failed := by
    rintro rfl
    cases stays
  simp [notFailed, valid.unfailed up]

theorem reportedLeg (up : leg.state.isTerminal = false) {next failure}
    (detailed : next = .failed ↔ failure ≠ none) :
    LegValid createdAt atTime (CallAggregate.reportedLeg leg atTime next failure) := by
  have moved := valid.later timely
  have made := valid.createdAt_le timely
  refine { moved with
    changed := ⟨made, Int.le_refl _⟩
    connectedAt := fun t stamped => ?_
    endedAt := fun t stamped => ?_
    failure := detailed
    ended := ?_ }
  · rw [CallAggregate.reportedLeg] at stamped
    split at stamped
    · cases stamped
      exact ⟨made, Int.le_refl _⟩
    · exact moved.connectedAt t stamped
  · simp only [CallAggregate.reportedLeg] at stamped
    split at stamped
    · cases stamped
      exact ⟨made, Int.le_refl _⟩
    · exact moved.endedAt t stamped
  · rw [CallAggregate.reportedLeg, valid.unended up]
    cases next.isTerminal <;> rfl

theorem stoppedLeg : LegValid createdAt atTime (CallEngine.stoppedLeg leg atTime) := by
  unfold CallEngine.stoppedLeg
  split_ifs with up
  · rw [LegState.isUp, Bool.and_eq_true, Bool.not_eq_true'] at up
    exact valid.restate timely up.1 rfl
  · exact valid.later timely

theorem startLeg (up : leg.state.isTerminal = false) :
    LegValid createdAt atTime (CallAggregate.startLeg leg atTime).1 := by
  unfold CallAggregate.startLeg
  split
  · exact valid.restate timely up rfl
  · exact valid.later timely

theorem signalIfPending : LegValid createdAt atTime (CallAggregate.signalIfPending leg atTime) := by
  unfold CallAggregate.signalIfPending
  split_ifs with pending
  · exact valid.restate timely (by simp [pending, LegState.isTerminal]) rfl
  · exact valid.later timely

theorem terminatedSource (reason : SourceBeforeAnswerTermination) :
    LegValid createdAt atTime (CallAggregate.terminatedSource leg atTime reason) := by
  have moved := valid.later timely
  have made := valid.createdAt_le timely
  refine { moved with
    changed := ⟨made, Int.le_refl _⟩
    endedAt := fun t stamped => ?_
    failure := ?_
    ended := ?_ }
  · cases stamped
    exact ⟨made, Int.le_refl _⟩
  · cases reason <;> simp [CallAggregate.terminatedSource]
  · cases reason <;> rfl

theorem failUnfinished : LegValid createdAt atTime (CallAggregate.failUnfinished leg atTime) := by
  have moved := valid.later timely
  have made := valid.createdAt_le timely
  unfold CallAggregate.failUnfinished
  split
  · exact moved
  · refine { moved with
      changed := ⟨made, Int.le_refl _⟩
      endedAt := fun t stamped => ?_
      failure := by simp
      ended := rfl }
    cases stamped
    exact ⟨made, Int.le_refl _⟩

variable (up : leg.state.isTerminal = false)
include up

theorem rotatedLeg : LegValid createdAt atTime
      (CallAggregate.rotatedLeg leg atTime (leg.bindingGeneration + 1)) := by
  have moved : LegValid createdAt atTime
      { leg with state := .awaitingAttach, stateChangedAt := atTime } :=
    valid.restate timely up rfl
  refine { moved with generation := Nat.succ_ne_zero _, cursor := ?_ }
  rw [CallAggregate.rotatedLeg, Leg.replacementGenerationCursor]
  cases leg.storedReplacementCursor with
  | none => simp
  | some cursor =>
    by_cases older : cursor < leg.bindingGeneration + 1
    · simp only [Option.any_some, older, decide_true, if_true, Option.getD_some, Nat.le_refl]
    · simp only [Option.any_some, older, decide_false, Bool.false_eq_true, if_false,
        Option.getD_some]
      omega

theorem heldLeg : LegValid createdAt atTime
      (CallAggregate.heldLeg leg atTime (leg.replacementGenerationCursor + 1)) := by
  have moved : LegValid createdAt atTime { leg with state := .held, stateChangedAt := atTime } :=
    valid.restate timely up rfl
  have cursor := valid.cursor
  refine { moved with cursor := ?_ }
  change leg.bindingGeneration ≤ leg.replacementGenerationCursor + 1
  omega

theorem settledLeg {replacement}
    (cursor : replacement.pendingBindingGeneration = leg.replacementGenerationCursor)
    (newer : leg.bindingGeneration < replacement.pendingBindingGeneration)
    (outcome : LegReplacementResult) : LegValid createdAt atTime
      (CallAggregate.settledLeg leg atTime replacement outcome) := by
  have moved : LegValid createdAt atTime
      { leg with state := .connected, stateChangedAt := atTime } :=
    valid.restate timely up rfl
  cases outcome with
  | rejected => exact moved
  | connected =>
    refine { moved with
      generation := ?_, cursor := ?_, failure := by simp [CallAggregate.settledLeg] }
    · change replacement.pendingBindingGeneration ≠ 0
      omega
    · -- the cursor is ahead of the generation, so it is stored and stays
      have stored : leg.storedReplacementCursor = some replacement.pendingBindingGeneration := by
        unfold Leg.replacementGenerationCursor at cursor
        cases found : leg.storedReplacementCursor with
        | none =>
          rw [found] at cursor
          rw [Option.getD_none] at cursor
          omega
        | some =>
          rw [found] at cursor
          simpa using cursor.symm
      simp [CallAggregate.settledLeg, Leg.replacementGenerationCursor, stored]

end LegValid

theorem validLegTransition_up {state next} (transition : validLegTransition state next = true) :
    state.isTerminal = false := by
  cases state <;> first | rfl | cases transition

namespace CallAggregate.Valid

theorem leg_up (valid : a.Valid) (early : a.state ∉ [CallState.ending, .ended, .failed])
    (slot : LegSlot) : (a.legAt slot).state.isTerminal = false := by
  have allowed := valid.legal.legs slot
  rw [core_state] at allowed
  cases state : a.state <;> simp at early <;> rw [state] at allowed <;>
    cases leg : (a.legAt slot).state <;> simp_all [legAllowedIn, LegState.isTerminal]

theorem legIndex_iff (valid : a.Valid) (legId : LegId) (slot : LegSlot) :
    a.legIndex legId = .ok slot ↔ (a.legAt slot).id = legId := by
  have distinct := valid.distinct
  unfold legIndex
  cases slot <;> rw [legAt] <;> grind

theorem slot_unique (valid : a.Valid) {first second}
    (same : (a.legAt first).id = (a.legAt second).id) : first = second := by
  have distinct := valid.distinct
  cases first <;> cases second <;> first | rfl | exact absurd same distinct |
    exact absurd same.symm distinct

theorem replacing_at (valid : a.Valid) {replacement slot}
    (pending : a.replacement = some replacement) (found : a.legIndex replacement.legId = .ok slot) :
    a.core.Replacing replacement slot := by
  obtain ⟨held, replacing⟩ := valid.legal.replacing _ pending
  have named := (valid.legIndex_iff _ _).mp found
  have same : held = slot := valid.slot_unique (by rw [named, ← replacing.leg, core_legAt])
  exact same ▸ replacing

theorem replaced_leg (valid : a.Valid) {replacement} (pending : a.replacement = some replacement) :
    ∃ leg, a.leg replacement.legId = some leg ∧
      leg.bindingGeneration = replacement.previousBindingGeneration ∧
      leg.bindingGeneration < replacement.pendingBindingGeneration := by
  obtain ⟨slot, named, -, previous, -, newer⟩ := valid.legal.replacing _ pending
  exact ⟨_, (leg_eq_some_iff valid.distinct _ _).mpr ⟨slot, rfl, named⟩, previous, previous ▸ newer⟩

end CallAggregate.Valid

end Bridgefu.CallEngine
