/- digest: What the guards of the commands guarantee about the check that follows them. -/

import Bridgefu.CallEngine.Runs

/-!
A decision runs the guards of its command, advances the version and then validates the result.
The guards alone keep a call valid except for the two overlooked reports, and those are turned
down by the validation.
-/

set_option autoImplicit false

namespace Bridgefu.CallEngine

open Lib

def DomainError.isInvalidSnapshot : DomainError → Bool
  | .invalidSnapshot _ => true
  | _ => false

@[simp] theorem DomainError.isInvalidSnapshot_of_ne {error : DomainError}
    (other : ∀ text, error ≠ .invalidSnapshot text) : error.isInvalidSnapshot = false := by
  unfold isInvalidSnapshot
  split
  · rename_i text
    exact absurd rfl (other text)
  · rfl

@[simp] theorem DomainError.isInvalidSnapshot_invalidSnapshot (text : String) :
    (DomainError.invalidSnapshot text).isInvalidSnapshot = true := rfl

/-- Every failure is one of the specific errors of a guard. -/
abbrev Specific {α : Type} (attempt : Except DomainError α) : Prop :=
  FailsWith (fun error => error.isInvalidSnapshot = false) attempt

namespace CallAggregate

variable {a : CallAggregate} {command : CallCommand}

/-- The decision as it stands before the result is validated. -/
def beforeCheck (a : CallAggregate) (command : CallCommand) : Except DomainError CallDecision := do
  let result ← a.applyCommand command
  let next := result.draft.aggregate
  let aggregate ← (if result.disposition = .applied then do
      let version ← nextVersion next.version
      return { next with version := version, updatedAt := command.atTime }
    else return next)
  return ⟨aggregate, result.draft.effects, result.disposition⟩

private theorem decide_eq_beforeCheck (a : CallAggregate) (command : CallCommand) :
    a.decide command = (do
      let decision ← a.beforeCheck command
      decision.aggregate.validate
      return decision) := by
  unfold decide beforeCheck
  cases a.applyCommand command with
  | error => rfl
  | ok result =>
    simp only [bind, Except.bind]
    split
    · cases nextVersion result.draft.aggregate.version <;> rfl
    · rfl

@[simp] theorem nextGeneration_specific (kind : String) (current : Nat) :
    Specific (nextGeneration kind current) := by
  unfold nextGeneration
  split <;> simp

@[simp] theorem legIndex_specific (a : CallAggregate) (id : LegId) : Specific (a.legIndex id) := by
  unfold legIndex
  split
  · simp
  · split <;> simp

@[simp] theorem ensureTimestamp_specific (a : CallAggregate) (atTime : Timestamp) :
    Specific (a.ensureTimestamp atTime) := by
  simp [ensureTimestamp]

@[simp] theorem compareBindingGeneration_specific (legId : LegId) (current supplied : Nat) :
    Specific (compareBindingGeneration legId current supplied) := by
  unfold compareBindingGeneration
  split
  · simp
  · split <;> simp

@[simp] theorem compareDeadlineGeneration_specific (a : CallAggregate) (kind : DeadlineKind)
    (supplied : Nat) : Specific (a.compareDeadlineGeneration kind supplied) := by
  unfold compareDeadlineGeneration
  simp only
  split
  · simp
  · split <;> simp

@[simp] theorem armDeadlineInternal_specific (d : Draft) (kind : DeadlineKind)
    (dueAt : Timestamp) : Specific (d.armDeadlineInternal kind dueAt) := by
  simp [Draft.armDeadlineInternal, nextDeadlineGeneration]

@[simp] theorem beginEndingInternal_specific (d : Draft) (atTime : Timestamp)
    (outcome : TerminalOutcome) (reason : StopLegReason) (endingDeadline : Option Timestamp) :
    Specific (d.beginEndingInternal atTime outcome reason endingDeadline) := by
  unfold Draft.beginEndingInternal
  simp only
  split
  · simp
  · split <;> simp

@[simp] theorem reconcileLegState_specific (d : Draft) (changed : LegSlot) (atTime : Timestamp) :
    Specific (d.reconcileLegState changed atTime) := by
  unfold Draft.reconcileLegState
  simp only
  split
  · simp
  · split
    · split <;> simp
    · split <;> simp

private theorem current_specific {α compared}
    {next : Option α → Except DomainError CommandResult} (compares : Specific compared)
    (stale : ∀ disposition, Specific (next (some disposition))) (current : Specific (next none)) :
    Specific (compared >>= next) := by
  refine (failsWith_bind _ _).mpr ⟨compares, fun outcome _ => ?_⟩
  cases outcome with
  | none => exact current
  | some disposition => exact stale disposition

private theorem found_specific {legId} {next : LegSlot → Except DomainError CommandResult}
    (every : ∀ slot, Specific (next slot)) : Specific (a.legIndex legId >>= next) :=
  (failsWith_bind _ _).mpr ⟨legIndex_specific a legId, fun slot _ => every slot⟩

private theorem setLegState_specific (a : CallAggregate) (atTime : Timestamp) (legId : LegId)
    (supplied : Nat) (next : LegState) (failure : Option FailureDetails) :
    Specific (a.setLegState atTime legId supplied next failure) := by
  refine found_specific fun _ => current_specific (by simp) (by simp) ?_
  simp only [failsWith_bind, ensureTimestamp_specific, true_and]
  refine fun _ _ => ⟨by simp, fun _ _ => ⟨by simp, fun _ _ => ⟨by simp, fun _ _ => ?_⟩⟩⟩
  split <;> simp

private theorem sourceTerminatedBeforeAnswer_specific (a : CallAggregate) (atTime : Timestamp)
    (legId : LegId) (supplied : Nat) (reason : SourceBeforeAnswerTermination) :
    Specific (a.sourceTerminatedBeforeAnswer atTime legId supplied reason) := by
  refine found_specific fun _ => current_specific (by simp) (by simp) ?_
  simp only [failsWith_bind, ensureTimestamp_specific, true_and]
  refine fun _ _ => ⟨by simp, fun _ _ => ?_⟩
  split <;> simp

private theorem finishTransfer_specific (a : CallAggregate) (atTime : Timestamp) (supplied : Nat)
    (outcome : TransferResult) : Specific (a.finishTransfer atTime supplied outcome) := by
  refine current_specific (by simp) (by simp) ?_
  simp only [failsWith_bind, ensureTimestamp_specific, true_and]
  refine fun _ _ => ⟨by simp, fun _ _ => ?_⟩
  split <;> simp

private theorem finishLegReplacement_specific (a : CallAggregate) (atTime : Timestamp)
    (suppliedDeadline suppliedBinding : Nat) (outcome : LegReplacementResult) :
    Specific (a.finishLegReplacement atTime suppliedDeadline suppliedBinding outcome) := by
  refine current_specific (by simp) (by simp) ?_
  refine (failsWith_bind _ _).mpr ⟨by simp, fun _ _ => ?_⟩
  split
  · split <;> simp
  · refine (failsWith_bind _ _).mpr ⟨by simp, fun _ _ => ?_⟩
    split <;> simp

private theorem deadlineElapsed_specific (a : CallAggregate) (atTime : Timestamp)
    (kind : DeadlineKind) (supplied : Nat) (endingDeadline : Option Timestamp) :
    Specific (a.deadlineElapsed atTime kind supplied endingDeadline) := by
  refine current_specific (by simp) (by simp) ?_
  simp only
  split
  · simp
  · simp only [failsWith_bind, ensureTimestamp_specific, true_and]
    refine fun _ _ => ⟨by simp, fun _ _ => ⟨by simp, fun _ _ => ?_⟩⟩
    split <;> simp

private theorem applyCommand_specific (a : CallAggregate) (command : CallCommand) :
    Specific (a.applyCommand command) := by
  cases command with
  | startConnecting => simp [applyCommand, startConnecting]
  | setLegState => exact setLegState_specific a _ _ _ _ _
  | sourceTerminatedBeforeAnswer => exact sourceTerminatedBeforeAnswer_specific a _ _ _ _
  | providerMediaStarted =>
    exact found_specific fun slot => current_specific (by simp) (by simp) (by simp)
  | providerMediaAttached => simp [applyCommand, providerMediaAttached]
  | rotateLegBinding =>
    exact found_specific fun slot =>
      current_specific (by simp) (by simp) (by simp [nextBindingGeneration])
  | armDeadline => simp [applyCommand, armDeadlineCommand]
  | beginTransfer => simp [applyCommand, beginTransfer]
  | beginLegReplacement => simp [applyCommand, beginLegReplacement, nextBindingGeneration]
  | finishTransfer => exact finishTransfer_specific a _ _ _
  | finishLegReplacement => exact finishLegReplacement_specific a _ _ _ _
  | beginEnding =>
    simp only [applyCommand, beginEndingCommand, failsWith_bind, ensureTimestamp_specific, true_and]
    refine fun _ _ => ⟨by simp, fun _ _ => ?_⟩
    split <;> simp
  | deadlineElapsed => exact deadlineElapsed_specific a _ _ _ _

private theorem beforeCheck_specific (a : CallAggregate) (command : CallCommand) :
    Specific (a.beforeCheck command) := by
  refine (failsWith_bind _ _).mpr ⟨applyCommand_specific a command, fun _ _ => ?_⟩
  split <;> simp [nextVersion]

/-- Only the consistency checks of validation report an invalid snapshot. -/
theorem validate_invalidSnapshot (distinct : a.left.id ≠ a.right.id)
    (flows : validateMediaFlows a.left.mediaFlow a.right.mediaFlow = .ok ()) :
    FailsWith (fun error => error.isInvalidSnapshot = true) a.validate := by
  have leg : ∀ leg, FailsWith (fun error => error.isInvalidSnapshot = true) (a.validateLeg leg) := by
    intro leg
    simp [validateLeg]
  have state : FailsWith (fun error => error.isInvalidSnapshot = true) a.validateState := by
    unfold validateState
    split <;> simp
  have replacing :
      FailsWith (fun error => error.isInvalidSnapshot = true) a.validateReplacement := by
    unfold validateReplacement
    split <;> simp
  simp [validate, distinct, flows, failsWith_checkAll leg, state, replacing]

private theorem beforeCheck_valid (valid : a.Valid) (seen : ¬ Overlooked a command) {decision}
    (done : a.beforeCheck command = .ok decision) : decision.aggregate.Valid := by
  simp only [beforeCheck, bind_eq_ok, pure_eq_ok] at done
  obtain ⟨_, ran, _, advanced, rfl⟩ := done
  obtain ⟨_, other, rfl⟩ | ⟨_, c, _, rfl, ⟨rfl, rfl⟩, move⟩ :=
    applyCommand_moves ran
  · rw [if_neg (by exact other), pure_eq_ok] at advanced
    subst advanced
    exact valid
  · obtain ⟨other, -⟩ | ⟨-, follows⟩ := applyCommand_follows ran
    · exact absurd rfl other
    · rw [if_pos (by rfl)] at advanced
      simp only [bind_eq_ok, pure_eq_ok] at advanced
      obtain ⟨_, -, rfl⟩ := advanced
      have same := follows.same
      exact Move.valid valid seen move
        ⟨same.id, same.tenantId, same.createdAt, same.left, same.right⟩ rfl

private theorem setLegState_applied {slot atTime legId supplied next}
    (guard : ReportGuard a slot atTime legId supplied next none)
    (up : next ∉ [LegState.ending, .ended, .failed]) (early : a.state ≠ .ending)
    (unanswered : ¬ (a.state = .connecting ∧ next = .connected)) :
    a.applyCommand (.setLegState atTime legId supplied next none) =
      .ok (applied ⟨a.setLeg slot (reportedLeg (a.legAt slot) atTime next none), []⟩) := by
  have compared : compareBindingGeneration legId (a.legAt slot).bindingGeneration supplied =
      .ok none := by
    simp [compareBindingGeneration, guard.current]
  have timely : a.ensureTimestamp atTime = .ok () := by
    simpa [ensureTimestamp] using guard.timely
  have reconciled : Draft.reconcileLegState
      ⟨a.setLeg slot (reportedLeg (a.legAt slot) atTime next none), []⟩ slot atTime =
        .ok ⟨a.setLeg slot (reportedLeg (a.legAt slot) atTime next none), []⟩ := by
    have state : (a.setLeg slot (reportedLeg (a.legAt slot) atTime next none)).state = a.state := by
      cases slot <;> rfl
    unfold Draft.reconcileLegState
    simp only [state, legAt_setLeg, if_neg early]
    rw [if_neg, if_neg]
    · exact up
    · rintro ⟨connecting, both⟩
      refine unanswered ⟨connecting, ?_⟩
      have answered := (List.all_eq_true.mp both) (reportedLeg (a.legAt slot) atTime next none)
        (by cases slot <;> simp [legs, setLeg])
      exact of_decide_eq_true answered
  have transition := guard.transition
  have changes := guard.changes
  have started := guard.started
  have goesOn := guard.goesOn
  have notFailed : next ≠ .failed := fun failed => up (by simp [failed])
  simp [applyCommand, setLegState, guard.found, compared, timely, reconciled, transition, changes,
    started, goesOn, notFailed, early]

private theorem Overlooked.applies (valid : a.Valid) (overlooked : Overlooked a command) :
    ∃ slot leg, leg.id = (a.legAt slot).id ∧ leg.mediaFlow = (a.legAt slot).mediaFlow ∧
      a.applyCommand command = .ok (applied ⟨a.setLeg slot leg, []⟩) ∧
      ∀ next : CallAggregate, next.core = a.core.setLeg slot leg → ¬ next.Valid := by
  cases overlooked with
  | @heldEarly slot atTime legId found timely connecting connected =>
    have guard : ReportGuard a slot atTime legId (a.legAt slot).bindingGeneration .held none :=
      { found := found, current := rfl, timely := timely
        goesOn := by simp [connecting, CallState.isTerminal]
        started := by simp [connecting], detailed := by simp, changes := by simp [connected]
        transition := by simp [connected, validLegTransition]
        ending := by simp [connecting] }
    refine ⟨slot, reportedLeg (a.legAt slot) _ .held none, rfl, rfl,
      setLegState_applied guard (by decide) (by simp [connecting]) (by simp),
      fun next core nextValid => ?_⟩
    have allowed := nextValid.legal.legs slot
    rw [core, CallCore.setLeg_state, CallCore.setLeg_legAt, if_pos rfl, core_state,
      connecting] at allowed
    cases allowed
  | @resumed slot atTime replacement pending found timely =>
    have transferring : a.state = .transferring :=
      (valid.legal.transferring (by simp [pending])).1
    have held := (valid.replacing_at pending found).held
    rw [core_legAt] at held
    have guard : ReportGuard a slot atTime replacement.legId (a.legAt slot).bindingGeneration
        .connected none :=
      { found := found, current := rfl, timely := timely
        goesOn := by simp [transferring, CallState.isTerminal]
        started := by simp [transferring], detailed := by simp, changes := by simp [held]
        transition := by simp [held, validLegTransition]
        ending := by simp [transferring] }
    refine ⟨slot, reportedLeg (a.legAt slot) _ .connected none, rfl, rfl,
      setLegState_applied guard (by decide) (by simp [transferring]) (by simp [transferring]),
      fun next core nextValid => ?_⟩
    obtain ⟨_, replacing⟩ := nextValid.legal.replacing _ (by
      rw [core, CallCore.setLeg_replacement]
      exact pending)
    rw [core] at replacing
    have stillHeld := replacing.held
    have named := replacing.leg
    rw [CallCore.setLeg_legAt] at stillHeld named
    split_ifs at stillHeld with another
    · cases stillHeld
    · rw [if_neg another, ← (valid.legIndex_iff _ _).mp found] at named
      exact another (valid.slot_unique named)

/-- The guards settle the command on their own: it is applied with a valid result, ignored, or
turned down by a specific error before the result is validated. -/
inductive GuardsSettle (a : CallAggregate) (command : CallCommand) : Prop
  | applied {decision : CallDecision} (done : a.decide command = .ok decision)
      (isApplied : decision.disposition = .applied)
      (validated : decision.aggregate.validate = .ok ())
  | ignored {decision : CallDecision} (done : a.decide command = .ok decision)
      (other : decision.disposition ≠ .applied) (same : decision.aggregate = a)
  | rejected {error : DomainError} (done : a.decide command = .error error)
      (before : a.beforeCheck command = .error error) (specific : error.isInvalidSnapshot = false)

private theorem settles_of_valid (passes : ∀ decision, a.beforeCheck command = .ok decision →
    decision.aggregate.Valid) : GuardsSettle a command := by
  have split := decide_eq_beforeCheck a command
  cases before : a.beforeCheck command with
  | error _ =>
    rw [before] at split
    exact .rejected split before (beforeCheck_specific a _ _ before)
  | ok decision =>
    have validated := validate_iff.mpr (passes _ before)
    have done : a.decide command = .ok decision := by
      rw [split, before, bind_eq_ok]
      exact ⟨decision, rfl, by simp [validated]⟩
    obtain ⟨other, same, -⟩ | ⟨isApplied, -⟩ := decide_moves done
    · exact .ignored done other same
    · exact .applied done isApplied validated

private theorem decide_overlooked (valid : a.Valid) (overlooked : Overlooked a command)
    (room : a.version < maxPersistedGeneration) :
    ∃ text, a.decide command = .error (.invalidSnapshot text) := by
  obtain ⟨slot, leg, id, flow, applies, invalid⟩ := Overlooked.applies valid overlooked
  have version : nextVersion a.version = .ok (a.version + 1) := by
    simpa [nextVersion] using room
  let next : CallAggregate :=
    { a.setLeg slot leg with version := a.version + 1, updatedAt := command.atTime }
  have before : a.beforeCheck command = .ok ⟨next, [], .applied⟩ := by
    simp [beforeCheck, applies, applied, version, next]
  have core : next.core = a.core.setLeg slot leg := core_setLeg a _ leg
  have distinct : next.left.id ≠ next.right.id := by
    have different := valid.distinct
    cases slot <;> simpa [next, setLeg, legAt, id] using different
  have flows : validateMediaFlows next.left.mediaFlow next.right.mediaFlow = .ok () := by
    have flowing := valid.flows
    cases slot <;> simpa [next, setLeg, legAt, flow] using flowing
  rw [decide_eq_beforeCheck, before]
  cases checked : next.validate with
  | ok => exact absurd (validate_iff.mp checked) (invalid next core)
  | error failure =>
    have snapshot := validate_invalidSnapshot distinct flows _ checked
    cases failure with
    | invalidSnapshot text => exact ⟨text, by simp [bind, Except.bind, checked]⟩
    | _ => cases snapshot

private theorem beforeCheck_exhausted (valid : a.Valid) (overlooked : Overlooked a command)
    (full : ¬ a.version < maxPersistedGeneration) (decision : CallDecision) :
    a.beforeCheck command ≠ .ok decision := by
  obtain ⟨_, _, -, -, applies, -⟩ := Overlooked.applies valid overlooked
  intro done
  simp only [beforeCheck, applies, applied, bind_eq_ok, nextVersion] at done
  obtain ⟨_, ⟨⟩, _, advanced, -⟩ := done
  simp at advanced
  exact full advanced.1

/-- Validity of the result follows from the guards for all commands but the overlooked ones, and
those are the commands that end in the internal error. -/
theorem guards_settle_iff (valid : a.validate = .ok ()) (command : CallCommand) :
    (GuardsSettle a command ↔
        ¬ (Overlooked a command ∧ a.version < maxPersistedGeneration)) ∧
      ((∃ text, a.decide command = .error (.invalidSnapshot text)) ↔
        Overlooked a command ∧ a.version < maxPersistedGeneration) := by
  rw [validate_iff] at valid
  have fails : Overlooked a command ∧ a.version < maxPersistedGeneration →
      ∃ text, a.decide command = .error (.invalidSnapshot text) :=
    fun ⟨overlooked, room⟩ => decide_overlooked valid overlooked room
  have settles : ¬ (Overlooked a command ∧ a.version < maxPersistedGeneration) →
      GuardsSettle a command := by
    intro passes
    refine settles_of_valid fun decision before => ?_
    by_cases overlooked : Overlooked a command
    · exact absurd before (beforeCheck_exhausted valid overlooked
        (fun room => passes ⟨overlooked, room⟩) decision)
    · exact beforeCheck_valid valid overlooked before
  have exclusive : GuardsSettle a command →
      ¬ ∃ text, a.decide command = .error (.invalidSnapshot text) := by
    rintro settled ⟨text, failed⟩
    cases settled with
    | applied done | ignored done =>
      rw [done] at failed
      cases failed
    | rejected done _ specific =>
      rw [done] at failed
      cases failed
      cases specific
  exact ⟨⟨fun settled overlooked => exclusive settled (fails overlooked), settles⟩,
    ⟨fun failed => by
      by_contra passes
      exact exclusive (settles passes) failed, fails⟩⟩

theorem guards_settle_iff_halfAnswered :
    Sample.halfAnswered.validate = .ok () ∧
      GuardsSettle Sample.halfAnswered (.beginEnding 2 none .requested) ∧
      Overlooked Sample.halfAnswered (.setLegState 2 Sample.callerId 1 .held none) := by
  have valid : Sample.halfAnswered.validate = .ok () := by decide +kernel
  refine ⟨valid, (guards_settle_iff valid _).1.mpr ?_, ((guards_settle_iff valid _).2.mp ?_).1⟩
  · rintro ⟨⟨⟩, -⟩
  · exact ⟨"connecting call contains an incompatible leg state", by decide +kernel⟩

/-- Putting the caller on hold while the callee is still dialled passes every guard, and so does
resuming the leg that a replacement holds. -/
theorem overlooked_reports_invalid :
    Sample.halfAnswered.validate = .ok () ∧
      Sample.halfAnswered.decide (.setLegState 2 Sample.callerId 1 .held none) =
        .error (.invalidSnapshot "connecting call contains an incompatible leg state") ∧
      Sample.replacing.validate = .ok () ∧
      Sample.replacing.decide (.setLegState 4 Sample.calleeId 1 .connected none) =
        .error (.invalidSnapshot
          "replacement state does not match held leg and transfer deadline") := by
  decide +kernel

end CallAggregate

end Bridgefu.CallEngine
