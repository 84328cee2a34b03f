/- digest: An execution plan accepted for a call is accepted after every run of the call. -/

import Bridgefu.CallEngine.LegStops
import Bridgefu.Persistence.Execution

set_option autoImplicit false

namespace Bridgefu.CallEngine

open Lib CallAggregate CallCore

variable {a : CallAggregate}

/-- A later version of a leg: of the first generation only if it has been all along, and then of
the kind it had. -/
structure LaterLeg (before after : Leg) : Prop extends SameLeg before after where
  first : after.bindingGeneration = 1 → before.bindingGeneration = 1 ∧ after.kind = before.kind

private theorem CallStep.later (step : CallStep) (valid : step.before.Valid) (slot : LegSlot) :
    LaterLeg (step.before.legAt slot) (step.after.legAt slot) := by
  cases step.happened with
  | nothing _ same => exact same ▸ ⟨.refl _, fun first => ⟨first, rfl⟩⟩
  | moved _ _ same =>
    have succeeds := (step.stops_once valid).2 slot
    have grows := succeeds.generation
    have started := (valid.legs slot).generation
    refine ⟨?_, fun first => ⟨by omega, succeeds.kind (by omega)⟩⟩
    cases slot
    · exact same.left
    · exact same.right

private theorem CallAggregate.presentAll_later (valid : a.Valid) (commands : List CallCommand)
    (slot : LegSlot) : LaterLeg (a.legAt slot) ((a.presentAll commands).legAt slot) :=
  run_induction (motive := fun _ now => LaterLeg (a.legAt slot) (now.legAt slot)) valid
    ⟨.refl _, fun first => ⟨first, rfl⟩⟩ (fun _ step held later =>
      have next := step.later held slot
      ⟨later.toSameLeg.trans next.toSameLeg, fun first =>
        have ⟨second, same⟩ := next.first first
        ⟨(later.first second).1, same.trans (later.first second).2⟩⟩) commands

end Bridgefu.CallEngine

namespace Bridgefu.CallService

open Lib CallEngine

namespace CallExecutionPlan

variable {plan : CallExecutionPlan} {before after : CallAggregate}
  (later : ∀ slot, LaterLeg (before.legAt slot) (after.legAt slot))
include later

private theorem any_later {holds} (same : ∀ {leg next}, SameLeg leg next → holds next = holds leg) :
    after.legs.any holds = before.legs.any holds := by
  have left := same (later .left).toSameLeg
  have right := same (later .right).toSameLeg
  rw [CallAggregate.legs, List.any_cons]
  exact congrArg₂ _ left (congrArg (· || false) right)

private theorem leg_later {legId leg} (found : before.leg legId = some leg) :
    ∃ next, after.leg legId = some next ∧ LaterLeg leg next :=
  CallAggregate.leg_found (fun slot => (later slot).id) later found

omit later in
private theorem initiator_same {leg next : Leg} (same : SameLeg leg next) :
    next.signalingInitiator = leg.signalingInitiator := by
  unfold Leg.signalingInitiator
  rw [same.initiator, same.direction]

private theorem semantics_later (accepted : plan.validateLegSemantics before = .ok ()) :
    plan.validateLegSemantics after = .ok () := by
  unfold validateLegSemantics at *
  split_ifs at accepted ⊢
  · rw [any_later later fun same => by
      rw [initiator_same same, same.direction, same.mediaFlow]]
    exact accepted
  · simp only [bind_eq_ok, exists_unit] at accepted ⊢
    refine ⟨accepted.1, checkAllAfter_mono (fun _ _ checked => ?_) accepted.2.1, ?_⟩
    · simp only [bind_eq_ok, exists_unit, orFail_eq_ok] at checked ⊢
      obtain ⟨fresh, _, found, agrees⟩ := checked
      obtain ⟨next, found', later⟩ := leg_later later found
      refine ⟨fresh, next, found', ?_⟩
      rw [initiator_same later.toSameLeg, later.mediaFlow]
      exact agrees
    · rw [any_later later fun same => by rw [same.id]]
      exact accepted.2.2

omit later in
private theorem kind_later {leg next : Leg} (later : LaterLeg leg next) {kind : LegKind}
    (fits : ¬ (leg.bindingGeneration = 1 ∧ leg.kind ≠ kind)) :
    ¬ (next.bindingGeneration = 1 ∧ next.kind ≠ kind) := by
  rintro ⟨first, other⟩
  obtain ⟨first', same⟩ := later.first first
  exact fits ⟨first', same ▸ other⟩

variable [Libraries]

private theorem validateAgainst_later (accepted : plan.validateAgainst before = .ok ()) :
    plan.validateAgainst after = .ok () := by
  simp only [validateAgainst, bind_eq_ok, exists_unit] at accepted ⊢
  obtain ⟨version, distinct, semantics, legs, covered, starts, rest⟩ := accepted
  refine ⟨version, distinct, semantics_later later semantics, ?_, ?_, ?_, rest⟩
  · rw [checkAll_eq_ok] at legs ⊢
    intro _ member
    have checked := legs _ member
    simp only [validateLegSpec, bind_eq_ok, exists_unit, orFail_eq_ok, reject_eq_ok] at checked ⊢
    obtain ⟨leg, found, fits, valid⟩ := checked
    obtain ⟨next, found', later'⟩ := leg_later later found
    refine ⟨next, found', kind_later later' fits, ?_⟩
    rw [later'.direction, initiator_same later'.toSameLeg]
    exact valid
  · rw [any_later later fun same => by rw [same.id]]
    exact covered
  · unfold validateAmazonConnectStarts at starts ⊢
    split_ifs at starts ⊢
    · exact starts
    · rw [bind_eq_ok, exists_unit] at starts ⊢
      refine ⟨checkAllAfter_mono (fun _ _ checked => ?_) starts.1, starts.2⟩
      simp only [validateAmazonConnectStart, bind_eq_ok, exists_unit, orFail_eq_ok, reject_eq_ok,
        not_or] at checked ⊢
      obtain ⟨fresh, valid, leg, found, ⟨fits, outbound⟩, matching⟩ := checked
      obtain ⟨next, found', later'⟩ := leg_later later found
      rw [← later'.direction] at outbound
      exact ⟨fresh, valid, next, found', ⟨kind_later later' fits, outbound⟩, matching⟩

private theorem mediaBridgePlan_later (accepted : plan.validateAgainst before = .ok ())
    (leftLegId rightLegId : LegId) :
    plan.mediaBridgePlan after leftLegId rightLegId =
      plan.mediaBridgePlan before leftLegId rightLegId := by
  unfold mediaBridgePlan
  rw [validateAgainst_later later accepted, accepted]
  have related := CallAggregate.leg_related (fun slot => (later slot).id) later
  have left := related leftLegId
  have right := related rightLegId
  generalize before.leg leftLegId = old, after.leg leftLegId = new at left ⊢
  generalize before.leg rightLegId = old', after.leg rightLegId = new' at right ⊢
  cases left with
  | none => rfl
  | some left =>
    cases right with
    | none => rfl
    | some right => simp [orFail, bind, Except.bind, left.mediaFlow, right.mediaFlow]

end CallExecutionPlan

open CallExecutionPlan in
/-- A plan accepted for a call is accepted after every run of it, and bridges the same media. -/
theorem plan_stays_valid [Libraries] {plan : CallExecutionPlan} {a : CallAggregate}
    (valid : a.validate = .ok ()) (accepted : plan.validateAgainst a = .ok ())
    (commands : List CallCommand) :
    plan.validateAgainst (a.presentAll commands) = .ok () ∧
      ∀ leftLegId rightLegId, plan.mediaBridgePlan (a.presentAll commands) leftLegId rightLegId =
        plan.mediaBridgePlan a leftLegId rightLegId := by
  have later := CallAggregate.presentAll_later (CallAggregate.validate_iff.mp valid) commands
  exact ⟨validateAgainst_later later accepted, mediaBridgePlan_later later accepted⟩

open Persistence.Sample in
/-- A callee of the provider is replaced by a SIP leg. -/
theorem plan_stays_valid_replaced :
    let _ := libraries
    let commands := CallEngine.Sample.answering ++
      [.beginLegReplacement 3 calleeId .sip 10, .finishLegReplacement 4 1 2 .connected]
    let replaced := (call .telnyx).presentAll commands
    replaced.right.kind = .sip ∧ plan.validateAgainst replaced = .ok () ∧
      plan.mediaBridgePlan (call .telnyx) callerId calleeId = .ok ⟨true, true⟩ ∧
      plan.mediaBridgePlan replaced callerId calleeId = .ok ⟨true, true⟩ := by
  intro _ commands
  have bridged : plan.mediaBridgePlan (call .telnyx) callerId calleeId = .ok ⟨true, true⟩ := by
    decide +kernel
  have stays := @plan_stays_valid _ plan (call .telnyx) (by decide +kernel)
    (by decide +kernel) commands
  exact ⟨by decide +kernel, stays.1, bridged, (stays.2 _ _).trans bridged⟩

end Bridgefu.CallService
