/- digest: The media graph of a call: when its legs are bridged, over the whole effect history. -/

import Bridgefu.CallEngine.Lifecycle

set_option autoImplicit false

namespace Bridgefu.CallEngine

open Lib CallAggregate CallCore

namespace EffectIntent

def isMedia : EffectIntent → Bool
  | .bridgeMedia .. | .unbridgeMedia .. => true
  | _ => false

def isBridge : EffectIntent → Bool
  | .bridgeMedia .. => true
  | _ => false

end EffectIntent

def mediaEffects (effects : List EffectIntent) : List EffectIntent :=
  effects.filter EffectIntent.isMedia

def bridged (effects : List EffectIntent) : Bool :=
  (mediaEffects effects).getLast?.any EffectIntent.isBridge

/-- Should the legs hear each other? -/
def CallCore.isBridged (c : CallCore) : Prop :=
  c.state = .active ∨ (c.state = .transferring ∧ c.replacement = none)

@[simp] theorem mediaEffects_append (first second : List EffectIntent) :
    mediaEffects (first ++ second) = mediaEffects first ++ mediaEffects second :=
  List.filter_append ..

private theorem bridged_append_of_quiet {first second} (quiet : mediaEffects second = []) :
    bridged (first ++ second) = bridged first := by
  simp [bridged, quiet]

private theorem bridged_append_of_single {first second effect}
    (single : mediaEffects second = [effect]) : bridged (first ++ second) = effect.isBridge := by
  simp [bridged, single]

private theorem mediaEffects_signals (effects : List EffectIntent) :
    mediaEffects (signals effects) = mediaEffects effects := by
  unfold mediaEffects signals
  rw [List.filter_filter]
  refine List.filter_congr fun effect _ => ?_
  cases effect <;> rfl

inductive MediaMove (a c : CallCore) (sent : List EffectIntent) : Prop
  | quiet (none : mediaEffects sent = []) (same : c.isBridged ↔ a.isBridged)
  | bridges {left right} (single : mediaEffects sent = [.bridgeMedia left right])
      (apart : ¬ a.isBridged) (together : c.isBridged)
  | unbridges {left right} (single : mediaEffects sent = [.unbridgeMedia left right])
      (apart : ¬ c.isBridged)

namespace CallCore

variable {c : CallCore}

@[simp] theorem mediaEffects_endingSignals (c : CallCore) (reason : StopLegReason) :
    mediaEffects (c.endingSignals reason) = c.unbridgeSignals := by
  have stops : ∀ leg, mediaEffects (stopSignals leg reason) = [] := by
    intro leg
    unfold stopSignals
    split <;> rfl
  have aborts : mediaEffects c.abortSignals = [] := by
    unfold abortSignals
    split <;> rfl
  have unbridges : mediaEffects c.unbridgeSignals = c.unbridgeSignals := by
    unfold unbridgeSignals
    split <;> rfl
  simp [endingSignals, stops, aborts, unbridges]

private theorem not_isBridged_of_closing (closing : c.state ∈ closingStates) : ¬ c.isBridged := by
  rintro (active | ⟨transferring, -⟩)
  · simp [active] at closing
  · simp [transferring] at closing

private theorem teardown_media {a sent} (same : c.state = a.state)
    (sends : mediaEffects sent = c.unbridgeSignals) (atTime : Timestamp) (outcome : TerminalOutcome)
    (deadline : Option Timestamp) : MediaMove a (c.teardown atTime outcome deadline) sent := by
  have apart := not_isBridged_of_closing (c.teardown_state_mem atTime outcome deadline)
  unfold unbridgeSignals at sends
  split_ifs at sends with down
  · exact .unbridges sends apart
  · refine .quiet sends ⟨fun together => absurd together apart, fun together => ?_⟩
    rw [same] at down
    exact absurd (together.imp_right And.left) down

end CallCore

private theorem Move.media {a command c sent} (valid : a.Valid)
    (move : Move a command c sent) : MediaMove a.core c sent := by
  -- nothing is bridged before or after a step of the teardown
  have torn : a.state ∈ closingStates → mediaEffects sent = [] → MediaMove a.core c sent := by
    intro closing quiet
    have stays := closing_of_rank_le (CallState.rank_le (move.state_mem valid)) closing
    exact .quiet quiet (iff_of_false (not_isBridged_of_closing stays)
      (not_isBridged_of_closing closing))
  cases move with
  | started guard =>
    refine .quiet ?_ (by simp [isBridged, arm, moveTo, guard.pending])
    have starts : ∀ leg atTime, (startLeg leg atTime).2.isMedia = false := by
      intro leg atTime
      unfold startLeg
      split <;> rfl
    simp [mediaEffects, starts]
  | reported => exact .quiet rfl (by simp [isBridged])
  | answered guard answered =>
    have connecting : a.state = .connecting := by simpa using answered.1
    exact .bridges rfl (by simp [isBridged, connecting]) (.inl rfl)
  | hungUp => exact teardown_media (by simp) (by simp) _ _ _
  | drained _ ending => exact torn (by simp [ending]) rfl
  | mediaStarted | mediaAttached | rotated => exact .quiet rfl (by simp [isBridged])
  | replacementAttached | rearmed => exact .quiet rfl .rfl
  | transferBegun _ guard =>
    have idle : a.replacement = none := valid.legal.unreplaced (by simp [guard.active])
    exact .quiet rfl
      (by simp [isBridged, arm, moveTo, guard.active, idle])
  | replacementBegun =>
    exact .unbridges rfl (by simp [isBridged, arm, moveTo])
  | @transferFinished _ _ outcome guard =>
    refine .quiet (by cases outcome <;> rfl) ?_
    simp [isBridged, moveTo, guard.transferring, guard.unreplaced]
  | @replacementFinished _ _ _ _ _ outcome guard =>
    refine .bridges (by cases outcome <;> rfl) ?_ (.inl rfl)
    simp [isBridged, guard.transferring, guard.pending]
  | endingBegun => exact teardown_media rfl (by simp) _ _ _
  | endingElapsed guard => exact torn (by simp [elapsed_ending valid guard]) rfl
  | replacementElapsed guard pending =>
    refine .bridges rfl ?_ (.inl rfl)
    have transferring : a.state = .transferring :=
      (valid.legal.transferring (by simp [pending])).1
    simp [isBridged, transferring, pending]
  | @elapsed _ kind =>
    refine teardown_media (a := a.core) (c := a.core.disarm kind) rfl ?_ _ _ _
    rw [mediaEffects_append, mediaEffects_endingSignals]
    cases kind <;> rfl

private theorem CallStep.media (step : CallStep) (valid : step.before.Valid) :
    MediaMove step.before.core step.after.core step.effects := by
  cases step.happened with
  | nothing _ same quiet =>
    rw [same, quiet]
    exact .quiet rfl .rfl
  | moved _ move =>
    cases move.media valid with
    | quiet none same => exact .quiet ((mediaEffects_signals _).symm.trans none) same
    | bridges single apart together =>
      exact .bridges ((mediaEffects_signals _).symm.trans single) apart together
    | unbridges single apart =>
      exact .unbridges ((mediaEffects_signals _).symm.trans single) apart

structure MediaHistory (past : List CallStep) (a : CallAggregate) : Prop where
  bridges : ∀ before effect after, mediaEffects (emitted past) = before ++ effect :: after →
    effect.isBridge = true → bridged before = false
  current : bridged (emitted past) = true ↔ a.core.isBridged

private theorem split_concat {α before after items} {item last : α}
    (split : items ++ [last] = before ++ item :: after) :
    (item = last ∧ before = items) ∨ ∃ rest, items = before ++ item :: rest := by
  rcases List.eq_nil_or_concat after with rfl | ⟨rest, _, rfl⟩
  · obtain ⟨same, single⟩ := List.append_inj' split rfl
    exact .inl ⟨(List.cons.inj single).1.symm, same.symm⟩
  · rw [List.concat_eq_append, ← List.cons_append, ← List.append_assoc] at split
    exact .inr ⟨rest, (List.append_inj' split rfl).1⟩

private theorem mediaEffects_idem (effects : List EffectIntent) :
    mediaEffects (mediaEffects effects) = mediaEffects effects := by
  simp [mediaEffects]

namespace MediaHistory

variable {past : List CallStep} {step : CallStep}

theorem next (history : MediaHistory past step.before) (valid : step.before.Valid) :
    MediaHistory (past ++ [step]) step.after := by
  have lastEffect : ∀ effect, mediaEffects step.effects = [effect] →
      (effect.isBridge = true → bridged (emitted past) = false) →
      ∀ before found after, mediaEffects (emitted (past ++ [step])) = before ++ found :: after →
        found.isBridge = true → bridged before = false := by
    intro effect single apart before found after split isBridge
    rw [emitted_append, emitted_singleton, mediaEffects_append, single] at split
    obtain ⟨rfl, rfl⟩ | ⟨_, earlier⟩ := split_concat split
    · rw [bridged, mediaEffects_idem]
      exact apart isBridge
    · exact history.bridges _ _ _ earlier isBridge
  have current := history.current
  cases step.media valid with
  | quiet none same =>
    constructor
    · rw [emitted_append, emitted_singleton, mediaEffects_append, none, List.append_nil]
      exact history.bridges
    · rw [emitted_append, emitted_singleton, bridged_append_of_quiet none, current, same]
  | bridges single apart together =>
    refine ⟨lastEffect _ single fun _ => ?_, ?_⟩
    · rw [← current] at apart
      simpa using apart
    · rw [emitted_append, emitted_singleton, bridged_append_of_single single]
      exact iff_of_true rfl together
  | unbridges single apart =>
    refine ⟨lastEffect _ single (nofun), ?_⟩
    rw [emitted_append, emitted_singleton, bridged_append_of_single single]
    exact iff_of_false (nofun) apart

end MediaHistory

structure MediaGraph (a : CallAggregate) (commands : List CallCommand) : Prop where
  bridges : ∀ before effect after, emitted (a.steps commands) = before ++ effect :: after →
    effect.isBridge = true → bridged before = false
  current : bridged (emitted (a.steps commands)) = true ↔
    (a.presentAll commands).state = .active ∨
      ((a.presentAll commands).state = .transferring ∧ (a.presentAll commands).replacement = none)
  closed : ∀ past step future, a.steps commands = past ++ step :: future →
    step.after.state ∈ closingStates →
    ∀ effect ∈ emitted (step :: future), effect.isBridge = false

private theorem CallStep.unbridged_of_closing {step : CallStep} (valid : step.before.Valid)
    (closing : step.after.state ∈ closingStates) :
    ∀ effect ∈ step.effects, effect.isBridge = false := by
  intro effect member
  by_contra isBridge
  have media : effect.isMedia = true := by
    cases effect <;> simp_all [EffectIntent.isBridge, EffectIntent.isMedia]
  have kept : effect ∈ mediaEffects step.effects := List.mem_filter.mpr ⟨member, media⟩
  cases step.media valid with
  | quiet none =>
    rw [none] at kept
    cases kept
  | bridges _ _ together => exact not_isBridged_of_closing closing together
  | unbridges single =>
    rw [single, List.mem_singleton] at kept
    exact isBridge (by rw [kept]; rfl)

namespace Created

variable {a : CallAggregate}

private theorem mediaHistory (created : Created a) (commands : List CallCommand) :
    MediaHistory (a.steps commands) (a.presentAll commands) := by
  refine run_induction created.valid ?_
    (fun _ _ valid history => history.next valid) commands
  refine ⟨fun _ _ _ split => ?_, ?_⟩
  · simp [mediaEffects] at split
  · simp [bridged, mediaEffects, isBridged, created.pending]

/-- In every run of a new call the legs are bridged only when they are apart, they are bridged
exactly while they should hear each other, and never again once the teardown has begun. -/
theorem media_graph (created : Created a) (commands : List CallCommand) :
    MediaGraph a commands where
  bridges := fun before effect after split isBridge => by
    have media : effect.isMedia = true := by
      cases effect <;> simp_all [EffectIntent.isBridge, EffectIntent.isMedia]
    have filtered : mediaEffects (emitted (a.steps commands)) =
        mediaEffects before ++ effect :: mediaEffects after := by
      rw [split]
      simp [mediaEffects, media]
    have apart := (created.mediaHistory commands).bridges _ _ _ filtered isBridge
    rwa [bridged, mediaEffects_idem] at apart
  current := (created.mediaHistory commands).current
  closed := fun _ _ _ split =>
    emitted_closing
      (fun _ valid closing => CallStep.unbridged_of_closing valid closing) created.valid split

theorem media_graph_replaced :
    Created Sample.newCall ∧ MediaGraph Sample.newCall Sample.replaced ∧
      mediaEffects (emitted (Sample.newCall.steps Sample.replaced)) =
        [.bridgeMedia Sample.callerId Sample.calleeId,
          .unbridgeMedia Sample.callerId Sample.calleeId,
          .bridgeMedia Sample.callerId Sample.calleeId,
          .unbridgeMedia Sample.callerId Sample.calleeId] :=
  ⟨Sample.newCall_created, media_graph Sample.newCall_created _, by decide +kernel⟩

end Created

end Bridgefu.CallEngine
