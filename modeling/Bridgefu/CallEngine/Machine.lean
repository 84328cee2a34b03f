/- digest: The call as an abstract machine: its core, the moves of the core and the signals they send. -/

import Bridgefu.CallEngine.Laws

/-!
The core of a call is what its life cycle depends on: call state, legs, pending replacement,
outcome and which deadlines are armed. The signals of a command are its effects other than the
scheduling of deadlines. Every applied command is one move of the core, and the laws about whole
runs are proved over moves.
-/

set_option autoImplicit false

namespace Bridgefu.CallEngine

open Lib

@[ext] structure CallCore where
  state : CallState
  left : Leg
  right : Leg
  replacement : Option LegReplacement
  outcome : Option TerminalOutcome
  armed : DeadlineKind → Bool
  stateChangedAt : Timestamp

variable (a : CallAggregate)

def CallAggregate.core : CallCore where
  state := a.state
  left := a.left
  right := a.right
  replacement := a.replacement
  outcome := a.terminalOutcome
  armed := fun kind => (a.deadlines.get kind).dueAt.isSome
  stateChangedAt := a.stateChangedAt

def EffectIntent.isDeadline : EffectIntent → Bool
  | .scheduleDeadline .. | .cancelDeadline .. => true
  | _ => false

def signals (effects : List EffectIntent) : List EffectIntent :=
  effects.filter fun effect => !effect.isDeadline

@[simp] theorem signals_nil : signals [] = [] := rfl

@[simp] theorem signals_append (first second : List EffectIntent) :
    signals (first ++ second) = signals first ++ signals second :=
  List.filter_append ..

@[simp] theorem signals_cons (effect : EffectIntent) (rest : List EffectIntent) :
    signals (effect :: rest) =
      if effect.isDeadline then signals rest else effect :: signals rest := by
  unfold signals
  rw [List.filter_cons]
  cases effect.isDeadline <;> rfl

theorem mem_signals {effect effects} :
    effect ∈ signals effects ↔ effect ∈ effects ∧ effect.isDeadline = false := by
  simp [signals]

namespace CallCore

variable (c : CallCore)

def legAt : LegSlot → Leg
  | .left => c.left
  | .right => c.right

def setLeg (slot : LegSlot) (leg : Leg) : CallCore :=
  match slot with
  | .left => { c with left := leg }
  | .right => { c with right := leg }

def moveTo (state : CallState) (atTime : Timestamp) : CallCore :=
  { c with
    state := state
    stateChangedAt := if c.state = state then c.stateChangedAt else atTime }

def disarm (kind : DeadlineKind) : CallCore :=
  { c with armed := fun other => c.armed other && decide (other ≠ kind) }

def arm (kind : DeadlineKind) : CallCore :=
  { c with armed := fun other => c.armed other || decide (other = kind) }

def finished : Bool := c.left.state.isTerminal && c.right.state.isTerminal

/-- The outcome of a call whose legs are both terminal. -/
def closingOutcome : TerminalOutcome :=
  match c.left.failure, c.right.failure, c.outcome with
  | some failure, _, _ => .failed failure
  | none, some failure, _ => .failed failure
  | none, none, some (.failed failure) => .failed failure
  | none, none, _ => .ended

/-- The call in the terminal state of its outcome. -/
def close (atTime : Timestamp) : CallCore :=
  { c with
    outcome := some c.closingOutcome
    armed := fun _ => false }.moveTo (if c.closingOutcome.isFailed then .failed else .ended) atTime

/-- Close the call if both legs are terminal. -/
def settle (atTime : Timestamp) : CallCore := if c.finished then c.close atTime else c

end CallCore

/-- Is the leg neither terminal nor already being torn down? -/
def LegState.isUp (state : LegState) : Bool := !state.isTerminal && decide (state ≠ .ending)

def stoppedLeg (leg : Leg) (atTime : Timestamp) : Leg :=
  if leg.state.isUp then { leg with state := .ending, stateChangedAt := atTime } else leg

def stopSignals (leg : Leg) (reason : StopLegReason) : List EffectIntent :=
  if leg.state.isUp then [.stopLeg leg.id leg.bindingGeneration reason] else []

/-- A failure on record outlives any later outcome. -/
def selectedOutcome (recorded : Option TerminalOutcome) (outcome : TerminalOutcome) :
    TerminalOutcome :=
  match recorded with
  | some (.failed failure) => .failed failure
  | _ => outcome

namespace CallCore

variable (c : CallCore)

def bridgeSignal : EffectIntent := .bridgeMedia c.left.id c.right.id

def unbridgeSignal : EffectIntent := .unbridgeMedia c.left.id c.right.id

/-- The call with its legs told to stop and only the ending deadline left. -/
def enterEnding (atTime : Timestamp) (outcome : TerminalOutcome) : CallCore :=
  { c with
    left := stoppedLeg c.left atTime
    right := stoppedLeg c.right atTime
    replacement := none
    outcome := some (selectedOutcome c.outcome outcome)
    armed := fun kind => c.armed kind && decide (kind = DeadlineKind.ending) }.moveTo .ending atTime

def unbridgeSignals : List EffectIntent :=
  if c.state = .active ∨ c.state = .transferring then [c.unbridgeSignal] else []

def abortSignals : List EffectIntent :=
  match c.replacement with
  | some replacement =>
    [.abortLegReplacement replacement.legId replacement.pendingBindingGeneration]
  | none => []

def endingSignals (reason : StopLegReason) : List EffectIntent :=
  c.unbridgeSignals ++ c.abortSignals ++ stopSignals c.left reason ++ stopSignals c.right reason

/-- Teardown from the given core, with an optional deadline while a leg is still up. -/
def teardown (atTime : Timestamp) (outcome : TerminalOutcome) (deadline : Option Timestamp) :
    CallCore :=
  let ending := c.enterEnding atTime outcome
  if ending.finished then ending.close atTime
  else if deadline.isSome then ending.arm .ending else ending

def recordFailure (leg : Leg) : CallCore :=
  match leg.failure with
  | some failure => { c with outcome := some (.failed failure) }
  | none => c

end CallCore

namespace CallCore

variable (c : CallCore)

@[simp] theorem setLeg_legAt (slot other : LegSlot) (leg : Leg) :
    (c.setLeg slot leg).legAt other = if other = slot then leg else c.legAt other := by
  cases slot <;> cases other <;> rfl

theorem forall_setLeg {c : CallCore} {P : LegSlot → Leg → Prop} {slot leg}
    (old : ∀ other, P other (c.legAt other)) (new : P slot leg) :
    ∀ other, P other ((c.setLeg slot leg).legAt other) := by
  intro other
  rw [setLeg_legAt]
  split_ifs with here
  · exact here ▸ new
  · exact old other

variable (atTime : Timestamp) (slot : LegSlot)

@[simp] theorem setLeg_state (leg : Leg) : (c.setLeg slot leg).state = c.state := by
  cases slot <;> rfl

@[simp] theorem setLeg_replacement (leg : Leg) :
    (c.setLeg slot leg).replacement = c.replacement := by
  cases slot <;> rfl

@[simp] theorem setLeg_outcome (leg : Leg) : (c.setLeg slot leg).outcome = c.outcome := by
  cases slot <;> rfl

@[simp] theorem setLeg_armed (leg : Leg) : (c.setLeg slot leg).armed = c.armed := by
  cases slot <;> rfl

@[simp] theorem setLeg_stateChangedAt (leg : Leg) :
    (c.setLeg slot leg).stateChangedAt = c.stateChangedAt := by
  cases slot <;> rfl

@[simp] theorem moveTo_legAt (state : CallState) (atTime : Timestamp) (slot : LegSlot) :
    (c.moveTo state atTime).legAt slot = c.legAt slot := by
  cases slot <;> rfl

@[simp] theorem arm_legAt (kind : DeadlineKind) (slot : LegSlot) :
    (c.arm kind).legAt slot = c.legAt slot := by
  cases slot <;> rfl

@[simp] theorem disarm_legAt (kind : DeadlineKind) (slot : LegSlot) :
    (c.disarm kind).legAt slot = c.legAt slot := by
  cases slot <;> rfl

@[simp] theorem close_legAt : (c.close atTime).legAt slot = c.legAt slot := by
  cases slot <;> rfl

@[simp] theorem settle_legAt : (c.settle atTime).legAt slot = c.legAt slot := by
  unfold settle
  split
  · exact close_legAt ..
  · rfl

@[simp] theorem recordFailure_legAt (leg : Leg) (slot : LegSlot) :
    (c.recordFailure leg).legAt slot = c.legAt slot := by
  unfold recordFailure
  split
  · cases slot <;> rfl
  · rfl

@[simp] theorem enterEnding_legAt (outcome : TerminalOutcome) (slot : LegSlot) :
    (c.enterEnding atTime outcome).legAt slot = stoppedLeg (c.legAt slot) atTime := by
  cases slot <;> rfl

@[simp] theorem teardown_legAt (outcome : TerminalOutcome) (deadline : Option Timestamp)
    (slot : LegSlot) :
    (c.teardown atTime outcome deadline).legAt slot = stoppedLeg (c.legAt slot) atTime := by
  unfold teardown
  simp only
  split
  · simp
  · split <;> simp

@[simp] theorem legAt_withReplacement (replacement : Option LegReplacement) (slot : LegSlot) :
    CallCore.legAt { c with replacement := replacement } slot = c.legAt slot := by
  cases slot <;> rfl

theorem finished_iff : c.finished = true ↔ ∀ slot, (c.legAt slot).state.isTerminal = true := by
  unfold finished
  rw [Bool.and_eq_true]
  exact ⟨fun both slot => by cases slot; exacts [both.1, both.2],
    fun every => ⟨every .left, every .right⟩⟩

end CallCore

@[simp] theorem core_state : a.core.state = a.state := rfl

@[simp] theorem core_replacement : a.core.replacement = a.replacement := rfl

@[simp] theorem core_outcome : a.core.outcome = a.terminalOutcome := rfl

@[simp] theorem core_legAt (slot : LegSlot) : a.core.legAt slot = a.legAt slot := by
  cases slot <;> rfl

@[simp] theorem core_setLeg (slot : LegSlot) (leg : Leg) :
    (a.setLeg slot leg).core = a.core.setLeg slot leg := by
  cases slot <;> rfl

@[simp] theorem core_setCallState (state : CallState) (atTime : Timestamp) :
    (a.setCallState state atTime).core = a.core.moveTo state atTime := by
  unfold CallAggregate.setCallState CallCore.moveTo
  split
  · rename_i other
    have different : ¬ a.core.state = state := other
    rw [if_neg different]
    rfl
  · rename_i same
    have same : a.core.state = state := not_ne_iff.mp same
    rw [if_pos same, ← same]

@[simp] theorem core_finished : (a.legs.all fun leg => leg.state.isTerminal) = a.core.finished := by
  simp [CallAggregate.legs, CallCore.finished, CallAggregate.core]

namespace Draft

variable (d : Draft)

@[simp] theorem core_push (effect : EffectIntent) :
    (d.push effect).aggregate.core = d.aggregate.core := rfl

@[simp] theorem signals_push (effect : EffectIntent) (quiet : effect.isDeadline = false) :
    signals (d.push effect).effects = signals d.effects ++ [effect] := by
  simp [push, quiet]

@[simp] theorem core_setState (state : CallState) (atTime : Timestamp) :
    (d.setState state atTime).aggregate.core = d.aggregate.core.moveTo state atTime :=
  core_setCallState ..

theorem core_setSlot (kind : DeadlineKind) (slot : DeadlineSlot) :
    (d.setSlot kind slot).aggregate.core =
      { d.aggregate.core with
        armed := fun other => if other = kind then slot.dueAt.isSome
          else d.aggregate.core.armed other } := by
  refine CallCore.ext rfl rfl rfl rfl rfl (funext fun _ => ?_) rfl
  simp only [setSlot, CallAggregate.core, CallDeadlines.get_set]
  split <;> rfl

@[simp] theorem core_cancelDeadlineInternal (kind : DeadlineKind) :
    (d.cancelDeadlineInternal kind).aggregate.core = d.aggregate.core.disarm kind := by
  unfold cancelDeadlineInternal CallCore.disarm
  simp only
  split
  · rename_i idle
    refine CallCore.ext rfl rfl rfl rfl rfl (funext fun other => ?_) rfl
    by_cases same : other = kind
    · subst same
      simp [CallAggregate.core, idle]
    · simp [same]
  · rw [core_push, core_setSlot]
    refine CallCore.ext rfl rfl rfl rfl rfl (funext fun other => ?_) rfl
    by_cases same : other = kind <;> simp [same]

@[simp] theorem signals_cancelDeadlineInternal (kind : DeadlineKind) :
    signals (d.cancelDeadlineInternal kind).effects = signals d.effects := by
  unfold cancelDeadlineInternal
  simp only
  split
  · rfl
  · simp [push, setSlot, EffectIntent.isDeadline]

variable {d}

private theorem core_armDeadlineInternal {kind dueAt armed}
    (done : d.armDeadlineInternal kind dueAt = .ok armed) :
    armed.2.aggregate.core = d.aggregate.core.arm kind ∧
      signals armed.2.effects = signals d.effects := by
  simp only [armDeadlineInternal, bind_eq_ok, pure_eq_ok] at done
  obtain ⟨_, -, rfl⟩ := done
  constructor
  · rw [core_push, core_setSlot, core_cancelDeadlineInternal]
    refine CallCore.ext rfl rfl rfl rfl rfl (funext fun other => ?_) rfl
    by_cases same : other = kind <;> simp [CallCore.disarm, CallCore.arm, same]
  · simp [push, setSlot, EffectIntent.isDeadline]

/-- The core of a draft and the signals it has sent. -/
structure Shows (d : Draft) (c : CallCore) (sent : List EffectIntent) : Prop where
  core : d.aggregate.core = c
  sends : signals d.effects = sent

variable {c : CallCore} {sent : List EffectIntent}

/-- Every deadline of the call cancelled. -/
def clearAll (d : Draft) : Draft :=
  (((d.cancelDeadlineInternal .setup).cancelDeadlineInternal .media).cancelDeadlineInternal
    .transfer).cancelDeadlineInternal .ending

private theorem core_clearAll (d : Draft) :
    d.clearAll.aggregate.core = { d.aggregate.core with armed := fun _ => false } := by
  simp only [clearAll, core_cancelDeadlineInternal]
  refine CallCore.ext rfl rfl rfl rfl rfl (funext fun kind => ?_) rfl
  cases kind <;> simp [CallCore.disarm]

private theorem finalizeTerminal_eq (d : Draft) (atTime : Timestamp) :
    d.finalizeTerminal atTime =
      { d.clearAll with
        aggregate := { d.clearAll.aggregate with
          terminalOutcome := some d.clearAll.aggregate.core.closingOutcome }.setCallState
            (if d.clearAll.aggregate.core.closingOutcome.isFailed then .failed else .ended)
            atTime } := by
  generalize cleared : d.clearAll = e
  unfold clearAll at cleared
  rw [finalizeTerminal, cleared, CallAggregate.legs, CallCore.closingOutcome,
    CallAggregate.core]
  rcases Option.eq_none_or_eq_some e.aggregate.left.failure with left | ⟨failure, left⟩
  · rcases Option.eq_none_or_eq_some e.aggregate.right.failure with right | ⟨failure, right⟩
    · rcases Option.eq_none_or_eq_some e.aggregate.terminalOutcome with none | ⟨_ | failure, some⟩
      · simp [left, right, none, TerminalOutcome.isFailed]
      · simp [left, right, some, TerminalOutcome.isFailed]
      · simp [left, right, some, TerminalOutcome.isFailed]
    · simp [left, right, TerminalOutcome.isFailed]
  · simp [left, TerminalOutcome.isFailed]

variable (shows' : d.Shows c sent)
include shows'

theorem Shows.finalizeTerminal (atTime : Timestamp) :
    (d.finalizeTerminal atTime).Shows (c.close atTime) sent := by
  obtain ⟨rfl, rfl⟩ := shows'
  rw [finalizeTerminal_eq]
  refine ⟨?_, by simp [clearAll]⟩
  rw [core_setCallState]
  have core := core_clearAll d
  have outcome : d.clearAll.aggregate.core.closingOutcome = d.aggregate.core.closingOutcome := by
    rw [core]
    rfl
  rw [outcome]
  have cleared : CallAggregate.core { d.clearAll.aggregate with
      terminalOutcome := some d.aggregate.core.closingOutcome } =
      { d.aggregate.core with
        outcome := some d.aggregate.core.closingOutcome
        armed := fun _ => false } := by
    have withOutcome := congrArg (fun c : CallCore =>
      { c with outcome := some d.aggregate.core.closingOutcome }) core
    exact withOutcome
  rw [cleared]
  rfl

private theorem Shows.stopLegIfUp (slot : LegSlot) (atTime : Timestamp) (reason : StopLegReason) :
    (d.stopLegIfUp slot atTime reason).Shows (c.setLeg slot (stoppedLeg (c.legAt slot) atTime))
      (sent ++ stopSignals (c.legAt slot) reason) := by
  obtain ⟨rfl, rfl⟩ := shows'
  unfold Draft.stopLegIfUp stoppedLeg stopSignals
  rw [core_legAt]
  by_cases up : (d.aggregate.legAt slot).state.isUp
  · have parts := up
    rw [LegState.isUp, Bool.and_eq_true, Bool.not_eq_true', decide_eq_true_eq] at parts
    rw [if_pos ⟨by simp [parts.1], parts.2⟩, if_pos up, if_pos up]
    exact ⟨core_setLeg .., by simp [EffectIntent.isDeadline]⟩
  · have down : ¬ (¬ (d.aggregate.legAt slot).state.isTerminal = true ∧
        (d.aggregate.legAt slot).state ≠ .ending) := by
      rintro ⟨running, other⟩
      exact up (by simp [LegState.isUp, running, other])
    rw [if_neg down, if_neg up, if_neg up, List.append_nil]
    exact ⟨by cases slot <;> rfl, rfl⟩

private theorem Shows.unbridgeIfUp : d.unbridgeIfUp.Shows c (sent ++ c.unbridgeSignals) := by
  obtain ⟨rfl, rfl⟩ := shows'
  unfold Draft.unbridgeIfUp CallCore.unbridgeSignals
  split
  · rename_i up
    rw [if_pos (by exact up)]
    exact ⟨rfl, signals_push _ _ rfl⟩
  · rename_i down
    rw [if_neg (by exact down), List.append_nil]
    exact ⟨rfl, rfl⟩

private theorem Shows.abortReplacement :
    d.abortReplacement.Shows { c with replacement := none } (sent ++ c.abortSignals) := by
  obtain ⟨rfl, rfl⟩ := shows'
  unfold Draft.abortReplacement CallCore.abortSignals
  rcases Option.eq_none_or_eq_some d.aggregate.replacement with none | ⟨replacement, some⟩
  · have idle : d.aggregate.core.replacement = .none := none
    rw [none, idle, List.append_nil]
    exact ⟨CallCore.ext rfl rfl rfl idle rfl rfl rfl, rfl⟩
  · have pending : d.aggregate.core.replacement = .some replacement := some
    rw [some, pending]
    exact ⟨rfl, by simp [EffectIntent.isDeadline]⟩

theorem Shows.cancelDeadlineInternal (kind : DeadlineKind) :
    (d.cancelDeadlineInternal kind).Shows (c.disarm kind) sent := by
  obtain ⟨rfl, rfl⟩ := shows'
  exact ⟨core_cancelDeadlineInternal .., signals_cancelDeadlineInternal ..⟩

theorem Shows.setState (state : CallState) (atTime : Timestamp) :
    (d.setState state atTime).Shows (c.moveTo state atTime) sent := by
  obtain ⟨rfl, rfl⟩ := shows'
  exact ⟨core_setState .., rfl⟩

private theorem Shows.selectOutcome (outcome : TerminalOutcome) : (d.selectOutcome outcome).Shows
      { c with outcome := some (selectedOutcome c.outcome outcome) } sent := by
  obtain ⟨rfl, rfl⟩ := shows'
  exact ⟨rfl, rfl⟩

theorem Shows.push {effect} (quiet : effect.isDeadline = false) :
    (d.push effect).Shows c (sent ++ [effect]) := by
  obtain ⟨rfl, rfl⟩ := shows'
  exact ⟨rfl, signals_push _ _ quiet⟩

theorem Shows.armDeadlineInternal {kind dueAt armed}
    (done : d.armDeadlineInternal kind dueAt = .ok armed) : armed.2.Shows (c.arm kind) sent := by
  obtain ⟨rfl, rfl⟩ := shows'
  obtain ⟨core, sends⟩ := core_armDeadlineInternal done
  exact ⟨core, sends⟩

private theorem Shows.enterEnding (atTime : Timestamp) (outcome : TerminalOutcome)
    (reason : StopLegReason) :
    (d.enterEnding atTime outcome reason).Shows (c.enterEnding atTime outcome)
      (sent ++ c.endingSignals reason) := by
  have aborted := shows'.unbridgeIfUp.abortReplacement
  have cleared := ((aborted.cancelDeadlineInternal .setup).cancelDeadlineInternal
    .media).cancelDeadlineInternal .transfer
  have moved := (cleared.selectOutcome outcome).setState .ending atTime
  obtain ⟨core, sends⟩ := (moved.stopLegIfUp .left _ reason).stopLegIfUp .right _ reason
  refine ⟨core.trans ?_, sends.trans ?_⟩
  · refine CallCore.ext rfl rfl rfl rfl rfl (funext fun kind => ?_) rfl
    cases kind <;> simp [CallCore.moveTo, CallCore.disarm, CallCore.enterEnding]
  · simp only [CallCore.endingSignals, List.append_assoc]
    rfl

theorem Shows.beginEndingInternal {atTime outcome reason endingDeadline result}
    (done : d.beginEndingInternal atTime outcome reason endingDeadline = .ok result) :
    result.Shows (c.teardown atTime outcome endingDeadline) (sent ++ c.endingSignals reason) := by
  have stopped := shows'.enterEnding atTime outcome reason
  unfold Draft.beginEndingInternal at done
  simp only [core_finished, stopped.core] at done
  unfold CallCore.teardown
  split_ifs at done with finished
  · cases done
    simp only [finished]
    exact stopped.finalizeTerminal atTime
  · rw [if_neg finished]
    split at done
    · simp only [bind_eq_ok, pure_eq_ok] at done
      obtain ⟨_, scheduled, rfl⟩ := done
      exact stopped.armDeadlineInternal scheduled
    · cases done
      exact stopped

end Draft

end Bridgefu.CallEngine
