/- digest: Runs of a call: any commands presented one after the other, and what came of each. -/

import Bridgefu.Lib.Trace
import Bridgefu.CallEngine.Preservation

/-!
A rejected command leaves the call where it was, as the caller keeps the aggregate it had. A run
is therefore total: every list of commands can be presented to every call.
-/

set_option autoImplicit false

namespace Bridgefu.CallEngine

open Lib

variable {a : CallAggregate}

/-- A command together with the call that it was presented to. -/
abbrev CallStep := CallAggregate × CallCommand

namespace CallStep

variable (step : CallStep)

abbrev before : CallAggregate := step.1

abbrev command : CallCommand := step.2

def outcome : Except DomainError CallDecision := step.before.decide step.command

/-- The call that the next command finds. -/
def after : CallAggregate :=
  match step.outcome with
  | .ok decision => decision.aggregate
  | .error _ => step.before

def effects : List EffectIntent :=
  match step.outcome with
  | .ok decision => decision.effects
  | .error _ => []

def isApplied : Bool :=
  match step.outcome with
  | .ok decision => decision.disposition = .applied
  | .error _ => false

end CallStep

namespace CallAggregate

variable (a : CallAggregate) (commands : List CallCommand)

def present (command : CallCommand) : CallAggregate :=
  CallStep.after (a, command)

def steps : List CallStep :=
  trace present a commands

/-- The call after the commands. -/
def presentAll : CallAggregate :=
  commands.foldl present a

end CallAggregate

/-- All effects of the steps in order. -/
def emitted (steps : List CallStep) : List EffectIntent := steps.flatMap CallStep.effects

@[simp] theorem emitted_nil : emitted [] = [] := rfl

@[simp] theorem emitted_append (first second : List CallStep) :
    emitted (first ++ second) = emitted first ++ emitted second :=
  List.flatMap_append

@[simp] theorem emitted_singleton (step : CallStep) : emitted [step] = step.effects :=
  List.flatMap_singleton ..

/-- A call as its constructors make it. -/
def Created (a : CallAggregate) : Prop :=
  ∃ id tenantId left right leftSemantics rightSemantics now,
    CallAggregate.withIdsAndSemantics id tenantId left right leftSemantics rightSemantics now =
      .ok a

/-- Either nothing happened, or the call made one move. -/
inductive CallStep.Happened (step : CallStep) : Prop
  | nothing (unapplied : step.isApplied = false) (same : step.after = step.before)
      (quiet : step.effects = [])
  | moved (applied : step.isApplied = true)
      (move : Move step.before step.command step.after.core (signals step.effects))
      (same : SameCall step.before step.after)
      (version : step.after.version = step.before.version + 1)

namespace CallStep

theorem happened (step : CallStep) : step.Happened := by
  cases done : step.outcome with
  | error =>
    exact .nothing (by simp [isApplied, done]) (by simp [after, done]) (by simp [effects, done])
  | ok decision =>
    have after' : step.after = decision.aggregate := by simp [after, done]
    have effects' : step.effects = decision.effects := by simp [effects, done]
    obtain ⟨other, same, quiet⟩ | ⟨applied, move⟩ := CallAggregate.decide_moves done
    · exact .nothing (by simp [isApplied, done, other]) (after'.trans same)
        (effects'.trans quiet)
    · cases CallAggregate.decide_decided done with
      | ignored other => exact absurd applied other
      | applied _ same version =>
        rw [← after'] at move same version
        rw [← effects'] at move
        exact .moved (by simp [isApplied, done, applied]) move same version

theorem after_valid (step : CallStep) (valid : step.before.Valid) : step.after.Valid := by
  unfold after
  split
  · rename_i decision done
    exact CallAggregate.validate_iff.mp (CallAggregate.decide_valid done)
  · exact valid

end CallStep

namespace CallAggregate

theorem steps_append (a : CallAggregate) (first second : List CallCommand) :
    a.steps (first ++ second) = a.steps first ++ (a.presentAll first).steps second :=
  trace_append a first second

theorem presentAll_append (a : CallAggregate) (first second : List CallCommand) :
    a.presentAll (first ++ second) = (a.presentAll first).presentAll second :=
  List.foldl_append

theorem presentAll_valid (valid : a.Valid) (commands : List CallCommand) :
    (a.presentAll commands).Valid :=
  foldl_induction valid (fun now command held => CallStep.after_valid (now, command) held) commands

/-- What every step of a valid call keeps about the past steps and the call holds after a run. -/
theorem run_induction {motive : List CallStep → CallAggregate → Prop} (valid : a.Valid)
    (start : motive [] a)
    (next : ∀ past (step : CallStep), step.before.Valid → motive past step.before →
      motive (past ++ [step]) step.after) (commands : List CallCommand) :
    motive (a.steps commands) (a.presentAll commands) := by
  have both : (a.presentAll commands).Valid ∧ motive (a.steps commands) (a.presentAll commands) :=
    trace_induction (motive := fun past now => now.Valid ∧ motive past now) ⟨valid, start⟩
      (fun past now command held => ⟨CallStep.after_valid (now, command) held.1,
        next past (now, command) held.1 held.2⟩) commands
  exact both.2

variable {commands : List CallCommand}

theorem steps_split {past future step} (split : a.steps commands = past ++ step :: future) :
    ∃ first second, commands = first ++ step.command :: second ∧ past = a.steps first ∧
      step.before = a.presentAll first ∧ future = step.after.steps second :=
  trace_split split

theorem mem_steps {step} (member : step ∈ a.steps commands) :
    ∃ first second, commands = first ++ step.command :: second ∧
      step.before = a.presentAll first ∧ step.after = a.presentAll (first ++ [step.command]) := by
  obtain ⟨first, second, same, reached⟩ := mem_trace member
  refine ⟨first, second, same, reached, ?_⟩
  rw [presentAll_append, ← show step.before = a.presentAll first from reached]
  rfl

theorem step_valid (valid : a.Valid) {step} (member : step ∈ a.steps commands) :
    step.before.Valid := by
  obtain ⟨first, -, -, before, -⟩ := mem_steps member
  rw [before]
  exact presentAll_valid valid first

end CallAggregate

namespace Created

theorem valid (created : Created a) : a.Valid := by
  obtain ⟨_, _, _, _, _, _, _, done⟩ := created
  simp only [CallAggregate.withIdsAndSemantics, bind_eq_ok, exists_unit, pure_eq_ok] at done
  obtain ⟨-, valid, rfl⟩ := done
  exact CallAggregate.validate_iff.mp valid

theorem pending (created : Created a) : a.state = .pending := by
  obtain ⟨_, _, _, _, _, _, _, done⟩ := created
  simp only [CallAggregate.withIdsAndSemantics, bind_eq_ok, exists_unit, pure_eq_ok] at done
  obtain ⟨-, -, rfl⟩ := done
  rfl

end Created

namespace Sample

def callerId : LegId := ⟨1⟩

def calleeId : LegId := ⟨2⟩

def newCall : CallAggregate where
  id := ⟨1⟩
  tenantId := ⟨"tenant"⟩
  version := 0
  state := .pending
  left := .new callerId ⟨.inbound, .interactiveWebRtc⟩ ⟨.remote, .sendReceive⟩ 0
  right := .new calleeId ⟨.outbound, .sip⟩ ⟨.bridgefu, .sendReceive⟩ 0
  deadlines := .default
  terminalOutcome := none
  replacement := none
  createdAt := 0
  updatedAt := 0
  stateChangedAt := 0

theorem newCall_created : Created newCall :=
  ⟨⟨1⟩, ⟨"tenant"⟩, (callerId, ⟨.inbound, .interactiveWebRtc⟩), (calleeId, ⟨.outbound, .sip⟩),
    ⟨.remote, .sendReceive⟩, ⟨.bridgefu, .sendReceive⟩, 0, by decide⟩

/-- Both legs answer. -/
def answering : List CallCommand :=
  [.startConnecting 0 10,
    .setLegState 1 callerId 1 .signaling none, .setLegState 1 callerId 1 .connected none,
    .setLegState 2 calleeId 1 .signaling none, .setLegState 2 calleeId 1 .connected none]

/-- Nobody answers in time. -/
def missedAnswer : List CallCommand :=
  [.startConnecting 0 10, .deadlineElapsed 10 .setup 1 none,
    .setLegState 11 callerId 1 .ended none, .setLegState 11 calleeId 1 .ended none]

def failedOperation : List CallCommand :=
  [.beginEnding 0 none .failure, .setLegState 1 callerId 1 .ended none,
    .setLegState 1 calleeId 1 .ended none]

def halfAnswered : CallAggregate := newCall.presentAll (answering.take 3)

def replacing : CallAggregate :=
  newCall.presentAll (answering ++ [.beginLegReplacement 3 calleeId .telnyx 10])

/-- The callee is replaced, then the caller hangs up. -/
def replaced : List CallCommand :=
  answering ++ [.beginLegReplacement 3 calleeId .telnyx 10, .finishLegReplacement 4 1 2 .connected,
    .setLegState 5 callerId 1 .ended none]

/-- A first replacement of the callee is refused, a second one connects. -/
def replacedTwice : List CallCommand :=
  answering ++ [.beginLegReplacement 3 calleeId .telnyx 10,
    .finishLegReplacement 4 1 2 (.rejected (.sanitized "busy" "the destination is busy" false)),
    .beginLegReplacement 5 calleeId .telnyx 10, .finishLegReplacement 6 2 3 .connected]

end Sample

end Bridgefu.CallEngine
