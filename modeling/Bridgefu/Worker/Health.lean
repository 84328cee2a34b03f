/- digest: The health of a worker runtime: who publishes what, and when a lost lease stays lost. -/

import Bridgefu.Lib.Trace

set_option autoImplicit false

namespace Bridgefu.Worker

open Lib

inductive RuntimeSupervisorHealth where
  | healthy | degraded | leaseLost | draining | stopped
  deriving DecidableEq

def RuntimeSupervisorHealth.owned (health : RuntimeSupervisorHealth) : Bool :=
  health ∈ [.healthy, .degraded]

open RuntimeSupervisorHealth

/-- What a task hears about its lease. A lease that has run out counts as refused. -/
inductive LeaseAnswer where
  | confirmed | unavailable | refused
  deriving DecidableEq

inductive TaskStage where
  | waiting
  | checking (answer : LeaseAnswer)
  | publishing (next : RuntimeSupervisorHealth)
  | cancelling | ended
  deriving DecidableEq

inductive ShutdownStage where
  | running | publishing | cancelling | writing | awaiting | joining | dropping | dropped
  deriving DecidableEq

structure RuntimeState where
  health : RuntimeSupervisorHealth
  cancelled : Bool
  renewal : TaskStage
  consumer : TaskStage
  shutdown : ShutdownStage

def RuntimeState.initial : RuntimeState := ⟨.healthy, false, .waiting, .waiting, .running⟩

/-- A refusal is published unless the runtime drains. -/
def lostLease (health : RuntimeSupervisorHealth) : TaskStage :=
  if health ≠ .draining then .publishing .leaseLost else .cancelling

/-- The renewal publishes an outage whatever the health is. -/
def renewalCheck (answer : LeaseAnswer) (health : RuntimeSupervisorHealth) : TaskStage :=
  match answer with
  | .confirmed => if health = .degraded then .publishing .healthy else .waiting
  | .unavailable => .publishing .degraded
  | .refused => lostLease health

def consumerCheck (answer : LeaseAnswer) (health : RuntimeSupervisorHealth) : TaskStage :=
  match answer with
  | .confirmed => .waiting
  | .unavailable => if health = .healthy then .publishing .degraded else .waiting
  | .refused => lostLease health

/-- One step of the runtime: an answer arrives, a task or the shutdown takes its next step, or the
runtime is dropped. -/
inductive RuntimeStep where
  | renewalAnswer (answer : LeaseAnswer)
  | consumerAnswer (answer : LeaseAnswer)
  | renewal | consumer | shutdown | drop

namespace RuntimeState

variable (state : RuntimeState)

/-- A task takes its next step: the stage it comes to, with the health and the cancellation. -/
def advance (check : LeaseAnswer → RuntimeSupervisorHealth → TaskStage) (stage : TaskStage) :
    TaskStage × RuntimeSupervisorHealth × Bool :=
  match stage with
  | .waiting => (if state.cancelled then .ended else .waiting, state.health, state.cancelled)
  | .checking answer => (check answer state.health, state.health, state.cancelled)
  | .publishing next =>
    (if next = .leaseLost then .cancelling else .waiting, next, state.cancelled)
  | .cancelling => (.ended, state.health, true)
  | .ended => (.ended, state.health, state.cancelled)

def shutdownStep : RuntimeState :=
  match state.shutdown with
  | .running => { state with
      shutdown := if state.health ∈ [.leaseLost, .stopped] then .joining else .publishing }
  | .publishing => { state with health := .draining, shutdown := .cancelling }
  | .cancelling => { state with cancelled := true, shutdown := .writing }
  | .writing => { state with shutdown := .awaiting }
  | .awaiting => { state with shutdown := .joining }
  | .joining => { state with cancelled := true }
  | .dropping => { state with cancelled := true, shutdown := .dropped }
  | .dropped => state

def step : RuntimeStep → RuntimeState
  -- the renewal looks for its cancellation before it looks for an answer
  | .renewalAnswer answer =>
    if state.renewal ≠ .waiting ∨ state.cancelled then state
    else { state with renewal := .checking answer }
  | .consumerAnswer answer =>
    if state.consumer ≠ .waiting ∨ state.shutdown = .dropped then state
    else { state with consumer := .checking answer }
  | .renewal =>
    let next := state.advance renewalCheck state.renewal
    { state with renewal := next.1, health := next.2.1, cancelled := next.2.2 }
  | .consumer =>
    let next := state.advance consumerCheck state.consumer
    { state with consumer := next.1, health := next.2.1, cancelled := next.2.2 }
  | .shutdown => state.shutdownStep
  | .drop =>
    if state.shutdown ∈ [.running, .awaiting] then
      { state with health := .stopped, shutdown := .dropping }
    else state

/-- The runtime after these steps. -/
def run (steps : List RuntimeStep) : RuntimeState := steps.foldl step initial

end RuntimeState

open RuntimeState

/-- What a task is about to publish does no harm now: ownership follows ownership, and a lost lease
does not follow a drain that has yet to write its row. -/
def TaskStage.Current (state : RuntimeState) : TaskStage → Prop
  | .publishing next => (next.owned = true → state.health.owned = true) ∧
    (next = .leaseLost → state.shutdown ∉ [.cancelling, .writing])
  | _ => True

/-- Nothing that matters to a write was published since the check before it. -/
def Undisturbed (state : RuntimeState) : RuntimeStep → Prop
  | .renewal => state.renewal.Current state
  | .consumer => state.consumer.Current state
  | .shutdown => state.shutdown = .publishing → state.health ∉ [leaseLost, stopped]
  | _ => True

def TaskStage.Sound : TaskStage → Prop
  | .publishing next => next = .leaseLost ∨ next.owned = true
  | _ => True

structure RuntimeState.Sound (state : RuntimeState) : Prop where
  renewal : state.renewal.Sound
  consumer : state.consumer.Sound
  drains : state.shutdown ∈ [.cancelling, .writing] → state.health = .draining

/-- What a task may do to the health. -/
def Publishes (state : RuntimeState) (after : RuntimeSupervisorHealth) : Prop :=
  after = state.health ∨ after ≠ .draining ∧ (after.owned = true → state.health.owned = true) ∧
    state.shutdown ∉ [.cancelling, .writing]

private theorem lostLease_sound (health : RuntimeSupervisorHealth) : (lostLease health).Sound := by
  unfold lostLease
  split
  · exact .inl rfl
  · trivial

private theorem renewalCheck_sound (answer : LeaseAnswer) (health : RuntimeSupervisorHealth) :
    (renewalCheck answer health).Sound := by
  cases answer with
  | refused => exact lostLease_sound health
  | _ => cases health <;> simp [renewalCheck, TaskStage.Sound, owned]

private theorem consumerCheck_sound (answer : LeaseAnswer) (health : RuntimeSupervisorHealth) :
    (consumerCheck answer health).Sound := by
  cases answer with
  | refused => exact lostLease_sound health
  | _ => cases health <;> simp [consumerCheck, TaskStage.Sound, owned]

namespace RuntimeState

variable {state : RuntimeState}

private theorem advance_sound {check stage} (checks : ∀ answer health, (check answer health).Sound)
    (sound : state.Sound) (its : stage.Sound) (current : stage.Current state) :
    (state.advance check stage).1.Sound ∧ Publishes state (state.advance check stage).2.1 := by
  cases stage with
  | waiting =>
    refine ⟨?_, .inl rfl⟩
    rw [advance]
    split <;> trivial
  | checking answer => exact ⟨checks answer state.health, .inl rfl⟩
  | publishing next =>
    refine ⟨?_, .inr ⟨fun drains => ?_, current.1, ?_⟩⟩
    · rw [advance]
      split <;> trivial
    · obtain rfl : next = .draining := drains
      rcases its with impossible | impossible <;> cases impossible
    · rcases its with lost | owns
      · exact current.2 lost
      · intro drains
        have owned := current.1 owns
        rw [sound.drains drains] at owned
        cases owned
  | cancelling | ended => exact ⟨trivial, .inl rfl⟩

private theorem Sound.published (sound : state.Sound) {health} (publishes : Publishes state health)
    (shutdown : state.shutdown ∈ [.cancelling, .writing]) : health = .draining := by
  rcases publishes with rfl | ⟨-, -, other⟩
  · exact sound.drains shutdown
  · exact absurd shutdown other

/-- The health after a step that nothing disturbs: ownership does not come back, and neither does a
drain after a lost lease. -/
def Follows (before after : RuntimeSupervisorHealth) : Prop :=
  (before.owned = false → after.owned = false) ∧
    (before ∈ [leaseLost, stopped] → after ∈ [leaseLost, stopped])

private theorem follows_of_publishes {after} (publishes : Publishes state after) :
    Follows state.health after := by
  rcases publishes with rfl | ⟨undrained, owns, -⟩
  · exact ⟨id, id⟩
  · cases before : state.health <;> cases after <;> simp_all [Follows, owned]

private theorem step_sound (sound : state.Sound) {step} (undisturbed : Undisturbed state step) :
    (state.step step).Sound ∧ Follows state.health (state.step step).health := by
  cases step with
  | renewalAnswer | consumerAnswer =>
    rw [step]
    split
    · exact ⟨sound, id, id⟩
    · first
      | exact ⟨{ sound with renewal := trivial }, id, id⟩
      | exact ⟨{ sound with consumer := trivial }, id, id⟩
  | renewal =>
    obtain ⟨stage, publishes⟩ := advance_sound renewalCheck_sound sound sound.renewal undisturbed
    exact ⟨{ sound with renewal := stage, drains := sound.published publishes },
      follows_of_publishes publishes⟩
  | consumer =>
    obtain ⟨stage, publishes⟩ := advance_sound consumerCheck_sound sound sound.consumer undisturbed
    exact ⟨{ sound with consumer := stage, drains := sound.published publishes },
      follows_of_publishes publishes⟩
  | shutdown =>
    rw [step, shutdownStep]
    split
    · refine ⟨{ sound with drains := ?_ }, id, id⟩
      dsimp only
      split <;> simp
    · rename_i stage
      exact ⟨{ sound with drains := fun _ => rfl }, fun _ => rfl,
        fun gone => absurd gone (undisturbed stage)⟩
    · rename_i stage
      exact ⟨{ sound with drains := fun _ => sound.drains (by simp [stage]) }, id, id⟩
    · exact ⟨{ sound with drains := by simp }, id, id⟩
    · exact ⟨{ sound with drains := by simp }, id, id⟩
    · exact ⟨{ sound with }, id, id⟩
    · exact ⟨{ sound with drains := by simp }, id, id⟩
    · exact ⟨sound, id, id⟩
  | drop =>
    rw [step]
    split
    · exact ⟨{ sound with drains := by simp }, fun _ => rfl, fun _ => by simp⟩
    · exact ⟨sound, id, id⟩

theorem Sound.run {motive : RuntimeSupervisorHealth → Prop}
    (keeps : ∀ before after, Follows before after → motive before → motive after)
    (sound : state.Sound) (start : motive state.health) {steps}
    (undisturbed : ∀ place ∈ trace step state steps, Undisturbed place.1 place.2) :
    (steps.foldl step state).Sound ∧ motive (steps.foldl step state).health :=
  foldl_keeps (motive := fun now : RuntimeState => now.Sound ∧ motive now.health) ⟨sound, start⟩
    (fun _ _ held here => (step_sound held.1 here).imp_right (keeps _ _ · held.2)) undisturbed

end RuntimeState

namespace Sample

end Sample

end Bridgefu.Worker
