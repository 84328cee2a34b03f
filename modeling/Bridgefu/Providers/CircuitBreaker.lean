/- digest: The circuit breaker of a provider: the permits it grants, when it opens and closes. -/

import Bridgefu.Lib.Trace

set_option autoImplicit false

namespace Bridgefu.Providers

open Lib

inductive ProviderError where
  | configuration (message : String) | http (isTimeout isConnect : Bool)
  | remote (status bodyBytes : Nat) | telnyx (status : Option Nat) (retryable : Bool)
  | circuitOpen | json | missingField (name : String) | invalidCommand (name : String)
  | invalidSignature | invalidWebhookField (name : String) | accountProfileMismatch | unsupported
  deriving DecidableEq

def providerErrorIsRetryable : ProviderError → Bool
  | .circuitOpen => true
  | .telnyx _ retryable => retryable
  | .http isTimeout isConnect => isTimeout || isConnect
  | .remote status _ => status == 429 || 500 ≤ status
  | _ => false

def retryableFailure {T : Type} : Except ProviderError T → Bool
  | .ok _ => false
  | .error error => providerErrorIsRetryable error

/-- Instants are in nanoseconds, and their seconds fill 63 bits. -/
def instantLimit : Nat := 2 ^ 63 * 10 ^ 9

structure ProviderCircuitBreakerPolicy where
  failureThreshold : Nat
  openDuration : Nat
  fits : failureThreshold < 2 ^ 32
  deriving DecidableEq

def ProviderCircuitBreakerPolicy.telnyxDefault : ProviderCircuitBreakerPolicy :=
  ⟨5, 30 * 10 ^ 9, by decide⟩

def ProviderCircuitBreakerPolicy.validate (policy : ProviderCircuitBreakerPolicy) :
    Except ProviderError ProviderCircuitBreakerPolicy :=
  if policy.failureThreshold = 0 ∨ policy.openDuration = 0 then
    .error (.configuration "invalid provider circuit-breaker policy")
  else .ok policy

inductive ProviderCircuitPhase where
  | closed (retryableFailures : Nat) | open' (retryAt : Nat) | halfOpen
  deriving DecidableEq

def ProviderCircuitPhase.isOpen : ProviderCircuitPhase → Bool
  | .open' _ => true
  | _ => false

structure ProviderCircuitState where
  generation : Nat
  phase : ProviderCircuitPhase
  deriving DecidableEq

structure ProviderCircuitPermit where
  generation : Nat
  halfOpen : Bool
  deriving DecidableEq

variable (policy : ProviderCircuitBreakerPolicy)

namespace ProviderCircuitState

variable (state : ProviderCircuitState) (now : Nat)

def acquireAt : ProviderCircuitState × Except ProviderError ProviderCircuitPermit :=
  match state.phase with
  | .closed _ => (state, .ok ⟨state.generation, false⟩)
  | .open' retryAt =>
    if retryAt ≤ now then ({ state with phase := .halfOpen }, .ok ⟨state.generation, true⟩)
    else (state, .error .circuitOpen)
  | .halfOpen => (state, .error .circuitOpen)

/-- Where the sum of the times panics, the generation has moved and the phase has not. -/
def openLocked : ProviderCircuitState where
  generation := state.generation + 1
  phase :=
    if now + policy.openDuration < instantLimit then .open' (now + policy.openDuration)
    else state.phase

def closeLocked : ProviderCircuitState where
  generation := state.generation + if state.phase = .halfOpen then 1 else 0
  phase := .closed 0

def completeAt {T : Type} (permit : ProviderCircuitPermit) (result : Except ProviderError T) :
    ProviderCircuitState :=
  if state.generation ≠ permit.generation then state else
    match state.phase, permit.halfOpen, retryableFailure result with
    | .closed _, true, _ | .halfOpen, false, _ => state
    | .closed _, false, false | .halfOpen, true, false => state.closeLocked
    | .closed retryableFailures, false, true =>
      let failures := min (retryableFailures + 1) (2 ^ 32 - 1)
      if policy.failureThreshold ≤ failures then state.openLocked policy now
      else { state with phase := .closed failures }
    | .halfOpen, true, true => state.openLocked policy now
    | .open' _, _, _ => state

def abandonHalfOpen (generation : Nat) : ProviderCircuitState :=
  if state.generation = generation ∧ state.phase = .halfOpen then state.openLocked policy now
  else state

end ProviderCircuitState

structure ProviderCircuitBreaker where
  state : ProviderCircuitState
  outstanding : List ProviderCircuitPermit
  deriving DecidableEq

def ProviderCircuitBreaker.new : ProviderCircuitBreaker := ⟨⟨0, .closed 0⟩, []⟩

inductive CircuitStep where
  | acquire (now : Nat)
  | complete (permit : ProviderCircuitPermit) (result : Except ProviderError Unit) (now : Nat)
  | drop (permit : ProviderCircuitPermit) (now : Nat)

def CircuitStep.now : CircuitStep → Nat
  | .acquire now | .complete _ _ now | .drop _ now => now

/-- Only a permit that is out can be completed or dropped, and only once. -/
def ProviderCircuitBreaker.step (breaker : ProviderCircuitBreaker) :
    CircuitStep → ProviderCircuitBreaker
  | .acquire now =>
    match breaker.state.acquireAt now with
    | (state, .ok permit) => ⟨state, permit :: breaker.outstanding⟩
    | (state, .error _) => { breaker with state := state }
  | .complete permit result now =>
    if permit ∈ breaker.outstanding then
      ⟨breaker.state.completeAt policy now permit result, breaker.outstanding.erase permit⟩
    else breaker
  | .drop permit now =>
    if permit ∈ breaker.outstanding then
      ⟨if permit.halfOpen then breaker.state.abandonHalfOpen policy now permit.generation
        else breaker.state, breaker.outstanding.erase permit⟩
    else breaker

/-- The step runs `openLocked`. -/
def ProviderCircuitBreaker.opens (breaker : ProviderCircuitBreaker) : CircuitStep → Prop
  | .acquire _ => False
  | .complete permit result _ =>
    permit ∈ breaker.outstanding ∧ permit.generation = breaker.state.generation ∧
      retryableFailure result = true ∧
      match breaker.state.phase with
      | .closed failures => permit.halfOpen = false ∧
        policy.failureThreshold ≤ min (failures + 1) (2 ^ 32 - 1)
      | .halfOpen => permit.halfOpen = true
      | .open' _ => False
  | .drop permit _ =>
    permit ∈ breaker.outstanding ∧ permit.halfOpen = true ∧
      permit.generation = breaker.state.generation ∧ breaker.state.phase = .halfOpen

/-- Whether a step completes a call of the period, and with a retryable failure. -/
def completion (generation : Nat) : ProviderCircuitBreaker × CircuitStep → Option Bool
  | (breaker, .complete permit result _) =>
    if permit ∈ breaker.outstanding ∧ permit.generation = generation then
      some (retryableFailure result) else none
  | _ => none

/-- The retryable failures of a period that no other completion of it has followed. -/
def consecutiveFailures (generation : Nat)
    (past : List (ProviderCircuitBreaker × CircuitStep)) : Nat :=
  past.foldl (fun failures place => match completion generation place with
    | some true => failures + 1
    | some false => 0
    | none => failures) 0

/-- What holds of the breaker that a step finds and of the one that it leaves. -/
structure CircuitLaw (past : List (ProviderCircuitBreaker × CircuitStep))
    (before : ProviderCircuitBreaker) (step : CircuitStep) (after : ProviderCircuitBreaker) :
    Prop where
  trial : before.state.phase = .halfOpen ↔
    before.outstanding.count ⟨before.state.generation, true⟩ = 1
  waits : ∀ retryAt now, before.state.phase = .open' retryAt → now < retryAt →
    before.state.acquireAt now = (before.state, .error .circuitOpen)
  opens : ∀ failures, before.state.phase = .closed failures →
    (after.state.phase.isOpen = true ↔
      consecutiveFailures before.state.generation (past ++ [(before, step)]) =
        policy.failureThreshold)
  stale : ∀ permit result now, step = .complete permit result now →
    permit.generation ≠ before.state.generation → after.state = before.state
  leaves : ∀ permit ∈ before.outstanding, permit.halfOpen = true →
    ((∃ result now, step = .complete permit result now) ∨ ∃ now, step = .drop permit now) →
      after.state.phase ≠ .halfOpen
  period : after.state.generation = before.state.generation + match before.state.phase,
    after.state.phase with
    | .closed _, .open' _ | .halfOpen, .open' _ | .halfOpen, .closed _ => 1
    | _, _ => 0

structure Sound (past : List (ProviderCircuitBreaker × CircuitStep))
    (breaker : ProviderCircuitBreaker) : Prop where
  old : ∀ permit ∈ breaker.outstanding, permit.generation ≤ breaker.state.generation
  trials : breaker.outstanding.filter (·.halfOpen) =
    if breaker.state.phase = .halfOpen then [⟨breaker.state.generation, true⟩] else []
  fresh : ∀ later, breaker.state.generation < later → consecutiveFailures later past = 0
  failures : ∀ count, breaker.state.phase = .closed count → count < policy.failureThreshold ∧
    consecutiveFailures breaker.state.generation past = count

variable {policy} {past : List (ProviderCircuitBreaker × CircuitStep)}
  {breaker : ProviderCircuitBreaker}

private theorem consecutiveFailures_snoc (past) (generation : Nat)
    (place : ProviderCircuitBreaker × CircuitStep) :
    consecutiveFailures generation (past ++ [place]) = match completion generation place with
      | some true => consecutiveFailures generation past + 1
      | some false => 0
      | none => consecutiveFailures generation past := by
  rw [consecutiveFailures, List.foldl_append]
  rfl

private theorem Sound.trial (sound : Sound policy past breaker) : breaker.state.phase = .halfOpen ↔
    breaker.outstanding.count ⟨breaker.state.generation, true⟩ = 1 := by
  rw [← List.count_filter (p := (·.halfOpen)) rfl, sound.trials]
  split_ifs with half <;> simp [half]

private theorem Sound.erase (sound : Sound policy past breaker) {permit : ProviderCircuitPermit}
    (out : permit ∈ breaker.outstanding) :
    if permit.halfOpen then permit = ⟨breaker.state.generation, true⟩ ∧
        breaker.state.phase = .halfOpen ∧
        (breaker.outstanding.erase permit).filter (·.halfOpen) = []
      else (breaker.outstanding.erase permit).filter (·.halfOpen) =
        breaker.outstanding.filter (·.halfOpen) := by
  have trials := sound.trials
  rw [← List.erase_filter]
  split_ifs with isTrial
  · have member := List.mem_filter.mpr ⟨out, isTrial⟩
    split_ifs at trials with half
    · rw [trials, List.mem_singleton] at member
      rw [trials, member]
      exact ⟨rfl, half, List.erase_cons_head ..⟩
    · rw [trials] at member
      cases member
  · exact List.erase_of_not_mem fun member => isTrial (List.mem_filter.mp member).2

private theorem Sound.later (sound : Sound policy past breaker) (move : CircuitStep) (later : Nat)
    (above : breaker.state.generation < later) :
    consecutiveFailures later (past ++ [(breaker, move)]) = 0 := by
  have none : completion later (breaker, move) = none := by
    cases move with
    | complete _ =>
      refine if_neg fun ⟨out, _⟩ => ?_
      have bound := sound.old _ out
      omega
    | _ => rfl
  rw [consecutiveFailures_snoc, none]
  exact sound.fresh later above

theorem Sound.next (positive : 0 < policy.failureThreshold)
    (sound : Sound policy past breaker) (move : CircuitStep)
    (fits : breaker.opens policy move → move.now + policy.openDuration < instantLimit) :
    CircuitLaw policy past breaker move (breaker.step policy move) ∧
    Sound policy (past ++ [(breaker, move)]) (breaker.step policy move) := by
  have later := sound.later move
  have trial := sound.trial
  have erased := @sound.erase
  have counted := consecutiveFailures_snoc past breaker.state.generation (breaker, move)
  obtain ⟨_, _, -, _⟩ := sound
  obtain ⟨⟨generation, phase⟩, _⟩ := breaker
  have waits : ∀ retryAt now, phase = .open' retryAt → now < retryAt →
      ProviderCircuitState.acquireAt ⟨generation, phase⟩ now =
        (⟨generation, phase⟩, .error .circuitOpen) := by
    rintro retryAt now rfl early
    exact if_neg (Nat.not_le.mpr early)
  -- by the kind of the step and the phase it finds
  cases move with
  | acquire now =>
    cases phase <;> refine ⟨⟨trial, waits, ?_, ?_, ?_, ?_⟩, ?_, ?_, ?_, ?_⟩ <;>
      simp only [ProviderCircuitBreaker.step, ProviderCircuitState.acquireAt, completion] at * <;>
      grind [ProviderCircuitPhase.isOpen]
  | complete permit _ now =>
    have bound := policy.fits
    specialize @erased permit
    cases phase <;> refine ⟨⟨trial, waits, ?_, ?_, ?_, ?_⟩, ?_, ?_, ?_, ?_⟩ <;>
      simp only [ProviderCircuitBreaker.step, ProviderCircuitBreaker.opens,
        ProviderCircuitState.completeAt, CircuitStep.now, ProviderCircuitState.openLocked,
        ProviderCircuitState.closeLocked, completion] at * <;>
      grind [ProviderCircuitPhase.isOpen]
  | drop permit now =>
    specialize @erased permit
    cases phase <;> refine ⟨⟨trial, waits, ?_, ?_, ?_, ?_⟩, ?_, ?_, ?_, ?_⟩ <;>
      simp only [ProviderCircuitBreaker.step, ProviderCircuitBreaker.opens,
        ProviderCircuitState.abandonHalfOpen, CircuitStep.now, ProviderCircuitState.openLocked,
        completion] at * <;>
      grind [ProviderCircuitPhase.isOpen]

private theorem sound_run (positive : 0 < policy.failureThreshold) (steps : List CircuitStep)
    (fits : ∀ place ∈ trace (ProviderCircuitBreaker.step policy) .new steps,
      place.1.opens policy place.2 → place.2.now + policy.openDuration < instantLimit) :
    Sound policy (trace (ProviderCircuitBreaker.step policy) .new steps)
      (steps.foldl (ProviderCircuitBreaker.step policy) .new) := by
  induction steps using List.reverseRecOn with
  | nil =>
    refine ⟨nofun, rfl, fun _ _ => rfl, fun _ same => ?_⟩
    cases same
    exact ⟨positive, rfl⟩
  | append_singleton steps step ih =>
    rw [trace_append, List.forall_mem_append] at fits
    obtain ⟨fits, here⟩ := fits
    rw [trace_append, List.foldl_append]
    exact ((ih fits).next positive step (here _ (.head _))).2

theorem circuit_breaker_law (accepted : policy.validate = .ok policy) (steps : List CircuitStep)
    (next : CircuitStep)
    (fits : ∀ place ∈ trace (ProviderCircuitBreaker.step policy) .new (steps ++ [next]),
      place.1.opens policy place.2 → place.2.now + policy.openDuration < instantLimit) :
    let breaker := steps.foldl (ProviderCircuitBreaker.step policy) .new
    CircuitLaw policy (trace (ProviderCircuitBreaker.step policy) .new steps) breaker next
      (breaker.step policy next) := by
  have positive : 0 < policy.failureThreshold := by
    unfold ProviderCircuitBreakerPolicy.validate at accepted
    grind
  rw [trace_append, List.forall_mem_append] at fits
  obtain ⟨fits, here⟩ := fits
  exact ((sound_run positive steps fits).next positive next (here _ (.head _))).1

/-- Under the default policy the fifth failure of a period opens the breaker. -/
theorem circuit_breaker_law_telnyx :
    let failure : CircuitStep := .complete ⟨0, false⟩ (.error (.telnyx none true)) 8
    let steps := List.replicate 5 (.acquire 7) ++ List.replicate 4 failure
    let breaker := steps.foldl (ProviderCircuitBreaker.step .telnyxDefault) .new
    CircuitLaw .telnyxDefault (trace (ProviderCircuitBreaker.step .telnyxDefault) .new steps)
        breaker failure (breaker.step .telnyxDefault failure) ∧
      breaker.opens .telnyxDefault failure ∧
      (breaker.step .telnyxDefault failure).state.phase = .open' (8 + 30 * 10 ^ 9) := by
  intro failure steps breaker
  have soon : ∀ place ∈ trace (ProviderCircuitBreaker.step .telnyxDefault) .new
      (steps ++ [failure]), place.2.now + (30 * 10 ^ 9) < instantLimit := by
    decide +kernel
  have opened : breaker.opens .telnyxDefault failure := by
    refine ⟨by decide +kernel, by decide +kernel, rfl, by decide +kernel, by decide +kernel⟩
  exact ⟨circuit_breaker_law rfl steps failure fun place member _ => soon place member, opened,
    by decide +kernel⟩

/-- An accepted duration that no instant can take: the failure that should open panics. -/
theorem circuit_breaker_overflow :
    let policy : ProviderCircuitBreakerPolicy := ⟨1, instantLimit, by decide⟩
    let step : CircuitStep := .complete ⟨0, false⟩ (.error (.telnyx none true)) 8
    let breaker := ProviderCircuitBreaker.step policy .new (.acquire 7)
    policy.validate = .ok policy ∧
      ¬ CircuitLaw policy [(.new, .acquire 7)] breaker step (breaker.step policy step) := by
  intro _ _ _
  refine ⟨rfl, fun law => ?_⟩
  have opens := (law.opens 0 rfl).mpr (by decide +kernel)
  revert opens
  decide +kernel

end Bridgefu.Providers
