/- digest: Runs of a deterministic machine as the list of inputs with the states they found. -/

import Mathlib

set_option autoImplicit false

namespace Bridgefu.Lib

variable {σ ι : Type}

/-- The inputs of a run in order, each with the state that it found. -/
def trace (step : σ → ι → σ) : σ → List ι → List (σ × ι)
  | _, [] => []
  | state, input :: rest => (state, input) :: trace step (step state input) rest

variable {step : σ → ι → σ}

theorem trace_append (state : σ) (first second : List ι) :
    trace step state (first ++ second) =
      trace step state first ++ trace step (first.foldl step state) second := by
  induction first generalizing state with
  | nil => rfl
  | cons input _ ih => exact congrArg ((state, input) :: ·) (ih (step state input))

theorem trace_map_snd (state : σ) (inputs : List ι) :
    (trace step state inputs).map Prod.snd = inputs := by
  induction inputs generalizing state with
  | nil => rfl
  | cons input _ ih => exact congrArg (input :: ·) (ih (step state input))

/-- What each input keeps about the past and the state holds after every run. -/
theorem trace_induction {state} {motive : List (σ × ι) → σ → Prop} (start : motive [] state)
    (next : ∀ past now input, motive past now → motive (past ++ [(now, input)]) (step now input))
    (inputs : List ι) : motive (trace step state inputs) (inputs.foldl step state) := by
  -- the induction carries the past along, since an input changes the state the rest finds
  have from' : ∀ past now, motive past now →
      motive (past ++ trace step now inputs) (inputs.foldl step now) := by
    induction inputs with
    | nil => simp [trace]
    | cons input rest ih =>
      intro past now held
      have later := ih (past ++ [(now, input)]) (step now input) (next _ now _ held)
      rw [List.append_assoc] at later
      exact later
  exact from' [] _ start

theorem foldl_induction {state} {motive : σ → Prop} (start : motive state)
    (next : ∀ now input, motive now → motive (step now input)) (inputs : List ι) :
    motive (inputs.foldl step state) :=
  trace_induction (motive := fun _ now => motive now) start (fun _ now input => next now input)
    inputs

/-- What every input that fits its place keeps about the state holds after a run of such inputs. -/
theorem foldl_keeps {state} {motive : σ → Prop} {fits : σ → ι → Prop} (start : motive state)
    (next : ∀ now input, motive now → fits now input → motive (step now input)) {inputs}
    (all : ∀ place ∈ trace step state inputs, fits place.1 place.2) :
    motive (inputs.foldl step state) := by
  induction inputs generalizing state with
  | nil => exact start
  | cons _ _ ih =>
    obtain ⟨here, later⟩ := List.forall_mem_cons.mp all
    exact ih (next _ _ start here) later

theorem trace_split {state now inputs past future input}
    (split : trace step state inputs = past ++ (now, input) :: future) :
    ∃ first second, inputs = first ++ input :: second ∧ past = trace step state first ∧
      now = first.foldl step state ∧ future = trace step (step now input) second := by
  induction inputs generalizing state past with
  | nil => simp [trace] at split
  | cons head rest ih =>
    cases past with
    | nil =>
      obtain ⟨⟨rfl, rfl⟩, rfl⟩ := split
      exact ⟨[], rest, rfl, rfl, rfl, rfl⟩
    | cons =>
      rw [trace, List.cons_append, List.cons.injEq] at split
      obtain ⟨rfl, split⟩ := split
      obtain ⟨before, after, rfl, rfl, rfl, rfl⟩ := ih split
      exact ⟨head :: before, after, rfl, rfl, rfl, rfl⟩

theorem mem_trace {state now inputs input} (member : (now, input) ∈ trace step state inputs) :
    ∃ first second, inputs = first ++ input :: second ∧ now = first.foldl step state := by
  obtain ⟨_, _, split⟩ := List.append_of_mem member
  obtain ⟨first, second, same, -, reached, -⟩ := trace_split split
  exact ⟨first, second, same, reached⟩

end Bridgefu.Lib
