/- digest: Token accounting: what a bucket that refills at a fixed rate can have given out. -/

import Mathlib

set_option autoImplicit false

namespace Bridgefu.Lib

variable {𝕜 : Type} [Field 𝕜] [LinearOrder 𝕜] [IsStrictOrderedRing 𝕜]

/-- How much a bucket has given out since the start of a window, against what it still holds: both
together are covered by one full bucket and by what was refilled since the start. -/
structure Budget (rate burst start spent tokens refilledAt : 𝕜) : Prop where
  full : tokens ≤ burst
  early : refilledAt < start → spent = 0
  covered : spent + tokens ≤ burst + rate * (max refilledAt start - start)

namespace Budget

variable {rate burst start spent tokens refilledAt now : 𝕜}

theorem reopen (early : now < start → spent = 0)
    (covered : spent ≤ rate * (max now start - start)) :
    Budget rate burst start spent burst now where
  full := le_refl _
  early := early
  covered := by linarith

theorem start_full (rate burst start now : 𝕜) (positive : 0 ≤ rate) :
    Budget rate burst start 0 burst now := by
  refine reopen (fun _ => rfl) ?_
  have later : 0 ≤ max now start - start := sub_nonneg.mpr (le_max_right _ _)
  exact mul_nonneg positive later

theorem refill (budget : Budget rate burst start spent tokens refilledAt) (positive : 0 ≤ rate)
    (later : refilledAt ≤ now) :
    Budget rate burst start spent (min (tokens + rate * (now - refilledAt)) burst) now where
  full := min_le_right _ _
  early := fun before => budget.early (lt_of_le_of_lt later before)
  covered := by
    by_cases began : start ≤ refilledAt
    · -- everything since the last refill counts
      have covered := budget.covered
      rw [max_eq_left began] at covered
      rw [max_eq_left (le_trans began later)]
      have bound := min_le_left (tokens + rate * (now - refilledAt)) burst
      linarith
    · -- nothing has been given out in the window yet
      have nothing := budget.early (not_le.mp began)
      have bound := min_le_right (tokens + rate * (now - refilledAt)) burst
      have since : 0 ≤ rate * (max now start - start) :=
        mul_nonneg positive (sub_nonneg.mpr (le_max_right _ _))
      linarith

section

variable (budget : Budget rate burst start spent tokens now)
include budget

theorem spend (inside : start ≤ now) : Budget rate burst start (spent + 1) (tokens - 1) now where
  full := by
    have full := budget.full
    linarith
  early := fun before => absurd inside (not_le.mpr before)
  covered := by
    have covered := budget.covered
    linarith

theorem waste : Budget rate burst start spent (tokens - 1) now where
  full := by
    have full := budget.full
    linarith
  early := budget.early
  covered := by
    have covered := budget.covered
    linarith

theorem spent_le (held : 0 ≤ tokens) (inside : start ≤ now) :
    spent ≤ burst + rate * (now - start) := by
  have covered := budget.covered
  rw [max_eq_left inside] at covered
  linarith

end

theorem paid (budget : Budget rate burst start spent tokens refilledAt) (positive : 0 ≤ rate)
    (later : refilledAt ≤ now) (again : burst ≤ tokens + rate * (now - refilledAt)) :
    (now < start → spent = 0) ∧ spent ≤ rate * (max now start - start) := by
  refine ⟨fun before => budget.early (lt_of_le_of_lt later before), ?_⟩
  have refilled := (budget.refill positive later).covered
  rw [min_eq_right again] at refilled
  linarith

end Budget

end Bridgefu.Lib
