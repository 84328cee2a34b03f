/- digest: Guards, lookups and sequencing of fallible computations, and how a success is read back. -/

import Mathlib

set_option autoImplicit false

namespace Bridgefu.Lib

variable {ε δ α β : Type}

/-- Fail with the given error when the rejected condition holds. -/
def reject (condition : Prop) [Decidable condition] (error : ε) : Except ε Unit :=
  if condition then .error error else .ok ()

variable (value : Option α) (attempt : Except ε α)

/-- Read a value that must be present. -/
def orFail (error : ε) : Except ε α :=
  match value with
  | some a => .ok a
  | none => .error error

/-- Replace every error by one error of the caller. -/
def mapFailure (attempt : Except δ α) (error : ε) : Except ε α :=
  match attempt with
  | .ok a => .ok a
  | .error _ => .error error

/-- Run a check over a list, stopping at the first failure. -/
def checkAll (check : α → Except ε Unit) : List α → Except ε Unit
  | [] => .ok ()
  | a :: rest => do
    check a
    checkAll check rest

/-- Run a check over a list, handing it the items already seen, the latest first. -/
def checkAllAfter (check : List α → α → Except ε Unit) : List α → List α → Except ε Unit
  | _, [] => .ok ()
  | seen, a :: rest => do
    check seen a
    checkAllAfter check (a :: seen) rest

/-- Thread a state through a list of fallible updates, stopping at the first failure. -/
def foldFallible (step : β → α → Except ε β) : β → List α → Except ε β
  | state, [] => .ok state
  | state, a :: rest => do
    let next ← step state a
    foldFallible step next rest

/-- Visit a list of keys, keeping at most `limit` of the items handed out on the way. -/
def claimEach {σ κ γ : Type} (attempt : σ → κ → Except ε (σ × Option γ)) :
    Nat → σ → List κ → Except ε (σ × List γ)
  | _, state, [] => .ok (state, [])
  | 0, state, _ :: _ => .ok (state, [])
  | limit + 1, state, key :: rest => do
    let step ← attempt state key
    match step.2 with
    | none => claimEach attempt (limit + 1) step.1 rest
    | some claim => do
      let others ← claimEach attempt limit step.1 rest
      return (others.1, claim :: others.2)

/-- A check that fails leaves the state as it is. What follows the checks decides for itself. -/
def settle {σ : Type} (state : σ) (checked : Except ε (σ × Except ε α)) : σ × Except ε α :=
  match checked with
  | .ok outcome => outcome
  | .error error => (state, .error error)

/-- A refused update leaves the state as it is. -/
def orKeep {σ : Type} (attempt : Except ε σ) (state : σ) : σ :=
  match attempt with
  | .ok next => next
  | .error _ => state

theorem orKeep_induction {σ} {attempt : Except ε σ} {state} {motive : σ → Prop}
    (keep : motive state) (next : ∀ after, attempt = .ok after → motive after) :
    motive (orKeep attempt state) := by
  unfold orKeep
  split
  · exact next _ rfl
  · exact keep

@[simp] theorem reject_eq_ok (condition : Prop) [Decidable condition] (error : ε) (u : Unit) :
    reject condition error = .ok u ↔ ¬ condition := by
  unfold reject
  split <;> simp_all

@[simp] theorem orFail_eq_ok (error : ε) (a : α) : orFail value error = .ok a ↔ value = some a := by
  cases value <;> simp [orFail]

@[simp] theorem mapFailure_eq_ok (attempt : Except δ α) (error : ε) (a : α) :
    mapFailure attempt error = .ok a ↔ attempt = .ok a := by
  cases attempt <;> simp [mapFailure]

@[simp] theorem bind_eq_ok (next : α → Except ε β) (b : β) :
    (attempt >>= next) = .ok b ↔ ∃ a, attempt = .ok a ∧ next a = .ok b := by
  cases attempt with
  | error =>
    constructor
    · intro failed
      cases failed
    · rintro ⟨a, impossible, -⟩
      cases impossible
  | ok a =>
    constructor
    · intro done
      exact ⟨a, rfl, done⟩
    · rintro ⟨_, same, done⟩
      cases same
      exact done

@[simp] theorem toOption_any {test} :
    attempt.toOption.any test = true ↔ ∃ a, attempt = .ok a ∧ test a = true := by
  cases attempt <;> simp [Except.toOption]

theorem bind_congr_ok {attempt} {next other : α → Except ε β}
    (same : ∀ a, attempt = .ok a → next a = other a) :
    (attempt >>= next) = (attempt >>= other) := by
  cases attempt with
  | error => rfl
  | ok a => exact same a rfl

@[simp] theorem map_eq_ok (f : α → β) (b : β) :
    f <$> attempt = .ok b ↔ ∃ a, attempt = .ok a ∧ f a = b := by
  cases attempt <;> simp

@[simp] theorem exists_unit {holds : Unit → Prop} : (∃ u, holds u) ↔ holds () := by
  constructor
  · rintro ⟨⟨⟩, held⟩
    exact held
  · intro held
    exact ⟨(), held⟩

@[simp] theorem pure_eq_ok (a b : α) : (pure a : Except ε α) = .ok b ↔ a = b := by
  simp [pure, Except.pure]

theorem settle_induction {σ state checked} {motive : σ × Except ε α → Prop}
    (refused : ∀ failure, checked = .error failure → motive (state, .error failure))
    (next : ∀ outcome, checked = .ok outcome → motive outcome) : motive (settle state checked) := by
  unfold settle
  split
  · exact next _ rfl
  · exact refused _ rfl

/-! Where a failure comes from. -/

theorem reject_eq_error (condition : Prop) [Decidable condition] (error failure : ε) :
    reject condition error = .error failure ↔ condition ∧ error = failure := by
  unfold reject
  split <;> simp_all

theorem orFail_eq_error (error failure : ε) :
    orFail value error = .error failure ↔ value = none ∧ error = failure := by
  cases value <;> simp [orFail]

theorem pure_eq_error (a : α) (failure : ε) : (pure a : Except ε α) = .error failure ↔ False := by
  simp [pure, Except.pure]

theorem bind_eq_error (next : α → Except ε β) (failure : ε) :
    (attempt >>= next) = .error failure ↔
      attempt = .error failure ∨ ∃ a, attempt = .ok a ∧ next a = .error failure := by
  cases attempt <;> simp [bind, Except.bind]

/-- Every failure of the computation is of the given sort. -/
def FailsWith (sort : ε → Prop) (attempt : Except ε α) : Prop :=
  ∀ failure, attempt = .error failure → sort failure

section FailsWith

variable {sort : ε → Prop}

@[simp] theorem failsWith_ok (a : α) : FailsWith sort (.ok a : Except ε α) := nofun

@[simp] theorem failsWith_pure (a : α) : FailsWith sort (pure a : Except ε α) := nofun

@[simp] theorem failsWith_error (error : ε) :
    FailsWith sort (.error error : Except ε α) ↔ sort error := by
  simp [FailsWith]

@[simp] theorem failsWith_reject (condition : Prop) [Decidable condition] (error : ε) :
    FailsWith sort (reject condition error) ↔ (condition → sort error) := by
  unfold reject
  split <;> simp_all

@[simp] theorem failsWith_orFail (value : Option α) (error : ε) :
    FailsWith sort (orFail value error) ↔ (value = none → sort error) := by
  cases value <;> simp [orFail]

@[simp] theorem failsWith_bind (attempt : Except ε α) (next : α → Except ε β) :
    FailsWith sort (attempt >>= next) ↔
      FailsWith sort attempt ∧ ∀ a, attempt = .ok a → FailsWith sort (next a) := by
  simp only [FailsWith, bind_eq_error]
  constructor
  · intro every
    exact ⟨fun failure failed => every _ (.inl failed),
      fun a done failure failed => every _ (.inr ⟨a, done, failed⟩)⟩
  · rintro ⟨first, second⟩ failure (failed | ⟨a, done, failed⟩)
    · exact first _ failed
    · exact second a done _ failed

@[simp] theorem failsWith_map (attempt : Except ε α) (f : α → β) :
    FailsWith sort (f <$> attempt) ↔ FailsWith sort attempt := by
  cases attempt <;> simp

@[simp] theorem failsWith_mapFailure (attempt : Except δ α) {error} (sorted : sort error) :
    FailsWith sort (mapFailure attempt error) := by
  cases attempt <;> simp [mapFailure, sorted]

theorem failsWith_foldFallible {step}
    (every : ∀ state a, FailsWith sort (step state a)) (items : List α) (state : β) :
    FailsWith sort (foldFallible step state items) := by
  induction items generalizing state with
  | nil => exact failsWith_ok state
  | cons a _ ih => exact (failsWith_bind _ _).mpr ⟨every state a, fun next _ => ih next⟩

theorem failsWith_checkAll {check} (every : ∀ a, FailsWith sort (check a))
    (items : List α) : FailsWith sort (checkAll check items) := by
  induction items with
  | nil => exact failsWith_ok ()
  | cons a _ ih => exact (failsWith_bind _ _).mpr ⟨every a, fun _ _ => ih⟩

end FailsWith

theorem checkAll_eq_ok (check : α → Except ε Unit) (items : List α) (u : Unit) :
    checkAll check items = .ok u ↔ ∀ a ∈ items, check a = .ok () := by
  induction items with
  | nil => simp [checkAll]
  | cons a _ ih => simp [checkAll, ih]

theorem checkAllAfter_mono {check other : List α → α → Except ε Unit}
    (mono : ∀ seen a, check seen a = .ok () → other seen a = .ok ()) {items seen}
    (checked : checkAllAfter check seen items = .ok ()) :
    checkAllAfter other seen items = .ok () := by
  induction items generalizing seen with
  | nil => rfl
  | cons a _ ih =>
    rw [checkAllAfter, bind_eq_ok, exists_unit] at checked ⊢
    exact ⟨mono _ _ checked.1, ih checked.2⟩

theorem foldFallible_preserves {step : β → α → Except ε β} (Keeps : β → Prop)
    (kept : ∀ state a next, Keeps state → step state a = .ok next → Keeps next) {items state final}
    (start : Keeps state) (run : foldFallible step state items = .ok final) : Keeps final := by
  induction items generalizing state with
  | nil =>
    cases run
    exact start
  | cons a _ ih =>
    obtain ⟨_, first, others⟩ := (bind_eq_ok _ _ _).mp run
    exact ih (kept _ a _ start first) others

theorem foldFallible_append (step : β → α → Except ε β) (state : β) (first second : List α) :
    foldFallible step state (first ++ second) =
      (foldFallible step state first >>= fun next => foldFallible step next second) := by
  induction first generalizing state with
  | nil => rfl
  | cons a _ ih =>
    simp only [List.cons_append, foldFallible]
    cases step _ a with
    | error => rfl
    | ok next => exact ih next

/-- A property of the state kept by every visit is kept by the whole round of claims, and what every
visit ensures of the item it hands out holds of all items of the round. -/
theorem claimEach_keeps {σ κ γ} {attempt : σ → κ → Except ε (σ × Option γ)}
    (Keeps : σ → Prop) (Good : γ → Prop) {keys}
    (visit : ∀ state, ∀ key ∈ keys, ∀ step, Keeps state → attempt state key = .ok step →
      Keeps step.1 ∧ ∀ item, step.2 = some item → Good item) {limit state result}
    (start : Keeps state) (run : claimEach attempt limit state keys = .ok result) :
    Keeps result.1 ∧ ∀ item ∈ result.2, Good item := by
  induction keys generalizing limit state result with
  | nil =>
    rw [claimEach, Except.ok.injEq] at run
    subst run
    simpa
  | cons key rest ih =>
    cases limit with
    | zero =>
      rw [claimEach, Except.ok.injEq] at run
      subst run
      simpa
    | succ =>
      rw [claimEach, bind_eq_ok] at run
      obtain ⟨_, first, others⟩ := run
      obtain ⟨next, good⟩ := visit _ key (List.mem_cons_self) _ start first
      have visits := fun state key member => visit state key (List.mem_cons_of_mem _ member)
      split at others
      · exact ih visits next others
      · rename_i claim handed
        simp only [bind_eq_ok, pure_eq_ok] at others
        obtain ⟨_, later, rfl⟩ := others
        obtain ⟨kept, rest⟩ := ih visits next later
        refine ⟨kept, fun _ member => ?_⟩
        rcases List.mem_cons.mp member with rfl | inside
        · exact good _ handed
        · exact rest _ inside

theorem claimEach_preserves {σ κ γ} {attempt : σ → κ → Except ε (σ × Option γ)}
    (Keeps : σ → Prop) {keys}
    (kept : ∀ state, ∀ key ∈ keys, ∀ step, Keeps state → attempt state key = .ok step →
      Keeps step.1) {limit state result} (start : Keeps state)
    (run : claimEach attempt limit state keys = .ok result) : Keeps result.1 :=
  (claimEach_keeps Keeps (fun _ => True) (fun state key member step keeps done =>
    ⟨kept state key member step keeps done, fun _ _ => trivial⟩) start run).1

end Bridgefu.Lib
