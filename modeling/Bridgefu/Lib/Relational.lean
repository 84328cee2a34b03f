/- digest: Running two fallible machines side by side: what their outcomes have in common. -/

import Bridgefu.Lib.Fallible

set_option autoImplicit false

namespace Bridgefu.Lib

variable {σ τ ε δ α β γ : Type}

theorem bind_reject_pos {condition} [Decidable condition] (holds : condition) (error : ε)
    (next : Unit → Except ε α) : (reject condition error >>= next) = .error error := by
  rw [reject, if_pos holds]
  rfl

theorem bind_reject_neg {condition} [Decidable condition] (fails : ¬ condition) (error : ε)
    (next : Unit → Except ε α) : (reject condition error >>= next) = next () := by
  rw [reject, if_neg fails]
  rfl

theorem settle_reject (state : σ) (condition : Prop) [Decidable condition] (error : ε)
    (next : Unit → Except ε (σ × Except ε α)) :
    settle state (reject condition error >>= next) =
      if condition then (state, .error error) else settle state (next ()) := by
  unfold reject
  split <;> rfl

theorem settle_orFail_some (state : σ) (value : γ) (error : ε)
    (next : γ → Except ε (σ × Except ε α)) :
    settle state (orFail (some value) error >>= next) = settle state (next value) := rfl

theorem settle_ok (state : σ) (value : γ) (next : γ → Except ε (σ × Except ε α)) :
    settle state (.ok value >>= next) = settle state (next value) := rfl

theorem settle_pure (state : σ) (outcome : σ × Except ε α) :
    settle state (pure outcome) = outcome := rfl

theorem settle_ite (state : σ) (condition : Prop) [Decidable condition]
    (first second : Except ε (σ × Except ε α)) :
    settle state (if condition then first else second) =
      if condition then settle state first else settle state second := by
  split <;> rfl

/-- Both succeed with answers that agree or both fail, and the states they leave are related. -/
structure Paired (related : σ → τ → Prop) (same : α → β → Prop) (left : σ × Except ε α)
    (right : τ × Except δ β) : Prop where
  states : related left.1 right.1
  answers : (∃ a b, left.2 = .ok a ∧ right.2 = .ok b ∧ same a b) ∨
    ∃ e f, left.2 = .error e ∧ right.2 = .error f

section Paired

variable {related : σ → τ → Prop} {same : α → β → Prop} {state : σ} {other : τ}

theorem Paired.refused (held : related state other) (error : ε) (failure : δ) :
    Paired related same (state, .error error) (other, .error failure) :=
  ⟨held, .inr ⟨error, failure, rfl, rfl⟩⟩

theorem Paired.done (held : related state other) {a b} (agree : same a b) :
    Paired related same (state, (.ok a : Except ε α)) (other, (.ok b : Except δ β)) :=
  ⟨held, .inl ⟨a, b, rfl, rfl, agree⟩⟩

theorem Paired.guard {first second} [Decidable first] [Decidable second]
    (together : first ↔ second) (held : related state other) (error : ε) (failure : δ) {left right}
    (next : ¬ first → Paired related same left right) :
    Paired related same (if first then (state, .error error) else left)
      (if second then (other, .error failure) else right) := by
  by_cases fires : first
  · rw [if_pos fires, if_pos (together.mp fires)]
    exact refused held _ failure
  · rw [if_neg fires, if_neg fun fired => fires (together.mpr fired)]
    exact next fires

theorem Paired.check {first second} [Decidable first] [Decidable second]
    (together : first ↔ second) (held : related state other) {error : ε} {failure : δ} {left right}
    (next : ¬ first → Paired related same (settle state (left ())) (settle other (right ()))) :
    Paired related same (settle state (reject first error >>= left))
      (settle other (reject second failure >>= right)) := by
  rw [settle_reject, settle_reject]
  exact guard together held _ _ next

theorem Paired.lookup {ρ} {R : γ → ρ → Prop} {here there} (rel : Option.Rel R here there)
    (held : related state other) {error : ε} {failure : δ} {left right}
    (next : ∀ a b, here = some a → there = some b → R a b →
      Paired related same (settle state (left a)) (settle other (right b))) :
    Paired related same (settle state (orFail here error >>= left))
      (settle other (orFail there failure >>= right)) := by
  cases rel with
  | none => exact refused held error failure
  | some agree => exact next _ _ rfl rfl agree

end Paired

theorem rel_cases {R : α → β → Prop} {left right} (rel : Option.Rel R left right) :
    (left = none ∧ right = none) ∨ ∃ a b, left = some a ∧ right = some b ∧ R a b := by
  cases rel with
  | none => exact .inl ⟨rfl, rfl⟩
  | some agree => exact .inr ⟨_, _, rfl, rfl, agree⟩

theorem rel_none {R : α → β → Prop} {right} (rel : Option.Rel R none right) : right = none := by
  cases rel
  rfl

theorem rel_some {R : α → β → Prop} {a right} (rel : Option.Rel R (some a) right) :
    ∃ b, right = some b ∧ R a b := by
  cases rel with
  | some agree => exact ⟨_, rfl, agree⟩

theorem some_rel {R : α → β → Prop} {left b} (rel : Option.Rel R left (some b)) :
    ∃ a, left = some a ∧ R a b := by
  cases rel with
  | some agree => exact ⟨_, rfl, agree⟩

end Bridgefu.Lib
