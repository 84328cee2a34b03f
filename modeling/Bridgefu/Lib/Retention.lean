/- digest: Versioned rows with a retention time, and how long a table remembers a version. -/

import Bridgefu.Lib.Table

set_option autoImplicit false

namespace Bridgefu.Lib

/-- A stored value with the number of the write it came from and the time it is kept for. -/
structure Versioned (S T V : Type) where
  sequence : S
  value : V
  retainedUntil : T

variable {K S T V : Type} [DecidableEq K] [LinearOrder T]

/-- Drop the rows whose retention is over. -/
def sweep (rows : Table K (Versioned S T V)) (now : T) : Table K (Versioned S T V) :=
  rows.filter fun _ row => decide (now < row.retainedUntil)

theorem get?_sweep {rows : Table K (Versioned S T V)} {now key row} :
    (sweep rows now).get? key = some row ↔ rows.get? key = some row ∧ now < row.retainedUntil := by
  simp [sweep]

theorem sweep_eq_self {rows : Table K (Versioned S T V)} {now}
    (kept : ∀ key row, rows.get? key = some row → now < row.retainedUntil) :
    sweep rows now = rows := by
  apply Table.eq_of_rows_eq
  apply List.filter_eq_self.mpr
  rintro ⟨key, row⟩ member
  exact decide_eq_true (kept key row (Table.get?_of_mem member))

variable [LinearOrder S]

/-- Until the given time the key holds the given version or a later one. -/
def Remembers (rows : Table K (Versioned S T V)) (now : T) (key : K) (sequence : S)
    (deadline : T) : Prop :=
  deadline ≤ now ∨
    ∃ row, rows.get? key = some row ∧ sequence ≤ row.sequence ∧ deadline ≤ row.retainedUntil

namespace Remembers

variable {rows : Table K (Versioned S T V)} {now later : T} {key other : K} {sequence : S}
  {deadline : T} {row : Versioned S T V}

section

variable (known : Remembers rows now key sequence deadline)
include known

theorem wait (passed : now ≤ later) : Remembers rows later key sequence deadline := by
  rcases known with elapsed | stored
  · exact .inl (le_trans elapsed passed)
  · exact .inr stored

theorem sweep {swept : T} (passed : swept ≤ now) :
    Remembers (sweep rows swept) now key sequence deadline := by
  rcases known with elapsed | ⟨row, stored, newer, outlives⟩
  · exact .inl elapsed
  · by_cases kept : swept < row.retainedUntil
    · exact .inr ⟨row, get?_sweep.mpr ⟨stored, kept⟩, newer, outlives⟩
    · have expired : row.retainedUntil ≤ now := le_trans (not_lt.mp kept) passed
      exact .inl (le_trans outlives expired)

theorem insert (advances : ∀ old, rows.get? other = some old → old.sequence < row.sequence)
    (outlives : key = other → sequence < row.sequence → deadline ≤ row.retainedUntil) :
    Remembers (rows.insert other row) now key sequence deadline := by
  rcases known with elapsed | ⟨old, stored, newer, kept⟩
  · exact .inl elapsed
  · by_cases same : key = other
    · have grows : sequence < row.sequence := by
        subst same
        exact lt_of_le_of_lt newer (advances old stored)
      refine .inr ⟨row, ?_, le_of_lt grows, outlives same grows⟩
      rw [same, Table.get?_insert_self]
    · refine .inr ⟨old, ?_, newer, kept⟩
      rw [Table.get?_insert_ne _ _ same, stored]

end

theorem inserted (outlives : deadline ≤ row.retainedUntil) :
    Remembers (rows.insert key row) now key row.sequence deadline :=
  .inr ⟨row, Table.get?_insert_self _ _ _, le_refl _, outlives⟩

end Remembers

/-- The stored row is the newest of the rows that were written, if there are any. -/
def Newest (written : Versioned S T V → Prop) : Option (Versioned S T V) → Prop
  | none => ∀ row, ¬ written row
  | some row => written row ∧ ∀ other, written other → other.sequence ≤ row.sequence

namespace Newest

variable {written written' : Versioned S T V → Prop} {stored stored' : Option (Versioned S T V)}

omit [LinearOrder T] in
theorem congr (newest : Newest written stored) (same : ∀ row, written' row ↔ written row) :
    Newest written' stored := by
  have equal : written' = written := funext fun row => propext (same row)
  rw [equal]
  exact newest

omit [LinearOrder T] in
theorem unique {α : Type} {observe : Versioned S T V → α} (newest : Newest written stored)
    (newest' : Newest written' stored')
    (known : ∀ row, written row → ∃ other, written' other ∧ other.sequence = row.sequence)
    (known' : ∀ row, written' row → ∃ other, written other ∧ other.sequence = row.sequence)
    (agree : ∀ row other, written row → written' other → row.sequence = other.sequence →
      observe row = observe other) : stored.map observe = stored'.map observe := by
  cases stored with
  | none =>
    cases stored' with
    | none => rfl
    | some row' =>
      obtain ⟨other, told, -⟩ := known' _ newest'.1
      exact absurd told (newest other)
  | some row =>
    cases stored' with
    | none =>
      obtain ⟨other, told, -⟩ := known row newest.1
      exact absurd told (newest' other)
    | some row' =>
      obtain ⟨other, told, same⟩ := known row newest.1
      obtain ⟨_, told', same'⟩ := known' _ newest'.1
      have below : row.sequence ≤ row'.sequence := same ▸ newest'.2 _ told
      have above : row'.sequence ≤ row.sequence := same' ▸ newest.2 _ told'
      exact congrArg some (agree row _ newest.1 newest'.1 (le_antisymm below above))

end Newest

end Bridgefu.Lib
