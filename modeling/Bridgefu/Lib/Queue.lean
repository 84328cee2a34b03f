/- digest: Tables whose items are served in order, lane by lane, one at a time. -/

import Bridgefu.Lib.Table

set_option autoImplicit false

namespace Bridgefu.Lib

/-- How items queue up: the lane an item waits in, its place there, and how far it has come. An
item that is done has been started. -/
structure Discipline (V L P : Type) where
  lane : V → L
  place : V → P
  started : V → Prop
  done : V → Prop
  started_of_done : ∀ v, done v → started v

variable {K V L P : Type} [DecidableEq K] [LinearOrder P]

namespace Discipline

variable (d : Discipline V L P)

/-- Every item before this one is done. -/
def Head (t : Table K V) (v : V) : Prop :=
  ∀ k w, t.get? k = some w → d.lane w = d.lane v → d.place w < d.place v → d.done w

/-- Only heads of their lanes have been started. -/
def InOrder (t : Table K V) : Prop :=
  ∀ k v, t.get? k = some v → d.started v → d.Head t v

/-- No two items share a place. -/
def Distinct (t : Table K V) : Prop :=
  ∀ k v k' v', t.get? k = some v → t.get? k' = some v' → d.lane v = d.lane v' →
    d.place v = d.place v' → k = k'

/-- The new item keeps the place of the old one, has come as far, and was at the head if it has
just been started. -/
structure Follows (t : Table K V) (v v' : V) : Prop where
  lane : d.lane v' = d.lane v
  place : d.place v' = d.place v
  done : d.done v → d.done v'
  started : d.started v' → d.started v ∨ d.Head t v

/-- Every item of the later table follows its predecessor. -/
def Moves (t next : Table K V) : Prop :=
  ∀ k v', next.get? k = some v' → ∃ v, t.get? k = some v ∧ d.Follows t v v'

/-- The later table has the items of the earlier one, and items behind all of these that nobody
has started. -/
def Grows (t next : Table K V) : Prop :=
  ∀ k v', next.get? k = some v' → t.get? k = some v' ∨
    (¬ d.started v' ∧ ∀ k w, t.get? k = some w → d.lane w = d.lane v' → d.place w < d.place v')

/-- Every item of a closed lane is done in the later table, the others are untouched. -/
def Closes (closed : L → Prop) (t next : Table K V) : Prop :=
  ∀ k v', next.get? k = some v' → ∃ v, t.get? k = some v ∧ d.lane v' = d.lane v ∧
    d.place v' = d.place v ∧ (closed (d.lane v) → d.done v') ∧ (¬ closed (d.lane v) → v' = v)

end Discipline

variable {d : Discipline V L P} {t next : Table K V}

namespace Discipline.Follows

theorem refl (v : V) : d.Follows t v v :=
  ⟨rfl, rfl, id, .inl⟩

end Discipline.Follows

namespace Discipline.InOrder

theorem empty : d.InOrder (Table.empty : Table K V) := by
  intro k v found
  cases found

variable (ordered : d.InOrder t)
include ordered

theorem moves (moves : d.Moves t next) : d.InOrder next := by
  intro k v found started _ w isOther sameLane earlier
  obtain ⟨v₀, was, follows⟩ := moves k v found
  obtain ⟨w₀, otherWas, otherFollows⟩ := moves _ w isOther
  have head : d.Head t v₀ := by
    rcases follows.started started with before | head
    · exact ordered k v₀ was before
    · exact head
  refine otherFollows.done (head _ w₀ otherWas ?_ ?_)
  · rw [← otherFollows.lane, sameLane, follows.lane]
  · rw [← otherFollows.place, ← follows.place]
    exact earlier

theorem grows (grows : d.Grows t next) : d.InOrder next := by
  intro k v found started _ w isOther sameLane earlier
  rcases grows k v found with was | ⟨idle, -⟩
  · rcases grows _ w isOther with otherWas | ⟨-, behind⟩
    · exact ordered k v was started _ w otherWas sameLane earlier
    · have later := behind k v was sameLane.symm
      exact absurd earlier later.asymm
  · exact absurd started idle

theorem closes {closed} (closes : d.Closes closed t next) : d.InOrder next := by
  intro k v found started _ w isOther sameLane earlier
  obtain ⟨_, was, lane, _, -, kept⟩ := closes k v found
  obtain ⟨w₀, otherWas, _, _, done, otherKept⟩ := closes _ w isOther
  by_cases shut : closed (d.lane w₀)
  · exact done shut
  · have same := otherKept shut
    subst same
    have stays := kept (by rwa [← lane, ← sameLane])
    subst stays
    exact ordered k v was started _ w otherWas sameLane earlier

theorem done_of_lt {k k' v v'} (found : t.get? k = some v) (found' : t.get? k' = some v')
    (sameLane : d.lane v = d.lane v') (earlier : d.place v < d.place v') (done : d.done v') :
    d.done v :=
  ordered k' v' found' (d.started_of_done v' done) k v found sameLane earlier

theorem serves_one (distinct : d.Distinct t) {k k' v v'} (found : t.get? k = some v)
    (found' : t.get? k' = some v') (sameLane : d.lane v = d.lane v') (started : d.started v)
    (started' : d.started v') (undone : ¬ d.done v) (undone' : ¬ d.done v') : k = k' := by
  rcases lt_trichotomy (d.place v) (d.place v') with earlier | same | later
  · exact absurd (ordered k' v' found' started' k v found sameLane earlier) undone
  · exact distinct k v k' v' found found' sameLane same
  · exact absurd (ordered k v found started k' v' found' sameLane.symm later) undone'

end Discipline.InOrder

namespace Discipline.Moves

theorem insert {k v v'} (found : t.get? k = some v) (follows : d.Follows t v v') :
    d.Moves t (t.insert k v') :=
  Table.forall_insert (fun _ w known => ⟨w, known, .refl w⟩) ⟨v, found, follows⟩

theorem mapValues {rewriteValue} (follows : ∀ k v, d.Follows t v (rewriteValue k v)) :
    d.Moves t (t.mapValues rewriteValue) := by
  intro k _ found
  rw [Table.get?_mapValues, Option.map_eq_some_iff] at found
  obtain ⟨v, was, rfl⟩ := found
  exact ⟨v, was, follows k v⟩

theorem distinct (moves : d.Moves t next) (distinct : d.Distinct t) : d.Distinct next := by
  intro k v k' v' found found' sameLane samePlace
  obtain ⟨v₀, was, follows⟩ := moves k v found
  obtain ⟨v₀', was', follows'⟩ := moves k' v' found'
  refine distinct k v₀ k' v₀' was was' ?_ ?_
  · rw [← follows.lane, ← follows'.lane, sameLane]
  · rw [← follows.place, ← follows'.place, samePlace]

end Discipline.Moves

namespace Discipline.Closes

omit [LinearOrder P] in
theorem distinct {closed : L → Prop} (closes : d.Closes closed t next) (distinct : d.Distinct t) :
    d.Distinct next := by
  intro k v k' v' found found' sameLane samePlace
  obtain ⟨v₀, was, lane, place, -⟩ := closes k v found
  obtain ⟨v₀', was', lane', place', -⟩ := closes k' v' found'
  refine distinct k v₀ k' v₀' was was' ?_ ?_
  · rw [← lane, ← lane', sameLane]
  · rw [← place, ← place', samePlace]

end Discipline.Closes

end Bridgefu.Lib
