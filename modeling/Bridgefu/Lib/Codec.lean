/- digest: Texts that split one way only: measured fields, numbers, markers and counted lists. -/

import Mathlib

set_option autoImplicit false

namespace Bridgefu.Lib

/-- A text to be written. It is absent if one of its parts does not fit its field. -/
abbrev Encoding (Symbol : Type) := Option (List Symbol)

namespace Encoding

section Parts

variable {Symbol Value : Type} {first second later later' : Encoding Symbol} {Fact Fact' : Prop}

def append (first second : Encoding Symbol) : Encoding Symbol :=
  first.bind fun start => second.map fun rest => start ++ rest

def concat (parts : List (Encoding Symbol)) : Encoding Symbol := parts.foldr append (some [])

/-- Equal texts that begin with the two encodings establish the fact, and go on alike. -/
def Splits (first second : Encoding Symbol) (Fact : Prop) : Prop :=
  ∀ start start' rest rest', first = some start → second = some start' →
    start ++ rest = start' ++ rest' → Fact ∧ rest = rest'

theorem concat_empty (parts : List (Encoding Symbol)) :
    concat (concat [] :: parts) = concat parts := by
  unfold concat
  rw [List.foldr_cons]
  cases parts.foldr append (some []) <;> rfl

theorem append_eq_some {text} :
    append first second = some text ↔
      ∃ start rest, first = some start ∧ second = some rest ∧ start ++ rest = text := by
  simp only [append, Option.bind_eq_some_iff, Option.map_eq_some_iff]
  constructor
  · rintro ⟨start, written, rest, follows, whole⟩
    exact ⟨start, rest, written, follows, whole⟩
  · rintro ⟨start, rest, written, follows, whole⟩
    exact ⟨start, written, rest, follows, whole⟩

namespace Splits

theorem empty : Splits (some ([] : List Symbol)) (some []) True := by
  intro _ _ _ _ written written' same
  cases written
  cases written'
  exact ⟨trivial, same⟩

section

variable (splits : Splits first second Fact)
include splits

theorem imp (gives : Fact → Fact') : Splits first second Fact' := by
  intro _ _ _ _ written written' same
  obtain ⟨fact, rests⟩ := splits _ _ _ _ written written' same
  exact ⟨gives fact, rests⟩

theorem append (follows : Fact → Splits later later' Fact') :
    Splits (first.append later) (second.append later') (Fact ∧ Fact') := by
  intro _ _ _ _ written written' same
  obtain ⟨_, _, starts, continues, rfl⟩ := append_eq_some.mp written
  obtain ⟨_, _, starts', continues', rfl⟩ := append_eq_some.mp written'
  rw [List.append_assoc, List.append_assoc] at same
  obtain ⟨fact, tails⟩ := splits _ _ _ _ starts starts' same
  obtain ⟨fact', rests⟩ := follows fact _ _ _ _ continues continues' tails
  exact ⟨⟨fact, fact'⟩, rests⟩

theorem refuted (impossible : ¬ Fact) : Splits (first.append later) (second.append later') Fact' :=
  have both : Splits (first.append later) (second.append later') (Fact ∧ Fact') :=
    splits.append fun fact => absurd fact impossible
  both.imp And.right

theorem symm : Splits second first Fact := by
  intro _ _ _ _ written written' same
  obtain ⟨fact, rests⟩ := splits _ _ _ _ written' written same.symm
  exact ⟨fact, rests.symm⟩

end

theorem nil : Splits (concat ([] : List (Encoding Symbol))) (concat []) True := empty

section

variable (splits : Splits first second Fact)
include splits

theorem cons {parts parts'} (follows : Splits (concat parts) (concat parts') Fact') :
    Splits (concat (first :: parts)) (concat (second :: parts')) (Fact ∧ Fact') :=
  splits.append fun _ => follows

theorem differ {parts parts'} (impossible : ¬ Fact) :
    Splits (concat (first :: parts)) (concat (second :: parts')) Fact' :=
  splits.refuted impossible

theorem refuted_left (impossible : ¬ Fact) : Splits (first.append later) second Fact' := by
  intro _ _ _ _ written written' same
  obtain ⟨_, _, starts, -, rfl⟩ := append_eq_some.mp written
  rw [List.append_assoc] at same
  exact absurd (splits _ _ _ _ starts written' same).1 impossible

theorem differ_left {parts} (impossible : ¬ Fact) : Splits (concat (first :: parts)) second Fact' :=
  splits.refuted_left impossible

end

theorem of_length {start start' : List Symbol} (same : start.length = start'.length) :
    Splits (some start) (some start') (start = start') := by
  intro _ _ _ _ written written' whole
  cases written
  cases written'
  exact List.append_inj whole same

theorem each {encode : Value → Encoding Symbol}
    (items : ∀ value value', Splits (encode value) (encode value') (value = value')) :
    ∀ {values values' : List Value}, values.length = values'.length →
      Splits (concat (values.map encode)) (concat (values'.map encode)) (values = values')
  | [], [], _ => empty.imp fun _ => rfl
  | value :: values, value' :: values', length => by
    have tails := each items (Nat.succ.inj length)
    refine ((items value value').append fun _ => tails).imp ?_
    rintro ⟨rfl, rfl⟩
    rfl

theorem ends (splits : Splits first second Fact) {text} (written : first = some text)
    (written' : second.append later = some text) : later = some [] := by
  obtain ⟨start, rest, starts, continues, rfl⟩ := append_eq_some.mp written'
  have same : start ++ rest ++ [] = start ++ rest := List.append_nil _
  obtain ⟨-, nothing⟩ := splits _ start [] _ written starts same
  rw [continues, nothing]

theorem fact (splits : Splits first second Fact) {text} (written : first = some text)
    (written' : second = some text) : Fact :=
  (splits text text [] [] written written' rfl).1

end Splits

/-- Whenever the first text can be written, so can the second, in no more room. -/
def Covers (first second : Encoding Symbol) : Prop :=
  ∀ text, first = some text → ∃ text', second = some text' ∧ text'.length ≤ text.length

namespace Covers

theorem refl (encoding : Encoding Symbol) : Covers encoding encoding :=
  fun text written => ⟨text, written, Nat.le_refl _⟩

theorem cons {parts parts'} (covers : Covers first second)
    (follows : Covers (concat parts) (concat parts')) :
    Covers (concat (first :: parts)) (concat (second :: parts')) := by
  intro _ written
  obtain ⟨_, _, starts, continues, rfl⟩ := append_eq_some.mp written
  obtain ⟨start', starts', shorter⟩ := covers _ starts
  obtain ⟨rest', continues', shorter'⟩ := follows _ continues
  refine ⟨start' ++ rest', append_eq_some.mpr ⟨start', rest', starts', continues', rfl⟩, ?_⟩
  rw [List.length_append, List.length_append]
  exact Nat.add_le_add shorter shorter'

theorem skip {parts} (covers : Covers (concat parts) second) :
    Covers (concat (first :: parts)) second := by
  intro _ written
  obtain ⟨_, _, _, continues, rfl⟩ := append_eq_some.mp written
  obtain ⟨rest', continues', shorter⟩ := covers _ continues
  refine ⟨rest', continues', ?_⟩
  rw [List.length_append]
  exact Nat.le_add_left_of_le shorter

end Covers

end Parts

def bigEndian : Nat → Nat → List UInt8
  | 0, _ => []
  | width + 1, value => bigEndian width (value / 256) ++ [UInt8.ofNat value]

theorem bigEndian_length (width value : Nat) : (bigEndian width value).length = width := by
  induction width generalizing value with
  | zero => rfl
  | succ width ih => rw [bigEndian, List.length_append, ih, List.length_singleton]

theorem bigEndian_injective {width value value'} (fits : value < 256 ^ width)
    (fits' : value' < 256 ^ width) (same : bigEndian width value = bigEndian width value') :
    value = value' := by
  induction width generalizing value value' with
  | zero => omega
  | succ width ih =>
    obtain ⟨highs, lows⟩ := List.append_inj' same rfl
    have low : value % 256 = value' % 256 := by
      have bytes := congrArg UInt8.toNat (List.singleton_inj.mp lows)
      rwa [UInt8.toNat_ofNat', UInt8.toNat_ofNat'] at bytes
    have high := ih (Nat.div_lt_of_lt_mul (by omega)) (Nat.div_lt_of_lt_mul (by omega)) highs
    omega

/-- A number in big-endian order. -/
def fixed (width value : Nat) : Encoding UInt8 :=
  if value < 256 ^ width then some (bigEndian width value) else none

theorem fixed_eq_some {width value text} :
    fixed width value = some text ↔ value < 256 ^ width ∧ bigEndian width value = text := by
  unfold fixed
  split_ifs with fits
  · simp only [Option.some.injEq, fits, true_and]
  · simp only [fits, false_and]

theorem fixed_injective {width value value' text} (written : fixed width value = some text)
    (written' : fixed width value' = some text) : value = value' := by
  obtain ⟨fits, rfl⟩ := fixed_eq_some.mp written
  obtain ⟨fits', same⟩ := fixed_eq_some.mp written'
  exact bigEndian_injective fits fits' same.symm

theorem fixed_splits (width value value' : Nat) :
    Splits (fixed width value) (fixed width value') (value = value') := by
  intro _ _ _ _ written written' same
  obtain ⟨fits, rfl⟩ := fixed_eq_some.mp written
  obtain ⟨fits', rfl⟩ := fixed_eq_some.mp written'
  obtain ⟨digits, rests⟩ := List.append_inj same
    ((bigEndian_length _ value).trans (bigEndian_length _ value').symm)
  exact ⟨bigEndian_injective fits fits' digits, rests⟩

/-- A text with its length in front. -/
def measured (text : List UInt8) : Encoding UInt8 := append (fixed 8 text.length) (some text)

theorem measured_splits (text text' : List UInt8) :
    Splits (measured text) (measured text') (text = text') :=
  ((fixed_splits 8 text.length text'.length).append .of_length).imp
    fun both => both.2

theorem concat_measured_ne_nil (text : List UInt8) (parts : List (Encoding UInt8)) :
    concat (measured text :: parts) ≠ some [] := by
  intro written
  obtain ⟨_, _, starts, -, whole⟩ := append_eq_some.mp written
  obtain ⟨_, _, number, -, rfl⟩ := append_eq_some.mp starts
  obtain ⟨-, rfl⟩ := fixed_eq_some.mp number
  have length := congrArg List.length whole
  rw [List.length_append, List.length_append, bigEndian_length] at length
  exact absurd length (by rw [List.length_nil]; omega)

theorem field_splits {inner inner' Fact}
    (agree : ∀ text, inner = some text → inner' = some text → Fact) :
    Splits (inner.bind measured) (inner'.bind measured) Fact := by
  intro _ _ _ _ written written' same
  obtain ⟨_, inside, fields⟩ := Option.bind_eq_some_iff.mp written
  obtain ⟨_, inside', fields'⟩ := Option.bind_eq_some_iff.mp written'
  obtain ⟨rfl, rests⟩ := measured_splits _ _ _ _ _ _ fields fields' same
  exact ⟨agree _ inside inside', rests⟩

theorem field_covers {inner inner'} (covers : Covers inner inner') :
    Covers (inner.bind measured) (inner'.bind measured) := by
  intro _ written
  obtain ⟨_, inside, fields⟩ := Option.bind_eq_some_iff.mp written
  obtain ⟨_, _, number, same, rfl⟩ := append_eq_some.mp fields
  cases same
  obtain ⟨content', inside', shorter⟩ := covers _ inside
  obtain ⟨fits, rfl⟩ := fixed_eq_some.mp number
  have number' := fixed_eq_some.mpr ⟨Nat.lt_of_le_of_lt shorter fits, rfl⟩
  refine ⟨_, Option.bind_eq_some_iff.mpr
    ⟨content', inside', append_eq_some.mpr ⟨_, content', number', rfl, rfl⟩⟩, ?_⟩
  rw [List.length_append, List.length_append]
  exact Nat.add_le_add_left shorter 8

section Values

variable {Value : Type} {encode : Value → Encoding UInt8}

/-- A value that may be absent, after a marker of its presence. -/
def optional (encode : Value → Encoding UInt8) : Option Value → Encoding UInt8
  | some value => append (some [1]) (encode value)
  | none => append (some [0]) (some [])

theorem optional_splits
    (items : ∀ value value', Splits (encode value) (encode value') (value = value'))
    (value value' : Option Value) :
    Splits (optional encode value) (optional encode value') (value = value') := by
  have markers (mark mark' : UInt8) : Splits (some [mark]) (some [mark']) ([mark] = [mark']) :=
    .of_length rfl
  match value, value' with
  | none, none => exact ((markers 0 0).append fun _ => .empty).imp fun _ => rfl
  | none, some _ => exact (markers 0 1).refuted (by decide)
  | some _, none => exact (markers 1 0).refuted (by decide)
  | some value, some value' =>
    refine ((markers 1 1).append fun _ => items _ value').imp ?_
    rintro ⟨-, rfl⟩
    rfl

/-- A list of values, after their number. -/
def counted (encode : Value → Encoding UInt8) (values : List Value) : Encoding UInt8 :=
  append (fixed 8 values.length) (concat (values.map encode))

theorem counted_splits
    (items : ∀ value value', Splits (encode value) (encode value') (value = value'))
    (values values' : List Value) :
    Splits (counted encode values) (counted encode values') (values = values') :=
  ((fixed_splits 8 values.length values'.length).append fun length => .each items length).imp
    fun both => both.2

end Values

end Encoding

end Bridgefu.Lib
