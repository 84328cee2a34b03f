/- digest: A connection is bound to one leg under one generation, and only once. -/

import Bridgefu.Persistence.CallRows

/-!
A connection leaves traces in three places: among the bindings of a call, in the attachment it came
through and in the index of owners. A step adds such traces for one connection at most, and only
for one that is new or that already stands by under the very same key. Everything about whole runs
is derived from that.
-/

set_option autoImplicit false

namespace Bridgefu.Persistence

open Lib CallEngine CallService Table

variable {after ledger : Ledger} {connectionId : ConnectionId} {key : BindingKey} {c : Commit}

namespace Ledger

variable (ledger : Ledger) (connectionId : ConnectionId)

/-- The connection is bound to a leg of a call, under a generation. -/
def Bound (key : BindingKey) : Prop :=
  ∃ call binding, ledger.calls.get? key.1 = some call ∧ call.bindings.get? key.2.1 = some binding ∧
    binding.connectionId = connectionId ∧ binding.bindingGeneration = key.2.2

/-- The connection came through an attachment of that leg and generation. -/
def Attached (key : BindingKey) : Prop :=
  ∃ token row binding, ledger.attachments.get? token = some row ∧ row.binding = some binding ∧
    binding.connectionId = connectionId ∧ (row.callId, row.legId, row.bindingGeneration) = key

/-- Any trace of the connection. -/
inductive Holds (ledger : Ledger) (connectionId : ConnectionId) (key : BindingKey) : Prop
  | bound (bound : ledger.Bound connectionId key)
  | attached (attached : ledger.Attached connectionId key)
  | owned (owned : ledger.connectionOwners.get? connectionId = some key)

def Reached (key : BindingKey) : Prop :=
  ∃ call leg, ledger.calls.get? key.1 = some call ∧ call.aggregate.leg key.2.1 = some leg ∧
    key.2.2 ≤ leg.bindingGeneration

def Ahead (key : BindingKey) : Prop :=
  ∃ call leg, ledger.calls.get? key.1 = some call ∧ call.aggregate.leg key.2.1 = some leg ∧
    leg.bindingGeneration < key.2.2

private theorem Reached.not_ahead {ledger : Ledger} {key} (reached : ledger.Reached key) :
    ¬ ledger.Ahead key := by
  rintro ⟨_, _, found, leg', _⟩
  obtain ⟨_, _, found', leg''', reached⟩ := reached
  cases found.symm.trans found'
  cases leg'.symm.trans leg'''
  omega

theorem Reached.step {permits ledger after key} (reached : ledger.Reached key)
    (valid : ledger.CallsValid) (step : LedgerStep permits ledger after) : after.Reached key := by
  obtain ⟨_, leg, found, named, reached⟩ := reached
  obtain ⟨next, stored, advances⟩ := step.call_advances valid found
  obtain ⟨later, named', grows⟩ := advances.aggregate.leg named
  exact ⟨next, later, stored, named', le_trans reached grows.generation⟩

/-- Every trace of a connection bears the same key, and the connection counts as used. -/
structure OneBinding (ledger : Ledger) : Prop where
  used : ∀ connectionId key, ledger.Holds connectionId key →
    ledger.usedConnectionIds.get? connectionId = some ()
  unique : ∀ connectionId key other, ledger.Holds connectionId key →
    ledger.Holds connectionId other → other = key

/-- The connection was bound once and is bound no more. -/
structure Spent (ledger : Ledger) (connectionId : ConnectionId) : Prop where
  used : ledger.usedConnectionIds.get? connectionId = some ()
  unbound : ∀ key, ¬ ledger.Bound connectionId key
  owned : ∀ key, ledger.connectionOwners.get? connectionId = some key → ledger.Reached key

end Ledger

structure ConnectionStep (ledger after : Ledger) (joined : Option (ConnectionId × BindingKey)) :
    Prop where
  bound : ∀ connectionId key, after.Bound connectionId key →
    ledger.Bound connectionId key ∨ joined = some (connectionId, key)
  attached : ∀ connectionId key, after.Attached connectionId key →
    ledger.Attached connectionId key ∨ joined = some (connectionId, key)
  owned : ∀ connectionId key, after.connectionOwners.get? connectionId = some key →
    ledger.connectionOwners.get? connectionId = some key ∨ joined = some (connectionId, key)
  used : ∀ connectionId, ledger.usedConnectionIds.get? connectionId = some () →
    after.usedConnectionIds.get? connectionId = some ()
  joins : ∀ connectionId key, joined = some (connectionId, key) →
    after.usedConnectionIds.get? connectionId = some ()
  source : ∀ connectionId key, joined = some (connectionId, key) →
    ledger.usedConnectionIds.get? connectionId = none ∨
      (ledger.connectionOwners.get? connectionId = some key ∧ ledger.Ahead key)

/-- A binding that goes away gives up its connection or has had its time. -/
def Leaves (ledger after : Ledger) : Prop :=
  ∀ connectionId key, ledger.Bound connectionId key → after.Bound connectionId key ∨
    after.connectionOwners.get? connectionId = none ∨ after.Reached key

namespace ConnectionStep

variable {joined : Option (ConnectionId × BindingKey)}

variable (step : ConnectionStep ledger after joined)
include step

private theorem holds {key} (held : after.Holds connectionId key) :
    ledger.Holds connectionId key ∨ joined = some (connectionId, key) := by
  cases held with
  | bound bound => exact (step.bound _ _ bound).imp_left .bound
  | attached attached => exact (step.attached _ _ attached).imp_left .attached
  | owned owned => exact (step.owned _ _ owned).imp_left .owned

private theorem held_source {key} (join : joined = some (connectionId, key))
    (used : ledger.usedConnectionIds.get? connectionId = some ()) :
    ledger.Holds connectionId key := by
  rcases step.source _ key join with unused | ⟨owned, -⟩
  · cases unused.symm.trans used
  · exact .owned owned

private theorem one_binding (one : ledger.OneBinding) : after.OneBinding where
  used := by
    intro connectionId key held
    rcases step.holds held with before | join
    · exact step.used _ (one.used _ key before)
    · exact step.joins _ key join
  unique := by
    intro connectionId key _ held held'
    rcases step.holds held with before | join <;> rcases step.holds held' with before' | join'
    · exact one.unique _ key _ before before'
    · have source := step.held_source join' (one.used _ key before)
      exact one.unique _ key _ before source
    · have source := step.held_source join (one.used _ _ before')
      exact one.unique _ key _ source before'
    · cases join.symm.trans join'
      rfl

private theorem keyed {key} (used : ledger.usedConnectionIds.get? connectionId = some ())
    (keyed : ∀ other, ledger.Holds connectionId other → other = key) :
    ∀ other, after.Holds connectionId other → other = key := by
  intro _ held
  rcases step.holds held with before | join
  · exact keyed _ before
  · exact keyed _ (step.held_source join used)

private theorem spent (spent : ledger.Spent connectionId)
    (reached : ∀ key, ledger.Reached key → after.Reached key) : after.Spent connectionId := by
  have stays : ∀ key, joined ≠ some (connectionId, key) := by
    intro key join
    rcases step.source _ key join with unused | ⟨owned, ahead⟩
    · cases unused.symm.trans spent.used
    · exact (spent.owned key owned).not_ahead ahead
  refine ⟨step.used _ spent.used, fun key bound => ?_, fun key owned => ?_⟩
  · rcases step.bound _ key bound with before | join
    · exact spent.unbound key before
    · exact stays key join
  · rcases step.owned _ key owned with before | join
    · exact reached key (spent.owned key before)
    · exact absurd join (stays key)

end ConnectionStep

/-- The binding is the one that the key and the connection name. -/
def Carries (bindings : Table LegId ConnectionBinding) (connectionId : ConnectionId)
    (key : BindingKey) : Prop :=
  ∃ binding, bindings.get? key.2.1 = some binding ∧ binding.connectionId = connectionId ∧
    binding.bindingGeneration = key.2.2

private theorem Carries.of_insert {bindings legId binding key}
    (carries : Carries (bindings.insert legId binding) connectionId key) :
    Carries bindings connectionId key ∨ (connectionId = binding.connectionId ∧
      key = (key.1, legId, binding.bindingGeneration)) := by
  obtain ⟨found, stored, same, generation⟩ := carries
  rcases get?_insert_some stored with ⟨named, rfl⟩ | ⟨-, stored⟩
  · exact .inr ⟨same.symm, by rw [← named, generation]⟩
  · exact .inl ⟨found, stored, same, generation⟩

private theorem Carries.insert {bindings legId binding key}
    (carries : Carries bindings connectionId key)
    (other : key.2.1 ≠ legId) : Carries (bindings.insert legId binding) connectionId key := by
  obtain ⟨found, stored, same, generation⟩ := carries
  exact ⟨found, (get?_insert_ne _ _ other).trans stored, same, generation⟩

namespace Ledger

variable {callId : CallId} {call next : StoredCall}

theorem bound_iff (found : ledger.calls.get? callId = some call) (named : key.1 = callId) :
    ledger.Bound connectionId key ↔ Carries call.bindings connectionId key := by
  constructor
  · rintro ⟨_, binding, stored, carried⟩
    rw [named] at stored
    cases found.symm.trans stored
    exact ⟨binding, carried⟩
  · rintro ⟨binding, carried⟩
    exact ⟨call, binding, named ▸ found, carried⟩

private theorem bound_other (rewritten : after.calls = ledger.calls.insert callId next)
    (other : key.1 ≠ callId) : after.Bound connectionId key ↔ ledger.Bound connectionId key := by
  unfold Bound
  rw [rewritten, get?_insert_ne _ _ other]

private theorem bound_self (rewritten : after.calls = ledger.calls.insert callId next)
    (named : key.1 = callId) :
    after.Bound connectionId key ↔ Carries next.bindings connectionId key :=
  bound_iff (by rw [rewritten, get?_insert_self]) named

private theorem bound_moves {P} (found : ledger.calls.get? callId = some call)
    (rewritten : after.calls = ledger.calls.insert callId next)
    (moves : key.1 = callId → Carries next.bindings connectionId key →
      Carries call.bindings connectionId key ∨ P) (bound : after.Bound connectionId key) :
    ledger.Bound connectionId key ∨ P := by
  by_cases named : key.1 = callId
  · rw [bound_self rewritten named] at bound
    exact (moves named bound).imp_left (bound_iff found named).mpr
  · exact .inl ((bound_other rewritten named).mp bound)

private theorem bound_leaves {P} (found : ledger.calls.get? callId = some call)
    (rewritten : after.calls = ledger.calls.insert callId next)
    (bound : ledger.Bound connectionId key)
    (moves : key.1 = callId → Carries call.bindings connectionId key →
      Carries next.bindings connectionId key ∨ P) : after.Bound connectionId key ∨ P := by
  by_cases named : key.1 = callId
  · rw [bound_iff found named] at bound
    exact (moves named bound).imp_left (bound_self rewritten named).mpr
  · exact .inl ((bound_other rewritten named).mpr bound)

private theorem bound_same (found : ledger.calls.get? callId = some call)
    (rewritten : after.calls = ledger.calls.insert callId next)
    (bindings : next.bindings = call.bindings) :
    after.Bound connectionId key ↔ ledger.Bound connectionId key := by
  by_cases named : key.1 = callId
  · rw [bound_self rewritten named, bound_iff found named, bindings]
  · exact bound_other rewritten named

end Ledger

private theorem ConnectionStep.quiet {ledger after}
    (bound : ∀ connectionId key, after.Bound connectionId key ↔ ledger.Bound connectionId key)
    (attached : ∀ connectionId key, after.Attached connectionId key →
      ledger.Attached connectionId key) (owners : after.connectionOwners = ledger.connectionOwners)
    (used : after.usedConnectionIds = ledger.usedConnectionIds) :
    ConnectionStep ledger after none ∧ Leaves ledger after := by
  refine ⟨⟨fun connectionId key held => .inl ((bound _ key).mp held),
    fun connectionId key held => .inl (attached _ key held),
    fun connectionId key held => .inl (owners ▸ held), fun _ held => used.symm ▸ held,
    (fun _ _ join => nomatch join), (fun _ _ join => nomatch join)⟩, fun connectionId key held => ?_⟩
  exact .inl ((bound _ key).mpr held)

private theorem Ledger.Admits.connections {ledger c} (admits : ledger.Admits c) :
    ConnectionStep ledger (ledger.create c) none ∧ Leaves ledger (ledger.create c) := by
  refine ConnectionStep.quiet (fun connectionId key => ?_) (fun connectionId key attached => ?_)
    rfl rfl
  · by_cases named : key.1 = c.request.initial.id
    · rw [bound_self rfl named]
      constructor
      · rintro ⟨binding, stored, -⟩
        cases stored
      · rintro ⟨_, binding, found, -⟩
        rw [named, admits.newCall] at found
        cases found
    · exact bound_other rfl named
  · obtain ⟨token, row, binding, found, bound, same⟩ := attached
    rcases get?_insertAll _ found with issued | stored
    · obtain ⟨_, -, -, rfl⟩ := mem_issuedRows issued
      cases bound
    · exact ⟨token, row, binding, stored, bound, same⟩

namespace Commit

/-- The connection that a commit brings in, with its key. -/
def joined (c : Commit) : Option (ConnectionId × BindingKey) :=
  c.consumed.map fun use => (use.binding.connectionId, use.key)

private theorem attached_of_attachments {token row binding}
    (found : (c.attachments ledger.attachments).get? token = some row)
    (bound : row.binding = some binding) :
    ∃ old, (c.marked ledger.attachments).get? token = some old ∧ old.binding = some binding ∧
      (old.callId, old.legId, old.bindingGeneration) =
        (row.callId, row.legId, row.bindingGeneration) := by
  rcases get?_insertAll _ found with issued | stored
  · obtain ⟨_, -, -, rfl⟩ := mem_issuedRows issued
    cases bound
  split at stored
  · rw [sweepAttachments, get?_mapValues, Option.map_eq_some_iff] at stored
    obtain ⟨old, known, rfl⟩ := stored
    refine ⟨old, known, ?_, ?_⟩
    · split at bound <;> exact bound
    · split <;> rfl
  · exact ⟨row, stored, bound, rfl⟩

private theorem attached_joined (attached : (ledger.commit c).Attached connectionId key) :
    ledger.Attached connectionId key ∨ c.joined = some (connectionId, key) := by
  obtain ⟨token, _, binding, found, bound, same, rfl⟩ := attached
  obtain ⟨old, known, kept, keys⟩ := attached_of_attachments found bound
  rw [← keys]
  unfold marked at known
  split at known
  · rename_i use consumed
    rcases get?_insert_some known with ⟨-, rfl⟩ | ⟨-, known⟩
    · cases kept
      refine .inr ?_
      rw [joined, consumed]
      exact congrArg some (Prod.ext same rfl)
    · exact .inl ⟨token, old, binding, known, kept, same, rfl⟩
  · exact .inl ⟨token, old, binding, known, kept, same, rfl⟩

private theorem owning_joined
    (owned : (c.owning ledger.connectionOwners).get? connectionId = some key) :
    ledger.connectionOwners.get? connectionId = some key ∨ c.joined = some (connectionId, key) := by
  unfold owning at owned
  split at owned
  · rename_i use consumed
    rcases get?_insert_some owned with ⟨rfl, rfl⟩ | ⟨-, owned⟩
    · exact .inr (by rw [joined, consumed]; rfl)
    · exact .inl owned
  · exact .inl owned

private theorem joined_unused (accepts : ledger.Accepts c)
    (join : c.joined = some (connectionId, key)) :
    ledger.usedConnectionIds.get? connectionId = none := by
  obtain ⟨use, consumed, same⟩ := Option.map_eq_some_iff.mp join
  cases same
  exact (accepts.consumes use consumed).unused

private theorem owned_joined (owned : (c.owners ledger).get? connectionId = some key) :
    ledger.connectionOwners.get? connectionId = some key ∨ c.joined = some (connectionId, key) := by
  unfold owners at owned
  split at owned
  · exact owning_joined (OwnersShrink.sweep _ _ _ _ _ _ key owned)
  · exact owning_joined owned

private theorem attached_eq_some {row} (attached : c.attached = some row) :
    ∃ use, c.consumed = some use ∧ use.joins = true ∧ (use.row.legId, use.binding) = row := by
  obtain ⟨use, kept, same⟩ := Option.map_eq_some_iff.mp attached
  obtain ⟨consumed, joins⟩ := Option.filter_eq_some_iff.mp kept
  exact ⟨use, consumed, joins, same⟩

private theorem carries_joined (carries : Carries c.bindings connectionId key)
    (accepts : ledger.Accepts c) (named : key.1 = c.request.callId) :
    Carries c.call.bindings connectionId key ∨ c.joined = some (connectionId, key) := by
  have bound : Carries c.bound connectionId key := by
    obtain ⟨binding, found, same⟩ := carries
    unfold bindings at found
    split at found
    · rw [get?_filter, Option.filter_eq_some_iff] at found
      exact ⟨binding, found.1, same⟩
    · exact ⟨binding, found, same⟩
  unfold Commit.bound at bound
  split at bound
  · rename_i isAttached
    obtain ⟨use, consumed, -, isUse⟩ := attached_eq_some isAttached
    cases isUse
    have consumes := accepts.consumes use consumed
    refine bound.of_insert.imp_right ?_
    rintro ⟨same, isKey⟩
    rw [joined, consumed, isKey, same, named, ← consumes.call, consumes.generation]
    rfl
  · exact .inl bound

private theorem bound_of_carries (carries : Carries c.call.bindings connectionId key)
    (accepts : ledger.Accepts c) :
    Carries c.bound connectionId key := by
  unfold bound
  split
  · rename_i isAttached
    obtain ⟨use, consumed, joins, same⟩ := attached_eq_some isAttached
    cases same
    refine carries.insert fun named => ?_
    obtain ⟨_, found, -⟩ := carries
    rw [named, (accepts.consumes use consumed).vacant joins] at found
    cases found
  · exact carries

private theorem used_mono (used : ledger.usedConnectionIds.get? connectionId = some ()) :
    (c.used ledger.usedConnectionIds).get? connectionId = some () := by
  unfold Commit.used
  split
  · simp [used]
  · exact used

theorem swept_or_carries (accepts : ledger.Accepts c) (one : ledger.OneBinding)
    (named : key.1 = c.request.callId) (carries : Carries c.call.bindings connectionId key) :
    Carries c.bindings connectionId key ∨ (c.owners ledger).get? connectionId = none := by
  have held : ledger.Holds connectionId key :=
    .bound ((Ledger.bound_iff accepts.found named).mpr carries)
  obtain ⟨binding, found, same, generation⟩ := bound_of_carries carries accepts
  by_cases isApplied : c.decision.disposition = .applied
  · cases retained : bindingRetained c.decision.aggregate key.2.1 binding with
    | true =>
      refine .inl ⟨binding, ?_, same, generation⟩
      rw [bindings, if_pos isApplied, get?_filter, Option.filter_eq_some_iff]
      exact ⟨found, retained⟩
    | false =>
      right
      rw [owners, if_pos isApplied, ← same]
      refine sweepOwners_retired _ found retained fun other owned => ?_
      -- the connection is not the new one, so its owner is its only key
      have before : ledger.connectionOwners.get? connectionId = some other := by
        refine (owning_joined (same ▸ owned)).resolve_right fun join => ?_
        cases (joined_unused accepts join).symm.trans (one.used _ _ held)
      have isKey := one.unique _ key _ held (.owned before)
      rw [isKey, generation, ← named]
  · refine .inl ⟨binding, ?_, same, generation⟩
    rw [bindings, if_neg isApplied]
    exact found

end Commit

private theorem Ledger.Accepts.connections {ledger c} (accepts : ledger.Accepts c)
    (one : ledger.OneBinding) :
    ConnectionStep ledger (ledger.commit c) c.joined ∧ Leaves ledger (ledger.commit c) := by
  refine ⟨⟨fun _ _ => bound_moves accepts.found rfl fun named bound =>
      Commit.carries_joined bound accepts named, fun _ _ attached => Commit.attached_joined attached,
    fun _ _ owned => Commit.owned_joined owned, fun _ used => Commit.used_mono used,
    fun _ _ join => ?_, fun _ _ join => .inl (Commit.joined_unused accepts join)⟩,
    fun _ _ bound => bound_leaves accepts.found rfl bound fun named carries =>
      (Commit.swept_or_carries accepts one named carries).imp_right .inl⟩
  obtain ⟨_, consumed, same⟩ := Option.map_eq_some_iff.mp join
  cases same
  simp [commit, Commit.used, consumed]

namespace Ledger

variable {legId : LegId} {binding : ConnectionBinding}

theorem Installs.generations (installs : ledger.Installs c legId binding)
    (promotes : Promotes c legId binding) (accepts : ledger.Accepts c) (valid : ledger.CallsValid) :
    ∃ previous leg, c.call.bindings.get? legId = some previous ∧
      c.call.aggregate.leg legId = some leg ∧
      leg.bindingGeneration = previous.bindingGeneration ∧
      leg.bindingGeneration < binding.bindingGeneration := by
  obtain ⟨previous, replacement, found, pending, isPrevious⟩ := installs.previous
  obtain ⟨_, same, named, generation⟩ := promotes.replacement
  cases pending.symm.trans same
  obtain ⟨leg, isLeg, old, newer⟩ := (valid _ _ accepts.found).replaced_leg pending
  rw [named] at isLeg
  rw [generation] at newer
  exact ⟨previous, leg, found, isLeg, old.trans isPrevious, newer⟩

theorem Installs.connections (installs : ledger.Installs c legId binding)
    (promotes : Promotes c legId binding) (accepts : ledger.Accepts c) (valid : ledger.CallsValid)
    (one : ledger.OneBinding) :
    ConnectionStep ledger (ledger.promote c legId binding)
        (some (binding.connectionId, (c.request.callId, legId, binding.bindingGeneration))) ∧
      Leaves ledger (ledger.promote c legId binding) := by
  obtain ⟨_, leg, replaced, isLeg, _, newer⟩ :=
    installs.generations promotes accepts valid
  have alone : ∀ {join}, c.joined ≠ some join := by simp [Commit.joined, promotes.unattached]
  have ahead : ledger.Ahead (c.request.callId, legId, binding.bindingGeneration) :=
    ⟨c.call, leg, accepts.found, isLeg, newer⟩
  -- whatever trace of the promoted connection there is bears the promoted key
  have promotedKey : ∀ key, ledger.Holds binding.connectionId key →
      key = (c.request.callId, legId, binding.bindingGeneration) := by
    intro key held
    rcases installs.source with ⟨unused, -⟩ | ⟨owned, -⟩
    · cases unused.symm.trans (one.used _ _ held)
    · exact one.unique _ _ _ (.owned owned) held
  refine ⟨⟨fun connectionId key => bound_moves accepts.found rfl fun named bound => ?_,
    fun connectionId key attached => ?_, fun connectionId key owned => ?_,
    fun connectionId used => ?_, ?_, ?_⟩,
    fun connectionId key bound => bound_leaves accepts.found rfl bound fun named carries => ?_⟩
  · rcases bound.of_insert with kept | ⟨same, isKey⟩
    · exact .inl ((Commit.carries_joined kept accepts named).resolve_right alone)
    · right
      rw [same, isKey, named]
  · exact .inl ((Commit.attached_joined attached).resolve_right alone)
  · rcases get?_insert_some owned with ⟨same, rfl⟩ | ⟨-, owned⟩
    · exact .inr (by rw [same])
    · exact .inl ((Commit.owned_joined owned).resolve_right alone)
  · simp [promote, used]
  · rintro connectionId key ⟨⟩
    exact get?_insert_self ..
  · rintro connectionId key ⟨⟩
    rcases installs.source with ⟨unused, -⟩ | ⟨owned, -⟩
    · exact .inl unused
    · exact .inr ⟨owned, ahead⟩
  · by_cases onLeg : key.2.1 = legId
    · -- the replaced connection, whose generation the leg has already reached
      obtain ⟨_, found, -, generation⟩ := carries
      rw [onLeg, replaced] at found
      cases found
      obtain ⟨later, isLater, grows⟩ :=
        (CallAggregate.decide_advances (valid _ _ accepts.found) accepts.decided).leg isLeg
      have low := grows.generation
      refine .inr (.inr ⟨c.promoted legId binding, later, ?_, onLeg ▸ isLater, by omega⟩)
      rw [named]
      exact get?_insert_self ..
    · rcases Commit.swept_or_carries accepts one named carries with kept | free
      · exact .inl (kept.insert onLeg)
      · refine .inr (.inl ((get?_insert_ne _ _ ?_).trans free))
        rintro rfl
        exact onLeg (by rw [promotedKey key (.bound bound)])

end Ledger

private theorem LedgerStep.connections {permits ledger after}
    (step : LedgerStep permits ledger after) (valid : ledger.CallsValid) (one : ledger.OneBinding) :
    ∃ joined, ConnectionStep ledger after joined ∧ Leaves ledger after := by
  have same : ∀ {next : Ledger}, next.calls = ledger.calls →
      next.attachments = ledger.attachments → next.connectionOwners = ledger.connectionOwners →
      next.usedConnectionIds = ledger.usedConnectionIds →
      ∃ joined, ConnectionStep ledger next joined ∧ Leaves ledger next := by
    intro next calls attachments owners used
    refine ⟨none, ConnectionStep.quiet (fun connectionId key => ?_)
      (fun connectionId key attached => ?_) owners used⟩
    · rw [Ledger.Bound, Ledger.Bound, calls]
    · rwa [Ledger.Attached, attachments] at attached
  cases step with
  | created c _ admits => exact ⟨none, admits.connections⟩
  | decided c _ accepts => exact ⟨c.joined, accepts.connections one⟩
  | promoted c legId binding _ _ accepts promotes installs =>
    exact ⟨_, installs.connections promotes accepts valid one⟩
  | bound callId call legId binding _ found _ vacant unused =>
    refine ⟨some (binding.connectionId, (callId, legId, binding.bindingGeneration)),
      ⟨fun connectionId key => Ledger.bound_moves found rfl fun named bound => ?_,
        fun _ _ attached => .inl attached, fun connectionId key owned => ?_,
        fun connectionId used => ?_, ?_, ?_⟩,
      fun connectionId key bound => Ledger.bound_leaves found rfl bound fun _ carries => ?_⟩
    · refine bound.of_insert.imp_right fun ⟨same, isKey⟩ => ?_
      rw [same, isKey, named]
    · rcases get?_insert_some owned with ⟨same, rfl⟩ | ⟨-, owned⟩
      · exact .inr (by rw [same])
      · exact .inl owned
    · simp [used]
    · rintro connectionId key ⟨⟩
      exact get?_insert_self ..
    · rintro connectionId key ⟨⟩
      exact .inl unused
    · refine .inl (carries.insert fun onLeg => ?_)
      obtain ⟨old, stored, -⟩ := carries
      rw [onLeg, vacant.unbound] at stored
      cases stored
  | released callId call _ _ _ _ found =>
    exact ⟨none, ConnectionStep.quiet (fun _ _ => Ledger.bound_same found rfl rfl)
      (fun _ _ attached => attached) rfl rfl⟩
  | restarted _ _ callId call _ found =>
    refine ⟨none, ConnectionStep.quiet (fun _ _ => Ledger.bound_same found rfl rfl)
      (fun connectionId key attached => ?_) rfl rfl⟩
    obtain ⟨token, _, binding, stored, bound, same, isKey⟩ := attached
    rw [Ledger.restart, get?_mapValues, Option.map_eq_some_iff] at stored
    obtain ⟨old, known, rfl⟩ := stored
    refine ⟨token, old, binding, known, ?_, same, ?_⟩
    · split at bound <;> exact bound
    · split at isKey <;> exact isKey
  | _ => exact same rfl rfl rfl rfl

namespace Ledger

structure Connected (ledger : Ledger) : Prop where
  valid : ledger.CallsValid
  one : ledger.OneBinding

theorem Connected.initial : MemoryState.initial.ledger.Connected where
  valid := .initial
  one := by
    have nothing : ∀ connectionId key, ¬ MemoryState.initial.ledger.Holds connectionId key := by
      intro connectionId key held
      cases held with
      | bound bound =>
        obtain ⟨_, binding, found, -⟩ := bound
        cases found
      | attached attached =>
        obtain ⟨_, _, binding, found, -⟩ := attached
        cases found
      | owned owned => cases owned
    exact ⟨fun connectionId key held => absurd held (nothing _ key),
      fun connectionId key _ held => absurd held (nothing _ key)⟩

variable {permits : Permits}

theorem Connected.step (connected : ledger.Connected) (step : LedgerStep permits ledger after) :
    after.Connected := by
  obtain ⟨_, moves, -⟩ := step.connections connected.valid connected.one
  exact ⟨connected.valid.step step, moves.one_binding connected.one⟩

theorem Connected.of_reachable [Libraries] {state} (reachable : Reachable state) :
    state.ledger.Connected :=
  reachable.invariant Connected .initial fun _ _ _ connected step => connected.step step

/-- A connection that has left a trace under the key, and none under another. -/
structure Keyed (ledger : Ledger) (connectionId : ConnectionId) (key : BindingKey) : Prop where
  connected : ledger.Connected
  used : ledger.usedConnectionIds.get? connectionId = some ()
  only : ∀ other, ledger.Holds connectionId other → other = key

theorem Keyed.of_holds (connected : ledger.Connected) (held : ledger.Holds connectionId key) :
    ledger.Keyed connectionId key :=
  ⟨connected, connected.one.used _ _ held,
    fun other again => connected.one.unique _ _ other held again⟩

theorem Keyed.step (keyed : ledger.Keyed connectionId key) (step : LedgerStep permits ledger after)
    : after.Keyed connectionId key := by
  obtain ⟨_, moves, -⟩ := step.connections keyed.connected.valid keyed.connected.one
  exact ⟨keyed.connected.step step, moves.used _ keyed.used,
    moves.keyed keyed.used keyed.only⟩

/-- A connection that has been bound under the key is bound there still, or spent. -/
structure Served (ledger : Ledger) (connectionId : ConnectionId) (key : BindingKey) : Prop where
  keyed : ledger.Keyed connectionId key
  now : ledger.Bound connectionId key ∨ ledger.Spent connectionId

private theorem Served.of_bound (connected : ledger.Connected)
    (bound : ledger.Bound connectionId key) : ledger.Served connectionId key :=
  ⟨.of_holds connected (.bound bound), .inl bound⟩

theorem Served.step (served : ledger.Served connectionId key)
    (step : LedgerStep permits ledger after) : after.Served connectionId key := by
  have connected := served.keyed.connected
  obtain ⟨_, moves, leaves⟩ := step.connections connected.valid connected.one
  have keyed := served.keyed.step step
  refine ⟨keyed, ?_⟩
  rcases served.now with bound | spent
  · by_cases still : after.Bound connectionId key
    · exact .inl still
    · refine .inr ⟨keyed.used, fun other bound => ?_, fun other owned => ?_⟩
      · exact still (keyed.only _ (.bound bound) ▸ bound)
      · rcases leaves _ key bound with kept | free | reached
        · exact absurd kept still
        · cases free.symm.trans owned
        · exact keyed.only _ (.owned owned) ▸ reached
  · exact .inr (moves.spent spent fun _ reached => reached.step connected.valid step)

theorem Spent.step (spent : ledger.Spent connectionId) (connected : ledger.Connected)
    (step : LedgerStep permits ledger after) : after.Spent connectionId := by
  obtain ⟨_, moves, -⟩ := step.connections connected.valid connected.one
  exact moves.spent spent fun _ reached => reached.step connected.valid step

end Ledger

/-- All traces of a connection, at whatever moments of a run, bear the same key. -/
theorem Run.one_key [Libraries] {first last operations} (reachable : Reachable first)
    (run : Run first operations last) {key other} (held : first.ledger.Holds connectionId key)
    (again : last.ledger.Holds connectionId other) : other = key := by
  have keyed := run.keeps (fun ledger => ledger.Keyed _ key)
    (fun _ _ _ keyed step => keyed.step step) (.of_holds (.of_reachable reachable) held)
  exact keyed.only _ again

theorem Run.bound_once [Libraries] {first middle last between after} (reachable : Reachable first)
    (one : Run first between middle) (two : Run middle after last) {key other}
    (bound : first.ledger.Bound connectionId key) (again : last.ledger.Bound connectionId other) :
    other = key ∧ middle.ledger.Bound connectionId key := by
  have served := one.keeps (fun ledger => ledger.Served _ key)
    (fun _ _ _ served step => served.step step) (.of_bound (.of_reachable reachable) bound)
  have later := two.keeps (fun ledger => ledger.Served _ key)
    (fun _ _ _ served step => served.step step) served
  refine ⟨later.keyed.only _ (.bound again), served.now.resolve_right fun spent => ?_⟩
  have gone := two.keeps (fun ledger => ledger.Connected ∧ ledger.Spent connectionId)
    (fun _ _ _ kept step => ⟨kept.1.step step, kept.2.step kept.1 step⟩)
    ⟨served.keyed.connected, spent⟩
  exact gone.2.unbound _ again

end Bridgefu.Persistence
