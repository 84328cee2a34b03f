/- digest: Control effects are numbered without gaps, served in order and retired with their binding. -/

import Bridgefu.Persistence.CallRows
import Bridgefu.Persistence.Outbox
import Bridgefu.Worker.ControlEffects

/-!
The control effects of a leg wait in a lane for each generation of its binding. A lane is open while
the leg is up under that generation. The commit that takes the leg down closes the lane: it fails
every effect that is still unfinished and leaves a receipt for each.
-/

set_option autoImplicit false

namespace Bridgefu.Persistence

open Lib CallEngine CallService MemoryState OutboxState Table

variable {after ledger : Ledger} {c : Commit} {effectId : EffectId}

def controlLane (record : ControlOutboxRecord) : ExternalBindingKey :=
  (record.callId, record.legId, record.bindingGeneration)

/-- Control effects wait in the lane of their binding by sequence. -/
def controlQueue : Discipline ControlOutboxRecord ExternalBindingKey Nat where
  lane := controlLane
  place := fun record => record.sequence
  started := fun record => record.state ≠ .ready
  done := fun record => isUnfinished record.state = false
  started_of_done := by
    intro record done ready
    rw [ready] at done
    cases done

def retiredControl (record : ControlOutboxRecord) (atTime : Timestamp) : ControlOutboxRecord :=
  { record with state := .failed atTime bindingRetired }

private theorem retireControlRows_get? {next commandId records rows final}
    (done : foldFallible (retireControlRow next commandId) rows records = .ok final) :
    (∀ effectId, effectId ∉ records.map ControlOutboxRecord.effectId →
      final.1.get? effectId = rows.1.get? effectId ∧ final.2.get? effectId = rows.2.get? effectId) ∧
    ((records.map ControlOutboxRecord.effectId).Nodup → ∀ record ∈ records,
      final.1.get? record.effectId = some (retiredControl record next.updatedAt) ∧
      rows.2.get? record.effectId = none ∧ ∃ receipt,
        final.2.get? record.effectId = some receipt ∧
        receipt.retiredAt = next.updatedAt ∧ receipt.commandId = commandId) := by
  induction records generalizing rows with
  | nil =>
    cases done
    exact ⟨fun _ _ => ⟨rfl, rfl⟩, fun _ record member => nomatch member⟩
  | cons first _ ih =>
    rw [foldFallible, bind_eq_ok] at done
    obtain ⟨_, one, others⟩ := done
    rw [retireControlRow, bind_eq_ok, exists_unit, pure_eq_ok] at one
    obtain ⟨fresh, rfl⟩ := one
    rw [reject_eq_ok] at fresh
    rw [Bool.not_eq_true, contains_eq_false] at fresh
    obtain ⟨untouched, written⟩ := ih others
    refine ⟨fun effectId absent => ?_, fun distinct record member => ?_⟩
    · rw [List.map_cons, List.mem_cons, not_or] at absent
      obtain ⟨outbox, receipts⟩ := untouched _ absent.2
      rw [outbox, receipts]
      exact ⟨get?_insert_ne _ _ absent.1, get?_insert_ne _ _ absent.1⟩
    · rw [List.map_cons, List.nodup_cons] at distinct
      rcases List.mem_cons.mp member with rfl | later
      · obtain ⟨outbox, receipts⟩ := untouched record.effectId distinct.1
        rw [outbox, receipts, get?_insert_self, get?_insert_self]
        exact ⟨rfl, fresh, _, rfl, rfl, rfl⟩
      · obtain ⟨outbox, absent, receipts⟩ := written distinct.2 _ later
        have other : record.effectId ≠ first.effectId := by
          intro same
          exact distinct.1 (same ▸ List.mem_map_of_mem later)
        rw [get?_insert_ne _ _ other] at absent
        exact ⟨outbox, absent, receipts⟩

namespace Ledger

def lastControl (ledger : Ledger) (key : ExternalBindingKey) : Nat :=
  (ledger.controlSequences.get? key).getD 0

def Open (ledger : Ledger) (key : ExternalBindingKey) : Prop := ledger.Targets key.1 key.2.1 key.2.2

/-- Control effects are numbered from one without gaps, served in order, unfinished only in open
lanes, and retired only when finished. -/
structure ControlBook (ledger : Ledger) : Prop where
  keyed : ∀ effectId record, ledger.controlOutbox.get? effectId = some record →
    record.effectId = effectId
  numbered : ∀ effectId record, ledger.controlOutbox.get? effectId = some record →
    0 < record.sequence ∧ record.sequence ≤ ledger.lastControl (controlLane record)
  complete : ∀ key number, 0 < number → number ≤ ledger.lastControl key →
    ∃ effectId record, ledger.controlOutbox.get? effectId = some record ∧
      controlLane record = key ∧ record.sequence = number
  distinct : controlQueue.Distinct ledger.controlOutbox
  ordered : controlQueue.InOrder ledger.controlOutbox
  live : ∀ effectId record, ledger.controlOutbox.get? effectId = some record →
    controlOutboxIsUnfinished record = true → ledger.Open (controlLane record)
  receipts : ∀ effectId receipt, ledger.controlRetirements.get? effectId = some receipt →
    ∃ record, ledger.controlOutbox.get? effectId = some record ∧
      controlOutboxIsUnfinished record = false

private theorem Open.of_calls {ledger after : Ledger} {key} (isOpen : ledger.Open key)
    (calls : after.calls = ledger.calls) : after.Open key := by
  unfold Open Targets at isOpen ⊢
  rwa [calls]

namespace ControlBook

private theorem initial : MemoryState.initial.ledger.ControlBook where
  keyed := forall_empty
  numbered := forall_empty
  complete := by
    intro key _ _ _
    have none : MemoryState.initial.ledger.lastControl key = 0 := rfl
    omega
  distinct := by intro _ _ _ _ found; cases found
  ordered := .empty
  live := forall_empty
  receipts := forall_empty

variable (book : ledger.ControlBook)
include book

private theorem moved (moves : controlQueue.Moves ledger.controlOutbox after.controlOutbox)
    (kept : ∀ effectId record, ledger.controlOutbox.get? effectId = some record →
      ∃ next, after.controlOutbox.get? effectId = some next ∧ next.effectId = record.effectId)
    (sequences : after.controlSequences = ledger.controlSequences)
    (retirements : after.controlRetirements = ledger.controlRetirements)
    (stays : ∀ key, ledger.Open key → after.Open key) : after.ControlBook where
  keyed := by
    intro effectId next found
    obtain ⟨record, was, -⟩ := moves _ _ found
    obtain ⟨other, isOther, same⟩ := kept _ _ was
    cases found.symm.trans isOther
    exact same.trans (book.keyed _ _ was)
  numbered := by
    intro effectId next found
    obtain ⟨record, was, follows⟩ := moves _ _ found
    have lane : controlLane next = controlLane record := follows.lane
    have place : next.sequence = record.sequence := follows.place
    rw [lane, place, lastControl, sequences]
    exact book.numbered _ _ was
  complete := by
    intro key _ positive reached
    rw [lastControl, sequences] at reached
    obtain ⟨effectId, record, was, lane, place⟩ := book.complete key _ positive reached
    obtain ⟨next, found, -⟩ := kept _ _ was
    obtain ⟨other, isOther, follows⟩ := moves _ _ found
    cases was.symm.trans isOther
    exact ⟨effectId, next, found, follows.lane.trans lane, follows.place.trans place⟩
  distinct := moves.distinct book.distinct
  ordered := book.ordered.moves moves
  live := by
    intro effectId next found unfinished
    obtain ⟨record, was, follows⟩ := moves _ _ found
    have lane : controlLane next = controlLane record := follows.lane
    rw [lane]
    refine stays _ (book.live _ _ was ?_)
    cases before : controlOutboxIsUnfinished record with
    | true => rfl
    | false => exact (follows.done before).symm.trans unfinished
  receipts := by
    intro effectId _ found
    rw [retirements] at found
    obtain ⟨record, was, finished⟩ := book.receipts _ _ found
    obtain ⟨next, isNext, -⟩ := kept _ _ was
    obtain ⟨other, isOther, follows⟩ := moves _ _ isNext
    cases was.symm.trans isOther
    exact ⟨next, isNext, follows.done finished⟩

private theorem of_same (outbox : after.controlOutbox = ledger.controlOutbox)
    (sequences : after.controlSequences = ledger.controlSequences)
    (retirements : after.controlRetirements = ledger.controlRetirements)
    (stays : ∀ key, ledger.Open key → after.Open key) : after.ControlBook :=
  book.moved (outbox ▸ fun _ record was => ⟨record, was, .refl record⟩)
    (fun _ record was => ⟨record, outbox ▸ was, rfl⟩) sequences retirements stays

private theorem moveOne {effectId record next}
    (found : ledger.controlOutbox.get? effectId = some record)
    (outbox : after.controlOutbox = ledger.controlOutbox.insert effectId next)
    (sequences : after.controlSequences = ledger.controlSequences)
    (retirements : after.controlRetirements = ledger.controlRetirements)
    (calls : after.calls = ledger.calls) (sameId : next.effectId = record.effectId)
    (follows : controlQueue.Follows ledger.controlOutbox record next) : after.ControlBook := by
  refine book.moved (outbox ▸ .insert found follows) (fun _ other was => ?_) sequences
    retirements (fun _ isOpen => isOpen.of_calls calls)
  rw [outbox]
  exact exists_insert ⟨other, was, rfl⟩ fun _ isRow same => by
    cases found.symm.trans isRow
    exact sameId.trans same

section Recorded

variable {result : StoredControlCommandResult} (enqueues : ledger.Enqueues result)
include enqueues

omit book in
private theorem recorded_effect :
    controlLane result.view.effect =
      (result.request.callId, result.request.legId, result.request.bindingGeneration) ∧
    result.view.effect.sequence = ledger.lastControl (controlLane result.view.effect) + 1 ∧
    result.view.effect.state = .ready := by
  rw [enqueues.effect]
  exact ⟨rfl, rfl, rfl⟩

/-- The new effect comes behind every effect of its lane. -/
private theorem recorded_behind (otherId : EffectId) (other : ControlOutboxRecord)
    (was : ledger.controlOutbox.get? otherId = some other)
    (sameLane : controlLane other = controlLane result.view.effect) :
    other.sequence < result.view.effect.sequence := by
  obtain ⟨-, number, -⟩ := recorded_effect enqueues
  have reached := (book.numbered _ _ was).2
  rw [sameLane] at reached
  omega

private theorem recorded_distinct :
    controlQueue.Distinct (ledger.controlOutbox.insert result.view.effect.effectId
      result.view.effect) := by
  intro _ _ _ _ one two sameLane samePlace
  rcases get?_insert_some one with ⟨isFirst, rfl⟩ | ⟨-, one⟩ <;>
    rcases get?_insert_some two with ⟨isSecond, rfl⟩ | ⟨-, two⟩
  · rw [isFirst, isSecond]
  · exact absurd samePlace (book.recorded_behind enqueues _ _ two sameLane.symm).ne'
  · exact absurd samePlace (book.recorded_behind enqueues _ _ one sameLane).ne
  · exact book.distinct _ _ _ _ one two sameLane samePlace

variable (sequences : after.controlSequences = ledger.controlSequences.insert
  (result.request.callId, result.request.legId, result.request.bindingGeneration)
  result.view.effect.sequence)
include sequences

omit book in
private theorem recorded_last (key : ExternalBindingKey) :
    after.lastControl key =
      if key = controlLane result.view.effect then result.view.effect.sequence
      else ledger.lastControl key := by
  rw [lastControl, sequences, get?_insert, (recorded_effect enqueues).1]
  split <;> rfl

private theorem recorded (outbox : after.controlOutbox = ledger.controlOutbox.insert
      result.view.effect.effectId result.view.effect)
    (retirements : after.controlRetirements = ledger.controlRetirements)
    (calls : after.calls = ledger.calls) : after.ControlBook := by
  obtain ⟨lane, number, ready⟩ := recorded_effect enqueues
  have last := recorded_last enqueues sequences
  have kept : ∀ effectId record, ledger.controlOutbox.get? effectId = some record →
      after.controlOutbox.get? effectId = some record := by
    intro effectId record was
    exact outbox ▸ get?_insert_fresh was enqueues.newEffect
  constructor
  case keyed =>
    rw [outbox]
    exact forall_insert book.keyed rfl
  case numbered =>
    rw [outbox]
    refine forall_insert (fun effectId record was => ?_) ?_
    · obtain ⟨positive, reached⟩ := book.numbered _ _ was
      rw [last]
      split_ifs with same
      · rw [same] at reached
        omega
      · exact ⟨positive, reached⟩
    · rw [last, if_pos rfl]
      omega
  case complete =>
    intro key number' positive reached
    by_cases before : number' ≤ ledger.lastControl key
    · obtain ⟨effectId, record, was, named⟩ := book.complete key _ positive before
      exact ⟨effectId, record, kept _ _ was, named⟩
    · rw [last] at reached
      split_ifs at reached with same
      · rw [same] at before
        refine ⟨_, result.view.effect, by rw [outbox, get?_insert_self], same.symm, ?_⟩
        omega
      · exact absurd reached before
  case distinct =>
    rw [outbox]
    exact book.recorded_distinct enqueues
  case ordered =>
    refine book.ordered.grows (outbox ▸ forall_insert (fun _ _ => .inl)
      (.inr ⟨?_, book.recorded_behind enqueues⟩))
    exact fun started => started ready
  case live =>
    rw [outbox]
    refine forall_insert (fun effectId record was unfinished => ?_) fun _ => ?_
    · exact (book.live _ _ was unfinished).of_calls calls
    · rw [lane]
      exact Open.of_calls enqueues.targets calls
  case receipts =>
    intro effectId _ found
    rw [retirements] at found
    obtain ⟨record, was, finished⟩ := book.receipts _ _ found
    exact ⟨record, kept _ _ was, finished⟩

end Recorded

end ControlBook

private theorem open_rewriteCall {ledger after : Ledger} {callId call next}
    (found : ledger.calls.get? callId = some call)
    (calls : after.calls = ledger.calls.insert callId next) (same : next.aggregate = call.aggregate)
    {key} (isOpen : ledger.Open key) : after.Open key := by
  obtain ⟨row, leg, stored, up⟩ := isOpen
  obtain ⟨later, isLater, kept⟩ := moves_insert
    (R := fun _ row later => later.aggregate = row.aggregate) stored found rfl same
  exact ⟨later, leg, calls ▸ isLater, kept ▸ up⟩

end Ledger

namespace Commit

def retires (c : Commit) (record : ControlOutboxRecord) : Bool :=
  decide (c.decision.disposition = .applied) && decide (record.callId = c.request.callId) &&
    controlOutboxIsUnfinished record && !controlTargetRetained c.decision.aggregate record

def leaves (c : Commit) (record : ControlOutboxRecord) : ControlOutboxRecord :=
  if c.retires record then retiredControl record c.decision.aggregate.updatedAt else record

private theorem leaves_face (record : ControlOutboxRecord) :
    controlLane (c.leaves record) = controlLane record ∧
      (c.leaves record).sequence = record.sequence ∧
      (c.leaves record).effectId = record.effectId := by
  unfold leaves
  split <;> exact ⟨rfl, rfl, rfl⟩

/-- The commit closes the lanes of its call whose leg is not up any more. -/
def closes (c : Commit) (key : ExternalBindingKey) : Prop :=
  c.decision.disposition = .applied ∧ key.1 = c.request.callId ∧
    ¬ ∃ leg, c.decision.aggregate.leg key.2.1 = some leg ∧ leg.bindingGeneration = key.2.2 ∧
      (leg.state = .connected ∨ leg.state = .held)

private theorem controlTargetRetained_iff {next record} :
    controlTargetRetained next record = true ↔ ∃ leg, next.leg record.legId = some leg ∧
      leg.bindingGeneration = record.bindingGeneration ∧
      (leg.state = .connected ∨ leg.state = .held) := by
  simp only [controlTargetRetained, Option.any_eq_true, Bool.and_eq_true, decide_eq_true_eq]

private theorem retires_iff {record} : c.retires record = true ↔
    c.closes (controlLane record) ∧ controlOutboxIsUnfinished record = true := by
  simp only [retires, closes, controlLane, Bool.and_eq_true, decide_eq_true_eq, Bool.not_eq_true',
    ← controlTargetRetained_iff, Bool.not_eq_true]
  tauto

private theorem leaves_finished {record}
    (done : c.closes (controlLane record) ∨ controlOutboxIsUnfinished record = false) :
    controlOutboxIsUnfinished (c.leaves record) = false := by
  unfold leaves
  split
  · rfl
  · rename_i stays
    refine Bool.eq_false_iff.mpr fun unfinished => stays (retires_iff.mpr ⟨?_, unfinished⟩)
    exact done.resolve_right fun finished => by cases unfinished.symm.trans finished

private theorem controls_spec (accepts : ledger.Accepts c) (book : ledger.ControlBook)
    (effectId : EffectId) :
    c.controls.1.get? effectId = (ledger.controlOutbox.get? effectId).map c.leaves ∧
    ((ledger.controlOutbox.get? effectId).any c.retires = false →
      c.controls.2.get? effectId = ledger.controlRetirements.get? effectId) ∧
    ((ledger.controlOutbox.get? effectId).any c.retires = true →
      ledger.controlRetirements.get? effectId = none ∧
      ∃ receipt, c.controls.2.get? effectId = some receipt ∧
        receipt.commandId = c.request.commandId) := by
  have quiet : (ledger.controlOutbox.get? effectId).any c.retires = false →
      (ledger.controlOutbox.get? effectId).map c.leaves = ledger.controlOutbox.get? effectId := by
    cases ledger.controlOutbox.get? effectId <;> simp_all [leaves]
  have retired := accepts.retired
  by_cases isApplied : c.decision.disposition = .applied
  · rw [if_pos isApplied] at retired
    obtain ⟨untouched, written⟩ := retireControlRows_get? retired
    have listed : ∀ record, record ∈ controlsToRetire c.request.callId c.decision.aggregate
        ledger.controlOutbox ↔
          ledger.controlOutbox.get? record.effectId = some record ∧ c.retires record = true := by
      intro record
      rw [controlsToRetire, List.mem_filter, mem_values]
      rw [retires, isApplied]
      constructor
      · rintro ⟨⟨key, found⟩, goes⟩
        rw [book.keyed key _ found]
        exact ⟨found, goes⟩
      · rintro ⟨found, goes⟩
        exact ⟨⟨record.effectId, found⟩, goes⟩
    have distinct : ((controlsToRetire c.request.callId c.decision.aggregate
        ledger.controlOutbox).map ControlOutboxRecord.effectId).Nodup := by
      refine List.Nodup.map_on ?_ ((nodup_values _ _ book.keyed).filter _)
      intro first isFirst second isSecond same
      have one := ((listed first).mp isFirst).1
      rw [same, ((listed second).mp isSecond).1] at one
      exact (Option.some.inj one).symm
    cases goes : (ledger.controlOutbox.get? effectId).any c.retires with
    | false =>
      obtain ⟨outbox, receipts⟩ := untouched effectId fun member => by
        obtain ⟨record, isListed, rfl⟩ := List.mem_map.mp member
        obtain ⟨found, goes'⟩ := (listed record).mp isListed
        simp [found, goes'] at goes
      exact ⟨outbox.trans (quiet goes).symm, fun _ => receipts, by rintro ⟨⟩⟩
    | true =>
      obtain ⟨record, found, goes⟩ := (Option.any_eq_true _ _).mp goes
      have named := book.keyed _ _ found
      obtain ⟨outbox, absent, receipt, stored, -, by'⟩ :=
        written distinct record ((listed record).mpr ⟨named ▸ found, goes⟩)
      rw [named] at outbox absent stored
      refine ⟨?_, by rintro ⟨⟩, fun _ => ⟨absent, receipt, stored, by'⟩⟩
      rw [outbox, found, Option.map_some, leaves, if_pos goes]
  · rw [if_neg isApplied] at retired
    have none : (ledger.controlOutbox.get? effectId).any c.retires = false := by
      cases ledger.controlOutbox.get? effectId <;> simp [retires, isApplied]
    rw [← Except.ok.inj retired, quiet none, none]
    exact ⟨rfl, fun _ => rfl, by rintro ⟨⟩⟩

end Commit

namespace Ledger.ControlBook

private theorem committed (book : ledger.ControlBook) (accepts : ledger.Accepts c) {next}
    (calls : after.calls = ledger.calls.insert c.request.callId next)
    (aggregate : next.aggregate = c.decision.aggregate)
    (outbox : after.controlOutbox = c.controls.1)
    (retirements : after.controlRetirements = c.controls.2)
    (sequences : after.controlSequences = ledger.controlSequences) : after.ControlBook := by
  have rows : ∀ effectId, after.controlOutbox.get? effectId =
      (ledger.controlOutbox.get? effectId).map c.leaves := fun effectId => by
    rw [outbox, (Commit.controls_spec accepts book effectId).1]
  have origin : ∀ effectId record', after.controlOutbox.get? effectId = some record' →
      ∃ record, ledger.controlOutbox.get? effectId = some record ∧ c.leaves record = record' := by
    intro effectId record' found
    rw [rows] at found
    exact Option.map_eq_some_iff.mp found
  have closes : controlQueue.Closes c.closes ledger.controlOutbox after.controlOutbox := by
    intro effectId record' found
    obtain ⟨record, was, rfl⟩ := origin _ _ found
    obtain ⟨lane, place, -⟩ := c.leaves_face record
    refine ⟨record, was, lane, place, fun shut => Commit.leaves_finished (.inl shut), fun isOpen =>
      if_neg fun goes => isOpen (Commit.retires_iff.mp goes).1⟩
  constructor
  case keyed =>
    intro effectId record' found
    obtain ⟨record, was, rfl⟩ := origin _ _ found
    exact (c.leaves_face record).2.2.trans (book.keyed _ _ was)
  case numbered =>
    intro effectId record' found
    obtain ⟨record, was, rfl⟩ := origin _ _ found
    obtain ⟨lane, place, -⟩ := c.leaves_face record
    rw [lane, place, lastControl, sequences]
    exact book.numbered _ _ was
  case complete =>
    intro key _ positive reached
    rw [lastControl, sequences] at reached
    obtain ⟨effectId, record, was, isLane, isPlace⟩ := book.complete key _ positive reached
    obtain ⟨lane, place, -⟩ := c.leaves_face record
    exact ⟨effectId, _, by rw [rows, was]; rfl, lane.trans isLane, place.trans isPlace⟩
  case distinct => exact closes.distinct book.distinct
  case ordered => exact book.ordered.closes closes
  case live =>
    intro effectId record' found unfinished
    obtain ⟨record, was, rfl⟩ := origin _ _ found
    obtain ⟨isOpen, before⟩ := not_or.mp fun done => by
      cases (Commit.leaves_finished done).symm.trans unfinished
    rw [(c.leaves_face record).1]
    obtain ⟨call, leg, stored, up⟩ :=
      book.live effectId record was (Bool.eq_true_of_not_eq_false before)
    by_cases named : record.callId = c.request.callId
    · have stays : ∃ leg, c.decision.aggregate.leg record.legId = some leg ∧
          leg.bindingGeneration = record.bindingGeneration ∧
          (leg.state = .connected ∨ leg.state = .held) := by
        cases CallAggregate.decide_decided accepts.decided with
        | ignored _ same =>
          change ledger.calls.get? record.callId = some call at stored
          cases (named ▸ stored).symm.trans accepts.found
          rw [same]
          exact ⟨leg, up⟩
        | applied isApplied =>
          by_contra gone
          exact isOpen ⟨isApplied, named, gone⟩
      obtain ⟨leg, up⟩ := stays
      exact ⟨next, leg, calls ▸ named ▸ get?_insert_self .., aggregate ▸ up⟩
    · exact ⟨call, leg, calls ▸ (get?_insert_ne _ _ named).trans stored, up⟩
  case receipts =>
    intro effectId _ found
    obtain ⟨-, quiet, -⟩ := Commit.controls_spec accepts book effectId
    rw [retirements] at found
    rw [rows]
    cases goes : (ledger.controlOutbox.get? effectId).any c.retires with
    | true =>
      obtain ⟨record, was, goes⟩ := (Option.any_eq_true _ _).mp goes
      rw [was]
      exact ⟨_, rfl, Commit.leaves_finished (.inl (Commit.retires_iff.mp goes).1)⟩
    | false =>
      rw [quiet goes] at found
      obtain ⟨record, was, finished⟩ := book.receipts _ _ found
      rw [was]
      exact ⟨_, rfl, Commit.leaves_finished (.inr finished)⟩

private theorem expire_ready {state atTime} (ready : expireOutboxClaim atTime state ≠ .ready) :
    state ≠ .ready := by
  rintro rfl
  exact ready rfl

private theorem restarted (book : ledger.ControlBook) {worker atTime callId call}
    (found : ledger.calls.get? callId = some call) :
    (ledger.restart worker atTime callId call).ControlBook := by
  refine book.moved (.mapValues fun effectId record => ?_) (fun effectId record was => ?_) rfl rfl
    (fun _ isOpen => open_rewriteCall found rfl (by rfl) isOpen)
  · split_ifs with moved
    · refine ⟨rfl, rfl, fun finished => ?_, fun started => .inl (expire_ready started)⟩
      cases moved.2.symm.trans finished
    · exact .refl record
  · rw [restart, get?_mapValues, was, Option.map_some]
    refine ⟨_, rfl, ?_⟩
    split <;> rfl

theorem step {permits} (book : ledger.ControlBook) (step : LedgerStep permits ledger after) :
    after.ControlBook := by
  cases step with
  | created c _ admits =>
    refine book.of_same rfl rfl rfl fun key isOpen => ?_
    obtain ⟨call, leg, stored, up⟩ := isOpen
    exact ⟨call, leg, get?_insert_fresh stored admits.newCall, up⟩
  | decided c _ accepts | promoted _ _ _ _ _ accepts =>
    exact book.committed accepts rfl rfl rfl rfl rfl
  | bound callId call _ _ _ found | released callId call _ _ _ _ found =>
    exact book.of_same rfl rfl rfl fun key isOpen => open_rewriteCall found rfl (by rfl) isOpen
  | restarted worker atTime callId call _ found => exact book.restarted found
  | controlRecorded _ enqueues => exact book.recorded enqueues rfl rfl rfl rfl
  | controlClaimed effectId record worker generation _ _ found isOpen _ head =>
    refine book.moveOne found rfl rfl rfl rfl rfl
      ⟨rfl, rfl, fun finished => ?_, fun _ => .inr ?_⟩
    · cases (unfinished_of_claimable isOpen).symm.trans finished
    · intro _ other was sameLane earlier
      have lanes : controlLane other = controlLane record := sameLane
      obtain ⟨sameCall, sameLeg, sameGeneration⟩ :
          other.callId = record.callId ∧ other.legId = record.legId ∧
            other.bindingGeneration = record.bindingGeneration := by
        simpa [controlLane] using lanes
      have finished := head _ _ was sameCall sameLeg sameGeneration earlier
      exact Bool.eq_false_iff.mpr finished
  | controlCompleted effectId record worker generation atTime state _ found holds finished =>
    refine book.moveOne found rfl rfl rfl rfl rfl
      ⟨rfl, rfl, fun _ => ?_, fun _ => .inl fun ready => ?_⟩
    · exact Bool.eq_false_iff.mpr finished
    · rw [ready] at holds
      cases holds
  | _ => exact book.of_same rfl rfl rfl fun _ isOpen => isOpen

theorem of_reachable [Libraries] {state} (reachable : Reachable state) : state.ledger.ControlBook :=
  reachable.invariant ControlBook .initial fun _ _ _ book step => book.step step

end Ledger.ControlBook

/-- What a step does to a stored control effect and to its receipt of retirement. -/
inductive ControlStep (permits : Permits) (ledger after : Ledger) (effectId : EffectId)
    (record : ControlOutboxRecord) : ControlOutboxRecord → Prop
  | kept (same : after.controlRetirements.get? effectId = ledger.controlRetirements.get? effectId) :
      ControlStep permits ledger after effectId record record
  | expired (worker : WorkerLease) (atTime : Timestamp)
      (unfinished : controlOutboxIsUnfinished record = true)
      (same : after.controlRetirements = ledger.controlRetirements) :
      ControlStep permits ledger after effectId record
        { record with worker := worker, state := expireOutboxClaim atTime record.state }
  | claimed (worker : WorkerLease) (generation : Nat) (claimedAt expiresAt : Timestamp)
      (isOpen : claimableAt record.state claimedAt = true)
      (previous : outboxClaimGeneration record.state = some generation)
      (same : after.controlRetirements = ledger.controlRetirements) :
      ControlStep permits ledger after effectId record
        { record with state := .claimed worker (generation + 1) claimedAt expiresAt }
  | completed (worker : WorkerLease) (generation : Nat) (atTime : Timestamp) (state : OutboxState)
      (completes : permits.completes effectId worker generation atTime)
      (holds : holdsOutboxClaim record.state worker generation atTime = true)
      (finished : ¬ isUnfinished state = true) :
      ControlStep permits ledger after effectId record { record with state := state }
  | retired (atTime : Timestamp) (unfinished : controlOutboxIsUnfinished record = true)
      (before : ledger.controlRetirements.get? effectId = none) (receipt : ControlRetirementReceipt)
      (stored : after.controlRetirements.get? effectId = some receipt) :
      ControlStep permits ledger after effectId record (retiredControl record atTime)

private theorem LedgerStep.control {permits ledger after} (step : LedgerStep permits ledger after)
    (book : ledger.ControlBook) {record}
    (found : ledger.controlOutbox.get? effectId = some record) :
    ∃ next, after.controlOutbox.get? effectId = some next ∧
      ControlStep permits ledger after effectId record next := by
  have committed : ∀ {c : Commit} {later : Ledger}, ledger.Accepts c →
      later.controlOutbox = c.controls.1 → later.controlRetirements = c.controls.2 →
      ∃ next, later.controlOutbox.get? effectId = some next ∧
        ControlStep permits ledger later effectId record next := by
    intro c later accepts outbox retirements
    obtain ⟨row, quiet, retired⟩ := Commit.controls_spec accepts book effectId
    rw [found] at row quiet retired
    refine ⟨c.leaves record, outbox ▸ row, ?_⟩
    rw [← retirements] at quiet retired
    unfold Commit.leaves
    split
    · rename_i goes
      obtain ⟨before, _, stored, -⟩ := retired goes
      exact .retired _ (Commit.retires_iff.mp goes).2 before _ stored
    · rename_i stays
      exact .kept (quiet (Bool.eq_false_iff.mpr stays))
  cases step with
  | decided c _ accepts | promoted c _ _ _ _ accepts => exact committed accepts rfl rfl
  | restarted worker atTime =>
    rw [Ledger.restart, get?_mapValues, found, Option.map_some]
    refine ⟨_, rfl, ?_⟩
    split_ifs with moved
    · exact .expired _ _ moved.2 rfl
    · exact .kept rfl
  | controlRecorded _ enqueues =>
    exact ⟨record, get?_insert_fresh found enqueues.newEffect, .kept rfl⟩
  | controlClaimed key row worker generation _ _ isRow isOpen previous =>
    exact moves_insert (R := ControlStep _ _ _) found isRow (.kept rfl)
      (.claimed _ _ _ _ isOpen previous rfl)
  | controlCompleted key row worker generation atTime _ completes isRow holds finished =>
    exact moves_insert (R := ControlStep _ _ _) found isRow (.kept rfl)
      (.completed _ _ _ _ completes holds finished)
  | _ => exact ⟨record, found, .kept rfl⟩

namespace ControlStep

variable {permits : Permits} {record next : ControlOutboxRecord}

private theorem lane (step : ControlStep permits ledger after effectId record next) :
    controlLane next = controlLane record := by
  cases step <;> rfl

private theorem advances (step : ControlStep permits ledger after effectId record next) :
    OutboxAdvances record.state next.state := by
  cases step with
  | kept => exact .refl _
  | expired => exact .expire _ _
  | claimed _ _ _ _ _ previous => exact .claim previous
  | completed _ _ _ _ _ holds finished => exact .finish (unfinished_of_held holds) finished
  | retired _ unfinished => exact .finish unfinished (by simp [retiredControl, isUnfinished])

end ControlStep

private theorem LedgerStep.keeps_retirement {permits ledger after receipt}
    (found : ledger.controlRetirements.get? effectId = some receipt)
    (step : LedgerStep permits ledger after) :
    after.controlRetirements.get? effectId = some receipt := by
  have committed : ∀ {c : Commit}, ledger.Accepts c →
      c.controls.2.get? effectId = some receipt := by
    intro c accepts
    have retired := accepts.retired
    split at retired
    · refine foldFallible_preserves (fun rows : ControlRows => rows.2.get? effectId = some receipt)
        (fun rows record _ kept one => ?_) found retired
      rw [retireControlRow, bind_eq_ok, exists_unit, pure_eq_ok] at one
      obtain ⟨fresh, rfl⟩ := one
      have other : effectId ≠ record.effectId := by
        rintro rfl
        simp [kept] at fresh
      exact (get?_insert_ne _ _ other).trans kept
    · have same := Except.ok.inj retired
      rw [← same]
      exact found
  cases step with
  | decided c _ accepts | promoted c _ _ _ _ accepts => exact committed accepts
  | _ => exact found

/-- How an unfinished control effect comes out of an operation. -/
inductive ControlOutcome (operation : Operation) (effectId : EffectId)
    (record : ControlOutboxRecord) (after : Ledger) : Prop
  | open' (next : ControlOutboxRecord) (found : after.controlOutbox.get? effectId = some next)
      (lane : controlLane next = controlLane record)
      (unfinished : controlOutboxIsUnfinished next = true)
  | completed (worker : WorkerLease) (generation : Nat) (atTime : Timestamp)
      (completes : operation.completes = some (effectId, worker, generation, atTime))
  | retired (next : ControlOutboxRecord) (atTime : Timestamp) (receipt : ControlRetirementReceipt)
      (found : after.controlOutbox.get? effectId = some next)
      (failed : next.state = .failed atTime bindingRetired)
      (stored : after.controlRetirements.get? effectId = some receipt)

private theorem LedgerPath.control {operation before after}
    (path : LedgerPath operation.permits before after) (book : before.ControlBook) {record}
    (found : before.controlOutbox.get? effectId = some record)
    (unfinished : controlOutboxIsUnfinished record = true) :
    after.ControlBook ∧ ControlOutcome operation effectId record after := by
  induction path with
  | refl => exact ⟨book, .open' record found rfl unfinished⟩
  | @tail _ _ path step ih =>
    obtain ⟨good, outcome⟩ := ih
    refine ⟨good.step step, ?_⟩
    cases outcome with
    | open' current row lane waiting =>
      obtain ⟨next, isNext, moves⟩ := step.control good row
      have sameLane := moves.lane.trans lane
      cases moves with
      | kept => exact .open' _ isNext sameLane waiting
      | expired =>
        refine .open' _ isNext sameLane ?_
        cases state : current.state <;>
          simp_all [controlOutboxIsUnfinished, expireOutboxClaim, isUnfinished]
      | claimed => exact .open' _ isNext sameLane rfl
      | completed worker generation atTime _ completes =>
        exact .completed _ _ _ completes
      | retired atTime _ _ receipt stored => exact .retired _ atTime receipt isNext rfl stored
    | completed worker generation atTime completes =>
      exact .completed _ _ _ completes
    | retired current atTime receipt row failed stored =>
      obtain ⟨next, isNext, moves⟩ := step.control good row
      have final := moves.advances
      rw [failed] at final
      exact .retired _ _ _ isNext final (step.keeps_retirement stored)

private theorem claimControlEffects_open {state : MemoryState} {worker atTime claimTtl limit result}
    (done : state.claimControlEffects worker atTime claimTtl limit = .ok result) :
    ∀ claim ∈ result.2, state.ledger.Open (controlLane claim.record) := by
  rw [claimControlEffects, bind_eq_ok] at done
  obtain ⟨_, -, done⟩ := done
  split at done
  · cases done
    simp
  rw [bind_eq_ok, exists_unit] at done
  obtain ⟨-, claims⟩ := done
  refine (claimEach_keeps (fun now => now.calls = state.calls) _
    (fun now _ _ _ same one => ?_) rfl claims).2
  rw [claimControlEffect, bind_eq_ok] at one
  obtain ⟨record, -, one⟩ := one
  split at one
  · cases one
    exact ⟨same, by rintro _ ⟨⟩⟩
  rename_i claimable
  obtain ⟨-, -, targets⟩ := controlHead_of_claimable (by simpa using claimable)
  split at one
  · cases one
    exact ⟨same, by rintro _ ⟨⟩⟩
  · simp only [bind_eq_ok, pure_eq_ok] at one
    obtain ⟨_, -, rfl⟩ := one
    refine ⟨same, fun _ handed => ?_⟩
    cases handed
    obtain ⟨call, leg, stored, up⟩ := targets
    have before : now.calls.get? record.callId = some call := stored
    rw [same] at before
    exact ⟨call, leg, before, up⟩

/-- The law of control effects at a moment of a run and from there on. -/
structure ControlQueue [Libraries] (operations : List Operation) (state : MemoryState) : Prop where
  /-- The numbers of a binding are those from one to the last. -/
  contiguous : ∀ key number, (∃ effectId record, state.controlOutbox.get? effectId = some record ∧
    controlLane record = key ∧ record.sequence = number) ↔
      1 ≤ number ∧ number ≤ state.ledger.lastControl key
  linear : ∀ firstId secondId first second, state.controlOutbox.get? firstId = some first →
    state.controlOutbox.get? secondId = some second → controlLane first = controlLane second →
    first.sequence = second.sequence → firstId = secondId
  /-- An effect that has been claimed or finished has only finished ones before it. -/
  ordered : ∀ firstId secondId first second, state.controlOutbox.get? firstId = some first →
    state.controlOutbox.get? secondId = some second → controlLane first = controlLane second →
    first.sequence < second.sequence → second.state ≠ .ready →
    controlOutboxIsUnfinished first = false
  claimed : ∀ firstId secondId first second, state.controlOutbox.get? firstId = some first →
    state.controlOutbox.get? secondId = some second → controlLane first = controlLane second →
    underClaim first.state = true → underClaim second.state = true →
    firstId = secondId
  /-- An effect whose binding is not up is finished, and what an operation leaves without its
  binding before the holder of its claim could finish it is retired by that operation. -/
  live : ∀ effectId record, state.controlOutbox.get? effectId = some record →
    controlOutboxIsUnfinished record = true → state.ledger.Open (controlLane record)
  retired : ∀ operation next effectId record, Executes state operation next →
    state.controlOutbox.get? effectId = some record → controlOutboxIsUnfinished record = true →
    ¬ next.ledger.Open (controlLane record) →
    (∃ worker generation atTime,
      operation.completes = some (effectId, worker, generation, atTime)) ∨
    (state.controlRetirements.get? effectId = none ∧
      ∃ later atTime receipt, next.controlOutbox.get? effectId = some later ∧
        later.state = .failed atTime bindingRetired ∧
        next.controlRetirements.get? effectId = some receipt)
  /-- A retirement happens once. -/
  once : ∀ effectId count,
    Settles (fun ledger => ledger.controlRetirements.get? effectId) .initial operations state count →
    count = if (state.controlRetirements.get? effectId).isSome then 1 else 0
  /-- Effects stay for their binding and under their number, claims have growing generations and
  what is finished stays as it is. -/
  advances : ∀ after later effectId record, Run state after later →
    state.controlOutbox.get? effectId = some record →
    ∃ next, later.controlOutbox.get? effectId = some next ∧
      controlLane next = controlLane record ∧ OutboxAdvances record.state next.state
  /-- An effect is claimed and sent for the generation of its binding only. -/
  delivered : ∀ {clock : Option Timestamp} {worker : WorkerLease} {atTime : Timestamp}
    {claimTtl limit : Nat} {result : MemoryState × List ClaimedControlEffect},
    (state.withClock clock).claimControlEffects worker atTime claimTtl limit = .ok result →
    ∀ claim ∈ result.2, state.ledger.Open (controlLane claim.record) ∧
      ∀ {Route : Type} {loaded : MemoryState} {privateEgress : Bool}
        {bindings : Table LegId (Worker.ActorBinding Route)} {target : Worker.ControlTarget Route},
        Worker.executeControlEffect loaded privateEgress bindings claim.record = .ok target →
        target.Addresses loaded claim.record.callId claim.record.legId
          claim.record.bindingGeneration

theorem control_queue [Libraries] {operations : List Operation} {state : MemoryState}
    (run : Run .initial operations state) : ControlQueue operations state := by
  have book := Ledger.ControlBook.of_reachable ⟨operations, run⟩
  constructor
  case contiguous =>
    intro key _
    constructor
    · rintro ⟨effectId, record, found, rfl, rfl⟩
      exact book.numbered _ _ found
    · rintro ⟨positive, reached⟩
      exact book.complete key _ positive reached
  case linear =>
    intro firstId secondId first second one two sameLane samePlace
    exact book.distinct _ _ _ _ one two sameLane samePlace
  case ordered =>
    intro firstId secondId first second one two sameLane earlier started
    exact book.ordered _ _ two started _ _ one sameLane earlier
  case claimed =>
    intro firstId secondId first second one two sameLane firstClaimed secondClaimed
    obtain ⟨firstStarted, firstOpen⟩ := serving_of_underClaim firstClaimed
    obtain ⟨secondStarted, secondOpen⟩ := serving_of_underClaim secondClaimed
    exact book.ordered.serves_one book.distinct one two sameLane firstStarted secondStarted
      firstOpen secondOpen
  case live => exact book.live
  case retired =>
    intro _ next effectId record executes found unfinished shut
    obtain ⟨later, outcome⟩ := executes.path.control book found unfinished
    cases outcome with
    | open' current row lane waiting =>
      exact absurd (lane ▸ later.live _ _ row waiting) shut
    | completed worker generation atTime completes =>
      exact .inl ⟨worker, generation, atTime, completes⟩
    | retired current atTime receipt row failed stored =>
      refine .inr ⟨?_, current, atTime, receipt, row, failed, stored⟩
      refine Option.eq_none_iff_forall_ne_some.mpr fun earlier known => ?_
      obtain ⟨_, isOther, finished⟩ := book.receipts _ _ known
      cases found.symm.trans isOther
      cases unfinished.symm.trans finished
  case once =>
    intro effectId _ settles
    exact settles.count_eq (fun _ _ _ _ known step => step.keeps_retirement known) rfl
  case advances =>
    intro _ later effectId record onward found
    have kept := onward.keeps (fun ledger => ledger.ControlBook ∧
      ∃ next, ledger.controlOutbox.get? effectId = some next ∧
        controlLane next = controlLane record ∧ OutboxAdvances record.state next.state)
      (fun _ _ _ kept step => ?_) ⟨book, record, found, rfl, .refl _⟩
    · exact kept.2
    · obtain ⟨good, _, isMiddle, lane, advances⟩ := kept
      obtain ⟨next, isNext, moves⟩ := step.control good isMiddle
      exact ⟨good.step step, next, isNext, moves.lane.trans lane, advances.trans moves.advances⟩
  case delivered =>
    intro _ worker atTime _ _ _ done _ member
    refine ⟨?_, Worker.executeControlEffect_addresses⟩
    have isOpen := claimControlEffects_open done _ member
    exact isOpen

section

attribute [local instance] Sample.libraries

/-- Digits that a worker has claimed are retired when the call is hung up. -/
theorem control_queue_hung_up :
    ControlQueue Sample.hungUpCall (.after Sample.hungUpCall) ∧
      ((MemoryState.after Sample.hungUpCall).controlRetirements.get? ⟨3⟩).isSome = true :=
  ⟨control_queue (after_run (by decide +kernel)), by decide +kernel⟩

end

end Bridgefu.Persistence
