/- digest: Provider events are applied in the order of their receipt, each of them once. -/

import Bridgefu.Lib.Queue
import Bridgefu.Persistence.Execution
import Bridgefu.Persistence.Simulation

set_option autoImplicit false

namespace Bridgefu.Persistence

open Lib CallEngine CallService MemoryState Table

def ProviderEventState.isStarted : ProviderEventState → Bool
  | .claimed .. | .applied => true
  | .pendingReference | .ready => false

open ProviderEventState

def eventQueue :
    Discipline ProviderEventEnvelope (ProviderAccountKey × ProviderCallId) Nat where
  lane := fun event => (event.account, event.providerCallId)
  place := fun event => event.receiptSequence
  started := fun event => isStarted event.state = true
  done := fun event => event.state = .applied
  started_of_done := by
    intro event done
    rw [done]
    rfl

/-- The stored events against the references. Receipts are issued one by one, an event waits for
its reference exactly while there is none, and events are served in order. -/
structure EventBook (events : Table ProviderEventKey ProviderEventEnvelope)
    (references : Table ProviderReferenceKey ProviderReferenceRow) (last : Option Nat) : Prop where
  keyed : ∀ key event, events.get? key = some event → key = (event.account, event.eventDigest)
  received : ∀ key event, events.get? key = some event → event.receiptSequence ≤ last.getD 0
  receipts : ∀ firstKey secondKey first second, events.get? firstKey = some first →
    events.get? secondKey = some second → first.receiptSequence = second.receiptSequence →
    firstKey = secondKey
  targeted : ∀ key event, events.get? key = some event →
    event.target =
      (references.get? (event.account, event.providerCallId)).map ProviderReferenceRow.target
  waiting : ∀ key event, events.get? key = some event →
    (event.state = .pendingReference ↔ event.target = none)
  ordered : eventQueue.InOrder events

namespace EventBook

variable {events : Table ProviderEventKey ProviderEventEnvelope}
  {references : Table ProviderReferenceKey ProviderReferenceRow} {last : Option Nat}

private theorem empty : EventBook .empty .empty none where
  keyed := forall_empty
  received := forall_empty
  receipts := by intro _ _ _ _ found; cases found
  targeted := forall_empty
  waiting := forall_empty
  ordered := .empty

/-- What a stored event keeps while it is claimed, expires or is applied. -/
structure SameEvent (event next : ProviderEventEnvelope) : Prop where
  account : next.account = event.account
  eventDigest : next.eventDigest = event.eventDigest
  providerCallId : next.providerCallId = event.providerCallId
  receiptSequence : next.receiptSequence = event.receiptSequence
  target : next.target = event.target
  waiting : next.state = .pendingReference ↔ event.state = .pendingReference

theorem SameEvent.refl (event : ProviderEventEnvelope) : SameEvent event event :=
  ⟨rfl, rfl, rfl, rfl, rfl, .rfl⟩

private theorem rewritten (book : EventBook events references last) {next later}
    (moves : ∀ key event', next.get? key = some event' → ∃ event, events.get? key = some event ∧
      eventQueue.Follows events event event' ∧ event'.eventDigest = event.eventDigest ∧
      event'.target = (later.get? (event.account, event.providerCallId)).map
        ProviderReferenceRow.target ∧
      (event'.state = .pendingReference ↔ event'.target = none)) :
    EventBook next later last := by
  have entry : ∀ key event', next.get? key = some event' → ∃ event, events.get? key = some event ∧
      (event'.account, event'.providerCallId) = (event.account, event.providerCallId) ∧
      event'.receiptSequence = event.receiptSequence ∧ event'.eventDigest = event.eventDigest := by
    intro key event' found
    obtain ⟨event, was, follows, digest, -⟩ := moves key _ found
    exact ⟨event, was, follows.lane, follows.place, digest⟩
  refine ⟨?_, ?_, ?_, ?_, ?_, book.ordered.moves fun key event' found =>
    (moves key _ found).imp fun _ known => ⟨known.1, known.2.1⟩⟩
  · intro key event' found
    obtain ⟨event, was, lane, -, digest⟩ := entry key _ found
    rw [book.keyed key _ was, digest, (Prod.mk.inj lane).1]
  · intro key event' found
    obtain ⟨event, was, -, place, -⟩ := entry key _ found
    exact place ▸ book.received key _ was
  · intro _ _ _ _ one two sameReceipt
    obtain ⟨_, firstWas, -, firstPlace, -⟩ := entry _ _ one
    obtain ⟨_, secondWas, -, secondPlace, -⟩ := entry _ _ two
    exact book.receipts _ _ _ _ firstWas secondWas
      (firstPlace.symm.trans (sameReceipt.trans secondPlace))
  · intro key event' found
    obtain ⟨event, was, follows, -, target, -⟩ := moves key _ found
    have lane : (event'.account, event'.providerCallId) = _ := follows.lane
    exact lane ▸ target
  · intro key event' found
    obtain ⟨event, -, -, -, -, waiting⟩ := moves key _ found
    exact waiting

private theorem moves (book : EventBook events references last) {next}
    (moves : ∀ key event', next.get? key = some event' → ∃ event, events.get? key = some event ∧
      eventQueue.Follows events event event' ∧ SameEvent event event') :
    EventBook next references last := by
  refine book.rewritten fun key _ found => ?_
  obtain ⟨event, was, follows, kept⟩ := moves key _ found
  refine ⟨event, was, follows, kept.eventDigest, ?_⟩
  rw [kept.waiting, kept.target]
  exact ⟨book.targeted key _ was, book.waiting key _ was⟩

variable {key : ProviderEventKey} {ledger : Ledger} {event : ProviderEventEnvelope}

private theorem moveOne (book : EventBook events references last) {event next}
    (found : events.get? key = some event) (follows : eventQueue.Follows events event next)
    (same : SameEvent event next) : EventBook (events.insert key next) references last :=
  book.moves (forall_insert (fun _ old was => ⟨old, was, .refl old, .refl old⟩)
    ⟨event, found, follows, same⟩)

private theorem ingested (book : EventBook ledger.providerEvents ledger.providerReferences
      ledger.providerReceiptSequence) (receives : ledger.Receives event) :
    EventBook (ledger.providerEvents.insert (event.account, event.eventDigest) event)
      ledger.providerReferences (some event.receiptSequence) := by
  have later : ∀ key old, ledger.providerEvents.get? key = some old →
      old.receiptSequence < event.receiptSequence := by
    intro key old found
    have earlier := book.received key old found
    rw [receives.receiptSequence, Ledger.nextReceipt]
    omega
  have fresh : isStarted event.state = false := by
    rw [receives.state]
    split <;> rfl
  refine ⟨forall_insert book.keyed rfl, forall_insert (fun key current found =>
    (later key _ found).le) le_rfl, ?_, forall_insert book.targeted
    receives.target, forall_insert book.waiting ?_, book.ordered.grows ?_⟩
  · intro _ _ _ _ one two sameReceipt
    rcases get?_insert_some one with ⟨isFirst, rfl⟩ | ⟨-, one⟩ <;>
      rcases get?_insert_some two with ⟨isSecond, rfl⟩ | ⟨-, two⟩
    · rw [isFirst, isSecond]
    · exact absurd sameReceipt (later _ _ two).ne'
    · exact absurd sameReceipt (later _ _ one).ne
    · exact book.receipts _ _ _ _ one two sameReceipt
  · rw [receives.state]
    cases event.target <;> simp
  · intro key current found
    rcases get?_insert_some found with ⟨-, rfl⟩ | ⟨-, found⟩
    · refine .inr ⟨fun started => ?_, fun _ old was _ => later _ old was⟩
      cases fresh.symm.trans started
    · exact .inl found

private theorem refer_get? {key target call boundAt} (refers : ledger.Refers key target call)
    (other : ProviderReferenceKey) :
    ((ledger.refer key target boundAt).providerReferences.get? other).map
        ProviderReferenceRow.target =
      if other = key then some target
      else (ledger.providerReferences.get? other).map ProviderReferenceRow.target := by
  rw [Ledger.refer]
  cases known : ledger.providerReferences.get? key with
  | none =>
    rw [if_neg (by simp), get?_insert]
    split <;> rfl
  | some row =>
    rw [if_pos (by simp)]
    split_ifs with same
    · rw [same, known, Option.map_some, refers.agrees row known]
    · rfl

private theorem referred (book : EventBook ledger.providerEvents ledger.providerReferences
      ledger.providerReceiptSequence) {key target call boundAt}
    (refers : ledger.Refers key target call) :
    EventBook (ledger.refer key target boundAt).providerEvents
      (ledger.refer key target boundAt).providerReferences ledger.providerReceiptSequence := by
  refine book.rewritten fun _ _ found => ?_
  rw [Ledger.refer, get?_mapValues, Option.map_eq_some_iff] at found
  obtain ⟨event, was, rfl⟩ := found
  refine ⟨event, was, ?_⟩
  rw [refer_get? refers]
  have known := book.targeted _ _ was
  have waits := book.waiting _ _ was
  unfold releaseEvent
  split <;> rename_i released
  · rw [if_pos (Prod.ext released.1 released.2.1)]
    refine ⟨⟨rfl, rfl, fun done => ?_, by rintro ⟨⟩⟩, rfl, rfl, by simp⟩
    have applied : event.state = .applied := done
    cases released.2.2.symm.trans applied
  · refine ⟨.refl event, rfl, ?_, waits⟩
    split_ifs with same
    · -- an event of this provider call that does not wait has found its reference before
      have settled : event.state ≠ .pendingReference := fun pending =>
        released ⟨congrArg Prod.fst same, congrArg Prod.snd same, pending⟩
      cases row : ledger.providerReferences.get? key with
      | none =>
        rw [same, row] at known
        exact absurd (waits.mpr known) settled
      | some reference => rw [known, same, row, Option.map_some, refers.agrees reference row]
    · exact known

private theorem claimed (book : EventBook ledger.providerEvents references last) {worker}
    {generation claimedAt expiresAt} (found : ledger.providerEvents.get? key = some event)
    (isOpen : providerEventOpen event claimedAt = true) (head : ledger.EventHead event) :
    EventBook (ledger.providerEvents.insert key
      { event with state := .claimed worker generation claimedAt expiresAt }) references last := by
  have unfinished : event.state ≠ .applied ∧ event.state ≠ .pendingReference := by
    constructor <;> intro state <;> simp [providerEventOpen, state] at isOpen
  refine book.moveOne found ⟨rfl, rfl, fun done => absurd done unfinished.1, fun _ => .inr ?_⟩
    ⟨rfl, rfl, rfl, rfl, rfl, ?_⟩
  · intro _ _ isOther sameLane earlier
    obtain ⟨account, providerCallId⟩ := Prod.mk.inj sameLane
    exact head _ _ isOther account providerCallId earlier
  · simp [unfinished.2]

private theorem applied (book : EventBook events references last) {worker generation atTime}
    (found : events.get? key = some event)
    (holds : holdsProviderClaim event worker generation atTime = true) :
    EventBook (events.insert key { event with state := .applied, appliedAt := some atTime })
      references last := by
  cases state : event.state with
  | claimed =>
    refine book.moveOne found ⟨rfl, rfl, fun _ => rfl, fun _ => .inl ?_⟩
      ⟨rfl, rfl, rfl, rfl, rfl, ?_⟩
    · change isStarted event.state = true
      rw [state]
      rfl
    · simp [state]
  | pendingReference | ready | applied => simp [holdsProviderClaim, state] at holds

private theorem restarted (book : EventBook events references last) (atTime : Timestamp)
    (callId : CallId) :
    EventBook (events.mapValues fun _ event =>
      if event.target.any fun target => target.callId = callId then
        { event with state := expireProviderClaim atTime event.state }
      else event) references last := by
  refine book.moves fun _ _ found => ?_
  rw [get?_mapValues, Option.map_eq_some_iff] at found
  obtain ⟨event, was, rfl⟩ := found
  refine ⟨event, was, ?_⟩
  split
  · cases state : event.state <;>
      exact ⟨⟨rfl, rfl, by simp [eventQueue, expireProviderClaim, state],
        by simp [eventQueue, expireProviderClaim, isStarted, state]⟩, rfl, rfl, rfl, rfl, rfl,
        by simp [expireProviderClaim, state]⟩
  · exact ⟨.refl event, .refl event⟩

theorem step {permits ledger after}
    (book : EventBook ledger.providerEvents ledger.providerReferences
      ledger.providerReceiptSequence) (step : LedgerStep permits ledger after) :
    EventBook after.providerEvents after.providerReferences after.providerReceiptSequence := by
  cases step with
  | restarted worker atTime callId =>
    exact book.restarted _ callId
  | eventIngested event receives => exact book.ingested receives
  | referenceBound key _ _ _ refers => exact book.referred refers
  | eventClaimed key event worker generation _ _ _ found isOpen _ head =>
    exact book.claimed found isOpen head
  | eventApplied key event worker generation atTime _ found holds =>
    exact book.applied found holds
  | _ => exact book

theorem of_reachable [Libraries] {state} (reachable : Reachable state) :
    EventBook state.providerEvents state.providerReferences state.providerReceiptSequence :=
  reachable.invariant (fun ledger => EventBook ledger.providerEvents ledger.providerReferences
    ledger.providerReceiptSequence) empty fun _ _ _ book step => book.step step

end EventBook

/-- What becomes of a stored event: it stays as received, keeps its target once it has one, and is
never touched again once it is applied. -/
structure EventKept (event next : ProviderEventEnvelope) : Prop where
  received : { next with target := event.target, state := event.state,
                         appliedAt := event.appliedAt } = event
  target : ∀ target, event.target = some target → next.target = some target
  applied : event.state = .applied → next = event

namespace EventKept

theorem refl (event : ProviderEventEnvelope) : EventKept event event :=
  ⟨rfl, fun _ known => known, fun _ => rfl⟩

theorem trans {first second third} (one : EventKept first second) (two : EventKept second third) :
    EventKept first third where
  received := by
    have later := two.received
    have earlier := one.received
    rw [← later] at earlier
    exact earlier
  target := fun target known => two.target target (one.target target known)
  applied := by
    intro done
    have same := one.applied done
    rw [← same]
    exact two.applied (same ▸ done)

end EventKept

private theorem LedgerStep.event_kept {permits ledger after key event}
    (waiting : event.state = .pendingReference → event.target = none)
    (step : LedgerStep permits ledger after) (found : ledger.providerEvents.get? key = some event) :
    ∃ next, after.providerEvents.get? key = some next ∧ EventKept event next := by
  cases step with
  | restarted =>
    rw [Ledger.restart, get?_mapValues, found, Option.map_some]
    refine ⟨_, rfl, ?_⟩
    split
    · refine ⟨rfl, fun _ known => known, fun done => ?_⟩
      rw [done]
      change { event with state := applied } = event
      rw [← done]
    · exact .refl event
  | eventIngested _ receives =>
    exact ⟨event, get?_insert_fresh found receives.newEvent, .refl event⟩
  | referenceBound =>
    rw [Ledger.refer, get?_mapValues, found, Option.map_some]
    refine ⟨_, rfl, ?_⟩
    unfold releaseEvent
    split_ifs with released
    · refine ⟨rfl, fun known isKnown => ?_, fun done => ?_⟩
      · cases (waiting released.2.2).symm.trans isKnown
      · cases released.2.2.symm.trans done
    · exact .refl event
  | eventClaimed other old worker generation _ _ _ isOld isOpen =>
    refine moves_insert (R := fun _ => EventKept) found isOld (.refl event)
      ⟨rfl, fun _ known => known, fun done => ?_⟩
    simp [providerEventOpen, done] at isOpen
  | eventApplied other old worker generation _ _ isOld holds =>
    refine moves_insert (R := fun _ => EventKept) found isOld (.refl event)
      ⟨rfl, fun _ known => known, fun done => ?_⟩
    simp [holdsProviderClaim, done] at holds
  | _ => exact ⟨event, found, .refl event⟩

def Ledger.appliedEvent (key : ProviderEventKey) (ledger : Ledger) : Option ProviderEventEnvelope :=
  (ledger.providerEvents.get? key).filter fun event => event.state = .applied

private theorem LedgerStep.keeps_applied {permits ledger after key event}
    (applied : ledger.appliedEvent key = some event) (step : LedgerStep permits ledger after) :
    after.appliedEvent key = some event := by
  obtain ⟨found, done⟩ := Option.filter_eq_some_iff.mp applied
  have done : event.state = .applied := of_decide_eq_true done
  obtain ⟨_, isNext, kept⟩ := step.event_kept (fun pending => by rw [done] at pending; cases pending)
    found
  cases kept.applied done
  exact Option.filter_eq_some_iff.mpr ⟨isNext, decide_eq_true done⟩

structure EventOrder (events : Table ProviderEventKey ProviderEventEnvelope) : Prop where
  linear : ∀ firstKey secondKey first second, events.get? firstKey = some first →
    events.get? secondKey = some second → first.receiptSequence = second.receiptSequence →
    firstKey = secondKey
  applied : ∀ firstKey secondKey first second, events.get? firstKey = some first →
    events.get? secondKey = some second → first.account = second.account →
    first.providerCallId = second.providerCallId →
    first.receiptSequence < second.receiptSequence → second.state = .applied →
    first.state = .applied

private theorem EventBook.eventOrder {events references last}
    (book : EventBook events references last) : EventOrder events where
  linear := book.receipts
  applied := by
    intro _ _ _ _ one two account providerCallId earlier done
    exact book.ordered.done_of_lt one two (Prod.ext account providerCallId) earlier done

/-- An event that is not a duplicate is stored behind all others, and stays stored. -/
structure EventsStay [Libraries] (state : MemoryState) : Prop where
  accepted : ∀ request next event,
    state.ingestProviderEvent request = .ok (next, .accepted event) →
    state.providerEvents.get? (request.account, request.eventDigest) = none ∧
      next.providerEvents.get? (request.account, request.eventDigest) = some event ∧
      ∀ key stored, state.providerEvents.get? key = some stored →
        stored.receiptSequence < event.receiptSequence
  stay : ∀ operations later key event, Run state operations later →
    state.providerEvents.get? key = some event →
    ∃ next, later.providerEvents.get? key = some next ∧ EventKept event next

theorem EventsStay.of_reachable [Libraries] {state} (reachable : Reachable state) :
    EventsStay state where
  accepted := by
    intro _ next event done
    have book := EventBook.of_reachable reachable
    simp only [ingestProviderEvent, bind_eq_ok, exists_unit] at done
    obtain ⟨-, done⟩ := done
    split at done
    · simp only [bind_eq_ok, exists_unit, pure_eq_ok, Prod.mk.injEq, reduceCtorEq, and_false]
        at done
    · rename_i newEvent
      rw [bind_eq_ok] at done
      obtain ⟨sequence, issued, rfl, rfl⟩ := done
      refine ⟨newEvent, get?_insert_self .., fun key stored found => ?_⟩
      have earlier := book.received key _ found
      change stored.receiptSequence < sequence
      split at issued
      · rename_i last known
        rw [nextCounter_eq_ok] at issued
        rw [known, Option.getD_some] at earlier
        omega
      · rename_i none
        cases issued
        rw [none, Option.getD_none] at earlier
        omega
  stay := by
    intro _ _ key event run found
    have kept := run.keeps (fun ledger => EventBook ledger.providerEvents
      ledger.providerReferences ledger.providerReceiptSequence ∧
      ∃ next, ledger.providerEvents.get? key = some next ∧ EventKept _ next) ?_
      ⟨.of_reachable reachable, event, found, .refl event⟩
    · exact kept.2
    rintro _ _ _ ⟨book, _, isMiddle, kept⟩ step
    obtain ⟨next, isNext, moved⟩ := step.event_kept (book.waiting key _ isMiddle).mp isMiddle
    exact ⟨book.step step, next, isNext, kept.trans moved⟩

/-- An event waits exactly while its provider call has no reference, and a reference hands out the
events that were waiting for it in the order of their receipt. -/
structure ReleasesInOrder (state : MemoryState) : Prop where
  waiting : ∀ key event, state.providerEvents.get? key = some event →
    (event.state = .pendingReference ↔
      state.providerReferences.get? (event.account, event.providerCallId) = none)
  released : ∀ request next released,
    state.bindProviderReferenceInState request = .ok (next, released) →
    released.Pairwise (fun earlier later => earlier.receiptSequence < later.receiptSequence) ∧
    ∀ event, event ∈ released ↔ event.account = request.account ∧
      event.providerCallId = request.providerCallId ∧ event.state ≠ .applied ∧
      event.target = some ⟨request.tenantId, request.callId, request.legId, request.role⟩ ∧
      event.state ≠ .pendingReference ∧ ∃ key, next.providerEvents.get? key = some event

private theorem pairwise_receipts {events references last} (book : EventBook events references last)
    (test : ProviderEventEnvelope → Bool) :
    ((events.values.filter test).insertionSort fun left right =>
      left.receiptSequence ≤ right.receiptSequence).Pairwise fun earlier later =>
        earlier.receiptSequence < later.receiptSequence := by
  have distinct : (events.values.filter test).Nodup :=
    (events.nodup_values (fun event => (event.account, event.eventDigest))
      fun key event found => (book.keyed key event found).symm).filter _
  have sorted := List.pairwise_insertionSort
    (fun left right : ProviderEventEnvelope => left.receiptSequence ≤ right.receiptSequence)
    (events.values.filter test)
  have apart := (List.perm_insertionSort
    (fun left right : ProviderEventEnvelope => left.receiptSequence ≤ right.receiptSequence)
    (events.values.filter test)).nodup_iff.mpr distinct
  refine (sorted.and apart).imp_of_mem fun {earlier later} one two both => ?_
  rw [List.mem_insertionSort, List.mem_filter, mem_values] at one two
  obtain ⟨⟨firstKey, first⟩, -⟩ := one
  obtain ⟨⟨secondKey, second⟩, -⟩ := two
  refine lt_of_le_of_ne both.1 fun same => both.2 ?_
  cases book.receipts firstKey secondKey earlier later first second same
  exact Option.some.inj (first.symm.trans second)

theorem ReleasesInOrder.of_reachable [Libraries] {state} (reachable : Reachable state) :
    ReleasesInOrder state where
  waiting := by
    intro key event found
    have book := EventBook.of_reachable reachable
    rw [book.waiting key _ found, book.targeted key _ found, Option.map_eq_none_iff]
  released := by
    intro request next released done
    have book := EventBook.of_reachable reachable
    -- the state after the binding keeps the law
    have path : LedgerPath (Operation.bindProviderReference request).permits state.ledger
        next.ledger :=
      (bindProviderReferenceInState_path done).1
    have after : EventBook next.providerEvents next.providerReferences
        next.providerReceiptSequence :=
      path.keeps (fun ledger => EventBook ledger.providerEvents ledger.providerReferences
        ledger.providerReceiptSequence) (fun _ _ book step => book.step step) book
    simp only [bindProviderReferenceInState, bind_eq_ok, exists_unit] at done
    obtain ⟨-, _, -, -, references, bound, rfl, rfl⟩ := done
    have target : (references.get? (request.account, request.providerCallId)).map
        ProviderReferenceRow.target =
          some ⟨request.tenantId, request.callId, request.legId, request.role⟩ := by
      split at bound
      · rename_i existing known
        rw [bind_eq_ok, exists_unit, pure_eq_ok, reject_eq_ok, not_not] at bound
        rw [← bound.2, known, Option.map_some, bound.1]
      · cases bound
        rw [get?_insert_self, Option.map_some]
    refine ⟨pairwise_receipts after _, fun event => ?_⟩
    rw [List.mem_insertionSort, List.mem_filter, mem_values, decide_eq_true_eq]
    constructor
    · rintro ⟨⟨key, found⟩, account, providerCallId, unapplied⟩
      have isTarget := after.targeted key _ found
      rw [account, providerCallId, target] at isTarget
      refine ⟨account, providerCallId, unapplied, isTarget, fun pending => ?_, key, found⟩
      rw [(after.waiting key _ found).mp pending] at isTarget
      cases isTarget
    · rintro ⟨account, providerCallId, unapplied, -, -, key, found⟩
      exact ⟨⟨key, found⟩, account, providerCallId, unapplied⟩

/-- In every run the applied events of a provider call are a prefix of its stored events, each is
applied once at most, events stay stored, and a reference releases those that were waiting for it
in their order. -/
theorem provider_event_order [Libraries] {operations : List Operation} {state : MemoryState}
    (run : Run .initial operations state) :
    EventOrder state.providerEvents ∧
    (∀ key, ∃ count, Settles (Ledger.appliedEvent key) .initial operations state count) ∧
    (∀ key count, Settles (Ledger.appliedEvent key) .initial operations state count →
      count = if (state.ledger.appliedEvent key).isSome then 1 else 0) ∧
    EventsStay state ∧ ReleasesInOrder state := by
  have reachable : Reachable state := ⟨operations, run⟩
  refine ⟨(EventBook.of_reachable reachable).eventOrder, fun key => run.settles _,
    fun key _ settles => ?_, .of_reachable reachable, .of_reachable reachable⟩
  exact settles.count_eq (fun _ _ _ _ applied step => step.keeps_applied applied) rfl

section

attribute [local instance] Sample.libraries

theorem provider_event_order_queuedEvents :
    Run .initial Sample.queuedEvents (.after Sample.queuedEvents) ∧
      EventOrder (MemoryState.after Sample.queuedEvents).providerEvents ∧
      ((MemoryState.after Sample.queuedEvents).ledger.appliedEvent (Sample.account, ⟨1⟩)).isSome ∧
      ∀ count, Settles (Ledger.appliedEvent (Sample.account, ⟨1⟩)) .initial Sample.queuedEvents
        (.after Sample.queuedEvents) count → count = 1 := by
  have run : Run .initial Sample.queuedEvents (.after Sample.queuedEvents) :=
    after_run (by decide +kernel)
  have applied : ((after Sample.queuedEvents).ledger.appliedEvent
      (Sample.account, ⟨1⟩)).isSome := by decide +kernel
  obtain ⟨order, -, once, -⟩ := provider_event_order run
  refine ⟨run, order, applied, fun _ settles => ?_⟩
  have counted := once (Sample.account, ⟨1⟩) _ settles
  rwa [if_pos applied] at counted

end

end Bridgefu.Persistence
