/- digest: Effects of a call are claimed and finished in order, each of them once. -/

import Bridgefu.Lib.Queue
import Bridgefu.Persistence.Execution
import Bridgefu.Persistence.Simulation

/-!
The outbox compares effects by version, command, ordinal and effect. A version of a call belongs to
one command only, so the order is that of version and ordinal.
-/

set_option autoImplicit false

namespace Bridgefu.Persistence

open Lib CallEngine CallService OutboxState MemoryState Table

variable {effectId : EffectId} {record : OutboxRecord} {ledger : Ledger}

def effectQueue : Discipline OutboxRecord CallId (Nat ×ₗ Nat) where
  lane := fun record => record.callId
  place := fun record => toLex (record.aggregateVersion, record.ordinal)
  started := fun record => record.state ≠ .ready
  done := fun record => isUnfinished record.state = false
  started_of_done := by
    intro record done ready
    rw [ready] at done
    cases done

theorem unfinished_of_claimable {state atTime} (isOpen : claimableAt state atTime = true) :
    isUnfinished state = true := by
  cases state with
  | ready | claimed => rfl
  | succeeded | failed => cases isOpen

theorem unfinished_of_held {state worker generation atTime}
    (holds : holdsOutboxClaim state worker generation atTime = true) :
    isUnfinished state = true := by
  cases state with
  | claimed => rfl
  | ready | succeeded | failed => cases holds

structure EffectBatch.Issues (batch : EffectBatch) (ids : EffectSupply) (record : OutboxRecord) :
    Prop where
  callId : record.callId = batch.callId
  version : record.aggregateVersion = batch.aggregateVersion
  commandId : record.commandId = batch.commandId
  effectId : record.effectId = ids record.ordinal
  ready : record.state = .ready

variable {permits : Permits} {after : Ledger}

private theorem EffectBatch.issues_of_mem {batch : EffectBatch} {ids ordinal effects}
    (member : (effectId, record) ∈ (batch.records ids ordinal effects).map OutboxRecord.entry) :
    effectId = record.effectId ∧ batch.Issues ids record := by
  induction effects generalizing ordinal with
  | nil => cases member
  | cons _ _ ih =>
    rcases List.mem_cons.mp member with same | later
    · cases same
      exact ⟨rfl, rfl, rfl, rfl, rfl, rfl⟩
    · exact ih later

/-- The outbox against the calls: no effect is ahead of its call, a version belongs to one command,
and effects are served in order. -/
structure OutboxBook (calls : Table CallId StoredCall) (outbox : Table EffectId OutboxRecord) :
    Prop where
  owned : ∀ effectId record, outbox.get? effectId = some record →
    ∃ call, calls.get? record.callId = some call ∧
      record.aggregateVersion ≤ call.aggregate.version
  commands : ∀ firstId secondId first second, outbox.get? firstId = some first →
    outbox.get? secondId = some second → first.callId = second.callId →
    first.aggregateVersion = second.aggregateVersion → first.commandId = second.commandId
  distinct : effectQueue.Distinct outbox
  ordered : effectQueue.InOrder outbox

namespace OutboxBook

variable {calls : Table CallId StoredCall} {outbox : Table EffectId OutboxRecord}

private theorem empty : OutboxBook .empty .empty where
  owned := forall_empty
  commands := by intro _ _ _ _ found; cases found
  distinct := by intro _ _ _ _ found; cases found
  ordered := .empty

section

variable (book : OutboxBook calls outbox)
include book

private theorem rewriteCall {callId call next} (found : calls.get? callId = some call)
    (same : next.aggregate = call.aggregate) : OutboxBook (calls.insert callId next) outbox where
  owned := fun effectId record stored =>
    exists_insert (book.owned effectId record stored) fun _ known version => by
      cases found.symm.trans known
      exact same ▸ version
  commands := book.commands
  distinct := book.distinct
  ordered := book.ordered

private theorem moves {next} (moves : ∀ effectId record, next.get? effectId = some record → ∃ old,
      outbox.get? effectId = some old ∧ effectQueue.Follows outbox old record ∧
        record.commandId = old.commandId) : OutboxBook calls next := by
  have entry : ∀ effectId record, next.get? effectId = some record → ∃ old,
      outbox.get? effectId = some old ∧ record.callId = old.callId ∧
        record.aggregateVersion = old.aggregateVersion ∧ record.commandId = old.commandId := by
    intro effectId record found
    obtain ⟨old, was, follows, command⟩ := moves _ _ found
    exact ⟨old, was, follows.lane, (Prod.mk.inj (toLex_inj.mp follows.place)).1, command⟩
  have queue : effectQueue.Moves outbox next := fun effectId record found =>
    (moves _ _ found).imp fun _ known => ⟨known.1, known.2.1⟩
  refine ⟨?_, ?_, queue.distinct book.distinct, book.ordered.moves queue⟩
  · intro effectId record found
    obtain ⟨old, was, call, version, -⟩ := entry _ _ found
    rw [call, version]
    exact book.owned _ old was
  · intro _ _ _ _ one two
    obtain ⟨old, was, call, version, command⟩ := entry _ _ one
    obtain ⟨_, was', call', version', command'⟩ := entry _ _ two
    rw [call, call', version, version', command, command']
    exact book.commands _ _ old _ was was'

private theorem moveOne {record next} (found : outbox.get? effectId = some record)
    (follows : effectQueue.Follows outbox record next)
    (sameCommand : next.commandId = record.commandId) :
    OutboxBook calls (outbox.insert effectId next) :=
  book.moves (forall_insert (fun _ old was => ⟨old, was, .refl old, rfl⟩)
    ⟨record, found, follows, sameCommand⟩)

private theorem append (batch : EffectBatch) (ids : EffectSupply) (effects : List EffectIntent)
    {next} (version : next.aggregate.version = batch.aggregateVersion)
    (grows : ∀ call, calls.get? batch.callId = some call →
      call.aggregate.version ≤ batch.aggregateVersion)
    (behind : effects = [] ∨ ∀ call, calls.get? batch.callId = some call →
      call.aggregate.version < batch.aggregateVersion) : OutboxBook (calls.insert batch.callId next)
      (outbox.insertAll ((batch.records ids 0 effects).map OutboxRecord.entry)) := by
  have entries : ∀ effectId record,
      (outbox.insertAll ((batch.records ids 0 effects).map OutboxRecord.entry)).get? effectId =
        some record →
      outbox.get? effectId = some record ∨ (effectId = record.effectId ∧ batch.Issues ids record ∧
        ∀ oldId old, outbox.get? oldId = some old → old.callId = record.callId →
          old.aggregateVersion < record.aggregateVersion) := by
    intro effectId record found
    rcases get?_insertAll _ found with member | stored
    · obtain ⟨isId, issues⟩ := EffectBatch.issues_of_mem member
      refine .inr ⟨isId, issues, fun oldId old was sameCall => ?_⟩
      obtain ⟨call, known, reached⟩ := book.owned _ old was
      rw [sameCall, issues.callId] at known
      rcases behind with rfl | ahead
      · cases member
      · exact issues.version ▸ lt_of_le_of_lt reached (ahead _ known)
    · exact .inl stored
  refine ⟨?_, ?_, ?_, book.ordered.grows ?_⟩
  · intro effectId record found
    rcases entries _ _ found with stored | ⟨-, issues, -⟩
    · exact exists_insert (book.owned _ _ stored) fun call known reached =>
        version ▸ reached.trans (grows _ known)
    · rw [issues.callId]
      exact ⟨next, get?_insert_self .., by rw [version, issues.version]⟩
  · intro firstId secondId first second one two sameCall sameVersion
    rcases entries _ _ one with oldFirst | ⟨-, newFirst, firstBehind⟩
    · rcases entries _ _ two with oldSecond | ⟨-, -, secondBehind⟩
      · exact book.commands _ _ _ _ oldFirst oldSecond sameCall sameVersion
      · exact absurd sameVersion (secondBehind _ _ oldFirst sameCall).ne
    · rcases entries _ _ two with oldSecond | ⟨-, newSecond, -⟩
      · exact absurd sameVersion (firstBehind _ _ oldSecond sameCall.symm).ne'
      · rw [newFirst.commandId, newSecond.commandId]
  · intro firstId first secondId second one two sameCall samePlace
    obtain ⟨sameVersion, sameOrdinal⟩ := Prod.mk.inj (toLex_inj.mp samePlace)
    rcases entries _ _ one with oldFirst | ⟨firstKey, newFirst, firstBehind⟩
    · rcases entries _ _ two with oldSecond | ⟨-, -, secondBehind⟩
      · exact book.distinct _ _ _ _ oldFirst oldSecond sameCall samePlace
      · exact absurd sameVersion (secondBehind _ _ oldFirst sameCall).ne
    · rcases entries _ _ two with oldSecond | ⟨secondKey, newSecond, -⟩
      · exact absurd sameVersion (firstBehind _ _ oldSecond sameCall.symm).ne'
      · rw [firstKey, secondKey, newFirst.effectId, newSecond.effectId, sameOrdinal]
  · intro effectId record found
    rcases entries _ _ found with stored | ⟨-, issues, older⟩
    · exact .inl stored
    · refine .inr ⟨fun started => started issues.ready, fun oldId old was sameCall => ?_⟩
      exact Prod.Lex.toLex_lt_toLex.mpr (.inl (older _ old was sameCall))

end

section

variable (book : OutboxBook ledger.calls ledger.outbox)
include book

private theorem created {c} (admits : ledger.Admits c) :
    OutboxBook (ledger.create c).calls (ledger.create c).outbox := by
  have absent : ∀ call, ledger.calls.get? c.batch.callId ≠ some call := by
    intro call known
    cases admits.newCall.symm.trans known
  exact book.append c.batch c.ids c.decision.effects rfl (fun call known => absurd known (absent call))
    (.inr fun call known => absurd known (absent call))

private theorem decided {c} (accepts : ledger.Accepts c) {next}
    (shows : next.aggregate = c.decision.aggregate) :
    OutboxBook (ledger.calls.insert c.request.callId next) (ledger.commit c).outbox := by
  obtain ⟨aggregate, _, _⟩ := next
  cases shows
  have only : ∀ call, ledger.calls.get? c.batch.callId = some call → call = c.call :=
    fun call known => Option.some.inj (known.symm.trans accepts.found)
  cases CallAggregate.decide_decided accepts.decided with
  | ignored _ same quiet =>
    refine book.append c.batch c.ids c.decision.effects rfl (fun call known => ?_) (.inl quiet)
    rw [only call known]
    exact (congrArg CallAggregate.version same).ge
  | applied _ same later =>
    have ahead : ∀ call, ledger.calls.get? c.batch.callId = some call →
        call.aggregate.version < c.batch.aggregateVersion := by
      intro call known
      rw [only call known]
      exact (Nat.lt_succ_self _).trans_eq later.symm
    exact book.append c.batch c.ids c.decision.effects rfl (fun call known => (ahead _ known).le)
      (.inr ahead)

variable (found : ledger.outbox.get? effectId = some record)
include found

private theorem head (head : ledger.OutboxHead record) : effectQueue.Head ledger.outbox record := by
  intro otherId other isOther sameCall earlier
  have before : outboxOrderLt other record = true := by
    rcases Prod.Lex.toLex_lt_toLex.mp earlier with older | ⟨sameVersion, lower⟩
    · simp [outboxOrderLt, show other.aggregateVersion < record.aggregateVersion from older]
    · have sameVersion : other.aggregateVersion = record.aggregateVersion := sameVersion
      have sameCommand :=
        book.commands otherId effectId other record isOther found sameCall sameVersion
      simp [outboxOrderLt, sameVersion, sameCommand, show other.ordinal < record.ordinal from lower]
  have finished := head _ _ isOther sameCall before
  rw [Bool.not_eq_true] at finished
  exact finished

private theorem claimed {worker generation claimedAt expiresAt}
    (isOpen : claimableAt record.state claimedAt = true) (head : ledger.OutboxHead record) :
    OutboxBook ledger.calls (ledger.outbox.insert effectId
      { record with state := .claimed worker generation claimedAt expiresAt }) := by
  have undone : ¬ effectQueue.done record := by
    intro done
    cases (unfinished_of_claimable isOpen).symm.trans done
  exact book.moveOne found ⟨rfl, rfl, fun done => absurd done undone,
    fun _ => .inr (book.head found head)⟩ rfl

private theorem completed {worker generation atTime state}
    (holds : holdsOutboxClaim record.state worker generation atTime = true)
    (finished : ¬ isUnfinished state = true) :
    OutboxBook ledger.calls (ledger.outbox.insert effectId { record with state := state }) := by
  have started : effectQueue.started record := by
    intro ready
    rw [ready] at holds
    cases holds
  exact book.moveOne found ⟨rfl, rfl, fun _ => Bool.not_eq_true _ |>.mp finished,
    fun _ => .inl started⟩ rfl

end

private theorem restarted (book : OutboxBook calls outbox) (worker : WorkerLease)
    (atTime : Timestamp) (callId : CallId) :
    OutboxBook calls (outbox.mapValues fun _ record =>
      if record.callId = callId ∧ outboxIsUnfinished record then
        { record with worker := worker, state := expireOutboxClaim atTime record.state }
      else record) := by
  refine book.moves fun _ _ found => ?_
  rw [get?_mapValues, Option.map_eq_some_iff] at found
  obtain ⟨record, was, rfl⟩ := found
  refine ⟨record, was, ?_⟩
  split
  · cases state : record.state <;>
      exact ⟨⟨rfl, rfl, by simp [effectQueue, expireOutboxClaim, state, isUnfinished],
        by simp [effectQueue, expireOutboxClaim, state]⟩, rfl⟩
  · exact ⟨.refl record, rfl⟩

theorem step (book : OutboxBook ledger.calls ledger.outbox) (step : LedgerStep permits ledger after)
    : OutboxBook after.calls after.outbox := by
  cases step with
  | created c _ admits => exact book.created admits
  | decided c _ accepts | promoted _ _ _ _ _ accepts => exact book.decided accepts rfl
  | bound callId call _ _ acts found => exact book.rewriteCall found rfl
  | released callId call worker atTime _ acts found =>
    exact book.rewriteCall found rfl
  | restarted worker atTime callId call _ found =>
    exact (book.restarted _ _ callId).rewriteCall found rfl
  | effectClaimed effectId record worker generation claimedAt expiresAt claims found isOpen previous
      head => exact book.claimed found isOpen head
  | effectCompleted effectId record worker generation atTime _ _ found holds finished =>
    exact book.completed found holds finished
  | _ => exact book

theorem of_reachable [Libraries] {state} (reachable : Reachable state) :
    OutboxBook state.calls state.outbox :=
  reachable.invariant (fun ledger => OutboxBook ledger.calls ledger.outbox) empty
    fun _ _ _ book step => book.step step

end OutboxBook

/-- How the state of an effect may change: a claim is followed by its own expiry, by a claim of a
later generation or by the end, which is final. -/
def OutboxAdvances : OutboxState → OutboxState → Prop
  | .ready, _ => True
  | .claimed .., .ready => False
  | .claimed worker generation _ _, .claimed laterWorker laterGeneration _ _ =>
    generation < laterGeneration ∨ (generation = laterGeneration ∧ worker = laterWorker)
  | .claimed .., _ => True
  | finished, later => later = finished

theorem OutboxAdvances.refl (state : OutboxState) : OutboxAdvances state state := by
  cases state <;> simp [OutboxAdvances]

theorem OutboxAdvances.trans {first second third} (one : OutboxAdvances first second)
    (two : OutboxAdvances second third) : OutboxAdvances first third := by
  cases first with
  | ready => trivial
  | claimed =>
    cases second with
    | ready => exact absurd one id
    | claimed =>
      cases third with
      | ready => exact absurd two id
      | claimed =>
        rcases one with newer | ⟨rfl, rfl⟩
        · rcases two with newest | ⟨rfl, -⟩
          · exact .inl (newer.trans newest)
          · exact .inl newer
        · exact two
      | succeeded => trivial
      | failed => trivial
    | succeeded | failed =>
      cases two
      trivial
  | succeeded | failed =>
    cases one
    exact two

theorem OutboxAdvances.expire (atTime : Timestamp) (state : OutboxState) :
    OutboxAdvances state (expireOutboxClaim atTime state) := by
  cases state <;> simp [OutboxAdvances, expireOutboxClaim]

theorem OutboxAdvances.claim {state worker generation claimedAt expiresAt}
    (previous : outboxClaimGeneration state = some generation) :
    OutboxAdvances state (.claimed worker (generation + 1) claimedAt expiresAt) := by
  cases state <;> simp_all [OutboxAdvances, outboxClaimGeneration]

theorem OutboxAdvances.finish {state next} (unfinished : isUnfinished state = true)
    (finished : ¬ isUnfinished next = true) : OutboxAdvances state next := by
  cases state <;> cases next <;> simp_all [OutboxAdvances, isUnfinished]

private theorem issued_get? {ids} (unused : ledger.Unused ids) (batch : EffectBatch)
    (effects : List EffectIntent) (found : ledger.outbox.get? effectId = some record) :
    (ledger.outbox.insertAll ((batch.records ids 0 effects).map OutboxRecord.entry)).get? effectId =
      some record := by
  rw [get?_insertAll_of_absent, found]
  intro member
  obtain ⟨n, same⟩ := EffectBatch.records_ids member
  have absent := unused.absent n
  rw [← same, found] at absent
  cases absent

inductive EffectStep (permits : Permits) (effectId : EffectId) (record : OutboxRecord) :
    OutboxRecord → Prop
  | kept : EffectStep permits effectId record record
  | expired (worker : WorkerLease) (atTime : Timestamp) (restarts : permits.restarts worker)
      (unfinished : outboxIsUnfinished record = true) :
      EffectStep permits effectId record
        { record with worker := worker, state := expireOutboxClaim atTime record.state }
  | claimed (worker : WorkerLease) (generation : Nat) (claimedAt expiresAt : Timestamp)
      (claims : permits.claims worker)
      (isOpen : claimableAt record.state claimedAt = true)
      (previous : outboxClaimGeneration record.state = some generation) :
      EffectStep permits effectId record
        { record with state := .claimed worker (generation + 1) claimedAt expiresAt }
  | completed (worker : WorkerLease) (generation : Nat) (atTime : Timestamp) (state : OutboxState)
      (completes : permits.completes effectId worker generation atTime)
      (holds : holdsOutboxClaim record.state worker generation atTime = true)
      (finished : ¬ isUnfinished state = true) :
      EffectStep permits effectId record { record with state := state }

private theorem LedgerStep.effect (step : LedgerStep permits ledger after)
    (found : ledger.outbox.get? effectId = some record) :
    ∃ next, after.outbox.get? effectId = some next ∧ EffectStep permits effectId record next := by
  cases step with
  | created c _ admits =>
    exact ⟨record, issued_get? admits.unused c.batch c.decision.effects found, .kept⟩
  | decided c permitted accepts | promoted c _ _ permitted _ accepts =>
    exact ⟨record, issued_get? accepts.unused c.batch c.decision.effects found, .kept⟩
  | restarted worker atTime _ _ restarts =>
    rw [Ledger.restart, get?_mapValues, found, Option.map_some]
    refine ⟨_, rfl, ?_⟩
    split_ifs with moved
    · exact .expired _ _ restarts moved.2
    · exact .kept
  | effectClaimed key row worker generation _ _ claims isRow isOpen previous =>
    exact moves_insert (R := EffectStep permits) found isRow .kept
      (.claimed _ _ _ _ claims isOpen previous)
  | effectCompleted key row worker generation atTime _ completes isRow holds finished =>
    exact moves_insert (R := EffectStep permits) found isRow .kept
      (.completed _ _ _ _ completes holds finished)
  | _ => exact ⟨record, found, .kept⟩

private theorem EffectStep.advances {record next} (step : EffectStep permits effectId record next) :
    OutboxAdvances record.state next.state := by
  cases step with
  | kept => exact .refl _
  | expired => exact .expire _ _
  | claimed _ _ _ _ _ _ previous => exact .claim previous
  | completed _ _ _ _ _ holds finished => exact .finish (unfinished_of_held holds) finished

private theorem LedgerStep.effect_new (step : LedgerStep permits ledger after)
    (absent : ledger.outbox.get? effectId = none)
    (found : after.outbox.get? effectId = some record) : record.state = .ready := by
  cases step with
  | created c | decided c | promoted c =>
    rcases get?_insertAll ledger.outbox found with member | stored
    · exact (EffectBatch.issues_of_mem member).2.ready
    · cases absent.symm.trans stored
  | restarted =>
    rw [Ledger.restart, get?_mapValues, absent] at found
    cases found
  | effectClaimed key row worker generation claimedAt expiresAt claims isRow
  | effectCompleted key row worker generation _ _ _ isRow =>
    rcases get?_insert_some found with ⟨rfl, -⟩ | ⟨-, stored⟩
    · cases absent.symm.trans isRow
    · cases absent.symm.trans stored
  | _ => cases absent.symm.trans found

/-- How the effect ended. -/
def Ledger.finishedAs (effectId : EffectId) (ledger : Ledger) : Option OutboxState :=
  (ledger.outbox.get? effectId).bind fun record =>
    if isUnfinished record.state then none else some record.state

private theorem Ledger.finishedAs_eq_some {state} :
    ledger.finishedAs effectId = some state ↔ ∃ record, ledger.outbox.get? effectId = some record ∧
      isUnfinished state = false ∧ record.state = state := by
  simp only [finishedAs, Option.bind_eq_some_iff, Option.ite_none_left_eq_some,
    Bool.not_eq_true, Option.some.injEq]
  constructor <;>
  · rintro ⟨record, found, finished, rfl⟩
    exact ⟨record, found, finished, rfl⟩

private theorem LedgerStep.keeps_finished {state}
    (finished : ledger.finishedAs effectId = some state)
    (step : LedgerStep permits ledger after) : after.finishedAs effectId = some state := by
  obtain ⟨record, found, ended, rfl⟩ := Ledger.finishedAs_eq_some.mp finished
  obtain ⟨next, isNext, moves⟩ := step.effect found
  refine Ledger.finishedAs_eq_some.mpr ⟨next, isNext, ended, ?_⟩
  have advances := moves.advances
  cases state : record.state <;> simp_all [OutboxAdvances, isUnfinished]

private theorem Operation.only_completes {operation : Operation} {completion}
    (completes : operation.completes = some completion) :
    operation.claims = none ∧ operation.restarts = none := by
  cases operation <;> first | exact ⟨rfl, rfl⟩ | cases completes

private theorem path_completes {operation : Operation} {before after}
    (open' : before.finishedAs effectId = none) (path : LedgerPath operation.permits before after) :
    (∀ record, after.outbox.get? effectId = some record →
      isUnfinished record.state = true ∧ (operation.completes.isSome →
        before.outbox.get? effectId = some record ∨ record.state = .ready)) ∨
    ∃ worker generation atTime record,
      operation.completes = some (effectId, worker, generation, atTime) ∧
      before.outbox.get? effectId = some record ∧
      holdsOutboxClaim record.state worker generation atTime = true := by
  induction path with
  | refl =>
    refine .inl fun record found => ⟨?_, fun _ => .inl found⟩
    cases unfinished : isUnfinished record.state with
    | true => rfl
    | false =>
      have ended := Ledger.finishedAs_eq_some.mpr ⟨record, found, unfinished, rfl⟩
      cases open'.symm.trans ended
  | @tail middle _ path step ih =>
    rcases ih with same | held
    · cases row : middle.outbox.get? effectId with
      | none =>
        refine .inl fun record found => ?_
        have ready := step.effect_new row found
        exact ⟨by rw [ready]; rfl, fun _ => .inr ready⟩
      | some record =>
        obtain ⟨unfinished, unchanged⟩ := same _ row
        obtain ⟨_, isNext, moves⟩ := step.effect row
        cases moves with
        | kept =>
          refine .inl fun other found => ?_
          cases isNext.symm.trans found
          exact ⟨unfinished, unchanged⟩
        | expired worker atTime restarts =>
          refine .inl fun other found => ?_
          refine ⟨?_, fun completes => ?_⟩
          · cases state : record.state <;>
              simp_all [expireOutboxClaim, isUnfinished]
          · obtain ⟨completion, known⟩ := Option.isSome_iff_exists.mp completes
            cases (Operation.only_completes known).2.symm.trans restarts
        | claimed worker generation _ _ claims =>
          refine .inl fun other found => ?_
          cases isNext.symm.trans found
          refine ⟨rfl, fun completes => ?_⟩
          obtain ⟨completion, known⟩ := Option.isSome_iff_exists.mp completes
          cases (Operation.only_completes known).1.symm.trans claims
        | completed worker generation atTime state completes holds =>
          have known : operation.completes = some (effectId, worker, generation, atTime) :=
            completes
          rcases unchanged (by rw [known]; rfl) with was | ready
          · exact .inr ⟨worker, generation, atTime, record, known, was, holds⟩
          · rw [ready] at holds
            cases holds
    · exact .inr held

def OutboxState.underClaim : OutboxState → Bool
  | .claimed .. => true
  | _ => false

structure EffectOrder (outbox : Table EffectId OutboxRecord) : Prop where
  linear : ∀ firstId secondId first second, outbox.get? firstId = some first →
    outbox.get? secondId = some second → first.callId = second.callId →
    (first.aggregateVersion, first.ordinal) = (second.aggregateVersion, second.ordinal) →
    firstId = secondId
  finished : ∀ firstId secondId first second, outbox.get? firstId = some first →
    outbox.get? secondId = some second → first.callId = second.callId →
    toLex (first.aggregateVersion, first.ordinal) <
      toLex (second.aggregateVersion, second.ordinal) →
    isUnfinished second.state = false → isUnfinished first.state = false
  claimed : ∀ firstId secondId first second, outbox.get? firstId = some first →
    outbox.get? secondId = some second → first.callId = second.callId →
    underClaim first.state = true → underClaim second.state = true →
    firstId = secondId

theorem serving_of_underClaim {state} (claimed : underClaim state = true) :
    state ≠ .ready ∧ ¬ isUnfinished state = false := by
  cases state <;> simp_all [underClaim, isUnfinished]

private theorem OutboxBook.effectOrder {calls outbox} (book : OutboxBook calls outbox) :
    EffectOrder outbox where
  linear := by
    intro firstId secondId first second one two sameCall samePlace
    exact book.distinct _ _ _ _ one two sameCall (congrArg toLex samePlace)
  finished := by
    intro firstId secondId first second one two sameCall earlier finished
    exact book.ordered.done_of_lt one two sameCall earlier finished
  claimed := by
    intro firstId secondId first second one two sameCall firstClaimed secondClaimed
    obtain ⟨firstStarted, firstOpen⟩ := serving_of_underClaim firstClaimed
    obtain ⟨secondStarted, secondOpen⟩ := serving_of_underClaim secondClaimed
    exact book.ordered.serves_one book.distinct one two sameCall firstStarted secondStarted
      firstOpen secondOpen

/-- An effect is finished only by an operation that holds its current claim, which is alive. -/
def FinishedByHolder [Libraries] (state : MemoryState) : Prop :=
  ∀ operation next effectId, Executes state operation next →
    state.ledger.finishedAs effectId = none → (next.ledger.finishedAs effectId).isSome →
    ∃ worker generation atTime record,
      operation.completes = some (effectId, worker, generation, atTime) ∧
      state.outbox.get? effectId = some record ∧
      holdsOutboxClaim record.state worker generation atTime = true

private theorem FinishedByHolder.of_state [Libraries] (state : MemoryState) :
    FinishedByHolder state := by
  intro _ _ _ executes open' finished
  rcases path_completes open' executes.path with same | held
  · obtain ⟨_, isEnded⟩ := Option.isSome_iff_exists.mp finished
    obtain ⟨_, found, closed, rfl⟩ := Ledger.finishedAs_eq_some.mp isEnded
    rw [(same _ found).1] at closed
    cases closed
  · exact held

/-- Effects stay in the outbox, with claims of growing generations that each have one holder. -/
def ClaimsAdvance [Libraries] (state : MemoryState) : Prop :=
  ∀ operations later effectId record, Run state operations later →
    state.outbox.get? effectId = some record →
    ∃ next, later.outbox.get? effectId = some next ∧ OutboxAdvances record.state next.state

private theorem ClaimsAdvance.of_state [Libraries] (state : MemoryState) : ClaimsAdvance state := by
  intro _ _ effectId record run found
  refine run.keeps (fun ledger => ∃ next, ledger.outbox.get? effectId = some next ∧
    OutboxAdvances record.state next.state) ?_ ⟨record, found, .refl _⟩
  rintro _ _ _ ⟨_, isMiddle, advances⟩ step
  obtain ⟨next, isNext, moves⟩ := step.effect isMiddle
  exact ⟨next, isNext, advances.trans moves.advances⟩

/-- In every run the finished effects of a call are a prefix of its effects, at most one is under a
claim, each is finished once at most, and only by the holder of its latest claim. -/
theorem effect_outbox_order [Libraries] {operations : List Operation} {state : MemoryState}
    (run : Run .initial operations state) :
    EffectOrder state.outbox ∧
    (∀ effectId, ∃ count, Settles (Ledger.finishedAs effectId) .initial operations state count) ∧
    (∀ effectId count, Settles (Ledger.finishedAs effectId) .initial operations state count →
      count = if (state.ledger.finishedAs effectId).isSome then 1 else 0) ∧
    FinishedByHolder state ∧ ClaimsAdvance state := by
  have book := OutboxBook.of_reachable ⟨operations, run⟩
  refine ⟨book.effectOrder, fun effectId => run.settles _, fun effectId _ settles => ?_,
    .of_state state, .of_state state⟩
  exact settles.count_eq (fun _ _ _ _ finished step => step.keeps_finished finished) rfl

section

attribute [local instance] Sample.libraries

theorem effect_outbox_order_servedEffects :
    Run .initial Sample.servedEffects (.after Sample.servedEffects) ∧
      EffectOrder (MemoryState.after Sample.servedEffects).outbox ∧
      ((MemoryState.after Sample.servedEffects).ledger.finishedAs ⟨0⟩).isSome ∧
      ∀ count, Settles (Ledger.finishedAs ⟨0⟩) .initial Sample.servedEffects
        (.after Sample.servedEffects) count → count = 1 := by
  have run : Run .initial Sample.servedEffects (.after Sample.servedEffects) :=
    after_run (by decide +kernel)
  have finished : ((after Sample.servedEffects).ledger.finishedAs ⟨0⟩).isSome := by
    decide +kernel
  obtain ⟨order, -, once, -⟩ := effect_outbox_order run
  refine ⟨run, order, finished, fun _ settles => ?_⟩
  have counted := once ⟨0⟩ _ settles
  rwa [if_pos finished] at counted

end

end Bridgefu.Persistence
