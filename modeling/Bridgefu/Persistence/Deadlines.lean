/- digest: The deadline rows mirror the slots of every call over every run. -/

import Bridgefu.Persistence.DeadlineRows
import Bridgefu.Persistence.Execution

set_option autoImplicit false

namespace Bridgefu.Persistence

open Lib CallEngine CallService MemoryState Table

def elapsedDeadline : CallCommand → Option (DeadlineKind × Nat)
  | .deadlineElapsed _ kind generation _ => some (kind, generation)
  | _ => none

variable {command : CallCommand} {kind : DeadlineKind} {generation : Nat} {a : CallAggregate}

private theorem elapsedDeadline_eq_some
    (elapsed : elapsedDeadline command = some (kind, generation)) :
    ∃ atTime endingDeadline, command = .deadlineElapsed atTime kind generation endingDeadline := by
  cases command <;> simp_all [elapsedDeadline]

private theorem deadlineClaim_eq_none {request}
    (claimMatches : validateCommandDeadlineClaim request = .ok ())
    (quiet : elapsedDeadline request.command = none) : request.deadlineClaim = none := by
  unfold validateCommandDeadlineClaim at claimMatches
  split at claimMatches
  · simp_all [elapsedDeadline]
  · cases claimMatches
  · cases claimMatches
  · assumption

private theorem deadlineClaim_eq_some {request rows}
    (claimMatches : validateCommandDeadlineClaim request = .ok ())
    (claimLive : validateDeadlineClaim rows request.deadlineClaim request.atTime = .ok ())
    (elapsed : elapsedDeadline request.command = some (kind, generation)) :
    ∃ claim record, request.deadlineClaim = some claim ∧ claim.callId = request.callId ∧
      claim.kind = kind ∧ claim.generation = generation ∧
      rows.get? (request.callId, kind, generation) = some record ∧
      DeadlineState.isOpen record.state = true := by
  obtain ⟨_, _, command⟩ := elapsedDeadline_eq_some elapsed
  cases claimed : request.deadlineClaim with
  | none => simp [validateCommandDeadlineClaim, command, claimed] at claimMatches
  | some claim =>
    simp only [validateCommandDeadlineClaim, command, claimed, reject_eq_ok, not_or,
      not_not] at claimMatches
    obtain ⟨sameCall, sameKind, sameGeneration, -⟩ := claimMatches
    simp only [validateDeadlineClaim, claimed, bind_eq_ok, orFail_eq_ok] at claimLive
    obtain ⟨record, found, live⟩ := claimLive
    rw [sameCall, sameKind, sameGeneration] at found
    refine ⟨claim, record, rfl, sameCall, sameKind, sameGeneration, found, ?_⟩
    split at live
    · rename_i isClaimed
      rw [isClaimed]
      rfl
    · cases live

private theorem elapsed_applied {decision dueAt}
    (elapsed : elapsedDeadline command = some (kind, generation))
    (slot : a.deadlines.get kind = ⟨generation, some dueAt⟩)
    (decided : a.decide command = .ok decision) : decision.disposition = .applied := by
  obtain ⟨_, _, rfl⟩ := elapsedDeadline_eq_some elapsed
  simp only [CallAggregate.decide, bind_eq_ok, exists_unit, pure_eq_ok] at decided
  obtain ⟨_, ran, _, _, -, rfl⟩ := decided
  obtain ⟨-, stale⟩ | ⟨-, fired⟩ := CallAggregate.deadlineElapsed_cases ran
  · rw [slot] at stale
    simp at stale
  · obtain ⟨-, rfl⟩ | ⟨_, _, -, -, -, rfl⟩ | ⟨_, -, -, -, rfl⟩ := fired <;> rfl

private theorem armed_of_applied {decision}
    (elapsed : elapsedDeadline command = some (kind, generation))
    (decided : a.decide command = .ok decision) (applied : decision.disposition = .applied) :
    (a.deadlines.get kind).dueAt.isSome := by
  obtain ⟨_, _, rfl⟩ := elapsedDeadline_eq_some elapsed
  simp only [CallAggregate.decide, bind_eq_ok, exists_unit, pure_eq_ok] at decided
  obtain ⟨_, ran, _, _, -, rfl⟩ := decided
  obtain ⟨ignores, -⟩ | ⟨guard, -⟩ := CallAggregate.deadlineElapsed_cases ran
  · obtain ⟨_, other, rfl⟩ := ignores
    exact absurd applied other
  · exact guard.armed

private theorem firedSlots_of_quiet (quiet : elapsedDeadline command = none) :
    firedSlots a command = a.deadlines := by
  cases command <;> simp_all [elapsedDeadline, firedSlots]

private theorem Persists.weaken {callId firing rows next}
    (kept : Persists callId firing rows next) : Persists callId none rows next :=
  ⟨kept.others, kept.completed, nofun, kept.keyed⟩

private theorem firedSlots_of_elapsed
    (elapsed : elapsedDeadline command = some (kind, generation)) :
    firedSlots a command = a.deadlines.set kind ⟨(a.deadlines.get kind).generation, none⟩ := by
  obtain ⟨_, _, rfl⟩ := elapsedDeadline_eq_some elapsed
  rfl

structure Commit.Books (c : Commit) (rows : DeadlineRows) : Prop where
  mirror : Mirror c.request.callId c.decision.aggregate.deadlines c.deadlines none
  persists : Persists c.request.callId none rows c.deadlines
  fired : ∀ kind generation, elapsedDeadline c.request.command = some (kind, generation) →
    (∃ record, rows.get? (c.request.callId, kind, generation) = some record ∧
      DeadlineState.isOpen record.state = true) ∧
    ∃ record, c.deadlines.get? (c.request.callId, kind, generation) = some record ∧
      DeadlineState.isCompleted record.state = true

private theorem books_of_quiet {ledger : Ledger} {c} (accepts : ledger.Accepts c)
    (mirror : Mirror c.request.callId c.call.aggregate.deadlines ledger.deadlines none)
    (elapsed : elapsedDeadline c.request.command = none) : c.Books ledger.deadlines := by
  have completed : c.persisted = c.deadlines := by
    have done := accepts.completed
    rw [deadlineClaim_eq_none accepts.claimMatches elapsed] at done
    exact Except.ok.inj done
  have persisted := accepts.persisted
  rw [completed] at persisted
  suffices Mirror c.request.callId c.decision.aggregate.deadlines c.deadlines none ∧
      Persists c.request.callId none ledger.deadlines c.deadlines by
    refine ⟨this.1, this.2, fun _ _ fires => ?_⟩
    rw [elapsed] at fires
    cases fires
  cases CallAggregate.decide_decided accepts.decided with
  | ignored _ same quiet =>
    rw [quiet] at persisted
    have unchanged : ledger.deadlines = c.deadlines := Except.ok.inj persisted
    rw [same, ← unchanged]
    exact ⟨mirror, .refl _⟩
  | applied _ same _ _ trace =>
    rw [firedSlots_of_quiet elapsed] at trace
    have started : Mirror c.batch.callId c.call.aggregate.deadlines ledger.deadlines none :=
      mirror
    obtain ⟨_, stores, mirrored, kept⟩ := started.effects trace
    cases stores.symm.trans persisted
    exact ⟨mirrored, kept⟩

private theorem books_of_elapsed {ledger : Ledger} {c} (accepts : ledger.Accepts c)
    (mirror : Mirror c.request.callId c.call.aggregate.deadlines ledger.deadlines none)
    (elapsed : elapsedDeadline c.request.command = some (kind, generation)) :
    c.Books ledger.deadlines := by
  obtain ⟨_, record, claimed, sameCall, sameKind, sameGeneration, found, isOpen⟩ :=
    deadlineClaim_eq_some accepts.claimMatches accepts.claimLive elapsed
  have slot := mirror.opened _ _ _ found isOpen nofun
  have isApplied := elapsed_applied elapsed slot accepts.decided
  cases CallAggregate.decide_decided accepts.decided with
  | ignored other => exact absurd isApplied other
  | applied _ _ _ _ trace =>
    rw [firedSlots_of_elapsed elapsed] at trace
    have fires : Mirror c.batch.callId
        (c.call.aggregate.deadlines.set kind
          ⟨(c.call.aggregate.deadlines.get kind).generation, none⟩)
        ledger.deadlines (some (kind, (c.call.aggregate.deadlines.get kind).generation)) :=
      mirror.fire kind
    obtain ⟨_, stores, mirrored, kept⟩ := fires.effects trace
    rw [show (c.call.aggregate.deadlines.get kind).generation = generation by rw [slot]]
      at mirrored kept
    cases stores.symm.trans accepts.persisted
    have still : c.persisted.get? (c.request.callId, kind, generation) = some record :=
      (kept.fired kind generation rfl).trans found
    have completed := accepts.completed
    rw [claimed] at completed
    simp only [completeDeadlineClaim, sameCall, sameKind, sameGeneration, bind_eq_ok,
      orFail_eq_ok, pure_eq_ok] at completed
    obtain ⟨_, same', written⟩ := completed
    cases same'.symm.trans still
    have finish : Persists c.request.callId none c.persisted c.deadlines := by
      rw [← written]
      refine .insert _ (fun keyed => keyed _ record still) nofun fun _ isOld => ?_
      cases isOld.symm.trans still
      exact isCompleted_of_isOpen isOpen
    refine ⟨?_, kept.weaken.trans finish, ?_⟩
    · rw [← written]
      exact mirrored.complete rfl
    · intro other _ fires
      cases fires.symm.trans elapsed
      refine ⟨⟨record, found, isOpen⟩, { record with state := .completed c.request.atTime }, ?_,
        rfl⟩
      rw [← written]
      exact get?_insert_self ..

/-- A commit keeps the mirror of its call. -/
theorem Mirror.commit {ledger : Ledger} {c} (accepts : ledger.Accepts c)
    (mirror : Mirror c.request.callId c.call.aggregate.deadlines ledger.deadlines none) :
    c.Books ledger.deadlines := by
  cases elapsed : elapsedDeadline c.request.command with
  | none => exact books_of_quiet accepts mirror elapsed
  | some => exact books_of_elapsed accepts mirror elapsed

private theorem persistEffects_of_rows {working : MemoryState} {ids batch effects rows}
    (stores : foldFallible (persistDeadline batch) working.deadlines effects = .ok rows) :
    ∃ result, working.persistEffects ids batch effects = .ok result := by
  unfold persistEffects
  generalize (0 : Nat) = ordinal
  induction effects generalizing working ordinal with
  | nil => exact ⟨_, rfl⟩
  | cons intent rest ih =>
    rw [foldFallible, bind_eq_ok] at stores
    obtain ⟨first, one, later⟩ := stores
    let record := batch.record (ids ordinal) ordinal intent
    let next : MemoryState :=
      { working with
        deadlines := first
        outbox := working.outbox.insert record.effectId record }
    have nextStores : foldFallible (persistDeadline batch) next.deadlines rest = .ok rows := later
    obtain ⟨result, done⟩ := ih nextStores (ordinal + 1)
    refine ⟨(result.1, record :: result.2), ?_⟩
    simp only [persistEffectsFrom, bind_eq_ok]
    exact ⟨first, one, result, done, rfl⟩

/-- The deadline rows against calls and commands. A deadline that a stored command reported is
completed, and no other command has reported it. -/
structure DeadlineBook (calls : Table CallId StoredCall) (rows : DeadlineRows)
    (commands : Table CommandId StoredCommand) : Prop where
  keyed : Keyed rows
  owned : ∀ key record, rows.get? key = some record → ∃ call, calls.get? key.1 = some call
  mirror : ∀ callId call, calls.get? callId = some call →
    Mirror callId call.aggregate.deadlines rows none
  fired : ∀ commandId command kind generation, commands.get? commandId = some command →
    elapsedDeadline command.command = some (kind, generation) →
    ∃ record, rows.get? (command.callId, kind, generation) = some record ∧
      DeadlineState.isCompleted record.state = true
  once : ∀ firstId secondId first second, commands.get? firstId = some first →
    commands.get? secondId = some second → first.callId = second.callId →
    (elapsedDeadline first.command).isSome →
    elapsedDeadline first.command = elapsedDeadline second.command → firstId = secondId

namespace DeadlineBook

variable {calls : Table CallId StoredCall} {rows : DeadlineRows}
  {commands : Table CommandId StoredCommand}

private theorem empty : DeadlineBook .empty .empty .empty where
  keyed := forall_empty
  owned := forall_empty
  mirror := forall_empty
  fired := by intro _ _ _ _ found; cases found
  once := by intro _ _ _ _ found; cases found

section

variable (book : DeadlineBook calls rows commands)
include book

private theorem rewriteCall {callId call next} (found : calls.get? callId = some call)
    (same : next.aggregate = call.aggregate) :
    DeadlineBook (calls.insert callId next) rows commands where
  keyed := book.keyed
  owned := fun key record stored => known_insert (book.owned key record stored)
  mirror := forall_insert book.mirror (same ▸ book.mirror callId call found)
  fired := book.fired
  once := book.once

private theorem rewriteRows {next} (same : SameFaces rows next) :
    DeadlineBook calls next commands where
  keyed := same.keyed book.keyed
  owned := by
    intro key record found
    obtain ⟨old, isOld, -⟩ := face_of (same _) found
    exact book.owned key old isOld
  mirror := fun callId call found => (book.mirror callId call found).of_faces fun _ _ => same _
  fired := by
    intro _ _ _ _ found elapsed
    obtain ⟨record, row, completed⟩ := book.fired _ _ _ _ found elapsed
    obtain ⟨current, isCurrent, faces⟩ := face_of (same _).symm row
    simp only [rowFace, Prod.mk.injEq] at faces
    exact ⟨current, isCurrent, by rw [faces.2.2.2, completed]⟩
  once := book.once

private theorem record (command : StoredCommand) (next : StoredCall) {nextRows}
    (mirror : Mirror command.callId next.aggregate.deadlines nextRows none)
    (persists : Persists command.callId none rows nextRows)
    (fired : ∀ kind generation, elapsedDeadline command.command = some (kind, generation) →
      (∃ record, rows.get? (command.callId, kind, generation) = some record ∧
        DeadlineState.isOpen record.state = true) ∧
      ∃ record, nextRows.get? (command.callId, kind, generation) = some record ∧
        DeadlineState.isCompleted record.state = true) :
    DeadlineBook (calls.insert command.callId next) nextRows
      (commands.insert command.commandId command) where
  keyed := persists.keyed book.keyed
  owned := by
    intro key record found
    rw [get?_insert]
    split_ifs with other
    · exact ⟨next, rfl⟩
    · rw [persists.others key other] at found
      exact book.owned key _ found
  mirror := by
    intro callId _ found
    rcases get?_insert_some found with ⟨same, rfl⟩ | ⟨other, found⟩
    · rw [same]
      exact mirror
    · exact (book.mirror _ _ found).of_faces fun _ _ =>
        congrArg _ (persists.others _ other)
  fired := by
    intro commandId stored kind generation found elapsed
    rcases get?_insert_some found with ⟨-, rfl⟩ | ⟨-, found⟩
    · exact (fired _ _ elapsed).2
    · obtain ⟨record, row, completed⟩ := book.fired _ _ _ _ found elapsed
      exact ⟨record, persists.completed _ _ row completed, completed⟩
  once := by
    -- a command stored earlier has completed the row that the new one finds open
    have clash : ∀ commandId stored, commands.get? commandId = some stored →
        stored.callId = command.callId → (elapsedDeadline stored.command).isSome →
        elapsedDeadline stored.command ≠ elapsedDeadline command.command := by
      intro commandId stored found sameCall reports same
      obtain ⟨⟨kind, generation⟩, elapsed⟩ := Option.isSome_iff_exists.mp reports
      obtain ⟨_, row, completed⟩ := book.fired _ _ _ _ found elapsed
      obtain ⟨⟨record, isRow, isOpen⟩, -⟩ := fired _ _ (same ▸ elapsed)
      rw [sameCall, isRow] at row
      cases row
      rw [isCompleted_of_isOpen isOpen] at completed
      cases completed
    intro _ _ _ _ one two sameCall reports same
    rw [get?_insert] at one two
    split at one <;> split at two
    · rename_i isFirst isSecond
      rw [isFirst, isSecond]
    · cases one
      exact absurd same.symm (clash _ _ two sameCall.symm (same ▸ reports))
    · cases two
      exact absurd same (clash _ _ one sameCall reports)
    · exact book.once _ _ _ _ one two sameCall reports same

end

variable {ledger : Ledger}

private theorem unarmed_of_pending (valid : a.validate = .ok ()) (pending : a.state = .pending)
    (kind : DeadlineKind) : (a.deadlines.get kind).dueAt = none := by
  rw [CallAggregate.validate] at valid
  cases kind <;> simp_all [deadlineKinds, deadlineAllowedIn]

private theorem mirror_new (book : DeadlineBook calls rows commands) (valid : a.validate = .ok ())
    (pending : a.state = .pending) (newCall : calls.get? a.id = none) :
    Mirror a.id a.deadlines rows none := by
  have absent : ∀ kind generation record, rows.get? (a.id, kind, generation) ≠ some record := by
    intro kind generation record found
    obtain ⟨_, known⟩ := book.owned _ _ found
    cases newCall.symm.trans known
  refine ⟨fun kind _ due => ?_, fun kind generation record found => ?_,
    fun kind generation record found => ?_, nofun⟩
  · rw [unarmed_of_pending valid pending] at due
    cases due
  all_goals exact absurd found (absent kind generation record)

variable (book : DeadlineBook ledger.calls ledger.deadlines ledger.commands)
include book

private theorem created {c} (admits : ledger.Admits c) :
    DeadlineBook (ledger.create c).calls (ledger.create c).deadlines
      (ledger.create c).commands := by
  have mirror : Mirror c.batch.callId c.request.initial.deadlines ledger.deadlines none :=
    book.mirror_new admits.valid admits.pending admits.newCall
  have quiet : elapsedDeadline c.request.command = none := by
    cases elapsed : elapsedDeadline c.request.command with
    | none => rfl
    | some =>
      have armed := armed_of_applied elapsed admits.decided admits.applied
      rw [unarmed_of_pending admits.valid admits.pending] at armed
      cases armed
  obtain ⟨other, -, -⟩ | ⟨-, -, -, -, trace⟩ := CallAggregate.decide_decided admits.decided
  · exact absurd admits.applied other
  rw [firedSlots_of_quiet quiet] at trace
  obtain ⟨stored, stores, mirrored, kept⟩ := mirror.effects trace
  cases stores.symm.trans admits.persisted
  refine book.record c.command c.stored mirrored kept ?_
  intro _ _ elapsed
  cases quiet.symm.trans elapsed

private theorem decided {c} (accepts : ledger.Accepts c) {next}
    (shows : next.aggregate = c.decision.aggregate) :
    DeadlineBook (ledger.calls.insert c.request.callId next) (ledger.commit c).deadlines
      (ledger.commit c).commands := by
  have books := (book.mirror _ _ accepts.found).commit accepts
  refine book.record c.command _ ?_ books.persists books.fired
  rw [shows]
  exact books.mirror

theorem step {permits after} (step : LedgerStep permits ledger after) :
    DeadlineBook after.calls after.deadlines after.commands := by
  cases step with
  | created c _ admits => exact book.created admits
  | decided c _ accepts | promoted _ _ _ _ _ accepts => exact book.decided accepts rfl
  | bound callId call _ _ acts found => exact book.rewriteCall found rfl
  | released callId call worker atTime _ acts found =>
    exact book.rewriteCall found rfl
  | restarted worker atTime callId call _ found =>
    have expired := book.rewriteRows (sameFaces_expired _ callId atTime)
    exact expired.rewriteCall found rfl
  | deadlineClaimed _ _ worker _ _ _ found previous =>
    exact book.rewriteRows (sameFaces_claimed found previous)
  | _ => exact book

end DeadlineBook

theorem DeadlineBook.of_reachable [Libraries] {state} (reachable : Reachable state) :
    DeadlineBook state.calls state.deadlines state.commands :=
  reachable.invariant (fun ledger => DeadlineBook ledger.calls ledger.deadlines ledger.commands)
    empty fun _ _ _ book step => book.step step

/-- The slots of the calls against the rows. A row belongs to the call and the kind it names. -/
structure DeadlineMirror (calls : Table CallId StoredCall) (rows : DeadlineRows) : Prop where
  armed_iff : ∀ callId call kind generation dueAt, calls.get? callId = some call →
    (call.aggregate.deadlines.get kind = ⟨generation, some dueAt⟩ ↔
      ∃ record, rows.get? (callId, kind, generation) = some record ∧
        DeadlineState.isOpen record.state = true ∧ record.dueAt = dueAt ∧
        ∀ key other, rows.get? key = some other → other.callId = callId → other.kind = kind →
          key ≠ (callId, kind, generation) →
          other.generation < generation ∧ DeadlineState.isOpen other.state = false)
  unarmed : ∀ callId call kind, calls.get? callId = some call →
    (call.aggregate.deadlines.get kind).dueAt = none →
    ∀ key record, rows.get? key = some record → record.callId = callId → record.kind = kind →
      DeadlineState.isOpen record.state = false
  keyed : Keyed rows

/-- Effects decided for a stored call, or for a call that is created, find the rows they need, in
whatever state the transaction has reached by then as long as it has not touched the rows. -/
structure EffectsPersist (state : MemoryState) : Prop where
  decided : ∀ callId call command decision, state.calls.get? callId = some call →
    call.aggregate.decide command = .ok decision →
    ∀ (working : MemoryState) ids batch, working.deadlines = state.deadlines →
      EffectBatch.callId batch = callId →
      ∃ result, working.persistEffects ids batch decision.effects = .ok result
  created : ∀ (initial : CallAggregate) command decision, initial.validate = .ok () →
    initial.state = .pending → state.calls.get? initial.id = none →
    initial.decide command = .ok decision →
    ∀ (working : MemoryState) ids batch, working.deadlines = state.deadlines →
      EffectBatch.callId batch = initial.id →
      ∃ result, working.persistEffects ids batch decision.effects = .ok result

/-- A deadline that a command reported as elapsed is completed, and reported only once. -/
structure FiresOnce (state : MemoryState) : Prop where
  completed : ∀ commandId command kind generation, state.commands.get? commandId = some command →
    elapsedDeadline command.command = some (kind, generation) →
    ∃ record, state.deadlines.get? (command.callId, kind, generation) = some record ∧
      DeadlineState.isCompleted record.state = true
  once : ∀ firstId secondId first second, state.commands.get? firstId = some first →
    state.commands.get? secondId = some second → first.callId = second.callId →
    (elapsedDeadline first.command).isSome →
    elapsedDeadline first.command = elapsedDeadline second.command → firstId = secondId

/-- A report of a deadline under a live claim of it is applied when it is decided. -/
def LiveClaimsApply (state : MemoryState) : Prop :=
  ∀ (request : CommandCommit) call decision, state.calls.get? request.callId = some call →
    (elapsedDeadline request.command).isSome → validateCommandDeadlineClaim request = .ok () →
    validateDeadlineClaim state.deadlines request.deadlineClaim request.atTime = .ok () →
    call.aggregate.decide request.command = .ok decision → decision.disposition = .applied

namespace DeadlineBook

variable {state : MemoryState}

private theorem deadlineMirror {calls rows commands} (book : DeadlineBook calls rows commands) :
    DeadlineMirror calls rows where
  armed_iff := by
    intro callId call kind generation _ found
    have mirror := book.mirror _ _ found
    constructor
    · intro slot
      obtain ⟨record, row, isOpen, due⟩ := mirror.armed _ _ (by rw [slot])
      rw [slot] at row
      refine ⟨record, row, isOpen, due, ?_⟩
      intro key other isOther sameCall sameKind different
      have isKey := book.keyed key _ isOther
      rw [sameCall, sameKind] at isKey
      rw [← isKey] at isOther different
      have earlier := mirror.below _ other.generation _ isOther
      rw [slot] at earlier
      have older : other.generation ≠ generation := fun same => different (by rw [same])
      refine ⟨lt_of_le_of_ne earlier older, ?_⟩
      cases otherOpen : DeadlineState.isOpen other.state with
      | false => rfl
      | true =>
        have clash := mirror.opened _ other.generation _ isOther otherOpen nofun
        rw [slot] at clash
        exact absurd (congrArg DeadlineSlot.generation clash).symm older
    · rintro ⟨record, row, isOpen, due, -⟩
      rw [mirror.opened _ _ _ row isOpen nofun, due]
  unarmed := by
    intro callId call kind found idle key record row sameCall sameKind
    have isKey := book.keyed key _ row
    rw [sameCall, sameKind] at isKey
    rw [← isKey] at row
    cases isOpen : DeadlineState.isOpen record.state with
    | false => rfl
    | true =>
      rw [(book.mirror _ _ found).opened _ _ _ row isOpen nofun] at idle
      cases idle
  keyed := book.keyed

private theorem persistEffects_ok {callId decision} {working : MemoryState} {ids}
    {batch} (mirror : Mirror callId a.deadlines working.deadlines none)
    (decided : a.decide command = .ok decision) (sameCall : batch.callId = callId) :
    ∃ result, working.persistEffects ids batch decision.effects = .ok result := by
  subst sameCall
  suffices ∃ rows, foldFallible (persistDeadline batch) working.deadlines decision.effects =
      .ok rows by
    obtain ⟨rows, stores⟩ := this
    exact persistEffects_of_rows stores
  cases CallAggregate.decide_decided decided with
  | ignored _ same quiet =>
    rw [quiet]
    exact ⟨_, rfl⟩
  | applied _ same _ _ trace =>
    cases elapsed : elapsedDeadline command with
    | none =>
      rw [firedSlots_of_quiet elapsed] at trace
      obtain ⟨rows, stores, -⟩ := mirror.effects trace
      exact ⟨rows, stores⟩
    | some deadline =>
      rw [firedSlots_of_elapsed elapsed] at trace
      obtain ⟨rows, stores, -⟩ := (mirror.fire deadline.1).effects trace
      exact ⟨rows, stores⟩

private theorem effectsPersist (book : DeadlineBook state.calls state.deadlines state.commands) :
    EffectsPersist state where
  decided := by
    intro _ _ command decision found decided working ids batch sameRows sameCall
    exact persistEffects_ok (sameRows ▸ book.mirror _ _ found) decided sameCall
  created := by
    intro _ command decision valid pending newCall decided working ids batch sameRows sameCall
    exact persistEffects_ok (sameRows ▸ book.mirror_new valid pending newCall) decided sameCall

private theorem liveClaimsApply (book : DeadlineBook state.calls state.deadlines state.commands) :
    LiveClaimsApply state := by
  intro _ _ _ found reports claimMatches claimLive decided
  obtain ⟨⟨_, _⟩, elapsed⟩ := Option.isSome_iff_exists.mp reports
  obtain ⟨-, _, -, -, -, -, row, isOpen⟩ :=
    deadlineClaim_eq_some claimMatches claimLive elapsed
  have slot := (book.mirror _ _ found).opened _ _ _ row isOpen nofun
  exact elapsed_applied elapsed slot decided

end DeadlineBook

/-- The deadline rows mirror the slots in every reachable state, with what follows from it. -/
theorem deadline_mirror [Libraries] {state : MemoryState} (reachable : Reachable state) :
    DeadlineMirror state.calls state.deadlines ∧ FiresOnce state ∧ EffectsPersist state ∧
      LiveClaimsApply state := by
  have book := DeadlineBook.of_reachable reachable
  exact ⟨book.deadlineMirror, ⟨book.fired, book.once⟩, book.effectsPersist, book.liveClaimsApply⟩

section

attribute [local instance] Sample.libraries

theorem deadline_mirror_timedOutCall :
    Reachable (.after Sample.timedOutCall) ∧
      DeadlineMirror (MemoryState.after Sample.timedOutCall).calls
        (MemoryState.after Sample.timedOutCall).deadlines ∧
      (MemoryState.after Sample.timedOutCall).deadlines.values.map
        (fun record => (record.kind, record.generation, record.state)) =
          [(.setup, 1, .completed 10), (.ending, 1, .pending)] := by
  have reachable : Reachable (.after Sample.timedOutCall) :=
    ⟨Sample.timedOutCall, after_run (by decide +kernel)⟩
  exact ⟨reachable, (deadline_mirror reachable).1, by decide +kernel⟩

end

end Bridgefu.Persistence
