/- digest: The command log of a call: replay, contiguous versions, compare and swap, retained results. -/

import Bridgefu.Lib.Journal
import Bridgefu.Persistence.Execution
import Bridgefu.Persistence.Simulation

set_option autoImplicit false

namespace Bridgefu.Persistence

open Lib CallEngine CallService MemoryState Table

variable {commands : Table CommandId StoredCommand} {admitted : CallAggregate → Prop}
  {ledger : Ledger} {state : MemoryState}

/-- The aggregate that a stored command leads to. -/
def decideNext (aggregate : CallAggregate) (command : StoredCommand) :
    Except DomainError CallAggregate :=
  CallDecision.aggregate <$> aggregate.decide command.command

def appliedCommands (commands : Table CommandId StoredCommand) (callId : CallId) :
    List StoredCommand :=
  (commands.values.filter fun command =>
    decide (command.callId = callId) && decide (command.disposition = .applied)).insertionSort
      fun first second => first.resultVersion ≤ second.resultVersion

/-- The log replays to the aggregate and holds exactly the Applied commands of the call. -/
structure History (commands : Table CommandId StoredCommand) (callId : CallId)
    (initial : CallAggregate) (log : List StoredCommand) (aggregate : CallAggregate) : Prop where
  journal : Journal decideNext StoredCommand.resultVersion CallAggregate.version initial log
    aggregate
  complete : ∀ command, command ∈ log ↔ commands.get? command.commandId = some command ∧
    command.callId = callId ∧ command.disposition = .applied

/-- Every call has a history from an admitted aggregate, every command a call, a result and a
version next to the one it observed. -/
structure EventLog (admitted : CallAggregate → Prop) (calls : Table CallId StoredCall)
    (commands : Table CommandId StoredCommand) (results : Table CommandId CommandCommitView) :
    Prop where
  keyed : ∀ commandId command, commands.get? commandId = some command →
    command.commandId = commandId
  owned : ∀ commandId command, commands.get? commandId = some command →
    ∃ call, calls.get? command.callId = some call ∧
      call.aggregate.tenantId = command.tenantId
  observed : ∀ commandId command, commands.get? commandId = some command →
    command.disposition = .applied → command.resultVersion = command.observedVersion + 1
  stamped : ∀ commandId command, commands.get? commandId = some command →
    command.command.atTime = command.recordedAt
  answered : ∀ commandId command, commands.get? commandId = some command →
    ∃ view, results.get? commandId = some view ∧ view.command = command
  shown : ∀ commandId view, results.get? commandId = some view →
    commands.get? commandId = some view.command
  history : ∀ callId call, calls.get? callId = some call →
    ∃ initial log, admitted initial ∧ initial.id = callId ∧ initial.version = 0 ∧
      History commands callId initial log call.aggregate

namespace History

variable {callId : CallId} {initial : CallAggregate} {log : List StoredCommand}
  {aggregate : CallAggregate}

variable (history : History commands callId initial log aggregate)
include history

private theorem other (command : StoredCommand) (absent : commands.get? command.commandId = none)
    (foreign : command.callId ≠ callId ∨ command.disposition ≠ .applied) :
    History (commands.insert command.commandId command) callId initial log aggregate where
  journal := history.journal
  complete := by
    intro entry
    rw [history.complete, get?_insert]
    by_cases same : entry.commandId = command.commandId
    · rw [if_pos same, same, absent]
      constructor
      · rintro ⟨⟨⟩, -⟩
      · rintro ⟨equal, sameCall, applied⟩
        cases equal
        rcases foreign with other | other
        · exact absurd sameCall other
        · exact absurd applied other
    · rw [if_neg same]

private theorem extend (command : StoredCommand) {next}
    (absent : commands.get? command.commandId = none)
    (sameCall : command.callId = callId) (applied : command.disposition = .applied)
    (decided : decideNext aggregate command = .ok next)
    (version : next.version = aggregate.version + 1)
    (numbered : command.resultVersion = next.version) :
    History (commands.insert command.commandId command) callId initial (log ++ [command]) next where
  journal := history.journal.snoc decided (numbered.trans version) version
  complete := by
    intro entry
    rw [List.mem_append, List.mem_singleton, history.complete, get?_insert]
    by_cases same : entry.commandId = command.commandId
    · rw [if_pos same, same, absent]
      constructor
      · rintro (⟨⟨⟩, -⟩ | rfl)
        exact ⟨rfl, sameCall, applied⟩
      · rintro ⟨equal, -⟩
        exact .inr (Option.some.inj equal).symm
    · rw [if_neg same]
      constructor
      · rintro (known | rfl)
        · exact known
        · exact absurd rfl same
      · exact .inl

private theorem appliedCommands_eq
    (keyed : ∀ commandId command, commands.get? commandId = some command →
      command.commandId = commandId) : appliedCommands commands callId = log := by
  have distinct : commands.values.Nodup := commands.nodup_values StoredCommand.commandId keyed
  refine history.journal.insertionSort_eq (distinct.filter _) fun _ => ?_
  rw [history.complete, List.mem_filter, mem_values]
  simp only [Bool.and_eq_true, decide_eq_true_eq]
  constructor
  · rintro ⟨⟨commandId, found⟩, sameCall, applied⟩
    exact ⟨keyed _ _ found ▸ found, sameCall, applied⟩
  · rintro ⟨found, sameCall, applied⟩
    exact ⟨⟨_, found⟩, sameCall, applied⟩

end History

namespace EventLog

variable {wider : CallAggregate → Prop} {calls : Table CallId StoredCall}
  {results : Table CommandId CommandCommitView}

private theorem empty : EventLog admitted .empty .empty .empty where
  keyed := forall_empty
  owned := forall_empty
  observed := forall_empty
  stamped := forall_empty
  answered := forall_empty
  shown := forall_empty
  history := forall_empty

section

variable (log : EventLog admitted calls commands results)
include log

private theorem mono (more : ∀ initial, admitted initial → wider initial) :
    EventLog wider calls commands results := by
  refine { log with history := fun _ _ found => ?_ }
  obtain ⟨initial, entries, known, rest⟩ := log.history _ _ found
  exact ⟨initial, entries, more _ known, rest⟩

private theorem rewriteCall {callId call next} (found : calls.get? callId = some call)
    (same : next.aggregate = call.aggregate) :
    EventLog admitted (calls.insert callId next) commands results :=
  { log with
    owned := fun commandId command stored =>
      exists_insert (log.owned commandId command stored) fun _ known tenant => by
        cases found.symm.trans known
        rw [same, tenant]
    history := forall_insert log.history (same ▸ log.history callId call found) }

private theorem record (command : StoredCommand) (next : StoredCall) (view : CommandCommitView)
    {initial entries} (absent : commands.get? command.commandId = none)
    (shown : view.command = command) (stamped : command.command.atTime = command.recordedAt)
    (tenant : next.aggregate.tenantId = command.tenantId)
    (sameTenant : ∀ call, calls.get? command.callId = some call →
      next.aggregate.tenantId = call.aggregate.tenantId)
    (observed : command.disposition = .applied →
      command.resultVersion = command.observedVersion + 1) (known : admitted initial)
    (sameId : initial.id = command.callId) (fresh : initial.version = 0)
    (history : History (commands.insert command.commandId command) command.callId initial entries
      next.aggregate) : EventLog admitted (calls.insert command.callId next)
      (commands.insert command.commandId command) (results.insert command.commandId view) where
  keyed := forall_insert log.keyed rfl
  owned := forall_insert (fun commandId stored found =>
    exists_insert (log.owned commandId stored found) fun _ row owns => by
      rw [sameTenant _ row, owns]) ⟨next, get?_insert_self .., tenant⟩
  observed := forall_insert log.observed observed
  stamped := forall_insert log.stamped stamped
  answered := by
    intro commandId stored found
    rcases get?_insert_some found with ⟨rfl, rfl⟩ | ⟨different, found⟩
    · exact ⟨view, get?_insert_self .., shown⟩
    · obtain ⟨result, row, shows⟩ := log.answered _ _ found
      exact ⟨result, (get?_insert_ne _ _ different).trans row, shows⟩
  shown := by
    intro commandId result found
    rcases get?_insert_some found with ⟨rfl, rfl⟩ | ⟨different, found⟩
    · rw [shown, get?_insert_self]
    · rw [get?_insert_ne _ _ different]
      exact log.shown _ _ found
  history := by
    intro _ _ found
    rcases get?_insert_some found with ⟨same, rfl⟩ | ⟨different, found⟩
    · exact same ▸ ⟨initial, entries, known, sameId, fresh, history⟩
    · obtain ⟨first, others, admits, isFirst, unversioned, kept⟩ := log.history _ _ found
      exact ⟨first, others, admits, isFirst, unversioned,
        kept.other _ absent (.inl fun same => different same.symm)⟩

end

section

variable (log : EventLog admitted ledger.calls ledger.commands ledger.commandResults)
include log

private theorem created {c} (initial : admitted c.request.initial) (admits : ledger.Admits c) :
    EventLog admitted (ledger.create c).calls (ledger.create c).commands
      (ledger.create c).commandResults := by
  obtain ⟨other, -, -⟩ | ⟨-, same, version, -, -⟩ := CallAggregate.decide_decided admits.decided
  · exact absurd admits.applied other
  have none : History ledger.commands c.request.initial.id c.request.initial [] c.request.initial := by
    refine ⟨.nil _, fun command => ⟨nofun, ?_⟩⟩
    rintro ⟨stored, sameCall, -⟩
    obtain ⟨call, found, -⟩ := log.owned _ _ stored
    rw [sameCall, admits.newCall] at found
    cases found
  have decides : decideNext c.request.initial c.command = .ok c.decision.aggregate := by
    rw [decideNext, map_eq_ok]
    exact ⟨c.decision, admits.decided, rfl⟩
  have first := none.extend c.command admits.newCommand rfl admits.applied decides version rfl
  refine log.record c.command c.stored _ admits.newCommand rfl admits.timestamp same.tenantId ?_
    (fun _ => version) initial rfl admits.version first
  intro call found
  cases found.symm.trans admits.newCall

private theorem decided {c} (accepts : ledger.Accepts c) {next}
    (shows : next.aggregate = c.decision.aggregate) :
    EventLog admitted (ledger.calls.insert c.request.callId next) (ledger.commit c).commands
      (ledger.commandResults.insert c.request.commandId ⟨c.command, next, c.records⟩) := by
  obtain ⟨aggregate, _, _⟩ := next
  cases shows
  obtain ⟨initial, entries, known, sameId, fresh, history⟩ := log.history _ _ accepts.found
  suffices written : ∃ entries, c.decision.aggregate.tenantId = c.call.aggregate.tenantId ∧
      (c.decision.disposition = .applied →
        c.decision.aggregate.version = c.call.aggregate.version + 1) ∧
      History (ledger.commands.insert c.request.commandId c.command) c.request.callId initial
        entries c.decision.aggregate by
    obtain ⟨entries, sameTenant, version, written⟩ := written
    refine log.record c.command _ _ accepts.newCommand rfl accepts.timestamp
      (sameTenant.trans accepts.tenant) (fun call found => ?_) version known sameId fresh written
    cases found.symm.trans accepts.found
    exact sameTenant
  cases CallAggregate.decide_decided accepts.decided with
  | ignored other same =>
    rw [same]
    exact ⟨entries, rfl, fun applied => absurd applied other,
      history.other c.command accepts.newCommand (.inr other)⟩
  | applied disposition same version =>
    refine ⟨_, same.tenantId, fun _ => version,
      history.extend c.command accepts.newCommand rfl disposition ?_ version rfl⟩
    rw [decideNext, map_eq_ok]
    exact ⟨c.decision, accepts.decided, rfl⟩

theorem step {after permits} (more : ∀ initial, permits.creates initial → admitted initial)
    (step : LedgerStep permits ledger after) :
    EventLog admitted after.calls after.commands after.commandResults := by
  cases step with
  | created c initial admits => exact log.created (more _ initial) admits
  | decided c _ accepts | promoted _ _ _ _ _ accepts => exact log.decided accepts rfl
  | bound callId call _ _ acts found => exact log.rewriteCall found rfl
  | released callId call worker atTime clock acts found
  | restarted worker atTime callId call _ found =>
    exact log.rewriteCall found rfl
  | _ => exact log

end

theorem of_run [Libraries] {operations state} (run : Run .initial operations state) :
    EventLog (fun initial => ∃ operation ∈ operations, operation.creates initial) state.calls
      state.commands state.commandResults := by
  induction run with
  | nil => exact empty
  | @snoc middle _ operations operation run executes ih =>
    have before : EventLog (fun initial => ∃ creator ∈ operations ++ [operation],
        creator.creates initial) middle.calls middle.commands middle.commandResults := by
      refine ih.mono fun initial known => ?_
      obtain ⟨creator, member, creates⟩ := known
      exact ⟨creator, List.mem_append_left [operation] member, creates⟩
    refine executes.path.keeps (fun ledger => EventLog _ ledger.calls ledger.commands
      ledger.commandResults) (fun ledger _ kept one => ?_) before
    refine kept.step (fun initial creates => ?_) one
    exact ⟨operation, List.mem_append_right _ (List.mem_singleton_self _), creates⟩

end EventLog

private theorem LedgerStep.keeps_result {permits admitted ledger after}
    {commandId view} (log : EventLog admitted ledger.calls ledger.commands ledger.commandResults)
    (shown : ledger.commandResults.get? commandId = some view)
    (step : LedgerStep permits ledger after) : after.commandResults.get? commandId = some view := by
  have known := log.shown _ _ shown
  cases step with
  | created c _ admits | decided _ _ admits | promoted _ _ _ _ _ admits =>
    exact (get?_insert_ne _ _ (ne_of_absent known admits.newCommand)).trans shown
  | _ => exact shown

private theorem LedgerStep.keeps_service {permits ledger after commandId row}
    (found : ledger.serviceCommandResults.get? commandId = some row)
    (step : LedgerStep permits ledger after) :
    after.serviceCommandResults.get? commandId = some row := by
  cases step with
  | serviceRecorded _ _ newResult =>
    exact get?_insert_fresh found newResult
  | _ => exact found

/-- Command identifiers are used for one kind of command only, and the result of a service command
shows the result of its core command. -/
structure Retained (ledger : Ledger) : Prop where
  ownIds : ∀ commandId command, ledger.commands.get? commandId = some command →
    ledger.OwnId commandId
  services : ∀ commandId row, ledger.serviceCommandResults.get? commandId = some row →
    ledger.commandResults.get? commandId = some row.view.command

namespace Retained

variable {permits : Permits} {after : Ledger}

private theorem ownIds_step (retained : Retained ledger) (step : LedgerStep permits ledger after)
    (commandId : CommandId) (command : StoredCommand)
    (found : after.commands.get? commandId = some command) : after.OwnId commandId := by
  cases step with
  | created c _ accepts | decided c _ accepts | promoted c _ _ _ _ accepts =>
    have own := forall_insert retained.ownIds accepts.ownId _ _ found
    exact ⟨own.control, own.outbound⟩
  | controlRecorded result enqueues =>
    have own := retained.ownIds _ _ found
    have other := ne_of_absent found enqueues.newCommand
    exact ⟨(get?_insert_ne _ _ other).trans own.control, own.outbound⟩
  | outboundRecorded _ result newCommand =>
    have own := retained.ownIds _ _ found
    have other := ne_of_absent found newCommand
    exact ⟨own.control, (get?_insert_ne _ _ other).trans own.outbound⟩
  | _ =>
    have own := retained.ownIds _ _ found
    exact ⟨own.control, own.outbound⟩

theorem step (log : EventLog admitted ledger.calls ledger.commands ledger.commandResults)
    (retained : Retained ledger) (step : LedgerStep permits ledger after) : Retained after where
  ownIds := retained.ownIds_step step
  services := by
    intro commandId row found
    by_cases known : ledger.serviceCommandResults.get? commandId = some row
    · exact step.keeps_result log (retained.services _ row known)
    · cases step with
      | serviceRecorded _ _ _ shown =>
        have placed := found
        rcases get?_insert_some placed with ⟨same, rfl⟩ | ⟨-, placed⟩
        · exact same ▸ shown
        · exact absurd placed known
      | _ => exact absurd found known

private theorem initial : Retained MemoryState.initial.ledger where
  ownIds := forall_empty
  services := forall_empty

theorem of_reachable [Libraries] {state} (reachable : Reachable state) :
    EventLog (fun _ => True) state.calls state.commands state.commandResults ∧
      Retained state.ledger := by
  refine reachable.invariant (fun ledger => EventLog (fun _ => True) ledger.calls ledger.commands
    ledger.commandResults ∧ Retained ledger) ⟨.empty, initial⟩ ?_
  rintro _ _ _ ⟨log, retained⟩ one
  exact ⟨log.step (fun _ _ => trivial) one, retained.step log one⟩

end Retained

def CommandCommit.SameContents (request : CommandCommit) (existing : StoredCommand) : Prop :=
  existing.tenantId = request.tenantId ∧ existing.callId = request.callId ∧
    existing.observedVersion = request.expectedVersion ∧ existing.command = request.command ∧
    existing.worker = request.worker ∧ existing.attachments = request.attachments ∧
    existing.deadlineClaim = request.deadlineClaim ∧ existing.recordedAt = request.atTime

instance (request : CommandCommit) (existing : StoredCommand) :
    Decidable (CommandCommit.SameContents request existing) :=
  inferInstanceAs (Decidable (_ ∧ _))

namespace MemoryState

variable {ids : EffectSupply}

variable {request : CommandCommit} {existing : StoredCommand}

private theorem commitCommandInState_identical
    (log : EventLog (fun _ => True) state.calls state.commands state.commandResults)
    (retained : Retained state.ledger) {call}
    (stored : state.commands.get? request.commandId = some existing)
    (same : CommandCommit.SameContents request existing)
    (found : state.calls.get? request.callId = some call)
    (assigned : call.assignment.lease = request.worker)
    (live : state.ensureWorker request.worker true request.atTime = .ok ()) :
    ∃ view, state.commandResults.get? request.commandId = some view ∧ view.command = existing ∧
      commitCommandInState ids state request = .ok (state, .replayed view) := by
  obtain ⟨view, shown, shows⟩ := log.answered request.commandId _ stored
  refine ⟨view, shown, shows, ?_⟩
  obtain ⟨tenant, sameCall, version, command, worker, attachments, claim, recordedAt⟩ := same
  have stamped := log.stamped request.commandId _ stored
  obtain ⟨_, owns, ownerTenant⟩ := log.owned request.commandId _ stored
  rw [sameCall, found] at owns
  cases owns
  have ownId := retained.ownIds request.commandId _ stored
  have control : state.controlCommands.get? request.commandId = none := ownId.control
  have outbound : state.outboundBindingResults.get? request.commandId = none := ownId.outbound
  have key := log.keyed request.commandId _ stored
  simp only [commitCommandInState, bind_eq_ok, exists_unit, validateCommandTimestamp,
    commandIdConflictsWithServiceNamespace, stored]
  refine ⟨by rw [← command, ← recordedAt]; simpa using stamped,
    by simp [control, outbound], live, call, ?_, by simpa using assigned, ?_, view,
    ?_, rfl⟩
  · rw [tenantCall, orFail_eq_ok, Option.filter_eq_some_iff]
    exact ⟨found, by simpa using ownerTenant.trans tenant⟩
  · simp [tenant, sameCall, version, command, worker, attachments, claim, recordedAt]
  · rw [commandView, orFail_eq_ok, Option.filter_eq_some_iff, key]
    exact ⟨shown, by simpa using shows⟩

private theorem commitCommandInState_different (retained : Retained state.ledger) {call}
    (stored : state.commands.get? request.commandId = some existing)
    (different : ¬ CommandCommit.SameContents request existing)
    (stamped : request.command.atTime = request.atTime)
    (found : state.tenantCall request.tenantId request.callId = .ok call)
    (assigned : call.assignment.lease = request.worker)
    (live : state.ensureWorker request.worker true request.atTime = .ok ()) :
    commitCommandInState ids state request = .error .commandConflict := by
  have ownId := retained.ownIds request.commandId _ stored
  have control : state.controlCommands.get? request.commandId = none := ownId.control
  have outbound : state.outboundBindingResults.get? request.commandId = none := ownId.outbound
  simp only [commitCommandInState, validateCommandTimestamp, bind_eq_error, exists_unit,
    commandIdConflictsWithServiceNamespace, stored, live, found, reject_eq_error]
  refine .inr ⟨by simpa using stamped, .inr ⟨by simp [control, outbound],
    .inr ⟨trivial, .inr ⟨call, rfl, .inr ⟨by simpa using assigned, .inl ⟨?_, trivial⟩⟩⟩⟩⟩⟩
  unfold CommandCommit.SameContents at different
  grind

private theorem commitCommandInState_known {result}
    (stored : state.commands.get? request.commandId = some existing)
    (done : commitCommandInState ids state request = .ok result) :
    CommandCommit.SameContents request existing ∧ ∃ view, result = (state, .replayed view) ∧
      state.commandResults.get? existing.commandId = some view := by
  simp only [commitCommandInState, bind_eq_ok, exists_unit, stored, pure_eq_ok, reject_eq_ok,
    not_or, not_not] at done
  obtain ⟨-, -, -, _, -, -, same, view, shown, rfl⟩ := done
  rw [commandView, orFail_eq_ok, Option.filter_eq_some_iff] at shown
  exact ⟨same, view, rfl, shown.1⟩

private theorem commitCommandInState_fenced (retained : Retained state.ledger)
    (stored : state.commands.get? request.commandId = some existing)
    (answered : (∃ result, commitCommandInState ids state request = .ok result) ∨
      commitCommandInState ids state request = .error .commandConflict) :
    state.ensureWorker request.worker true request.atTime = .ok () ∧
      ∃ call, state.tenantCall request.tenantId request.callId = .ok call ∧
        call.assignment.lease = request.worker := by
  rcases answered with ⟨result, done⟩ | refused
  · simp only [commitCommandInState, bind_eq_ok, exists_unit, stored, reject_eq_ok,
      not_not] at done
    obtain ⟨-, -, live, call, found, assigned, -⟩ := done
    exact ⟨live, call, found, assigned⟩
  · have ownId := retained.ownIds request.commandId _ stored
    have control : state.controlCommands.get? request.commandId = none := ownId.control
    have outbound : state.outboundBindingResults.get? request.commandId = none := ownId.outbound
    -- the conflict comes from the comparison, which follows the other checks
    have passed : ∃ worker, (state.workers.get? request.worker.workerId = some worker ∧
        worker.lease = request.worker) ∧
          state.authoritativeTime request.atTime < worker.leaseExpiresAt ∧
      ∃ call, (state.calls.get? request.callId = some call ∧
        call.aggregate.tenantId = request.tenantId) ∧ call.assignment.lease = request.worker := by
      simp [commitCommandInState, validateCommandTimestamp, bind_eq_error,
        commandIdConflictsWithServiceNamespace, stored, control, outbound, ensureWorker,
        leasedWorker, tenantCall, reject_eq_error, orFail_eq_error] at refused
      obtain ⟨-, worker, known, alive, call, found, assigned, -⟩ := refused
      exact ⟨worker, known, alive, call, found, assigned⟩
    obtain ⟨worker, ⟨known, leased⟩, alive, call, ⟨found, tenant⟩, assigned⟩ := passed
    refine ⟨?_, call, ?_, assigned⟩
    · rw [ensureWorker, bind_eq_ok]
      refine ⟨worker, ?_, by simp [reject, alive]⟩
      rw [leasedWorker, orFail_eq_ok, Option.filter_eq_some_iff]
      exact ⟨known, decide_eq_true leased⟩
    · rw [tenantCall, orFail_eq_ok, Option.filter_eq_some_iff]
      exact ⟨found, decide_eq_true tenant⟩

private theorem commitServiceCommandInState_known {request} {allowed : Bool} {existing replay}
    (stored : state.serviceCommandResults.get? request.command.commandId = some existing)
    (guarded : request.mediaActivity.isSome → allowed)
    (unclaimed : state.replayServiceOperation request = .ok (replay, none)) :
    commitServiceCommandInState ids state request allowed =
      if existing.request = request then .ok (replay, .replayed existing.view)
      else .error .commandConflict := by
  have quiet : replay.ledger = state.ledger := replayServiceOperation_ledger unclaimed
  have kept : replay.serviceCommandResults = state.serviceCommandResults :=
    congrArg Ledger.serviceCommandResults quiet
  have open' : ¬ (request.mediaActivity.isSome = true ∧ ¬ allowed = true) :=
    fun closed => closed.2 (guarded closed.1)
  simp only [commitServiceCommandInState, reject, if_neg open', unclaimed, bind, Except.bind,
    commitUnclaimedServiceCommand, kept, stored]
  by_cases same : existing.request = request
  · simp [same]
  · simp [same]

private theorem commitServiceCommandInState_claimed {request} {allowed : Bool} {replay view}
    (guarded : request.mediaActivity.isSome → allowed)
    (claimed : state.replayServiceOperation request = .ok (replay, some view)) :
    commitServiceCommandInState ids state request allowed = .ok (replay, .replayed view) := by
  have open' : ¬ (request.mediaActivity.isSome = true ∧ ¬ allowed = true) :=
    fun closed => closed.2 (guarded closed.1)
  simp only [commitServiceCommandInState, bind_eq_ok, exists_unit, reject_eq_ok]
  exact ⟨open', (replay, some view), claimed, rfl⟩

end MemoryState

/-- The aggregate of every call is the fold of its Applied commands, whose versions are the numbers
from one to the current version, each with exactly one command. -/
structure EventSourced [Libraries] (operations : List Operation) (state : MemoryState) : Prop where
  folded : ∀ callId call, state.calls.get? callId = some call →
    ∃ operation ∈ operations, ∃ initial, operation.creates initial ∧ initial.id = callId ∧
      initial.version = 0 ∧
      foldFallible decideNext initial (appliedCommands state.commands callId) = .ok call.aggregate
  contiguous : ∀ callId call, state.calls.get? callId = some call →
    (appliedCommands state.commands callId).map StoredCommand.resultVersion =
      List.range' 1 call.aggregate.version
  unique : ∀ callId call version, state.calls.get? callId = some call → 0 < version →
    version ≤ call.aggregate.version →
    ∃! command, state.commands.get? command.commandId = some command ∧ command.callId = callId ∧
      command.disposition = .applied ∧ command.resultVersion = version

/-- Of the commits made with one expected version at most one is Applied: two stored Applied
commands that observed the same version are one, and a new commit finds none. -/
structure ComparesAndSwaps (state : MemoryState) : Prop where
  once : ∀ first second, state.commands.get? first.commandId = some first →
    state.commands.get? second.commandId = some second → first.callId = second.callId →
    first.disposition = .applied → second.disposition = .applied →
    first.observedVersion = second.observedVersion → first = second
  guarded : ∀ ids request next view, Fresh ids state →
    commitCommandInState ids state request = .ok (next, .committed view) →
    view.command.observedVersion = request.expectedVersion ∧
      next.commands.get? request.commandId = some view.command ∧
      ∀ command, state.commands.get? command.commandId = some command →
        command.callId = request.callId → command.disposition = .applied →
        command.observedVersion ≠ request.expectedVersion

/-- What a command or service command with a stored identifier is answered. -/
structure AnswersAgain [Libraries] (state : MemoryState) : Prop where
  identical : ∀ ids request existing call,
    state.commands.get? request.commandId = some existing →
    CommandCommit.SameContents request existing →
    state.calls.get? request.callId = some call → call.assignment.lease = request.worker →
    state.ensureWorker request.worker true request.atTime = .ok () →
    ∃ view, state.commandResults.get? request.commandId = some view ∧ view.command = existing ∧
      commitCommandInState ids state request = .ok (state, .replayed view)
  different : ∀ ids request existing call,
    state.commands.get? request.commandId = some existing →
    ¬ CommandCommit.SameContents request existing → request.command.atTime = request.atTime →
    state.tenantCall request.tenantId request.callId = .ok call →
    call.assignment.lease = request.worker →
    state.ensureWorker request.worker true request.atTime = .ok () →
    commitCommandInState ids state request = .error .commandConflict
  fenced : ∀ ids request existing, state.commands.get? request.commandId = some existing →
    (∃ result, commitCommandInState ids state request = .ok result) ∨
      commitCommandInState ids state request = .error .commandConflict →
    state.ensureWorker request.worker true request.atTime = .ok () ∧
      ∃ call, state.tenantCall request.tenantId request.callId = .ok call ∧
        call.assignment.lease = request.worker
  quiet : ∀ ids request existing result,
    state.commands.get? request.commandId = some existing →
    commitCommandInState ids state request = .ok result → result.1 = state
  service : ∀ ids request allowed existing replay,
    state.serviceCommandResults.get? request.command.commandId = some existing →
    (request.mediaActivity.isSome → allowed = true) →
    state.replayServiceOperation request = .ok (replay, none) →
    replay.ledger = state.ledger ∧ (request.operationIdempotency = none → replay = state) ∧
      commitServiceCommandInState ids state request allowed =
        if existing.request = request then .ok (replay, .replayed existing.view)
        else .error .commandConflict
  receipt : ∀ ids request allowed replay view,
    (request.mediaActivity.isSome → allowed = true) →
    state.replayServiceOperation request = .ok (replay, some view) →
    replay.ledger = state.ledger ∧
      commitServiceCommandInState ids state request allowed =
        .ok (replay, .replayed view)
  creation : ∀ ids request existing result, Fresh ids state →
    state.commands.get? request.commandId = some existing →
    createCallInState ids state request = .ok result →
    result.1.ledger = state.ledger ∧ ∃ call, result.2 = .replayed call
  kept : ∀ operations later commandId view, Run state operations later →
    state.commandResults.get? commandId = some view →
    later.commandResults.get? commandId = some view
  keptService : ∀ operations later commandId row, Run state operations later →
    state.serviceCommandResults.get? commandId = some row →
    later.serviceCommandResults.get? commandId = some row
  original : ∀ ids request next view, Fresh ids state →
    commitCommandInState ids state request = .ok (next, .committed view) →
    next.commandResults.get? request.commandId = some view

theorem EventSourced.of_run [Libraries] {operations} (run : Run .initial operations state) :
    EventSourced operations state := by
  have log := EventLog.of_run run
  have entries : ∀ callId call, state.calls.get? callId = some call →
      ∃ initial, (∃ operation ∈ operations, operation.creates initial) ∧ initial.id = callId ∧
        initial.version = 0 ∧ History state.commands callId initial
          (appliedCommands state.commands callId) call.aggregate := by
    intro callId call found
    obtain ⟨initial, entries, known, sameId, fresh, history⟩ := log.history _ _ found
    have sorted := history.appliedCommands_eq log.keyed
    exact ⟨initial, known, sameId, fresh, sorted ▸ history⟩
  refine ⟨fun callId call found => ?_, fun callId call found => ?_,
    fun callId call version found _ reached => ?_⟩
  · obtain ⟨initial, ⟨operation, member, creates⟩, sameId, fresh, history⟩ :=
      entries callId call found
    exact ⟨operation, member, initial, creates, sameId, fresh, history.journal.replayed⟩
  · obtain ⟨initial, -, -, fresh, history⟩ := entries _ _ found
    have length := history.journal.length
    rw [fresh, Nat.zero_add] at length
    rw [history.journal.versions, fresh, length]
  · obtain ⟨initial, -, -, fresh, history⟩ := entries _ _ found
    obtain ⟨command, member, numbered⟩ := history.journal.exists_entry (by omega) reached
    obtain ⟨stored, sameCall, applied⟩ := (history.complete command).mp member
    refine ⟨command, ⟨stored, sameCall, applied, numbered⟩, ?_⟩
    rintro other ⟨otherStored, otherCall, otherApplied, otherNumbered⟩
    have otherMember := (history.complete other).mpr ⟨otherStored, otherCall, otherApplied⟩
    exact history.journal.entry_unique otherMember member (otherNumbered.trans numbered.symm)

private theorem EventLog.observed_lt {admitted calls commands results}
    (log : EventLog admitted calls commands results) {callId call command}
    (found : calls.get? callId = some call)
    (stored : commands.get? command.commandId = some command) (sameCall : command.callId = callId)
    (applied : command.disposition = .applied) :
    command.observedVersion < call.aggregate.version := by
  obtain ⟨_, _, -, -, -, history⟩ := log.history _ _ found
  have member := (history.complete command).mpr ⟨stored, sameCall, applied⟩
  have reached := (history.journal.version_le member).2
  have next := log.observed command.commandId _ stored applied
  omega

theorem ComparesAndSwaps.of_reachable [Libraries] (reachable : Reachable state) :
    ComparesAndSwaps state := by
  have log := (Retained.of_reachable reachable).1
  refine ⟨fun first second firstStored secondStored sameCall firstApplied secondApplied _ => ?_,
    fun _ request _ _ fresh done => ?_⟩
  · obtain ⟨_, found, -⟩ := log.owned first.commandId _ firstStored
    obtain ⟨_, _, -, -, -, history⟩ := log.history first.callId _ found
    have firstMember := (history.complete first).mpr ⟨firstStored, rfl, firstApplied⟩
    have secondMember := (history.complete second).mpr ⟨secondStored, sameCall.symm, secondApplied⟩
    have firstNext := log.observed first.commandId _ firstStored firstApplied
    have secondNext := log.observed second.commandId _ secondStored secondApplied
    exact history.journal.entry_unique firstMember secondMember (by omega)
  · obtain ⟨-, _, replayed⟩ | ⟨c, rfl, -, accepts, ledger, shows⟩ :=
      commitCommandInState_ledger ⟨fresh.injective, fresh.outbox⟩ done
    · cases replayed
    cases shows
    refine ⟨accepts.version, ?_, fun _ stored sameCall applied => ?_⟩
    · exact (congrArg (·.commands.get? c.request.commandId) ledger).trans (get?_insert_self ..)
    · have earlier := log.observed_lt accepts.found stored sameCall applied
      have version := accepts.version
      omega

theorem AnswersAgain.of_reachable [Libraries] (reachable : Reachable state) :
    AnswersAgain state := by
  obtain ⟨log, retained⟩ := Retained.of_reachable reachable
  refine {
    identical := fun _ _ _ _ => commitCommandInState_identical log retained
    different := fun _ _ _ _ => commitCommandInState_different retained
    fenced := fun _ _ _ => commitCommandInState_fenced retained
    quiet := ?_
    service := ?_
    receipt := fun ids request allowed replay view guarded claimed =>
      ⟨replayServiceOperation_ledger claimed,
        commitServiceCommandInState_claimed guarded claimed⟩
    creation := ?_
    kept := ?_
    keptService := ?_
    original := ?_ }
  · intro ids request existing result stored done
    obtain ⟨-, view, rfl, -⟩ := commitCommandInState_known stored done
    rfl
  · intro ids request allowed existing replay stored guarded unclaimed
    refine ⟨replayServiceOperation_ledger unclaimed, fun unkeyed => ?_,
      commitServiceCommandInState_known stored guarded unclaimed⟩
    simp only [replayServiceOperation, unkeyed, Except.ok.injEq, Prod.mk.injEq,
      and_true] at unclaimed
    exact unclaimed.symm
  · intro ids request existing result fresh stored done
    obtain replayed | ⟨c, rfl, admits, -⟩ := createCallInState_ledger done
    · exact replayed
    · cases stored.symm.trans (admits ⟨fresh.injective, fresh.outbox⟩).newCommand
  · intro operations later commandId view run shown
    have kept := run.keeps (fun ledger => EventLog (fun _ => True) ledger.calls ledger.commands
      ledger.commandResults ∧ ledger.commandResults.get? commandId = some view) ?_ ⟨log, shown⟩
    · exact kept.2
    rintro _ _ _ ⟨log, shown⟩ one
    exact ⟨log.step (fun _ _ => trivial) one, one.keeps_result log shown⟩
  · intro operations later commandId row run found
    exact run.keeps (fun ledger => ledger.serviceCommandResults.get? commandId = some row)
      (fun _ _ _ found one => one.keeps_service found) found
  · intro ids request _ view fresh done
    obtain ⟨-, _, replayed⟩ | ⟨c, rfl, -, _, ledger, shows⟩ :=
      commitCommandInState_ledger ⟨fresh.injective, fresh.outbox⟩ done
    · cases replayed
    cases shows
    exact (congrArg (·.commandResults.get? c.request.commandId) ledger).trans (get?_insert_self ..)

/-- Event sourcing, compare and swap, and what a command submitted again is answered. -/
theorem event_sourcing [Libraries] {operations : List Operation} {state : MemoryState}
    (run : Run .initial operations state) :
    EventSourced operations state ∧ ComparesAndSwaps state ∧ AnswersAgain state :=
  ⟨.of_run run, .of_reachable ⟨operations, run⟩, .of_reachable ⟨operations, run⟩⟩

section

attribute [local instance] Sample.libraries

theorem event_sourcing_endedCall :
    Run .initial Sample.endedCall (.after Sample.endedCall) ∧
      EventSourced Sample.endedCall (.after Sample.endedCall) ∧
      (appliedCommands (MemoryState.after Sample.endedCall).commands Sample.callId).map
        StoredCommand.resultVersion = [1, 2, 3, 4] := by
  have run : Run .initial Sample.endedCall (.after Sample.endedCall) :=
    after_run (by decide +kernel)
  exact ⟨run, (event_sourcing run).1, by decide +kernel⟩

/-- The worker of a call registers again and submits a stored command once more. -/
theorem resubmission_fenced :
    ¬ ∀ (operations : List Operation) (state : MemoryState), Run .initial operations state →
      ∀ ids request existing, state.commands.get? request.commandId = some existing →
        CommandCommit.SameContents request existing →
        ∃ outcome, state.commitCommand ids request = .ok (state, outcome) := by
  intro claim
  have run : Run .initial Sample.reregistered (.after Sample.reregistered) :=
    after_run (by decide +kernel)
  have stored : ((after Sample.reregistered).commands.get?
      Sample.ending.commandId).any fun existing =>
        decide (CommandCommit.SameContents Sample.ending existing) := by decide +kernel
  have refused : (commitCommand (after Sample.reregistered).nextEffects
      (.after Sample.reregistered) Sample.ending).isOk = false := by decide +kernel
  obtain ⟨existing, found, same⟩ := (Option.any_eq_true _ _).mp stored
  obtain ⟨_, done⟩ := claim _ _ run (after Sample.reregistered).nextEffects
    Sample.ending _ found (of_decide_eq_true same)
  rw [done] at refused
  cases refused

end

end Bridgefu.Persistence
