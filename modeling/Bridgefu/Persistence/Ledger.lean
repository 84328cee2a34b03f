/- digest: The ledger behind the repository and the kinds of step by which operations move it. -/

import Bridgefu.CallEngine.Laws
import Bridgefu.Persistence.Operations
import Bridgefu.Persistence.Sweep

/-!
The ledger keeps the rows that calls, workers, commands with their results, effects, controls,
deadlines, provider events and attachments are made of, and leaves receipts, plans and indexes
aside. Every operation of the repository moves it through steps of a few kinds, each with the
guards that the operation has checked. Laws over whole runs are proved once per kind of step.
-/

set_option autoImplicit false

namespace Bridgefu.Persistence

open Lib CallEngine CallService MemoryState

structure Ledger where
  workers : Table WorkerId WorkerSnapshot
  calls : Table CallId StoredCall
  commands : Table CommandId StoredCommand
  commandResults : Table CommandId CommandCommitView
  outbox : Table EffectId OutboxRecord
  deadlines : DeadlineRows
  providerEvents : Table ProviderEventKey ProviderEventEnvelope
  providerReferences : Table ProviderReferenceKey ProviderReferenceRow
  providerReceiptSequence : Option Nat
  controlCommands : Table CommandId StoredControlCommand
  outboundBindingResults : Table CommandId StoredOutboundBindingResult
  serviceCommandResults : Table CommandId StoredServiceCommandResult
  attachments : Table AttachmentTokenDigest AttachmentRow
  connectionOwners : ConnectionOwners
  usedConnectionIds : Table ConnectionId Unit
  controlCommandResults : Table CommandId StoredControlCommandResult
  controlOutbox : Table EffectId ControlOutboxRecord
  controlSequences : Table ExternalBindingKey Nat
  controlRetirements : Table EffectId ControlRetirementReceipt

def MemoryState.ledger (state : MemoryState) : Ledger where
  workers := state.workers
  calls := state.calls
  commands := state.commands
  commandResults := state.commandResults
  outbox := state.outbox
  deadlines := state.deadlines
  providerEvents := state.providerEvents
  providerReferences := state.providerReferences
  providerReceiptSequence := state.providerReceiptSequence
  controlCommands := state.controlCommands
  outboundBindingResults := state.outboundBindingResults
  serviceCommandResults := state.serviceCommandResults
  attachments := state.attachments
  connectionOwners := state.connectionOwners
  usedConnectionIds := state.usedConnectionIds
  controlCommandResults := state.controlCommandResults
  controlOutbox := state.controlOutbox
  controlSequences := state.controlSequences
  controlRetirements := state.controlRetirements

/-- Outbox records of a list of effects, numbered from the given ordinal. -/
def EffectBatch.records (batch : EffectBatch) (ids : EffectSupply) :
    Nat → List EffectIntent → List OutboxRecord
  | _, [] => []
  | ordinal, intent :: rest =>
    batch.record (ids ordinal) ordinal intent :: batch.records ids (ordinal + 1) rest

def OutboxRecord.entry (record : OutboxRecord) : EffectId × OutboxRecord :=
  (record.effectId, record)

theorem EffectBatch.records_ids {batch : EffectBatch} {ids ordinal effects effectId}
    (member : effectId ∈ ((batch.records ids ordinal effects).map OutboxRecord.entry).map Prod.fst) :
    ∃ n, effectId = ids n := by
  induction effects generalizing ordinal with
  | nil => cases member
  | cons _ _ ih =>
    rcases List.mem_cons.mp member with same | later
    · exact ⟨ordinal, same⟩
    · exact ih later

/-- The identifiers are distinct and name no stored effect. -/
structure Ledger.Unused (ledger : Ledger) (ids : EffectSupply) : Prop where
  injective : Function.Injective ids
  absent : ∀ n, ledger.outbox.get? (ids n) = none

structure Creation where
  request : CreateCall
  ids : EffectSupply
  decision : CallDecision
  worker : WorkerSnapshot
  fingerprint : Option RouteCatalogFingerprint
  deadlines : DeadlineRows
  clock : Timestamp

namespace Creation

variable (c : Creation)

def batch : EffectBatch := CreateCall.batch c.request c.decision.aggregate.version

def records : List OutboxRecord := c.batch.records c.ids 0 c.decision.effects

def stored : StoredCall where
  aggregate := c.decision.aggregate
  assignment := ⟨c.request.worker, c.fingerprint, c.request.atTime, none⟩
  bindings := .empty

def command : StoredCommand := CreateCall.stored c.request c.decision

def issued : List (AttachmentTokenDigest × AttachmentRow) :=
  issuedRows c.request.initial.tenantId c.request.initial.id c.request.worker c.request.attachments

/-- The row of the worker that takes the call. -/
def reserved : WorkerSnapshot :=
  { c.worker with reservedCalls := c.worker.reservedCalls + 1, updatedAt := c.clock }

end Creation

/-- The use of an attachment for a connection, which joins its leg at once or stands by for the
replacement of the leg. -/
structure Consumption where
  token : AttachmentTokenDigest
  row : AttachmentRow
  binding : ConnectionBinding
  joins : Bool

namespace Consumption

def key (use : Consumption) : BindingKey :=
  (use.row.callId, use.row.legId, use.row.bindingGeneration)

def marked (use : Consumption) : AttachmentRow :=
  { use.row with consumedAt := some use.binding.boundAt, binding := some use.binding }

end Consumption

/-- A command that has passed every check, on the call it was decided for, with the attachment
that it uses up and the control effects that it retires. -/
structure Commit where
  request : CommandCommit
  ids : EffectSupply
  call : StoredCall
  consumed : Option Consumption
  decision : CallDecision
  worker : WorkerSnapshot
  persisted : DeadlineRows
  deadlines : DeadlineRows
  controls : ControlRows
  clock : Timestamp

namespace Commit

variable (c : Commit)

def batch : EffectBatch := CommandCommit.batch c.request c.decision.aggregate.version

def records : List OutboxRecord := c.batch.records c.ids 0 c.decision.effects

def ends : Bool := c.decision.aggregate.state.isTerminal

def assignment : WorkerAssignment :=
  if c.ends then { c.call.assignment with releasedAt := some c.request.atTime }
  else c.call.assignment

/-- The connection that joins its leg with the command. -/
def attached : Option (LegId × ConnectionBinding) :=
  (c.consumed.filter Consumption.joins).map fun use => (use.row.legId, use.binding)

/-- The bindings of the call once the attached connection is in. -/
def bound : Table LegId ConnectionBinding :=
  match c.attached with
  | some (legId, binding) => c.call.bindings.insert legId binding
  | none => c.call.bindings

def bindings : Table LegId ConnectionBinding :=
  if c.decision.disposition = .applied
  then c.bound.filter (bindingRetained c.decision.aggregate) else c.bound

def stored : StoredCall := ⟨c.decision.aggregate, c.assignment, c.bindings⟩

/-- The call after a connection was promoted together with the command. -/
def promoted (legId : LegId) (binding : ConnectionBinding) : StoredCall :=
  { c.stored with bindings := c.stored.bindings.insert legId binding }

def command : StoredCommand :=
  CommandCommit.stored c.request c.call.aggregate.version c.decision

/-- The attachments once the one that the command uses is marked. -/
def marked (attachments : Table AttachmentTokenDigest AttachmentRow) :
    Table AttachmentTokenDigest AttachmentRow :=
  match c.consumed with
  | some use => attachments.insert use.token use.marked
  | none => attachments

def issued : List (AttachmentTokenDigest × AttachmentRow) :=
  issuedRows c.request.tenantId c.request.callId c.request.worker c.request.attachments

def attachments (before : Table AttachmentTokenDigest AttachmentRow) :
    Table AttachmentTokenDigest AttachmentRow :=
  (if c.decision.disposition = .applied
    then sweepAttachments c.request.callId c.decision.aggregate (c.marked before)
    else c.marked before).insertAll c.issued

/-- The owners once the connection that the command uses is owned. -/
def owning (owners : ConnectionOwners) : ConnectionOwners :=
  match c.consumed with
  | some use => owners.insert use.binding.connectionId use.key
  | none => owners

def owners (ledger : Ledger) : ConnectionOwners :=
  if c.decision.disposition = .applied
  then sweepOwners c.request.callId c.decision.aggregate c.bound (c.marked ledger.attachments)
    (c.owning ledger.connectionOwners)
  else c.owning ledger.connectionOwners

def used (connectionIds : Table ConnectionId Unit) : Table ConnectionId Unit :=
  match c.consumed with
  | some use => connectionIds.insert use.binding.connectionId ()
  | none => connectionIds

/-- The row of the worker after the call gave back its place. -/
def freed : WorkerSnapshot :=
  { c.worker with reservedCalls := c.worker.reservedCalls - 1, updatedAt := c.clock }

end Commit

/-- The command reports the attachment of the leg's connection of the given generation. -/
def CallCommand.attaches (command : CallCommand) (legId : LegId) (generation : Nat) : Prop :=
  (∃ atTime, command = .providerMediaAttached atTime legId generation) ∨
    ∃ atTime, command = .setLegState atTime legId generation .signaling none

def ControlCommandTransaction.command (request : ControlCommandTransaction) :
    StoredControlCommand :=
  ⟨request.commandId, request.tenantId, request.callId, request.legId, request.bindingGeneration,
    request.worker, request.intent, request.atTime⟩

def ControlCommandTransaction.effect (request : ControlCommandTransaction) (effectId : EffectId)
    (sequence : Nat) : ControlOutboxRecord :=
  { effectId := effectId, commandId := request.commandId, tenantId := request.tenantId
    callId := request.callId, legId := request.legId
    bindingGeneration := request.bindingGeneration, worker := request.worker
    sequence := sequence, intent := request.intent, availableAt := request.atTime
    state := .ready }

namespace Ledger

/-- The identifier names no control command and no outbound binding. -/
structure OwnId (ledger : Ledger) (commandId : CommandId) : Prop where
  control : ledger.controlCommands.get? commandId = none
  outbound : ledger.outboundBindingResults.get? commandId = none

/-- New attachments have tokens of their own. -/
structure Issues (ledger : Ledger) (issues : List AttachmentIssue) : Prop where
  distinct : (issues.map AttachmentIssue.tokenDigest).Nodup
  absent : ∀ issue ∈ issues, ledger.attachments.get? issue.tokenDigest = none

/-- What a creation has checked. -/
structure Admits (ledger : Ledger) (c : Creation) : Prop where
  valid : c.request.initial.validate = .ok ()
  version : c.request.initial.version = 0
  pending : c.request.initial.state = .pending
  timestamp : c.request.command.atTime = c.request.atTime
  decided : c.request.initial.decide c.request.command = .ok c.decision
  applied : c.decision.disposition = .applied
  newCall : ledger.calls.get? c.request.initial.id = none
  newCommand : ledger.commands.get? c.request.commandId = none
  ownId : ledger.OwnId c.request.commandId
  worker : ledger.workers.get? c.request.worker.workerId = some c.worker
  lease : c.worker.lease = c.request.worker
  capacity : c.worker.reservedCalls < c.worker.maxCalls
  unused : ledger.Unused c.ids
  persisted : foldFallible (persistDeadline c.batch) ledger.deadlines c.decision.effects =
    .ok c.deadlines
  issues : ledger.Issues c.request.attachments
  offered : ∀ issue ∈ c.request.attachments,
    validateAttachmentIssue c.decision.aggregate issue c.request.atTime = .ok ()

variable (ledger : Ledger)

def create (c : Creation) : Ledger :=
  { ledger with
    workers := ledger.workers.insert c.request.worker.workerId c.reserved
    calls := ledger.calls.insert c.request.initial.id c.stored
    commands := ledger.commands.insert c.request.commandId c.command
    commandResults := ledger.commandResults.insert c.request.commandId
      ⟨c.command, c.stored, c.records⟩
    outbox := ledger.outbox.insertAll (c.records.map OutboxRecord.entry)
    deadlines := c.deadlines
    attachments := ledger.attachments.insertAll c.issued }

/-- The ledger with the connection of an attachment in place, before the command that reports it. -/
def attach (callId : CallId) (call : StoredCall) (use : Consumption) : Ledger :=
  { ledger with
    calls := if use.joins
      then ledger.calls.insert callId
        { call with bindings := call.bindings.insert use.row.legId use.binding }
      else ledger.calls
    attachments := ledger.attachments.insert use.token use.marked
    connectionOwners := ledger.connectionOwners.insert use.binding.connectionId use.key
    usedConnectionIds := ledger.usedConnectionIds.insert use.binding.connectionId () }

/-- What the use of an attachment has checked. -/
structure Consumes (ledger : Ledger) (c : Commit) (use : Consumption) : Prop where
  found : ledger.attachments.get? use.token = some use.row
  unconsumed : use.row.consumedAt = none
  unrevoked : use.row.revokedAt = none
  call : use.row.callId = c.request.callId
  worker : use.row.worker = c.request.worker
  leg : use.binding.legId = use.row.legId
  generation : use.binding.bindingGeneration = use.row.bindingGeneration
  unused : ledger.usedConnectionIds.get? use.binding.connectionId = none
  attaches : CallCommand.attaches c.request.command use.row.legId use.row.bindingGeneration
  vacant : use.joins = true → c.call.bindings.get? use.row.legId = none
  pending : use.joins = false →
    c.call.aggregate.pendingTelnyx use.row.legId use.row.bindingGeneration = true

/-- What a commit has checked. -/
structure Accepts (ledger : Ledger) (c : Commit) : Prop where
  timestamp : c.request.command.atTime = c.request.atTime
  found : ledger.calls.get? c.request.callId = some c.call
  tenant : c.call.aggregate.tenantId = c.request.tenantId
  unreleased : c.call.assignment.releasedAt = none
  assigned : c.call.assignment.lease = c.request.worker
  version : c.call.aggregate.version = c.request.expectedVersion
  newCommand : ledger.commands.get? c.request.commandId = none
  ownId : ledger.OwnId c.request.commandId
  worker : ledger.workers.get? c.request.worker.workerId = some c.worker
  lease : c.worker.lease = c.request.worker
  claimMatches : validateCommandDeadlineClaim c.request = .ok ()
  claimLive : validateDeadlineClaim ledger.deadlines c.request.deadlineClaim c.request.atTime =
    .ok ()
  decided : c.call.aggregate.decide c.request.command = .ok c.decision
  unused : ledger.Unused c.ids
  persisted : foldFallible (persistDeadline c.batch) ledger.deadlines c.decision.effects =
    .ok c.persisted
  completed : completeDeadlineClaim c.persisted c.request.deadlineClaim c.request.atTime =
    .ok c.deadlines
  reserved : c.ends → c.worker.reservedCalls ≠ 0
  consumes : ∀ use, c.consumed = some use → ledger.Consumes c use
  issues : ledger.Issues c.request.attachments
  offered : ∀ issue ∈ c.request.attachments,
    validateAttachmentIssue c.decision.aggregate issue c.request.atTime = .ok ()
  retired : (if c.decision.disposition = .applied
    then foldFallible (retireControlRow c.decision.aggregate c.request.commandId)
      (ledger.controlOutbox, ledger.controlRetirements)
      (controlsToRetire c.request.callId c.decision.aggregate ledger.controlOutbox)
    else .ok (ledger.controlOutbox, ledger.controlRetirements)) = .ok c.controls

/-- The command reports the connection as the finished replacement of the leg. -/
structure Promotes (c : Commit) (legId : LegId) (binding : ConnectionBinding) : Prop where
  unattached : c.consumed = none
  replacement : ∃ replacement, c.call.aggregate.replacement = some replacement ∧
    replacement.legId = legId ∧
    replacement.pendingBindingGeneration = binding.bindingGeneration
  connected : connectedReplacement c.request.command = some binding.bindingGeneration
  goesOn : c.ends = false

/-- Where a promoted connection comes from: it is new, or it stands by under an attachment of the
pending generation. -/
structure Installs (ledger : Ledger) (c : Commit) (legId : LegId) (binding : ConnectionBinding) :
    Prop where
  previous : ∃ previous replacement, c.call.bindings.get? legId = some previous ∧
    c.call.aggregate.replacement = some replacement ∧
    replacement.previousBindingGeneration = previous.bindingGeneration
  leg : binding.legId = legId
  source : (ledger.usedConnectionIds.get? binding.connectionId = none ∧
      ledger.connectionOwners.get? binding.connectionId = none) ∨
    (ledger.connectionOwners.get? binding.connectionId =
        some (c.request.callId, legId, binding.bindingGeneration) ∧
      ∃ token row standby, ledger.attachments.get? token = some row ∧
        row.binding = some standby ∧ standby.connectionId = binding.connectionId ∧
        row.callId = c.request.callId ∧ row.legId = legId ∧
        row.bindingGeneration = binding.bindingGeneration)

/-- An outbound connection of a pending leg that has none. -/
structure Vacant (call : StoredCall) (legId : LegId) (binding : ConnectionBinding) : Prop where
  unbound : call.bindings.get? legId = none
  pending : ∃ leg, call.aggregate.leg legId = some leg ∧ leg.state = .pending ∧
    leg.bindingGeneration = binding.bindingGeneration

def commit (c : Commit) : Ledger :=
  { ledger with
    workers := if c.ends then ledger.workers.insert c.request.worker.workerId c.freed
      else ledger.workers
    calls := ledger.calls.insert c.request.callId c.stored
    commands := ledger.commands.insert c.request.commandId c.command
    commandResults := ledger.commandResults.insert c.request.commandId
      ⟨c.command, c.stored, c.records⟩
    outbox := ledger.outbox.insertAll (c.records.map OutboxRecord.entry)
    deadlines := c.deadlines
    attachments := c.attachments ledger.attachments
    connectionOwners := c.owners ledger
    usedConnectionIds := c.used ledger.usedConnectionIds
    controlOutbox := c.controls.1
    controlRetirements := c.controls.2 }

/-- The same with a promoted connection, which the result of the command shows. -/
def promote (c : Commit) (legId : LegId) (binding : ConnectionBinding) : Ledger :=
  { ledger.commit c with
    calls := ledger.calls.insert c.request.callId (c.promoted legId binding)
    commandResults := ledger.commandResults.insert c.request.commandId
      ⟨c.command, c.promoted legId binding, c.records⟩
    connectionOwners := (c.owners ledger).insert binding.connectionId
      (c.request.callId, legId, binding.bindingGeneration)
    usedConnectionIds := ledger.usedConnectionIds.insert binding.connectionId () }

/-- A registration issues fence one to a new worker and the next fence to a known one, whose
reservations stay. -/
def Registers (workerId : WorkerId) (worker : WorkerSnapshot) : Prop :=
  match ledger.workers.get? workerId with
  | none => worker.lease = ⟨workerId, 1⟩ ∧ worker.reservedCalls = 0
  | some known => worker.lease = ⟨workerId, known.lease.fence + 1⟩ ∧
      worker.reservedCalls = known.reservedCalls ∧ known.reservedCalls ≤ worker.maxCalls

/-- The call, with its unfinished work, in the hands of a restarted worker. -/
def restart (worker : WorkerLease) (atTime : Timestamp) (callId : CallId) (call : StoredCall) :
    Ledger :=
  { ledger with
    calls := ledger.calls.insert callId
      { call with assignment := { call.assignment with lease := worker } }
    outbox := ledger.outbox.mapValues fun _ record =>
      if record.callId = callId ∧ outboxIsUnfinished record then
        { record with worker := worker, state := expireOutboxClaim atTime record.state }
      else record
    deadlines := ledger.deadlines.mapValues fun _ record =>
      if record.callId = callId then
        { record with state := expireDeadlineClaim atTime record.state }
      else record
    providerEvents := ledger.providerEvents.mapValues fun _ event =>
      if event.target.any fun target => target.callId = callId then
        { event with state := expireProviderClaim atTime event.state }
      else event
    controlOutbox := ledger.controlOutbox.mapValues fun _ record =>
      if record.callId = callId ∧ controlOutboxIsUnfinished record then
        { record with worker := worker, state := expireOutboxClaim atTime record.state }
      else record
    attachments := ledger.attachments.mapValues fun _ row =>
      if row.callId = callId ∧ row.consumedAt.isNone then { row with revokedAt := some atTime }
      else row }

def nextReceipt : Nat := ledger.providerReceiptSequence.getD 0 + 1

/-- The target under which an event of the provider call is stored. -/
def referenced (account : ProviderAccountKey) (providerCallId : ProviderCallId) :
    Option ProviderEventTarget :=
  (ledger.providerReferences.get? (account, providerCallId)).map ProviderReferenceRow.target

/-- What an ingested event looks like. -/
structure Receives (ledger : Ledger) (event : ProviderEventEnvelope) : Prop where
  newEvent : ledger.providerEvents.get? (event.account, event.eventDigest) = none
  target : event.target = ledger.referenced event.account event.providerCallId
  state : event.state = if event.target.isSome then .ready else .pendingReference
  appliedAt : event.appliedAt = none
  receiptSequence : event.receiptSequence = ledger.nextReceipt

/-- What the binding of a provider reference has checked. -/
structure Refers (ledger : Ledger) (key : ProviderReferenceKey) (target : ProviderEventTarget)
    (call : StoredCall) : Prop where
  found : ledger.calls.get? target.callId = some call
  tenant : call.aggregate.tenantId = target.tenantId
  unreleased : call.assignment.releasedAt = none
  leg : (call.aggregate.leg target.legId).isSome
  agrees : ∀ row, ledger.providerReferences.get? key = some row → row.target = target

/-- The provider call named by the key now belongs to the target. -/
def refer (key : ProviderReferenceKey) (target : ProviderEventTarget) (boundAt : Timestamp) :
    Ledger :=
  { ledger with
    providerReferences := if (ledger.providerReferences.get? key).isSome
      then ledger.providerReferences else ledger.providerReferences.insert key ⟨target, boundAt⟩
    providerEvents := ledger.providerEvents.mapValues fun _ event =>
      releaseEvent key.1 key.2 target event }

/-- No unfinished effect of the call comes before the record. -/
def OutboxHead (record : OutboxRecord) : Prop :=
  ∀ effectId other, ledger.outbox.get? effectId = some other → other.callId = record.callId →
    outboxOrderLt other record → ¬ outboxIsUnfinished other

/-- The leg of the call is up under this generation. -/
def Targets (callId : CallId) (legId : LegId) (generation : Nat) : Prop :=
  ∃ call leg, ledger.calls.get? callId = some call ∧ call.aggregate.leg legId = some leg ∧
    leg.bindingGeneration = generation ∧ (leg.state = .connected ∨ leg.state = .held)

/-- No unfinished control effect of the same binding comes before the record. -/
def ControlHead (record : ControlOutboxRecord) : Prop :=
  ∀ effectId other, ledger.controlOutbox.get? effectId = some other →
    other.callId = record.callId → other.legId = record.legId →
    other.bindingGeneration = record.bindingGeneration → other.sequence < record.sequence →
    ¬ controlOutboxIsUnfinished other

def nextControl (key : ExternalBindingKey) : Nat :=
  (ledger.controlSequences.get? key).getD 0 + 1

/-- What a new control command has checked. -/
structure Enqueues (ledger : Ledger) (result : StoredControlCommandResult) : Prop where
  newCommand : ledger.commands.get? result.request.commandId = none
  newService : ledger.serviceCommandResults.get? result.request.commandId = none
  newResult : ledger.controlCommandResults.get? result.request.commandId = none
  newEffect : ledger.controlOutbox.get? result.view.effect.effectId = none
  command : result.view.command = ControlCommandTransaction.command result.request
  effect : result.view.effect = ControlCommandTransaction.effect result.request
    result.view.effect.effectId
    (ledger.nextControl (result.request.callId, result.request.legId,
      result.request.bindingGeneration))
  targets : ledger.Targets result.request.callId result.request.legId
    result.request.bindingGeneration

/-- Every earlier event of the provider call has been applied. -/
def EventHead (event : ProviderEventEnvelope) : Prop :=
  ∀ key other, ledger.providerEvents.get? key = some other → other.account = event.account →
    other.providerCallId = event.providerCallId →
    other.receiptSequence < event.receiptSequence → other.state = .applied

end Ledger

/-- What an operation is entitled to: the aggregates it may start calls from, the commands it may
commit and whether it may promote a connection with them, the leases under which it may change a
call, take it over or claim work, and the claims it may finish. -/
structure Permits where
  creates : CallAggregate → Prop
  commits : CommandCommit → Prop
  promotes : Prop
  acts : WorkerLease → Prop
  restarts : WorkerLease → Prop
  claims : WorkerLease → Prop
  completes : EffectId → WorkerLease → Nat → Timestamp → Prop
  applies : ProviderEventKey → WorkerLease → Nat → Timestamp → Prop

/-- The command may be committed, under its own lease. -/
structure Permits.Commits (permits : Permits) (request : CommandCommit) : Prop where
  commits : permits.commits request
  acts : permits.acts request.worker

def Operation.permits (operation : Operation) : Permits where
  creates := operation.creates
  commits := fun request => operation.commits = some request
  promotes := operation.promotes
  acts := fun lease => lease ∈ operation.leases
  restarts := fun lease => operation.restarts = some lease
  claims := fun lease => operation.claims = some lease
  completes := fun effectId worker generation atTime =>
    operation.completes = some (effectId, worker, generation, atTime)
  applies := fun key worker generation atTime =>
    operation.applies = some (key, worker, generation, atTime)

/-- One step of the ledger by an operation with the given permits. -/
inductive LedgerStep (permits : Permits) (ledger : Ledger) : Ledger → Prop
  | registered (workerId : WorkerId) (worker : WorkerSnapshot)
      (registers : ledger.Registers workerId worker) :
      LedgerStep permits ledger { ledger with workers := ledger.workers.insert workerId worker }
  | workerUpdated (worker next : WorkerSnapshot) (workerId : WorkerId)
      (found : ledger.workers.get? workerId = some worker) (lease : next.lease = worker.lease)
      (maxCalls : next.maxCalls = worker.maxCalls)
      (reservedCalls : next.reservedCalls = worker.reservedCalls) :
      LedgerStep permits ledger { ledger with workers := ledger.workers.insert workerId next }
  | created (c : Creation) (initial : permits.creates c.request.initial) (admits : ledger.Admits c) :
      LedgerStep permits ledger (ledger.create c)
  | decided (c : Commit) (permitted : permits.Commits c.request) (accepts : ledger.Accepts c) :
      LedgerStep permits ledger (ledger.commit c)
  | promoted (c : Commit) (legId : LegId) (binding : ConnectionBinding)
      (permitted : permits.Commits c.request) (mayPromote : permits.promotes)
      (accepts : ledger.Accepts c) (promotes : Ledger.Promotes c legId binding)
      (installs : ledger.Installs c legId binding) :
      LedgerStep permits ledger (ledger.promote c legId binding)
  | bound (callId : CallId) (call : StoredCall) (legId : LegId) (binding : ConnectionBinding)
      (acts : permits.acts call.assignment.lease)
      (found : ledger.calls.get? callId = some call)
      (unreleased : call.assignment.releasedAt = none) (vacant : Ledger.Vacant call legId binding)
      (unused : ledger.usedConnectionIds.get? binding.connectionId = none) :
      LedgerStep permits ledger
        { ledger with
          calls := ledger.calls.insert callId
            { call with bindings := call.bindings.insert legId binding }
          connectionOwners := ledger.connectionOwners.insert binding.connectionId
            (callId, legId, binding.bindingGeneration)
          usedConnectionIds := ledger.usedConnectionIds.insert binding.connectionId () }
  | released (callId : CallId) (call : StoredCall) (worker : WorkerSnapshot)
      (atTime clock : Timestamp) (acts : permits.acts call.assignment.lease)
      (found : ledger.calls.get? callId = some call)
      (terminal : call.aggregate.state.isTerminal)
      (unreleased : call.assignment.releasedAt = none)
      (assigned : ledger.workers.get? call.assignment.lease.workerId = some worker)
      (reserved : worker.reservedCalls ≠ 0) :
      LedgerStep permits ledger
        { ledger with
          calls := ledger.calls.insert callId
            { call with assignment := { call.assignment with releasedAt := some atTime } }
          workers := ledger.workers.insert call.assignment.lease.workerId
            { worker with reservedCalls := worker.reservedCalls - 1, updatedAt := clock } }
  | restarted (worker : WorkerLease) (atTime : Timestamp) (callId : CallId) (call : StoredCall)
      (restarts : permits.restarts worker) (found : ledger.calls.get? callId = some call)
      (sameWorker : call.assignment.lease.workerId = worker.workerId)
      (notNewer : call.assignment.lease.fence ≤ worker.fence)
      (leased : ∃ row, ledger.workers.get? worker.workerId = some row ∧ row.lease = worker) :
      LedgerStep permits ledger (ledger.restart worker atTime callId call)
  | controlRecorded (result : StoredControlCommandResult) (enqueues : ledger.Enqueues result) :
      LedgerStep permits ledger
        { ledger with
          controlCommands := ledger.controlCommands.insert result.request.commandId
            result.view.command
          controlOutbox := ledger.controlOutbox.insert result.view.effect.effectId
            result.view.effect
          controlSequences := ledger.controlSequences.insert
            (result.request.callId, result.request.legId, result.request.bindingGeneration)
            result.view.effect.sequence
          controlCommandResults := ledger.controlCommandResults.insert result.request.commandId
            result }
  | outboundRecorded (commandId : CommandId) (result : StoredOutboundBindingResult)
      (newCommand : ledger.commands.get? commandId = none) :
      LedgerStep permits ledger
        { ledger with
          outboundBindingResults := ledger.outboundBindingResults.insert commandId result }
  | serviceRecorded (commandId : CommandId) (result : StoredServiceCommandResult)
      (newResult : ledger.serviceCommandResults.get? commandId = none)
      (shown : ledger.commandResults.get? commandId = some result.view.command) :
      LedgerStep permits ledger
        { ledger with
          serviceCommandResults := ledger.serviceCommandResults.insert commandId result }
  | controlClaimed (effectId : EffectId) (record : ControlOutboxRecord) (worker : WorkerLease)
      (generation : Nat) (claimedAt expiresAt : Timestamp)
      (found : ledger.controlOutbox.get? effectId = some record)
      (open' : OutboxState.claimableAt record.state claimedAt)
      (previous : outboxClaimGeneration record.state = some generation)
      (head : ledger.ControlHead record)
      (targets : ledger.Targets record.callId record.legId record.bindingGeneration) :
      LedgerStep permits ledger
        { ledger with
          controlOutbox := ledger.controlOutbox.insert effectId
            { record with state := .claimed worker (generation + 1) claimedAt expiresAt } }
  | controlCompleted (effectId : EffectId) (record : ControlOutboxRecord) (worker : WorkerLease)
      (generation : Nat) (atTime : Timestamp) (state : OutboxState)
      (completes : permits.completes effectId worker generation atTime)
      (found : ledger.controlOutbox.get? effectId = some record)
      (holds : holdsOutboxClaim record.state worker generation atTime)
      (finished : ¬ OutboxState.isUnfinished state) :
      LedgerStep permits ledger
        { ledger with
          controlOutbox := ledger.controlOutbox.insert effectId { record with state := state } }
  | effectClaimed (effectId : EffectId) (record : OutboxRecord) (worker : WorkerLease)
      (generation : Nat) (claimedAt expiresAt : Timestamp) (claims : permits.claims worker)
      (found : ledger.outbox.get? effectId = some record)
      (open' : OutboxState.claimableAt record.state claimedAt)
      (previous : outboxClaimGeneration record.state = some generation)
      (head : ledger.OutboxHead record) :
      LedgerStep permits ledger
        { ledger with
          outbox := ledger.outbox.insert effectId
            { record with state := .claimed worker (generation + 1) claimedAt expiresAt } }
  | effectCompleted (effectId : EffectId) (record : OutboxRecord) (worker : WorkerLease)
      (generation : Nat) (atTime : Timestamp) (state : OutboxState)
      (completes : permits.completes effectId worker generation atTime)
      (found : ledger.outbox.get? effectId = some record)
      (holds : holdsOutboxClaim record.state worker generation atTime)
      (finished : ¬ OutboxState.isUnfinished state) :
      LedgerStep permits ledger
        { ledger with outbox := ledger.outbox.insert effectId { record with state := state } }
  | deadlineClaimed (key : DeadlineKey) (record : DeadlineRecord) (worker : WorkerLease)
      (generation : Nat) (expiresAt : Timestamp) (claims : permits.claims worker)
      (found : ledger.deadlines.get? key = some record)
      (previous : deadlineClaimGeneration record.state = some generation) :
      LedgerStep permits ledger
        { ledger with
          deadlines := ledger.deadlines.insert key
            { record with state := .claimed worker (generation + 1) expiresAt } }
  | eventIngested (event : ProviderEventEnvelope) (receives : ledger.Receives event) :
      LedgerStep permits ledger
        { ledger with
          providerReceiptSequence := some event.receiptSequence
          providerEvents := ledger.providerEvents.insert (event.account, event.eventDigest) event }
  | referenceBound (key : ProviderReferenceKey) (target : ProviderEventTarget) (call : StoredCall)
      (boundAt : Timestamp) (refers : ledger.Refers key target call) :
      LedgerStep permits ledger (ledger.refer key target boundAt)
  | eventClaimed (key : ProviderEventKey) (event : ProviderEventEnvelope) (worker : WorkerLease)
      (generation : Nat) (claimedAt expiresAt : Timestamp) (claims : permits.claims worker)
      (found : ledger.providerEvents.get? key = some event)
      (open' : providerEventOpen event claimedAt)
      (previous : providerClaimGeneration event.state = some generation)
      (head : ledger.EventHead event) :
      LedgerStep permits ledger
        { ledger with
          providerEvents := ledger.providerEvents.insert key
            { event with state := .claimed worker (generation + 1) claimedAt expiresAt } }
  | eventApplied (key : ProviderEventKey) (event : ProviderEventEnvelope) (worker : WorkerLease)
      (generation : Nat) (atTime : Timestamp)
      (applies : permits.applies key worker generation atTime)
      (found : ledger.providerEvents.get? key = some event)
      (holds : holdsProviderClaim event worker generation atTime) :
      LedgerStep permits ledger
        { ledger with
          providerEvents := ledger.providerEvents.insert key
            { event with state := .applied, appliedAt := some atTime } }

abbrev LedgerPath (permits : Permits) : Ledger → Ledger → Prop :=
  Relation.ReflTransGen (LedgerStep permits)

end Bridgefu.Persistence
