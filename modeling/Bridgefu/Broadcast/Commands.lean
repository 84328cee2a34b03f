/- digest: The broadcast command repository: records, start and stop commands, claims, sweeps. -/

import Bridgefu.CallEngine.Repository

set_option autoImplicit false

/-! Gateways enqueue start and stop commands, and workers claim and complete them. Every operation
runs under one lock. An operation that fails keeps what it had already changed, so operations return
the state they leave next to their result. -/

namespace Bridgefu.Broadcast

open Lib CallEngine

def maxClaimTtl : Nat := seconds (5 * 60)

def maxBatch : Nat := 64

/-- How the UUID library reads a text. -/
class UuidLibrary where
  parseStr : String → Option Nat

inductive DurableBroadcastTransport where
  | moqt
  | uctpQuic

structure DurableBroadcastSpec where
  broadcastId : String
  tenantId : TenantId
  callId : CallId
  sourceLegId : LegId
  sourceBindingGeneration : Nat
  worker : WorkerLease
  transport : DurableBroadcastTransport
  language : Option String
  sanitizedEvents : Bool
  expiresAt : Timestamp

/-- The descriptor that a worker returns. Its public documents are not read here. -/
structure DurableBroadcastRuntime where
  sanitizedEvents : Bool
  grantGeneration : Option Nat

inductive DurableBroadcastState where
  | pending
  | active
  | deleting
  | deleted
  | failed
  deriving DecidableEq

/-- A broadcast in one of these states takes a place of its worker. -/
def DurableBroadcastState.isOpen : DurableBroadcastState → Bool
  | .pending | .active | .deleting => true
  | .deleted | .failed => false

structure DurableBroadcastRecord where
  specification : DurableBroadcastSpec
  state : DurableBroadcastState
  runtime : Option DurableBroadcastRuntime
  failureCode : Option String
  createdAt : Timestamp
  updatedAt : Timestamp

namespace DurableBroadcastRecord

/-- The shared grant that a record keeps for its cleanup. -/
def grantGeneration (record : DurableBroadcastRecord) : Option Nat :=
  record.runtime.bind (·.grantGeneration)

/-- Does the record take a place of the worker? -/
def occupies (record : DurableBroadcastRecord) (worker : WorkerLease) : Bool :=
  decide (record.specification.worker = worker) && record.state.isOpen

end DurableBroadcastRecord

structure BroadcastOperationIdentity where
  idempotencyDigest : Nat
  requestDigest : Nat

structure BroadcastEnqueueOutcome where
  record : DurableBroadcastRecord
  replayed : Bool

inductive DurableBroadcastCommandKind where
  | start
  | stop
  deriving DecidableEq

structure ClaimedBroadcastCommand where
  commandId : Nat
  kind : DurableBroadcastCommandKind
  claimGeneration : Nat
  record : DurableBroadcastRecord

inductive BroadcastCommandResult where
  | started (runtime : DurableBroadcastRuntime)
  | stopped
  | failed (code : String)

inductive BroadcastCommandError where
  | unavailable
  | invalidData
  | notFound
  | idempotencyConflict
  | capacityExceeded
  | invalidTransition
  | staleClaim
  deriving DecidableEq

inductive MemoryCommandState where
  | pending
  | claimed
  | succeeded
  | failed
  deriving DecidableEq

def MemoryCommandState.isLive : MemoryCommandState → Bool
  | .pending | .claimed => true
  | .succeeded | .failed => false

structure MemoryBroadcastCommand where
  commandId : Nat
  broadcastId : String
  worker : WorkerLease
  kind : DurableBroadcastCommandKind
  availableAt : Timestamp
  claimGeneration : Nat
  claimExpiresAt : Option Timestamp
  state : MemoryCommandState

def MemoryBroadcastCommand.enqueued (commandId : Nat) (broadcastId : String) (worker : WorkerLease)
    (kind : DurableBroadcastCommandKind) (availableAt : Timestamp) : MemoryBroadcastCommand where
  commandId := commandId
  broadcastId := broadcastId
  worker := worker
  kind := kind
  availableAt := availableAt
  claimGeneration := 0
  claimExpiresAt := none
  state := .pending

structure MemoryBroadcastState where
  records : Table String DurableBroadcastRecord
  createReceipts : Table (TenantId × Nat) (Nat × String)
  deleteReceipts : Table (TenantId × Nat) (Nat × String)
  commands : Table Nat MemoryBroadcastCommand

def MemoryBroadcastState.default : MemoryBroadcastState := ⟨.empty, .empty, .empty, .empty⟩

/-- What an operation leaves and what it returns. -/
abbrev Locked (α : Type) := MemoryBroadcastState × Except BroadcastCommandError α

/-- An update that changes nothing when it fails. -/
def Locked.orKeep {α : Type} (state : MemoryBroadcastState)
    (update : Except BroadcastCommandError (MemoryBroadcastState × α)) : Locked α :=
  match update with
  | .ok (next, result) => (next, .ok result)
  | .error error => (state, .error error)

section Enqueue

variable [UuidLibrary]

def validateBroadcastId (value : String) : Except BroadcastCommandError Unit :=
  match UuidLibrary.parseStr value with
  | some id => reject (id = 0) .invalidData
  | none => .error .invalidData

def validateSpecification (now : Timestamp) (specification : DurableBroadcastSpec) :
    Except BroadcastCommandError Unit := do
  validateBroadcastId specification.broadcastId
  reject (specification.expiresAt ≤ now ∨
      specification.language.any fun language =>
        decide (language.utf8ByteSize > 64) || language.toList.any isControl)
    .invalidData

namespace MemoryBroadcastState

/-- The places of the worker that are taken. -/
def active (state : MemoryBroadcastState) (worker : WorkerLease) : Nat :=
  state.records.count fun _ record => record.occupies worker

/-- A new broadcast with its receipt and its start command. -/
def started (state : MemoryBroadcastState) (now : Timestamp) (commandId : Nat)
    (specification : DurableBroadcastSpec) (identity : BroadcastOperationIdentity) :
    MemoryBroadcastState × BroadcastEnqueueOutcome :=
  let record : DurableBroadcastRecord := ⟨specification, .pending, none, none, now, now⟩
  ({ state with
      createReceipts := state.createReceipts.insert
        (specification.tenantId, identity.idempotencyDigest)
        (identity.requestDigest, specification.broadcastId)
      records := state.records.insert specification.broadcastId record
      commands := state.commands.insert commandId
        (.enqueued commandId specification.broadcastId specification.worker .start now) },
    ⟨record, false⟩)

/-- The specification is checked against an earlier reading of the clock. -/
def enqueueStart (state : MemoryBroadcastState) (checkedAt now : Timestamp) (commandId : Nat)
    (specification : DurableBroadcastSpec) (identity : BroadcastOperationIdentity)
    (maxActive : Nat) : Locked BroadcastEnqueueOutcome :=
  Locked.orKeep state do
    validateSpecification checkedAt specification
    match state.createReceipts.get? (specification.tenantId, identity.idempotencyDigest) with
    | some (requestDigest, broadcastId) => do
      reject (requestDigest ≠ identity.requestDigest) .idempotencyConflict
      let record ← orFail (state.records.get? broadcastId) .invalidData
      return (state, ⟨record, true⟩)
    | none => do
      reject (maxActive = 0 ∨ state.active specification.worker ≥ maxActive) .capacityExceeded
      return state.started now commandId specification identity

end MemoryBroadcastState

/-- A failed broadcast is deleted at once, when no cleanup is left to do. -/
def DurableBroadcastRecord.clear (record : DurableBroadcastRecord) (now : Timestamp) :
    Except BroadcastCommandError DurableBroadcastRecord := do
  reject record.runtime.isSome .invalidTransition
  return { record with state := .deleted, updatedAt := now }

namespace MemoryBroadcastState

/-- The stop command of the broadcast, unless it has one. -/
def withStop (state : MemoryBroadcastState) (availableAt : Timestamp) (commandId : Nat)
    (broadcastId : String) (worker : WorkerLease) : Table Nat MemoryBroadcastCommand :=
  if state.commands.any fun _ command =>
      decide (command.broadcastId = broadcastId) && decide (command.kind = .stop) then
    state.commands
  else state.commands.insert commandId (.enqueued commandId broadcastId worker .stop availableAt)

/-- What a delete request does to a broadcast of its tenant. -/
def stopped (state : MemoryBroadcastState) (now availableAt : Timestamp) (commandId : Nat)
    (broadcastId : String) (record : DurableBroadcastRecord) :
    Except BroadcastCommandError (MemoryBroadcastState × DurableBroadcastRecord) :=
  match record.state with
  | .failed => do
    let record ← record.clear now
    return ({ state with records := state.records.insert broadcastId record }, record)
  | .deleted => return (state, record)
  | .pending | .active | .deleting =>
    let deleting := { record with state := .deleting, updatedAt := now }
    return ({ state with
      records := state.records.insert broadcastId deleting
      commands := state.withStop availableAt commandId broadcastId record.specification.worker },
      deleting)

/-- The same delete request once more. -/
def stoppedAgain (state : MemoryBroadcastState) (now : Timestamp) (broadcastId : String) :
    Except BroadcastCommandError (MemoryBroadcastState × BroadcastEnqueueOutcome) := do
  let record ← orFail (state.records.get? broadcastId) .invalidData
  if record.state = .failed then do
    let record ← record.clear now
    return ({ state with records := state.records.insert broadcastId record }, ⟨record, true⟩)
  else return (state, ⟨record, true⟩)

def enqueueStop (state : MemoryBroadcastState) (now availableAt : Timestamp) (commandId : Nat)
    (tenantId : TenantId) (broadcastId : String) (identity : BroadcastOperationIdentity) :
    Locked BroadcastEnqueueOutcome :=
  Locked.orKeep state do
    validateBroadcastId broadcastId
    match state.deleteReceipts.get? (tenantId, identity.idempotencyDigest) with
    | some (requestDigest, retainedId) => do
      reject (requestDigest ≠ identity.requestDigest) .idempotencyConflict
      state.stoppedAgain now retainedId
    | none => do
      let record ← orFail ((state.records.get? broadcastId).filter fun record =>
        decide (record.specification.tenantId = tenantId)) .notFound
      let done ← state.stopped now availableAt commandId broadcastId record
      return ({ done.1 with
        deleteReceipts := done.1.deleteReceipts.insert (tenantId, identity.idempotencyDigest)
          (identity.requestDigest, broadcastId) }, ⟨done.2, false⟩)

end MemoryBroadcastState

end Enqueue

def MemoryBroadcastCommand.claimable (command : MemoryBroadcastCommand) (worker : WorkerLease)
    (now : Timestamp) : Bool :=
  decide (command.worker = worker) && decide (command.availableAt ≤ now) &&
    (decide (command.state = .pending) ||
      (decide (command.state = .claimed) &&
        command.claimExpiresAt.any fun expiry => decide (expiry ≤ now)))

def earlier (left right : Timestamp × Nat) : Bool :=
  decide (left.1 < right.1) || (decide (left.1 = right.1) && decide (left.2 ≤ right.2))

namespace MemoryBroadcastState

def claimExpiry (now : Timestamp) (claimTtl limit : Nat) :
    Except BroadcastCommandError Timestamp := do
  reject (claimTtl = 0 ∨ claimTtl > maxClaimTtl ∨ limit = 0 ∨ limit > maxBatch) .invalidData
  reject (claimTtl > maxSignedDuration) .invalidData
  reject (now + claimTtl > maxTimestamp) .invalidData
  return now + claimTtl

def claimableIds (state : MemoryBroadcastState) (worker : WorkerLease) (now : Timestamp)
    (limit : Nat) : List Nat :=
  let ready := (state.commands.values.filter (·.claimable worker now)).map fun command =>
    (command.availableAt, command.commandId)
  ((ready.mergeSort earlier).take limit).map Prod.snd

end MemoryBroadcastState

def MemoryBroadcastCommand.claimedUntil (command : MemoryBroadcastCommand) (expiresAt : Timestamp) :
    MemoryBroadcastCommand :=
  { command with
    claimGeneration := command.claimGeneration + 1
    claimExpiresAt := some expiresAt
    state := .claimed }

namespace MemoryBroadcastState

/-- One command after the other. The commands claimed before an error stay claimed. -/
def claimEach (expiresAt : Timestamp) :
    MemoryBroadcastState → List Nat → Locked (List ClaimedBroadcastCommand)
  | state, [] => (state, .ok [])
  | state, commandId :: rest =>
    match state.commands.get? commandId with
    | none => (state, .error .invalidData)
    | some command =>
      if command.claimGeneration + 1 ≥ 2 ^ 64 then (state, .error .invalidData)
      else
        let next := { state with
          commands := state.commands.insert commandId (command.claimedUntil expiresAt) }
        match next.records.get? command.broadcastId with
        | none => (next, .error .invalidData)
        | some record =>
          let others := claimEach expiresAt next rest
          (others.1, (fun claims =>
            ⟨commandId, command.kind, command.claimGeneration + 1, record⟩ :: claims) <$>
              others.2)

def claim (state : MemoryBroadcastState) (now : Timestamp) (worker : WorkerLease)
    (claimTtl limit : Nat) : Locked (List ClaimedBroadcastCommand) :=
  match claimExpiry now claimTtl limit with
  | .error error => (state, .error error)
  | .ok expiresAt => claimEach expiresAt state (state.claimableIds worker now limit)

/-- The command that a claim holds, if it still does. -/
def held? (state : MemoryBroadcastState) (claim : ClaimedBroadcastCommand) :
    Option MemoryBroadcastCommand :=
  (state.commands.get? claim.commandId).filter fun command =>
    decide (command.state = .claimed) && decide (command.claimGeneration = claim.claimGeneration) &&
      decide (command.kind = claim.kind)

end MemoryBroadcastState

/-- What a result makes of the command and of the record. -/
structure Completion where
  commandState : MemoryCommandState
  recordState : DurableBroadcastState
  runtime : Option DurableBroadcastRuntime
  failureCode : Option String

def Completion.of (kind : DurableBroadcastCommandKind) (result : BroadcastCommandResult) :
    Except BroadcastCommandError Completion :=
  match result, kind with
  | .started runtime, .start => .ok ⟨.succeeded, .active, some runtime, none⟩
  | .stopped, .stop => .ok ⟨.succeeded, .deleted, none, none⟩
  | .failed code, _ => .ok ⟨.failed, .failed, none, some code⟩
  | .started _, .stop | .stopped, .start => .error .invalidTransition

def DurableBroadcastRecord.completed (record : DurableBroadcastRecord) (completion : Completion)
    (now : Timestamp) : DurableBroadcastRecord :=
  { record with
    state := completion.recordState
    runtime := completion.runtime
    failureCode := completion.failureCode
    updatedAt := now }

namespace MemoryBroadcastState

/-- The command is settled before its record is looked up. -/
def complete (state : MemoryBroadcastState) (now : Timestamp) (claim : ClaimedBroadcastCommand)
    (result : BroadcastCommandResult) : Locked DurableBroadcastRecord :=
  match state.held? claim with
  | none => (state, .error .staleClaim)
  | some command =>
    match Completion.of claim.kind result with
    | .error error => (state, .error error)
    | .ok completion =>
      let settled := { state with
        commands := state.commands.insert claim.commandId
          { command with state := completion.commandState, claimExpiresAt := none } }
      match settled.records.get? command.broadcastId with
      | none => (settled, .error .invalidData)
      | some record =>
        let record := record.completed completion now
        ({ settled with records := settled.records.insert command.broadcastId record },
          .ok record)

end MemoryBroadcastState

def MemoryBroadcastCommand.swept (command : MemoryBroadcastCommand) (selected : Bool) :
    MemoryBroadcastCommand :=
  if selected && command.state.isLive then
    { command with state := .failed, claimExpiresAt := none }
  else command

def DurableBroadcastRecord.fail (record : DurableBroadcastRecord) (failureCode : String)
    (now : Timestamp) : DurableBroadcastRecord :=
  { record with state := .failed, failureCode := some failureCode, updatedAt := now }

def staleWorkerFence : String := "stale_worker_fence"

/-- Another incarnation of the same worker. -/
def otherFence (worker current : WorkerLease) : Bool :=
  decide (worker.workerId = current.workerId) && decide (worker.fence ≠ current.fence)

/-- Does the sweep of a new incarnation select the record? -/
def DurableBroadcastRecord.isStale (record : DurableBroadcastRecord) (current : WorkerLease) :
    Bool :=
  otherFence record.specification.worker current &&
    (record.state.isOpen ||
      (decide (record.failureCode = some staleWorkerFence) && record.runtime.isSome))

namespace MemoryBroadcastState

def failWorkerBroadcasts (state : MemoryBroadcastState) (now : Timestamp) (worker : WorkerLease)
    (failureCode : String) : Locked Unit :=
  ({ state with
    commands := state.commands.mapValues fun _ command =>
      command.swept (decide (command.worker = worker))
    records := state.records.mapValues fun _ record =>
      if record.occupies worker then record.fail failureCode now else record }, .ok ())

def staleIds (state : MemoryBroadcastState) (current : WorkerLease) : List String :=
  (state.records.values.filter (·.isStale current)).map (·.specification.broadcastId)

def markStale (now : Timestamp) : MemoryBroadcastState → List String → Locked Unit
  | state, [] => (state, .ok ())
  | state, broadcastId :: rest =>
    match state.records.get? broadcastId with
    | none => (state, .error .invalidData)
    | some record =>
      markStale now { state with
        records := state.records.insert broadcastId (record.fail staleWorkerFence now) } rest

def failStaleWorkerBroadcasts (state : MemoryBroadcastState) (now : Timestamp)
    (current : WorkerLease) : Locked (List DurableBroadcastRecord) :=
  let stale := state.staleIds current
  let swept := { state with
    commands := state.commands.mapValues fun _ command =>
      command.swept (otherFence command.worker current) }
  let marked := markStale now swept stale
  (marked.1, do
    marked.2
    stale.mapM fun broadcastId => orFail (marked.1.records.get? broadcastId) .invalidData)

variable [UuidLibrary]

def reconcileTerminal (state : MemoryBroadcastState) (now : Timestamp) (broadcastId : String)
    (worker : WorkerLease) (sourceBindingGeneration : Nat) (grantGeneration : Option Nat)
    (failureCode : String) : Locked Bool :=
  Locked.orKeep state do
    validateBroadcastId broadcastId
    match state.records.get? broadcastId with
    | none => return (state, false)
    | some record =>
      if record.state ≠ .active ∨ record.specification.worker ≠ worker ∨
          record.specification.sourceBindingGeneration ≠ sourceBindingGeneration ∨
          record.grantGeneration ≠ grantGeneration then return (state, false)
      else
        let failed := { record.fail failureCode now with runtime := none }
        return ({ state with records := state.records.insert broadcastId failed }, true)

def finalizeFailedCleanup (state : MemoryBroadcastState) (now : Timestamp) (broadcastId : String)
    (worker : WorkerLease) (grantGeneration : Option Nat) : Locked Bool :=
  Locked.orKeep state do
    validateBroadcastId broadcastId
    match state.records.get? broadcastId with
    | none => return (state, false)
    | some record =>
      if record.state ≠ .failed ∨ record.specification.worker ≠ worker ∨
          record.grantGeneration ≠ grantGeneration then return (state, false)
      else
        let cleaned := { record with runtime := none, updatedAt := now }
        return ({ state with records := state.records.insert broadcastId cleaned }, true)

end MemoryBroadcastState

/-- The operations that write, with their readings of the clock and the identifiers they draw. -/
inductive Operation where
  | enqueueStart (checkedAt now : Timestamp) (commandId : Nat)
      (specification : DurableBroadcastSpec) (identity : BroadcastOperationIdentity)
      (maxActive : Nat)
  | enqueueStop (now availableAt : Timestamp) (commandId : Nat) (tenantId : TenantId)
      (broadcastId : String) (identity : BroadcastOperationIdentity)
  | claim (now : Timestamp) (worker : WorkerLease) (claimTtl limit : Nat)
  | complete (now : Timestamp) (claim : ClaimedBroadcastCommand) (result : BroadcastCommandResult)
  | failWorkerBroadcasts (now : Timestamp) (worker : WorkerLease) (failureCode : String)
  | failStaleWorkerBroadcasts (now : Timestamp) (current : WorkerLease)
  | reconcileTerminal (now : Timestamp) (broadcastId : String) (worker : WorkerLease)
      (sourceBindingGeneration : Nat) (grantGeneration : Option Nat) (failureCode : String)
  | finalizeFailedCleanup (now : Timestamp) (broadcastId : String) (worker : WorkerLease)
      (grantGeneration : Option Nat)

section Runs

variable [UuidLibrary]

/-- A drawn command identifier is one that no command has. -/
def perform (state : MemoryBroadcastState) : Operation → MemoryBroadcastState
  | .enqueueStart checkedAt now commandId specification identity maxActive =>
    if state.commands.contains commandId then state
    else (state.enqueueStart checkedAt now commandId specification identity maxActive).1
  | .enqueueStop now availableAt commandId tenantId broadcastId identity =>
    if state.commands.contains commandId then state
    else (state.enqueueStop now availableAt commandId tenantId broadcastId identity).1
  | .claim now worker claimTtl limit => (state.claim now worker claimTtl limit).1
  | .complete now claim result => (state.complete now claim result).1
  | .failWorkerBroadcasts now worker failureCode =>
    (state.failWorkerBroadcasts now worker failureCode).1
  | .failStaleWorkerBroadcasts now current => (state.failStaleWorkerBroadcasts now current).1
  | .reconcileTerminal now broadcastId worker sourceBindingGeneration grantGeneration failureCode =>
    (state.reconcileTerminal now broadcastId worker sourceBindingGeneration grantGeneration
      failureCode).1
  | .finalizeFailedCleanup now broadcastId worker grantGeneration =>
    (state.finalizeFailedCleanup now broadcastId worker grantGeneration).1

/-- The state after a run from the empty repository. -/
def final (operations : List Operation) : MemoryBroadcastState :=
  operations.foldl perform .default

end Runs

namespace Sample

/-- Reads the hyphenated form, in lower case. -/
def readUuid (text : String) : Option Nat :=
  let groups := text.toList.splitOn '-'
  if groups.map List.length = [8, 4, 4, 4, 12] ∧ groups.flatten.all isLowerHex then
    some (Nat.ofDigits 16 (groups.flatten.reverse.map ("0123456789abcdef".toList.idxOf ·)))
  else none

@[reducible] def uuids : UuidLibrary := ⟨readUuid⟩

def townHall : String := "0b7e4a52-8c1d-4f3a-9e60-5d2c7f1a3b98"

def lease : WorkerLease := ⟨⟨1⟩, 2⟩

def specification : DurableBroadcastSpec where
  broadcastId := townHall
  tenantId := ⟨"acme"⟩
  callId := ⟨3⟩
  sourceLegId := ⟨4⟩
  sourceBindingGeneration := 1
  worker := lease
  transport := .moqt
  language := none
  sanitizedEvents := true
  expiresAt := 1000

def record (state : DurableBroadcastState) (updatedAt : Timestamp) : DurableBroadcastRecord :=
  ⟨specification, state, none, none, 0, updatedAt⟩

def runtime : DurableBroadcastRuntime := ⟨true, some 77⟩

def starting : List Operation :=
  [.enqueueStart 0 0 10 specification ⟨1, 1⟩ 4, .claim 1 lease (seconds 10) 8]

def reportStarted (now : Timestamp) : Operation :=
  .complete now ⟨10, .start, 1, record .pending 0⟩ (.started runtime)

/-- Its deletion is requested and claimed. -/
def stopping : List Operation :=
  [.enqueueStop 2 2 11 ⟨"acme"⟩ townHall ⟨2, 2⟩, .claim 3 lease (seconds 10) 8]

def reportStopped (now : Timestamp) : Operation :=
  .complete now ⟨11, .stop, 1, record .deleting 2⟩ .stopped

end Sample

end Bridgefu.Broadcast
