/- digest: The coordination outbox and projectors that claim, apply and acknowledge its records. -/

import Bridgefu.Coordination.Model
import Bridgefu.Lib.Trace

set_option autoImplicit false

/-! Any number of projectors serve one outbox. An invocation of `project_once` claims a batch, then
applies and acknowledges its records one after the other. Other invocations come in between, also
ones of the same projector, and any invocation may stop for good at any point. The outbox reads its
clock before it takes its lock, so the readings of two calls may reach it in either order. -/

namespace Bridgefu.Coordination

open Lib CallEngine

def maxClaimTtl : Nat := seconds (5 * 60)

def nextInDatabaseRange (value : Nat) : Except CoordinationError Nat :=
  if value ≥ 2 ^ 63 - 1 then .error .counterExhausted else .ok (value + 1)

def ProjectionSequence.initial : Nat := 1

def ProjectionSequence.next (sequence : Nat) : Except CoordinationError Nat :=
  nextInDatabaseRange sequence

def CoordinationClaimGeneration.next (generation : Nat) : Except CoordinationError Nat :=
  nextInDatabaseRange generation

def checkedClaimExpiry (now : Timestamp) (ttl : Nat) : Except CoordinationError Timestamp := do
  reject (ttl = 0 ∨ ttl > maxClaimTtl) (.invalidInput "invalid claim TTL")
  reject (ttl > maxSignedDuration) (.invalidInput "claim TTL is too large")
  reject (now + ttl > maxTimestamp) (.invalidInput "claim expiry overflow")
  return now + ttl

def validateProjector (projector : String) : Except CoordinationError Unit :=
  reject (projector.isEmpty ∨ projector.utf8ByteSize > 128 ∨
      projector.toList.any fun c => decide (c.toNat ≤ 0x20) || c.toNat == 0x7f)
    (.invalidInput "invalid coordination projector ID")

inductive CoordinationOutboxState where
  | ready
  | claimed (projector : String) (generation : Nat) (claimedAt expiresAt : Timestamp)
  | applied (atTime : Timestamp)

structure CoordinationOutboxRecord where
  event : CoordinationEvent
  state : CoordinationOutboxState

/-- May a claim of this projector and generation be acknowledged now? -/
def CoordinationOutboxState.acknowledgeable (state : CoordinationOutboxState) (projector : String)
    (claimGeneration : Nat) (now : Timestamp) : Bool :=
  match state with
  | .claimed owner generation claimedAt expiresAt =>
    decide (owner = projector) && decide (generation = claimGeneration) &&
      decide (claimedAt ≤ now) && decide (now < expiresAt)
  | .ready | .applied _ => false

namespace CoordinationOutboxRecord

abbrev sequence (record : CoordinationOutboxRecord) : Nat := record.event.sequence

def isApplied (record : CoordinationOutboxRecord) : Prop := ∃ atTime, record.state = .applied atTime

end CoordinationOutboxRecord

structure CoordinationOutboxClaim where
  record : CoordinationOutboxRecord
  claimGeneration : Nat

abbrev CoordinationOutboxClaim.sequence (claim : CoordinationOutboxClaim) : Nat :=
  claim.record.sequence

/-- The records in sequence order, numbered from one without a gap. -/
structure MemoryOutboxState where
  lastSequence : Option Nat
  records : List CoordinationOutboxRecord
  numbered : records.map (·.sequence) = List.range' 1 (lastSequence.getD 0)

def MemoryOutboxState.default : MemoryOutboxState := ⟨none, [], rfl⟩

/-- How a claim treats a record that it comes to. -/
inductive Visit where
  | skip
  | stop
  | take (previous : Nat)

def CoordinationOutboxState.visit (now : Timestamp) : CoordinationOutboxState → Visit
  | .applied _ => .skip
  | .ready => .take 0
  | .claimed _ generation _ expiresAt => if expiresAt ≤ now then .take generation else .stop

/-- What a claim leaves: the records, those it took, and the error that stopped it. -/
structure ClaimWalk where
  records : List CoordinationOutboxRecord
  claims : List CoordinationOutboxClaim
  failure : Option CoordinationError

def ClaimWalk.keep (record : CoordinationOutboxRecord) (walk : ClaimWalk) : ClaimWalk :=
  { walk with records := record :: walk.records }

def ClaimWalk.grant (record : CoordinationOutboxRecord) (generation : Nat) (walk : ClaimWalk) :
    ClaimWalk :=
  { walk with records := record :: walk.records, claims := ⟨record, generation⟩ :: walk.claims }

def claimRecords (projector : String) (now expiresAt : Timestamp) :
    Nat → List CoordinationOutboxRecord → ClaimWalk
  | _, [] => ⟨[], [], none⟩
  | 0, records => ⟨records, [], none⟩
  | limit + 1, record :: rest =>
    match record.state.visit now with
    | .skip => (claimRecords projector now expiresAt (limit + 1) rest).keep record
    | .stop => ⟨record :: rest, [], none⟩
    | .take previous =>
      match CoordinationClaimGeneration.next previous with
      -- the records taken so far stay claimed
      | .error failure => ⟨record :: rest, [], some failure⟩
      | .ok generation =>
        (claimRecords projector now expiresAt limit rest).grant
          { record with state := .claimed projector generation now expiresAt } generation

theorem claimRecords_events (projector : String) (now expiresAt : Timestamp) (limit : Nat)
    (records : List CoordinationOutboxRecord) :
    (claimRecords projector now expiresAt limit records).records.map (·.event) =
      records.map (·.event) := by
  induction records generalizing limit with
  | nil => cases limit <;> rfl
  | cons record _ ih =>
    cases limit with
    | zero => rfl
    | succ limit =>
      unfold claimRecords
      split
      · exact congrArg (record.event :: ·) (ih (limit + 1))
      · rfl
      · split
        · rfl
        · exact congrArg (record.event :: ·) (ih limit)

private theorem sequences_of_events {before after : List CoordinationOutboxRecord}
    (same : after.map (·.event) = before.map (·.event)) :
    after.map (·.sequence) = before.map (·.sequence) := by
  have projected := congrArg (List.map CoordinationEvent.sequence) same
  simpa [Function.comp_def] using projected

namespace MemoryOutboxState

def withRecords (state : MemoryOutboxState) (records : List CoordinationOutboxRecord)
    (same : records.map (·.event) = state.records.map (·.event)) : MemoryOutboxState where
  lastSequence := state.lastSequence
  records := records
  numbered := (sequences_of_events same).trans state.numbered

def claimExpiry (projector : String) (claimTtl limit : Nat) (now : Timestamp) :
    Except CoordinationError Timestamp := do
  validateProjector projector
  reject (limit = 0 ∨ limit > 1024) (.invalidInput "invalid coordination claim limit")
  checkedClaimExpiry now claimTtl

def claimWalk (state : MemoryOutboxState) (projector : String) (claimTtl limit : Nat)
    (now : Timestamp) : ClaimWalk :=
  match claimExpiry projector claimTtl limit now with
  | .error failure => ⟨state.records, [], some failure⟩
  | .ok expiresAt => claimRecords projector now expiresAt limit state.records

theorem claimWalk_events (state : MemoryOutboxState) (projector : String) (claimTtl limit : Nat)
    (now : Timestamp) :
    (state.claimWalk projector claimTtl limit now).records.map (·.event) =
      state.records.map (·.event) := by
  unfold claimWalk
  split
  · rfl
  · exact claimRecords_events ..

def claim (state : MemoryOutboxState) (projector : String) (claimTtl limit : Nat)
    (now : Timestamp) :
    MemoryOutboxState × Except CoordinationError (List CoordinationOutboxClaim) :=
  let walk := state.claimWalk projector claimTtl limit now
  (state.withRecords walk.records (state.claimWalk_events ..),
    match walk.failure with
    | some failure => .error failure
    | none => .ok walk.claims)

private theorem numbered_concat {lastSequence : Option Nat} {sequence}
    {records} {record : CoordinationOutboxRecord}
    (numbered : records.map (·.sequence) = List.range' 1 (lastSequence.getD 0))
    (next : sequence = lastSequence.getD 0 + 1) (own : record.sequence = sequence) :
    (records ++ [record]).map (·.sequence) = List.range' 1 ((some sequence).getD 0) := by
  rw [List.map_append, numbered, Option.getD_some, next, List.range'_concat]
  simp [own, next, Nat.add_comm]

def nextSequence (state : MemoryOutboxState) : Except CoordinationError Nat :=
  match state.lastSequence with
  | some last => ProjectionSequence.next last
  | none => .ok ProjectionSequence.initial

private theorem nextSequence_eq_ok {state : MemoryOutboxState} {sequence}
    (done : state.nextSequence = .ok sequence) : sequence = state.lastSequence.getD 0 + 1 := by
  unfold nextSequence at done
  split at done
  · rename_i last isLast
    unfold ProjectionSequence.next nextInDatabaseRange at done
    split_ifs at done
    cases done
    rw [isLast, Option.getD_some]
  · rename_i isNone
    cases done
    rw [isNone]
    rfl

def append (deployment : DeploymentId) (state : MemoryOutboxState) (payload : CoordinationPayload)
    (now : Timestamp) : Except CoordinationError (MemoryOutboxState × CoordinationOutboxRecord) :=
  match numbered : state.nextSequence with
  | .error failure => .error failure
  | .ok sequence => do
    let event : CoordinationEvent := ⟨deployment, sequence, payload, now⟩
    event.validate
    let record : CoordinationOutboxRecord := ⟨event, .ready⟩
    return (⟨some sequence, state.records ++ [record],
      numbered_concat state.numbered (nextSequence_eq_ok numbered) rfl⟩, record)

def markApplied (sequence : Nat) (now : Timestamp) (record : CoordinationOutboxRecord) :
    CoordinationOutboxRecord :=
  if record.sequence = sequence then { record with state := .applied now } else record

theorem markApplied_event (sequence : Nat) (now : Timestamp) (record : CoordinationOutboxRecord) :
    (markApplied sequence now record).event = record.event := by
  unfold markApplied
  split <;> rfl

def acknowledge (state : MemoryOutboxState) (sequence : Nat) (projector : String)
    (claimGeneration : Nat) (now : Timestamp) : Except CoordinationError MemoryOutboxState := do
  validateProjector projector
  let record ← orFail (state.records.find? fun record => record.sequence = sequence) .staleClaim
  reject (¬ CoordinationOutboxState.acknowledgeable record.state projector claimGeneration now)
    .staleClaim
  return state.withRecords (state.records.map (markApplied sequence now)) (by
    simp [List.map_map, Function.comp_def, markApplied_event])

end MemoryOutboxState

structure CoordinationProjector where
  projector : String
  claimTtl : Nat
  batchSize : Nat

/-- An invocation of `project_once` that has claimed its batch: what is left of it, and whether its
first record has been applied and is still to be acknowledged. -/
structure Projecting where
  projector : String
  claims : List CoordinationOutboxClaim
  unacknowledged : Bool

/-- One outbox, one projection and the invocations that serve them. -/
structure System (σ : Type) where
  outbox : MemoryOutboxState
  projection : σ
  running : Table Nat Projecting

def System.start {σ : Type} (projection : σ) : System σ := ⟨.default, projection, .empty⟩

inductive ProjectorStep (σ : Type) where
  | append (payload : CoordinationPayload) (now : Timestamp)
  | claim (invocation : Nat) (projector : CoordinationProjector) (now : Timestamp)
  | apply (invocation : Nat)
  | acknowledge (invocation : Nat) (now : Timestamp)
  | crash (invocation : Nat)
  /-- The projection changes for a reason of its own. -/
  | elsewhere (projection : σ)

/-- A step and the system that it finds. -/
abbrev ProjectorPlace (σ : Type) := System σ × ProjectorStep σ

/-- How a projection takes an event. -/
abbrev Apply (σ : Type) :=
  σ → CoordinationEvent → σ × Except CoordinationError ProjectionApplyOutcome

namespace System

variable {σ : Type} (deployment : DeploymentId) (apply : Apply σ)

def nextEvent? (system : System σ) (invocation : Nat) : Option CoordinationEvent :=
  match system.running.get? invocation with
  | some ⟨_, claim :: _, false⟩ => some claim.record.event
  | _ => none

def performApply (system : System σ) (invocation : Nat) : System σ :=
  match system.running.get? invocation with
  | some ⟨projector, claim :: rest, false⟩ =>
    let applied := apply system.projection claim.record.event
    { system with
      projection := applied.1
      running := match applied.2 with
        | .ok _ => system.running.insert invocation ⟨projector, claim :: rest, true⟩
        | .error _ => system.running.erase invocation }
  | _ => system

def performAcknowledge (system : System σ) (invocation : Nat) (now : Timestamp) : System σ :=
  match system.running.get? invocation with
  | some ⟨projector, claim :: rest, true⟩ =>
    match system.outbox.acknowledge claim.sequence projector claim.claimGeneration now with
    | .ok outbox => { system with
        outbox := outbox
        running := system.running.insert invocation ⟨projector, rest, false⟩ }
    | .error _ => { system with running := system.running.erase invocation }
  | _ => system

def performClaim (system : System σ) (invocation : Nat) (projector : CoordinationProjector)
    (now : Timestamp) : System σ :=
  let claimed := system.outbox.claim projector.projector projector.claimTtl projector.batchSize now
  { system with
    outbox := claimed.1
    running := match claimed.2 with
      | .ok claims => system.running.insert invocation ⟨projector.projector, claims, false⟩
      | .error _ => system.running }

def perform (system : System σ) : ProjectorStep σ → System σ
  | .append payload now =>
    match system.outbox.append deployment payload now with
    | .ok appended => { system with outbox := appended.1 }
    | .error _ => system
  | .claim invocation projector now =>
    if system.running.contains invocation then system
    else system.performClaim invocation projector now
  | .apply invocation => system.performApply apply invocation
  | .acknowledge invocation now => system.performAcknowledge invocation now
  | .crash invocation => { system with running := system.running.erase invocation }
  | .elsewhere projection => { system with projection := projection }

end System

end Bridgefu.Coordination
