/- digest: When the shared grant of a broadcast is dropped from its record without a cleanup. -/

import Bridgefu.Broadcast.Changes

set_option autoImplicit false

/-! A record keeps the generation of its shared grant until the grant is revoked. Deleting a failed
broadcast only asks whether there is something left to clean. -/

namespace Bridgefu.Broadcast

open Lib CallEngine

/-- The generation that the record under an identifier keeps. -/
def MemoryBroadcastState.grant? (state : MemoryBroadcastState) (id : String) : Option Nat :=
  (state.records.get? id).bind (·.grantGeneration)

/-- The operation revokes the generation: it completes the stop command of the broadcast, or is a
cleanup that names the generation. -/
def Revokes (state : MemoryBroadcastState) (id : String) (generation : Nat) : Operation → Prop
  | .complete _ claim .stopped =>
    claim.kind = .stop ∧ ∃ command ∈ state.held? claim, command.broadcastId = id
  | .reconcileTerminal _ broadcastId _ _ grantGeneration _ =>
    broadcastId = id ∧ grantGeneration = some generation
  | .finalizeFailedCleanup _ broadcastId _ grantGeneration =>
    broadcastId = id ∧ grantGeneration = some generation
  | _ => False

instance (state : MemoryBroadcastState) (id : String) (generation : Nat) (operation : Operation) :
    Decidable (Revokes state id generation operation) := by
  unfold Revokes
  split <;> infer_instance

def BroadcastCommandResult.KeepsGrant (result : BroadcastCommandResult) (grant : Option Nat) :
    Prop :=
  match result with
  | .started runtime => grant = none ∨ grant = runtime.grantGeneration
  | .stopped => True
  | .failed _ => grant = none

instance (result : BroadcastCommandResult) (grant : Option Nat) :
    Decidable (result.KeepsGrant grant) :=
  match result with
  | .started _ | .stopped | .failed _ => by
    dsimp only [BroadcastCommandResult.KeepsGrant]
    infer_instance

section Runs

variable [UuidLibrary]

/-- A new broadcast replaces none that keeps a generation, and an accepted start or failure is not
reported for one that keeps another. -/
def GrantSafe (state : MemoryBroadcastState) : Operation → Prop
  | .enqueueStart checkedAt _ commandId specification identity maxActive =>
    state.Creates checkedAt commandId specification identity maxActive →
      state.grant? specification.broadcastId = none
  | .complete _ claim result => ∀ command ∈ state.held? claim,
      (Completion.of claim.kind result).isOk → result.KeepsGrant (state.grant? command.broadcastId)
  | _ => True

instance (state : MemoryBroadcastState) (operation : Operation) :
    Decidable (GrantSafe state operation) :=
  match operation with
  | .enqueueStart .. | .enqueueStop .. | .claim .. | .complete .. | .failWorkerBroadcasts ..
  | .failStaleWorkerBroadcasts .. | .reconcileTerminal .. | .finalizeFailedCleanup .. => by
    dsimp only [GrantSafe]
    infer_instance

def Drops (state : MemoryBroadcastState) (operation : Operation) (id : String) (generation : Nat) :
    Prop :=
  state.grant? id = some generation ∧ (perform state operation).grant? id ≠ some generation

private theorem grant?_of_creates {state} {checkedAt now commandId specification identity maxActive}
    (creates : state.Creates checkedAt commandId specification identity maxActive) :
    (perform state (.enqueueStart checkedAt now commandId specification identity
      maxActive)).grant? specification.broadcastId = none := by
  rw [perform_of_creates creates]
  show ((state.records.insert specification.broadcastId
    ⟨specification, .pending, none, none, now, now⟩).get? specification.broadcastId).bind _ = none
  rw [Table.get?_insert_self]
  rfl

private theorem grant?_of_complete {state}
    {now claim result command completion record} (held : state.held? claim = some command)
    (outcome : Completion.of claim.kind result = .ok completion)
    (stored : state.records.get? command.broadcastId = some record) :
    (perform state (.complete now claim result)).grant? command.broadcastId =
      completion.runtime.bind (·.grantGeneration) := by
  simp only [perform, MemoryBroadcastState.complete, held, outcome, stored,
    MemoryBroadcastState.grant?, Table.get?_insert_self]
  rfl

variable {state : MemoryBroadcastState} {operation : Operation} {id : String} {generation : Nat}

private theorem RecordChange.revokes {after} (change : RecordChange state id operation after)
    (safe : GrantSafe state operation) (kept : state.grant? id = some generation)
    (dropped : after.bind (·.grantGeneration) ≠ some generation) :
    Revokes state id generation operation := by
  have held : ∀ record, state.records.get? id = some record →
      record.grantGeneration = some generation := by
    intro record stored
    rw [MemoryBroadcastState.grant?, stored] at kept
    exact kept
  cases change with
  | kept => exact absurd kept dropped
  | created creates own =>
    subst own
    rw [safe creates] at kept
    cases kept
  | deleting stored | cleared stored => exact absurd (held _ stored) dropped
  | @completed _ claim result command _ record claimed own outcome =>
    subst own
    have fits := safe _ claimed (by rw [outcome]; rfl)
    rw [kept] at fits
    cases result with
    | started =>
      rcases fits with none | same
      · cases none
      · revert outcome
        cases claim.kind <;> rintro ⟨⟩
        exact absurd same.symm dropped
    | stopped =>
      refine ⟨?_, command, claimed, rfl⟩
      revert outcome
      cases claim.kind <;> rintro ⟨⟩
      rfl
    | failed => cases fits
  | failed stored | stale stored => exact absurd (held _ stored) dropped
  | reconciled stored _ own named => exact ⟨rfl, named.symm.trans (held _ stored)⟩
  | cleaned stored failed own named => exact ⟨rfl, named.symm.trans (held _ stored)⟩

/-- An operation drops generations only by revoking them, exactly when it is safe. -/
theorem drops_only_by_revoking :
    (∀ id generation, Drops state operation id generation →
      Revokes state id generation operation) ↔ GrantSafe state operation := by
  constructor
  · intro revoked
    unfold GrantSafe
    split
    · rename_i checkedAt now commandId specification identity maxActive
      intro creates
      cases kept : state.grant? specification.broadcastId with
      | none => rfl
      | some generation =>
        have dropped := revoked specification.broadcastId _
          ⟨kept, by rw [grant?_of_creates creates]; simp⟩
        exact dropped.elim
    · rename_i now claim result
      intro command held accepted
      cases outcome : Completion.of claim.kind result with
      | error =>
        rw [outcome] at accepted
        cases accepted
      | ok =>
        cases kept : state.grant? command.broadcastId with
        | none =>
          unfold BroadcastCommandResult.KeepsGrant
          split
          · exact .inl rfl
          · trivial
          · rfl
        | some generation =>
          obtain ⟨_, stored, -⟩ := Option.bind_eq_some_iff.mp kept
          have left := @grant?_of_complete _ _ now _ _ _ _ _ held outcome stored
          have must : (perform state (.complete now claim result)).grant?
              command.broadcastId ≠ some generation →
              Revokes state command.broadcastId generation (.complete now claim result) :=
            fun dropped => revoked _ _ ⟨kept, dropped⟩
          rw [left] at must
          cases result with
          | started runtime =>
            by_cases same : runtime.grantGeneration = some generation
            · exact .inr same.symm
            · refine (must ?_).elim
              revert outcome
              cases claim.kind <;> rintro ⟨⟩
              exact same
          | stopped => trivial
          | failed =>
            refine (must ?_).elim
            cases outcome
            simp
    · trivial
  · intro safe id generation dropped
    exact (perform_record _ _ id).revokes safe dropped.1 dropped.2

private theorem revoked_in_run {operations}
    (safe : ∀ place ∈ trace perform state operations, GrantSafe place.1 place.2)
    (kept : state.grant? id = some generation)
    (gone : (operations.foldl perform state).grant? id ≠ some generation) :
    ∃ place ∈ trace perform state operations, Revokes place.1 id generation place.2 := by
  induction operations generalizing state with
  | nil => exact absurd kept gone
  | cons operation _ ih =>
    by_cases still : (perform state operation).grant? id = some generation
    · obtain ⟨place, member, revokes⟩ :=
        ih (fun place member => safe place (List.mem_cons_of_mem _ member)) still gone
      exact ⟨place, List.mem_cons_of_mem _ member, revokes⟩
    · have first := safe (state, operation) (List.mem_cons_self)
      exact ⟨(state, operation), List.mem_cons_self,
        drops_only_by_revoking.mpr first id _ ⟨kept, still⟩⟩

structure DeletesFailed (state : MemoryBroadcastState) (operation : Operation) (id : String) :
    Prop where
  request : ∃ now availableAt commandId tenantId broadcastId identity,
    operation = .enqueueStop now availableAt commandId tenantId broadcastId identity
  failed : (state.records.get? id).map (·.state) = some .failed
  deleted : ((perform state operation).records.get? id).map (·.state) = some .deleted

private theorem DeletesFailed.clean (deletes : DeletesFailed state operation id) :
    state.grant? id = none := by
  obtain ⟨⟨now, availableAt, commandId, tenantId, broadcastId, identity, rfl⟩, failed, deleted⟩ :=
    deletes
  have change := perform_record state
    (.enqueueStop now availableAt commandId tenantId broadcastId identity) id
  generalize (perform state (.enqueueStop now availableAt commandId tenantId broadcastId
    identity)).records.get? id = after at change deleted
  cases change with
  | kept =>
    rw [failed] at deleted
    cases deleted
  | deleting => cases deleted
  | cleared stored _ clean =>
    rw [MemoryBroadcastState.grant?, stored]
    simp [DurableBroadcastRecord.grantGeneration, clean]

/-- Grant cleanup is not lost where operations are safe: each step drops generations only by
revoking them, and a failed broadcast is deleted only when every generation that it has kept was
revoked. -/
theorem grant_cleanup_kept :
    (∀ (state : MemoryBroadcastState) (operation : Operation),
      (∀ id generation, Drops state operation id generation →
        Revokes state id generation operation) ↔ GrantSafe state operation) ∧
    ∀ (first later : List Operation),
      (∀ place ∈ trace perform (final first) later, GrantSafe place.1 place.2) →
      ∀ id generation, (final first).grant? id = some generation →
      ∀ operation, DeletesFailed (final (first ++ later)) operation id →
        ∃ place ∈ trace perform (final first) later, Revokes place.1 id generation place.2 := by
  refine ⟨fun _ _ => drops_only_by_revoking, ?_⟩
  intro first later safe _ _ kept _ deletes
  refine revoked_in_run safe kept ?_
  have split : final (first ++ later) = later.foldl perform (final first) := List.foldl_append
  rw [← split, deletes.clean]
  simp

end Runs

namespace Sample

/-- The stop command of a running broadcast fails, since its grant could not be revoked. -/
def unrevoked : List Operation :=
  starting ++ [reportStarted 1] ++ stopping ++
    [.complete 4 ⟨11, .stop, 1, record .deleting 2⟩ (.failed "broadcast_authority_unavailable")]

def reconcile : Operation :=
  .reconcileTerminal 2 townHall lease 1 (some 77) "source_ended"

def deleteAgain : Operation := .enqueueStop 5 5 12 ⟨"acme"⟩ townHall ⟨3, 3⟩

end Sample

section Witness

attribute [local instance] Sample.uuids

theorem grant_cleanup_kept_reconciled :
    ∃ place ∈ trace perform (final (Sample.starting ++ [Sample.reportStarted 1]))
      [Sample.reconcile], Revokes place.1 Sample.townHall 77 place.2 := by
  refine grant_cleanup_kept.2 (Sample.starting ++ [Sample.reportStarted 1]) [Sample.reconcile]
    (by decide +kernel) Sample.townHall 77 (by decide +kernel) Sample.deleteAgain ?_
  exact ⟨⟨_, _, _, _, _, _, rfl⟩, by decide +kernel, by decide +kernel⟩

/-- The failed stop drops the generation, and the broadcast is deleted with its grant in force. -/
theorem unrevoked_grant_deleted :
    (final (Sample.starting ++ [Sample.reportStarted 1])).grant? Sample.townHall = some 77 ∧
      (∀ place ∈ trace perform (final (Sample.starting ++ [Sample.reportStarted 1]))
        (Sample.unrevoked.drop 3), ¬ Revokes place.1 Sample.townHall 77 place.2) ∧
      ((final Sample.unrevoked).records.get? Sample.townHall).map (·.state) = some .failed ∧
      ((final (Sample.unrevoked ++ [Sample.deleteAgain])).records.get? Sample.townHall).map (·.state) =
        some .deleted := by
  decide +kernel

end Witness

end Bridgefu.Broadcast
