/- digest: What one operation of the broadcast repository may do to a record and to a command. -/

import Bridgefu.Broadcast.Commands
import Bridgefu.Lib.Trace

set_option autoImplicit false

namespace Bridgefu.Broadcast

open Lib CallEngine MemoryBroadcastState Table

variable {operation : Operation} {state after : MemoryBroadcastState}

variable {identity : BroadcastOperationIdentity}

private theorem Locked.orKeep_fst {α}
    {update : Except BroadcastCommandError (MemoryBroadcastState × α)}
    {motive : MemoryBroadcastState → Prop} (keep : motive state)
    (next : ∀ after result, update = .ok (after, result) → motive after) :
    motive (Locked.orKeep state update).1 := by
  unfold orKeep
  split
  · exact next _ _ rfl
  · exact keep

namespace MemoryBroadcastState

private theorem clear_eq_ok {record cleared : DurableBroadcastRecord} {now}
    (done : record.clear now = .ok cleared) :
    record.runtime = none ∧ cleared = { record with state := .deleted, updatedAt := now } := by
  rw [DurableBroadcastRecord.clear, bind_eq_ok, exists_unit, reject_eq_ok, pure_eq_ok,
    Option.isSome_iff_ne_none, not_not] at done
  exact ⟨done.1, done.2.symm⟩

private theorem claimEach_fst (expiresAt : Timestamp) (state : MemoryBroadcastState)
    (ids : List Nat) : (claimEach expiresAt state ids).1.records = state.records ∧
      ∀ key, (claimEach expiresAt state ids).1.commands.get? key = state.commands.get? key ∨
        ∃ command generation, state.commands.get? key = some command ∧ key ∈ ids ∧
          (claimEach expiresAt state ids).1.commands.get? key = some { command with
            claimGeneration := generation, claimExpiresAt := some expiresAt,
            state := .claimed } := by
  induction ids generalizing state with
  | nil => exact ⟨rfl, fun key => .inl rfl⟩
  | cons commandId rest ih =>
    unfold claimEach
    split
    · exact ⟨rfl, fun key => .inl rfl⟩
    · rename_i command stored
      split
      · exact ⟨rfl, fun key => .inl rfl⟩
      · dsimp only
        split
        · refine ⟨rfl, fun key => ?_⟩
          by_cases same : key = commandId
          · subst same
            exact .inr ⟨command, _, stored, List.mem_cons_self, get?_insert_self ..⟩
          · exact .inl (get?_insert_ne _ _ same)
        · obtain ⟨records, commands⟩ := ih { state with
            commands := state.commands.insert _ (command.claimedUntil expiresAt) }
          refine ⟨records, fun key => ?_⟩
          by_cases same : key = commandId
          · -- claimed at least here, and maybe again in the rest
            subst same
            have first := get?_insert_self state.commands key
              (command.claimedUntil expiresAt)
            rcases commands key with kept | ⟨old, generation, found, -, claimed⟩
            · exact .inr ⟨command, _, stored, List.mem_cons_self, kept.trans first⟩
            · have before := found.symm.trans first
              cases before
              exact .inr ⟨command, generation, stored, List.mem_cons_self, claimed⟩
          · have other := get?_insert_ne state.commands (command.claimedUntil expiresAt) same
            rcases commands key with kept | ⟨old, generation, found, listed, claimed⟩
            · exact .inl (kept.trans other)
            · exact .inr ⟨old, generation, other.symm.trans found,
                List.mem_cons_of_mem _ listed, claimed⟩

private theorem markStale_fst (now : Timestamp) (state : MemoryBroadcastState) (ids : List String) :
    (markStale now state ids).1.commands = state.commands ∧
      ∀ id, (markStale now state ids).1.records.get? id = state.records.get? id ∨
        ∃ record, state.records.get? id = some record ∧ id ∈ ids ∧
          (markStale now state ids).1.records.get? id =
            some (record.fail staleWorkerFence now) := by
  induction ids generalizing state with
  | nil => exact ⟨rfl, fun id => .inl rfl⟩
  | cons broadcastId _ ih =>
    unfold markStale
    split
    · exact ⟨rfl, fun id => .inl rfl⟩
    · rename_i record stored
      obtain ⟨commands, records⟩ := ih { state with
        records := state.records.insert _ (record.fail _ now) }
      refine ⟨commands, fun id => ?_⟩
      by_cases same : id = broadcastId
      · -- a record that is marked twice is marked in the same way
        subst same
        have first := get?_insert_self state.records id (record.fail staleWorkerFence now)
        rcases records id with kept | ⟨marked, found, -, again⟩
        · exact .inr ⟨record, stored, List.mem_cons_self, kept.trans first⟩
        · have before := found.symm.trans first
          cases before
          exact .inr ⟨record, stored, List.mem_cons_self, again⟩
      · have other := get?_insert_ne state.records (record.fail staleWorkerFence now) same
        rcases records id with kept | ⟨old, found, listed, marked⟩
        · exact .inl (kept.trans other)
        · exact .inr ⟨old, other.symm.trans found, List.mem_cons_of_mem _ listed, marked⟩

/-- What a delete request may do: nothing, delete a failed broadcast that is cleaned up, or start
to delete an open one. Receipts apart. -/
inductive Stops (state : MemoryBroadcastState) (now availableAt : Timestamp) (commandId : Nat)
    (broadcastId : String) : MemoryBroadcastState → Prop
  | nothing {after : MemoryBroadcastState} (records : after.records = state.records)
      (commands : after.commands = state.commands) :
      Stops state now availableAt commandId broadcastId after
  | cleared {after : MemoryBroadcastState} {id record}
      (stored : state.records.get? id = some record) (failed : record.state = .failed)
      (clean : record.runtime = none)
      (records : after.records =
        state.records.insert id { record with state := .deleted, updatedAt := now })
      (commands : after.commands = state.commands) :
      Stops state now availableAt commandId broadcastId after
  | deleting {after : MemoryBroadcastState} {record}
      (stored : state.records.get? broadcastId = some record) (isOpen : record.state.isOpen)
      (records : after.records =
        state.records.insert broadcastId { record with state := .deleting, updatedAt := now })
      (commands : after.commands =
        state.withStop availableAt commandId broadcastId record.specification.worker) :
      Stops state now availableAt commandId broadcastId after

private theorem stoppedAgain_stops {now availableAt commandId broadcastId retainedId outcome}
    (done : state.stoppedAgain now retainedId = .ok (after, outcome)) :
    Stops state now availableAt commandId broadcastId after := by
  simp only [stoppedAgain, bind_eq_ok, orFail_eq_ok] at done
  obtain ⟨_, stored, done⟩ := done
  split_ifs at done with failed
  · rw [bind_eq_ok] at done
    obtain ⟨cleared, cleaned, rfl, -⟩ := done
    obtain ⟨clean, rfl⟩ := clear_eq_ok cleaned
    exact .cleared stored failed clean rfl rfl
  · obtain ⟨rfl, -⟩ := done
    exact .nothing rfl rfl

private theorem stopped_stops {now availableAt commandId broadcastId record left}
    (stored : state.records.get? broadcastId = some record)
    (done : state.stopped now availableAt commandId broadcastId record = .ok (after, left)) :
    Stops state now availableAt commandId broadcastId after := by
  unfold stopped at done
  have opened : record.state.isOpen →
      (pure ({ state with
        records := state.records.insert broadcastId
          { record with state := .deleting, updatedAt := now }
        commands := state.withStop availableAt commandId broadcastId
          record.specification.worker },
        { record with state := .deleting, updatedAt := now }) : Except BroadcastCommandError _) =
          .ok (after, left) → Stops state now availableAt commandId broadcastId after := by
    intro isOpen made
    obtain ⟨rfl, -⟩ := made
    exact .deleting stored isOpen rfl rfl
  cases current : record.state with
  | failed =>
    rw [current, bind_eq_ok] at done
    obtain ⟨cleared, cleaned, rfl, -⟩ := done
    obtain ⟨clean, rfl⟩ := clear_eq_ok cleaned
    exact .cleared stored current clean rfl rfl
  | deleted =>
    rw [current] at done
    obtain ⟨rfl, -⟩ := done
    exact .nothing rfl rfl
  | pending | active | deleting =>
    rw [current] at done
    exact opened (by rw [current]; rfl) done

end MemoryBroadcastState

variable [UuidLibrary]

/-- The request starts a new broadcast: it is valid, no receipt answers it and there is room. -/
structure MemoryBroadcastState.Creates (state : MemoryBroadcastState) (checkedAt : Timestamp)
    (commandId : Nat) (specification : DurableBroadcastSpec) (identity : BroadcastOperationIdentity)
    (maxActive : Nat) : Prop where
  drawn : state.commands.get? commandId = none
  valid : validateSpecification checkedAt specification = .ok ()
  unanswered : state.createReceipts.get? (specification.tenantId, identity.idempotencyDigest) = none
  room : state.active specification.worker < maxActive

instance (state : MemoryBroadcastState) (checkedAt : Timestamp) (commandId : Nat)
    (specification : DurableBroadcastSpec) (identity : BroadcastOperationIdentity)
    (maxActive : Nat) :
    Decidable (state.Creates checkedAt commandId specification identity maxActive) :=
  decidable_of_iff (state.commands.get? commandId = none ∧
      validateSpecification checkedAt specification = .ok () ∧
      state.createReceipts.get? (specification.tenantId, identity.idempotencyDigest) = none ∧
      state.active specification.worker < maxActive)
    ⟨fun all => ⟨all.1, all.2.1, all.2.2.1, all.2.2.2⟩,
      fun creates => ⟨creates.drawn, creates.valid, creates.unanswered, creates.room⟩⟩

/-- What an operation leaves of the record under an identifier. -/
inductive RecordChange (state : MemoryBroadcastState) (id : String) :
    Operation → Option DurableBroadcastRecord → Prop
  | kept {operation : Operation} : RecordChange state id operation (state.records.get? id)
  | created {checkedAt now commandId specification} {identity : BroadcastOperationIdentity}
      {maxActive} (creates : state.Creates checkedAt commandId specification identity maxActive)
      (own : specification.broadcastId = id) :
      RecordChange state id
        (.enqueueStart checkedAt now commandId specification identity maxActive)
        (some ⟨specification, .pending, none, none, now, now⟩)
  | deleting {now availableAt commandId tenantId broadcastId}
      {identity : BroadcastOperationIdentity} {record}
      (stored : state.records.get? id = some record) (isOpen : record.state.isOpen) :
      RecordChange state id (.enqueueStop now availableAt commandId tenantId broadcastId identity)
        (some { record with state := .deleting, updatedAt := now })
  | cleared {now availableAt commandId tenantId broadcastId} {identity : BroadcastOperationIdentity}
      {record} (stored : state.records.get? id = some record) (failed : record.state = .failed)
      (clean : record.runtime = none) :
      RecordChange state id (.enqueueStop now availableAt commandId tenantId broadcastId identity)
        (some { record with state := .deleted, updatedAt := now })
  | completed {now claim result command completion record} (held : state.held? claim = some command)
      (own : command.broadcastId = id) (outcome : Completion.of claim.kind result = .ok completion)
      (stored : state.records.get? id = some record) :
      RecordChange state id (.complete now claim result) (some (record.completed completion now))
  | failed {now worker failureCode record} (stored : state.records.get? id = some record)
      (occupies : record.occupies worker) :
      RecordChange state id (.failWorkerBroadcasts now worker failureCode)
        (some (record.fail failureCode now))
  | stale {now current record} (stored : state.records.get? id = some record)
      (listed : id ∈ state.staleIds current) :
      RecordChange state id (.failStaleWorkerBroadcasts now current)
        (some (record.fail staleWorkerFence now))
  | reconciled {now worker sourceBindingGeneration grantGeneration failureCode record}
      (stored : state.records.get? id = some record) (active : record.state = .active)
      (own : record.specification.worker = worker)
      (named : record.grantGeneration = grantGeneration) :
      RecordChange state id
        (.reconcileTerminal now id worker sourceBindingGeneration grantGeneration failureCode)
        (some { record.fail failureCode now with runtime := none })
  | cleaned {now worker grantGeneration record} (stored : state.records.get? id = some record)
      (failed : record.state = .failed) (own : record.specification.worker = worker)
      (named : record.grantGeneration = grantGeneration) :
      RecordChange state id (.finalizeFailedCleanup now id worker grantGeneration)
        (some { record with runtime := none, updatedAt := now })

/-- What an operation leaves of the command under an identifier. -/
inductive CommandChange (state : MemoryBroadcastState) (key : Nat) :
    Operation → Option MemoryBroadcastCommand → Prop
  | kept {operation : Operation} : CommandChange state key operation (state.commands.get? key)
  | start {checkedAt now specification} {identity : BroadcastOperationIdentity} {maxActive}
      (creates : state.Creates checkedAt key specification identity maxActive) :
      CommandChange state key (.enqueueStart checkedAt now key specification identity maxActive)
        (some (.enqueued key specification.broadcastId specification.worker .start now))
  | stop {now availableAt tenantId broadcastId} {identity : BroadcastOperationIdentity} {record}
      (drawn : state.commands.get? key = none)
      (stored : state.records.get? broadcastId = some record) :
      CommandChange state key (.enqueueStop now availableAt key tenantId broadcastId identity)
        (some (.enqueued key broadcastId record.specification.worker .stop availableAt))
  | claimed {now worker claimTtl limit command generation expiresAt}
      (stored : state.commands.get? key = some command)
      (listed : key ∈ state.claimableIds worker now limit) :
      CommandChange state key (.claim now worker claimTtl limit)
        (some { command with
          claimGeneration := generation, claimExpiresAt := some expiresAt, state := .claimed })
  | settled {now claim result command after} (held : state.held? claim = some command)
      (own : claim.commandId = key) :
      CommandChange state key (.complete now claim result)
        (some { command with state := after, claimExpiresAt := none })
  | swept {now worker failureCode command} (stored : state.commands.get? key = some command) :
      CommandChange state key (.failWorkerBroadcasts now worker failureCode)
        (some (command.swept (decide (command.worker = worker))))
  | stale {now current command} (stored : state.commands.get? key = some command) :
      CommandChange state key (.failStaleWorkerBroadcasts now current)
        (some (command.swept (otherFence command.worker current)))

namespace MemoryBroadcastState

private theorem enqueueStart_fst {checkedAt now commandId}
    (drawn : state.commands.get? commandId = none)
    (specification : DurableBroadcastSpec) (identity : BroadcastOperationIdentity)
    (maxActive : Nat) :
    (state.enqueueStart checkedAt now commandId specification identity maxActive).1 = state ∨
      (state.Creates checkedAt commandId specification identity maxActive ∧
        (state.enqueueStart checkedAt now commandId specification identity maxActive).1 =
          (state.started now commandId specification identity).1) := by
  refine Locked.orKeep_fst (motive := fun next => next = state ∨
    (state.Creates _ _ _ _ maxActive ∧
      next = (state.started now commandId specification identity).1)) (.inl rfl) ?_
  intro next _ done
  rw [bind_eq_ok, exists_unit] at done
  obtain ⟨valid, done⟩ := done
  split at done
  · simp only [bind_eq_ok, exists_unit] at done
    obtain ⟨-, _, -, rfl, -⟩ := done
    exact .inl rfl
  · rename_i unanswered
    rw [bind_eq_ok, exists_unit, reject_eq_ok, pure_eq_ok, not_or, Nat.not_le] at done
    obtain ⟨⟨-, room⟩, made⟩ := done
    exact .inr ⟨⟨drawn, valid, unanswered, room⟩, congrArg Prod.fst made.symm⟩

private theorem enqueueStop_stops (state : MemoryBroadcastState) (now availableAt : Timestamp)
    (commandId : Nat) (tenantId : TenantId) (broadcastId : String)
    (identity : BroadcastOperationIdentity) :
    Stops state now availableAt commandId broadcastId
      (state.enqueueStop now availableAt commandId tenantId broadcastId identity).1 := by
  refine Locked.orKeep_fst (motive := Stops _ now _ _ broadcastId)
    (.nothing rfl rfl) ?_
  intro _ _ done
  rw [bind_eq_ok, exists_unit] at done
  obtain ⟨-, done⟩ := done
  split at done
  · rw [bind_eq_ok, exists_unit] at done
    exact stoppedAgain_stops done.2
  · simp only [bind_eq_ok, orFail_eq_ok, Option.filter_eq_some_iff] at done
    obtain ⟨_, ⟨stored, -⟩, ⟨_, _⟩, made, rfl, -⟩ := done
    -- the receipt touches neither records nor commands
    cases stopped_stops stored made with
    | nothing records commands => exact .nothing records commands
    | cleared stored failed clean records commands =>
      exact .cleared stored failed clean records commands
    | deleting stored isOpen records commands => exact .deleting stored isOpen records commands

end MemoryBroadcastState

section Insert

private theorem record_insert {other record}
    (here : RecordChange state other operation (some record)) (id : String) :
    RecordChange state id operation ((state.records.insert other record).get? id) := by
  by_cases same : id = other
  · rw [same, get?_insert_self]
    exact here
  · rw [get?_insert_ne _ _ same]
    exact .kept

private theorem command_insert {other command}
    (here : CommandChange state other operation (some command)) (key : Nat) :
    CommandChange state key operation ((state.commands.insert other command).get? key) := by
  by_cases same : key = other
  · rw [same, get?_insert_self]
    exact here
  · rw [get?_insert_ne _ _ same]
    exact .kept

end Insert

/-- What an operation does to records and to commands. -/
structure Changes (state : MemoryBroadcastState) (operation : Operation)
    (after : MemoryBroadcastState) : Prop where
  record : ∀ id, RecordChange state id operation (after.records.get? id)
  command : ∀ key, CommandChange state key operation (after.commands.get? key)

private theorem Changes.none (state : MemoryBroadcastState) (operation : Operation) :
    Changes state operation state := ⟨fun _ => .kept, fun _ => .kept⟩

private theorem stops_changes {state after}
    {now availableAt commandId tenantId broadcastId} (drawn : state.commands.get? commandId = none)
    (stops : state.Stops now availableAt commandId broadcastId after) :
    Changes state (.enqueueStop now availableAt commandId tenantId broadcastId identity) after := by
  cases stops with
  | nothing records commands =>
    refine ⟨fun _ => ?_, fun _ => ?_⟩
    · rw [records]
      exact .kept
    · rw [commands]
      exact .kept
  | cleared stored failed clean records commands =>
    refine ⟨fun id => ?_, fun _ => ?_⟩
    · rw [records]
      exact record_insert (.cleared stored failed clean) id
    · rw [commands]
      exact .kept
  | deleting stored isOpen records commands =>
    refine ⟨fun id => ?_, fun key => ?_⟩
    · rw [records]
      exact record_insert (.deleting stored isOpen) id
    · rw [commands, withStop]
      split
      · exact .kept
      · exact command_insert (.stop drawn stored) key

private theorem complete_changes (state : MemoryBroadcastState) (now : Timestamp)
    (claim : ClaimedBroadcastCommand) (result : BroadcastCommandResult) :
    Changes state (.complete now claim result) (state.complete now claim result).1 := by
  unfold complete
  split
  · exact .none ..
  · rename_i command held
    split
    · exact .none ..
    · rename_i completion outcome
      dsimp only
      have commands : ∀ key, CommandChange state key (.complete now claim result)
          ((state.commands.insert claim.commandId { command with
            state := completion.commandState, claimExpiresAt := none }).get? key) :=
        command_insert (.settled held rfl)
      split
      · exact ⟨fun _ => .kept, commands⟩
      · rename_i record stored
        exact ⟨record_insert (.completed held rfl outcome stored), commands⟩

private theorem reconcileTerminal_changes (state : MemoryBroadcastState) (now : Timestamp)
    (broadcastId : String) (worker : WorkerLease) (sourceBindingGeneration : Nat)
    (grantGeneration : Option Nat) (failureCode : String) :
    let operation := .reconcileTerminal now broadcastId worker sourceBindingGeneration
      grantGeneration failureCode
    Changes state operation (perform state operation) := by
  refine Locked.orKeep_fst (motive := Changes _ _) (.none ..) ?_
  intro _ _ done
  rw [bind_eq_ok, exists_unit] at done
  obtain ⟨-, done⟩ := done
  split at done
  · cases done
    exact .none ..
  · rename_i record stored
    split_ifs at done with agrees
    · cases done
      exact .none ..
    · cases done
      simp only [not_or, not_not] at agrees
      exact ⟨record_insert (.reconciled stored agrees.1 agrees.2.1 agrees.2.2.2), fun _ => .kept⟩

private theorem finalizeFailedCleanup_changes (state : MemoryBroadcastState) (now : Timestamp)
    (broadcastId : String) (worker : WorkerLease) (grantGeneration : Option Nat) :
    let operation := .finalizeFailedCleanup now broadcastId worker grantGeneration
    Changes state operation (perform state operation) := by
  refine Locked.orKeep_fst (motive := Changes _ _) (.none ..) ?_
  intro _ _ done
  rw [bind_eq_ok, exists_unit] at done
  obtain ⟨-, done⟩ := done
  split at done
  · cases done
    exact .none ..
  · rename_i record stored
    split_ifs at done with agrees
    · cases done
      exact .none ..
    · cases done
      simp only [not_or, not_not] at agrees
      exact ⟨record_insert (.cleaned stored agrees.1 agrees.2.1 agrees.2.2), fun _ => .kept⟩

private theorem mapped_command {change}
    (key : Nat) (here : ∀ command, state.commands.get? key = some command →
      CommandChange state key operation (some (change key command))) :
    CommandChange state key operation ((state.commands.mapValues change).get? key) := by
  rw [get?_mapValues]
  cases stored : state.commands.get? key with
  | none =>
    rw [Option.map_none, ← stored]
    exact .kept
  | some command => exact here command stored

theorem perform_changes (state : MemoryBroadcastState) (operation : Operation) :
    Changes state operation (perform state operation) := by
  cases operation with
  | enqueueStart _ now commandId _ _ maxActive =>
    rw [perform]
    split_ifs with unused
    · exact .none ..
    · have drawn : state.commands.get? commandId = none := by simpa [contains] using unused
      rcases enqueueStart_fst drawn _ _ maxActive with
        same | ⟨creates, made⟩
      · rw [same]
        exact .none ..
      · rw [made]
        exact ⟨record_insert (.created creates rfl), command_insert (.start creates)⟩
  | enqueueStop now _ commandId =>
    rw [perform]
    split_ifs with unused
    · exact .none ..
    · have drawn : state.commands.get? commandId = none := by simpa [contains] using unused
      exact stops_changes drawn (state.enqueueStop_stops ..)
  | claim now worker _ limit =>
    rw [perform, claim]
    split
    · exact .none ..
    · rename_i expiresAt _
      obtain ⟨records, commands⟩ :=
        claimEach_fst expiresAt state (state.claimableIds worker now limit)
      refine ⟨fun id => ?_, fun key => ?_⟩
      · rw [records]
        exact .kept
      · rcases commands key with kept | ⟨_, _, stored, listed, claimed⟩
        · rw [kept]
          exact .kept
        · rw [claimed]
          exact .claimed stored listed
  | complete now claim result => exact complete_changes state now claim result
  | failWorkerBroadcasts =>
    refine ⟨fun id => ?_, fun key => mapped_command key fun _ => .swept⟩
    rw [perform, failWorkerBroadcasts, get?_mapValues]
    cases stored : state.records.get? id with
    | none =>
      rw [Option.map_none, ← stored]
      exact .kept
    | some =>
      rw [Option.map_some]
      split_ifs with occupies
      · exact .failed stored occupies
      · rw [← stored]
        exact .kept
  | failStaleWorkerBroadcasts now current =>
    rw [perform, failStaleWorkerBroadcasts]
    obtain ⟨commands, records⟩ := markStale_fst now _ (state.staleIds current)
    refine ⟨fun id => ?_, fun key => ?_⟩
    · rcases records id with kept | ⟨_, stored, listed, marked⟩
      · rw [kept]
        exact .kept
      · rw [marked]
        exact .stale stored listed
    · rw [commands]
      exact mapped_command key fun _ => .stale
  | reconcileTerminal => exact reconcileTerminal_changes state ..
  | finalizeFailedCleanup => exact finalizeFailedCleanup_changes state ..

/-- What any operation may do to a record. -/
theorem perform_record (state : MemoryBroadcastState) (operation : Operation) (id : String) :
    RecordChange state id operation ((perform state operation).records.get? id) :=
  (perform_changes state operation).record id

/-- What any operation may do to a command. -/
theorem perform_command (state : MemoryBroadcastState) (operation : Operation) (key : Nat) :
    CommandChange state key operation ((perform state operation).commands.get? key) :=
  (perform_changes state operation).command key

theorem perform_of_creates {checkedAt now commandId specification maxActive}
    (creates : state.Creates checkedAt commandId specification identity maxActive) :
    perform state (.enqueueStart checkedAt now commandId specification identity maxActive) =
      (state.started now commandId specification identity).1 := by
  have drawn : ¬ state.commands.contains commandId := by
    simp [creates.drawn]
  have room : ¬ (maxActive = 0 ∨ state.active specification.worker ≥ maxActive) := by
    have space := creates.room
    omega
  rw [perform, if_neg drawn, enqueueStart, creates.valid,
    creates.unanswered, reject, if_neg room]
  rfl

/-- Rows stand under their own identifiers, and a deleted broadcast has nothing left to clean. -/
structure WellFormed (state : MemoryBroadcastState) : Prop where
  records : ∀ id record, state.records.get? id = some record →
    record.specification.broadcastId = id
  commands : ∀ key command, state.commands.get? key = some command → command.commandId = key
  clean : ∀ id record, state.records.get? id = some record → record.state = .deleted →
    record.runtime = none

omit [UuidLibrary] in
theorem wellFormed_default : WellFormed .default where
  records := fun _ _ stored => nomatch stored
  commands := fun _ _ stored => nomatch stored
  clean := fun _ _ stored => nomatch stored

private theorem RecordChange.specification {id after}
    (change : RecordChange state id operation after) {left} (stored : after = some left) :
    (∃ record, state.records.get? id = some record ∧
      left.specification = record.specification) ∨ left.specification.broadcastId = id := by
  cases change with
  | kept => exact .inl ⟨left, stored, rfl⟩
  | created _ own =>
    cases stored
    exact .inr own
  | deleting found | cleared found | completed _ own _ found | failed found
  | stale found | reconciled found | cleaned found =>
    cases stored
    exact .inl ⟨_, found, rfl⟩

omit [UuidLibrary] in
private theorem Completion.runtime_of_deleted {kind result completion}
    (outcome : Completion.of kind result = .ok completion)
    (deleted : completion.recordState = .deleted) : completion.runtime = none := by
  cases result <;> cases kind <;> cases outcome <;> first | rfl | cases deleted

private theorem RecordChange.clean {id after} (change : RecordChange state id operation after)
    (wellFormed : WellFormed state) {left} (stored : after = some left)
    (deleted : left.state = .deleted) : left.runtime = none := by
  cases change with
  | kept => exact wellFormed.clean id left stored deleted
  | cleared _ failed clean =>
    cases stored
    exact clean
  | completed _ _ outcome =>
    cases stored
    exact Completion.runtime_of_deleted outcome deleted
  | cleaned =>
    cases stored
    rfl
  | created | deleting | failed | stale | reconciled => cases stored; cases deleted

structure MemoryBroadcastCommand.SameTask (left command : MemoryBroadcastCommand) : Prop where
  commandId : left.commandId = command.commandId
  broadcastId : left.broadcastId = command.broadcastId
  worker : left.worker = command.worker

omit [UuidLibrary] in
theorem MemoryBroadcastCommand.swept_sameTask (command : MemoryBroadcastCommand)
    (selected : Bool) : (command.swept selected).SameTask command := by
  unfold swept
  split <;> exact ⟨rfl, rfl, rfl⟩

private theorem CommandChange.task {key after} (change : CommandChange state key operation after)
    {left} (stored : after = some left) :
    (∃ command, state.commands.get? key = some command ∧ left.SameTask command) ∨
      (state.commands.get? key = none ∧ left.commandId = key) := by
  cases change with
  | kept => exact .inl ⟨left, stored, rfl, rfl, rfl⟩
  | start creates =>
    cases stored
    exact .inr ⟨creates.drawn, rfl⟩
  | stop drawn =>
    cases stored
    exact .inr ⟨drawn, rfl⟩
  | claimed found =>
    cases stored
    exact .inl ⟨_, found, rfl, rfl, rfl⟩
  | @settled _ _ _ command _ held own =>
    cases stored
    subst own
    obtain ⟨found, -⟩ := Option.filter_eq_some_iff.mp held
    exact .inl ⟨command, found, rfl, rfl, rfl⟩
  | @swept _ _ _ command found | @stale _ _ command found =>
    cases stored
    exact .inl ⟨command, found, command.swept_sameTask _⟩

theorem WellFormed.perform (wellFormed : WellFormed state) (operation : Operation) :
    WellFormed (perform state operation) where
  records := by
    intro id record stored
    rcases (perform_record state operation id).specification stored with ⟨old, found, same⟩ | own
    · rw [same]
      exact wellFormed.records id old found
    · exact own
  commands := by
    intro key command stored
    rcases (perform_command state operation key).task stored with ⟨old, found, same⟩ | ⟨-, own⟩
    · rw [same.commandId]
      exact wellFormed.commands key old found
    · exact own
  clean := fun id _ stored => (perform_record state operation id).clean wellFormed stored

theorem wellFormed_final (operations : List Operation) : WellFormed (final operations) :=
  foldl_induction (motive := WellFormed) wellFormed_default
    (fun _ operation held => held.perform operation) operations

omit [UuidLibrary] in
theorem WellFormed.stale (wellFormed : WellFormed state) {current id record}
    (stored : state.records.get? id = some record) (listed : id ∈ state.staleIds current) :
    record.isStale current := by
  obtain ⟨other, member, same⟩ := List.mem_map.mp listed
  obtain ⟨inside, stale⟩ := List.mem_filter.mp member
  obtain ⟨key, found⟩ := (state.records.mem_values other).mp inside
  have own : key = id := (wellFormed.records key _ found).symm.trans same
  rw [own, stored] at found
  cases found
  exact stale

end Bridgefu.Broadcast
