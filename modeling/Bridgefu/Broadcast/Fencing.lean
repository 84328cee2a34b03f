/- digest: Operations of a worker incarnation spare the broadcasts of newer incarnations. -/

import Bridgefu.Broadcast.Changes

set_option autoImplicit false

/-! A claim is completed on behalf of the incarnation that it was handed to. Requests of gateways
are on behalf of no worker. -/

namespace Bridgefu.Broadcast

open Lib CallEngine

structure Newer (worker lease : WorkerLease) : Prop where
  same : worker.workerId = lease.workerId
  later : lease.fence < worker.fence

instance (worker lease : WorkerLease) : Decidable (Newer worker lease) :=
  decidable_of_iff (worker.workerId = lease.workerId ∧ lease.fence < worker.fence)
    ⟨fun both => ⟨both.1, both.2⟩, fun newer => ⟨newer.same, newer.later⟩⟩

private theorem Newer.ne {worker lease} (newer : Newer worker lease) : worker ≠ lease := by
  rintro rfl
  exact Nat.lt_irrefl _ newer.later

abbrev Place := MemoryBroadcastState × Operation

/-- The claim was handed to the incarnation. -/
def Issued (past : List Place) (claim : ClaimedBroadcastCommand) (lease : WorkerLease) : Prop :=
  ∃ place ∈ past, ∃ now claimTtl limit claims, place.2 = .claim now lease claimTtl limit ∧
    (place.1.claim now lease claimTtl limit).2 = .ok claims ∧ claim ∈ claims

/-- The operation is performed on behalf of the incarnation. -/
def ActsFor (past : List Place) (lease : WorkerLease) : Operation → Prop
  | .claim _ worker _ _ => worker = lease
  | .complete _ claim _ => Issued past claim lease
  | .failWorkerBroadcasts _ worker _ => worker = lease
  | .failStaleWorkerBroadcasts _ current => current = lease
  | .reconcileTerminal _ _ worker _ _ _ => worker = lease
  | .finalizeFailedCleanup _ _ worker _ => worker = lease
  | .enqueueStart .. | .enqueueStop .. => False

/-- The sweep of the incarnation finds no newer one at work. -/
structure SparesNewer (state : MemoryBroadcastState) (current : WorkerLease) : Prop where
  records : ∀ id record, state.records.get? id = some record →
    Newer record.specification.worker current → ¬ record.isStale current
  commands : ∀ key command, state.commands.get? key = some command →
    Newer command.worker current → ¬ command.state.isLive

section Runs

variable [UuidLibrary]

/-- A new broadcast has a new identifier, and the sweep of stale broadcasts finds no newer
incarnation at work. -/
def FenceSafe (state : MemoryBroadcastState) : Operation → Prop
  | .enqueueStart checkedAt _ commandId specification identity maxActive =>
    state.Creates checkedAt commandId specification identity maxActive →
      state.records.get? specification.broadcastId = none
  | .failStaleWorkerBroadcasts _ current => SparesNewer state current
  | _ => True

variable {state : MemoryBroadcastState} {operation : Operation}

variable {command : MemoryBroadcastCommand} {past : List Place}

private theorem CommandChange.stays {key after} (change : CommandChange state key operation after)
    (stored : state.commands.get? key = some command) :
    ∃ left, after = some left ∧ left.SameTask command := by
  cases change with
  | kept => exact ⟨command, stored, rfl, rfl, rfl⟩
  | start creates =>
    rw [creates.drawn] at stored
    cases stored
  | stop drawn =>
    rw [drawn] at stored
    cases stored
  | claimed found =>
    rw [stored] at found
    cases found
    exact ⟨_, rfl, rfl, rfl, rfl⟩
  | settled held own =>
    subst own
    obtain ⟨found, -⟩ := Option.filter_eq_some_iff.mp held
    rw [stored] at found
    cases found
    exact ⟨_, rfl, rfl, rfl, rfl⟩
  | swept found | stale found =>
    rw [stored] at found
    cases found
    exact ⟨_, rfl, command.swept_sameTask _⟩

private theorem RecordChange.stays {id after} (change : RecordChange state id operation after)
    (safe : FenceSafe state operation) {record} (stored : state.records.get? id = some record) :
    ∃ left, after = some left ∧ left.specification = record.specification := by
  have same : ∀ {other}, state.records.get? id = some other → other = record := by
    intro other found
    rw [stored] at found
    cases found
    rfl
  cases change with
  | kept => exact ⟨record, stored, rfl⟩
  | created creates own =>
    subst own
    rw [safe creates] at stored
    cases stored
  | deleting found | cleared found | completed _ _ _ found | failed found | stale found =>
    exact ⟨_, rfl, congrArg (·.specification) (same found)⟩
  | reconciled found | cleaned found => exact ⟨_, rfl, congrArg (·.specification) (same found)⟩

/-- Each command is of the worker of its broadcast, and a claim that was handed out is of a command
of the incarnation that it was handed to. -/
structure Fenced (past : List Place) (state : MemoryBroadcastState) : Prop where
  wellFormed : WellFormed state
  bound : ∀ key command, state.commands.get? key = some command →
    ∃ record, state.records.get? command.broadcastId = some record ∧
      record.specification.worker = command.worker
  issued : ∀ claim lease, Issued past claim lease →
    ∃ command, state.commands.get? claim.commandId = some command ∧ command.worker = lease

omit [UuidLibrary] in
private theorem fenced_default : Fenced [] .default where
  wellFormed := wellFormed_default
  bound := fun _ _ stored => nomatch stored
  issued := by
    rintro _ _ ⟨_, member, -⟩
    exact absurd member List.not_mem_nil

omit [UuidLibrary] in
private theorem WellFormed.claimable (wellFormed : WellFormed state) {worker now limit key}
    (listed : key ∈ state.claimableIds worker now limit) :
    ∃ command, state.commands.get? key = some command ∧ command.worker = worker := by
  obtain ⟨_, taken, rfl⟩ := List.mem_map.mp listed
  have ready := List.mem_mergeSort.mp (List.mem_of_mem_take taken)
  obtain ⟨command, member, rfl⟩ := List.mem_map.mp ready
  obtain ⟨inside, claimable⟩ := List.mem_filter.mp member
  obtain ⟨key, found⟩ := (state.commands.mem_values command).mp inside
  have own := wellFormed.commands key _ found
  refine ⟨command, own.symm ▸ found, ?_⟩
  simp only [MemoryBroadcastCommand.claimable, Bool.and_eq_true, decide_eq_true_eq] at claimable
  exact claimable.1.1

omit [UuidLibrary] in
private theorem claimEach_listed {expiresAt ids claims claim}
    (done : (MemoryBroadcastState.claimEach expiresAt state ids).2 = .ok claims)
    (member : claim ∈ claims) : claim.commandId ∈ ids := by
  induction ids generalizing state claims with
  | nil =>
    cases done
    exact absurd member List.not_mem_nil
  | cons _ _ ih =>
    unfold MemoryBroadcastState.claimEach at done
    split at done
    · cases done
    · split at done
      · cases done
      · dsimp only at done
        split at done
        · cases done
        · rw [map_eq_ok] at done
          obtain ⟨_, made, rfl⟩ := done
          rcases List.mem_cons.mp member with rfl | inside
          · exact List.mem_cons_self
          · exact List.mem_cons_of_mem _ (ih made inside)

omit [UuidLibrary] in
private theorem claim_listed {now worker claimTtl limit claims claim}
    (done : (state.claim now worker claimTtl limit).2 = .ok claims) (member : claim ∈ claims) :
    claim.commandId ∈ state.claimableIds worker now limit := by
  unfold MemoryBroadcastState.claim at done
  split at done
  · cases done
  · exact claimEach_listed done member

private theorem bound_perform (held : Fenced past state) (safe : FenceSafe state operation) {key}
    (stored : (perform state operation).commands.get? key = some command) :
    ∃ record, (perform state operation).records.get? command.broadcastId = some record ∧
      record.specification.worker = command.worker := by
  -- a record that was there for a command of the same worker is still there
  have kept : ∀ {id worker record}, state.records.get? id = some record →
      record.specification.worker = worker →
      ∃ left, (perform state operation).records.get? id = some left ∧
        left.specification.worker = worker := by
    intro id worker record found own
    obtain ⟨left, now, same⟩ := (perform_record _ _ id).stays safe found
    exact ⟨left, now, by rw [same, own]⟩
  have change := perform_command state operation key
  rw [stored] at change
  generalize left : some command = after at change
  cases change with
  | kept =>
    obtain ⟨record, found, own⟩ := held.bound key _ left.symm
    exact kept found own
  | @start _ now specification _ _ creates =>
    cases left
    rw [perform_of_creates creates]
    exact ⟨_, Table.get?_insert_self .., rfl⟩
  | stop _ found =>
    cases left
    exact kept found rfl
  | claimed found =>
    cases left
    obtain ⟨record, there, own⟩ := held.bound key _ found
    exact kept there own
  | settled claimed own =>
    cases left
    obtain ⟨found, -⟩ := Option.filter_eq_some_iff.mp claimed
    obtain ⟨record, there, own⟩ := held.bound _ _ found
    exact kept there own
  | @swept _ worker _ old found =>
    obtain ⟨record, there, own⟩ := held.bound key old found
    have task := old.swept_sameTask (decide (old.worker = worker))
    cases left
    rw [task.broadcastId, task.worker]
    exact kept there own
  | @stale _ current old found =>
    obtain ⟨record, there, own⟩ := held.bound key old found
    have task := old.swept_sameTask (otherFence old.worker current)
    cases left
    rw [task.broadcastId, task.worker]
    exact kept there own

theorem Fenced.perform (held : Fenced past state) (safe : FenceSafe state operation) :
    Fenced (past ++ [(state, operation)]) (perform state operation) where
  wellFormed := held.wellFormed.perform operation
  bound := fun _ _ stored => bound_perform held safe stored
  issued := by
    rintro claim lease ⟨place, member, now, claimTtl, limit, claims, claims', handed, inside⟩
    -- the command of the claim was there when the step began
    have before : ∃ command, state.commands.get? claim.commandId = some command ∧
        command.worker = lease := by
      rcases List.mem_append.mp member with old | new
      · exact held.issued claim lease
          ⟨place, old, now, claimTtl, limit, claims, claims', handed, inside⟩
      · rw [List.mem_singleton.mp new] at handed
        exact held.wellFormed.claimable (claim_listed handed inside)
    obtain ⟨command, stored, own⟩ := before
    obtain ⟨left, found, same⟩ := (perform_command state operation claim.commandId).stays stored
    exact ⟨left, found, same.worker.trans own⟩

/-- The operation of an incarnation leaves the rows of newer incarnations alone. -/
structure LeavesNewer (state : MemoryBroadcastState) (operation : Operation) (lease : WorkerLease) :
    Prop where
  records : ∀ id record, state.records.get? id = some record →
    Newer record.specification.worker lease →
      (Broadcast.perform state operation).records.get? id = some record
  commands : ∀ key command, state.commands.get? key = some command →
    Newer command.worker lease →
      (Broadcast.perform state operation).commands.get? key = some command

private theorem records_left {lease} (held : Fenced past state) (safe : FenceSafe state operation)
    (acts : ActsFor past lease operation) {id record} (stored : state.records.get? id = some record)
    (newer : Newer record.specification.worker lease) :
    (perform state operation).records.get? id = some record := by
  have same : ∀ {other}, state.records.get? id = some other → other = record := by
    intro other found
    rw [stored] at found
    cases found
    rfl
  have change := perform_record state operation id
  generalize (perform state operation).records.get? id = after at change
  cases change with
  | kept => exact stored
  | created | deleting | cleared => exact acts.elim
  | @completed _ claim _ _ _ _ claimed own =>
    obtain ⟨_, there, worker⟩ := held.issued _ _ acts
    obtain ⟨also, -⟩ := Option.filter_eq_some_iff.mp claimed
    rw [there] at also
    cases also
    obtain ⟨_, bound, of⟩ := held.bound claim.commandId _ there
    rw [own, stored] at bound
    cases bound
    exact absurd (of.trans worker) newer.ne
  | failed found occupies =>
    rw [same found] at occupies
    rw [DurableBroadcastRecord.occupies, Bool.and_eq_true, decide_eq_true_eq] at occupies
    exact absurd (occupies.1.trans acts) newer.ne
  | stale found listed =>
    have stale := held.wellFormed.stale stored listed
    subst acts
    exact absurd stale (safe.records id _ stored newer)
  | reconciled found _ own | cleaned found failed own =>
    rw [same found] at own
    exact absurd (own.trans acts) newer.ne

private theorem commands_left {lease} (held : Fenced past state) (safe : FenceSafe state operation)
    (acts : ActsFor past lease operation) {key} (stored : state.commands.get? key = some command)
    (newer : Newer command.worker lease) :
    (perform state operation).commands.get? key = some command := by
  have change := perform_command state operation key
  generalize (perform state operation).commands.get? key = after at change
  cases change with
  | kept => exact stored
  | start | stop => exact acts.elim
  | claimed found listed =>
    obtain ⟨mine, there, worker⟩ := held.wellFormed.claimable listed
    rw [stored] at there
    cases there
    exact absurd (worker.trans acts) newer.ne
  | @settled _ _ _ _ _ claimed own =>
    obtain ⟨mine, there, worker⟩ := held.issued _ _ acts
    rw [own, stored] at there
    cases there
    exact absurd worker newer.ne
  | swept found =>
    rw [stored] at found
    cases found
    have other : command.worker ≠ _ := fun equal => newer.ne (equal.trans acts)
    rw [MemoryBroadcastCommand.swept, if_neg (by simp [other])]
  | stale found =>
    rw [stored] at found
    cases found
    subst acts
    have settled := safe.commands key _ stored newer
    rw [MemoryBroadcastCommand.swept, if_neg (by simp [settled])]

private theorem fenced_run {operations}
    (safe : ∀ place ∈ trace perform .default operations, FenceSafe place.1 place.2) :
    Fenced (trace perform .default operations) (final operations) := by
  revert safe
  refine trace_induction (motive := fun past state =>
    (∀ place ∈ past, FenceSafe place.1 place.2) → Fenced past state) (fun _ => fenced_default) ?_
    operations
  intro past state operation held all
  have before := held fun place member => all _ (List.mem_append_left _ member)
  exact before.perform (all (state, operation) (by simp))

/-- In every run in which new broadcasts have new identifiers and no sweep of stale broadcasts finds
a newer incarnation at work, no operation on behalf of an incarnation changes a record or a command
of a newer one. -/
theorem newer_incarnations_untouched {operations : List Operation}
    (safe : ∀ place ∈ trace perform .default operations, FenceSafe place.1 place.2) :
    ∀ before state operation after,
      trace perform .default operations = before ++ (state, operation) :: after →
      ∀ lease, ActsFor before lease operation → LeavesNewer state operation lease := by
  intro _ _ operation _ split _ acts
  obtain ⟨first, _, rfl, rfl, rfl, -⟩ := trace_split split
  have here : FenceSafe (first.foldl perform .default) operation :=
    safe (first.foldl perform .default, operation) (by rw [split]; simp)
  have held : Fenced (trace perform .default first) (final first) := by
    refine fenced_run fun _ member => safe _ ?_
    rw [split]
    exact List.mem_append_left _ member
  exact ⟨fun _ _ stored newer => records_left held here acts stored newer,
    fun _ _ stored newer => commands_left held here acts stored newer⟩

end Runs

namespace Sample

/-- The incarnation before the one that runs the broadcast. -/
def superseded : WorkerLease := ⟨⟨1⟩, 1⟩

/-- The older incarnation looks for stale broadcasts after the newer one has started its own. -/
def lateSweep : Operation := .failStaleWorkerBroadcasts 5 superseded

end Sample

section Witness

attribute [local instance] Sample.uuids

theorem newer_incarnations_untouched_town_hall :
    LeavesNewer (final Sample.starting)
      (.failWorkerBroadcasts 5 Sample.superseded "worker_stopped") Sample.superseded := by
  have safe : ∀ place ∈ trace perform .default (Sample.starting ++
      [.failWorkerBroadcasts 5 Sample.superseded "worker_stopped"]), FenceSafe place.1 place.2 := by
    intro place member
    simp only [Sample.starting, List.cons_append, List.nil_append, trace, List.mem_cons,
      List.not_mem_nil, or_false] at member
    rcases member with rfl | rfl | rfl
    · intro _
      rfl
    · trivial
    · trivial
  exact newer_incarnations_untouched safe _ _ _ [] (by rw [trace_append]; rfl) Sample.superseded rfl

/-- A late sweep of the older incarnation fails the broadcast and the command of the newer one. -/
theorem late_sweep_fails_newer :
    Newer Sample.lease Sample.superseded ∧
      ((final Sample.starting).records.get? Sample.townHall).map (·.state) = some .pending ∧
      ((final Sample.starting).commands.get? 10).map (·.state) = some .claimed ∧
      ((final (Sample.starting ++ [Sample.lateSweep])).records.get? Sample.townHall).map (·.state) =
        some .failed ∧
      ((final (Sample.starting ++ [Sample.lateSweep])).commands.get? 10).map (·.state) =
        some .failed := by
  decide +kernel

end Witness

end Bridgefu.Broadcast
