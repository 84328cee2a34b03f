/- digest: Commands of the memory store are claimed once while they are remembered. -/

import Bridgefu.PrivateEgress.Journal
import Bridgefu.Lib.Relational

set_option autoImplicit false

/-! The record of a command changes in three ways: it is completed, it is rejected when another
epoch begins, and a sweep forgets it once it has been settled for long enough. While it is there,
every claim of the command is answered from it. -/

namespace Bridgefu.PrivateEgress

open Lib CallEngine MemoryState Table

variable {record : MemoryCommandRecord} {state : MemoryState}
  {store : MemoryPrivateEgressStateStore} {epoch : PrivateEgressGatewayEpoch}
  {place : String × Uuid}

/-- The record has a response, and got it long enough ago. -/
def MemoryCommandRecord.isForgotten (record : MemoryCommandRecord) (ttlMs atMs : Int) : Bool :=
  record.response.isSome &&
    decide (ttlMs ≤ saturatingSub atMs (record.completedAtMs.getD record.createdAtMs))

/-- The operation sweeps, and finds that the command was settled longer ago than it is kept. -/
def Operation.Forgets (store : MemoryPrivateEgressStateStore) (state : MemoryState)
    (operation : Operation) (place : String × Uuid) : Prop :=
  ∃ epoch commandId digest atMs record, operation = .claimCommand epoch commandId digest atMs ∧
    state.ensureEpoch epoch = .ok () ∧ state.commands.get? place = some record ∧
    record.isForgotten store.ttlMs atMs

inductive CommandStep (store : MemoryPrivateEgressStateStore) (state : MemoryState)
    (operation : Operation) (place : String × Uuid) (record : MemoryCommandRecord) :
    Option MemoryCommandRecord → Prop
  | same : CommandStep store state operation place record (some record)
  | fence {epoch atMs later} (begins : operation = .beginEpoch epoch atMs)
      (gateway : epoch.gatewayId = place.1)
      (other : state.activeEpochs.get? place.1 ≠ some epoch.instanceId)
      (digest : later.digest = record.digest) :
      CommandStep store state operation place record (some later)
  | complete {epoch response atMs}
      (completes : operation = .completeCommand epoch place.2 record.digest response atMs)
      (unanswered : record.response = none) :
      CommandStep store state operation place record
        (some { record with response := some response, completedAtMs := some atMs })
  | forget {after} (forgets : operation.Forgets store state place) :
      CommandStep store state operation place record after

section CommandStep

variable {operation : Operation} {atMs : Int}

private theorem sweep_command (stored : state.commands.get? place = some record)
    (kept : record.isForgotten store.ttlMs atMs = false) :
    (state.sweep store atMs).commands.get? place = some record := by
  unfold MemoryState.sweep
  rw [get?_filter, stored, Option.filter_some, if_pos]
  unfold MemoryCommandRecord.isForgotten at kept
  rw [Bool.and_eq_false_iff, decide_eq_false_iff_not] at kept
  rw [Bool.or_eq_true, decide_eq_true_eq]
  rcases kept with unanswered | fresh
  · right
    rw [Option.isNone_iff_eq_none, ← Option.not_isSome_iff_eq_none, unanswered]
    exact Bool.false_ne_true
  · left
    exact Int.not_le.mp fresh

private theorem claim_answer {commandId digest} (active : state.ensureEpoch epoch = .ok ())
    (stored : state.commands.get? (epoch.gatewayId, commandId) = some record)
    (kept : record.isForgotten store.ttlMs atMs = false) :
    state.claimCommand store epoch commandId digest atMs =
      (state.sweep store atMs,
        if record.digest ≠ digest then .error .replayConflict
        else .ok (record.response.elim .inFlight .completed)) := by
  unfold claimCommand
  rw [active]
  dsimp only
  rw [sweep_command stored kept]
  dsimp only
  split
  · rfl
  · cases record.response <;> rfl

private theorem beginEpoch_command (stored : state.commands.get? place = some record) :
    CommandStep store state (.beginEpoch epoch atMs) place record
      ((state.fenced epoch atMs).commands.get? place) := by
  unfold fenced
  cases previous : (state.activeEpochs.get? epoch.gatewayId).filter (· ≠ epoch.instanceId) with
  | none =>
    rw [stored]
    exact .same
  | some =>
    obtain ⟨active, other⟩ := Option.filter_eq_some_iff.mp previous
    rw [get?_mapValues, stored, Option.map_some]
    unfold fenceCommand
    split_ifs with here
    · refine .fence rfl here.1.symm ?_ rfl
      rw [here.1, active]
      exact fun same => of_decide_eq_true other (Option.some.inj same)
    · exact .same

private theorem claim_remembers {commandId digest}
    (stored : state.commands.get? place = some record) (active : state.ensureEpoch epoch = .ok ())
    (forgets : ¬ Operation.Forgets store state (.claimCommand epoch commandId digest atMs) place) :
    (state.sweep store atMs).commands.get? place = some record := by
  refine sweep_command stored ?_
  by_contra old
  rw [Bool.not_eq_false] at old
  exact forgets ⟨epoch, commandId, digest, atMs, record, rfl, active, stored, old⟩

private theorem Written.command {outcome} (written : Written store state operation outcome)
    (stored : state.commands.get? place = some record) :
    CommandStep store state operation place record (outcome.1.commands.get? place) := by
  by_cases forgets : operation.Forgets store state place
  · exact .forget forgets
  have stays : CommandStep store state operation place record (state.commands.get? place) := by
    rw [stored]
    exact .same
  cases written with
  | fence => exact beginEpoch_command stored
  | sweep active =>
    rw [claim_remembers stored active forgets]
    exact .same
  | claim active absent =>
    have swept := claim_remembers stored active forgets
    rw [get?_insert]
    split_ifs with here
    · rw [here, absent] at swept
      cases swept
    · rw [swept]
      exact .same
  | complete found unanswered =>
    rw [get?_insert]
    split_ifs with here
    · subst here
      cases found.symm.trans stored
      exact .complete rfl unanswered
    · exact stays
  | _ => exact stays

private theorem next_command (store : MemoryPrivateEgressStateStore)
    (stored : state.commands.get? place = some record) (operation : Operation) :
    CommandStep store state operation place record
      ((state.next store operation).commands.get? place) :=
  (perform_written store state operation).command stored

end CommandStep

section Runs

theorem run_remembers (stored : state.commands.get? place = some record)
    (operations : List Operation)
    (remembered : ∀ step ∈ trace (next store) state operations,
      ¬ step.2.Forgets store step.1 place) :
    ∃ later, (operations.foldl (next store) state).commands.get? place = some later ∧
      later.digest = record.digest := by
  induction operations generalizing state record with
  | nil => exact ⟨record, stored, rfl⟩
  | cons operation _ ih =>
    have step := next_command store stored operation
    have others := fun step member => remembered step (List.mem_cons_of_mem _ member)
    generalize after : (state.next store operation).commands.get? place = row at step
    cases step with
    | same => exact ih after others
    | fence _ _ _ digest =>
      obtain ⟨last, found, same⟩ := ih after others
      exact ⟨last, found, same.trans digest⟩
    | complete =>
      obtain ⟨last, found, digest⟩ := ih after others
      exact ⟨last, found, digest⟩
    | forget forgets =>
      exact absurd forgets (remembered (state, operation) List.mem_cons_self)

variable {commandId : Uuid}

theorem run_answers {response}
    (active : state.activeEpochs.get? epoch.gatewayId = some epoch.instanceId)
    (stored : state.commands.get? (epoch.gatewayId, commandId) = some record)
    (answered : record.response = some response) (operations : List Operation)
    (remembered : ∀ step ∈ trace (next store) state operations,
      ¬ step.2.Forgets store step.1 (epoch.gatewayId, commandId) ∧ ¬ step.2.Supersedes epoch) :
    (operations.foldl (next store) state).activeEpochs.get? epoch.gatewayId =
        some epoch.instanceId ∧
      (operations.foldl (next store) state).commands.get?
        (epoch.gatewayId, commandId) = some record := by
  induction operations generalizing state with
  | nil => exact ⟨active, stored⟩
  | cons operation _ ih =>
    obtain ⟨kept, standing⟩ := remembered (state, operation) List.mem_cons_self
    have step := next_command store stored operation
    have others := fun step member => remembered step (List.mem_cons_of_mem _ member)
    generalize after : (state.next store operation).commands.get? _ = row at step
    cases step with
    | same => exact ih (next_active active standing) after others
    | @fence later atMs _ begins gateway other =>
      refine absurd ⟨later, atMs, begins, gateway, fun same => other ?_⟩ standing
      rw [same]
      exact active
    | complete _ unanswered =>
      rw [answered] at unanswered
      cases unanswered
    | forget forgets => exact absurd forgets kept

private theorem answered_eq_ok {σ α answer} (apart : Function.Injective answer)
    {outcome : σ × Except PrivateEgressError α} {value} :
    (answered answer outcome).2 = .ok (answer value) ↔ outcome.2 = .ok value := by
  unfold answered
  cases outcome.2 with
  | error => exact ⟨fun done => (nomatch done), fun done => (nomatch done)⟩
  | ok =>
    constructor
    · intro done
      exact congrArg Except.ok (apart (Except.ok.inj done))
    · rintro ⟨⟩
      rfl

private theorem acquired_record {commandId digest atMs}
    (done : (state.perform store (.claimCommand epoch commandId digest atMs)).2 =
      .ok (.claim .acquired)) :
    (state.next store (.claimCommand epoch commandId digest atMs)).commands.get?
      (epoch.gatewayId, commandId) = some ⟨epoch.instanceId, digest, atMs, none, none⟩ := by
  have written := perform_written store state (.claimCommand epoch commandId digest atMs)
  unfold next
  generalize state.perform store (.claimCommand epoch commandId digest atMs) = outcome at written done
  cases written with
  | refused => cases done
  | read reads => cases reads
  | sweep _ other => exact absurd done other
  | claim => exact get?_insert_self ..
  | route writes => cases writes

private theorem completed_record {commandId digest response atMs}
    (done : (state.perform store (.completeCommand epoch commandId digest response atMs)).2 =
      .ok .done) :
    ∃ record, (state.next store (.completeCommand epoch commandId digest response atMs)).commands.get?
        (epoch.gatewayId, commandId) = some record ∧
      record.digest = digest ∧ record.response = some response := by
  have written := perform_written store state (.completeCommand epoch commandId digest response atMs)
  unfold next
  generalize state.perform store (.completeCommand epoch commandId digest response atMs) = outcome
    at written done
  cases written with
  | refused => cases done
  | read reads => cases reads
  | repeated stored answered => exact ⟨_, stored, rfl, answered⟩
  | complete => exact ⟨_, get?_insert_self .., rfl, rfl⟩
  | route writes => cases writes

private theorem remembered_claim {digest atMs}
    (stored : state.commands.get? (epoch.gatewayId, commandId) = some record)
    (kept : ¬ Operation.Forgets store state (.claimCommand epoch commandId digest atMs)
      (epoch.gatewayId, commandId))
    (active : state.activeEpochs.get? epoch.gatewayId = some epoch.instanceId) :
    (state.perform store (.claimCommand epoch commandId digest atMs)).2 =
      if record.digest ≠ digest then .error .replayConflict
      else .ok (.claim (record.response.elim .inFlight .completed)) := by
  have alive := ensureEpoch_eq_ok.mpr active
  have fresh : record.isForgotten store.ttlMs atMs = false := by
    by_contra old
    rw [Bool.not_eq_false] at old
    exact kept ⟨epoch, commandId, digest, atMs, record, rfl, alive, stored, old⟩
  rw [perform, claim_answer alive stored fresh]
  split <;> rfl

end Runs

/-- The journal and the replay of commands, over every run of the memory store.

The numbers of one incarnation of a route are 1, 2, 3 and so on, and the journal is read in this
order. An event that was appended is read until it is acknowledged, its epoch is superseded, or a
sweep finds its route expired. A command that was claimed is not claimed again while it is
remembered: another fingerprint is a conflict, and the same one gets what is stored, which is the
response once there is one. -/
theorem journal_and_replay (store : MemoryPrivateEgressStateStore) (operations : List Operation) :
    let state := operations.foldl (MemoryState.next store) .default
    (∀ place, ∃ count, MemoryState.incarnation store place
      (trace (MemoryState.next store) .default operations) = List.range' 1 count) ∧
    (∀ epoch key events,
      (state.perform store (.unackedLifecycle epoch key)).2 = .ok (.unacked events) →
        events.Pairwise fun first second => first.sequence < second.sequence) ∧
    (∀ epoch key event stamped atMs,
      (state.perform store (.appendLifecycle epoch key event atMs)).2 = .ok (.stamped stamped) →
      ∀ later : List Operation,
        (∀ step ∈ trace (MemoryState.next store)
            (state.next store (.appendLifecycle epoch key event atMs)) later,
          ¬ step.2.AcknowledgesEvent store step.1 (epoch.gatewayId, event.eventId) ∧
          ¬ step.2.Supersedes epoch ∧
          ¬ step.2.Expires store step.1 (epoch.gatewayId, key)) →
        ∃ events, ((later.foldl (MemoryState.next store)
            (state.next store (.appendLifecycle epoch key event atMs))).perform store
              (.unackedLifecycle epoch key)).2 = .ok (.unacked events) ∧ stamped ∈ events) ∧
    (∀ epoch commandId digest atMs,
      (state.perform store (.claimCommand epoch commandId digest atMs)).2 =
        .ok (.claim .acquired) →
      ∀ later : List Operation,
        (∀ step ∈ trace (MemoryState.next store)
            (state.next store (.claimCommand epoch commandId digest atMs)) later,
          ¬ step.2.Forgets store step.1 (epoch.gatewayId, commandId)) →
        let last := later.foldl (MemoryState.next store)
          (state.next store (.claimCommand epoch commandId digest atMs))
        ∀ again : PrivateEgressGatewayEpoch, again.gatewayId = epoch.gatewayId →
          ∀ fingerprint time,
          ¬ Operation.Forgets store last (.claimCommand again commandId fingerprint time)
            (epoch.gatewayId, commandId) →
          (last.perform store (.claimCommand again commandId fingerprint time)).2 ≠
            .ok (.claim .acquired) ∧
          (last.activeEpochs.get? again.gatewayId = some again.instanceId →
            if fingerprint ≠ digest then
              (last.perform store (.claimCommand again commandId fingerprint time)).2 =
                .error .replayConflict
            else ∃ record, last.commands.get? (epoch.gatewayId, commandId) = some record ∧
              (last.perform store (.claimCommand again commandId fingerprint time)).2 =
                .ok (.claim (record.response.elim .inFlight .completed)))) ∧
    (∀ epoch commandId digest response atMs,
      (state.perform store (.completeCommand epoch commandId digest response atMs)).2 =
        .ok .done →
      ∀ later : List Operation,
        (∀ step ∈ trace (MemoryState.next store)
            (state.next store (.completeCommand epoch commandId digest response atMs)) later,
          ¬ step.2.Forgets store step.1 (epoch.gatewayId, commandId) ∧
          ¬ step.2.Supersedes epoch) →
        let last := later.foldl (MemoryState.next store)
          (state.next store (.completeCommand epoch commandId digest response atMs))
        ∀ time,
          ¬ Operation.Forgets store last (.claimCommand epoch commandId digest time)
            (epoch.gatewayId, commandId) →
          (last.perform store (.claimCommand epoch commandId digest time)).2 =
            .ok (.claim (.completed response))) := by
  intro state
  have numbered : state.Numbered := run_numbered _ operations
  refine ⟨fun _ => ?_, fun epoch key events read => ?_, ?_, ?_, ?_⟩
  · obtain ⟨count, given, -⟩ := run_incarnation _ _ operations
    exact ⟨count, given⟩
  · exact numbered.unacked_increasing ((answered_eq_ok fun _ _ => Answer.unacked.inj).mp read)
  · intro epoch key _ _ atMs done later undisturbed
    obtain ⟨active, stored⟩ := appended_record done
    obtain ⟨alive, kept⟩ := run_keeps _ (next_active active (by
      rintro ⟨_, _, ⟨⟩, _⟩)) stored rfl undisturbed
    obtain ⟨events, read, member⟩ := mem_unacked alive kept rfl rfl
    exact ⟨events, (answered_eq_ok fun _ _ => Answer.unacked.inj).mpr read, member⟩
  · intro epoch commandId digest atMs done later remembered last again here _ time kept
    obtain ⟨record, stored, same⟩ := run_remembers (acquired_record done) _ remembered
    rw [← here] at stored kept
    by_cases active : last.activeEpochs.get? again.gatewayId = some again.instanceId
    · have answer := remembered_claim stored kept active
      rw [show record.digest = digest from same] at answer
      refine ⟨?_, fun _ => ?_⟩
      · rw [answer]
        split
        · rintro ⟨⟩
        · cases record.response <;> rintro ⟨⟩
      · split_ifs with other
        · rw [answer, if_pos (symm other)]
        · rw [not_not] at other
          rw [← here]
          refine ⟨record, stored, ?_⟩
          rw [answer, if_neg (not_not.mpr other.symm)]
    · refine ⟨?_, fun alive => absurd alive active⟩
      rw [perform_dead rfl active]
      rintro ⟨⟩
  · intro epoch commandId digest response atMs done later remembered last time kept
    have active : state.activeEpochs.get? epoch.gatewayId = some epoch.instanceId := by
      by_contra dead
      rw [perform_dead rfl dead] at done
      cases done
    obtain ⟨record, stored, digests, answer⟩ := completed_record done
    obtain ⟨alive, found⟩ := run_answers (next_active active (by
      rintro ⟨_, _, ⟨⟩, _⟩)) stored answer _ remembered
    rw [remembered_claim found kept alive, if_neg (not_not.mpr digests), answer]
    rfl

namespace Sample

/-- A route is prepared under a command that is still in flight. -/
def prepared : List Operation :=
  [.beginEpoch first 1000, .claimCommand first 7 5 1001,
    .claimRouteTransition first key 7 none .prepared,
    .completeRouteTransition first key 7 .prepared 1002]

def progress : PrivateEgressLifecycleEvent :=
  ⟨1, 21, key.worker, key.authority.source, key.target, 0, 0, .progress 180 false⟩

def accepted : PrivateEgressResponse := ⟨1, 7, true, false, some .prepared, none, none⟩

def reporting : List Operation :=
  [.appendLifecycle first key progress 1003, .claimCommand first 8 6 1004]

def completing : List Operation := [.completeCommand first 7 5 accepted 1005]

end Sample

/-- The event is read while another command is claimed, and the replay of the completed command
gets its response. -/
theorem journal_and_replay_prepared :
    (∃ events, (((Sample.prepared ++ Sample.reporting).foldl (MemoryState.next Sample.store)
        .default).perform Sample.store (.unackedLifecycle Sample.first Sample.key)).2 =
          .ok (.unacked events) ∧
        { Sample.progress with gatewayEpoch := 1, sequence := 1 } ∈ events) ∧
    (((Sample.prepared ++ Sample.completing).foldl (MemoryState.next Sample.store)
      .default).perform Sample.store (.claimCommand Sample.first 7 5 1006)).2 =
        .ok (.claim (.completed Sample.accepted)) := by
  have whole := journal_and_replay Sample.store Sample.prepared
  constructor
  · have stamped : ((Sample.prepared.foldl (next Sample.store) .default).perform
        Sample.store (.appendLifecycle Sample.first Sample.key Sample.progress 1003)).2 =
          .ok (.stamped { Sample.progress with gatewayEpoch := 1, sequence := 1 }) := by
      decide +kernel
    refine whole.2.2.1 _ _ _ _ _ stamped [.claimCommand Sample.first 8 6 1004] ?_
    intro _ member
    obtain rfl := List.mem_singleton.mp member
    refine ⟨fun ⟨_, _, _, impossible, _⟩ => (nomatch impossible),
      fun ⟨_, _, impossible, _⟩ => (nomatch impossible), ?_⟩
    rintro ⟨_, _, _, _, _, -, -, stored, expired⟩
    have found : ((Sample.prepared.foldl (next Sample.store) .default).next Sample.store
        (.appendLifecycle Sample.first Sample.key Sample.progress 1003)).routes.get?
          ("gateway", Sample.key) = some ⟨1, some .prepared, none, 1, none, false⟩ := by
      decide +kernel
    cases found.symm.trans stored
    cases expired
  · have completed : ((Sample.prepared.foldl (next Sample.store) .default).perform
        Sample.store (.completeCommand Sample.first 7 5 Sample.accepted 1005)).2 = .ok .done := by
      decide +kernel
    refine whole.2.2.2.2 _ _ _ _ _ completed [] (fun _ member => absurd member List.not_mem_nil)
      1006 ?_
    rintro ⟨_, _, _, _, _, claims, -, stored, forgotten⟩
    cases claims
    have found : ((Sample.prepared.foldl (next Sample.store) .default).next Sample.store
        (.completeCommand Sample.first 7 5 Sample.accepted 1005)).commands.get? ("gateway", 7) =
          some ⟨1, 5, 1001, some 1005, some Sample.accepted⟩ := by
      decide +kernel
    cases found.symm.trans stored
    revert forgotten
    decide

end Bridgefu.PrivateEgress
