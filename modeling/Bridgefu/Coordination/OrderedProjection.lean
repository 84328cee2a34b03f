/- digest: Records are applied and acknowledged in sequence order, whatever the projectors do. -/

import Bridgefu.Coordination.Outbox

set_option autoImplicit false

namespace Bridgefu.Coordination

open Lib CallEngine MemoryOutboxState Table

/-- The records stand in the order of their sequences. -/
def Ordered (records : List CoordinationOutboxRecord) : Prop :=
  records.Pairwise fun first second => first.sequence < second.sequence

namespace MemoryOutboxState

variable (state : MemoryOutboxState)

private theorem ordered : Ordered state.records := by
  have sorted : (state.records.map (·.sequence)).Pairwise (· < ·) := by
    rw [state.numbered]
    exact List.pairwise_lt_range'
  exact List.pairwise_map.mp sorted

private theorem eq_of_sequence {first second} (one : first ∈ state.records)
    (two : second ∈ state.records) (same : first.sequence = second.sequence) : first = second := by
  have distinct : (state.records.map (·.sequence)).Nodup := by
    rw [state.numbered]
    exact List.nodup_range'
  exact List.inj_on_of_nodup_map distinct one two same

private theorem sequence_bounds {record} (stored : record ∈ state.records) :
    1 ≤ record.sequence ∧ record.sequence ≤ state.lastSequence.getD 0 := by
  have bounded : record.sequence ∈ state.records.map (·.sequence) :=
    List.mem_map_of_mem stored
  rw [state.numbered, List.mem_range'_1] at bounded
  omega

private theorem exists_of_lt {record} (stored : record ∈ state.records) {sequence}
    (positive : 1 ≤ sequence) (lower : sequence < record.sequence) :
    ∃ earlier ∈ state.records, earlier.sequence = sequence := by
  have bounds := state.sequence_bounds stored
  have member : sequence ∈ state.records.map (·.sequence) := by
    rw [state.numbered, List.mem_range'_1]
    omega
  exact List.mem_map.mp member

end MemoryOutboxState

private theorem exists_event {before after : List CoordinationOutboxRecord}
    (same : after.map (·.event) = before.map (·.event)) {record} (stored : record ∈ after) :
    ∃ earlier ∈ before, earlier.event = record.event := by
  have member : record.event ∈ before.map (·.event) := same ▸ List.mem_map_of_mem stored
  exact List.mem_map.mp member

/-- A claim takes the records that come first among those not yet applied, and changes no other. -/
structure Walks (projector : String) (now : Timestamp) (before : List CoordinationOutboxRecord)
    (walk : ClaimWalk) : Prop where
  kept : ∀ record ∈ walk.records,
    (record ∈ before ∧ ∀ claim ∈ walk.claims, claim.sequence ≠ record.sequence) ∨
      ∃ claim ∈ walk.claims, claim.record = record
  applied : ∀ record ∈ before, record.isApplied → record ∈ walk.records
  taken : ∀ claim ∈ walk.claims, claim.record ∈ walk.records ∧
    ∃ expiresAt, claim.record.state = .claimed projector claim.claimGeneration now expiresAt
  sorted : walk.claims.Pairwise fun first second => first.sequence < second.sequence
  clear : ∀ claim ∈ walk.claims, ∀ record ∈ walk.records, record.sequence < claim.sequence →
    record.isApplied ∨ ∃ earlier ∈ walk.claims, earlier.record = record

namespace Walks

variable {projector : String} {now : Timestamp} {rest : List CoordinationOutboxRecord}
  {record : CoordinationOutboxRecord} {walk : ClaimWalk}

private theorem none (records : List CoordinationOutboxRecord)
    (failure : Option CoordinationError) : Walks projector now records ⟨records, [], failure⟩ where
  kept := fun _ stored => .inl ⟨stored, fun _ taken => absurd taken List.not_mem_nil⟩
  applied := fun _ stored _ => stored
  taken := fun _ taken => absurd taken List.not_mem_nil
  sorted := .nil
  clear := fun _ taken => absurd taken List.not_mem_nil

private theorem skip (walks : Walks projector now rest walk)
    (before : ∀ other ∈ walk.records, record.sequence < other.sequence)
    (done : record.isApplied) : Walks projector now (record :: rest) (walk.keep record) where
  kept := by
    intro other stored
    rcases List.mem_cons.mp stored with rfl | later
    · refine .inl ⟨by simp, fun claim taken same => ?_⟩
      have after := before claim.record (walks.taken _ taken).1
      exact absurd same (ne_of_gt after)
    · rcases walks.kept _ later with ⟨was, untaken⟩ | taken
      · exact .inl ⟨List.mem_cons_of_mem _ was, untaken⟩
      · exact .inr taken
  applied := by
    intro other stored isApplied
    rcases List.mem_cons.mp stored with rfl | later
    · exact List.mem_cons_self
    · exact List.mem_cons_of_mem _ (walks.applied _ later isApplied)
  taken := by
    intro claim taken
    obtain ⟨stored, state⟩ := walks.taken _ taken
    exact ⟨List.mem_cons_of_mem _ stored, state⟩
  sorted := walks.sorted
  clear := by
    intro claim taken other stored earlier
    rcases List.mem_cons.mp stored with rfl | later
    · exact .inl done
    · exact walks.clear _ taken _ later earlier

private theorem grant (walks : Walks projector now rest walk) {generation expiresAt}
    (open' : ¬ record.isApplied)
    (before : ∀ other ∈ walk.records, record.sequence < other.sequence) :
    Walks projector now (record :: rest)
      (walk.grant { record with state := .claimed projector generation now expiresAt }
        generation) where
  kept := by
    intro other stored
    rcases List.mem_cons.mp stored with rfl | later
    · exact .inr ⟨_, List.mem_cons_self, rfl⟩
    · rcases walks.kept _ later with ⟨was, untaken⟩ | ⟨claim, taken, same⟩
      · refine .inl ⟨List.mem_cons_of_mem _ was, fun claim taken => ?_⟩
        rcases List.mem_cons.mp taken with rfl | inside
        · exact ne_of_lt (before _ later)
        · exact untaken _ inside
      · exact .inr ⟨claim, List.mem_cons_of_mem _ taken, same⟩
  applied := by
    intro other stored isApplied
    rcases List.mem_cons.mp stored with rfl | later
    · exact absurd isApplied open'
    · exact List.mem_cons_of_mem _ (walks.applied _ later isApplied)
  taken := by
    intro claim taken
    rcases List.mem_cons.mp taken with rfl | inside
    · exact ⟨List.mem_cons_self, expiresAt, rfl⟩
    · obtain ⟨stored, state⟩ := walks.taken _ inside
      exact ⟨List.mem_cons_of_mem _ stored, state⟩
  sorted := by
    refine List.pairwise_cons.mpr ⟨fun claim inside => ?_, walks.sorted⟩
    exact before claim.record (walks.taken _ inside).1
  clear := by
    intro claim taken other stored earlier
    rcases List.mem_cons.mp stored with rfl | later
    · exact .inr ⟨_, List.mem_cons_self, rfl⟩
    · rcases List.mem_cons.mp taken with rfl | inside
      · exact absurd earlier (lt_asymm (before _ later))
      · rcases walks.clear _ inside _ later earlier with done | ⟨first, one, same⟩
        · exact .inl done
        · exact .inr ⟨first, List.mem_cons_of_mem _ one, same⟩

end Walks

private theorem claimRecords_walks {records} (ordered : Ordered records) (projector : String)
    (now expiresAt : Timestamp) (limit : Nat) :
    Walks projector now records (claimRecords projector now expiresAt limit records) := by
  induction records generalizing limit with
  | nil => cases limit <;> exact .none [] none
  | cons record rest ih =>
    obtain ⟨first, others⟩ := List.pairwise_cons.mp ordered
    have before : ∀ limit, ∀ other ∈ (claimRecords projector now expiresAt limit rest).records,
        record.sequence < other.sequence := by
      intro limit other stored
      obtain ⟨was, member, same⟩ := exists_event (claimRecords_events ..) stored
      have lower := first was member
      simpa [CoordinationOutboxRecord.sequence, same] using lower
    cases limit with
    | zero => exact .none _ none
    | succ limit =>
      unfold claimRecords
      cases state : record.state with
      | applied atTime =>
        exact (ih others (limit + 1)).skip (before (limit + 1)) ⟨atTime, state⟩
      | ready =>
        have open' : ¬ record.isApplied := by
          rintro ⟨atTime, applied⟩
          cases state.symm.trans applied
        simp only [CoordinationOutboxState.visit]
        split
        · exact .none _ _
        · exact (ih others limit).grant open' (before limit)
      | claimed _ _ _ until' =>
        have open' : ¬ record.isApplied := by
          rintro ⟨atTime, applied⟩
          cases state.symm.trans applied
        rw [CoordinationOutboxState.visit]
        by_cases expired : until' ≤ now
        · rw [if_pos expired]
          dsimp only
          split
          · exact .none _ _
          · exact (ih others limit).grant open' (before limit)
        · rw [if_neg expired]
          exact .none _ none

private theorem MemoryOutboxState.claimWalk_walks (state : MemoryOutboxState) (projector : String)
    (claimTtl limit : Nat) (now : Timestamp) :
    Walks projector now state.records (state.claimWalk projector claimTtl limit now) := by
  unfold claimWalk
  split
  · exact .none _ _
  · exact claimRecords_walks state.ordered ..

/-- An accepted acknowledgement marks the record of a lasting claim, and no other. -/
structure Acknowledges (before : MemoryOutboxState) (sequence : Nat) (projector : String)
    (generation : Nat) (now : Timestamp) (after : MemoryOutboxState) : Prop where
  claimed : ∃ record ∈ before.records, record.sequence = sequence ∧ ∃ claimedAt expiresAt,
    record.state = .claimed projector generation claimedAt expiresAt ∧ claimedAt ≤ now ∧
      now < expiresAt
  records : after.records = before.records.map (markApplied sequence now)

namespace MemoryOutboxState

private theorem append_eq_ok {deployment} {state : MemoryOutboxState} {payload now appended}
    (done : state.append deployment payload now = .ok appended) :
    appended.1.records = state.records ++ [appended.2] ∧ appended.2.state = .ready := by
  unfold append at done
  split at done
  · cases done
  · rw [bind_eq_ok, exists_unit, pure_eq_ok] at done
    obtain ⟨-, rfl⟩ := done
    exact ⟨rfl, rfl⟩

private theorem acknowledge_eq_ok {state after sequence projector generation now}
    (done : state.acknowledge sequence projector generation now = .ok after) :
    Acknowledges state sequence projector generation now after := by
  simp only [acknowledge, bind_eq_ok, exists_unit, orFail_eq_ok, reject_eq_ok, not_not,
    pure_eq_ok] at done
  obtain ⟨-, record, found, acknowledgeable, rfl⟩ := done
  refine ⟨⟨record, List.mem_of_find?_eq_some found, ?_, ?_⟩, rfl⟩
  · simpa using List.find?_some found
  · unfold CoordinationOutboxState.acknowledgeable at acknowledgeable
    split at acknowledgeable
    · rename_i owner granted claimedAt expiresAt state
      simp only [Bool.and_eq_true, decide_eq_true_eq] at acknowledgeable
      obtain ⟨⟨⟨rfl, rfl⟩, starts⟩, ends⟩ := acknowledgeable
      exact ⟨claimedAt, expiresAt, state, starts, ends⟩
    · cases acknowledgeable
    · cases acknowledgeable

end MemoryOutboxState

namespace Acknowledges

variable {before after : MemoryOutboxState} {sequence : Nat} {projector : String}
  {generation : Nat} {now : Timestamp}

variable (accepted : Acknowledges before sequence projector generation now after)
include accepted

private theorem cases : ∀ record ∈ after.records,
    (record ∈ before.records ∧ record.sequence ≠ sequence) ∨
      (record.sequence = sequence ∧ record.state = .applied now) := by
  intro _ stored
  rw [accepted.records] at stored
  obtain ⟨_, member, rfl⟩ := List.mem_map.mp stored
  unfold markApplied
  split_ifs with same
  · exact .inr ⟨same, rfl⟩
  · exact .inl ⟨member, same⟩

private theorem applied {record} (stored : record ∈ after.records)
    (same : record.sequence = sequence) : record.isApplied := by
  rcases accepted.cases _ stored with ⟨-, other⟩ | ⟨-, state⟩
  · exact absurd same other
  · exact ⟨now, state⟩

private theorem events : after.records.map (·.event) = before.records.map (·.event) := by
  rw [accepted.records]
  simp [markApplied_event]

end Acknowledges

namespace System

variable {σ : Type}

/-- The claims that a step records, also those of a claim that fails midway. -/
def grants (place : ProjectorPlace σ) : List CoordinationOutboxClaim :=
  match place.2 with
  | .claim invocation projector now =>
    if place.1.running.contains invocation then []
    else (place.1.outbox.claimWalk projector.projector projector.claimTtl projector.batchSize
      now).claims
  | _ => []

/-- The event that a step hands to the projection. -/
def attempted? (place : ProjectorPlace σ) : Option CoordinationEvent :=
  match place.2 with
  | .apply invocation => place.1.nextEvent? invocation
  | _ => none

def applied? (apply : Apply σ) (place : ProjectorPlace σ) : Option CoordinationEvent :=
  match attempted? place with
  | some event =>
    match (apply place.1.projection event).2 with
    | .ok _ => some event
    | .error _ => none
  | none => none

def AppliedIn (apply : Apply σ) (past : List (ProjectorPlace σ)) (sequence : Nat) : Prop :=
  ∃ place ∈ past, ∃ event, applied? apply place = some event ∧ event.sequence = sequence

def LatestClaim (past : List (ProjectorPlace σ)) (sequence : Nat) (projector : String)
    (generation : Nat) (claimedAt expiresAt : Timestamp) : Prop :=
  ∃ before place after, past = before ++ place :: after ∧
    (∃ claim ∈ grants place, claim.sequence = sequence ∧ claim.claimGeneration = generation ∧
      claim.record.state = .claimed projector generation claimedAt expiresAt) ∧
    ∀ later ∈ after, ∀ claim ∈ grants later, claim.sequence ≠ sequence

variable {apply : Apply σ} {past : List (ProjectorPlace σ)} {place : ProjectorPlace σ}
  {sequence : Nat}

private theorem AppliedIn.later (applied : AppliedIn apply past sequence)
    (place : ProjectorPlace σ) : AppliedIn apply (past ++ [place]) sequence := by
  obtain ⟨earlier, member, event, done⟩ := applied
  exact ⟨earlier, List.mem_append_left _ member, event, done⟩

variable {projector : String}

private theorem LatestClaim.later {generation claimedAt expiresAt}
    (latest : LatestClaim past sequence projector generation claimedAt expiresAt)
    (other : ∀ claim ∈ grants place, claim.sequence ≠ sequence) :
    LatestClaim (past ++ [place]) sequence projector generation claimedAt expiresAt := by
  obtain ⟨before, earlier, after, rfl, granted, unclaimed⟩ := latest
  refine ⟨before, earlier, after ++ [place], by simp, granted, fun _ member => ?_⟩
  rcases List.mem_append.mp member with old | new
  · exact unclaimed _ old
  · rw [List.mem_singleton.mp new]
    exact other

private theorem LatestClaim.now {claim claimedAt expiresAt} (granted : claim ∈ grants place)
    (state : claim.record.state = .claimed projector claim.claimGeneration claimedAt expiresAt) :
    LatestClaim (past ++ [place]) claim.sequence projector claim.claimGeneration claimedAt
      expiresAt :=
  ⟨past, place, [], rfl, ⟨claim, granted, rfl, rfl, state⟩, nofun⟩

/-- What an invocation knows about the rest of its batch: the records before it are applied. -/
structure Batch (apply : Apply σ) (past : List (ProjectorPlace σ)) (outbox : MemoryOutboxState)
    (projecting : Projecting) : Prop where
  sorted : projecting.claims.Pairwise fun first second => first.sequence < second.sequence
  known : ∀ claim ∈ projecting.claims, ∃ record ∈ outbox.records, record.sequence = claim.sequence
  clear : ∀ claim ∈ projecting.claims, ∀ record ∈ outbox.records,
    record.sequence < claim.sequence →
      record.isApplied ∨ ∃ earlier ∈ projecting.claims, earlier.sequence = record.sequence
  begun : projecting.unacknowledged = true → ∀ claim ∈ projecting.claims.head?,
    AppliedIn apply past claim.sequence

/-- Records are added behind those that are there, and applied ones stay applied. -/
structure Grows (before after : MemoryOutboxState) : Prop where
  known : ∀ record ∈ before.records, ∃ later ∈ after.records, later.sequence = record.sequence
  settled : ∀ record ∈ before.records, record.isApplied → ∀ later ∈ after.records,
    later.sequence = record.sequence → later.isApplied
  fresh : ∀ later ∈ after.records, (∃ record ∈ before.records, record.sequence = later.sequence) ∨
    ∀ record ∈ before.records, record.sequence < later.sequence

theorem Grows.refl (outbox : MemoryOutboxState) : Grows outbox outbox where
  known := fun record stored => ⟨record, stored, rfl⟩
  settled := fun _ stored applied _ member same =>
    outbox.eq_of_sequence stored member same.symm ▸ applied
  fresh := fun later member => .inl ⟨later, member, rfl⟩

private theorem Grows.of_events {before after}
    (same : after.records.map (·.event) = before.records.map (·.event))
    (settled : ∀ record ∈ before.records, record.isApplied →
      ∃ later ∈ after.records, later.sequence = record.sequence ∧ later.isApplied) :
    Grows before after where
  known := by
    intro record stored
    obtain ⟨later, member, event⟩ := exists_event same.symm stored
    exact ⟨later, member, congrArg CoordinationEvent.sequence event⟩
  settled := by
    intro record stored applied later member sequence
    obtain ⟨_, also, its, _⟩ := settled _ stored applied
    rwa [after.eq_of_sequence member also (sequence.trans its.symm)]
  fresh := by
    intro later member
    obtain ⟨record, stored, event⟩ := exists_event same member
    exact .inl ⟨record, stored, congrArg CoordinationEvent.sequence event⟩

private theorem Grows.acknowledge {before after generation now}
    (accepted : Acknowledges before sequence projector generation now after) :
    Grows before after := by
  refine .of_events accepted.events fun record stored _ => ?_
  obtain ⟨later, member, event⟩ := exists_event accepted.events.symm stored
  have same : later.sequence = record.sequence := congrArg CoordinationEvent.sequence event
  refine ⟨later, member, same, ?_⟩
  rcases accepted.cases _ member with ⟨old, -⟩ | ⟨-, state⟩
  · rwa [before.eq_of_sequence old stored same]
  · exact ⟨now, state⟩

namespace Batch

variable {outbox : MemoryOutboxState} {projecting : Projecting}

variable {projector : String} {claim : CoordinationOutboxClaim}
  {rest : List CoordinationOutboxClaim} {unacknowledged : Bool}

private theorem below (batch : Batch apply past outbox ⟨projector, claim :: rest, unacknowledged⟩)
    {record} (stored : record ∈ outbox.records) (lower : record.sequence < claim.sequence) :
    record.isApplied := by
  rcases batch.clear _ (List.mem_cons_self) _ stored lower with done | found
  · exact done
  · obtain ⟨_, member, same⟩ := found
    rcases List.mem_cons.mp member with rfl | inside
    · exact absurd same (ne_of_gt lower)
    · have above := (List.pairwise_cons.mp batch.sorted).1 _ inside
      omega

private theorem grow (batch : Batch apply past outbox projecting) {after}
    (grows : Grows outbox after) (place : ProjectorPlace σ) :
    Batch apply (past ++ [place]) after projecting where
  sorted := batch.sorted
  known := by
    intro claim member
    obtain ⟨record, stored, same⟩ := batch.known _ member
    obtain ⟨later, kept, its⟩ := grows.known _ stored
    exact ⟨later, kept, its.trans same⟩
  clear := by
    intro claim member later stored lower
    rcases grows.fresh _ stored with ⟨record, was, same⟩ | new
    · rcases batch.clear _ member _ was (same ▸ lower) with done | found
      · exact .inl (grows.settled _ was done _ stored same.symm)
      · obtain ⟨earlier, inside, its⟩ := found
        exact .inr ⟨earlier, inside, its.trans same⟩
    · -- a new record comes after every record of the batch
      obtain ⟨record, was, same⟩ := batch.known _ member
      have above := new _ was
      omega
  begun := fun begun claim first => (batch.begun begun claim first).later place

private theorem tail (batch : Batch apply past outbox ⟨projector, claim :: rest, unacknowledged⟩)
    (applied : ∀ record ∈ outbox.records, record.sequence = claim.sequence → record.isApplied) :
    Batch apply past outbox ⟨projector, rest, false⟩ where
  sorted := (List.pairwise_cons.mp batch.sorted).2
  known := fun other member => batch.known other (List.mem_cons_of_mem _ member)
  clear := by
    intro other member _ stored lower
    rcases batch.clear _ (List.mem_cons_of_mem _ member) _ stored lower with done | found
    · exact .inl done
    · obtain ⟨earlier, inside, same⟩ := found
      rcases List.mem_cons.mp inside with rfl | later
      · exact .inl (applied _ stored same.symm)
      · exact .inr ⟨earlier, later, same⟩
  begun := nofun

private theorem begin' (batch : Batch apply past outbox ⟨projector, claim :: rest, unacknowledged⟩)
    (applied : AppliedIn apply past claim.sequence) :
    Batch apply past outbox ⟨projector, claim :: rest, true⟩ where
  sorted := batch.sorted
  known := batch.known
  clear := batch.clear
  begun := by
    intro _ _ first
    cases first
    exact applied

private theorem of_walk {walk name projector now before} (walks : Walks name now before walk)
    (stored : outbox.records = walk.records) :
    Batch apply past outbox ⟨projector, walk.claims, false⟩ where
  sorted := walks.sorted
  known := fun claim member => ⟨claim.record, stored ▸ (walks.taken claim member).1, rfl⟩
  clear := by
    intro claim member record inside lower
    rcases walks.clear _ member _ (stored ▸ inside) lower with done | found
    · exact .inl done
    · obtain ⟨earlier, taken, rfl⟩ := found
      exact .inr ⟨earlier, taken, rfl⟩
  begun := nofun

end Batch

/-- The claims on record are the latest ones, applied records were applied and come first, and
every invocation has a batch in order. -/
structure Orderly (apply : Apply σ) (past : List (ProjectorPlace σ)) (system : System σ) :
    Prop where
  granted : ∀ record ∈ system.outbox.records, ∀ projector generation claimedAt expiresAt,
    record.state = .claimed projector generation claimedAt expiresAt →
      LatestClaim past record.sequence projector generation claimedAt expiresAt
  done : ∀ record ∈ system.outbox.records, record.isApplied → AppliedIn apply past record.sequence
  front : ∀ first ∈ system.outbox.records, ∀ second ∈ system.outbox.records,
    first.sequence < second.sequence → second.isApplied → first.isApplied
  batches : ∀ invocation projecting, system.running.get? invocation = some projecting →
    Batch apply past system.outbox projecting

private theorem orderly_start (projection : σ) : Orderly apply [] (start projection) where
  granted := fun _ stored => absurd stored List.not_mem_nil
  done := fun _ stored => absurd stored List.not_mem_nil
  front := fun _ stored => absurd stored List.not_mem_nil
  batches := forall_empty

namespace Orderly

variable {system after : System σ}

private theorem keep (held : Orderly apply past system) (same : after.outbox = system.outbox)
    (quiet : grants place = [])
    (batches : ∀ invocation projecting, after.running.get? invocation = some projecting →
      system.running.get? invocation = some projecting ∨
        Batch apply (past ++ [place]) system.outbox projecting) :
    Orderly apply (past ++ [place]) after where
  granted := by
    rw [same]
    intro record stored _ _ _ _ state
    exact (held.granted _ stored _ _ _ _ state).later (by simp [quiet])
  done := by
    rw [same]
    exact fun record stored applied => (held.done _ stored applied).later place
  front := by
    rw [same]
    exact held.front
  batches := by
    rw [same]
    intro _ _ stored
    rcases batches _ _ stored with old | new
    · exact (held.batches _ _ old).grow (.refl _) place
    · exact new

private theorem stop (held : Orderly apply past system) {invocation} (projection : σ)
    (quiet : grants place = []) :
    Orderly apply (past ++ [place])
      { system with projection := projection, running := system.running.erase invocation } := by
  refine held.keep rfl quiet fun _ _ stored => .inl ?_
  rw [get?_erase] at stored
  split_ifs at stored
  exact stored

variable {outbox : MemoryOutboxState}

variable (held : Orderly apply past system)
include held

private theorem append {record} (added : outbox.records = system.outbox.records ++ [record])
    (ready : record.state = .ready) (quiet : grants place = []) :
    Orderly apply (past ++ [place]) { system with outbox := outbox } := by
  have last : ∀ other ∈ system.outbox.records, other.sequence < record.sequence := by
    have ordered := outbox.ordered
    rw [added, Ordered, List.pairwise_append] at ordered
    exact fun other stored => ordered.2.2 _ stored _ (List.mem_singleton_self _)
  have fresh : ¬ record.isApplied := by
    rintro ⟨_, applied⟩
    cases ready.symm.trans applied
  have cases : ∀ other ∈ outbox.records, other ∈ system.outbox.records ∨ other = record := by
    intro other stored
    rw [added] at stored
    simpa using stored
  have grows : Grows system.outbox outbox := {
    known := fun other stored => ⟨other, added ▸ List.mem_append_left _ stored, rfl⟩
    settled := by
      intro other stored applied later member same
      have kept : other ∈ outbox.records := added ▸ List.mem_append_left _ stored
      rwa [outbox.eq_of_sequence member kept same]
    fresh := by
      intro later member
      rcases cases later member with old | rfl
      · exact .inl ⟨later, old, rfl⟩
      · exact .inr last }
  constructor
  case granted =>
    intro other stored _ _ _ _ state
    rcases cases other stored with old | rfl
    · exact (held.granted _ old _ _ _ _ state).later (by simp [quiet])
    · cases ready.symm.trans state
  case done =>
    intro other stored applied
    rcases cases other stored with old | rfl
    · exact (held.done _ old applied).later place
    · exact absurd applied fresh
  case front =>
    intro first one second two lower applied
    rcases cases second two with old | rfl
    · rcases cases first one with also | rfl
      · exact held.front _ also _ old lower applied
      · exact absurd lower (lt_asymm (last _ old))
    · exact absurd applied fresh
  case batches =>
    exact fun _ _ stored =>
      (held.batches _ _ stored).grow grows place

private theorem claim {name now walk} (walks : Walks name now system.outbox.records walk)
    (stored : outbox.records = walk.records)
    (same : outbox.records.map (·.event) = system.outbox.records.map (·.event))
    (recorded : grants place = walk.claims)
    (batches : ∀ invocation projecting, after.running.get? invocation = some projecting →
      system.running.get? invocation = some projecting ∨ projecting = ⟨name, walk.claims, false⟩)
    (taken : after.outbox = outbox) : Orderly apply (past ++ [place]) after := by
  have settled : ∀ record ∈ outbox.records, record.isApplied → record ∈ system.outbox.records := by
    intro record member applied
    rcases walks.kept _ (stored ▸ member) with ⟨old, -⟩ | ⟨claim, inside, rfl⟩
    · exact old
    · obtain ⟨expiresAt, state⟩ := (walks.taken _ inside).2
      obtain ⟨_, done⟩ := applied
      cases state.symm.trans done
  have applied : ∀ record ∈ system.outbox.records, record.isApplied → record ∈ outbox.records := by
    rw [stored]
    exact walks.applied
  have grows : Grows system.outbox outbox :=
    .of_events same fun record was done => ⟨record, applied record was done, rfl, done⟩
  subst taken
  constructor
  case granted =>
    intro record member _ _ _ expiresAt state
    rcases walks.kept _ (stored ▸ member) with ⟨old, untaken⟩ | ⟨claim, inside, rfl⟩
    · exact (held.granted _ old _ _ _ _ state).later (recorded ▸ untaken)
    · obtain ⟨_, granted⟩ := (walks.taken _ inside).2
      cases granted.symm.trans state
      exact LatestClaim.now (recorded ▸ inside) granted
  case done =>
    exact fun record member done => (held.done _ (settled _ member done) done).later place
  case front =>
    intro first one _ two lower done
    obtain ⟨was, old, event⟩ := exists_event same one
    have sequence : was.sequence = first.sequence := congrArg CoordinationEvent.sequence event
    have earlier := held.front was old _ (settled _ two done) (sequence ▸ lower) done
    exact grows.settled was old earlier _ one sequence.symm
  case batches =>
    intro _ _ member
    rcases batches _ _ member with old | rfl
    · exact (held.batches _ _ old).grow grows place
    · exact .of_walk walks stored

private theorem acknowledge {invocation claim rest generation now}
    (running : system.running.get? invocation = some ⟨projector, claim :: rest, true⟩)
    (accepted : Acknowledges system.outbox claim.sequence projector generation now outbox)
    (quiet : grants place = []) : Orderly apply (past ++ [place])
      { system with
        outbox := outbox
        running := system.running.insert invocation ⟨projector, rest, false⟩ } := by
  have batch := held.batches _ _ running
  have applied : AppliedIn apply past claim.sequence := batch.begun rfl _ rfl
  have grows : Grows system.outbox outbox := (.acknowledge accepted)
  constructor
  case granted =>
    intro record stored _ _ _ _ state
    rcases accepted.cases _ stored with ⟨old, -⟩ | ⟨-, done⟩
    · exact (held.granted _ old _ _ _ _ state).later (by simp [quiet])
    · cases done.symm.trans state
  case done =>
    intro record stored done
    rcases accepted.cases _ stored with ⟨old, -⟩ | ⟨same, -⟩
    · exact (held.done _ old done).later place
    · exact (same ▸ applied).later place
  case front =>
    intro _ one _ two lower done
    rcases accepted.cases _ one with ⟨old, other⟩ | ⟨-, state⟩
    · rcases accepted.cases _ two with ⟨also, -⟩ | ⟨same, -⟩
      · exact held.front _ old _ also lower done
      · exact batch.below old (same ▸ lower)
    · exact ⟨now, state⟩
  case batches =>
    intro other _ stored
    rcases get?_insert_some stored with ⟨-, rfl⟩ | ⟨-, stored⟩
    · exact (batch.grow grows place).tail fun record member same => accepted.applied member same
    · exact (held.batches _ _ stored).grow grows place

private theorem begin' {invocation claim rest} (projection : σ)
    (running : system.running.get? invocation = some ⟨projector, claim :: rest, false⟩)
    (applied : applied? apply place = some claim.record.event) (quiet : grants place = []) :
    Orderly apply (past ++ [place])
      { system with
        projection := projection
        running := system.running.insert invocation ⟨projector, claim :: rest, true⟩ } := by
  refine held.keep rfl quiet fun _ _ stored => ?_
  rcases get?_insert_some stored with ⟨-, rfl⟩ | ⟨-, stored⟩
  · have batch := (held.batches _ _ running).grow (.refl _) place
    have recent : AppliedIn apply (past ++ [place]) claim.sequence :=
      ⟨place, by simp, claim.record.event, applied, rfl⟩
    exact .inr (batch.begin' recent)
  · exact .inl stored

end Orderly

variable {system : System σ}

section

variable (held : Orderly apply past system)
include held

theorem performApply_orderly (invocation : Nat) :
    Orderly apply (past ++ [(system, .apply invocation)])
      (system.performApply apply invocation) := by
  unfold performApply
  split
  · rename_i projector claim rest running
    have attempt : attempted? (system, .apply invocation) = some claim.record.event := by
      simp only [attempted?, nextEvent?, running]
    cases outcome : (apply system.projection claim.record.event).2 with
    | ok =>
      simp only [outcome]
      refine held.begin' _ running ?_ rfl
      simp only [applied?, attempt, outcome]
    | error =>
      simp only [outcome]
      exact held.stop _ rfl
  · exact held.keep rfl rfl fun _ _ stored => .inl stored

theorem performAcknowledge_orderly (invocation : Nat) (now : Timestamp) :
    Orderly apply (past ++ [(system, .acknowledge invocation now)])
      (system.performAcknowledge invocation now) := by
  unfold performAcknowledge
  split
  · rename_i projector claim rest running
    split
    · rename_i outbox done
      exact held.acknowledge running (acknowledge_eq_ok done) rfl
    · exact held.stop _ rfl
  · exact held.keep rfl rfl fun _ _ stored => .inl stored

theorem performClaim_orderly {invocation} (idle : ¬ system.running.contains invocation)
    (projector : CoordinationProjector) (now : Timestamp) :
    Orderly apply (past ++ [(system, .claim invocation projector now)])
      (system.performClaim invocation projector now) := by
  refine held.claim (system.outbox.claimWalk_walks ..) rfl (system.outbox.claimWalk_events ..)
    (by simp only [grants, if_neg idle]) (fun _ _ stored => ?_) rfl
  unfold performClaim claim at stored
  cases failed : (system.outbox.claimWalk projector.projector projector.claimTtl projector.batchSize
      now).failure with
  | some =>
    simp only [failed] at stored
    exact .inl stored
  | none =>
    simp only [failed, get?_insert] at stored
    split at stored
    · cases stored
      exact .inr rfl
    · exact .inl stored

end

theorem perform_orderly (deployment : DeploymentId) (held : Orderly apply past system)
    (step : ProjectorStep σ) :
    Orderly apply (past ++ [(system, step)]) (system.perform deployment apply step) := by
  cases step with
  | append =>
    unfold perform
    dsimp only
    split
    · rename_i appended done
      obtain ⟨added, ready⟩ := append_eq_ok done
      exact held.append added ready rfl
    · exact held.keep rfl rfl fun _ _ stored => .inl stored
  | claim invocation _ now =>
    unfold perform
    dsimp only
    split_ifs with busy
    · refine held.keep rfl ?_ fun _ _ stored => .inl stored
      simp only [grants, if_pos busy]
    · exact performClaim_orderly held busy _ now
  | apply invocation => exact performApply_orderly held invocation
  | acknowledge invocation now => exact performAcknowledge_orderly held invocation now
  | crash => exact held.stop _ rfl
  | elsewhere => exact held.keep rfl rfl fun _ _ stored => .inl stored

theorem run_orderly (deployment : DeploymentId) (apply : Apply σ) (projection : σ)
    (steps : List (ProjectorStep σ)) :
    Orderly apply (trace (perform deployment apply) (start projection) steps)
      (steps.foldl (perform deployment apply) (start projection)) :=
  trace_induction (motive := Orderly apply) (orderly_start projection)
    (fun _ _ step held => perform_orderly deployment held step) steps

private theorem Orderly.below (held : Orderly apply past system) {step event}
    (attempt : attempted? (system, step) = some event) {lower} (positive : 1 ≤ lower)
    (smaller : lower < event.sequence) : AppliedIn apply past lower := by
  unfold attempted? at attempt
  split at attempt
  · rename_i invocation _
    unfold nextEvent? at attempt
    split at attempt
    · rename_i projector claim rest running
      cases attempt
      have batch := held.batches _ _ running
      obtain ⟨_, stored, same⟩ := batch.known _ (List.mem_cons_self)
      obtain ⟨_, member, its⟩ :=
        system.outbox.exists_of_lt stored positive (same ▸ smaller)
      have applied := batch.below member (its ▸ smaller)
      exact its ▸ held.done _ member applied
    · cases attempt
  · cases attempt

private theorem Orderly.applied_upto (held : Orderly apply past system) :
    ∃ count, ∀ record ∈ system.outbox.records, record.isApplied ↔ record.sequence ≤ count := by
  classical
  let reached (sequence : Nat) : Prop :=
    ∃ record ∈ system.outbox.records, record.sequence = sequence ∧ record.isApplied
  refine ⟨Nat.findGreatest reached (system.outbox.lastSequence.getD 0), fun record stored => ?_⟩
  have bounds := system.outbox.sequence_bounds stored
  constructor
  · intro applied
    exact Nat.le_findGreatest bounds.2 ⟨record, stored, rfl, applied⟩
  · intro within
    have positive : Nat.findGreatest reached (system.outbox.lastSequence.getD 0) ≠ 0 := by omega
    obtain ⟨_, also, sequence, applied⟩ := Nat.findGreatest_of_ne_zero rfl positive
    rcases lt_or_eq_of_le within with lower | same
    · exact held.front _ stored _ also (sequence ▸ lower) applied
    · rwa [system.outbox.eq_of_sequence stored also (same.trans sequence.symm)]

/-- What holds after any run of the projectors of an outbox: applied records are a prefix of the
sequence order, every event was handed to the projection after all lower sequences had been
applied, and an acknowledgement is accepted only from the latest claim while it lasts. -/
structure OrderedProjection (apply : Apply σ) (past : List (ProjectorPlace σ)) (system : System σ) :
    Prop where
  applied_first : ∃ count, ∀ record ∈ system.outbox.records,
    record.isApplied ↔ record.sequence ≤ count
  in_order : ∀ before place after, past = before ++ place :: after → ∀ event,
    attempted? place = some event → ∀ lower, 1 ≤ lower → lower < event.sequence →
      AppliedIn apply before lower
  accepted : ∀ sequence projector generation now outbox,
    system.outbox.acknowledge sequence projector generation now = .ok outbox →
      ∃ claimedAt expiresAt, LatestClaim past sequence projector generation claimedAt expiresAt ∧
        claimedAt ≤ now ∧ now < expiresAt

theorem ordered_projection (deployment : DeploymentId) (apply : Apply σ) (projection : σ)
    (steps : List (ProjectorStep σ)) :
    OrderedProjection apply (trace (perform deployment apply) (start projection) steps)
      (steps.foldl (perform deployment apply) (start projection)) where
  applied_first := (run_orderly deployment apply projection steps).applied_upto
  in_order := by
    rintro _ ⟨_, _⟩ _ split _ attempt _ positive smaller
    obtain ⟨first, _, _, rfl, rfl, _⟩ := trace_split split
    exact (run_orderly _ apply projection first).below attempt positive smaller
  accepted := by
    intro _ _ _ _ _ done
    have accepted := acknowledge_eq_ok done
    obtain ⟨_, stored, rfl, claimedAt, expiresAt, state, starts, ends⟩ := accepted.claimed
    have held := run_orderly deployment apply projection steps
    exact ⟨claimedAt, expiresAt, held.granted _ stored _ _ _ _ state, starts, ends⟩

end System

end Bridgefu.Coordination
