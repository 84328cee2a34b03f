/- digest: Deadline rows of one call against the slots of its aggregate. -/

import Bridgefu.Persistence.Simulation

/-!
Rows are written only through schedule and cancel effects and through the completion of a claim.
While a command is stored, the row of the deadline that fires is still open although its slot has
been cleared, so the mirror names that deadline.
-/

set_option autoImplicit false

namespace Bridgefu.Persistence

open Lib CallEngine CallService MemoryState Table

variable {firing : Option (DeadlineKind × Nat)} {callId : CallId} {rows : DeadlineRows}

/-- Is the row pending or claimed? -/
def DeadlineState.isOpen : DeadlineState → Bool
  | .pending | .claimed .. => true
  | .cancelled _ | .completed _ => false

def DeadlineState.isCompleted : DeadlineState → Bool
  | .completed _ => true
  | _ => false

theorem isCompleted_of_isOpen {state} (isOpen : DeadlineState.isOpen state = true) :
    DeadlineState.isCompleted state = false := by
  cases state <;> first | rfl | cases isOpen

/-- The open rows of the call are those of its armed slots, and no row is of a later generation.
While a command is stored, the row of the deadline that fires is open although its slot has been
cleared. -/
structure Mirror (callId : CallId) (slots : CallDeadlines) (rows : DeadlineRows)
    (firing : Option (DeadlineKind × Nat)) : Prop where
  armed : ∀ kind dueAt, (slots.get kind).dueAt = some dueAt →
    ∃ record, rows.get? (callId, kind, (slots.get kind).generation) = some record ∧
      DeadlineState.isOpen record.state = true ∧ record.dueAt = dueAt
  opened : ∀ kind generation record, rows.get? (callId, kind, generation) = some record →
    DeadlineState.isOpen record.state = true → firing ≠ some (kind, generation) →
    slots.get kind = ⟨generation, some record.dueAt⟩
  below : ∀ kind generation record, rows.get? (callId, kind, generation) = some record →
    generation ≤ (slots.get kind).generation
  idle : ∀ kind generation, firing = some (kind, generation) →
    generation ≤ (slots.get kind).generation ∧
      ((slots.get kind).generation = generation → (slots.get kind).dueAt = none)

/-- Every row is stored under its own key. -/
def Keyed (rows : DeadlineRows) : Prop :=
  ∀ key record, rows.get? key = some record →
    (record.callId, record.kind, record.generation) = key

/-- What storing deadline effects of the call leaves alone. -/
structure Persists (callId : CallId) (firing : Option (DeadlineKind × Nat))
    (rows next : DeadlineRows) : Prop where
  others : ∀ key : DeadlineKey, key.1 ≠ callId → next.get? key = rows.get? key
  completed : ∀ key record, rows.get? key = some record →
    DeadlineState.isCompleted record.state = true → next.get? key = some record
  fired : ∀ kind generation, firing = some (kind, generation) →
    next.get? (callId, kind, generation) = rows.get? (callId, kind, generation)
  keyed : Keyed rows → Keyed next

namespace Persists

variable {first second third : DeadlineRows}

theorem refl (rows : DeadlineRows) : Persists callId firing rows rows :=
  ⟨fun _ _ => rfl, fun _ _ found _ => found, fun _ _ _ => rfl, fun keyed => keyed⟩

theorem trans (one : Persists callId firing first second)
    (two : Persists callId firing second third) : Persists callId firing first third where
  others := fun key other => (two.others key other).trans (one.others key other)
  completed := fun key record found done =>
    two.completed key record (one.completed key record found done) done
  fired := fun kind generation fires =>
    (two.fired kind generation fires).trans (one.fired kind generation fires)
  keyed := fun keyed => two.keyed (one.keyed keyed)

theorem insert (rows : DeadlineRows) {kind generation record} (isKey : Keyed rows →
      (record.callId, record.kind, record.generation) = (callId, kind, generation))
    (quiet : firing ≠ some (kind, generation))
    (unfinished : ∀ old, rows.get? (callId, kind, generation) = some old →
      DeadlineState.isCompleted old.state = false) :
    Persists callId firing rows (rows.insert (callId, kind, generation) record) where
  others := by
    intro key other
    refine get?_insert_ne _ _ fun same => other ?_
    rw [same]
  completed := by
    intro key old found done
    rw [get?_insert, if_neg, found]
    intro same
    have open' := unfinished old (same ▸ found)
    rw [done] at open'
    cases open'
  fired := by
    intro other _ fires
    refine get?_insert_ne _ _ fun same => quiet ?_
    simp only [Prod.mk.injEq, true_and] at same
    rw [fires, same.1, same.2]
  keyed := fun keyed => forall_insert keyed (isKey keyed)

end Persists

namespace Mirror

variable {slots next : CallDeadlines} {batch : EffectBatch}

variable {kind : DeadlineKind} {record : DeadlineRecord}

private theorem write (mirror : Mirror callId slots rows firing) {slot}
    (later : (slots.get kind).generation ≤ slot.generation)
    (displaces : (slots.get kind).dueAt = none ∨ slot.generation = (slots.get kind).generation)
    (clears : slot.generation = (slots.get kind).generation → slot.dueAt = none)
    (agrees : ∀ dueAt, slot.dueAt = some dueAt ↔
      DeadlineState.isOpen record.state = true ∧ record.dueAt = dueAt) :
    Mirror callId (slots.set kind slot) (rows.insert (callId, kind, slot.generation) record)
      firing where
  armed := by
    intro other time isDue
    rw [CallDeadlines.get_set] at isDue ⊢
    by_cases same : other = kind
    · rw [if_pos same] at isDue ⊢
      rw [same]
      exact ⟨record, get?_insert_self .., (agrees time).mp isDue⟩
    · rw [if_neg same] at isDue ⊢
      obtain ⟨row, found, isOpen, rowDue⟩ := mirror.armed _ _ isDue
      exact ⟨row, by rw [get?_insert_ne _ _ (by simp [same]), found], isOpen, rowDue⟩
  opened := by
    intro other generation row found isOpen quiet
    rw [CallDeadlines.get_set]
    rcases get?_insert_some found with ⟨same, rfl⟩ | ⟨different, found⟩
    · obtain ⟨-, rfl, rfl⟩ := same
      rw [if_pos rfl, ← (agrees _).mpr ⟨isOpen, rfl⟩]
    · have before := mirror.opened _ _ row found isOpen quiet
      rw [if_neg, before]
      rintro rfl
      rw [before] at displaces
      obtain unarmed | equal := displaces
      · cases unarmed
      · exact different (by rw [equal])
  below := by
    intro other generation row found
    rw [CallDeadlines.get_set]
    rcases get?_insert_some found with ⟨same, -⟩ | ⟨-, found⟩
    · obtain ⟨-, rfl, rfl⟩ := same
      rw [if_pos rfl]
    · have earlier := mirror.below _ _ row found
      split_ifs with same
      · exact (same ▸ earlier).trans later
      · exact earlier
  idle := by
    intro other generation fires
    obtain ⟨earlier, cleared⟩ := mirror.idle _ _ fires
    rw [CallDeadlines.get_set]
    split_ifs with same
    · subst same
      exact ⟨earlier.trans later, fun equal => clears (by omega)⟩
    · exact ⟨earlier, cleared⟩

private theorem effect (mirror : Mirror batch.callId slots rows firing) {intent}
    (agrees : deadlineEffect slots intent = some next) :
    ∃ stored, persistDeadline batch rows intent = .ok stored ∧
      Mirror batch.callId next stored firing ∧ Persists batch.callId firing rows stored := by
  unfold deadlineEffect at agrees
  split at agrees
  · rename_i kind generation dueAt
    split_ifs at agrees with scheduled
    obtain ⟨unarmed, rfl⟩ := scheduled
    cases agrees
    have absent : rows.get? (batch.callId, kind, (slots.get kind).generation + 1) = none := by
      refine Option.eq_none_iff_forall_ne_some.mpr fun record found => ?_
      have earlier := mirror.below _ _ _ found
      omega
    let record : DeadlineRecord := ⟨batch.tenantId, batch.callId, kind,
      (slots.get kind).generation + 1, dueAt, .pending⟩
    have isKey : Keyed rows → (record.callId, record.kind, record.generation) =
        (batch.callId, kind, (slots.get kind).generation + 1) := fun _ => rfl
    refine ⟨_, ?_, mirror.write (Nat.le_succ _) (.inl unarmed) (by simp) ?_,
      .insert rows isKey ?_ ?_⟩
    · rw [persistDeadline, bind_eq_ok, exists_unit]
      exact ⟨by simp [absent], rfl⟩
    · simp [record, DeadlineState.isOpen]
    · intro fires
      exact absurd (mirror.idle _ _ fires).1 (Nat.not_succ_le_self _)
    · intro old found
      cases found.symm.trans absent
  · rename_i kind generation
    split_ifs at agrees with cancelled
    obtain ⟨isArmed, rfl⟩ := cancelled
    cases agrees
    obtain ⟨dueAt, due⟩ := Option.isSome_iff_exists.mp isArmed
    obtain ⟨record, found, isOpen, -⟩ := mirror.armed _ _ due
    have unfinished := isCompleted_of_isOpen isOpen
    have closed : DeadlineState.isOpen
        (DeadlineRecord.cancel record batch.atTime).state = false := by
      unfold DeadlineRecord.cancel
      split <;> simp_all [DeadlineState.isOpen]
    have isKey : Keyed rows → ((DeadlineRecord.cancel record batch.atTime).callId,
        (DeadlineRecord.cancel record batch.atTime).kind,
        (DeadlineRecord.cancel record batch.atTime).generation) =
          (batch.callId, kind, (slots.get kind).generation) := by
      intro keyed
      have key := keyed _ _ found
      unfold DeadlineRecord.cancel
      split <;> exact key
    refine ⟨_, ?_, mirror.write le_rfl (.inr rfl) (fun _ => rfl) (by simp [closed]),
      .insert rows isKey ?_ ?_⟩
    · simp only [persistDeadline, bind_eq_ok, orFail_eq_ok]
      exact ⟨record, found, rfl⟩
    · intro fires
      have cleared := (mirror.idle _ _ fires).2 rfl
      rw [due] at cleared
      cases cleared
    · intro old same
      cases same.symm.trans found
      exact unfinished
  · cases agrees
    refine ⟨rows, ?_, mirror, .refl rows⟩
    unfold persistDeadline
    split <;> simp_all

theorem effects (mirror : Mirror batch.callId slots rows firing) {intents}
    (trace : DeadlineTrace slots intents next) :
    ∃ stored, foldFallible (persistDeadline batch) rows intents = .ok stored ∧
      Mirror batch.callId next stored firing ∧ Persists batch.callId firing rows stored := by
  induction intents generalizing slots rows with
  | nil =>
    cases trace
    exact ⟨rows, rfl, mirror, .refl rows⟩
  | cons _ _ ih =>
    rw [DeadlineTrace, List.foldlM_cons, Option.bind_eq_bind,
      Option.bind_eq_some_iff] at trace
    obtain ⟨_, agrees, later⟩ := trace
    obtain ⟨first, stores, mirrored, kept⟩ := mirror.effect agrees
    obtain ⟨last, others, lastMirror, lastKept⟩ := ih mirrored later
    exact ⟨last, (bind_eq_ok _ _ _).mpr ⟨first, stores, others⟩, lastMirror,
      kept.trans lastKept⟩

theorem fire (mirror : Mirror callId slots rows none) (kind : DeadlineKind) :
    Mirror callId (slots.set kind ⟨(slots.get kind).generation, none⟩) rows
      (some (kind, (slots.get kind).generation)) where
  armed := by
    intro other _ isDue
    rw [CallDeadlines.get_set] at isDue ⊢
    split_ifs at isDue ⊢
    exact mirror.armed _ _ isDue
  opened := by
    intro other generation row found isOpen quiet
    have slot := mirror.opened _ _ row found isOpen (by rintro ⟨⟩)
    rw [CallDeadlines.get_set, if_neg, slot]
    intro same
    refine quiet ?_
    rw [← same, slot]
  below := by
    intro other generation row found
    have earlier := mirror.below _ _ row found
    rw [CallDeadlines.get_set]
    split_ifs with same
    · exact same ▸ earlier
    · exact earlier
  idle := by
    intro other generation fires
    cases fires
    rw [CallDeadlines.get_set, if_pos rfl]
    exact ⟨le_rfl, fun _ => rfl⟩

theorem complete {generation} (mirror : Mirror callId slots rows (some (kind, generation)))
    (closed : DeadlineState.isOpen record.state = false) :
    Mirror callId slots (rows.insert (callId, kind, generation) record) none where
  armed := by
    intro other _ isDue
    obtain ⟨row, found, isOpen, due⟩ := mirror.armed _ _ isDue
    refine ⟨row, ?_, isOpen, due⟩
    rw [get?_insert_ne, found]
    intro same
    simp only [Prod.mk.injEq, true_and] at same
    have cleared := (mirror.idle _ _ rfl).2 (same.1 ▸ same.2)
    rw [← same.1, isDue] at cleared
    cases cleared
  opened := by
    intro other number row found isOpen _
    rcases get?_insert_some found with ⟨-, rfl⟩ | ⟨different, found⟩
    · rw [closed] at isOpen
      cases isOpen
    · refine mirror.opened _ _ row found isOpen fun fires => different ?_
      cases fires
      rfl
  below := by
    intro other number row found
    rw [get?_insert] at found
    split_ifs at found with same
    · simp only [Prod.mk.injEq, true_and] at same
      rw [same.1, same.2]
      exact (mirror.idle _ _ rfl).1
    · exact mirror.below _ _ row found
  idle := nofun

end Mirror

/-- What the mirror sees of a row: its key, its due time, whether it is open or completed. -/
def rowFace (record : DeadlineRecord) : DeadlineKey × Timestamp × Bool × Bool :=
  ((record.callId, record.kind, record.generation), record.dueAt,
    DeadlineState.isOpen record.state, DeadlineState.isCompleted record.state)

def SameFaces (rows next : DeadlineRows) : Prop :=
  ∀ key, (next.get? key).map rowFace = (rows.get? key).map rowFace

variable {next : DeadlineRows}

theorem face_of {before after record}
    (same : after.map rowFace = before.map rowFace) (found : after = some record) :
    ∃ old, before = some old ∧ rowFace old = rowFace record := by
  rw [found, Option.map_some, eq_comm, Option.map_eq_some_iff] at same
  exact same

theorem SameFaces.keyed (same : SameFaces rows next) (keyed : Keyed rows) : Keyed next := by
  intro key _ found
  obtain ⟨old, isOld, faces⟩ := face_of (same key) found
  rw [← keyed key old isOld]
  exact (congrArg Prod.fst faces).symm

theorem Mirror.of_faces {callId slots firing} (mirror : Mirror callId slots rows firing)
    (same : ∀ kind generation, (next.get? (callId, kind, generation)).map rowFace =
      (rows.get? (callId, kind, generation)).map rowFace) : Mirror callId slots next firing where
  armed := by
    intro kind _ due
    obtain ⟨record, found, isOpen, rowDue⟩ := mirror.armed _ _ due
    obtain ⟨current, isCurrent, faces⟩ := face_of (same ..).symm found
    simp only [rowFace, Prod.mk.injEq] at faces
    exact ⟨current, isCurrent, by rw [faces.2.2.1, isOpen], by rw [faces.2.1, rowDue]⟩
  opened := by
    intro kind generation record found isOpen quiet
    obtain ⟨old, isOld, faces⟩ := face_of (same ..) found
    simp only [rowFace, Prod.mk.injEq] at faces
    rw [← faces.2.1]
    exact mirror.opened _ _ old isOld (by rw [faces.2.2.1, isOpen]) quiet
  below := by
    intro kind generation record found
    obtain ⟨old, isOld, -⟩ := face_of (same ..) found
    exact mirror.below _ _ old isOld
  idle := mirror.idle

theorem sameFaces_claimed {key record worker generation next}
    {expiresAt} (found : rows.get? key = some record)
    (previous : deadlineClaimGeneration record.state = some generation) :
    SameFaces rows (rows.insert key { record with state := .claimed worker next expiresAt }) := by
  intro _
  rw [get?_insert]
  split_ifs with same
  · cases state : record.state <;>
      simp_all [deadlineClaimGeneration, rowFace, DeadlineState.isOpen, DeadlineState.isCompleted]
  · rfl

theorem sameFaces_expired (rows : DeadlineRows) (callId : CallId) (atTime : Timestamp) :
    SameFaces rows (rows.mapValues fun _ record =>
      if record.callId = callId then
        { record with state := expireDeadlineClaim atTime record.state }
      else record) := by
  intro _
  rw [get?_mapValues, Option.map_map]
  congr 1
  funext record
  rw [Function.comp_apply]
  split
  · cases state : record.state <;>
      simp [expireDeadlineClaim, rowFace, state, DeadlineState.isOpen, DeadlineState.isCompleted]
  · rfl

end Bridgefu.Persistence
