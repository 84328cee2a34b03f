/- digest: What a decided command does to connections, attachments and control effects. -/

import Bridgefu.Persistence.Calls

set_option autoImplicit false

/-! The same sweeps that the repository makes within its state, as functions of the rows alone. -/

namespace Bridgefu.Persistence

open Lib CallEngine CallService

abbrev ConnectionOwners := Table ConnectionId BindingKey

variable (callId : CallId) (next : CallAggregate)

/-- Give up the connection of a binding that still owns it. -/
def releaseOwner (owners : ConnectionOwners) (row : LegId × ConnectionBinding) : ConnectionOwners :=
  if owners.get? row.2.connectionId = some (callId, row.1, row.2.bindingGeneration)
  then owners.erase row.2.connectionId else owners

/-- The same for a dropped attachment, unless its connection is the leg's current one. -/
def releaseDropped (bindings : Table LegId ConnectionBinding) (owners : ConnectionOwners)
    (binding : ConnectionBinding) : ConnectionOwners :=
  if (bindings.get? binding.legId).any fun current => current.connectionId = binding.connectionId
  then owners else releaseOwner callId owners (binding.legId, binding)

/-- The owners once the next aggregate has dropped bindings and attachments of the call. -/
def sweepOwners (bindings : Table LegId ConnectionBinding)
    (attachments : Table AttachmentTokenDigest AttachmentRow) (owners : ConnectionOwners) :
    ConnectionOwners :=
  let retired := bindings.rows.filter fun row => !bindingRetained next row.1 row.2
  let dropped := (attachments.values.filter (MemoryState.attachmentDropped callId next)).filterMap
    AttachmentRow.binding
  dropped.foldl (releaseDropped callId (bindings.filter (bindingRetained next)))
    (retired.foldl (releaseOwner callId) owners)

/-- Every connection of the second table is in the first one, with the same owner. -/
def OwnersShrink (owners next : ConnectionOwners) : Prop :=
  ∀ connectionId key, next.get? connectionId = some key → owners.get? connectionId = some key

namespace OwnersShrink

theorem refl (owners : ConnectionOwners) : OwnersShrink owners owners :=
  fun _ _ found => found

theorem trans {first second third} (one : OwnersShrink first second)
    (two : OwnersShrink second third) : OwnersShrink first third :=
  fun connectionId key found => one connectionId key (two connectionId key found)

private theorem releaseOwner (callId : CallId) (owners : ConnectionOwners)
    (row : LegId × ConnectionBinding) :
    OwnersShrink owners (Persistence.releaseOwner callId owners row) := by
  intro _ _ found
  unfold Persistence.releaseOwner at found
  split at found
  · rw [Table.get?_erase] at found
    split_ifs at found
    exact found
  · exact found

private theorem releaseDropped (callId : CallId) (bindings : Table LegId ConnectionBinding)
    (owners : ConnectionOwners) (binding : ConnectionBinding) :
    OwnersShrink owners (Persistence.releaseDropped callId bindings owners binding) := by
  unfold Persistence.releaseDropped
  split
  · exact refl owners
  · exact releaseOwner _ _ _

private theorem foldl {α step}
    (shrinks : ∀ owners item, OwnersShrink owners (step owners item)) (items : List α)
    (owners : ConnectionOwners) : OwnersShrink owners (items.foldl step owners) := by
  induction items generalizing owners with
  | nil => exact refl owners
  | cons item _ ih => exact (shrinks owners item).trans (ih (step owners item))

theorem sweep (callId : CallId) (next : CallAggregate) (bindings : Table LegId ConnectionBinding)
    (attachments : Table AttachmentTokenDigest AttachmentRow) (owners : ConnectionOwners) :
    OwnersShrink owners (sweepOwners callId next bindings attachments owners) :=
  (foldl (releaseOwner callId) _ owners).trans (foldl (releaseDropped callId _) _ _)

private theorem unowned {owners next} (shrinks : OwnersShrink owners next) {connectionId}
    (free : owners.get? connectionId = none) : next.get? connectionId = none := by
  refine Option.eq_none_iff_forall_ne_some.mpr fun key found => ?_
  cases free.symm.trans (shrinks connectionId key found)

end OwnersShrink

theorem sweepOwners_retired {callId next bindings}
    {owners} (attachments : Table AttachmentTokenDigest AttachmentRow)
    {legId binding} (bound : bindings.get? legId = some binding)
    (retired : bindingRetained next legId binding = false)
    (owned : ∀ key, owners.get? binding.connectionId = some key →
      key = (callId, legId, binding.bindingGeneration)) :
    (sweepOwners callId next bindings attachments owners).get? binding.connectionId = none := by
  have member : (legId, binding) ∈ bindings.rows.filter fun row =>
      !bindingRetained next row.1 row.2 := by
    rw [List.mem_filter]
    exact ⟨(Table.mem_rows ..).mpr bound, by simp [retired]⟩
  refine (OwnersShrink.foldl (OwnersShrink.releaseDropped _ _) _ _).unowned ?_
  generalize (bindings.rows.filter fun row => !bindingRetained next row.1 row.2) = rows at member
  induction rows generalizing owners with
  | nil => cases member
  | cons row rest ih =>
    have shrinks := OwnersShrink.releaseOwner callId owners row
    rcases List.mem_cons.mp member with rfl | later
    · -- the binding's own turn: the owner is this binding or nobody
      refine (OwnersShrink.foldl (OwnersShrink.releaseOwner callId) rest _).unowned ?_
      unfold releaseOwner
      split_ifs with other
      · simp
      · refine Option.eq_none_iff_forall_ne_some.mpr fun key found => other ?_
        rw [found, owned key found]
    · exact ih (fun key found => owned key (shrinks _ key found)) later

/-- Revoke the attachments of the call that the next aggregate drops. -/
def sweepAttachments (attachments : Table AttachmentTokenDigest AttachmentRow) :
    Table AttachmentTokenDigest AttachmentRow :=
  attachments.mapValues fun _ row =>
    if MemoryState.attachmentDropped callId next row then
      { row with revokedAt := some (row.revokedAt.getD next.updatedAt) }
    else row

def AttachmentIssue.row (tenantId : TenantId) (callId : CallId) (worker : WorkerLease)
    (issue : AttachmentIssue) : AttachmentRow :=
  { attachmentId := issue.attachmentId, tokenDigest := issue.tokenDigest
    purpose := issue.purpose, tenantId := tenantId, callId := callId, legId := issue.legId
    bindingGeneration := issue.bindingGeneration, transport := issue.transport
    expectedPrincipal := issue.expectedPrincipal, worker := worker
    expiresAt := issue.expiresAt, consumedAt := none, revokedAt := none, binding := none }

def issuedRows (tenantId : TenantId) (callId : CallId) (worker : WorkerLease)
    (issues : List AttachmentIssue) : List (AttachmentTokenDigest × AttachmentRow) :=
  issues.map fun issue => (issue.tokenDigest, AttachmentIssue.row tenantId callId worker issue)

theorem mem_issuedRows {tenantId callId worker issues token row}
    (member : (token, row) ∈ issuedRows tenantId callId worker issues) :
    ∃ issue ∈ issues, issue.tokenDigest = token ∧
      row = AttachmentIssue.row tenantId callId worker issue := by
  obtain ⟨issue, issued, same⟩ := List.mem_map.mp member
  cases same
  exact ⟨issue, issued, rfl, rfl⟩

abbrev ControlRows := Table EffectId ControlOutboxRecord × Table EffectId ControlRetirementReceipt

/-- Fail a control effect whose target is gone, and keep the receipt of its retirement. -/
def retireControlRow (commandId : CommandId) (rows : ControlRows) (record : ControlOutboxRecord) :
    Except RepositoryError ControlRows := do
  reject (rows.2.contains record.effectId) .unavailable
  return (rows.1.insert record.effectId { record with state := .failed next.updatedAt bindingRetired },
    rows.2.insert record.effectId
      ⟨record.effectId, commandId, record.tenantId, record.callId, record.legId,
        record.bindingGeneration, next.updatedAt, bindingRetired⟩)

/-- The unfinished control effects of the call whose target the next aggregate has left. -/
def controlsToRetire (controls : Table EffectId ControlOutboxRecord) : List ControlOutboxRecord :=
  controls.values.filter fun record => decide (record.callId = callId) &&
    controlOutboxIsUnfinished record && !controlTargetRetained next record

end Bridgefu.Persistence
