/- digest: How a stored call goes on: its versions and generations grow, and what has ended stays. -/

import Bridgefu.CallEngine.LegStops
import Bridgefu.Persistence.Simulation

set_option autoImplicit false

namespace Bridgefu.CallEngine

open Lib

/-- The second call is the first one or what later commands have made of it. -/
structure CallAggregate.Advances (before after : CallAggregate) : Prop where
  id : after.id = before.id
  tenantId : after.tenantId = before.tenantId
  version : before.version ≤ after.version
  unchanged : after.version = before.version → after = before
  legs : ∀ slot, LegAdvances (before.legAt slot) (after.legAt slot)
  ended : before.state.isTerminal = true → after = before

namespace CallAggregate.Advances

theorem refl (a : CallAggregate) : Advances a a :=
  ⟨rfl, rfl, le_rfl, fun _ => rfl, fun _ => .refl _, fun _ => rfl⟩

theorem leg {before after} (advances : Advances before after) {legId leg}
    (found : before.leg legId = some leg) :
    ∃ next, after.leg legId = some next ∧ LegAdvances leg next :=
  leg_found (fun slot => (advances.legs slot).id) advances.legs found

end CallAggregate.Advances

theorem CallAggregate.decide_advances {a : CallAggregate} {command decision} (valid : a.Valid)
    (done : a.decide command = .ok decision) : a.Advances decision.aggregate := by
  obtain ⟨-, same, -⟩ | ⟨isApplied, move⟩ := decide_moves done
  · rw [same]
    exact .refl a
  cases decide_decided done with
  | ignored other => exact absurd isApplied other
  | applied _ same =>
    refine ⟨same.id, same.tenantId, by omega, fun _ => by omega, fun slot => ?_,
      fun terminal => ?_⟩
    · have advances := move.legs_advance valid slot
      exact advances.toLegAdvances
    · have follows := move.state_mem valid
      cases state : a.state <;> rw [state] at follows terminal <;>
        simp [nextStates, CallState.isTerminal] at follows terminal

/-- The second row shows the same call later on. -/
structure StoredCall.Advances (before after : StoredCall) : Prop where
  aggregate : before.aggregate.Advances after.aggregate
  released : before.assignment.releasedAt.isSome = true → after.assignment.releasedAt.isSome = true

namespace StoredCall.Advances

theorem refl (call : StoredCall) : Advances call call := ⟨.refl _, fun released => released⟩

end StoredCall.Advances

end Bridgefu.CallEngine

namespace Bridgefu.Persistence

open Lib CallEngine CallService

namespace Ledger

def CallsValid (ledger : Ledger) : Prop :=
  ∀ callId call, ledger.calls.get? callId = some call → call.aggregate.Valid

private theorem CallsValid.insert {ledger : Ledger} (valid : ledger.CallsValid) {callId call}
    (new : call.aggregate.Valid) :
    ∀ other row, (ledger.calls.insert callId call).get? other = some row →
      row.aggregate.Valid :=
  Table.forall_insert valid new

theorem CallsValid.initial : MemoryState.initial.ledger.CallsValid := by
  intro _ _ found
  cases found

theorem CallsValid.step {permits ledger after} (valid : ledger.CallsValid)
    (step : LedgerStep permits ledger after) : after.CallsValid := by
  have decided : ∀ {a : CallAggregate} {command : CallCommand} {decision : CallDecision},
      a.decide command = .ok decision → decision.aggregate.Valid :=
    fun done => CallAggregate.validate_iff.mp (CallAggregate.decide_valid done)
  cases step with
  | created c _ admits => exact valid.insert (decided admits.decided)
  | decided c _ accepts | promoted c _ _ _ _ accepts => exact valid.insert (decided accepts.decided)
  | bound callId call _ _ _ found => exact valid.insert (valid callId call found)
  | released callId call _ _ _ _ found => exact valid.insert (valid callId call found)
  | restarted _ _ callId call _ found => exact valid.insert (valid callId call found)
  | _ => exact valid

end Ledger

private theorem advances_insert {calls : Table CallId StoredCall} {callId other call next row}
    (found : calls.get? callId = some call) (advances : call.Advances next)
    (stored : calls.get? other = some row) :
    ∃ later, (calls.insert callId next).get? other = some later ∧ row.Advances later :=
  Table.moves_insert (R := fun _ => StoredCall.Advances) stored found (.refl row) advances

private theorem Ledger.Accepts.advances {ledger : Ledger} {c} (accepts : ledger.Accepts c)
    (valid : ledger.CallsValid) (bindings : Table LegId ConnectionBinding) :
    c.call.Advances { c.stored with bindings := bindings } where
  aggregate := CallAggregate.decide_advances (valid _ _ accepts.found) accepts.decided
  released := by
    intro released
    rw [accepts.unreleased] at released
    cases released

/-- No step takes a stored call away or back. -/
theorem LedgerStep.call_advances {permits ledger after} (step : LedgerStep permits ledger after)
    (valid : ledger.CallsValid) {callId call} (found : ledger.calls.get? callId = some call) :
    ∃ next, after.calls.get? callId = some next ∧ call.Advances next := by
  cases step with
  | created c _ admits =>
    exact ⟨call, Table.get?_insert_fresh found admits.newCall, .refl call⟩
  | decided c _ accepts => exact advances_insert accepts.found (accepts.advances valid _) found
  | promoted c _ _ _ _ accepts =>
    exact advances_insert accepts.found (accepts.advances valid _) found
  | bound key row _ _ _ stored | restarted _ _ _ _ _ stored =>
    exact advances_insert stored ⟨.refl _, fun released => released⟩ found
  | released key row _ _ _ _ stored => exact advances_insert stored ⟨.refl _, fun _ => rfl⟩ found
  | _ => exact ⟨call, found, .refl call⟩

end Bridgefu.Persistence
