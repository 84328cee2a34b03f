/- digest: What the preparation of an egress route leaves behind when it does not succeed. -/

import Bridgefu.Gateway.Routes
import Bridgefu.PrivateEgress.Store

set_option autoImplicit false

/-! The environment answers the awaited steps of `prepare`, and may drop the call at any of them. A
dropped call runs no code of its own. Only what its values do when they are dropped is undone: the
prepared connection is aborted, and the slot of an open route is retired. Of the routing table the
call is told what it was when it reserves its slot. Others are taken to leave this slot alone. -/

namespace Bridgefu.Gateway

open Lib CallEngine PrivateEgress Table

/-- The answer of a step awaited under a timeout. A step awaited without one is answered by an
option, with nothing for a call that is dropped there. -/
inductive Timed where
  | finished (done : Bool)
  | elapsed
  | dropped

/-- How a call ends without success. -/
inductive Stop where
  | failed (error : PrivateEgressError)
  | elapsed
  | dropped
  deriving DecidableEq

/-- What a call has acquired and not given back, with the key of its open route and the table. -/
structure Acquired where
  conversation : Bool
  prepared : Bool
  subscription : Bool
  route : Option GatewayRouteKey
  routing : RoutingState

namespace Acquired

def nothing (routing : RoutingState) : Acquired := ⟨false, false, false, none, routing⟩

/-- A route that is closed or dropped retires its slot. -/
def retire (held : Acquired) : Acquired :=
  { held with
    route := none
    routing := held.route.elim held.routing fun key => (held.routing.retireRoute key).1 }

end Acquired

abbrev Running := ExceptT Stop (StateM Acquired)

namespace Running

/-- The values of the call are dropped with it. -/
def drop {α : Type} (stop : Stop) : Running α := do
  modify ({ ·.retire with prepared := false })
  throw stop

def await {α : Type} : Option α → Running α
  | some value => pure value
  | none => drop .dropped

/-- A step of a future that its caller awaits under a timeout. -/
def awaitTimed : Timed → Running Bool
  | .finished done => pure done
  | .elapsed => throw .elapsed
  | .dropped => throw .dropped

def fail {α : Type} (error : PrivateEgressError) : Running α := throw (.failed error)

def require (granted : Bool) : Running Unit :=
  unless granted do fail .handlerRejected

def check (result : Except PrivateEgressError Unit) : Running Unit :=
  match result with
  | .ok () => pure ()
  | .error error => fail error

/-- How a future ended, for the caller that goes on after it. -/
def attempt (future : Running Unit) : Running (Except Stop Unit) := ExceptT.lift future.run

def closeNativeScope (closeConversation : Option Bool) : Running Unit := do
  if ← await closeConversation then
    modify ({ · with conversation := false })

def abandonPrepared (abort : Option Unit) (closeConversation : Option Bool) : Running Unit := do
  await abort
  modify ({ · with prepared := false })
  closeNativeScope closeConversation

def unsubscribe : Running Unit :=
  modify ({ · with subscription := false })

end Running

open Running

/-- The answers to the steps of `open_private_egress_stream_route`. -/
structure OpenAnswers where
  /-- The forwarder does not drain, the admission and its codec are valid, the worker is known and
  there is room for a route. -/
  checked : Bool
  ensurePeer : Timed
  peerPermit : Bool
  routing : RoutingState
  key : GatewayRouteKey
  route : RouteInner
  openAtPeer : Timed
  freshStream : Bool
  activate : Bool
  sendSessionEnd : Timed

/-- Every error of this function is a rejection to its caller. -/
def openPrivateEgressStreamRoute (answers : OpenAnswers) : Running Unit := do
  require answers.checked
  require (← awaitTimed answers.ensurePeer)
  require answers.peerPermit
  match answers.routing.reserveRoute answers.key answers.route.workerId with
  | .error _ => fail .handlerRejected
  | .ok reserved =>
    modify ({ · with routing := reserved })
    unless ← awaitTimed answers.openAtPeer do
      modify ({ · with routing := reserved.rollbackRoute answers.key })
      fail .handlerRejected
    unless answers.freshStream && answers.activate do
      modify ({ · with routing := reserved.rollbackRoute answers.key })
      let _ ← awaitTimed answers.sendSessionEnd
      fail .handlerRejected
    modify ({ · with
      routing := orKeep (reserved.activateRoute answers.key answers.route) reserved
      route := some answers.key })

structure PrepareAnswers where
  /-- The proxy does not drain, has no such route, and has an adapter for the transport. -/
  checked : Except PrivateEgressError Unit
  resolve : Option (Except PrivateEgressError Unit)
  /-- The profile offers the codec, and the adapter is the one of the orchestrator. -/
  offered : Except PrivateEgressError Unit
  openConversation : Option Bool
  startSession : Option Bool
  prepareOutbound : Timed
  sameTransport : Bool
  /-- The subscription, if there is a source of lifecycle events. -/
  subscribe : Option Bool
  /-- The command gives a valid admission that has not expired. -/
  fromPrepare : Bool
  openRoute : OpenAnswers
  occupied : Bool
  lockCell : Option Unit
  closeRoute : Option Unit
  /-- The abort ends, or its timeout elapses. -/
  abort : Option Unit
  /-- Is the conversation closed? The call may fail, and its timeout may elapse. -/
  closeConversation : Option Bool

namespace PrepareAnswers

variable (answers : PrepareAnswers)

def abandon (error : PrivateEgressError) : Running Unit := do
  abandonPrepared answers.abort answers.closeConversation
  fail error

def close (error : PrivateEgressError) : Running Unit := do
  closeNativeScope answers.closeConversation
  fail error

/-- The rest of `prepare`, once the connection is prepared and subscribed to. -/
def openAndPublish : Running Unit := do
  -- the conversation and the subscription are not given back here
  unless answers.fromPrepare do drop (.failed .handlerRejected)
  match ← attempt (openPrivateEgressStreamRoute answers.openRoute) with
  | .error .dropped => drop .dropped
  | .error .elapsed =>
    unsubscribe
    answers.abandon .timeout
  | .error (.failed _) =>
    unsubscribe
    answers.abandon .handlerRejected
  | .ok () =>
    if answers.occupied then
      await answers.lockCell
      unsubscribe
      await answers.closeRoute
      modify Acquired.retire
      answers.abandon .invalidTransition

def prepare : Running Unit := do
  check answers.checked
  check (← await answers.resolve)
  check answers.offered
  require (← await answers.openConversation)
  modify ({ · with conversation := true })
  if !(← await answers.startSession) then answers.close .handlerRejected else
  match answers.prepareOutbound with
  | .dropped => drop .dropped
  | .elapsed => answers.close .timeout
  | .finished false => answers.close .handlerRejected
  | .finished true =>
    modify ({ · with prepared := true })
    if !answers.sameTransport then answers.abandon .handlerRejected else
    match answers.subscribe with
    | some false => answers.abandon .handlerRejected
    | subscribed =>
      modify ({ · with subscription := subscribed.isSome })
      answers.openAndPublish

/-- The answers with the given table. -/
def finding (routing : RoutingState) : PrepareAnswers :=
  { answers with openRoute := { answers.openRoute with routing := routing } }

def Opens : Prop :=
  answers.checked = .ok () ∧ answers.resolve = some (.ok ()) ∧ answers.offered = .ok () ∧
    answers.openConversation = some true

/-- The outbound connection is prepared. -/
def Originates : Prop :=
  answers.Opens ∧ answers.startSession = some true ∧ answers.prepareOutbound = .finished true

def Subscribes : Prop :=
  answers.Originates ∧ answers.sameTransport ∧ answers.subscribe ≠ some false

end PrepareAnswers

namespace OpenAnswers

variable (answers : OpenAnswers)

def Reserves : Prop :=
  answers.checked ∧ answers.ensurePeer = .finished true ∧ answers.peerPermit ∧
    (answers.routing.reserveRoute answers.key answers.route.workerId).isOk

def Opens : Prop :=
  answers.Reserves ∧ answers.openAtPeer = .finished true ∧ answers.freshStream ∧ answers.activate

/-- The future is dropped, or its timeout elapses while a slot is reserved. -/
def Loses : Prop :=
  (answers.checked ∧ answers.ensurePeer = .dropped) ∨
    (answers.Reserves ∧ (answers.openAtPeer = .elapsed ∨ answers.openAtPeer = .dropped ∨
      (answers.openAtPeer = .finished true ∧ ¬ answers.Opens ∧ answers.sendSessionEnd = .dropped)))

end OpenAnswers

namespace PrepareAnswers

variable (answers : PrepareAnswers)

def Succeeds : Prop :=
  answers.Subscribes ∧ answers.fromPrepare ∧ answers.openRoute.Opens ∧ answers.occupied = false

/-- Once the conversation is open the call is not dropped, its admission does not expire, the peer
answers in time, and the conversation is closed when that is asked for. -/
@[mk_iff]
structure Undone : Prop where
  started : answers.Opens → answers.startSession ≠ none
  prepared : answers.Opens → answers.startSession = some true → answers.prepareOutbound ≠ .dropped
  admitted : answers.Subscribes → answers.fromPrepare
  answered : answers.Subscribes → ¬ answers.openRoute.Loses
  retired : answers.Subscribes → answers.openRoute.Opens → answers.occupied →
    answers.lockCell = some () ∧ answers.closeRoute = some ()
  aborted : answers.Originates → ¬ answers.Succeeds → answers.abort = some ()
  closed : answers.Opens → ¬ answers.Succeeds → answers.closeConversation = some true

end PrepareAnswers

/-- No slot and no pin is there that was not there before. -/
structure RoutingState.GivenBack (before after : RoutingState) : Prop where
  slots : ∀ key, after.routes.get? key = before.routes.get? key
  pins : ∀ call pin, after.calls.get? call = some pin → before.calls.get? call = some pin

namespace RoutingState

variable {routing reserved after : RoutingState} {key : GatewayRouteKey} {workerId : WorkerId}

theorem GivenBack.refl (routing : RoutingState) : routing.GivenBack routing :=
  ⟨fun _ => rfl, fun _ _ => id⟩

private theorem GivenBack.reserves (back : routing.GivenBack after)
    (done : (routing.reserveRoute key workerId).isOk) :
    (after.reserveRoute key workerId).isOk := by
  cases result : routing.reserveRoute key workerId with
  | error =>
    rw [result] at done
    cases done
  | ok =>
    obtain ⟨free, here, -⟩ := reserveRoute_eq_ok result
    rw [← back.slots, ← contains_eq_false] at free
    rw [reserveRoute, free]
    cases found : after.calls.get? key.callKey with
    | none => rfl
    | some pin =>
      have same := here pin (back.pins _ _ found)
      simp [same, reject, pure, Except.pure, bind, Except.bind, Except.isOk, Except.toBool]

variable (done : routing.reserveRoute key workerId = .ok reserved)
include done

private theorem not_givenBack_reserved : ¬ routing.GivenBack reserved := by
  intro back
  obtain ⟨free, -, rfl⟩ := reserveRoute_eq_ok done
  have same := back.slots key
  rw [get?_insert_self, free] at same
  cases same

private theorem givenBack_removeSlot {held : RoutingState} {slot}
    (calls : held.calls = reserved.calls) (routes : held.routes = routing.routes.insert key slot) :
    routing.GivenBack (held.removeSlot key) := by
  obtain ⟨free, here, rfl⟩ := reserveRoute_eq_ok done
  constructor
  · intro other
    rw [removeSlot_routes, routes, get?_erase, get?_insert]
    split_ifs with same
    · rw [same, free]
    · rfl
  · intro call pin found
    have present : held.routes.contains key = true :=
      (contains_eq_true ..).mpr ⟨slot, by rw [routes, get?_insert_self]⟩
    rw [removeSlot, if_pos present, releaseCallPin, calls, get?_insert_self] at found
    dsimp only at found
    split_ifs at found with last
    · rw [get?_erase, get?_insert] at found
      split_ifs at found
      exact found
    · rcases get?_insert_some found with ⟨rfl, rfl⟩ | ⟨other, found⟩
      · -- the pin of an older slot, on the same worker
        unfold pinCount at last ⊢
        cases known : routing.calls.get? key.callKey with
        | none => simp [known] at last
        | some pin =>
          cases here pin known
          rfl
      · rwa [get?_insert_ne _ _ other] at found

private theorem givenBack_rollback : routing.GivenBack (reserved.rollbackRoute key) := by
  obtain ⟨-, -, same⟩ := reserveRoute_eq_ok done
  exact givenBack_removeSlot done rfl (congrArg RoutingState.routes same)

omit done in
private theorem givenBack_retire {route : RouteInner}
    (done : routing.reserveRoute key route.workerId = .ok reserved) :
    routing.GivenBack ((orKeep (reserved.activateRoute key route) reserved).retireRoute key).1 := by
  obtain ⟨-, -, same⟩ := reserveRoute_eq_ok done
  have pending : reserved.routes.get? key = some (.pending route.workerId) := by
    rw [same, get?_insert_self]
  have activated : reserved.activateRoute key route =
      .ok { reserved with routes := reserved.routes.insert key (.active route) } := by
    rw [activateRoute, pending]
    simp [reject, bind, Except.bind, pure, Except.pure]
  have routes : reserved.routes.insert key (.active route) =
      routing.routes.insert key (.active route) := by rw [same, insert_insert]
  rw [activated]
  exact givenBack_removeSlot done rfl routes

end RoutingState

/-- The call holds nothing any more, and the table is as it was. -/
@[mk_iff]
structure Acquired.GivesBack (held : Acquired) (routing : RoutingState) : Prop where
  conversation : held.conversation = false
  prepared : held.prepared = false
  subscription : held.subscription = false
  route : held.route = none
  table : routing.GivenBack held.routing

namespace PrepareAnswers

variable (answers : PrepareAnswers)

def run : Except Stop Unit × Acquired := answers.prepare.run (.nothing answers.openRoute.routing)

/-- The call succeeds or gives everything back. -/
def LeavesNothing (outcome : Except Stop Unit × Acquired) : Prop :=
  outcome.1 = .ok () ∨ outcome.2.GivesBack answers.openRoute.routing

variable {answers}

attribute [local simp] OpenAnswers.Loses OpenAnswers.Opens OpenAnswers.Reserves
  Acquired.givesBack_iff Acquired.nothing Acquired.retire RoutingState.GivenBack.refl

private theorem leavesNothing_of {outcome stop held} (ends : outcome = (.error stop, held)) :
    answers.LeavesNothing outcome ↔ held.GivesBack answers.openRoute.routing := by
  simp [LeavesNothing, ends]

private theorem close_leaves (error : PrivateEgressError) :
    answers.LeavesNothing
        ((answers.close error).run ⟨true, false, false, none, answers.openRoute.routing⟩) ↔
      answers.closeConversation = some true := by
  unfold close
  rcases answers.closeConversation with _ | _ | _ <;> exact (leavesNothing_of rfl).trans (by simp)

private theorem abandon_leaves (error : PrivateEgressError) (left : RoutingState) :
    answers.LeavesNothing ((answers.abandon error).run ⟨true, true, false, none, left⟩) ↔
      answers.openRoute.routing.GivenBack left ∧ answers.abort = some () ∧
        answers.closeConversation = some true := by
  unfold abandon
  rcases answers.abort with _ | _ <;> rcases answers.closeConversation with _ | _ | _ <;>
    exact (leavesNothing_of rfl).trans (by simp)

private theorem openAndPublish_leaves (subscription : Bool) :
    answers.LeavesNothing (answers.openAndPublish.run
        ⟨true, true, subscription, none, answers.openRoute.routing⟩) ↔
      answers.fromPrepare ∧ ¬ answers.openRoute.Loses ∧
      (answers.openRoute.Opens → answers.occupied →
        answers.lockCell = some () ∧ answers.closeRoute = some ()) ∧
      (¬ (answers.openRoute.Opens ∧ answers.occupied = false) →
        answers.abort = some () ∧ answers.closeConversation = some true) := by
  obtain ⟨_, _, _, _, _, _, _, _, fromPrepare, ⟨checked, ensurePeer, peerPermit, routing, key,
    route, openAtPeer, freshStream, activate, sendSessionEnd⟩, occupied, lockCell, closeRoute, _,
    _⟩ := answers
  cases fromPrepare with
  | false => exact (leavesNothing_of rfl).trans (by simp)
  | true =>
  cases checked with
  | false => exact (abandon_leaves .handlerRejected routing).trans (by simp)
  | true =>
  rcases ensurePeer with (_ | _) | _ | _
  · exact (abandon_leaves .handlerRejected routing).trans (by simp)
  · cases peerPermit with
    | false => exact (abandon_leaves .handlerRejected routing).trans (by simp)
    | true =>
    unfold openAndPublish openPrivateEgressStreamRoute
    cases done : routing.reserveRoute key route.workerId with
    | error =>
      have full : (routing.reserveRoute key route.workerId).isOk = false := by rw [done]; rfl
      exact (abandon_leaves .handlerRejected routing).trans (by simp [full])
    | ok reserved =>
    have room : (routing.reserveRoute key route.workerId).isOk = true := by rw [done]; rfl
    have back := RoutingState.givenBack_rollback done
    have kept := RoutingState.not_givenBack_reserved done
    rcases openAtPeer with (_ | _) | _ | _
    · exact (abandon_leaves .handlerRejected _).trans (by simp [back, room])
    · cases freshStream <;> cases activate
      case true.true =>
        cases occupied with
        | false => exact iff_of_true (.inl rfl) (by simp [room])
        | true =>
        rcases lockCell with _ | _
        · exact (leavesNothing_of rfl).trans (by simp [room])
        rcases closeRoute with _ | _
        · exact (leavesNothing_of rfl).trans (by simp [room])
        · have retired := RoutingState.givenBack_retire done
          exact (abandon_leaves .invalidTransition _).trans (by simp [retired, room])
      all_goals
        rcases sendSessionEnd with _ | _ | _
        · exact (abandon_leaves .handlerRejected _).trans (by simp [back, room])
        · exact (abandon_leaves .timeout _).trans (by simp [back, room])
        · exact (leavesNothing_of rfl).trans (by simp [room])
    · exact (abandon_leaves .timeout reserved).trans (by simp [kept, room])
    · exact (leavesNothing_of rfl).trans (by simp [room])
  · exact (abandon_leaves .timeout routing).trans (by simp)
  · exact (leavesNothing_of rfl).trans (by simp)

private theorem unopened (never : ¬ answers.Opens) :
    answers.run.2 = .nothing answers.openRoute.routing := by
  obtain ⟨checked, resolve, offered, openConversation⟩ := answers
  rcases checked with _ | _
  · rfl
  rcases resolve with _ | _ | _
  · rfl
  · rfl
  rcases offered with _ | _
  · rfl
  rcases openConversation with _ | _ | _
  · rfl
  · rfl
  · exact absurd ⟨rfl, rfl, rfl, rfl⟩ never

theorem run_of_succeeds (succeeds : answers.Succeeds) : answers.run.1 = .ok () := by
  obtain ⟨_, _, _, _, _, _, _, subscribe, _, ⟨_, _, _, routing, key, route, _, _, _, _⟩⟩ := answers
  obtain ⟨⟨⟨⟨rfl, rfl, rfl, rfl⟩, rfl, rfl⟩, rfl, subscribed⟩, rfl,
    ⟨⟨rfl, rfl, rfl, reserves⟩, rfl, rfl, rfl⟩, rfl⟩ := succeeds
  cases done : routing.reserveRoute key route.workerId with
  | error =>
    rw [done] at reserves
    cases reserves
  | ok =>
    unfold run prepare openAndPublish openPrivateEgressStreamRoute
    simp only [done]
    rcases subscribe with _ | _ | _
    · rfl
    · exact absurd rfl subscribed
    · rfl

private theorem Succeeds.finding (succeeds : answers.Succeeds) {left : RoutingState}
    (back : answers.openRoute.routing.GivenBack left) : (answers.finding left).Succeeds := by
  obtain ⟨subscribes, admitted, ⟨⟨checked, ensured, permitted, reserves⟩, opens⟩, unoccupied⟩ :=
    succeeds
  exact ⟨subscribes, admitted, ⟨⟨checked, ensured, permitted, back.reserves reserves⟩, opens⟩,
    unoccupied⟩

private theorem leavesNothing_iff : answers.LeavesNothing answers.run ↔ answers.Undone := by
  by_cases opens : answers.Opens
  swap
  · refine iff_of_true (.inr ?_) ?_
    · rw [unopened opens]
      exact ⟨rfl, rfl, rfl, rfl, .refl _⟩
    · constructor <;> simp [Subscribes, Originates, opens]
  obtain ⟨_, _, _, _, startSession, prepareOutbound,
    sameTransport, subscribe⟩ := answers
  obtain ⟨rfl, rfl, rfl, rfl⟩ := opens
  simp only [undone_iff, Opens, Originates, Subscribes, Succeeds]
  rcases startSession with _ | _ | _
  · exact (leavesNothing_of rfl).trans (by simp)
  · exact (close_leaves .handlerRejected).trans (by simp)
  rcases prepareOutbound with (_ | _) | _ | _
  · exact (close_leaves .handlerRejected).trans (by simp)
  · cases sameTransport with
    | false => exact (abandon_leaves .handlerRejected _).trans (by simp)
    | true =>
    rcases subscribe with _ | _ | _
    · refine (openAndPublish_leaves false).trans ?_
      grind
    · exact (abandon_leaves .handlerRejected _).trans (by simp)
    · refine (openAndPublish_leaves true).trans ?_
      grind
  · exact (close_leaves .timeout).trans (by simp)
  · exact (leavesNothing_of rfl).trans (by simp)

variable (answers) in
/-- A preparation that does not succeed leaves nothing behind if and only if it is undone. Another
one that could have succeeded in its place can then succeed after it. -/
theorem prepare_leaves_nothing_iff :
    (answers.LeavesNothing answers.run ↔ answers.Undone) ∧
      (answers.Undone → answers.run.1 ≠ .ok () → ∀ later : PrepareAnswers,
        later.openRoute.routing = answers.openRoute.routing → later.Succeeds →
          (later.finding answers.run.2.routing).run.1 = .ok ()) := by
  refine ⟨leavesNothing_iff, fun undone failed later same succeeds => run_of_succeeds ?_⟩
  have back := (leavesNothing_iff.mpr undone).resolve_left failed
  exact succeeds.finding (same ▸ back.table)

end PrepareAnswers

/-- Every step is answered in time and with success, and the table is empty. -/
def Sample.prepared : PrepareAnswers :=
  ⟨.ok (), some (.ok ()), .ok (), some true, some true, .finished true, true, some true, true,
    ⟨true, .finished true, true, .initial, .new ⟨"tenant"⟩ ⟨1⟩ ⟨2⟩,
      ⟨0, .new ⟨"tenant"⟩ ⟨1⟩ ⟨2⟩, ⟨7⟩⟩, .finished true, true, true, .finished true⟩, false,
    some (), some (), some (), some true⟩

def Sample.expired : PrepareAnswers := { prepared with fromPrepare := false }

def Sample.dropped : PrepareAnswers := { prepared with startSession := none }

def Sample.elapsed : PrepareAnswers :=
  { prepared with openRoute := { prepared.openRoute with openAtPeer := .elapsed } }

open Sample in
/-- The conversation and the subscription are left when the admission has expired, the conversation
when the call is dropped, and the slot when the peer does not answer in time. A preparation that
succeeds at first is then refused. -/
theorem prepare_leaves_something :
    (expired.run.1 = .error (.failed .handlerRejected) ∧ expired.run.2.conversation ∧
      expired.run.2.subscription) ∧
    (dropped.run.1 = .error .dropped ∧ dropped.run.2.conversation) ∧
    elapsed.run.1 = .error (.failed .timeout) ∧
      elapsed.run.2.routing.routes.get? prepared.openRoute.key = some (.pending ⟨7⟩) ∧
      prepared.run.1 = .ok () ∧
      (prepared.finding elapsed.run.2.routing).run.1 = .error (.failed .handlerRejected) := by
  decide +kernel

end Bridgefu.Gateway
