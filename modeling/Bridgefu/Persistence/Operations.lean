/- digest: Every state-changing operation of the two repository contracts, and the runs of them. -/

import Bridgefu.Persistence.Reconciliation

/-!
Reading operations leave the state alone and are not listed. A failed operation is rolled back,
so a run is a sequence of successful ones. Each may execute under any database clock. The one
assumption on the environment is that the identifiers issued to new effects are unused.
-/

set_option autoImplicit false

namespace Bridgefu.Persistence

open Lib CallEngine CallService

inductive Operation where
  | registerWorker (request : RegisterWorker)
  | activateWorkerCapabilities (request : ActivateWorkerCapabilities)
  | renewWorkerLease (request : RenewWorkerLease)
  | setWorkerDraining (worker : WorkerLease) (draining : Bool) (atTime : Timestamp)
  | createCall (request : CreateCall)
  | commitCommand (request : CommandCommit)
  | releaseAssignment (tenantId : TenantId) (callId : CallId) (worker : WorkerLease)
      (atTime : Timestamp)
  | consumeAttachment (request : AttachmentConsume)
  | ingestProviderEvent (request : ProviderEventInput)
  | bindProviderReference (request : BindProviderReference)
  | claimProviderEvents (worker : WorkerLease) (atTime : Timestamp) (claimTtl limit : Nat)
  | completeProviderEvent (request : ProviderEventCommit)
  | acknowledgeTerminalProviderEvent (request : TerminalProviderEventAcknowledge)
  | claimOutbox (worker : WorkerLease) (atTime : Timestamp) (claimTtl limit : Nat)
  | completeOutbox (effectId : EffectId) (worker : WorkerLease)
      (claimGeneration : Nat) (completion : OutboxCompletion) (atTime : Timestamp)
  | claimDueDeadlines (worker : WorkerLease) (atTime : Timestamp) (claimTtl limit : Nat)
  | claimRestartCalls (worker : WorkerLease) (atTime : Timestamp) (limit : Nat)
  | createWithPlan (request : ServiceCreateTransaction)
  | commitWithEffectPayloads (request : ServiceCommandTransaction)
  | commitLegReplacementWithWorkerGuard (request : ServiceCommandTransaction)
  | commitBoundConnectionState (request : BoundConnectionStateCommit)
  | commitBoundSourceTermination (request : BoundSourceTerminationCommit)
  | commitMediaActivity (request : MediaActivityCommit)
  | enqueueControl (request : ControlCommandTransaction)
  | claimControlEffects (worker : WorkerLease) (atTime : Timestamp) (claimTtl limit : Nat)
  | bindOutboundConnection (request : OutboundConnectionBind)
  | recordInitialContext (request : InitialContextRecordRequest)
  | reconcileEffectResult (request : EffectResultReconciliation)
  | reconcileProviderEvent (request : ProviderEventReconciliationTransaction)

/-- State after the operation. The value handed to the caller is dropped here. -/
def Operation.run [Libraries] (operation : Operation) (ids : EffectSupply) (state : MemoryState) :
    Except RepositoryError MemoryState :=
  match operation with
  | .registerWorker request => Prod.fst <$> state.registerWorker request
  | .activateWorkerCapabilities request => Prod.fst <$> state.activateWorkerCapabilities request
  | .renewWorkerLease request => Prod.fst <$> state.renewWorkerLease request
  | .setWorkerDraining worker draining atTime =>
    Prod.fst <$> state.setWorkerDraining worker draining atTime
  | .createCall request => Prod.fst <$> state.createCall ids request
  | .commitCommand request => Prod.fst <$> state.commitCommand ids request
  | .releaseAssignment tenantId callId worker atTime =>
    Prod.fst <$> state.releaseAssignment tenantId callId worker atTime
  | .consumeAttachment request => Prod.fst <$> state.consumeAttachment ids request
  | .ingestProviderEvent request => Prod.fst <$> state.ingestProviderEvent request
  | .bindProviderReference request => Prod.fst <$> state.bindProviderReference request
  | .claimProviderEvents worker atTime claimTtl limit =>
    Prod.fst <$> state.claimProviderEvents worker atTime claimTtl limit
  | .completeProviderEvent request => Prod.fst <$> state.completeProviderEvent ids request
  | .acknowledgeTerminalProviderEvent request =>
    Prod.fst <$> state.acknowledgeTerminalProviderEvent request
  | .claimOutbox worker atTime claimTtl limit =>
    Prod.fst <$> state.claimOutbox worker atTime claimTtl limit
  | .completeOutbox effectId worker claimGeneration completion atTime =>
    Prod.fst <$> state.completeOutbox effectId worker claimGeneration completion atTime
  | .claimDueDeadlines worker atTime claimTtl limit =>
    Prod.fst <$> state.claimDueDeadlines worker atTime claimTtl limit
  | .claimRestartCalls worker atTime limit =>
    Prod.fst <$> state.claimRestartCalls worker atTime limit
  | .createWithPlan request => Prod.fst <$> state.createWithPlan ids request
  | .commitWithEffectPayloads request => Prod.fst <$> state.commitWithEffectPayloads ids request
  | .commitLegReplacementWithWorkerGuard request =>
    Prod.fst <$> state.commitLegReplacementWithWorkerGuard ids request
  | .commitBoundConnectionState request =>
    Prod.fst <$> state.commitBoundConnectionState ids request
  | .commitBoundSourceTermination request =>
    Prod.fst <$> state.commitBoundSourceTermination ids request
  | .commitMediaActivity request => Prod.fst <$> state.commitMediaActivity ids request
  | .enqueueControl request => Prod.fst <$> state.enqueueControl ids request
  | .claimControlEffects worker atTime claimTtl limit =>
    Prod.fst <$> state.claimControlEffects worker atTime claimTtl limit
  | .bindOutboundConnection request => Prod.fst <$> state.bindOutboundConnection request
  | .recordInitialContext request => Prod.fst <$> state.recordInitialContext request
  | .reconcileEffectResult request => Prod.fst <$> state.reconcileEffectResult ids request
  | .reconcileProviderEvent request => Prod.fst <$> state.reconcileProviderEvent ids request

namespace Operation

/-- The aggregate from which the operation may start a call. -/
def creates : Operation → CallAggregate → Prop
  | .createCall request, initial => initial = request.initial
  | .createWithPlan request, initial => initial = request.create.initial
  | _, _ => False

def commits : Operation → Option CommandCommit
  | .commitCommand request => some request
  | .consumeAttachment request => some (MemoryState.AttachmentConsume.commit request)
  | .completeProviderEvent request => some request.command
  | .commitWithEffectPayloads request => some request.command
  | .commitLegReplacementWithWorkerGuard request => some request.command
  | .commitBoundConnectionState request =>
    some (MemoryState.BoundConnectionStateCommit.commit request)
  | .commitBoundSourceTermination request =>
    some (MemoryState.BoundSourceTerminationCommit.commit request)
  | .commitMediaActivity request => some (MemoryState.MediaActivityCommit.commit request)
  | .reconcileEffectResult request => request.followUp.map ServiceCommandTransaction.command
  | .reconcileProviderEvent request => request.followUp.map ServiceCommandTransaction.command
  | _ => none

/-- Does the operation promote a connection together with its command? -/
def promotes : Operation → Bool
  | .commitWithEffectPayloads request | .commitLegReplacementWithWorkerGuard request =>
    request.replacementConnection.isSome
  | .reconcileEffectResult request =>
    request.followUp.any fun followUp => followUp.replacementConnection.isSome
  | .reconcileProviderEvent request =>
    request.followUp.any fun followUp => followUp.replacementConnection.isSome
  | _ => false

def leases : Operation → List WorkerLease
  | .registerWorker _ | .ingestProviderEvent _ | .recordInitialContext _ => []
  | .activateWorkerCapabilities request => [request.worker]
  | .renewWorkerLease request => [request.worker]
  | .setWorkerDraining worker _ _ => [worker]
  | .createCall request => [request.worker]
  | .commitCommand request => [request.worker]
  | .releaseAssignment _ _ worker _ => [worker]
  | .consumeAttachment request => [request.candidate.worker]
  | .bindProviderReference request => [request.worker]
  | .claimProviderEvents worker _ _ _ => [worker]
  | .completeProviderEvent request => [request.worker]
  | .acknowledgeTerminalProviderEvent request => [request.worker]
  | .claimOutbox worker _ _ _ => [worker]
  | .completeOutbox _ worker _ _ _ => [worker]
  | .claimDueDeadlines worker _ _ _ => [worker]
  | .claimRestartCalls worker _ _ => [worker]
  | .createWithPlan request => request.create.worker ::
      request.alternatives.map ServiceCreateCandidate.worker
  | .commitWithEffectPayloads request => [request.command.worker]
  | .commitLegReplacementWithWorkerGuard request => [request.command.worker]
  | .commitBoundConnectionState request => [request.worker]
  | .commitBoundSourceTermination request => [request.worker]
  | .commitMediaActivity request => [request.worker]
  | .enqueueControl request => [request.worker]
  | .claimControlEffects worker _ _ _ => [worker]
  | .bindOutboundConnection request => [request.worker]
  | .reconcileEffectResult request => [request.worker]
  | .reconcileProviderEvent request => [request.worker]

/-- The restarted worker that the operation hands calls to. -/
def restarts : Operation → Option WorkerLease
  | .claimRestartCalls worker _ _ => some worker
  | _ => none

/-- The worker for which the operation claims effects, deadlines or provider events. -/
def claims : Operation → Option WorkerLease
  | .claimOutbox worker _ _ _ | .claimDueDeadlines worker _ _ _
  | .claimProviderEvents worker _ _ _ => some worker
  | _ => none

/-- The claimed effect that the operation reports as finished. -/
def completes : Operation → Option (EffectId × WorkerLease × Nat × Timestamp)
  | .completeOutbox effectId worker claimGeneration _ atTime =>
    some (effectId, worker, claimGeneration, atTime)
  | .reconcileEffectResult request =>
    some (request.effectId, request.worker, request.claimGeneration, request.atTime)
  | _ => none

/-- The claimed provider event that the operation reports as applied. -/
def applies : Operation → Option (ProviderEventKey × WorkerLease × Nat × Timestamp)
  | .completeProviderEvent request => some ((request.account, request.eventDigest),
      request.worker, request.claimGeneration, request.atTime)
  | .acknowledgeTerminalProviderEvent request => some ((request.account, request.eventDigest),
      request.worker, request.claimGeneration, request.atTime)
  | .reconcileProviderEvent request => some ((request.account, request.eventDigest),
      request.worker, request.claimGeneration, request.atTime)
  | _ => none

end Operation

/-- The issued identifiers are distinct and name no stored effect. -/
structure Fresh (ids : EffectSupply) (state : MemoryState) : Prop where
  injective : Function.Injective ids
  outbox : ∀ n, state.outbox.get? (ids n) = none
  controlOutbox : ∀ n, state.controlOutbox.get? (ids n) = none

/-- The state as a transaction under the given database clock sees it. -/
def MemoryState.withClock (state : MemoryState) (clock : Option Timestamp) : MemoryState :=
  { state with authorityTime := clock }

/-- One successful operation under some database clock. -/
inductive Executes [Libraries] (state : MemoryState) : Operation → MemoryState → Prop
  | step (clock : Option Timestamp) (ids : EffectSupply) (fresh : Fresh ids state)
      (operation : Operation) {next} (done : operation.run ids (state.withClock clock) = .ok next) :
      Executes state operation next

/-- A finite run of operations from one state to another. -/
inductive Run [Libraries] : MemoryState → List Operation → MemoryState → Prop
  | nil (state : MemoryState) : Run state [] state
  | snoc {first middle last operations operation} :
      Run first operations middle → Executes middle operation last →
        Run first (operations ++ [operation]) last

/-- A state reached from the empty repository by some run. -/
def Reachable [Libraries] (state : MemoryState) : Prop :=
  ∃ operations, Run .initial operations state

end Bridgefu.Persistence
