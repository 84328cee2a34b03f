/- digest: Executing a list of operations, and a small deployment to execute. -/

import Bridgefu.Persistence.Operations

set_option autoImplicit false

namespace Bridgefu.Persistence

open Lib CallEngine CallService

namespace MemoryState

/-- An identifier above those of all stored effects. -/
def effectBound (state : MemoryState) : Nat :=
  (state.outbox.keys ++ state.controlOutbox.keys).foldr (fun id bound => max (id.uuid + 1) bound) 0

def nextEffects (state : MemoryState) : EffectSupply := fun n => ⟨state.effectBound + n⟩

private theorem uuid_lt_bound (ids : List EffectId) {id} (member : id ∈ ids) :
    id.uuid < ids.foldr (fun id bound => max (id.uuid + 1) bound) 0 := by
  induction ids with
  | nil => cases member
  | cons _ _ ih =>
    rw [List.foldr_cons]
    rcases List.mem_cons.mp member with rfl | later
    · omega
    · have := ih later
      omega

theorem nextEffects_fresh (state : MemoryState) : Fresh state.nextEffects state where
  injective := by
    intro n m same
    simpa [nextEffects] using same
  outbox := by
    intro n
    by_contra known
    obtain ⟨record, found⟩ := Option.ne_none_iff_exists'.mp known
    have member : state.nextEffects n ∈ state.outbox.keys :=
      List.mem_map.mpr ⟨(_, record), (Table.mem_rows ..).mpr found, rfl⟩
    have below := uuid_lt_bound _ (List.mem_append_left state.controlOutbox.keys member)
    simp only [nextEffects, effectBound] at below
    omega
  controlOutbox := by
    intro n
    by_contra known
    obtain ⟨record, found⟩ := Option.ne_none_iff_exists'.mp known
    have member : state.nextEffects n ∈ state.controlOutbox.keys :=
      List.mem_map.mpr ⟨(_, record), (Table.mem_rows ..).mpr found, rfl⟩
    have below := uuid_lt_bound _ (List.mem_append_right state.outbox.keys member)
    simp only [nextEffects, effectBound] at below
    omega

/-- Execute the operations one after the other, without a database clock. -/
def execute [Libraries] (state : MemoryState) :
    List Operation → Except RepositoryError MemoryState
  | [] => .ok state
  | operation :: rest => do
    let next ← operation.run state.nextEffects (state.withClock none)
    next.execute rest

end MemoryState

theorem Run.trans [Libraries] {first middle last before after} (one : Run first before middle)
    (two : Run middle after last) : Run first (before ++ after) last := by
  induction two with
  | nil => simpa using one
  | snoc _ executes ih => simpa using ih.snoc executes

theorem MemoryState.execute_run [Libraries] {state last operations}
    (done : state.execute operations = .ok last) : Run state operations last := by
  induction operations generalizing state with
  | nil =>
    cases done
    exact .nil _
  | cons _ _ ih =>
    rw [execute, bind_eq_ok] at done
    obtain ⟨_, one, done⟩ := done
    exact (Run.snoc (.nil state) (.step _ _ state.nextEffects_fresh _ one)).trans
      (ih done)

def MemoryState.after [Libraries] (operations : List Operation) : MemoryState :=
  (MemoryState.initial.execute operations).toOption.getD .initial

theorem MemoryState.after_run [Libraries] {operations}
    (succeeds : (MemoryState.initial.execute operations).isOk = true) :
    Run .initial operations (.after operations) := by
  cases done : initial.execute operations with
  | error => simp [done, Except.toBool] at succeeds
  | ok last =>
    have same : after operations = last := by simp [after, done, Except.toOption]
    exact same ▸ execute_run done

namespace Sample

/-- Libraries that parse nothing. -/
@[reducible] def libraries : Libraries where
  parseUrl := fun _ => none
  encodedContextBytes := fun _ => 0
  parseContextEnvelope := fun _ => none
  sipInitialHeadersValid := fun _ => true
  callIdText := fun _ => "call"
  legIdText := fun _ => "leg"
  amazonConnectContactReferenceKind := "amazon_connect_contact"
  maxDataMessageIdBytes := 64
  maxConnectAttributeBytes := 1024
  maxConnectAttributeCount := 16
  maxConnectAttributeKeyBytes := 64
  maxConnectDescriptionBytes := 64
  maxConnectDisplayNameBytes := 64
  maxConnectProfileIdBytes := 64
  maxConnectResourceIdBytes := 64

def tenantId : TenantId := ⟨"tenant"⟩

def callId : CallId := ⟨1⟩

def callerId : LegId := ⟨1⟩

def calleeId : LegId := ⟨2⟩

def worker : WorkerLease := ⟨⟨1⟩, 1⟩

def registration : RegisterWorker := ⟨worker.workerId, 2, .empty, 0, maxWorkerLeaseTtl⟩

/-- A call from a remote caller to a callee of the given kind that is dialled. -/
def call (calleeKind : LegKind) : CallAggregate where
  id := callId
  tenantId := tenantId
  version := 0
  state := .pending
  left := .new callerId ⟨.inbound, .interactiveWebRtc⟩ ⟨.remote, .sendReceive⟩ 0
  right := .new calleeId ⟨.outbound, calleeKind⟩ ⟨.bridgefu, .sendReceive⟩ 0
  deadlines := .default
  terminalOutcome := none
  replacement := none
  createdAt := 0
  updatedAt := 0
  stateChangedAt := 0

def creation (calleeKind : LegKind) (attachments : List AttachmentIssue) : CreateCall where
  initial := call calleeKind
  commandId := ⟨1⟩
  command := .startConnecting 0 10
  worker := worker
  idempotencyKey := ⟨1⟩
  requestDigest := ⟨1⟩
  attachments := attachments
  atTime := 0

/-- The command with the next identifier, decided for the version before it. -/
def commit (version : Nat) (command : CallCommand) : CommandCommit where
  tenantId := tenantId
  callId := callId
  expectedVersion := version
  commandId := ⟨version + 1⟩
  command := command
  worker := worker
  attachments := []
  deadlineClaim := none
  atTime := command.atTime

/-- The call is to be torn down. -/
def ending : CommandCommit := commit 1 (.beginEnding 1 none .requested)

/-- A worker takes a call, which is then ended from both sides. -/
def endedCall : List Operation :=
  [.registerWorker registration,
    .createCall (creation .sip []),
    .commitCommand ending,
    .commitCommand (commit 2 (.setLegState 2 callerId 1 .ended none)),
    .commitCommand (commit 3 (.setLegState 2 calleeId 1 .ended none))]

/-- The worker of a call registers again after one command. -/
def reregistered : List Operation :=
  [.registerWorker registration,
    .createCall (creation .sip []),
    .commitCommand ending,
    .registerWorker registration]

def setupTimeout : CommandCommit :=
  { commit 1 (.deadlineElapsed 10 .setup 1 (some 20)) with
    deadlineClaim := some ⟨callId, .setup, 1, worker, 1⟩ }

/-- The setup deadline of a call is claimed and reported. -/
def timedOutCall : List Operation :=
  [.registerWorker registration,
    .createCall (creation .sip []),
    .claimDueDeadlines worker 10 10 1,
    .commitCommand setupTimeout]

/-- The first effect of a call is claimed and reported, then the next one is claimed. -/
def servedEffects : List Operation :=
  [.registerWorker registration,
    .createCall (creation .sip []),
    .claimOutbox worker 1 10 5,
    .completeOutbox ⟨0⟩ worker 1 .succeeded 2,
    .claimOutbox worker 3 10 5]

def account : ProviderAccountKey := ⟨"account"⟩

def providerCallId : ProviderCallId := ⟨"remote"⟩

def event (digest : Nat) (kind : String) : ProviderEventInput where
  account := account
  eventDigest := ⟨digest⟩
  payloadDigest := ⟨digest⟩
  providerCallId := providerCallId
  kind := kind
  payload := ⟨"null"⟩
  occurredAt := none
  receivedAt := 0

/-- The provider call turns out to be the callee. -/
def reference : BindProviderReference :=
  ⟨tenantId, callId, calleeId, .destination, account, providerCallId, worker, 1⟩

def dialled : ProviderEventCommit where
  account := account
  eventDigest := ⟨1⟩
  claimGeneration := 1
  worker := worker
  command := commit 1 (.setLegState 2 calleeId 1 .signaling none)
  atTime := 2

/-- Two events arrive before their reference, which releases them, and the first is applied. -/
def queuedEvents : List Operation :=
  [.registerWorker registration,
    .createCall (creation .telnyx []),
    .ingestProviderEvent (event 1 "call.initiated"),
    .ingestProviderEvent (event 2 "call.answered"),
    .bindProviderReference reference,
    .claimProviderEvents worker 2 10 5,
    .completeProviderEvent dialled]

/-- The attachment by which the caller is to join. -/
def invitation : AttachmentIssue where
  attachmentId := ⟨1⟩
  tokenDigest := ⟨1⟩
  purpose := .publicInbound
  legId := callerId
  bindingGeneration := 1
  transport := .webRtc
  expectedPrincipal := ⟨1⟩
  expiresAt := 5

def awaitedCall : List Operation :=
  [.registerWorker registration, .createCall (creation .sip [invitation])]

/-- The caller shows up. -/
def arrival : AttachmentLookup := ⟨invitation.tokenDigest, tenantId, .webRtc, ⟨1⟩, worker, 1⟩

/-- What the inspection of the invitation hands out. -/
def admittedCaller : AttachmentCandidate where
  attachmentId := invitation.attachmentId
  tokenDigest := invitation.tokenDigest
  purpose := .publicInbound
  tenantId := tenantId
  callId := callId
  legId := callerId
  bindingGeneration := 1
  transport := .webRtc
  worker := worker
  assignment := ⟨worker, none, 0, none⟩
  expiresAt := 5
  expectedPrincipal := ⟨1⟩
  expectedVersion := 1
  requiredSipCorrelation := none

def joining : Operation :=
  .consumeAttachment ⟨admittedCaller, ⟨2⟩, .setLegState 2 callerId 1 .signaling none,
    ⟨"connection"⟩, ⟨1⟩, none, 2⟩

/-- A worker that serves browsers and the provider. -/
def equipped : RegisterWorker :=
  { registration with capabilities := ⟨["telnyx", "webrtc"], by decide⟩ }

/-- The execution plan of a call whose callee is dialled through the provider. -/
def plan : CallExecutionPlan where
  version := callExecutionPlanVersion
  storedAuthorization := some ⟨1⟩
  left := ⟨callerId, .webRtc none⟩
  right := ⟨calleeId, .provider .telnyx "account" (some "destination")⟩
  amazonConnectStarts := []
  legSemantics := [⟨callerId, .remote, .sendReceive⟩, ⟨calleeId, .bridgefu, .sendReceive⟩]
  namedRoute := none
  setupPolicy := .parallel

def plannedCall : List Operation :=
  [.registerWorker equipped, .createWithPlan ⟨creation .telnyx [invitation], plan, []⟩]

/-- The connection of the caller reports its state, decided for the given version. -/
def callerReports (version : Nat) (legState : LegState) (atTime : Timestamp) : Operation :=
  .commitBoundConnectionState ⟨tenantId, callId, version, ⟨version + 1⟩, callerId, 1,
    ⟨"connection"⟩, worker, legState, none, atTime⟩

def digits : ControlCommandTransaction where
  commandId := ⟨10⟩
  tenantId := tenantId
  callId := callId
  legId := callerId
  bindingGeneration := 1
  worker := worker
  intent := .dtmf ⟨"1", 100, 0⟩
  atTime := 4
  operationIdempotency := none

/-- The call is hung up with its caller connected. -/
def hangup : ServiceCommandTransaction :=
  ⟨commit 3 (.beginEnding 6 none .requested), [], none, none, none, none⟩

/-- Digits for a connected caller are claimed, and the call is hung up before they are sent. -/
def hungUpCall : List Operation :=
  plannedCall ++ [joining, callerReports 2 .connected 3, .enqueueControl digits,
    .claimControlEffects worker 5 10 5, .commitWithEffectPayloads hangup]

end Sample

end Bridgefu.Persistence
