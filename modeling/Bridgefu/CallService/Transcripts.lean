/- digest: Canonical request transcripts and the idempotency digests that are made of them. -/

import Bridgefu.CallService.Repository
import Bridgefu.Lib.Codec

set_option autoImplicit false

/-! A keyed request is recognised by a digest of its canonical transcript. A transcript is the
sequence of bytes that the request writes: length-prefixed texts, markers of optional texts,
counted lists. The service panics where a length does not fit its field, and there is no transcript
then. -/

namespace Bridgefu.CallService

open Lib CallEngine

structure RequestedLeg where
  direction : LegDirection
  signalingInitiator : Option SignalingInitiator
  mediaFlow : MediaFlow
  endpoint : LegEndpointConfig
  amazonConnectStart : Option AmazonConnectStartSpec

variable (binding : NamedRouteBinding) (leg : RequestedLeg)

def RequestedLeg.resolvedSignalingInitiator : SignalingInitiator :=
  match leg.signalingInitiator with
  | some value => value
  | none => .legacyDefault leg.direction

/-- The JSON text of a replacement destination. -/
class RequestLibrary where
  destinationBytes : RequestedLeg → List UInt8

/-- A keyed operation of the public interface, with the arguments that its transcript is made of. -/
inductive PublicRequest where
  | createCall (legs : RequestedLeg × RequestedLeg) (namedRoute : Option NamedRouteBinding)
  | transferCall (callId : CallId) (targetLegId : LegId) (target : TransferTarget)
  | replaceLeg (callId : CallId) (legId : LegId) (replacementRoute : NamedRouteBinding)
      (destination : RequestedLeg)
  | dtmfCall (callId : CallId) (legId : LegId) (sequence : DtmfSequence)

namespace PublicRequest

def operation : PublicRequest → ServiceOperationKind
  | createCall .. => .createCall
  | transferCall .. | replaceLeg .. => .transferCall
  | dtmfCall .. => .dtmfCall

def callId : PublicRequest → Option CallId
  | createCall .. => none
  | transferCall callId .. | replaceLeg callId .. | dtmfCall callId .. => some callId

end PublicRequest

abbrev CanonicalRequestTranscript := Encoding UInt8

def utf8 (value : String) : List UInt8 := value.toByteArray.data.toList

def pushStr (value : String) : CanonicalRequestTranscript := .measured (utf8 value)

def pushOptionalStr (value : Option String) : CanonicalRequestTranscript :=
  .optional pushStr value

/-- An identifier has sixteen bytes. -/
def pushUuid (uuid : Nat) : CanonicalRequestTranscript :=
  (Encoding.fixed 16 uuid).bind Encoding.measured

def pushU64 (value : Nat) : CanonicalRequestTranscript := .fixed 8 value

def pushEntry (entry : String × String) : CanonicalRequestTranscript :=
  .concat [pushStr entry.1, pushStr entry.2]

def directionLabel : LegDirection → String
  | .inbound => "inbound"
  | .outbound => "outbound"

def signalingInitiatorLabel : SignalingInitiator → String
  | .bridgefu => "bridgefu_initiated"
  | .remote => "remote_initiated"

def mediaFlowLabel : MediaFlow → String
  | .sendReceive => "send_receive"
  | .sendOnly => "send_only"
  | .receiveOnly => "receive_only"
  | .inactive => "inactive"

def initialContextLabel : SipInitialContextMode → String
  | .none => "initial_context_none"
  | .required => "initial_context_required"

def providerLabel : ProviderKind → String
  | .twilio => "twilio"
  | .telnyx => "telnyx"
  | .vonage => "vonage"

def roleLabel : NamedProfileRole → String
  | .ingress => "ingress"
  | .destination => "destination"

def kindLabel : NamedProfileKind → String
  | .vapiIngress => "vapi_ingress"
  | .sipIngress => "sip_ingress"
  | .sip => "sip"
  | .webRtc => "webrtc"
  | .amazonConnect => "amazon_connect"
  | .telnyx => "telnyx"

def pushEndpoint : LegEndpointConfig → CanonicalRequestTranscript
  | .sip uri initialContext => .concat
    [pushStr "sip", pushOptionalStr uri, pushStr (initialContextLabel initialContext)]
  | .webRtc signalingUri => .concat [pushStr "webrtc", pushOptionalStr signalingUri]
  | .whip endpointUri => .concat [pushStr "whip", pushOptionalStr endpointUri]
  | .whep endpointUri => .concat [pushStr "whep", pushOptionalStr endpointUri]
  | .amazonConnect instanceId contactFlowId => .concat
    [pushStr "amazon_connect", pushStr instanceId, pushStr contactFlowId]
  | .provider provider accountProfile destination => .concat
    [pushStr "provider", pushStr (providerLabel provider), pushStr accountProfile,
      pushOptionalStr destination]

def pushAmazonConnectStart : Option AmazonConnectStartSpec → CanonicalRequestTranscript
  | some spec => .concat
    [pushStr "amazon_connect_start", pushStr spec.profile, pushStr spec.instanceId,
      pushStr spec.contactFlowId, pushStr spec.displayName, pushOptionalStr spec.description,
      .counted pushEntry spec.attributes.entries]
  | none => .concat [pushStr "no_amazon_connect_start"]

def pushLeg : CanonicalRequestTranscript :=
  .concat [pushStr (directionLabel leg.direction),
    pushStr (signalingInitiatorLabel leg.resolvedSignalingInitiator),
    pushStr (mediaFlowLabel leg.mediaFlow), pushEndpoint leg.endpoint,
    pushAmazonConnectStart leg.amazonConnectStart]

def createTranscript (legs : RequestedLeg × RequestedLeg) : CanonicalRequestTranscript :=
  .concat [pushLeg legs.1, pushLeg legs.2]

def pushCorrelationHeader : Option String → CanonicalRequestTranscript
  | some header => .concat [pushStr "required_sip_correlation_header_v1", pushStr header]
  | none => .concat []

def pushContext : Option NamedRouteCallContext → CanonicalRequestTranscript
  | some context => .concat
    [pushStr "context", pushStr context.correlationId,
      .counted pushEntry context.metadata.entries]
  | none => .concat [pushStr "no_context"]

def pushNamedRoute : CanonicalRequestTranscript :=
  .concat [pushStr "bridgefu.named-route.v1", pushStr binding.routeId,
    pushCorrelationHeader binding.requiredSipCorrelationHeader, pushContext binding.context]

def roleRank : NamedProfileRole → Nat
  | .ingress => 0
  | .destination => 1

def kindRank : NamedProfileKind → Nat
  | .vapiIngress => 0
  | .sipIngress => 1
  | .sip => 2
  | .webRtc => 3
  | .amazonConnect => 4
  | .telnyx => 5

/-- Profiles are ordered by role, kind, identifier and revision. -/
def NamedProfileBinding.le (left right : NamedProfileBinding) : Bool :=
  ((compare (roleRank left.role) (roleRank right.role)).then
    ((compare (kindRank left.kind) (kindRank right.kind)).then
      ((compare left.profileId right.profileId).then
        (compare left.revision right.revision)))).isLE

def NamedRouteBinding.sortedProfiles : List NamedProfileBinding :=
  binding.profiles.insertionSort fun left right => left.le right

def pushProfile (profile : NamedProfileBinding) : CanonicalRequestTranscript :=
  .concat [pushStr (roleLabel profile.role), pushStr (kindLabel profile.kind),
    pushStr profile.profileId, pushStr profile.revision]

def pushReplacementRoute : CanonicalRequestTranscript :=
  .concat [pushStr "bridgefu.leg-replacement.route.v1", pushStr binding.routeId,
    .counted pushProfile binding.sortedProfiles]

def pushTransferTarget : TransferTarget → CanonicalRequestTranscript
  | .sip uri => .concat [pushStr "sip", pushStr uri]
  | .webRtc uri => .concat [pushStr "webrtc", pushStr uri]
  | .amazonConnect instanceId contactFlowId => .concat
    [pushStr "amazon_connect", pushStr instanceId, pushStr contactFlowId]
  | .provider provider accountProfile destination => .concat
    [pushStr "provider", pushStr (providerLabel provider), pushStr accountProfile,
      pushStr destination]

def PublicRequest.transcript [RequestLibrary] : PublicRequest → CanonicalRequestTranscript
  | createCall legs none => createTranscript legs
  | createCall legs (some binding) => .append (createTranscript legs) (pushNamedRoute binding)
  | transferCall _ targetLegId target => .concat
    [pushUuid targetLegId.uuid, pushTransferTarget target]
  | replaceLeg _ legId replacementRoute destination => .concat
    [pushUuid legId.uuid, pushStr "bridgefu.leg-replacement.v2",
      pushReplacementRoute replacementRoute,
      .measured (RequestLibrary.destinationBytes destination)]
  | dtmfCall _ legId sequence => .concat
    [pushUuid legId.uuid, pushStr sequence.digits, pushU64 sequence.durationMs,
      pushU64 sequence.gapMs]

/-- A field of the leg has a value that older transcripts could not express. -/
def RequestedLeg.beyondLegacy : Bool :=
  leg.amazonConnectStart.isSome ||
    (match leg.endpoint with
      | .sip _ .required => true
      | _ => false) ||
    decide (leg.resolvedSignalingInitiator ≠ .legacyDefault leg.direction) ||
    decide (leg.mediaFlow ≠ .sendReceive)

def pushLegacyLeg : CanonicalRequestTranscript :=
  .concat [pushStr (directionLabel leg.direction), pushEndpoint leg.endpoint]

def legacyCreateTranscript (legs : RequestedLeg × RequestedLeg) :
    Option CanonicalRequestTranscript :=
  if legs.1.beyondLegacy || legs.2.beyondLegacy then none
  else some (.concat [pushLegacyLeg legs.1, pushLegacyLeg legs.2])

def maxIdempotencyKeyBytes : Nat := 255

/-- A key has 1 to 255 visible ASCII characters other than the comma. -/
def validIdempotencyKey (value : String) : Bool :=
  !value.isEmpty && decide (value.utf8ByteSize ≤ maxIdempotencyKeyBytes) &&
    !value.toList.contains ',' &&
    (utf8 value).all fun byte => decide (0x21 ≤ byte) && decide (byte ≤ 0x7e)

structure IdempotencyKey where
  value : String
  valid : validIdempotencyKey value = true

/-- The message authentication code under the key of the service. -/
structure CallServiceCrypto where
  mac : List UInt8 → Nat

def operationLabel : ServiceOperationKind → String
  | .createCall => "create_call"
  | .hangupCall => "hangup_call"
  | .transferCall => "transfer_call"
  | .dtmfCall => "dtmf_call"

def idempotencyKeyDomain : List UInt8 := utf8 "bridgefu.idempotency-key.v1\x00"

def requestDomain : List UInt8 := utf8 "bridgefu.canonical-request.v1\x00"

namespace CallServiceCrypto

def keyMessage (tenant : TenantId) (key : IdempotencyKey) : Encoding UInt8 :=
  .concat [some idempotencyKeyDomain, pushStr tenant.value, pushStr key.value]

/-- A fingerprint has 32 bytes. -/
def requestMessage (tenant : TenantId) (principal : PrincipalFingerprint)
    (operation : ServiceOperationKind) (callId : Option CallId)
    (transcript : CanonicalRequestTranscript) : Encoding UInt8 :=
  .concat [some requestDomain, pushStr tenant.value,
    (Encoding.fixed 32 principal.digest).bind Encoding.measured, pushStr (operationLabel operation),
    .optional (fun callId : CallId => pushUuid callId.uuid) callId,
    transcript.bind Encoding.measured]

def operationIdempotency (crypto : CallServiceCrypto) (tenant : TenantId)
    (principal : PrincipalFingerprint) (key : IdempotencyKey) (operation : ServiceOperationKind)
    (callId : Option CallId) (transcript : CanonicalRequestTranscript) :
    Option OperationIdempotency := do
  let keyed ← keyMessage tenant key
  let requested ← requestMessage tenant principal operation callId transcript
  return ⟨⟨crypto.mac keyed⟩, ⟨crypto.mac requested⟩, operation⟩

end CallServiceCrypto

/-- Both legs ask for the same, whether or not they spell out the default initiator. -/
structure RequestedLeg.Same (leg leg' : RequestedLeg) : Prop where
  direction : leg.direction = leg'.direction
  signalingInitiator : leg.resolvedSignalingInitiator = leg'.resolvedSignalingInitiator
  mediaFlow : leg.mediaFlow = leg'.mediaFlow
  endpoint : leg.endpoint = leg'.endpoint
  amazonConnectStart : leg.amazonConnectStart = leg'.amazonConnectStart

/-- What a request can choose about its route. Profiles belong to the configuration. -/
structure NamedRouteBinding.Same (route route' : NamedRouteBinding) : Prop where
  routeId : route.routeId = route'.routeId
  requiredSipCorrelationHeader :
    route.requiredSipCorrelationHeader = route'.requiredSipCorrelationHeader
  context : route.context = route'.context

def PublicRequest.SameBody [RequestLibrary] : PublicRequest → PublicRequest → Prop
  | createCall legs namedRoute, createCall legs' namedRoute' =>
    (legs.1.Same legs'.1 ∧ legs.2.Same legs'.2) ∧
      Option.Rel NamedRouteBinding.Same namedRoute namedRoute'
  | transferCall _ targetLegId target, transferCall _ targetLegId' target' =>
    targetLegId = targetLegId' ∧ target = target'
  | replaceLeg _ legId route destination, replaceLeg _ legId' route' destination' =>
    legId = legId' ∧ route.routeId = route'.routeId ∧
      route.sortedProfiles = route'.sortedProfiles ∧
      RequestLibrary.destinationBytes destination = RequestLibrary.destinationBytes destination'
  | dtmfCall _ legId sequence, dtmfCall _ legId' sequence' =>
    legId = legId' ∧ sequence = sequence'
  | _, _ => False

def PublicRequest.Same [RequestLibrary] (first second : PublicRequest) : Prop :=
  first.callId = second.callId ∧ first.SameBody second

section Splits

open Encoding

private theorem utf8_injective {value value'} (same : utf8 value = utf8 value') : value = value' :=
  String.toByteArray_inj.mp (ByteArray.ext (Array.toList_inj.mp same))

private theorem pushStr_splits {value value'} :
    Splits (pushStr value) (pushStr value') (value = value') :=
  (measured_splits _ _).imp utf8_injective

private theorem pushOptionalStr_splits {value value'} :
    Splits (pushOptionalStr value) (pushOptionalStr value') (value = value') :=
  optional_splits (fun _ _ => pushStr_splits) value value'

private theorem pushUuid_splits {uuid uuid'} :
    Splits (pushUuid uuid) (pushUuid uuid') (uuid = uuid') :=
  field_splits fun _ written written' => fixed_injective written written'

private theorem pushEntry_splits (entry entry' : String × String) :
    Splits (pushEntry entry) (pushEntry entry') (entry = entry') := by
  refine (pushStr_splits.cons <| pushStr_splits.cons .nil).imp ?_
  rintro ⟨names, values, -⟩
  exact Prod.ext names values

private theorem label_splits {Value} (label : Value → String)
    (distinct : ∀ value value', label value = label value' → value = value') {value value'} :
    Splits (pushStr (label value)) (pushStr (label value')) (value = value') :=
  pushStr_splits.imp (distinct value value')

private theorem direction_splits {direction direction'} :
    Splits (pushStr (directionLabel direction)) (pushStr (directionLabel direction'))
      (direction = direction') :=
  label_splits directionLabel (by rintro ⟨⟩ ⟨⟩ <;> decide)

private theorem provider_splits {provider provider'} :
    Splits (pushStr (providerLabel provider)) (pushStr (providerLabel provider'))
      (provider = provider') :=
  label_splits providerLabel (by rintro ⟨⟩ ⟨⟩ <;> decide)

private theorem pushEndpoint_splits {endpoint endpoint'} :
    Splits (pushEndpoint endpoint) (pushEndpoint endpoint') (endpoint = endpoint') := by
  cases endpoint <;> cases endpoint'
  -- endpoints of two kinds begin with two names
  all_goals try exact pushStr_splits.differ (by decide)
  case sip.sip =>
    refine (pushStr_splits.cons <| pushOptionalStr_splits.cons <|
      (label_splits _ (by rintro ⟨⟩ ⟨⟩ <;> decide)).cons <|
        .nil).imp ?_
    rintro ⟨-, rfl, rfl, -⟩
    rfl
  case amazonConnect.amazonConnect =>
    refine (pushStr_splits.cons <| pushStr_splits.cons <|
      pushStr_splits.cons .nil).imp ?_
    rintro ⟨-, rfl, rfl, -⟩
    rfl
  case provider.provider =>
    refine (pushStr_splits.cons <| provider_splits.cons <|
      pushStr_splits.cons <| pushOptionalStr_splits.cons <|
        .nil).imp ?_
    rintro ⟨-, rfl, rfl, rfl, -⟩
    rfl
  all_goals
    refine (pushStr_splits.cons <| pushOptionalStr_splits.cons <|
      .nil).imp ?_
    rintro ⟨-, rfl, -⟩
    rfl

private theorem pushTransferTarget_splits {target target'} :
    Splits (pushTransferTarget target) (pushTransferTarget target') (target = target') := by
  cases target <;> cases target'
  all_goals try exact pushStr_splits.differ (by decide)
  case amazonConnect.amazonConnect =>
    refine (pushStr_splits.cons <| pushStr_splits.cons <|
      pushStr_splits.cons .nil).imp ?_
    rintro ⟨-, rfl, rfl, -⟩
    rfl
  case provider.provider =>
    refine (pushStr_splits.cons <| provider_splits.cons <|
      pushStr_splits.cons <| pushStr_splits.cons .nil).imp ?_
    rintro ⟨-, rfl, rfl, rfl, -⟩
    rfl
  all_goals
    refine (pushStr_splits.cons <| pushStr_splits.cons <|
      .nil).imp ?_
    rintro ⟨-, rfl, -⟩
    rfl

private theorem pushAmazonConnectStart_splits {start start'} :
    Splits (pushAmazonConnectStart start) (pushAmazonConnectStart start') (start = start') := by
  match start, start' with
  | none, none => exact (pushStr_splits.cons .nil).imp fun _ => rfl
  | none, some _ => exact pushStr_splits.differ (by decide)
  | some _, none => exact pushStr_splits.differ (by decide)
  | some ⟨_, _, _, ⟨_, _⟩, _, _⟩, some ⟨_, _, _, ⟨_, _⟩, _, _⟩ =>
    refine (pushStr_splits.cons <| pushStr_splits.cons <|
      pushStr_splits.cons <| pushStr_splits.cons <|
      pushStr_splits.cons <| pushOptionalStr_splits.cons <|
      (counted_splits pushEntry_splits _ _).cons .nil).imp ?_
    rintro ⟨-, rfl, rfl, rfl, rfl, rfl, rfl, -⟩
    rfl

private theorem pushLeg_splits {leg leg'} :
    Splits (pushLeg leg) (pushLeg leg') (leg.Same leg') := by
  refine (direction_splits.cons <|
    (label_splits _ (by rintro ⟨⟩ ⟨⟩ <;> decide)).cons <|
    (label_splits mediaFlowLabel (by rintro ⟨⟩ ⟨⟩ <;> decide)).cons <|
    pushEndpoint_splits.cons <|
    pushAmazonConnectStart_splits.cons .nil).imp ?_
  rintro ⟨direction, signalingInitiator, mediaFlow, endpoint, amazonConnectStart, -⟩
  exact ⟨direction, signalingInitiator, mediaFlow, endpoint, amazonConnectStart⟩

private theorem createTranscript_splits (legs legs' : RequestedLeg × RequestedLeg) :
    Splits (createTranscript legs) (createTranscript legs')
      (legs.1.Same legs'.1 ∧ legs.2.Same legs'.2) := by
  refine (pushLeg_splits.cons <| pushLeg_splits.cons .nil).imp ?_
  rintro ⟨left, right, -⟩
  exact ⟨left, right⟩

private theorem pushContext_splits {context context'} :
    Splits (pushContext context) (pushContext context') (context = context') := by
  match context, context' with
  | none, none => exact (pushStr_splits.cons .nil).imp fun _ => rfl
  | none, some _ => exact pushStr_splits.differ (by decide)
  | some _, none => exact pushStr_splits.differ (by decide)
  | some ⟨_, ⟨_, _⟩⟩, some ⟨_, ⟨_, _⟩⟩ =>
    refine (pushStr_splits.cons <| pushStr_splits.cons <|
      (counted_splits pushEntry_splits _ _).cons .nil).imp ?_
    rintro ⟨-, rfl, rfl, -⟩
    rfl

private theorem header_context_splits (header : String) (context : Option NamedRouteCallContext) :
    Splits (pushCorrelationHeader (some header)) (pushContext context) False := by
  cases context with
  | none | some => exact pushStr_splits.differ (by decide)

private theorem headers_splits (header header' : Option String)
    (context context' : Option NamedRouteCallContext) :
    Splits (concat [pushCorrelationHeader header, pushContext context])
      (concat [pushCorrelationHeader header', pushContext context'])
      (header = header' ∧ context = context') := by
  match header, header' with
  | none, none =>
    refine (Splits.nil.cons <| pushContext_splits.cons .nil).imp ?_
    rintro ⟨-, rfl, -⟩
    exact ⟨rfl, rfl⟩
  | some header, none =>
    rw [show pushCorrelationHeader none = concat [] from rfl, concat_empty]
    exact (header_context_splits _ context').differ id
  | none, some header' =>
    rw [show pushCorrelationHeader none = concat [] from rfl, concat_empty]
    exact (header_context_splits _ context).symm.differ id
  | some header, some header' =>
    refine ((pushStr_splits.cons <| pushStr_splits.cons .nil).cons <|
      pushContext_splits.cons .nil).imp ?_
    rintro ⟨⟨-, rfl, -⟩, rfl, -⟩
    exact ⟨rfl, rfl⟩

private theorem pushNamedRoute_splits {binding binding'} :
    Splits (pushNamedRoute binding) (pushNamedRoute binding') (binding.Same binding') := by
  refine (pushStr_splits.cons <| pushStr_splits.cons <|
    headers_splits _ _ _ _).imp ?_
  rintro ⟨-, routeId, header, context⟩
  exact ⟨routeId, header, context⟩

private theorem pushProfile_splits (profile profile' : NamedProfileBinding) :
    Splits (pushProfile profile) (pushProfile profile') (profile = profile') := by
  refine ((label_splits _ (by rintro ⟨⟩ ⟨⟩ <;> decide)).cons <|
    (label_splits kindLabel (by rintro ⟨⟩ ⟨⟩ <;> decide)).cons <|
    pushStr_splits.cons <| pushStr_splits.cons .nil).imp ?_
  obtain ⟨_, _, _, _⟩ := profile
  rintro ⟨rfl, rfl, rfl, rfl, -⟩
  rfl

private theorem pushReplacementRoute_splits {binding binding'} :
    Splits (pushReplacementRoute binding) (pushReplacementRoute binding')
      (binding.routeId = binding'.routeId ∧ binding.sortedProfiles = binding'.sortedProfiles) := by
  refine (pushStr_splits.cons <| pushStr_splits.cons <|
    (counted_splits pushProfile_splits _ _).cons .nil).imp ?_
  rintro ⟨-, routeId, profiles, -⟩
  exact ⟨routeId, profiles⟩

private theorem unrouted_ne_routed {legs legs' binding text}
    (written : createTranscript legs = some text)
    (written' : append (createTranscript legs') (pushNamedRoute binding) = some text) : False :=
  concat_measured_ne_nil _ _ ((createTranscript_splits legs legs').ends written written')

private theorem target_replacement_splits (target : TransferTarget) :
    Splits (pushTransferTarget target) (pushStr "bridgefu.leg-replacement.v2") False := by
  cases target <;> exact pushStr_splits.differ_left (by decide)

private theorem endpoint_initiator_splits (endpoint : LegEndpointConfig)
    (initiator : SignalingInitiator) :
    Splits (pushEndpoint endpoint) (pushStr (signalingInitiatorLabel initiator)) False := by
  cases endpoint <;> cases initiator <;> exact pushStr_splits.differ_left (by decide)

private theorem legacy_create_splits (legs legs' : RequestedLeg × RequestedLeg) :
    Splits (concat [pushLegacyLeg legs.1, pushLegacyLeg legs.2]) (createTranscript legs') False :=
  ((direction_splits.cons <|
    (endpoint_initiator_splits _ _).differ id).imp And.right : Splits _ _ False).differ id

theorem legacyCreateTranscript_covered {legs legacy}
    (older : legacyCreateTranscript legs = some legacy) :
    Covers (createTranscript legs) legacy := by
  have legCovered (leg : RequestedLeg) : Covers (pushLeg leg) (pushLegacyLeg leg) :=
    (Covers.refl _).cons (((Covers.refl _).cons (Covers.refl (concat [])).skip).skip).skip
  unfold legacyCreateTranscript at older
  split_ifs at older
  cases older
  exact (legCovered legs.1).cons ((legCovered legs.2).cons (Covers.refl _))

end Splits

section Requests

open Encoding

variable [RequestLibrary]

variable {text : List UInt8}

private theorem create_determines {legs legs' route route'}
    (written : (PublicRequest.createCall legs route).transcript = some text)
    (written' : (PublicRequest.createCall legs' route').transcript = some text) :
    (PublicRequest.createCall legs route).SameBody (.createCall legs' route') := by
  match route, route' with
  | none, none => exact ⟨(createTranscript_splits legs legs').fact written written', .none⟩
  | none, some binding' => exact (unrouted_ne_routed written written').elim
  | some binding, none => exact (unrouted_ne_routed written' written).elim
  | some binding, some binding' =>
    obtain ⟨sameLegs, sameRoute⟩ := ((createTranscript_splits _ legs').append fun _ =>
      pushNamedRoute_splits).fact written written'
    exact ⟨sameLegs, .some sameRoute⟩

private theorem transfer_ne_replacement {callId callId' legId legId' target route destination}
    (written : (PublicRequest.transferCall callId legId target).transcript = some text)
    (written' : (PublicRequest.replaceLeg callId' legId' route destination).transcript =
      some text) : False :=
  ((pushUuid_splits.cons <| (target_replacement_splits target).differ id).imp
    And.right : Splits _ _ False).fact written written'

/-- Requests of one kind that write the same transcript ask for the same. -/
theorem transcript_determines {first second : PublicRequest}
    (kind : first.operation = second.operation) (written : first.transcript = some text)
    (written' : second.transcript = some text) :
    first.SameBody second := by
  cases first <;> cases second <;> simp only [PublicRequest.operation, reduceCtorEq] at kind
  case createCall.createCall => exact create_determines written written'
  case transferCall.transferCall =>
    obtain ⟨legs, targets, -⟩ := (pushUuid_splits.cons <|
      pushTransferTarget_splits.cons .nil).fact written written'
    exact ⟨congrArg LegId.mk legs, targets⟩
  case transferCall.replaceLeg => exact (transfer_ne_replacement written written').elim
  case replaceLeg.transferCall => exact (transfer_ne_replacement written' written).elim
  case replaceLeg.replaceLeg =>
    obtain ⟨legs, -, ⟨routes, profiles⟩, destinations, -⟩ := (pushUuid_splits.cons <|
      pushStr_splits.cons <| pushReplacementRoute_splits.cons <|
      (measured_splits _ _).cons .nil).fact written written'
    exact ⟨congrArg LegId.mk legs, routes, profiles, destinations⟩
  case dtmfCall.dtmfCall callId legId sequence callId' legId' sequence' =>
    obtain ⟨legs, digits, durations, gaps, -⟩ := (pushUuid_splits.cons <|
      pushStr_splits.cons <| (fixed_splits _ _ _).cons <|
      (fixed_splits _ _ _).cons .nil).fact written written'
    obtain ⟨_, _, _⟩ := sequence
    cases digits
    cases durations
    cases gaps
    exact ⟨congrArg LegId.mk legs, rfl⟩

theorem legacyCreateTranscript_ne {legs legs' route legacy}
    (older : legacyCreateTranscript legs = some legacy) (written : legacy = some text)
    (written' : (PublicRequest.createCall legs' route).transcript = some text) : False := by
  unfold legacyCreateTranscript at older
  split_ifs at older
  cases older
  cases route with
  | none => exact (legacy_create_splits legs legs').fact written written'
  | some =>
    exact ((legacy_create_splits _ legs').symm.refuted_left id).fact written' written

end Requests

section Digests

open Encoding CallServiceCrypto

private theorem requestMessage_splits (tenant tenant' : TenantId)
    (principal principal' : PrincipalFingerprint) (operation operation' : ServiceOperationKind)
    (callId callId' : Option CallId) (transcript transcript' : CanonicalRequestTranscript) :
    Splits (requestMessage tenant principal operation callId transcript)
      (requestMessage tenant' principal' operation' callId' transcript')
      (principal = principal' ∧ operation = operation' ∧ callId = callId' ∧
        ∃ text, transcript = some text ∧ transcript' = some text) := by
  have principals : Splits ((fixed 32 principal.digest).bind measured)
      ((fixed 32 principal'.digest).bind measured) (principal = principal') :=
    field_splits fun _ written written' =>
      congrArg PrincipalFingerprint.mk (fixed_injective written written')
  have calls : ∀ callId callId' : CallId,
      Splits (pushUuid callId.uuid) (pushUuid callId'.uuid) (callId = callId') :=
    fun callId callId' => pushUuid_splits.imp (congrArg CallId.mk)
  have transcripts : Splits (transcript.bind measured) (transcript'.bind measured)
      (∃ text, transcript = some text ∧ transcript' = some text) :=
    field_splits fun text written written' => ⟨text, written, written'⟩
  refine ((Splits.of_length rfl).cons <| pushStr_splits.cons <|
    principals.cons <|
    (label_splits _ (by rintro ⟨⟩ ⟨⟩ <;> decide)).cons <|
    (optional_splits calls _ _).cons <|
    transcripts.cons .nil).imp ?_
  rintro ⟨-, -, principals, operations, callIds, transcripts, -⟩
  exact ⟨principals, operations, callIds, transcripts⟩

variable {crypto : CallServiceCrypto} {tenant : TenantId} {key : IdempotencyKey}
  {principal principal' : PrincipalFingerprint}

variable {transcript transcript' : CanonicalRequestTranscript}

theorem operationIdempotency_keyDigest {operation operation' callId callId' claim claim'}
    (claims : crypto.operationIdempotency tenant principal key operation callId transcript =
      some claim)
    (claims' : crypto.operationIdempotency tenant principal' key operation' callId' transcript' =
      some claim') : claim.keyDigest = claim'.keyDigest := by
  simp only [operationIdempotency, Option.bind_eq_bind, Option.bind_eq_some_iff,
    Option.pure_def, Option.some.injEq] at claims claims'
  obtain ⟨_, written, _, _, rfl⟩ := claims
  obtain ⟨_, written', _, _, rfl⟩ := claims'
  cases written.symm.trans written'
  rfl

theorem operationIdempotency_requestDigest (collisionFree : Function.Injective crypto.mac)
    {operation operation' callId callId' claim claim'}
    (claims : crypto.operationIdempotency tenant principal key operation callId transcript =
      some claim)
    (claims' : crypto.operationIdempotency tenant principal' key operation' callId' transcript' =
      some claim') (same : claim.requestDigest = claim'.requestDigest) :
    principal = principal' ∧ operation = operation' ∧ callId = callId' ∧
      ∃ text, transcript = some text ∧ transcript' = some text := by
  simp only [operationIdempotency, Option.bind_eq_bind, Option.bind_eq_some_iff,
    Option.pure_def, Option.some.injEq] at claims claims'
  obtain ⟨_, _, _, written, rfl⟩ := claims
  obtain ⟨_, _, _, written', rfl⟩ := claims'
  cases collisionFree (RequestDigest.mk.inj same)
  exact (requestMessage_splits _ _ _ _ _ _ _ _ _ _).fact written written'

theorem operationIdempotency_covered {operation callId claim}
    (covers : Covers transcript transcript')
    (claims : crypto.operationIdempotency tenant principal key operation callId transcript =
      some claim) :
    ∃ claim', crypto.operationIdempotency tenant principal key operation callId transcript' =
      some claim' := by
  simp only [operationIdempotency, Option.bind_eq_bind, Option.bind_eq_some_iff] at claims ⊢
  obtain ⟨keyed, keyWritten, _, written, -⟩ := claims
  have messages : Covers (requestMessage tenant principal operation callId transcript)
      (requestMessage tenant principal operation callId transcript') :=
    (Covers.refl _).cons ((Covers.refl _).cons ((Covers.refl _).cons ((Covers.refl _).cons
      ((Covers.refl _).cons ((field_covers covers).cons (Covers.refl _))))))
  obtain ⟨requested', written', -⟩ := messages _ written
  exact ⟨_, keyed, keyWritten, requested', written', rfl⟩

end Digests

end Bridgefu.CallService
