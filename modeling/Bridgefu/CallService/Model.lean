/- digest: Service-layer execution plans, transfer payloads and control intents with their checks. -/

import Bridgefu.CallEngine.Repository

/-!
The execution plan of a call is an immutable record of its two endpoints. Address parsing,
JSON encoding and the limits of the media stack belong to libraries outside the repository.
They enter as the fields of one class and carry no assumption here.
-/

set_option autoImplicit false

namespace Bridgefu.CallService

open Lib CallEngine

/-- An ordered string map: its entries by strictly increasing key. -/
structure StringMap where
  entries : List (String × String)
  sorted : entries.Pairwise (fun left right => left.1 < right.1)
  deriving DecidableEq

structure ContextEnvelope where
  version : Nat
  correlationId : String
  tenantId : String
  callId : String
  sourceLegId : String
  metadata : StringMap

structure NamedRouteCallContext where
  correlationId : String
  metadata : StringMap
  deriving DecidableEq

/-- The parts of a parsed address that the endpoint checks read. -/
structure ParsedUrl where
  scheme : String
  hasPassword : Bool
  hasQuery : Bool
  hasFragment : Bool
  path : String

/-- Functions and limits of the libraries the service calls. -/
class Libraries where
  parseUrl : String → Option ParsedUrl
  encodedContextBytes : NamedRouteCallContext → Nat
  parseContextEnvelope : List UInt8 → Option ContextEnvelope
  sipInitialHeadersValid : List (String × String) → Bool
  callIdText : CallId → String
  legIdText : LegId → String
  amazonConnectContactReferenceKind : String
  maxDataMessageIdBytes : Nat
  maxConnectAttributeBytes : Nat
  maxConnectAttributeCount : Nat
  maxConnectAttributeKeyBytes : Nat
  maxConnectDescriptionBytes : Nat
  maxConnectDisplayNameBytes : Nat
  maxConnectProfileIdBytes : Nat
  maxConnectResourceIdBytes : Nat

def maxEndpointBytes : Nat := 2048

def maxIdentifierBytes : Nat := 256

def maxDtmfDigits : Nat := 64

def maxContextBytes : Nat := 16 * 1024

def maxContextMetadataEntries : Nat := 64

variable (c : Char) (value : String)

def isAscii : Bool := decide (c.toNat < 0x80)

def isAsciiControl : Bool := decide (c.toNat < 0x20) || c.toNat == 0x7f

def isAsciiWhitespace : Bool :=
  c == ' ' || c == '\t' || c == '\n' || c.toNat == 0xc || c == '\r'

def isAsciiLowerOrDigit : Bool :=
  (decide ('a' ≤ c) && decide (c ≤ 'z')) || (decide ('0' ≤ c) && decide (c ≤ '9'))

def isLineBreakOrNul : Bool := c == '\r' || c == '\n' || c.toNat == 0

def validateIdentifier (message : String) : Except RepositoryError Unit :=
  reject (value.isEmpty ∨ value.utf8ByteSize > maxIdentifierBytes ∨
      value.toList.any fun c => isAsciiControl c || isAsciiWhitespace c)
    (.invalidInput message)

def validateBoundedValue (max : Nat) (message : String) : Except RepositoryError Unit :=
  reject (value.isEmpty ∨ value.utf8ByteSize > max ∨ value.toList.any isLineBreakOrNul)
    (.invalidInput message)

/-- A lower-case slug that starts with a letter or a digit. -/
def isSlug : Bool :=
  decide (value.utf8ByteSize ≤ maxIdentifierBytes) &&
    (value.toList.all fun c => isAsciiLowerOrDigit c || c == '-' || c == '_') &&
    value.toList.head?.any isAsciiAlphanumeric

def validateNamedProfileId : Except RepositoryError Unit :=
  reject (¬ isSlug value) (.invalidInput "invalid named profile ID")

def hasAuthorityUserinfo : Bool :=
  match value.toList.dropWhile (· != ':') with
  | _ :: '/' :: '/' :: rest =>
    (rest.takeWhile fun c => c != '/' && c != '?' && c != '#').contains '@'
  | _ => false

def sipPathHasPassword (parsed : ParsedUrl) : Bool :=
  match parsed.path.toList.reverse.dropWhile (· != '@') with
  | _ :: user => user.contains ':'
  | [] => false

section Checks

variable [Libraries]

def validateUri (value : String) (schemes : List String) : Except RepositoryError Unit := do
  validateBoundedValue value maxEndpointBytes "invalid endpoint URI"
  let parsed ← orFail (Libraries.parseUrl value) (.invalidInput "invalid endpoint URI")
  let sipDestination : Bool := parsed.scheme = "sip" ∨ parsed.scheme = "sips"
  reject (parsed.scheme ∉ schemes ∨ parsed.hasPassword ∨ parsed.hasQuery ∨ parsed.hasFragment ∨
      (¬ sipDestination ∧ hasAuthorityUserinfo value) ∨
      (sipDestination ∧ sipPathHasPassword parsed))
    (.invalidInput "invalid endpoint URI")

def validateOptionalUri (value : Option String) (signalingInitiator : SignalingInitiator)
    (schemes : List String) (missing : String) : Except RepositoryError Unit :=
  match value with
  | some value => validateUri value schemes
  | none => reject (signalingInitiator ≠ .remote) (.invalidInput missing)

def validateConnectProfile (value : String) : Except RepositoryError Unit :=
  reject (value.isEmpty ∨ value.utf8ByteSize > Libraries.maxConnectProfileIdBytes ∨
      ¬ value.toList.all fun c => isAsciiAlphanumeric c || c == '.' || c == '_' || c == '-')
    (.invalidInput "invalid Amazon Connect profile")

def validateConnectResource (value : String) (message : String) : Except RepositoryError Unit :=
  reject (value.isEmpty ∨ value.utf8ByteSize > Libraries.maxConnectResourceIdBytes ∨
      ¬ value.toList.all isAscii ∨
      value.toList.any fun c => isAsciiControl c || isAsciiWhitespace c)
    (.invalidInput message)

def validateConnectText (value : String) (max : Nat) (message : String) :
    Except RepositoryError Unit :=
  reject (value.isEmpty ∨ value.utf8ByteSize > max ∨ value.toList.any isControl)
    (.invalidInput message)

def validateConnectAttribute (total : Nat) (entry : String × String) :
    Except RepositoryError Nat := do
  reject (entry.1.isEmpty ∨
      entry.1.utf8ByteSize > Libraries.maxConnectAttributeKeyBytes ∨
      ¬ entry.1.toList.all fun c => isAsciiAlphanumeric c || c == '_' || c == '-')
    (.invalidInput "invalid Amazon Connect attribute key")
  reject (entry.2.toList.any isControl)
    (.invalidInput "invalid Amazon Connect attribute value")
  let total := total + entry.1.utf8ByteSize + entry.2.utf8ByteSize
  reject (total > Libraries.maxConnectAttributeBytes)
    (.invalidInput "Amazon Connect attributes are too large")
  return total

def validateConnectAttributes (attributes : StringMap) : Except RepositoryError Unit := do
  reject (attributes.entries.length > Libraries.maxConnectAttributeCount)
    (.invalidInput "too many Amazon Connect attributes")
  let _ ← foldFallible validateConnectAttribute 0 attributes.entries
  return ()

end Checks

def reservedContextKeys : List String := ["tenant_id", "call_id", "source_leg_id", "version"]

def validContextIdentifier : Bool :=
  !value.isEmpty && decide (value.utf8ByteSize ≤ 512) && !value.toList.any isLineBreakOrNul

def validMetadataKey (key : String) : Bool :=
  !key.isEmpty && decide (key.utf8ByteSize ≤ 128) && !reservedContextKeys.contains key &&
    key.toList.all fun c => isAsciiAlphanumeric c || c == '_' || c == '-' || c == '.'

def validMetadataValue : Bool :=
  decide (value.utf8ByteSize ≤ 2048) && !value.toList.any isLineBreakOrNul

/-- Whether an envelope passes validation. Its callers replace every error by their own. -/
def ContextEnvelope.valid (envelope : ContextEnvelope) : Bool :=
  decide (envelope.version = 1) &&
    ([envelope.correlationId, envelope.tenantId, envelope.callId, envelope.sourceLegId].all
      validContextIdentifier) &&
    decide (envelope.metadata.entries.length ≤ maxContextMetadataEntries) &&
    envelope.metadata.entries.all fun entry =>
      validMetadataKey entry.1 && validMetadataValue entry.2

/-- Context cannot override its authenticated owner or route. -/
def ContextEnvelope.validBinding (envelope : ContextEnvelope)
    (tenantId callId sourceLegId : String) : Bool :=
  decide (envelope.tenantId = tenantId) && decide (envelope.callId = callId) &&
    decide (envelope.sourceLegId = sourceLegId)

def NamedRouteCallContext.validate [Libraries] (context : NamedRouteCallContext) :
    Except RepositoryError Unit := do
  let envelope : ContextEnvelope :=
    ⟨1, context.correlationId, "route-tenant", "route-call", "route-source-leg", context.metadata⟩
  reject (¬ envelope.valid) (.invalidInput "invalid named-route context")
  reject (Libraries.encodedContextBytes context > maxContextBytes)
    (.invalidInput "named-route context exceeds the context envelope limit")

inductive ProviderKind where
  | twilio
  | telnyx
  | vonage
  deriving DecidableEq

inductive SipInitialContextMode where
  | none
  | required
  deriving DecidableEq

structure AmazonConnectStartSpec where
  profile : String
  instanceId : String
  contactFlowId : String
  attributes : StringMap
  displayName : String
  description : Option String
  deriving DecidableEq

inductive LegEndpointConfig where
  | sip (uri : Option String) (initialContext : SipInitialContextMode)
  | webRtc (signalingUri : Option String)
  | whip (endpointUri : Option String)
  | whep (endpointUri : Option String)
  | amazonConnect (instanceId contactFlowId : String)
  | provider (provider : ProviderKind) (accountProfile : String) (destination : Option String)
  deriving DecidableEq

def LegEndpointConfig.kind : LegEndpointConfig → LegKind
  | .sip .. => .sip
  | .webRtc _ => .interactiveWebRtc
  | .whip _ => .whip
  | .whep _ => .whep
  | .amazonConnect .. => .amazonConnect
  | .provider .twilio .. => .twilio
  | .provider .telnyx .. => .telnyx
  | .provider .vonage .. => .vonage

def LegEndpointConfig.requiredWorkerCapability (endpoint : LegEndpointConfig)
    (signalingInitiator : SignalingInitiator) : Except RepositoryError String :=
  match signalingInitiator, endpoint with
  | .remote, .sip .. => .ok "sip"
  | .remote, .webRtc _ | .remote, .whip _ | .remote, .whep _ => .ok "webrtc"
  | .bridgefu, .sip .. => .ok "sip_egress"
  | .bridgefu, .webRtc _ | .bridgefu, .whip _ | .bridgefu, .whep _ => .ok "webrtc_egress"
  | .bridgefu, .amazonConnect .. => .ok "amazon_connect"
  | .bridgefu, .provider .telnyx .. => .ok "telnyx"
  | .bridgefu, .provider .twilio .. | .bridgefu, .provider .vonage .. =>
    .error (.invalidInput "provider worker capability is deferred")
  | .remote, .amazonConnect .. | .remote, .provider .. =>
    .error (.invalidInput "remote endpoint has no ingress worker capability")

section Endpoints

variable [Libraries]

def AmazonConnectStartSpec.validate (spec : AmazonConnectStartSpec) :
    Except RepositoryError Unit := do
  validateConnectProfile spec.profile
  validateConnectResource spec.instanceId "invalid Amazon Connect instance ID"
  validateConnectResource spec.contactFlowId "invalid Amazon Connect contact-flow ID"
  validateConnectText spec.displayName Libraries.maxConnectDisplayNameBytes
    "invalid Amazon Connect display name"
  checkAll (fun description => validateConnectText description
    Libraries.maxConnectDescriptionBytes "invalid Amazon Connect description")
    spec.description.toList
  validateConnectAttributes spec.attributes

def LegEndpointConfig.validate (endpoint : LegEndpointConfig) (direction : LegDirection)
    (signalingInitiator : SignalingInitiator) : Except RepositoryError Unit :=
  match endpoint with
  | .sip uri initialContext => do
    validateOptionalUri uri signalingInitiator ["sip", "sips"]
      "Bridgefu-initiated SIP leg requires a SIP URI"
    reject (initialContext = .required ∧
        (direction ≠ .outbound ∨ signalingInitiator ≠ .bridgefu))
      (.invalidInput "initial SIP context may be required only for an outbound Bridgefu-initiated leg")
  | .webRtc signalingUri => validateOptionalUri signalingUri signalingInitiator ["wss"]
      "Bridgefu-initiated WebRTC leg requires a signaling URI"
  | .whip endpointUri => validateOptionalUri endpointUri signalingInitiator ["https"]
      "Bridgefu-initiated WHIP leg requires an endpoint URI"
  | .whep endpointUri => validateOptionalUri endpointUri signalingInitiator ["https"]
      "Bridgefu-initiated WHEP leg requires an endpoint URI"
  | .amazonConnect instanceId contactFlowId => do
    reject (direction ≠ .outbound ∨ signalingInitiator ≠ .bridgefu)
      (.invalidInput "Amazon Connect requires an outbound Bridgefu-initiated leg")
    validateConnectResource instanceId "invalid Amazon Connect instance ID"
    validateConnectResource contactFlowId "invalid Amazon Connect contact-flow ID"
  | .provider _ accountProfile destination => do
    reject (signalingInitiator ≠ .bridgefu)
      (.invalidInput "provider-controlled legs require Bridgefu signaling initiation")
    validateIdentifier accountProfile "invalid provider account profile"
    let destination ← orFail destination
      (.invalidInput "provider-controlled leg requires a destination")
    validateBoundedValue destination maxEndpointBytes "invalid provider destination"

end Endpoints

inductive NamedProfileKind where
  | vapiIngress
  | sipIngress
  | sip
  | webRtc
  | amazonConnect
  | telnyx
  deriving DecidableEq

inductive NamedProfileRole where
  | ingress
  | destination
  deriving DecidableEq

structure NamedProfileBinding where
  role : NamedProfileRole
  kind : NamedProfileKind
  profileId : String
  revision : String
  deriving DecidableEq

def NamedProfileBinding.validate (binding : NamedProfileBinding) : Except RepositoryError Unit := do
  validateNamedProfileId binding.profileId
  reject (binding.revision.utf8ByteSize ≠ 64 ∨ ¬ binding.revision.toList.all isLowerHex)
    (.invalidInput "invalid named profile revision")

structure NamedRouteBinding where
  routeId : String
  context : Option NamedRouteCallContext
  profiles : List NamedProfileBinding
  requiredSipCorrelationHeader : Option String
  deriving DecidableEq

def validCorrelationHeader (header : String) : Bool :=
  (["X-".toList, "x-".toList].any fun start => start.isPrefixOf header.toList) &&
    decide (header.utf8ByteSize ≤ 128) &&
    header.toList.all fun c => isAsciiAlphanumeric c || c == '-' || c == '_'

section NamedRoutes

variable [Libraries]

def NamedRouteBinding.validate (route : NamedRouteBinding) : Except RepositoryError Unit := do
  reject (¬ isSlug route.routeId) (.invalidInput "invalid named route ID")
  checkAll NamedRouteCallContext.validate route.context.toList
  reject (route.requiredSipCorrelationHeader.any fun header =>
      route.context.isNone || !validCorrelationHeader header)
    (.invalidInput "invalid required SIP correlation header")
  checkAllAfter (fun seen profile => do
    profile.validate
    reject (seen.any fun earlier => earlier.role = profile.role ∧ earlier.kind = profile.kind)
      (.invalidInput "named route contains duplicate profile roles")) [] route.profiles

def LegEndpointConfig.destinationProfileKind :
    LegEndpointConfig → Except RepositoryError NamedProfileKind
  | .sip .. => .ok .sip
  | .webRtc _ | .whip _ | .whep _ => .ok .webRtc
  | .amazonConnect .. => .ok .amazonConnect
  | .provider .telnyx .. => .ok .telnyx
  | .provider .. => .error (.invalidInput "replacement route provider is deferred")

def NamedRouteBinding.destinations (route : NamedRouteBinding) : List NamedProfileBinding :=
  route.profiles.filter fun profile => profile.role = .destination

def NamedRouteBinding.validateReplacementDestination (route : NamedRouteBinding)
    (routeId : String) (endpoint : LegEndpointConfig) : Except RepositoryError Unit := do
  route.validate
  reject (route.routeId ≠ routeId)
    (.invalidInput "replacement route snapshot does not match the selected route ID")
  reject (route.context.isSome ∨ route.requiredSipCorrelationHeader.isSome)
    (.invalidInput "replacement route snapshot must not carry new call context")
  let expected ← endpoint.destinationProfileKind
  let destination ← orFail route.destinations.head?
    (.invalidInput "replacement route has no durable destination profile")
  reject (route.destinations.length > 1 ∨ destination.kind ≠ expected)
    (.invalidInput "replacement route destination profile does not match its endpoint")
  match endpoint with
  | .provider _ accountProfile _ =>
    reject (destination.profileId ≠ accountProfile)
      (.invalidInput "replacement provider route does not match its account profile")
  | _ => .ok ()

end NamedRoutes

def callExecutionPlanVersion : Nat := 3

def authorizedCallExecutionPlanVersion : Nat := 2

def legacyCallExecutionPlanVersion : Nat := 1

inductive SetupPolicy where
  | parallel
  | attachThenDial
  deriving DecidableEq

structure LegExecutionSpec where
  legId : LegId
  endpoint : LegEndpointConfig

structure AmazonConnectStartBinding where
  legId : LegId
  spec : AmazonConnectStartSpec

structure LegSemanticsBinding where
  legId : LegId
  signalingInitiator : SignalingInitiator
  mediaFlow : MediaFlow

structure CallMediaBridgePlan where
  leftToRight : Bool
  rightToLeft : Bool
  deriving DecidableEq

structure CallExecutionPlan where
  version : Nat
  storedAuthorization : Option PrincipalFingerprint
  left : LegExecutionSpec
  right : LegExecutionSpec
  amazonConnectStarts : List AmazonConnectStartBinding
  legSemantics : List LegSemanticsBinding
  namedRoute : Option NamedRouteBinding
  setupPolicy : SetupPolicy

namespace CallExecutionPlan

variable (plan : CallExecutionPlan) (legId : LegId)

def legs : List LegExecutionSpec := [plan.left, plan.right]

def spec : Option LegExecutionSpec :=
  plan.legs.find? fun spec => spec.legId = legId

def legSignalingInitiator : Except RepositoryError SignalingInitiator :=
  orFail ((plan.legSemantics.find? fun binding => binding.legId = legId).map
      LegSemanticsBinding.signalingInitiator)
    (.invalidInput "execution plan has no explicit signaling initiator for leg")

/-- Capabilities of the two endpoints, as a list: callers read it as a set. -/
def requiredWorkerCapabilities : Except RepositoryError (List String) := do
  let leftInitiator ← plan.legSignalingInitiator plan.left.legId
  let left ← plan.left.endpoint.requiredWorkerCapability leftInitiator
  let rightInitiator ← plan.legSignalingInitiator plan.right.legId
  let right ← plan.right.endpoint.requiredWorkerCapability rightInitiator
  return [left, right]

def amazonConnectStartSpec : Except RepositoryError AmazonConnectStartSpec := do
  reject (plan.version ≠ callExecutionPlanVersion)
    (.invalidInput "Amazon Connect start spec is unavailable in a legacy execution plan")
  orFail ((plan.amazonConnectStarts.find? fun binding => binding.legId = legId).map
      AmazonConnectStartBinding.spec)
    (.invalidInput "execution plan has no Amazon Connect start spec for leg")

def authorizationPrincipalFingerprint : Except RepositoryError PrincipalFingerprint :=
  orFail plan.storedAuthorization
    (.invalidInput "execution plan has no durable outbound authorization")

def sipInitialContextMode : Except RepositoryError SipInitialContextMode := do
  reject (plan.version ≠ callExecutionPlanVersion)
    (.invalidInput "SIP initial-context policy is unavailable in a legacy execution plan")
  match plan.spec legId with
  | some ⟨_, .sip _ initialContext⟩ => return initialContext
  | _ => .error (.invalidInput "execution plan has no SIP initial-context policy for leg")

/-- Only the current plan version carries more than its endpoints. -/
def validateVersion : Except RepositoryError Unit :=
  let bare : Bool := plan.amazonConnectStarts.isEmpty && plan.legSemantics.isEmpty &&
    plan.namedRoute.isNone
  let mismatch := RepositoryError.invalidInput
    "execution plan authorization does not match its version"
  if plan.version = callExecutionPlanVersion then
    reject plan.storedAuthorization.isNone mismatch
  else if plan.version = authorizedCallExecutionPlanVersion then
    reject (plan.storedAuthorization.isNone ∨ ¬ bare) mismatch
  else if plan.version = legacyCallExecutionPlanVersion then
    reject (plan.storedAuthorization.isSome ∨ ¬ bare) mismatch
  else .error (.invalidInput "unsupported call execution plan version")

def validateLegSemantics (aggregate : CallAggregate) : Except RepositoryError Unit :=
  if plan.legSemantics.isEmpty then
    reject (aggregate.legs.any fun leg =>
        leg.signalingInitiator ≠ .legacyDefault leg.direction ∨ leg.mediaFlow ≠ .sendReceive)
      (.invalidInput "execution plan without semantics requires exact legacy defaults")
  else do
    reject (plan.version ≠ callExecutionPlanVersion ∨ plan.legSemantics.length ≠ 2)
      (.invalidInput "execution plan semantics do not match its version")
    checkAllAfter (fun seen binding => do
      reject (seen.any fun earlier => earlier.legId = binding.legId)
        (.invalidInput "execution plan contains duplicate leg semantics")
      let leg ← orFail (aggregate.leg binding.legId)
        (.invalidInput "execution plan semantics leg does not belong to call")
      reject (binding.signalingInitiator ≠ leg.signalingInitiator ∨
          binding.mediaFlow ≠ leg.mediaFlow)
        (.invalidInput "execution plan semantics do not match aggregate leg"))
      [] plan.legSemantics
    reject (aggregate.legs.any fun leg =>
        ¬ plan.legSemantics.any fun binding => binding.legId = leg.id)
      (.invalidInput "execution plan semantics do not cover both aggregate legs")

section Validation

variable [Libraries]

variable (plan : CallExecutionPlan) (aggregate : CallAggregate)

def validateAmazonConnectStart (seen : List AmazonConnectStartBinding)
    (binding : AmazonConnectStartBinding) : Except RepositoryError Unit := do
  reject (seen.any fun earlier => earlier.legId = binding.legId)
    (.invalidInput "execution plan contains duplicate Amazon Connect start specs")
  binding.spec.validate
  let leg ← orFail (aggregate.leg binding.legId)
    (.invalidInput "Amazon Connect start spec leg does not belong to call")
  reject ((leg.bindingGeneration = 1 ∧ leg.kind ≠ .amazonConnect) ∨ leg.direction ≠ .outbound)
    (.invalidInput "Amazon Connect start spec requires an outbound Amazon leg")
  match plan.spec binding.legId with
  | some ⟨_, .amazonConnect instanceId contactFlowId⟩ =>
    reject (instanceId ≠ binding.spec.instanceId ∨
        contactFlowId ≠ binding.spec.contactFlowId)
      (.invalidInput "Amazon Connect start target does not match endpoint")
  | _ => .error (.invalidInput "Amazon Connect start spec has no matching endpoint")

def validateAmazonConnectStarts : Except RepositoryError Unit :=
  if plan.version ≠ callExecutionPlanVersion then
    reject (¬ plan.amazonConnectStarts.isEmpty)
      (.invalidInput "legacy execution plan contains an Amazon Connect start spec")
  else do
    checkAllAfter (plan.validateAmazonConnectStart aggregate) [] plan.amazonConnectStarts
    reject (plan.legs.any fun spec => spec.endpoint.kind = .amazonConnect ∧
        ¬ plan.amazonConnectStarts.any fun binding => binding.legId = spec.legId)
      (.invalidInput "current Amazon Connect leg requires a durable start spec")

/-- The plan is the record of the first generation: later generations keep their effective
endpoint in the payload of the effect that introduced them. -/
def validateLegSpec (spec : LegExecutionSpec) : Except RepositoryError Unit := do
  let leg ← orFail (aggregate.leg spec.legId)
    (.invalidInput "execution plan leg does not belong to call")
  reject (leg.bindingGeneration = 1 ∧ leg.kind ≠ spec.endpoint.kind)
    (.invalidInput "execution endpoint kind does not match aggregate leg")
  spec.endpoint.validate leg.direction leg.signalingInitiator

def countInitiated (initiator : SignalingInitiator) : Nat :=
  plan.legSemantics.countP fun binding => binding.signalingInitiator = initiator

def validateAgainst : Except RepositoryError Unit := do
  plan.validateVersion
  reject (plan.left.legId = plan.right.legId)
    (.invalidInput "execution plan contains a duplicate leg")
  plan.validateLegSemantics aggregate
  checkAll (validateLegSpec aggregate) plan.legs
  reject (aggregate.legs.any fun leg => ¬ plan.legs.any fun spec => spec.legId = leg.id)
    (.invalidInput "execution plan does not cover both aggregate legs")
  plan.validateAmazonConnectStarts aggregate
  checkAll (fun route : NamedRouteBinding => do
    reject (plan.version ≠ callExecutionPlanVersion)
      (.invalidInput "legacy execution plan contains a named route")
    route.validate) plan.namedRoute.toList
  reject (plan.version ≠ callExecutionPlanVersion ∧ plan.setupPolicy ≠ .parallel)
    (.invalidInput "legacy execution plan contains a non-legacy setup policy")
  reject (plan.setupPolicy = .attachThenDial ∧ plan.namedRoute.isNone)
    (.invalidInput "attach-then-dial requires a durable named route")
  reject (plan.setupPolicy = .attachThenDial ∧
      (plan.countInitiated .remote ≠ 1 ∨ plan.countInitiated .bridgefu ≠ 1))
    (.invalidInput "attach-then-dial requires one remote ingress and one Bridgefu destination")

/-- The directions in which media are bridged between two legs of the call. -/
def mediaBridgePlan (leftLegId rightLegId : LegId) :
    Except RepositoryError CallMediaBridgePlan := do
  plan.validateAgainst aggregate
  reject (leftLegId = rightLegId) (.invalidInput "media bridge requires two distinct legs")
  let left ← orFail (aggregate.leg leftLegId)
    (.invalidInput "media bridge left leg does not belong to call")
  let right ← orFail (aggregate.leg rightLegId)
    (.invalidInput "media bridge right leg does not belong to call")
  let leftToRight := left.mediaFlow.sourceEnabled && right.mediaFlow.sinkEnabled
  let rightToLeft := right.mediaFlow.sourceEnabled && left.mediaFlow.sinkEnabled
  reject (left.mediaFlow.sourceEnabled ≠ right.mediaFlow.sinkEnabled ∨
      right.mediaFlow.sourceEnabled ≠ left.mediaFlow.sinkEnabled)
    (.invalidInput "media bridge has an unmatched source or sink")
  reject (¬ leftToRight ∧ ¬ rightToLeft) (.invalidInput "media bridge has no enabled direction")
  .ok ⟨leftToRight, rightToLeft⟩

def validateForCreate : Except RepositoryError Unit := do
  plan.validateAgainst aggregate
  reject (plan.version ≠ callExecutionPlanVersion)
    (.invalidInput "new calls require the current execution plan version")
  reject (plan.legSemantics.length ≠ 2)
    (.invalidInput "new calls require explicit signaling and media semantics")

end Validation

end CallExecutionPlan

inductive TransferTarget where
  | sip (uri : String)
  | webRtc (uri : String)
  | amazonConnect (instanceId contactFlowId : String)
  | provider (provider : ProviderKind) (accountProfile destination : String)
  deriving DecidableEq

inductive ServiceEffectPayload where
  | transfer (targetLegId : LegId) (targetBindingGeneration : Nat)
      (target : TransferTarget)
  | legReplacement (legId : LegId)
      (previousBindingGeneration pendingBindingGeneration : Nat)
      (endpoint : LegEndpointConfig) (amazonConnectStart : Option AmazonConnectStartSpec)
      (routeId : String) (replacementRoute : Option NamedRouteBinding)
      (authorizationPrincipalFingerprint : PrincipalFingerprint)
  deriving DecidableEq

section Payloads

variable [Libraries]

def TransferTarget.validate : TransferTarget → Except RepositoryError Unit
  | .sip uri => validateUri uri ["sip", "sips"]
  | .webRtc uri => validateUri uri ["http", "https", "ws", "wss"]
  | .amazonConnect instanceId contactFlowId => do
    validateConnectResource instanceId "invalid Amazon Connect instance ID"
    validateConnectResource contactFlowId "invalid Amazon Connect contact-flow ID"
  | .provider _ accountProfile destination => do
    validateIdentifier accountProfile "invalid provider account profile"
    validateBoundedValue destination maxEndpointBytes "invalid provider destination"

/-- An Amazon endpoint and its start authority name each other, and no other endpoint has one. -/
def validateAmazonAuthority (endpoint : LegEndpointConfig)
    (amazonConnectStart : Option AmazonConnectStartSpec) : Except RepositoryError Unit :=
  match endpoint, amazonConnectStart with
  | .amazonConnect instanceId contactFlowId, some start =>
    reject (instanceId ≠ start.instanceId ∨ contactFlowId ≠ start.contactFlowId)
      (.invalidInput "replacement Amazon endpoint requires matching start authority")
  | .amazonConnect .., none =>
    .error (.invalidInput "replacement Amazon endpoint requires matching start authority")
  | _, none => .ok ()
  | _, some _ =>
    .error (.invalidInput "replacement Amazon start authority requires an Amazon endpoint")

def ServiceEffectPayload.validate : ServiceEffectPayload → Except RepositoryError Unit
  | .transfer _ _ target => target.validate
  | .legReplacement _ _ _ endpoint amazonConnectStart routeId replacementRoute _ => do
    validateIdentifier routeId "invalid replacement route ID"
    endpoint.validate .outbound .bridgefu
    let route ← orFail replacementRoute
      (.invalidInput "replacement route snapshot is unavailable")
    route.validateReplacementDestination routeId endpoint
    match endpoint, amazonConnectStart with
    | .amazonConnect .., some start => do
      let profile ← orFail route.destinations.head?
        (.invalidInput "replacement Amazon route has no destination profile")
      reject (profile.profileId ≠ start.profile)
        (.invalidInput "replacement Amazon route does not match its start profile")
    | _, _ => .ok ()
    validateAmazonAuthority endpoint amazonConnectStart

end Payloads

structure DtmfSequence where
  digits : String
  durationMs : Nat
  gapMs : Nat
  deriving DecidableEq

def isDtmfDigit : Bool :=
  (decide ('0' ≤ c) && decide (c ≤ '9')) || c == '*' || c == '#' ||
    (decide ('A' ≤ c) && decide (c ≤ 'D'))

def DtmfSequence.validate (sequence : DtmfSequence) : Except RepositoryError Unit := do
  reject (sequence.digits.isEmpty ∨ sequence.digits.utf8ByteSize > maxDtmfDigits ∨
      ¬ sequence.digits.toList.all isDtmfDigit)
    (.invalidInput "invalid DTMF digits")
  reject (sequence.durationMs < 40 ∨ sequence.durationMs > 6000 ∨ sequence.gapMs > 6000)
    (.invalidInput "invalid DTMF timing")

inductive ControlIntent where
  | dtmf (sequence : DtmfSequence)
  deriving DecidableEq

def ControlIntent.validate : ControlIntent → Except RepositoryError Unit
  | .dtmf sequence => sequence.validate

inductive ExternalReferenceValue where
  | providerCall (account : ProviderAccountKey) (providerCallId : ProviderCallId)
  | signaling (label : String) (value : String)
  deriving DecidableEq

def ExternalReferenceValue.validate : ExternalReferenceValue → Except RepositoryError Unit
  | .providerCall .. => .ok ()
  | .signaling label value => do
    validateIdentifier label "invalid external reference namespace"
    validateBoundedValue value maxEndpointBytes "invalid external reference value"

end Bridgefu.CallService
