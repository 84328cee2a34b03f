/- digest: The request limiter of the control API: policies, token buckets, tracked identities. -/

import Bridgefu.Lib.Table
import Bridgefu.Lib.Fallible

set_option autoImplicit false

/-! Instants are in nanoseconds. Amounts of tokens are exact rationals. -/

namespace Bridgefu.ApiRateLimit

open Lib

abbrev Instant := Int

def nanosPerSecond : Nat := 1000000000

def maxApiRequestsPerSecond : Nat := 100000

def maxApiBurst : Nat := 1000000

def maxApiTrackedIdentities : Nat := 100000

def maxApiIdentityIdleTtlSecs : Nat := 3600

structure ApiRateLimitCfg where
  enabled : Bool
  controlRequestsPerSecond : Nat
  controlBurst : Nat
  diagnosticsRequestsPerSecond : Nat
  diagnosticsBurst : Nat
  webhookRequestsPerSecond : Nat
  webhookBurst : Nat
  maxTrackedIdentities : Nat
  identityIdleTtlSecs : Nat

def ApiRateLimitCfg.default : ApiRateLimitCfg where
  enabled := true
  controlRequestsPerSecond := 50
  controlBurst := 100
  diagnosticsRequestsPerSecond := 2
  diagnosticsBurst := 4
  webhookRequestsPerSecond := 100
  webhookBurst := 200
  maxTrackedIdentities := 10000
  identityIdleTtlSecs := 300

/-- The value of a setting must lie between one and its bound. -/
def checkSetting (bound : Nat) (setting : String × Nat) : Except String Unit :=
  reject (¬ (1 ≤ setting.2 ∧ setting.2 ≤ bound))
    ("api.rate_limit." ++ setting.1 ++ " must be between 1 and " ++ toString bound)

def ApiRateLimitCfg.validate (config : ApiRateLimitCfg) : Except String Unit := do
  checkAll (checkSetting maxApiRequestsPerSecond)
    [("control_requests_per_second", config.controlRequestsPerSecond),
      ("diagnostics_requests_per_second", config.diagnosticsRequestsPerSecond),
      ("webhook_requests_per_second", config.webhookRequestsPerSecond)]
  checkAll (checkSetting maxApiBurst)
    [("control_burst", config.controlBurst), ("diagnostics_burst", config.diagnosticsBurst),
      ("webhook_burst", config.webhookBurst)]
  checkSetting maxApiTrackedIdentities ("max_tracked_identities", config.maxTrackedIdentities)
  checkSetting maxApiIdentityIdleTtlSecs ("identity_idle_ttl_secs", config.identityIdleTtlSecs)

inductive ApiRateSurface where
  | control
  | diagnostics
  | webhook
  deriving DecidableEq

structure BucketPolicy where
  requestsPerSecond : Nat
  burst : Nat

structure RatePolicy where
  enabled : Bool
  control : BucketPolicy
  diagnostics : BucketPolicy
  webhook : BucketPolicy
  maxTrackedIdentities : Nat
  idleTtl : Nat

def RatePolicy.ofConfig (config : ApiRateLimitCfg) : RatePolicy where
  enabled := config.enabled
  control := ⟨config.controlRequestsPerSecond, config.controlBurst⟩
  diagnostics := ⟨config.diagnosticsRequestsPerSecond, config.diagnosticsBurst⟩
  webhook := ⟨config.webhookRequestsPerSecond, config.webhookBurst⟩
  maxTrackedIdentities := config.maxTrackedIdentities
  idleTtl := config.identityIdleTtlSecs * nanosPerSecond

def RatePolicy.bucket (policy : RatePolicy) : ApiRateSurface → BucketPolicy
  | .control => policy.control
  | .diagnostics => policy.diagnostics
  | .webhook => policy.webhook

/-- Nanoseconds from the first instant to the second, none if it comes earlier. -/
def saturatingDurationSince (now earlier : Instant) : Int := max (now - earlier) 0

def asSecs (nanos : Int) : ℚ := nanos / nanosPerSecond

structure TokenBucket where
  tokens : ℚ
  lastRefill : Instant

namespace TokenBucket

def full (policy : BucketPolicy) (now : Instant) : TokenBucket := ⟨policy.burst, now⟩

/-- The bucket as it stands now. -/
def refill (bucket : TokenBucket) (policy : BucketPolicy) (now : Instant) : TokenBucket where
  tokens := min (bucket.tokens +
    asSecs (saturatingDurationSince now bucket.lastRefill) * policy.requestsPerSecond) policy.burst
  lastRefill := now

/-- A refusal comes with the seconds to wait. -/
def admitRequest (bucket : TokenBucket) (policy : BucketPolicy) (now : Instant) :
    TokenBucket × Except ℚ Unit :=
  let refilled := bucket.refill policy now
  if 1 ≤ refilled.tokens then ({ refilled with tokens := refilled.tokens - 1 }, .ok ())
  else (refilled, .error (max ((1 - refilled.tokens) / policy.requestsPerSecond) (1 / 1000)))

end TokenBucket

structure IdentityBuckets where
  control : TokenBucket
  diagnostics : TokenBucket
  webhook : TokenBucket
  lastSeen : Instant

namespace IdentityBuckets

def new (policy : RatePolicy) (now : Instant) : IdentityBuckets where
  control := .full policy.control now
  diagnostics := .full policy.diagnostics now
  webhook := .full policy.webhook now
  lastSeen := now

def bucket (entry : IdentityBuckets) : ApiRateSurface → TokenBucket
  | .control => entry.control
  | .diagnostics => entry.diagnostics
  | .webhook => entry.webhook

def setBucket (entry : IdentityBuckets) (surface : ApiRateSurface) (bucket : TokenBucket) :
    IdentityBuckets :=
  match surface with
  | .control => { entry with control := bucket }
  | .diagnostics => { entry with diagnostics := bucket }
  | .webhook => { entry with webhook := bucket }

end IdentityBuckets

/-- The tracked identities, by their digests. -/
structure RateState where
  identities : Table Nat IdentityBuckets

def RateState.default : RateState := ⟨.empty⟩

def RateState.tracked (state : RateState) : Nat := state.identities.rows.length

structure RateLimitRejection where
  retryAfter : Nat

/-- Whole seconds, at least one. -/
def roundRetryAfter (seconds : ℚ) : Nat := max ⌈seconds⌉.toNat 1

namespace RateState

variable (policy : RatePolicy)

def isIdle (entry : IdentityBuckets) (now : Instant) : Bool :=
  decide (policy.idleTtl ≤ saturatingDurationSince now entry.lastSeen)

/-- Idle identities make room for a new one when the table is full. -/
def reclaimed (state : RateState) (now : Instant) : RateState :=
  if policy.maxTrackedIdentities ≤ state.tracked then
    ⟨state.identities.filter fun _ entry => !isIdle policy entry now⟩
  else state

/-- A new identity is tracked if there is room for it. -/
def tracking (state : RateState) (identity : Nat) (now : Instant) : RateState :=
  if state.identities.contains identity then state
  else
    let reclaimed := state.reclaimed policy now
    if reclaimed.tracked < policy.maxTrackedIdentities then
      ⟨reclaimed.identities.insert identity (.new policy now)⟩
    else reclaimed

def checkAt (state : RateState) (surface : ApiRateSurface) (identity : Nat) (now : Instant) :
    RateState × Except RateLimitRejection Unit :=
  let state := state.tracking policy identity now
  match state.identities.get? identity with
  | none => (state, .error ⟨min (policy.idleTtl / nanosPerSecond) 60⟩)
  | some entry =>
    let admitted := (entry.bucket surface).admitRequest (policy.bucket surface) now
    let entry := { entry with lastSeen := now }.setBucket surface admitted.1
    (⟨state.identities.insert identity entry⟩,
      match admitted.2 with
      | .ok () => .ok ()
      | .error seconds => .error ⟨roundRetryAfter seconds⟩)

end RateState

/-- A request, with the instant that its thread sampled before it took the lock. -/
structure Call where
  surface : ApiRateSurface
  identity : Nat
  now : Instant

def RateState.perform (policy : RatePolicy) (state : RateState) (call : Call) : RateState :=
  (state.checkAt policy call.surface call.identity call.now).1

def RateState.admits (policy : RatePolicy) (state : RateState) (call : Call) : Bool :=
  (state.checkAt policy call.surface call.identity call.now).2.isOk

end Bridgefu.ApiRateLimit
