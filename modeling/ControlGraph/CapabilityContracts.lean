import ControlGraph.HealthProofs

/-!
# Signed capabilities

The claims of a capability name its issuer and its bearer, the mutation of one
target that it grants, and the window in which it grants it. Claims are signed
with their own digest. The validator of the claims fixes the traffic of each
action and bounds the lifetime, counted from the issue, at fifteen minutes.
-/

namespace ControlGraph.CapabilityContracts

open Checks ContractText

open ReceiptContracts (TargetBinding CapabilityAction)

open TimelineContracts (KeyVersionResource)

/-- Traffic of the stable and of the candidate revision after an action. -/
def expectedTraffic : CapabilityAction → Nat×Nat
  | .applyCanary => (90,10)
  | .promoteCandidate => (0,100)
  | .recoverStable => (100,0)

/-- Greatest lifetime of a capability in seconds. -/
def maximumLifetimeSeconds : Int := 900

/-- What a capability grants. -/
structure CapabilityClaims where
  capability_id : Identifier
  issuer : BoundedText
  /-- Who may use it. -/
  subject : BoundedText
  audience : String
  target : TargetBinding
  root_id : Identifier
  root_sha256 : Sha256Digest
  epoch : PositiveSafeInteger
  action : CapabilityAction
  stable_revision : CloudRunName
  candidate_revision : CloudRunName
  stable_percent : Nat
  candidate_percent : Nat
  concurrency : Option Nat
  plan_sha256 : Sha256Digest
  provider_etag : OpaqueToken
  request_id : Identifier
  idempotency_key : Identifier
  parent_capability_sha256 : Option Sha256Digest
  issued_at : UtcSecond
  not_before : UtcSecond
  expires_at : UtcSecond
  signing_key_version : KeyVersionResource
  deriving DecidableEq

/-- Check the bindings of claims. -/
def validateClaims (claims : CapabilityClaims) : Except Raised Unit := do
  require (claims.stable_percent≤100 ∧ claims.candidate_percent≤100 ∧
      ∀ concurrency∈claims.concurrency,1 ≤ concurrency ∧ concurrency≤1000) .validationError
  require (claims.stable_revision≠claims.candidate_revision)
    (.valueError "stable and candidate revisions must differ")
  require ((claims.stable_percent,claims.candidate_percent)=expectedTraffic claims.action)
    (.valueError "traffic does not match the capability action")
  require (claims.issued_at.1 ≤ claims.not_before.1 ∧ claims.not_before.1<claims.expires_at.1)
    (.valueError "capability timestamps are not ordered")
  require (claims.expires_at.1-claims.issued_at.1 ≤ maximumLifetimeSeconds)
    (.valueError "capability lifetime exceeds 900 seconds")

/-- Claims with their digest and a signature. -/
structure SignedCapability where
  claims : CapabilityClaims
  claims_sha256 : Sha256Digest
  signature : String
  deriving DecidableEq

/-- Check a signed capability under a digest of claims. -/
def validateCapability (claims_sha256 : CapabilityClaims → Sha256Digest)
    (capability : SignedCapability) : Except Raised Unit := do
  validateClaims capability.claims
  require (claims_sha256 capability.claims=capability.claims_sha256)
    (.valueError "claims digest does not match canonical claims")

end ControlGraph.CapabilityContracts
