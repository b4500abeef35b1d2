import ControlGraph.PromotionContracts
import ControlGraph.TaskAddressing

/-!
# Issuing of capabilities

The issuer turns an authorized request and a trusted state of its root into a
signed capability. A canary starts at the issue and ends with its lifetime or
with its parent. A promotion and a recovery start at their schedule and end with
their proof at the latest, and each must leave its own margin between the two.
What the issuer reads and what it signs with are answers; it reads the state
of the root twice and issues nothing when the second read differs.
-/

namespace ControlGraph.CapabilityIssuance

open Checks ContractText CapabilityContracts PromotionContracts

open ReceiptContracts (TargetBinding CapabilityAction ServiceClaimStatus)

open RecoveryContracts (RecoveryAuthorizationV1)

open TimelineContracts (KeyVersionResource)

/-- Lifetime of a capability in seconds, unless it is configured. -/
def defaultCapabilityLifetimeSeconds : Int := 300

/-- Greatest configured lifetime in seconds. -/
def maxCapabilityLifetimeSeconds : Int := 900

/-- Seconds that a promotion must leave between its schedule and its end. -/
def minPromotionExecutionMarginSeconds : Int := 30

/-- Seconds that a recovery must leave between its schedule and its end. -/
def minRecoveryExecutionMarginSeconds : Int := 120

/-- Reasons for issuing nothing. -/
inductive CapabilityIssuanceErrorCode
  | callerUnauthenticated | callerUnauthorized | trustedStateUnavailable | trustedStateInvalid
  | expectedStateMismatch | lineageNotFound | lineageInvalid | lineageUnverified
  | validityExhausted
  deriving DecidableEq,Repr

/-- How issuing ends without a capability. -/
inductive IssuanceFailure
  | denied (code : CapabilityIssuanceErrorCode)
  | raised (error : Raised)
  deriving DecidableEq

/-- Target, handlers and lifetime that an issuer is configured with. -/
structure CapabilityIssuerConfiguration where
  target : TargetBinding
  handler_audience : String
  lifetime_seconds : Int
  recovery_handler_audience : Option String
  lifetime_bound : 1 ≤ lifetime_seconds ∧ lifetime_seconds ≤ maxCapabilityLifetimeSeconds

/-- Who issues. -/
def CapabilityIssuerConfiguration.issuerIdentity (configuration : CapabilityIssuerConfiguration) :
    String :=
  serviceAccount "controlgraph-issuer" configuration.target.project_id

/-- Who may ask. -/
def CapabilityIssuerConfiguration.authorizedCallerIdentity
    (configuration : CapabilityIssuerConfiguration) : String :=
  serviceAccount "controlgraph-coordinator" configuration.target.project_id

/-- Who executes. -/
def CapabilityIssuerConfiguration.subjectIdentity (configuration : CapabilityIssuerConfiguration) :
    String :=
  serviceAccount "controlgraph-executor" configuration.target.project_id

/-- Who recovers. -/
def CapabilityIssuerConfiguration.recoverySubjectIdentity
    (configuration : CapabilityIssuerConfiguration) : String :=
  serviceAccount "controlgraph-recovery" configuration.target.project_id

/-- What a root grants for one action. -/
structure RootActionGrantV1 where
  /-- Who may act. -/
  subject_identity : String
  audience : String
  stable_percent : Nat
  candidate_percent : Nat
  deriving DecidableEq

/-- The bounds that a root sets to its authority. -/
structure RootAuthorityBoundsV1 where
  issuer_identity : String
  executor_identity : String
  executor_audience : String
  recovery_identity : String
  recovery_audience : String
  concurrency : Nat
  maximum_capability_lifetime_seconds : Int
  capability_signing_key_version : KeyVersionResource
  apply_canary : RootActionGrantV1
  promote_candidate : RootActionGrantV1
  recover_stable : RootActionGrantV1
  deriving DecidableEq

def RootAuthorityBoundsV1.grant (bounds : RootAuthorityBoundsV1) :
    CapabilityAction → RootActionGrantV1
  | .applyCanary => bounds.apply_canary
  | .promoteCandidate => bounds.promote_candidate
  | .recoverStable => bounds.recover_stable

/-- One inspected read of a root with its claim and its authority. -/
structure TrustedIssuanceState where
  root_id : Identifier
  root_sha256 : Sha256Digest
  target : TargetBinding
  stable_revision : CloudRunName
  candidate_revision : CloudRunName
  plan_sha256 : Sha256Digest
  stable_provider_etag : OpaqueToken
  approved_at : UtcSecond
  bounds : RootAuthorityBoundsV1
  claim_status : ServiceClaimStatus
  claimed_at : UtcSecond
  current_epoch : PositiveSafeInteger
  authority_changed_at : UtcSecond
  /-- Canonical text of the rest. -/
  others : String
  deriving DecidableEq

/-- A request for a canary. -/
structure CapabilityIssuanceRequest where
  root_id : Identifier
  expected_root_sha256 : Sha256Digest
  expected_epoch : PositiveSafeInteger
  request_id : Identifier
  idempotency_key : Identifier
  parent_capability_id : Option Identifier
  deriving DecidableEq

/-- A request for a promotion repeats its authorization. -/
structure PromotionCapabilityIssuanceRequestV2 where
  root_id : Identifier
  expected_root_sha256 : Sha256Digest
  expected_epoch : PositiveSafeInteger
  request_id : Identifier
  idempotency_key : Identifier
  /-- When the task is due. -/
  scheduled_at : UtcSecond
  verified_apply_receipt : VerifiedApplyReceiptLocatorV1
  authorization : PromotionAuthorizationV1
  authorized : root_id=authorization.root_id ∧ expected_root_sha256=authorization.root_sha256 ∧
    expected_epoch=authorization.epoch ∧ request_id=authorization.request_id ∧
    idempotency_key=authorization.idempotency_key ∧ scheduled_at=authorization.scheduled_at ∧
    verified_apply_receipt=authorization.verified_apply_receipt

/-- A request for a recovery repeats its authorization. -/
structure RecoveryCapabilityIssuanceCommandV2 where
  root_id : Identifier
  expected_root_sha256 : Sha256Digest
  expected_epoch : PositiveSafeInteger
  request_id : Identifier
  idempotency_key : Identifier
  /-- When the task is due. -/
  scheduled_at : UtcSecond
  authorization : RecoveryAuthorizationV1
  capability_id : Identifier
  issued_at : UtcSecond
  maximum_capability_lifetime_seconds : Int
  authorized : root_id=authorization.root_id ∧ expected_root_sha256=authorization.root_sha256 ∧
    expected_epoch=authorization.epoch ∧ request_id=authorization.request_id ∧
    idempotency_key=authorization.idempotency_key ∧ scheduled_at=authorization.scheduled_at

/-- What the identity of a derived canary is computed from. -/
structure CapabilityIdentityMaterial where
  action : CapabilityAction
  audience : String
  epoch : PositiveSafeInteger
  expires_at : UtcSecond
  idempotency_key : Identifier
  issued_at : UtcSecond
  parent_capability_sha256 : Option Sha256Digest
  request_id : Identifier
  root_id : Identifier
  root_sha256 : Sha256Digest
  signing_key_version : KeyVersionResource
  /-- Who may act. -/
  subject : String
  target : TargetBinding
  deriving DecidableEq

/-- Digests, lineage policy and signer of an issuer. -/
structure IssuerFunctions where
  key_version : KeyVersionResource
  /-- Identity of a derived canary. -/
  capability_id : CapabilityIdentityMaterial → Identifier
  claims_sha256 : CapabilityClaims → Sha256Digest
  /-- Whether claims attenuate the last of a lineage, or the anchor of the root. -/
  attenuates : TrustedIssuanceState → List SignedCapability → CapabilityClaims → Except Raised Bool
  lineage_allowed : TrustedIssuanceState → List SignedCapability → Bool
  /-- Signature of claims, or the error of the signer. -/
  sign : CapabilityClaims → Except Raised String
  recovery_result_valid : RecoveryCapabilityIssuanceCommandV2 → SignedCapability → Bool

/-- What the issuer reads for one request. -/
structure IssuanceAnswers where
  /-- Identity of the caller, when it is authenticated. -/
  principal : Option String
  /-- First read of the root, which is missing or does not pass inspection as `none`. -/
  state : Except CapabilityIssuanceErrorCode (Option TrustedIssuanceState)
  /-- Second read of the root. -/
  confirmed_state : Except CapabilityIssuanceErrorCode (Option TrustedIssuanceState)
  lineage : Except CapabilityIssuanceErrorCode (List SignedCapability)
  /-- First replay of the sources: the etag that a readback observed, and the rest as text. -/
  sources : Except CapabilityIssuanceErrorCode (OpaqueToken×String)
  confirmed_sources : Except CapabilityIssuanceErrorCode (OpaqueToken×String)

/-- Deny with a code unless a condition holds. -/
def demand (condition : Prop) [Decidable condition] (code : CapabilityIssuanceErrorCode) :
    Except IssuanceFailure Unit :=
  require condition (.denied code)

/-- A denial of a reader as the failure of the issuer. -/
def answered {Value : Type} (answer : Except CapabilityIssuanceErrorCode Value) :
    Except IssuanceFailure Value :=
  answer.mapError .denied

/-- A timestamp of a number of seconds. -/
def utcSecondOf (second : Int) : Except Raised UtcSecond :=
  if h : -62135596800 ≤ second ∧ second≤253402300799 then .ok ⟨second,h⟩
  else .error (.valueError "year is out of range")

section

variable (configuration : CapabilityIssuerConfiguration) (functions : IssuerFunctions)

/-- Require the configured caller. -/
def authorize (principal : Option String) : Except IssuanceFailure Unit := do
  let identity ← requireSome principal (.denied .callerUnauthenticated)
  demand (identity=configuration.authorizedCallerIdentity) .callerUnauthorized

/-- Whether the bounds of a root are those of the configuration and of the signer. -/
def boundsMatch (bounds : RootAuthorityBoundsV1) : Prop :=
  bounds.issuer_identity=configuration.issuerIdentity ∧
  bounds.executor_identity=configuration.subjectIdentity ∧
  bounds.executor_audience=configuration.handler_audience ∧
  bounds.apply_canary.subject_identity=configuration.subjectIdentity ∧
  bounds.apply_canary.audience=configuration.handler_audience ∧
  bounds.promote_candidate.subject_identity=configuration.subjectIdentity ∧
  bounds.promote_candidate.audience=configuration.handler_audience ∧
  bounds.capability_signing_key_version=functions.key_version ∧
  configuration.lifetime_seconds ≤ bounds.maximum_capability_lifetime_seconds

instance (bounds : RootAuthorityBoundsV1) :
    Decidable (boundsMatch configuration functions bounds) :=
  inferInstanceAs (Decidable (_ ∧ _))

/-- Whether a text names the excluded resource. -/
def namesForbiddenResource (text : String) : Bool :=
  (text.toLower.toList).tails.any "reconcile".toList.isPrefixOf

/-- Check one read of a root. -/
def readTrustedState (root_id : Identifier) (issued_second : Int)
    (answer : Except CapabilityIssuanceErrorCode (Option TrustedIssuanceState)) :
    Except IssuanceFailure TrustedIssuanceState := do
  let snapshot ← answered answer
  let state ← requireSome snapshot (.denied .trustedStateInvalid)
  demand (state.root_id=root_id ∧ state.claim_status=.active ∧
    boundsMatch configuration functions state.bounds ∧
    namesForbiddenResource state.stable_revision.1=false ∧
    namesForbiddenResource state.candidate_revision.1=false ∧
    state.approved_at.1 ≤ issued_second ∧ state.claimed_at.1 ≤ issued_second ∧
    state.authority_changed_at.1 ≤ issued_second) .trustedStateInvalid
  return state

/-- Require the digest and the epoch that a request expects. -/
def validateExpectedState (state : TrustedIssuanceState) (root_sha256 : Sha256Digest)
    (epoch : PositiveSafeInteger) : Except IssuanceFailure Unit :=
  demand (state.root_sha256=root_sha256 ∧ state.current_epoch=epoch) .expectedStateMismatch

/-- The lineage of a parent, which ends with it. -/
def resolveLineage (parent_capability_id : Option Identifier)
    (answer : Except CapabilityIssuanceErrorCode (List SignedCapability)) :
    Except IssuanceFailure (List SignedCapability) :=
  match parent_capability_id with
  | none => .ok []
  | some parent => do
    let lineage ← answered answer
    demand (lineage≠[] ∧ lineage.length<16 ∧
      lineage.getLast?.map (fun capability => capability.claims.capability_id)=some parent ∧
      (lineage.map (fun capability => capability.claims.capability_id)).Nodup) .lineageInvalid
    return lineage

/-- Whether one capability of a lineage is in force, and was issued in the window of the one
before it. -/
def lineageStep (state : TrustedIssuanceState) (issued_second : Int)
    (previous : Option CapabilityClaims) (claims : CapabilityClaims) : Prop :=
  claims.issuer.1=configuration.issuerIdentity ∧ state.approved_at.1 ≤ claims.issued_at.1 ∧
  state.authority_changed_at.1 ≤ claims.issued_at.1 ∧ claims.not_before.1 ≤ issued_second ∧
  issued_second<claims.expires_at.1 ∧
  ∀ before∈previous,before.not_before.1 ≤ claims.issued_at.1 ∧
    claims.issued_at.1<before.expires_at.1

instance (state : TrustedIssuanceState) (issued_second : Int)
    (previous : Option CapabilityClaims) (claims : CapabilityClaims) :
    Decidable (lineageStep configuration state issued_second previous claims) :=
  inferInstanceAs (Decidable (_ ∧ _))

/-- Check the capabilities of a lineage in order. -/
def validateLineageSteps (state : TrustedIssuanceState) (issued_second : Int) :
    Option CapabilityClaims → List SignedCapability → Except IssuanceFailure Unit
  | _,[] => .ok ()
  | previous,capability::lineage => do
    demand (lineageStep configuration state issued_second previous capability.claims)
      .lineageInvalid
    validateLineageSteps state issued_second (some capability.claims) lineage

/-- Digest and end of the parent of a new capability, when it has one. -/
def validateParentLineage (state : TrustedIssuanceState) (lineage : List SignedCapability)
    (issued_second : Int) : Except IssuanceFailure (Option (Sha256Digest×UtcSecond)) := do
  validateLineageSteps configuration state issued_second none lineage
  demand (lineage=[] ∨ functions.lineage_allowed state lineage=true) .lineageInvalid
  return lineage.getLast?.map (fun parent => (parent.claims_sha256,parent.claims.expires_at))

/-- What is asked for: action, schedule and the fields that the claims repeat. -/
structure IssuanceSubject where
  action : CapabilityAction
  request_id : Identifier
  idempotency_key : Identifier
  provider_etag : OpaqueToken
  issued_at : UtcSecond
  not_before : UtcSecond
  capability_id : Option Identifier
  latest_end : Option UtcSecond
  parent_digest : Option Sha256Digest

/-- A text of the length that a contract admits. -/
def boundedText (text : String) : Except Raised BoundedText :=
  if h : 1 ≤ text.length ∧ text.length≤2048 then .ok ⟨text,h⟩ else .error .validationError

/-- Claims of a subject on a trusted state. -/
def buildClaims (state : TrustedIssuanceState) (subject : IssuanceSubject)
    (expires_at : UtcSecond) : Except IssuanceFailure CapabilityClaims := do
  let grant := state.bounds.grant subject.action
  let recovery := subject.action=.recoverStable
  let bearer := if recovery then configuration.recoverySubjectIdentity
    else configuration.subjectIdentity
  let audience ← requireSome (if recovery then configuration.recovery_handler_audience
    else some configuration.handler_audience) (.denied .trustedStateInvalid)
  let issuer ← (boundedText configuration.issuerIdentity).mapError .raised
  let bearer_text ← (boundedText bearer).mapError .raised
  let material : CapabilityIdentityMaterial := {
    action := subject.action
    audience := audience
    epoch := state.current_epoch
    expires_at := expires_at
    idempotency_key := subject.idempotency_key
    issued_at := subject.issued_at
    parent_capability_sha256 := subject.parent_digest
    request_id := subject.request_id
    root_id := state.root_id
    root_sha256 := state.root_sha256
    signing_key_version := functions.key_version
    subject := bearer
    target := state.target }
  return {
    capability_id := subject.capability_id.getD (functions.capability_id material)
    issuer := issuer
    subject := bearer_text
    audience := audience
    target := state.target
    root_id := state.root_id
    root_sha256 := state.root_sha256
    epoch := state.current_epoch
    action := subject.action
    stable_revision := state.stable_revision
    candidate_revision := state.candidate_revision
    stable_percent := grant.stable_percent
    candidate_percent := grant.candidate_percent
    concurrency := if recovery then some state.bounds.concurrency else none
    plan_sha256 := state.plan_sha256
    provider_etag := subject.provider_etag
    request_id := subject.request_id
    idempotency_key := subject.idempotency_key
    parent_capability_sha256 := subject.parent_digest
    issued_at := subject.issued_at
    not_before := subject.not_before
    expires_at := expires_at
    signing_key_version := functions.key_version }

/-- End of a window: the lifetime after the issue, or the latest end if that is earlier. -/
def configuredExpiry (issued_second : Int) (latest_end : Option UtcSecond) : Int :=
  match latest_end with
  | none => issued_second+configuration.lifetime_seconds
  | some latest => min (issued_second+configuration.lifetime_seconds) latest.1

/-- Issue a capability for a subject on a trusted state. -/
def issueTrusted (state : TrustedIssuanceState) (subject : IssuanceSubject)
    (lineage : List SignedCapability) : Except IssuanceFailure SignedCapability := do
  let configured_expiry := configuredExpiry configuration subject.issued_at.1 subject.latest_end
  demand (subject.issued_at.1<configured_expiry) .validityExhausted
  let expires_at ← (utcSecondOf configured_expiry).mapError .raised
  let claims ← buildClaims configuration functions state subject expires_at
  let _ ← (validateClaims claims).mapError .raised
  let attenuated ← (functions.attenuates state lineage claims).mapError .raised
  demand (attenuated=true) .lineageInvalid
  let signature ← (functions.sign claims).mapError .raised
  let envelope : SignedCapability := ⟨claims,functions.claims_sha256 claims,signature⟩
  demand (functions.lineage_allowed state (lineage++[envelope])=true) .lineageInvalid
  return envelope

def issue (request : CapabilityIssuanceRequest) (now : UtcSecond) (answers : IssuanceAnswers) :
    Except IssuanceFailure SignedCapability := do
  authorize configuration answers.principal
  let state ← readTrustedState configuration functions request.root_id now.1 answers.state
  validateExpectedState state request.expected_root_sha256 request.expected_epoch
  let lineage ← resolveLineage request.parent_capability_id answers.lineage
  let parent ← validateParentLineage configuration functions state lineage now.1
  let envelope ← issueTrusted configuration functions state {
    action := .applyCanary
    request_id := request.request_id
    idempotency_key := request.idempotency_key
    provider_etag := state.stable_provider_etag
    issued_at := now
    not_before := now
    capability_id := none
    latest_end := parent.map Prod.snd
    parent_digest := parent.map Prod.fst } lineage
  let confirmed ← readTrustedState configuration functions request.root_id now.1
    answers.confirmed_state
  validateExpectedState confirmed request.expected_root_sha256 request.expected_epoch
  demand (confirmed=state) .trustedStateInvalid
  return envelope

def issuePromotion (request : PromotionCapabilityIssuanceRequestV2) (now : UtcSecond)
    (answers : IssuanceAnswers) : Except IssuanceFailure SignedCapability := do
  authorize configuration answers.principal
  let proof_expiry := request.authorization.proof_valid_until
  demand (now.1 ≤ request.scheduled_at.1 ∧
    request.authorization.healthy_promotion_proof.issued_at.1 ≤ now.1 ∧
    minPromotionExecutionMarginSeconds ≤
      configuredExpiry configuration now.1 (some proof_expiry)-request.scheduled_at.1)
    .validityExhausted
  let state ← readTrustedState configuration functions request.root_id now.1 answers.state
  validateExpectedState state request.expected_root_sha256 request.expected_epoch
  let sources ← answered answers.sources
  let envelope ← issueTrusted configuration functions state {
    action := .promoteCandidate
    request_id := request.request_id
    idempotency_key := request.idempotency_key
    provider_etag := sources.1
    issued_at := now
    not_before := request.scheduled_at
    capability_id := some request.authorization.capability_id
    latest_end := some proof_expiry
    parent_digest := none } []
  let confirmed ← readTrustedState configuration functions request.root_id now.1
    answers.confirmed_state
  validateExpectedState confirmed request.expected_root_sha256 request.expected_epoch
  let confirmed_sources ← answered answers.confirmed_sources
  demand (confirmed=state ∧ confirmed_sources=sources) .trustedStateInvalid
  return envelope

/-- Issue a recovery, as of the time that its authorization was derived at. -/
def issueRecovery (request : RecoveryCapabilityIssuanceCommandV2) (now : UtcSecond)
    (answers : IssuanceAnswers) : Except IssuanceFailure SignedCapability := do
  authorize configuration answers.principal
  let proof_expiry := request.authorization.proof_valid_until
  demand (request.issued_at.1 ≤ now.1 ∧ now.1 ≤ request.scheduled_at.1 ∧
    minRecoveryExecutionMarginSeconds ≤
      configuredExpiry configuration request.issued_at.1 (some proof_expiry)-
        request.scheduled_at.1 ∧
    configuration.lifetime_seconds ≤ request.maximum_capability_lifetime_seconds)
    .validityExhausted
  let state ← readTrustedState configuration functions request.root_id now.1 answers.state
  validateExpectedState state request.expected_root_sha256 request.expected_epoch
  let sources ← answered answers.sources
  let envelope ← issueTrusted configuration functions state {
    action := .recoverStable
    request_id := request.request_id
    idempotency_key := request.idempotency_key
    provider_etag := request.authorization.current_provider_etag
    issued_at := request.issued_at
    not_before := request.scheduled_at
    capability_id := some request.capability_id
    latest_end := some proof_expiry
    parent_digest := none } []
  let confirmed ← readTrustedState configuration functions request.root_id now.1
    answers.confirmed_state
  validateExpectedState confirmed request.expected_root_sha256 request.expected_epoch
  let confirmed_sources ← answered answers.confirmed_sources
  demand (confirmed=state ∧ confirmed_sources=sources) .trustedStateInvalid
  demand (functions.recovery_result_valid request envelope=true) .trustedStateInvalid
  return envelope

end

end ControlGraph.CapabilityIssuance
