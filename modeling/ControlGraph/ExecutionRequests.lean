import ControlGraph.ReceiptContracts

/-!
# Verified mutations and the authority they are checked against

A verified mutation carries its task request, the root and anchor it was
verified with, and its caller. The authority of a root is read as a bundle of
four stored records. Derived requests (promotion and recovery) carry the facts
that the final gate checks again. Fields that no modelled function reads are
kept as canonical texts, and the digests and matches that range over whole
contracts are given by a record of pure functions.
-/

namespace ControlGraph.ExecutionRequests

open Checks ContractText Utf8Text StorageIdentity ReceiptContracts

/-- Versions of a content-addressed root. -/
inductive RolloutRootVersion
  | v2 | v3
  deriving DecidableEq,Repr

/-- A content-addressed rollout root. -/
structure RolloutRoot where
  version : RolloutRootVersion
  root_id : Identifier
  root_sha256 : Sha256Digest
  target : TargetBinding
  concurrency : Nat
  content : String
  deriving DecidableEq

/-- One read of the authority of a root. -/
structure RootAuthorityBundle where
  root : StoredRecord RolloutRoot
  service_claim : StoredRecord ServiceClaimRecord
  authority : StoredRecord EpochAuthorityRecord
  lineage_anchor : StoredRecord String
  deriving DecidableEq

/-- The validated authority of a root. -/
structure TrustedRootAuthority where
  root : RolloutRoot
  service_claim : ServiceClaimRecord
  authority : EpochAuthorityRecord
  lineage_anchor : String
  service_claim_revision : Nat
  authority_revision : Nat
  deriving DecidableEq

/-- Where a recovery comes from. -/
inductive RecoverySource
  | unhealthy
  /-- An operator revocation of a version-two root, with its authority. -/
  | revokedV2 (authority : EpochAuthorityRecord)
  /-- An operator revocation of a version-three root, with its authority. -/
  | revokedV3 (authority : EpochAuthorityRecord)
  deriving DecidableEq

/-- The authority of an operator revocation. -/
def RecoverySource.revokedAuthority : RecoverySource → Option EpochAuthorityRecord
  | .unhealthy => none
  | .revokedV2 authority => some authority
  | .revokedV3 authority => some authority

/-- What derived work is bound to. -/
structure DerivedWork where
  expected_prestate_sha256 : Sha256Digest
  desired_poststate_sha256 : Sha256Digest
  proof_valid_until : UtcSecond
  apply_idempotency_key : Identifier
  apply_epoch : PositiveSafeInteger
  deriving DecidableEq

/-- Kinds of protected requests. -/
inductive RequestKind
  | task
  | promotion (work : DerivedWork)
  | recovery (work : DerivedWork) (source : RecoverySource)
  deriving DecidableEq

/-- Work that an earlier apply receipt authorizes. -/
def RequestKind.work : RequestKind → Option DerivedWork
  | .task => none
  | .promotion work => some work
  | .recovery work _ => some work

/-- The mutation that a request asks for. -/
structure MutationIntent where
  request_id : Identifier
  idempotency_key : Identifier
  target : TargetBinding
  root_id : Identifier
  root_sha256 : Sha256Digest
  epoch : PositiveSafeInteger
  action : CapabilityAction
  stable_revision : CloudRunName
  candidate_revision : CloudRunName
  stable_percent : Nat
  candidate_percent : Nat
  concurrency : Option Nat
  plan_sha256 : Sha256Digest
  provider_etag : OpaqueToken
  deriving DecidableEq

/-- A signed capability. -/
structure SignedCapability where
  audience : String
  /-- Start of the capability window. -/
  not_before : UtcSecond
  /-- End of the capability window. -/
  expires_at : UtcSecond
  claims_sha256 : Sha256Digest
  /-- Canonical text of the rest. -/
  others : String
  deriving DecidableEq

/-- A task request, a promotion request or a recovery request. -/
structure ProtectedMutationRequest where
  kind : RequestKind
  handler_audience : String
  /-- Start of the task window. -/
  scheduled_at : UtcSecond
  /-- End of the task window. -/
  expires_at : UtcSecond
  capability : SignedCapability
  intent : MutationIntent
  /-- Canonical text of the rest. -/
  others : String
  deriving DecidableEq

/-- Identities of the control path. -/
inductive CallerRole
  | operator | api | coordinator | issuer | executor | recovery | verifier | evidenceWriter
  | advisor | executionTaskCaller | recoveryTaskCaller | retentionSweeper | securityAuditor
  | restrictedExporter
  deriving DecidableEq,Repr

/-- Verified caller of a request. -/
structure AuthenticationContext where
  role : CallerRole
  /-- Mail address of the caller. -/
  email : String
  subject : String
  issuer : String
  audience : String
  issued_at : Int
  expires_at : Int
  deriving DecidableEq

/-- Caller that a route admits. -/
structure RouteAuthenticationPolicy where
  role : CallerRole
  /-- Mail address of the caller. -/
  email : String
  subject : String
  audience : String
  deriving DecidableEq

/-- Task authority that was verified before any side effect. -/
structure VerifiedMutation where
  request : ProtectedMutationRequest
  root : RolloutRoot
  lineage_anchor : String
  caller : AuthenticationContext
  capability_sha256 : Sha256Digest
  claims_sha256 : Sha256Digest
  earliest_lineage_issued_at : Int
  deriving DecidableEq

/-- Target state that a mutation leads to. -/
structure TargetConfigurationProjection where
  target : TargetBinding
  stable_revision : CloudRunName
  candidate_revision : CloudRunName
  stable_percent : Nat
  candidate_percent : Nat
  concurrency : Nat
  deriving DecidableEq

/-- Pure functions over whole contracts. -/
structure ContractFunctions where
  sha256 : Bytes → Sha256Digest
  contentSha256 : RolloutRoot → Option Sha256Digest
  capabilityLineageAnchor : RolloutRoot → Option String
  serviceClaimMatchesRoot : ServiceClaimRecord → RolloutRoot → Bool
  requestSha256 : ProtectedMutationRequest → Sha256Digest
  capabilitySha256 : SignedCapability → Sha256Digest
  promotionRequestMatchesRoot : ProtectedMutationRequest → RolloutRoot → Bool
  recoveryRequestMatchesRoot : ProtectedMutationRequest → RolloutRoot → Bool
  rootConfigurationSha256 : RolloutRoot → Nat → Nat → Sha256Digest
  projectionSha256 : TargetConfigurationProjection → Sha256Digest
  sourceReceiptDenial : ProtectedMutationRequest → StoredRecord ExecutionReceipt → Option ReasonCode

/-- Checks of the constructor of a target state. -/
def TargetConfigurationProjection.make (projection : TargetConfigurationProjection) :
    Except Raised TargetConfigurationProjection := do
  require (projection.stable_revision≠projection.candidate_revision)
    (.valueError "target configuration revisions must differ")
  require ((projection.target.service_name.1++"-").toList.isPrefixOf
        projection.stable_revision.1.toList=true ∧
      (projection.target.service_name.1++"-").toList.isPrefixOf
        projection.candidate_revision.1.toList=true)
    (.valueError "target configuration revisions do not belong to the target service")
  require (projection.stable_percent ≤ 100 ∧ projection.candidate_percent ≤ 100 ∧
      projection.stable_percent+projection.candidate_percent=100)
    (.valueError "target configuration traffic is invalid")
  require (1 ≤ projection.concurrency ∧ projection.concurrency ≤ 1000)
    (.valueError "target configuration concurrency is invalid")
  return projection

/-- The target state at a traffic split of the revisions of an intent. -/
def MutationIntent.projection (intent : MutationIntent)
    (stable_percent candidate_percent concurrency : Nat) : TargetConfigurationProjection where
  target := intent.target
  stable_revision := intent.stable_revision
  candidate_revision := intent.candidate_revision
  stable_percent := stable_percent
  candidate_percent := candidate_percent
  concurrency := concurrency

variable (functions : ContractFunctions)

/-- Digests that the projection of derived work must have. -/
def checkProjectedStates (kind : RequestKind) (intent : MutationIntent)
    (expected_concurrency : Nat) (projected : TargetConfigurationProjection) :
    Except Raised Unit := do
  match kind with
  | .task => return ()
  | .promotion work =>
    require (functions.projectionSha256 projected=work.desired_poststate_sha256)
      (.valueError "V2 promotion intent does not bind its desired poststate")
  | .recovery work _ =>
    let expected_prestate ← (intent.projection 90 10 expected_concurrency).make
    require (functions.projectionSha256 projected=work.desired_poststate_sha256 ∧
        functions.projectionSha256 expected_prestate=work.expected_prestate_sha256)
      (.valueError "V2 recovery intent does not bind exact traffic states")

/-- Project the target state of an intent. -/
def targetConfigurationProjection (kind : RequestKind) (intent : MutationIntent)
    (expected_concurrency : Nat) : Except Raised TargetConfigurationProjection := do
  require (kind=.task → intent.action≠.recoverStable)
    (.valueError "legacy recovery intent is not admitted")
  require (∀ concurrency∈intent.concurrency,concurrency=expected_concurrency)
    (.valueError "mutation intent concurrency does not match the expected concurrency")
  match kind with
  | .task => pure ()
  | .promotion _ =>
    require (intent.action=.promoteCandidate ∧ intent.stable_percent=0 ∧
        intent.candidate_percent=100 ∧ intent.concurrency=none)
      (.valueError "V2 promotion intent does not describe exact candidate traffic")
  | .recovery _ _ =>
    require (intent.action=.recoverStable ∧ intent.stable_percent=100 ∧
        intent.candidate_percent=0 ∧ intent.concurrency=some expected_concurrency)
      (.valueError "V2 recovery intent does not describe exact stable traffic")
  let projected ← (intent.projection intent.stable_percent intent.candidate_percent
    expected_concurrency).make
  checkProjectedStates functions kind intent expected_concurrency projected
  return projected

/-- Digest of the target state of an intent. -/
def targetConfigurationSha256 (kind : RequestKind) (intent : MutationIntent)
    (expected_concurrency : Nat) : Except Raised Sha256Digest := do
  let projected ← targetConfigurationProjection functions kind intent expected_concurrency
  return functions.projectionSha256 projected

/-- Require the states of derived work to be those of its root. -/
def checkRootStates (request : ProtectedMutationRequest) (root : RolloutRoot) :
    Except Raised Unit :=
  match request.kind with
  | .task =>
    require (request.intent.action≠.recoverStable)
      (.valueError "recovery requires the exact V2 recovery task request")
  | .promotion work => do
    require (root.version=.v3)
      (.valueError "V2 promotion receipt execution requires an exact V3 root")
    require (work.expected_prestate_sha256=functions.rootConfigurationSha256 root 90 10 ∧
        work.desired_poststate_sha256=functions.rootConfigurationSha256 root 0 100)
      (.valueError "V2 promotion receipt state is outside the V3 root")
  | .recovery work _ =>
    require (work.expected_prestate_sha256=functions.rootConfigurationSha256 root 90 10 ∧
        work.desired_poststate_sha256=functions.rootConfigurationSha256 root 100 0)
      (.valueError "V2 recovery receipt state is outside its root")

/-- The target state that a verified mutation must lead to. -/
def expectedTargetState (verified : VerifiedMutation) :
    Except Raised TargetConfigurationProjection := do
  let request := verified.request
  checkRootStates functions request verified.root
  let projected ← targetConfigurationProjection functions request.kind request.intent
    verified.root.concurrency
  let poststate ← targetConfigurationSha256 functions request.kind request.intent
    projected.concurrency
  require (∀ work∈request.kind.work,poststate=work.desired_poststate_sha256)
    (.valueError "V2 receipt poststate is not authorized")
  return projected

def mutationBinding (verified : VerifiedMutation) (expected_state : TargetConfigurationProjection) :
    Except Raised MutationBinding := do
  let request := verified.request
  let intent := request.intent
  let poststate ← targetConfigurationSha256 functions request.kind intent expected_state.concurrency
  return {
    idempotency_key := intent.idempotency_key.1
    request_id := intent.request_id.1
    root_id := intent.root_id.1
    root_sha256 := intent.root_sha256
    epoch := intent.epoch.1
    action := intent.action
    target := intent.target.key
    provider_precondition := intent.provider_etag.1
    plan_sha256 := intent.plan_sha256
    capability_sha256 := verified.capability_sha256
    payload_sha256 := functions.requestSha256 request
    expected_poststate_sha256 := poststate }

end ControlGraph.ExecutionRequests
