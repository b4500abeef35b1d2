import ControlGraph.RecoveryContracts
import ControlGraph.ClaimFence

/-!
# Contracts of an abandoned recovery

An operator abandons one recovery whose dispatch has expired without a receipt.
The fence commit turns the dispatch ambiguous, moves the claim of the root to a
version that only this path writes, and ends the epoch. Two signed events and a
progress record repeat the transition. The state that a caller has read carries
every record that the commit is checked against.
-/

namespace ControlGraph.AbandonmentContracts

open Checks ContractText JsonValues JsonText Utf8Text RootContracts RevocationContracts
  AuthorityDatabase ClaimFence RecoveryContracts

open StorageIdentity (asciiBytes)

open ReceiptStore (isServiceClaimTarget)

open ReceiptContracts hiding ServiceClaimRecord

/-- An abandonment that an operator confirms. -/
structure RecoveryAbandonmentCommandV1 where
  root_id : Identifier
  expected_root_sha256 : Sha256Digest
  expected_epoch : PositiveSafeInteger
  recovery_dispatch_id : Identifier
  expected_dispatch_sha256 : Sha256Digest
  reason : BoundedText
  request_id : Identifier
  idempotency_key : Identifier
  root_identity : root_id.1="cgroot:"++expected_root_sha256.1
  deriving DecidableEq

/-- An abandonment with the operator that the API has authenticated. -/
structure RecoveryAbandonmentInvocationV1 where
  command : RecoveryAbandonmentCommandV1
  operator_identity : BoundedText
  operator_subject : GoogleSubject
  token : String
  deriving DecidableEq

/-- Digest of everything that the operator of an abandonment controls. -/
def recoveryAbandonmentRequestSha256 (sha256 : Bytes → Sha256Digest)
    (invocation : RecoveryAbandonmentInvocationV1) : Sha256Digest :=
  let command := invocation.command
  sha256 (asciiBytes "controlgraph.recovery-abandonment-request/v1"++[0]++
    utf8Bytes (dumpsSorted (.obj
      [(chars "confirmation",.str (chars "ABANDON_AMBIGUOUS_RECOVERY")),
        (chars "expected_dispatch_sha256",.str (chars command.expected_dispatch_sha256.1)),
        (chars "expected_epoch",.int command.expected_epoch.1),
        (chars "expected_root_sha256",.str (chars command.expected_root_sha256.1)),
        (chars "idempotency_key",.str (chars command.idempotency_key.1)),
        (chars "operator_identity",.str (chars invocation.operator_identity.1)),
        (chars "operator_subject",.str (chars invocation.operator_subject.1)),
        (chars "reason",.str (chars command.reason.1)),
        (chars "recovery_dispatch_id",.str (chars command.recovery_dispatch_id.1)),
        (chars "request_id",.str (chars command.request_id.1)),
        (chars "root_id",.str (chars command.root_id.1)),
        (chars "schema_version",.str (chars "controlgraph.recovery-abandonment-request/v1"))])))

/-- Stages of an abandonment. -/
inductive AbandonmentStage
  | ambiguity | fence | classification | release
  deriving DecidableEq,Repr

def AbandonmentStage.value : AbandonmentStage → String
  | .ambiguity => "ambiguity"
  | .fence => "fence"
  | .classification => "classification"
  | .release => "release"

def recoveryAbandonmentEvidenceId (sha256 : Bytes → Sha256Digest) (request_sha256 : Sha256Digest)
    (stage : AbandonmentStage) : String :=
  "cgevidence:"++(sha256 (asciiBytes "controlgraph.recovery-abandonment-evidence-id/v1"++[0]++
    asciiBytes stage.value++[0]++asciiBytes request_sha256.1)).1

/-- What the evidence of an abandoned dispatch is about. -/
structure RecoveryAbandonmentEvidenceSubjectV1 where
  target : TargetBinding
  root_id : Identifier
  root_sha256 : Sha256Digest
  request_sha256 : Sha256Digest
  recovery_dispatch_id : Identifier
  previous_dispatch_sha256 : Sha256Digest
  ambiguous_dispatch_sha256 : Sha256Digest
  previous_dispatch_revision : Nat
  ambiguous_dispatch_revision : Nat
  task_id : Identifier
  task_name : BoundedText
  task_sha256 : Sha256Digest
  capability_id : Identifier
  capability_sha256 : Sha256Digest
  task_expires_at : UtcSecond
  recovery_receipt_id : Identifier
  reason : BoundedText
  operator_identity : BoundedText
  operator_subject : GoogleSubject
  evidence_id : Identifier
  abandoned_at : UtcSecond
  deriving DecidableEq

/-- What the evidence of the fence is about. -/
structure RecoveryAbandonmentFenceSubjectV1 where
  target : TargetBinding
  root_id : Identifier
  root_sha256 : Sha256Digest
  request_sha256 : Sha256Digest
  request_id : Identifier
  idempotency_key : Identifier
  operator_identity : BoundedText
  operator_subject : GoogleSubject
  abandonment_evidence_id : Identifier
  abandonment_evidence_sha256 : Sha256Digest
  previous_claim_sha256 : Sha256Digest
  replacement_claim_sha256 : Sha256Digest
  previous_authority_sha256 : Sha256Digest
  replacement_authority_sha256 : Sha256Digest
  previous_epoch : PositiveSafeInteger
  new_epoch : PositiveSafeInteger
  evidence_id : Identifier
  fenced_at : UtcSecond
  deriving DecidableEq

/-- Kinds of identities that an abandonment claims. -/
inductive RecoveryAbandonmentIdentityKind
  | request | idempotency
  deriving DecidableEq,Repr

/-- An identity that an abandonment claims. -/
structure RecoveryAbandonmentIdentityV1 where
  identity_kind : RecoveryAbandonmentIdentityKind
  identity_value : Identifier
  root_id : Identifier
  root_sha256 : Sha256Digest
  request_sha256 : Sha256Digest
  result_id : Identifier
  claimed_at : UtcSecond
  deriving DecidableEq

/-- The winner of a fence. -/
structure RecoveryAbandonmentProgressV1 where
  result_id : Identifier
  request_sha256 : Sha256Digest
  request_id : Identifier
  idempotency_key : Identifier
  root_id : Identifier
  root_sha256 : Sha256Digest
  target : TargetBinding
  recovery_dispatch_id : Identifier
  previous_dispatch_sha256 : Sha256Digest
  ambiguous_dispatch_sha256 : Sha256Digest
  recovery_receipt_id : Identifier
  abandonment_evidence_id : Identifier
  abandonment_evidence_sha256 : Sha256Digest
  /-- What that evidence is about. -/
  abandonment_subject : RecoveryAbandonmentEvidenceSubjectV1
  fence_evidence_id : Identifier
  fence_evidence_sha256 : Sha256Digest
  /-- What that evidence is about. -/
  fence_subject : RecoveryAbandonmentFenceSubjectV1
  fenced_epoch : PositiveSafeInteger
  fenced_authority_revision : Nat
  fenced_at : UtcSecond
  deriving DecidableEq

/-- Proof that an expired recovery of unknown outcome was abandoned. -/
structure ServiceClaimAbandonmentProofV1 where
  target : TargetBinding
  root_id : Identifier
  root_sha256 : Sha256Digest
  required_stable_baseline_configuration_sha256 : Sha256Digest
  recovery_dispatch_id : Identifier
  recovery_dispatch_sha256 : Sha256Digest
  recovery_dispatch_revision : Nat
  recovery_receipt_id : Identifier
  evidence_id : Identifier
  evidence_sha256 : Sha256Digest
  confirmed_at : UtcSecond
  deriving DecidableEq

/-- Proof of the stable state behind an abandonment. -/
structure ServiceClaimStableBaselineProofV1 where
  target : TargetBinding
  root_id : Identifier
  root_sha256 : Sha256Digest
  fenced_epoch : PositiveSafeInteger
  fenced_authority_revision : Nat
  service_generation : Nat
  provider_etag : OpaqueToken
  target_configuration_sha256 : Sha256Digest
  evidence_id : Identifier
  evidence_sha256 : Sha256Digest
  classified_by : BoundedText
  classified_at : UtcSecond
  deriving DecidableEq

/-- Fields of a claim in the version of an abandonment. -/
structure ServiceClaimRecordV3Fields where
  /-- What never changes while one root owns the claim. -/
  ownership : ClaimOwnershipBinding
  status : ServiceClaimStatus
  release_fence_epoch : Option PositiveSafeInteger
  release_fence_authority_revision : Option Nat
  release_fenced_by : Option BoundedText
  release_fence_request_id : Option Identifier
  release_fence_evidence_id : Option Identifier
  release_fenced_at : Option UtcSecond
  released_by : Option Unit
  release_request_id : Option Identifier
  release_evidence_id : Option Identifier
  released_at : Option UtcSecond
  terminal_root_proof : Option ServiceClaimAbandonmentProofV1
  target_classification_proof : Option ServiceClaimStableBaselineProofV1
  deriving DecidableEq

/-- Values that fence a claim after an abandonment. -/
structure AbandonmentFenceValues where
  epoch : PositiveSafeInteger
  revision : Nat
  request_id : Identifier
  evidence_id : Identifier
  fenced_at : UtcSecond
  abandonment : ServiceClaimAbandonmentProofV1

/-- Values of a release after an abandonment. -/
structure AbandonmentReleaseValues where
  request_id : Identifier
  evidence_id : Identifier
  released_at : UtcSecond
  /-- Proof of the stable state. -/
  classification : ServiceClaimStableBaselineProofV1

namespace ServiceClaimRecordV3Fields

variable (claim : ServiceClaimRecordV3Fields)

/-- The epoch fence of a claim. -/
def fence : Option AbandonmentFenceValues := do
  let epoch ← claim.release_fence_epoch
  let revision ← claim.release_fence_authority_revision
  let _ ← claim.release_fenced_by
  let request_id ← claim.release_fence_request_id
  let evidence_id ← claim.release_fence_evidence_id
  let fenced_at ← claim.release_fenced_at
  let abandonment ← claim.terminal_root_proof
  return ⟨epoch,revision,request_id,evidence_id,fenced_at,abandonment⟩

def finalRelease : Option AbandonmentReleaseValues := do
  let _ ← claim.released_by
  let request_id ← claim.release_request_id
  let evidence_id ← claim.release_evidence_id
  let released_at ← claim.released_at
  let classification ← claim.target_classification_proof
  return ⟨request_id,evidence_id,released_at,classification⟩

/-- Whether a claim has no value of a final release. -/
def notReleased : Prop :=
  claim.released_by=none ∧ claim.release_request_id=none ∧ claim.release_evidence_id=none ∧
    claim.released_at=none ∧ claim.target_classification_proof=none

instance : Decidable claim.notReleased := by
  unfold notReleased
  infer_instance

end ServiceClaimRecordV3Fields

/-- Check the release of a claim behind the fence of an abandonment. -/
def validateAbandonmentRelease (claim : ServiceClaimRecordV3Fields) (fence : AbandonmentFenceValues)
    (release : AbandonmentReleaseValues) : Except Raised Unit := do
  let ownership := claim.ownership
  let classification := release.classification
  require (classification.target=ownership.target ∧ classification.root_id=ownership.root_id ∧
      classification.root_sha256=ownership.root_sha256 ∧
      classification.target_configuration_sha256=ownership.stable_target_configuration_sha256 ∧
      classification.fenced_epoch=fence.epoch ∧
      classification.fenced_authority_revision=fence.revision ∧
      ownership.baseline_service_generation < classification.service_generation ∧
      classification.evidence_sha256≠fence.abandonment.evidence_sha256 ∧
      release.request_id=fence.request_id)
    (.valueError "stable baseline proof does not match abandonment")
  require ([ownership.claim_evidence_id,fence.abandonment.evidence_id,fence.evidence_id,
      classification.evidence_id,release.evidence_id].Nodup)
    (.valueError "abandonment transition evidence must be independent")
  require (fence.fenced_at.1 ≤ classification.classified_at.1 ∧
      classification.classified_at.1 ≤ release.released_at.1)
    (.valueError "abandonment release proof times are not ordered")

/-- Check the lifecycle of a claim in the version of an abandonment. -/
def validateAbandonmentLifecycle (claim : ServiceClaimRecordV3Fields) : Except Raised Unit := do
  let ownership := claim.ownership
  require (isServiceClaimTarget ownership.target=true)
    (.valueError "service claim target is outside the ControlGraph boundary")
  require (claim.status≠.active) (.valueError "V3 abandonment claims cannot be active")
  require (ownership.operator_owner.1≠workloadCreator)
    (.valueError "service claim operator and workload identities must differ")
  require (ownership.stable_revision≠ownership.candidate_revision)
    (.valueError "service claim revisions must differ")
  require (isServiceRevision ownership.target ownership.stable_revision=true ∧
      isServiceRevision ownership.target ownership.candidate_revision=true)
    (.valueError "service claim revisions are outside the target service")
  let fence ← requireSome claim.fence
    (.valueError "abandonment claim requires a complete epoch fence")
  require (claim.status=.releasing → claim.notReleased)
    (.valueError "releasing abandonment claim cannot be final")
  require (claim.status=.released → claim.finalRelease.isSome=true)
    (.valueError "released abandonment claim requires final proof")
  let abandonment := fence.abandonment
  require (abandonment.target=ownership.target ∧ abandonment.root_id=ownership.root_id ∧
      abandonment.root_sha256=ownership.root_sha256 ∧
      abandonment.required_stable_baseline_configuration_sha256=
        ownership.stable_target_configuration_sha256)
    (.valueError "abandonment proof does not match the claim")
  require (ownership.initial_epoch.1 < fence.epoch.1 ∧
      fence.revision=fence.epoch.1-ownership.initial_epoch.1 ∧
      ownership.claimed_at.1 ≤ abandonment.confirmed_at.1 ∧
      abandonment.confirmed_at.1 ≤ fence.fenced_at.1 ∧ abandonment.evidence_id≠fence.evidence_id)
    (.valueError "abandonment fence is not a later authority transition")
  match claim.status,claim.finalRelease with
  | .released,some release => validateAbandonmentRelease claim fence release
  | _,_ => return ()

/-- A claim in the version of an abandonment whose lifecycle was accepted. -/
structure ServiceClaimRecordV3 extends fields : ServiceClaimRecordV3Fields where
  accepted : validateAbandonmentLifecycle fields=.ok ()

instance : DecidableEq ServiceClaimRecordV3 := fun first second =>
  decidable_of_iff (first.fields=second.fields) ⟨fun h => by
    cases first
    cases second
    cases h
    rfl,fun h => congrArg ServiceClaimRecordV3.fields h⟩

/-- The two versions of a stored claim. -/
inductive ServiceClaimRecordValue
  | first (claim : ServiceClaimRecord)
  | third (claim : ServiceClaimRecordV3)
  deriving DecidableEq

/-- Recovery abandonment contracts that are hashed as a whole. -/
inductive AbandonmentContract
  | evidenceSubject (subject : RecoveryAbandonmentEvidenceSubjectV1)
  | fenceSubject (subject : RecoveryAbandonmentFenceSubjectV1)
  | claim (claim : ServiceClaimRecordV3)

/-- Digests of the contracts of an abandonment. -/
structure AbandonmentFunctions where
  recovery : RecoveryFunctions
  authority : AuthorityFunctions
  contractSha256 : AbandonmentContract → Sha256Digest

/-- The records of one root with either version of its claim. -/
structure AbandonmentRootBundle where
  root : StoredRecord RolloutRootV3
  service_claim : StoredRecord ServiceClaimRecordValue
  authority : StoredRecord EpochAuthorityRecord
  lineage_anchor : StoredRecord CapabilityLineageAnchorV1
  signed_evidence : StoredRecord SignedEvidenceEventV1
  creation_result : StoredRecord RootCreationResultV2

/-- Records of one root whose claim has the given value. -/
def AbandonmentRootBundle.withClaim (bundle : AbandonmentRootBundle) (claim : ServiceClaimRecord) :
    RootCreationBundle where
  root := bundle.root
  service_claim := ⟨claim,bundle.service_claim.revision,bundle.service_claim.revision_bound⟩
  authority := bundle.authority
  lineage_anchor := bundle.lineage_anchor
  signed_evidence := bundle.signed_evidence
  creation_result := bundle.creation_result

variable (functions : AbandonmentFunctions)

/-- One view of the whole lifecycle of an abandonment. -/
structure RecoveryAbandonmentState where
  invocation : RecoveryAbandonmentInvocationV1
  root_bundle : Option AbandonmentRootBundle
  recovery_intent : Option (StoredRecord (RecoveryIntentV1 functions.recovery))
  recovery_dispatch : Option (StoredRecord (RecoveryDispatchRecordV2 functions.recovery))
  recovery_receipt : Option (StoredRecord ExecutionReceipt)
  chain_head : Option (StoredRecord EvidenceChainHeadV1)
  head_evidence : Option (StoredRecord SignedEvidenceEventV1)
  abandonment_evidence : Option (StoredRecord SignedEvidenceEventV1)
  fence_evidence : Option (StoredRecord SignedEvidenceEventV1)
  classification_evidence : Option (StoredRecord SignedEvidenceEventV1)
  release_evidence : Option (StoredRecord SignedEvidenceEventV1)
  request_identity : Option (StoredRecord RecoveryAbandonmentIdentityV1)
  idempotency_identity : Option (StoredRecord RecoveryAbandonmentIdentityV1)
  progress : Option (StoredRecord RecoveryAbandonmentProgressV1)
  result : Bool

/-- The documents of one fence. -/
structure RecoveryAbandonmentFenceCommitV1 where
  replacement_dispatch : RecoveryDispatchRecordV2 functions.recovery
  replacement_claim : ServiceClaimRecordV3
  replacement_authority : EpochAuthorityRecord
  abandonment_subject : RecoveryAbandonmentEvidenceSubjectV1
  abandonment_evidence : SignedEvidenceEventV1
  fence_subject : RecoveryAbandonmentFenceSubjectV1
  fence_evidence : SignedEvidenceEventV1
  chain_head : EvidenceChainHeadV1
  progress : RecoveryAbandonmentProgressV1
  request_identity : RecoveryAbandonmentIdentityV1
  idempotency_identity : RecoveryAbandonmentIdentityV1

end ControlGraph.AbandonmentContracts
