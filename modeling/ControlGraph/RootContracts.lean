import Mathlib.Tactic.MkIffOfInductiveProp
import ControlGraph.ReceiptStore

/-!
# Roots, evidence events and service claims

A rollout root is addressed by the digest of its content. Its first records
are created together with one signed evidence event, and every later change of
its authority appends events behind a head that names the last one. A service
claim is the ownership of one service by one root: active, then releasing
behind an epoch fence, then released with the proof of an independent reader.
-/

namespace ControlGraph.RootContracts

open Checks ContractText StorageIdentity ReceiptContracts ReceiptStore

/-- Whether a text is the subject number of an account. -/
def isGoogleSubject (text : String) : Bool :=
  match text.toList with
  | [] => false
  | first::rest => isDecimal first && first != '0' && rest.all isDecimal && 5 ≤ rest.length &&
      rest.length≤31

/-- Subject number of an account. -/
abbrev GoogleSubject := {text : String // isGoogleSubject text=true}

theorem firstSubject : isGoogleSubject "100001"=true := by decide

/-- Kinds of evidence events. -/
inductive EvidenceKind
  | rootCreated | capabilityIssued | epochAdvanced | deliveryAuthenticated | capabilityVerified
  | receiptClaimed | mutationApplied | targetVerified | executionDenied | outcomeAmbiguous
  deriving DecidableEq,Repr

/-- Fields of an evidence event. -/
structure EvidenceEventFields where
  evidence_id : Identifier
  /-- Place of the event in the chain of its root. -/
  sequence : Nat
  root_id : Identifier
  root_sha256 : Sha256Digest
  target : TargetBinding
  epoch : PositiveSafeInteger
  kind : EvidenceKind
  actor : BoundedText
  request_id : Option Identifier
  receipt_id : Option Identifier
  occurred_at : UtcSecond
  subject_sha256 : Sha256Digest
  previous_event_sha256 : Option Sha256Digest
  reason_code : Option ReasonCode
  provider_operation : Option BoundedText
  target_configuration_sha256 : Option Sha256Digest
  deriving DecidableEq

/-- Check the shape of an evidence event. -/
def validateEventShape (event : EvidenceEventFields) : Except Raised Unit := do
  require (event.sequence ≤ maxRevision) .validationError
  require (event.sequence=0 ↔ event.previous_event_sha256=none)
    (.valueError "evidence chain predecessor does not match sequence")
  require (event.kind=.executionDenied → event.reason_code≠none)
    (.valueError "denial evidence requires a reason")
  require (event.kind≠.executionDenied → event.reason_code=none)
    (.valueError "non-denial evidence cannot carry a denial reason")
  require (event.kind=.mutationApplied → event.provider_operation≠none)
    (.valueError "mutation evidence requires a provider operation")
  require (event.kind=.targetVerified → event.target_configuration_sha256≠none)
    (.valueError "verification evidence requires a target configuration digest")

/-- An evidence event whose shape was accepted. -/
structure EvidenceEvent extends fields : EvidenceEventFields where
  accepted : validateEventShape fields=.ok ()

instance : DecidableEq EvidenceEvent := fun first second =>
  decidable_of_iff (first.fields=second.fields) ⟨fun h => by
    cases first
    cases second
    cases h
    rfl,fun h => congrArg EvidenceEvent.fields h⟩

/-- An evidence event with its signature. The bindings of the signature are kept as
their canonical text. -/
structure SignedEvidenceEventV1 where
  event : EvidenceEvent
  signing_key_version : String
  signature : String
  deriving DecidableEq

/-- Fields of the head of an evidence chain. -/
structure EvidenceChainHeadFields where
  root_id : Identifier
  root_sha256 : Sha256Digest
  target : TargetBinding
  sequence : Nat
  /-- Identity of the last event. -/
  evidence_id : Identifier
  evidence_sha256 : Sha256Digest
  kind : EvidenceKind
  epoch : PositiveSafeInteger
  updated_at : UtcSecond
  deriving DecidableEq

def validateHead (head : EvidenceChainHeadFields) : Except Raised Unit := do
  require (head.sequence ≤ maxRevision) .validationError
  require (head.sequence=0 ↔ head.kind=.rootCreated)
    (.valueError "only sequence-zero evidence can identify root creation")
  require (head.sequence=0 → head.epoch.1=1)
    (.valueError "sequence-zero evidence head must identify epoch one")

/-- Pointer to the last event of one root. -/
structure EvidenceChainHeadV1 extends fields : EvidenceChainHeadFields where
  accepted : validateHead fields=.ok ()

theorem EvidenceChainHeadV1.ext_fields {first second : EvidenceChainHeadV1}
    (h : first.fields=second.fields) : first=second := by
  cases first
  cases second
  cases h
  rfl

instance : DecidableEq EvidenceChainHeadV1 := fun first second =>
  decidable_of_iff (first.fields=second.fields)
    ⟨EvidenceChainHeadV1.ext_fields,fun h => congrArg EvidenceChainHeadV1.fields h⟩

def EvidenceChainHeadV1.make (fields : EvidenceChainHeadFields) :
    Except Raised EvidenceChainHeadV1 :=
  match h : validateHead fields with
  | .ok _ => .ok ⟨fields,h⟩
  | .error raised => .error raised

/-- Observed stable state of a service. -/
structure StableSnapshot where
  target : TargetBinding
  stable_revision : CloudRunName
  concurrency : Nat
  service_generation : Nat
  provider_etag : OpaqueToken
  configuration_sha256 : Sha256Digest
  stable_revision_configuration_sha256 : Sha256Digest
  captured_at : UtcSecond
  /-- Who observed the service. -/
  captured_by : BoundedText
  traffic : String
  deriving DecidableEq

/-- One exact rollout plan. -/
structure RolloutPlanV1 where
  target : TargetBinding
  stable_snapshot_sha256 : Sha256Digest
  stable_revision : CloudRunName
  stable_revision_configuration_sha256 : Sha256Digest
  candidate_revision : CloudRunName
  candidate_revision_configuration_sha256 : Sha256Digest
  concurrency : Nat
  health_policy_sha256 : Sha256Digest
  deriving DecidableEq

/-- Epoch that every plan starts with. -/
def RolloutPlanV1.initial_epoch (_plan : RolloutPlanV1) : PositiveSafeInteger := firstEpoch

/-- Content of a rollout root. The health policy and the authority bounds are kept as
their canonical text. -/
structure RolloutRootContentV3 where
  target : TargetBinding
  stable_snapshot : StableSnapshot
  health_policy : String
  rollout_plan : RolloutPlanV1
  authority_bounds : String
  evidence_signing_key_version : String
  approved_by : BoundedText
  approved_by_subject : GoogleSubject
  approved_at : UtcSecond
  deriving DecidableEq

/-- A rollout root. -/
structure RolloutRootV3 where
  root_id : Identifier
  root_sha256 : Sha256Digest
  content : RolloutRootContentV3
  deriving DecidableEq

/-- Maximum authority that the first capability of a root inherits. -/
structure CapabilityLineageAnchorV1 where
  root_id : Identifier
  root_sha256 : Sha256Digest
  target : TargetBinding
  stable_snapshot_sha256 : Sha256Digest
  stable_revision : CloudRunName
  stable_revision_configuration_sha256 : Sha256Digest
  candidate_revision : CloudRunName
  candidate_revision_configuration_sha256 : Sha256Digest
  plan_sha256 : Sha256Digest
  health_policy_sha256 : Sha256Digest
  authority_bounds_sha256 : Sha256Digest
  initial_epoch : PositiveSafeInteger
  deriving DecidableEq

/-- Records of a root creation that its evidence is about. -/
structure RootCreationEvidenceSubjectV1 where
  root_id : Identifier
  root_sha256 : Sha256Digest
  request_sha256 : Sha256Digest
  created_at : UtcSecond
  service_claim_id : Identifier
  service_claim_sha256 : Sha256Digest
  authority_id : Identifier
  authority_sha256 : Sha256Digest
  lineage_anchor_id : Identifier
  lineage_anchor_sha256 : Sha256Digest
  evidence_id : Identifier
  deriving DecidableEq

/-- Outcomes of a root creation. -/
inductive RootCreationOutcome
  | created | adopted
  deriving DecidableEq,Repr

/-- Result of a root creation, with the records of its winner. -/
structure RootCreationResultV2 where
  /-- Whether the request created the root. -/
  outcome : RootCreationOutcome
  request_id : Identifier
  idempotency_key : Identifier
  operator_identity : BoundedText
  operator_subject : GoogleSubject
  request_sha256 : Sha256Digest
  created_at : UtcSecond
  winner_request_id : Identifier
  winner_idempotency_key : Identifier
  winner_operator_identity : BoundedText
  winner_operator_subject : GoogleSubject
  winner_request_sha256 : Sha256Digest
  winner_service_claim_id : Identifier
  winner_service_claim_sha256 : Sha256Digest
  winner_authority_id : Identifier
  winner_authority_sha256 : Sha256Digest
  winner_lineage_anchor_id : Identifier
  winner_lineage_anchor_sha256 : Sha256Digest
  winner_evidence_id : Identifier
  winner_evidence_sha256 : Sha256Digest
  root : RolloutRootV3
  initial_authority : EpochAuthorityRecord
  lineage_anchor : CapabilityLineageAnchorV1
  evidence_subject : RootCreationEvidenceSubjectV1
  signed_evidence : SignedEvidenceEventV1
  deriving DecidableEq

/-- Terminal states of a root that may release its claim. -/
inductive ServiceClaimTerminalRootState
  | promoted | recovered | strandedStable
  deriving DecidableEq,Repr

/-- Independent classifications of the target. -/
inductive ServiceClaimTargetClassification
  | candidatePromoted | stableRestored
  deriving DecidableEq,Repr

/-- Who confirms terminal states and releases. -/
def coordinator : String := "controlgraph.coordinator/v1"

/-- Reference to the evidence of a terminal state. -/
structure ServiceClaimTerminalRootProof where
  target : TargetBinding
  root_id : Identifier
  root_sha256 : Sha256Digest
  state : ServiceClaimTerminalRootState
  target_configuration_sha256 : Sha256Digest
  evidence_id : Identifier
  evidence_sha256 : Sha256Digest
  confirmed_at : UtcSecond
  deriving DecidableEq

def verifierIdentity (target : TargetBinding) : String :=
  "controlgraph-verifier@"++target.project_id.1++".iam.gserviceaccount.com"

/-- Reference to the evidence of an independent classification. -/
structure ServiceClaimTargetClassificationProof where
  target : TargetBinding
  root_id : Identifier
  root_sha256 : Sha256Digest
  classification : ServiceClaimTargetClassification
  fenced_epoch : PositiveSafeInteger
  fenced_authority_revision : Nat
  service_generation : Nat
  provider_etag : OpaqueToken
  target_configuration_sha256 : Sha256Digest
  evidence_id : Identifier
  evidence_sha256 : Sha256Digest
  classified_by : BoundedText
  classified_at : UtcSecond
  independent_reader : classified_by.1=verifierIdentity target
  deriving DecidableEq

/-- Fields of a service claim. -/
structure ServiceClaimRecordFields where
  target : TargetBinding
  root_id : Identifier
  root_sha256 : Sha256Digest
  stable_revision : CloudRunName
  candidate_revision : CloudRunName
  initial_epoch : PositiveSafeInteger
  baseline_service_generation : Nat
  baseline_configuration_sha256 : Sha256Digest
  baseline_revision_configuration_sha256 : Sha256Digest
  candidate_revision_configuration_sha256 : Sha256Digest
  stable_target_configuration_sha256 : Sha256Digest
  candidate_target_configuration_sha256 : Sha256Digest
  operator_owner : BoundedText
  status : ServiceClaimStatus
  claim_request_id : Identifier
  claim_evidence_id : Identifier
  claimed_at : UtcSecond
  release_fence_epoch : Option PositiveSafeInteger
  release_fence_authority_revision : Option Nat
  release_fenced_by : Option BoundedText
  release_fence_request_id : Option Identifier
  release_fence_evidence_id : Option Identifier
  release_fenced_at : Option UtcSecond
  released_by : Option Unit
  release_request_id : Option Identifier
  release_evidence_id : Option Identifier
  released_at : Option UtcSecond
  terminal_root_proof : Option ServiceClaimTerminalRootProof
  target_classification_proof : Option ServiceClaimTargetClassificationProof
  deriving DecidableEq

/-- Who creates the workload of a claim. -/
def workloadCreator : String := "controlgraph.api/v1"

def isServiceRevision (target : TargetBinding) (revision : CloudRunName) : Bool :=
  (target.service_name.1++"-").toList.isPrefixOf revision.1.toList

/-- Values that fence a release. -/
structure ClaimFence where
  epoch : PositiveSafeInteger
  revision : Nat
  evidence_id : Identifier
  fenced_at : UtcSecond
  terminal : ServiceClaimTerminalRootProof

/-- Values of a final release. -/
structure ClaimRelease where
  evidence_id : Identifier
  released_at : UtcSecond
  classification : ServiceClaimTargetClassificationProof

namespace ServiceClaimRecordFields

variable (claim : ServiceClaimRecordFields)

/-- Which values of an epoch fence are present. -/
def fenceValues : List Bool :=
  [claim.release_fence_epoch.isSome,claim.release_fence_authority_revision.isSome,
    claim.release_fenced_by.isSome,claim.release_fence_request_id.isSome,
    claim.release_fence_evidence_id.isSome,claim.release_fenced_at.isSome,
    claim.terminal_root_proof.isSome]

def finalReleaseValues : List Bool :=
  [claim.released_by.isSome,claim.release_request_id.isSome,claim.release_evidence_id.isSome,
    claim.released_at.isSome,claim.target_classification_proof.isSome]

/-- The epoch fence of a claim. -/
def fence : Option ClaimFence := do
  let epoch ← claim.release_fence_epoch
  let revision ← claim.release_fence_authority_revision
  let evidence_id ← claim.release_fence_evidence_id
  let fenced_at ← claim.release_fenced_at
  let terminal ← claim.terminal_root_proof
  return ⟨epoch,revision,evidence_id,fenced_at,terminal⟩

def finalRelease : Option ClaimRelease := do
  let evidence_id ← claim.release_evidence_id
  let released_at ← claim.released_at
  let classification ← claim.target_classification_proof
  return ⟨evidence_id,released_at,classification⟩

/-- Target state that belongs to a terminal state. -/
def expectedConfiguration : ServiceClaimTerminalRootState → Sha256Digest
  | .promoted => claim.candidate_target_configuration_sha256
  | .recovered => claim.stable_target_configuration_sha256
  | .strandedStable => claim.stable_target_configuration_sha256

end ServiceClaimRecordFields

/-- Classification that belongs to a terminal state. -/
def expectedClassification : ServiceClaimTerminalRootState → ServiceClaimTargetClassification
  | .promoted => .candidatePromoted
  | .recovered => .stableRestored
  | .strandedStable => .stableRestored

/-- Check the epoch fence of a claim. -/
def validateFence (claim : ServiceClaimRecordFields) (fence : ClaimFence) : Except Raised Unit := do
  let terminal := fence.terminal
  require (terminal.target=claim.target ∧ terminal.root_id=claim.root_id ∧
      terminal.root_sha256=claim.root_sha256)
    (.valueError "service claim terminal proof does not match its root and target")
  require (terminal.target_configuration_sha256=claim.expectedConfiguration terminal.state)
    (.valueError "terminal root proof does not match the expected target state")
  require (claim.initial_epoch.1 < fence.epoch.1 ∧
      fence.revision=fence.epoch.1-claim.initial_epoch.1 ∧
      claim.claimed_at.1 ≤ terminal.confirmed_at.1 ∧
      terminal.confirmed_at.1 ≤ fence.fenced_at.1 ∧ terminal.evidence_id≠fence.evidence_id)
    (.valueError "service claim epoch fence is not a later terminal transition")

/-- Check the final release of a claim. -/
def validateRelease (claim : ServiceClaimRecordFields) (fence : ClaimFence)
    (release : ClaimRelease) : Except Raised Unit := do
  let terminal := fence.terminal
  let classification := release.classification
  require (classification.target=claim.target ∧ classification.root_id=claim.root_id ∧
      classification.root_sha256=claim.root_sha256)
    (.valueError "target classification does not match the claimed root")
  require (classification.classification=expectedClassification terminal.state ∧
      classification.target_configuration_sha256=claim.expectedConfiguration terminal.state ∧
      classification.fenced_epoch=fence.epoch ∧
      classification.fenced_authority_revision=fence.revision)
    (.valueError "terminal root and target classification are incoherent")
  require (claim.baseline_service_generation < classification.service_generation)
    (.valueError "target classification predates the claimed baseline")
  require ([claim.claim_evidence_id,terminal.evidence_id,fence.evidence_id,
      classification.evidence_id,release.evidence_id].Nodup ∧
      terminal.evidence_sha256≠classification.evidence_sha256)
    (.valueError "claim transition evidence must be independent")
  require (fence.fenced_at.1 ≤ classification.classified_at.1 ∧
      classification.classified_at.1 ≤ release.released_at.1)
    (.valueError "service claim release proof times are not ordered")

/-- Check the lifecycle of a claim. -/
def validateLifecycle (claim : ServiceClaimRecordFields) : Except Raised Unit := do
  require (isServiceClaimTarget claim.target=true)
    (.valueError "service claim target is outside the ControlGraph boundary")
  require (claim.operator_owner.1≠workloadCreator)
    (.valueError "service claim operator and workload identities must differ")
  require (claim.stable_revision≠claim.candidate_revision)
    (.valueError "service claim revisions must differ")
  require (isServiceRevision claim.target claim.stable_revision=true ∧
      isServiceRevision claim.target claim.candidate_revision=true)
    (.valueError "service claim revisions are outside the target service")
  match claim.status with
  | .active =>
    require (∀ present∈claim.fenceValues++claim.finalReleaseValues,present=false)
      (.valueError "active service claim cannot contain release metadata")
  | .releasing =>
    require (∀ present∈claim.fenceValues,present=true)
      (.valueError "non-active service claim requires a complete epoch fence")
    require (∀ present∈claim.finalReleaseValues,present=false)
      (.valueError "releasing service claim cannot contain final release metadata")
    let fence ← requireSome claim.fence (.assertionError "epoch fence")
    validateFence claim fence
  | .released =>
    require (∀ present∈claim.fenceValues,present=true)
      (.valueError "non-active service claim requires a complete epoch fence")
    require (∀ present∈claim.finalReleaseValues,present=true)
      (.valueError "released service claim requires complete release metadata")
    let fence ← requireSome claim.fence (.assertionError "epoch fence")
    validateFence claim fence
    let release ← requireSome claim.finalRelease (.assertionError "final release")
    validateRelease claim fence release

/-- A service claim whose lifecycle was accepted. -/
structure ServiceClaimRecord extends fields : ServiceClaimRecordFields where
  accepted : validateLifecycle fields=.ok ()

instance : DecidableEq ServiceClaimRecord := fun first second =>
  decidable_of_iff (first.fields=second.fields) ⟨fun h => by
    cases first
    cases second
    cases h
    rfl,fun h => congrArg ServiceClaimRecord.fields h⟩

/-- The records of one root that an authority decision is built from. -/
structure RootCreationBundle where
  root : StoredRecord RolloutRootV3
  service_claim : StoredRecord ServiceClaimRecord
  authority : StoredRecord EpochAuthorityRecord
  lineage_anchor : StoredRecord CapabilityLineageAnchorV1
  signed_evidence : StoredRecord SignedEvidenceEventV1
  creation_result : StoredRecord RootCreationResultV2

end ControlGraph.RootContracts
