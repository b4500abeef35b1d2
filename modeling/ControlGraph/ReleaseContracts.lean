import ControlGraph.RevocationContracts

/-!
# Contracts of a service claim release

A claim is released in two commits. The fence ends the epoch of the root and
records the terminal state of the root. The final release records what the
independent reader classified behind the fence. A stranded claim is released
through the apply receipt that it names instead of a terminal receipt. Both
commits belong to one request, whose digest names its four evidence events.
-/

namespace ControlGraph.ReleaseContracts

open Checks ContractText JsonValues JsonText Utf8Text StorageIdentity ReceiptStore RootContracts
  RevocationContracts

open ReceiptContracts hiding ServiceClaimRecord

/-- An exact durable verified apply receipt with its storage revision. -/
structure RecoveryApplyReceiptLocatorV1 where
  receipt_id : Identifier
  request_id : Identifier
  idempotency_key : Identifier
  capability_sha256 : Sha256Digest
  mutation_sha256 : Sha256Digest
  plan_sha256 : Sha256Digest
  expected_poststate_sha256 : Sha256Digest
  target : TargetBinding
  root_id : Identifier
  root_sha256 : Sha256Digest
  epoch : PositiveSafeInteger
  provider_etag : OpaqueToken
  provider_operation : BoundedText
  observed_etag : OpaqueToken
  observed_authority_epoch : PositiveSafeInteger
  receipt_sha256 : Sha256Digest
  storage_revision : Nat
  revision_bound : 2 ≤ storage_revision ∧ storage_revision ≤ maxRevision
  /-- The target is the reference service, the root names its digest, and the gate saw
  the epoch of the receipt. -/
  bindings : isServiceClaimTarget target=true ∧ root_id.1="cgroot:"++root_sha256.1 ∧
    observed_authority_epoch=epoch
  deriving DecidableEq

def targetJson (target : TargetBinding) : Json :=
  .obj [(chars "environment",.str (chars target.environment.1)),
    (chars "project_id",.str (chars target.project_id.1)),
    (chars "region",.str (chars target.region.1)),
    (chars "schema_version",.str (chars "controlgraph.target-binding/v1")),
    (chars "service_name",.str (chars target.service_name.1))]

def RecoveryApplyReceiptLocatorV1.json (locator : RecoveryApplyReceiptLocatorV1) : Json :=
  .obj [(chars "action",.str (chars CapabilityAction.applyCanary.value)),
    (chars "capability_sha256",.str (chars locator.capability_sha256.1)),
    (chars "epoch",.int locator.epoch.1),
    (chars "expected_poststate_sha256",.str (chars locator.expected_poststate_sha256.1)),
    (chars "idempotency_key",.str (chars locator.idempotency_key.1)),
    (chars "mutation_sha256",.str (chars locator.mutation_sha256.1)),
    (chars "observed_authority_epoch",.int locator.observed_authority_epoch.1),
    (chars "observed_etag",.str (chars locator.observed_etag.1)),
    (chars "plan_sha256",.str (chars locator.plan_sha256.1)),
    (chars "provider_etag",.str (chars locator.provider_etag.1)),
    (chars "provider_operation",.str (chars locator.provider_operation.1)),
    (chars "receipt_id",.str (chars locator.receipt_id.1)),
    (chars "receipt_sha256",.str (chars locator.receipt_sha256.1)),
    (chars "request_id",.str (chars locator.request_id.1)),
    (chars "root_id",.str (chars locator.root_id.1)),
    (chars "root_sha256",.str (chars locator.root_sha256.1)),
    (chars "schema_version",.str (chars "controlgraph.recovery-apply-receipt-locator/v1")),
    (chars "storage_revision",.int locator.storage_revision),(chars "target",targetJson locator.target)]

/-- Identities that one release reserves. -/
inductive ServiceClaimReleaseIdentityKind
  | request | idempotency
  deriving DecidableEq,Repr

def ServiceClaimReleaseIdentityKind.value : ServiceClaimReleaseIdentityKind → String
  | .request => "REQUEST"
  | .idempotency => "IDEMPOTENCY"

/-- A request to release the claim of a root with a terminal receipt. -/
structure ServiceClaimReleaseCommandV1 extends StorageIdentity.ServiceClaimReleaseCommandV1 where
  terminal_receipt_idempotency_key : Identifier

/-- A request to release one stranded claim. -/
structure StrandedStableClaimReleaseCommandV1 where
  root_id : Identifier
  expected_root_sha256 : Sha256Digest
  expected_epoch : PositiveSafeInteger
  expected_service_claim_sha256 : Sha256Digest
  expected_service_claim_revision : Nat
  verified_apply_receipt : RecoveryApplyReceiptLocatorV1
  reason : BoundedText
  request_id : Identifier
  idempotency_key : Identifier
  /-- The command and its receipt name one root and epoch. -/
  bindings : root_id.1="cgroot:"++expected_root_sha256.1 ∧
    verified_apply_receipt.root_id=root_id ∧
    verified_apply_receipt.root_sha256=expected_root_sha256 ∧
    verified_apply_receipt.epoch=expected_epoch

/-- Both kinds of release command. -/
inductive ReleaseCommand
  | terminal (command : ServiceClaimReleaseCommandV1)
  | stranded (command : StrandedStableClaimReleaseCommandV1)

namespace ReleaseCommand

def root_id : ReleaseCommand → Identifier
  | terminal command => command.root_id
  | stranded command => command.root_id

/-- Root digest of a command. -/
def expected_root_sha256 : ReleaseCommand → Sha256Digest
  | terminal command => command.expected_root_sha256
  | stranded command => command.expected_root_sha256

/-- Epoch that a command ends. -/
def expected_epoch : ReleaseCommand → PositiveSafeInteger
  | terminal command => command.expected_epoch
  | stranded command => command.expected_epoch

def request_id : ReleaseCommand → Identifier
  | terminal command => command.request_id
  | stranded command => command.request_id

def idempotency_key : ReleaseCommand → Identifier
  | terminal command => command.idempotency_key
  | stranded command => command.idempotency_key

end ReleaseCommand

/-- A release command with the operator facts that its digest binds. -/
structure ServiceClaimReleaseInvocationV1 where
  command : ReleaseCommand
  operator_identity : BoundedText
  operator_subject : GoogleSubject

/-- Terminal state derived from one verified receipt. -/
structure ServiceClaimTerminalEvidenceSubjectV1 where
  target : TargetBinding
  root_id : Identifier
  root_sha256 : Sha256Digest
  state : ServiceClaimTerminalRootState
  target_configuration_sha256 : Sha256Digest
  receipt_id : Identifier
  receipt_sha256 : Sha256Digest
  receipt_revision : Nat
  receipt_epoch : PositiveSafeInteger
  receipt_action : CapabilityAction
  evidence_id : Identifier
  confirmed_at : UtcSecond
  deriving DecidableEq

/-- Basis for fencing one stranded claim. -/
structure StrandedStableClaimEvidenceSubjectV1 where
  target : TargetBinding
  root_id : Identifier
  root_sha256 : Sha256Digest
  expected_stable_target_configuration_sha256 : Sha256Digest
  expected_service_claim_sha256 : Sha256Digest
  expected_service_claim_revision : Nat
  verified_apply_receipt : RecoveryApplyReceiptLocatorV1
  reason : BoundedText
  evidence_id : Identifier
  confirmed_at : UtcSecond
  /-- The subject and its receipt name one root and target. -/
  bindings : root_id.1="cgroot:"++root_sha256.1 ∧ verified_apply_receipt.target=target ∧
    verified_apply_receipt.root_id=root_id ∧ verified_apply_receipt.root_sha256=root_sha256
  deriving DecidableEq

/-- Both kinds of terminal evidence. -/
inductive TerminalSubject
  | terminal (subject : ServiceClaimTerminalEvidenceSubjectV1)
  | stranded (subject : StrandedStableClaimEvidenceSubjectV1)
  deriving DecidableEq

namespace TerminalSubject

/-- Target of a terminal subject. -/
def target : TerminalSubject → TargetBinding
  | terminal subject => subject.target
  | stranded subject => subject.target

/-- Root of a terminal subject. -/
def root_id : TerminalSubject → Identifier
  | terminal subject => subject.root_id
  | stranded subject => subject.root_id

/-- Root digest of a terminal subject. -/
def root_sha256 : TerminalSubject → Sha256Digest
  | terminal subject => subject.root_sha256
  | stranded subject => subject.root_sha256

/-- Terminal state of a subject. -/
def state : TerminalSubject → ServiceClaimTerminalRootState
  | terminal subject => subject.state
  | stranded _ => .strandedStable

/-- Evidence of a terminal subject. -/
def evidence_id : TerminalSubject → Identifier
  | terminal subject => subject.evidence_id
  | stranded subject => subject.evidence_id

/-- Time of the confirmation. -/
def confirmed_at : TerminalSubject → UtcSecond
  | terminal subject => subject.confirmed_at
  | stranded subject => subject.confirmed_at

/-- Receipt of a terminal subject with its digest. -/
def receipt : TerminalSubject → Identifier×Sha256Digest
  | terminal subject => (subject.receipt_id,subject.receipt_sha256)
  | stranded subject => (subject.verified_apply_receipt.receipt_id,
      subject.verified_apply_receipt.receipt_sha256)

end TerminalSubject

/-- Claim fence and authority transition of one commit. -/
structure ServiceClaimFenceEvidenceSubjectV1 where
  target : TargetBinding
  root_id : Identifier
  root_sha256 : Sha256Digest
  request_sha256 : Sha256Digest
  request_id : Identifier
  idempotency_key : Identifier
  operator_identity : BoundedText
  operator_subject : GoogleSubject
  terminal_evidence_id : Identifier
  terminal_evidence_sha256 : Sha256Digest
  previous_claim_sha256 : Sha256Digest
  replacement_claim_sha256 : Sha256Digest
  previous_authority_sha256 : Sha256Digest
  replacement_authority_sha256 : Sha256Digest
  previous_epoch : PositiveSafeInteger
  new_epoch : PositiveSafeInteger
  evidence_id : Identifier
  fenced_at : UtcSecond
  /-- The fence advances exactly one epoch. -/
  transition : new_epoch.1=previous_epoch.1+1

instance : DecidableEq ServiceClaimFenceEvidenceSubjectV1 := fun first second =>
  decidable_of_iff
    (((first.target=second.target ∧ first.root_id=second.root_id ∧
          first.root_sha256=second.root_sha256 ∧ first.request_sha256=second.request_sha256) ∧
        first.request_id=second.request_id ∧ first.idempotency_key=second.idempotency_key ∧
        first.operator_identity=second.operator_identity ∧
        first.operator_subject=second.operator_subject) ∧
      (first.terminal_evidence_id=second.terminal_evidence_id ∧
        first.terminal_evidence_sha256=second.terminal_evidence_sha256 ∧
        first.previous_claim_sha256=second.previous_claim_sha256 ∧
        first.replacement_claim_sha256=second.replacement_claim_sha256) ∧
      (first.previous_authority_sha256=second.previous_authority_sha256 ∧
        first.replacement_authority_sha256=second.replacement_authority_sha256 ∧
        first.previous_epoch=second.previous_epoch ∧ first.new_epoch=second.new_epoch) ∧
      first.evidence_id=second.evidence_id ∧ first.fenced_at=second.fenced_at)
    (by
      cases first
      cases second
      simp only [ServiceClaimFenceEvidenceSubjectV1.mk.injEq,and_assoc])

/-- Result of the independent reader. -/
structure ServiceClaimTargetClassificationEvidenceSubjectV1 where
  target : TargetBinding
  root_id : Identifier
  root_sha256 : Sha256Digest
  request_sha256 : Sha256Digest
  classification_request_sha256 : Sha256Digest
  classification : ServiceClaimTargetClassification
  fenced_epoch : PositiveSafeInteger
  fenced_authority_revision : Nat
  service_generation : Nat
  provider_etag : BoundedText
  target_configuration_sha256 : Sha256Digest
  evidence_id : Identifier
  classified_by : BoundedText
  classified_at : UtcSecond
  deriving DecidableEq

/-- Final claim replacement after the classification. -/
structure ServiceClaimReleaseEvidenceSubjectV1 where
  target : TargetBinding
  root_id : Identifier
  root_sha256 : Sha256Digest
  request_sha256 : Sha256Digest
  request_id : Identifier
  idempotency_key : Identifier
  operator_identity : BoundedText
  operator_subject : GoogleSubject
  classification_evidence_id : Identifier
  classification_evidence_sha256 : Sha256Digest
  fenced_claim_sha256 : Sha256Digest
  released_claim_sha256 : Sha256Digest
  fenced_authority_sha256 : Sha256Digest
  fenced_epoch : PositiveSafeInteger
  fenced_authority_revision : Nat
  evidence_id : Identifier
  released_at : UtcSecond
  deriving DecidableEq

/-- Ownership of one release identity. -/
structure ServiceClaimReleaseIdentityV1 where
  identity_kind : ServiceClaimReleaseIdentityKind
  identity_value : Identifier
  root_id : Identifier
  root_sha256 : Sha256Digest
  request_sha256 : Sha256Digest
  result_id : Identifier
  claimed_at : UtcSecond
  deriving DecidableEq

/-- Winner of the fence stage. -/
structure ServiceClaimReleaseProgressFields where
  result_id : Identifier
  request_sha256 : Sha256Digest
  request_id : Identifier
  idempotency_key : Identifier
  root_id : Identifier
  root_sha256 : Sha256Digest
  target : TargetBinding
  terminal_receipt_id : Identifier
  terminal_receipt_sha256 : Sha256Digest
  terminal_evidence_id : Identifier
  terminal_evidence_sha256 : Sha256Digest
  terminal_subject : TerminalSubject
  fence_evidence_id : Identifier
  fence_evidence_sha256 : Sha256Digest
  fence_subject : ServiceClaimFenceEvidenceSubjectV1
  fenced_epoch : PositiveSafeInteger
  fenced_authority_revision : Nat
  fenced_at : UtcSecond
  deriving DecidableEq

/-- Check the bindings of a progress record. -/
def validateProgress (progress : ServiceClaimReleaseProgressFields) : Except Raised Unit :=
  let terminal := progress.terminal_subject
  let fence := progress.fence_subject
  require (progress.root_id.1="cgroot:"++progress.root_sha256.1 ∧
      progress.result_id.1="cgrelease:"++progress.request_sha256.1 ∧
      progress.terminal_evidence_id≠progress.fence_evidence_id ∧
      progress.terminal_evidence_sha256≠progress.fence_evidence_sha256 ∧
      terminal.root_id=progress.root_id ∧ terminal.root_sha256=progress.root_sha256 ∧
      terminal.target=progress.target ∧
      terminal.receipt=(progress.terminal_receipt_id,progress.terminal_receipt_sha256) ∧
      terminal.evidence_id=progress.terminal_evidence_id ∧ fence.root_id=progress.root_id ∧
      fence.root_sha256=progress.root_sha256 ∧ fence.target=progress.target ∧
      fence.request_sha256=progress.request_sha256 ∧ fence.request_id=progress.request_id ∧
      fence.idempotency_key=progress.idempotency_key ∧
      fence.terminal_evidence_id=progress.terminal_evidence_id ∧
      fence.terminal_evidence_sha256=progress.terminal_evidence_sha256 ∧
      fence.evidence_id=progress.fence_evidence_id ∧ fence.new_epoch=progress.fenced_epoch ∧
      progress.fenced_at=fence.fenced_at)
    (.valueError "claim release progress bindings are invalid")

/-- Winner of the fence stage of a release. -/
structure ServiceClaimReleaseProgressV1 extends fields : ServiceClaimReleaseProgressFields where
  accepted : validateProgress fields=.ok ()

instance : DecidableEq ServiceClaimReleaseProgressV1 := fun first second =>
  decidable_of_iff (first.fields=second.fields) ⟨fun h => by
    cases first
    cases second
    cases h
    rfl,fun h => congrArg ServiceClaimReleaseProgressV1.fields h⟩

/-- Winner of a whole release. -/
structure ServiceClaimReleaseResultFields where
  result_id : Identifier
  request_sha256 : Sha256Digest
  request_id : Identifier
  idempotency_key : Identifier
  root_id : Identifier
  root_sha256 : Sha256Digest
  target : TargetBinding
  operator_identity : BoundedText
  operator_subject : GoogleSubject
  terminal_receipt_id : Identifier
  terminal_receipt_sha256 : Sha256Digest
  terminal_evidence_id : Identifier
  terminal_evidence_sha256 : Sha256Digest
  fence_evidence_id : Identifier
  fence_evidence_sha256 : Sha256Digest
  classification_evidence_id : Identifier
  classification_evidence_sha256 : Sha256Digest
  classification_subject : ServiceClaimTargetClassificationEvidenceSubjectV1
  release_evidence_id : Identifier
  release_evidence_sha256 : Sha256Digest
  release_subject : ServiceClaimReleaseEvidenceSubjectV1
  classification_proof : ServiceClaimTargetClassificationProof
  fenced_epoch : PositiveSafeInteger
  fenced_authority_revision : Nat
  released_at : UtcSecond
  deriving DecidableEq

/-- Check the bindings of a release result. -/
def validateReleaseResult (result : ServiceClaimReleaseResultFields) : Except Raised Unit :=
  let proof := result.classification_proof
  let classification := result.classification_subject
  let release := result.release_subject
  require (result.root_id.1="cgroot:"++result.root_sha256.1 ∧
      result.result_id.1="cgrelease:"++result.request_sha256.1 ∧ proof.target=result.target ∧
      proof.root_id=result.root_id ∧ proof.root_sha256=result.root_sha256 ∧
      proof.fenced_epoch=result.fenced_epoch ∧
      proof.fenced_authority_revision=result.fenced_authority_revision ∧
      proof.evidence_id=result.classification_evidence_id ∧
      proof.evidence_sha256=result.classification_evidence_sha256 ∧
      classification.root_id=result.root_id ∧ classification.root_sha256=result.root_sha256 ∧
      classification.target=result.target ∧ classification.request_sha256=result.request_sha256 ∧
      classification.evidence_id=result.classification_evidence_id ∧
      classification.fenced_epoch=result.fenced_epoch ∧
      classification.fenced_authority_revision=result.fenced_authority_revision ∧
      release.root_id=result.root_id ∧ release.root_sha256=result.root_sha256 ∧
      release.target=result.target ∧ release.request_sha256=result.request_sha256 ∧
      release.request_id=result.request_id ∧ release.idempotency_key=result.idempotency_key ∧
      release.classification_evidence_id=result.classification_evidence_id ∧
      release.classification_evidence_sha256=result.classification_evidence_sha256 ∧
      release.evidence_id=result.release_evidence_id ∧ release.released_at=result.released_at ∧
      [result.terminal_evidence_id,result.fence_evidence_id,result.classification_evidence_id,
        result.release_evidence_id].Nodup ∧
      [result.terminal_evidence_sha256,result.fence_evidence_sha256,
        result.classification_evidence_sha256,result.release_evidence_sha256].Nodup)
    (.valueError "claim release result bindings are invalid")

/-- Winner of a whole release. -/
structure ServiceClaimReleaseResultV1 extends fields : ServiceClaimReleaseResultFields where
  accepted : validateReleaseResult fields=.ok ()

instance : DecidableEq ServiceClaimReleaseResultV1 := fun first second =>
  decidable_of_iff (first.fields=second.fields) ⟨fun h => by
    cases first
    cases second
    cases h
    rfl,fun h => congrArg ServiceClaimReleaseResultV1.fields h⟩

/-- What a claim fence writes. -/
structure ServiceClaimReleaseFenceCommitV1 where
  replacement_claim : ServiceClaimRecord
  replacement_authority : EpochAuthorityRecord
  terminal_subject : TerminalSubject
  terminal_evidence : SignedEvidenceEventV1
  fence_subject : ServiceClaimFenceEvidenceSubjectV1
  fence_evidence : SignedEvidenceEventV1
  chain_head : EvidenceChainHeadV1
  progress : ServiceClaimReleaseProgressV1
  request_identity : ServiceClaimReleaseIdentityV1
  idempotency_identity : ServiceClaimReleaseIdentityV1

/-- What a final release writes. -/
structure ServiceClaimReleaseFinalizeCommitV1 where
  replacement_claim : ServiceClaimRecord
  classification_subject : ServiceClaimTargetClassificationEvidenceSubjectV1
  classification_evidence : SignedEvidenceEventV1
  release_subject : ServiceClaimReleaseEvidenceSubjectV1
  release_evidence : SignedEvidenceEventV1
  chain_head : EvidenceChainHeadV1
  result : ServiceClaimReleaseResultV1

/-- The view that a release was decided on. -/
structure ServiceClaimReleaseState where
  invocation : ServiceClaimReleaseInvocationV1
  root_bundle : Option RootCreationBundle
  terminal_receipt : Option (StoredRecord ExecutionReceipt)
  chain_head : Option (StoredRecord EvidenceChainHeadV1)
  head_evidence : Option (StoredRecord SignedEvidenceEventV1)
  terminal_evidence : Option (StoredRecord SignedEvidenceEventV1)
  fence_evidence : Option (StoredRecord SignedEvidenceEventV1)
  classification_evidence : Option (StoredRecord SignedEvidenceEventV1)
  release_evidence : Option (StoredRecord SignedEvidenceEventV1)
  request_identity : Option (StoredRecord ServiceClaimReleaseIdentityV1)
  idempotency_identity : Option (StoredRecord ServiceClaimReleaseIdentityV1)
  progress : Option (StoredRecord ServiceClaimReleaseProgressV1)
  result : Option (StoredRecord ServiceClaimReleaseResultV1)

variable (sha256 : Bytes → Sha256Digest)

/-- Digest of everything that the operator of a release controls. -/
def serviceClaimReleaseRequestSha256 (invocation : ServiceClaimReleaseInvocationV1) :
    Sha256Digest :=
  match invocation.command with
  | .terminal command =>
    sha256 (asciiBytes "controlgraph.service-claim-release-request/v1"++[0]++
      utf8Bytes (dumpsSorted (.obj
        [(chars "confirmation",.str (chars "RELEASE")),
          (chars "expected_epoch",.int command.expected_epoch.1),
          (chars "expected_root_sha256",.str (chars command.expected_root_sha256.1)),
          (chars "idempotency_key",.str (chars command.idempotency_key.1)),
          (chars "operator_identity",.str (chars invocation.operator_identity.1)),
          (chars "operator_subject",.str (chars invocation.operator_subject.1)),
          (chars "request_id",.str (chars command.request_id.1)),
          (chars "root_id",.str (chars command.root_id.1)),
          (chars "schema_version",.str (chars "controlgraph.service-claim-release-request/v1")),
          (chars "terminal_receipt_idempotency_key",
            .str (chars command.terminal_receipt_idempotency_key.1))])))
  | .stranded command =>
    sha256 (asciiBytes "controlgraph.stranded-stable-claim-release-request/v1"++[0]++
      utf8Bytes (dumpsSorted (.obj
        [(chars "confirmation",.str (chars "RELEASE_STRANDED_STABLE_CLAIM")),
          (chars "expected_epoch",.int command.expected_epoch.1),
          (chars "expected_root_sha256",.str (chars command.expected_root_sha256.1)),
          (chars "expected_service_claim_revision",.int command.expected_service_claim_revision),
          (chars "expected_service_claim_sha256",
            .str (chars command.expected_service_claim_sha256.1)),
          (chars "idempotency_key",.str (chars command.idempotency_key.1)),
          (chars "operator_identity",.str (chars invocation.operator_identity.1)),
          (chars "operator_subject",.str (chars invocation.operator_subject.1)),
          (chars "reason",.str (chars command.reason.1)),
          (chars "request_id",.str (chars command.request_id.1)),
          (chars "root_id",.str (chars command.root_id.1)),
          (chars "schema_version",
            .str (chars "controlgraph.stranded-stable-claim-release-request/v1")),
          (chars "verified_apply_receipt",command.verified_apply_receipt.json)])))

/-- Stages of a release. -/
inductive ReleaseStage
  | terminal | fence | classification | release
  deriving DecidableEq,Repr

def ReleaseStage.value : ReleaseStage → String
  | .terminal => "terminal"
  | .fence => "fence"
  | .classification => "classification"
  | .release => "release"

def serviceClaimReleaseEvidenceId (request_sha256 : Sha256Digest) (stage : ReleaseStage) : String :=
  "cgrevidence:"++(sha256 (asciiBytes "controlgraph.service-claim-release-evidence-id/v1"++[0]++
    asciiBytes stage.value++[0]++asciiBytes request_sha256.1)).1

end ControlGraph.ReleaseContracts
