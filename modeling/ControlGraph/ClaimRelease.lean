import ControlGraph.ClaimFence

/-!
# The final commit of a claim release

The second commit of a release moves the fenced claim to released. It repeats
the whole fence stage, which is stored by then, and appends two events: what the
independent reader classified behind the fence, and the release itself. The
authority stays as the fence left it. The transaction reads every record of the
fence stage again and requires the records of the final release to be absent.
-/

namespace ControlGraph.ClaimRelease

open Checks ContractText RootContracts ReleaseContracts AuthorityDatabase EvidenceChain
  RootCreation RevocationCommits ClaimFence

open StorageIdentity (serviceClaimReleaseIdentityLogicalId serviceClaimReleaseIdentityDocumentId)

open ReceiptContracts hiding ServiceClaimRecord

open ReceiptStore (StoreError serviceClaimLogicalId)

/-- A claim that is released behind the fence that it carries. -/
@[mk_iff] structure ExactFencedRelease (current replacement : ServiceClaimRecord)
    (expected_authority : StoredRecord EpochAuthorityRecord) : Prop where
  current_status : current.status=.releasing
  replacement_status : replacement.status=.released
  ownership : claimOwnershipBinding replacement=claimOwnershipBinding current
  epoch : replacement.release_fence_epoch=current.release_fence_epoch
  revision : replacement.release_fence_authority_revision=current.release_fence_authority_revision
  fenced_by : replacement.release_fenced_by=current.release_fenced_by
  request_id : replacement.release_fence_request_id=current.release_fence_request_id
  evidence_id : replacement.release_fence_evidence_id=current.release_fence_evidence_id
  fenced_at : replacement.release_fenced_at=current.release_fenced_at
  terminal_proof : replacement.terminal_root_proof=current.terminal_root_proof
  authority_target : expected_authority.value.target=current.target
  authority_root_id : expected_authority.value.root_id=current.root_id
  authority_root_sha256 : expected_authority.value.root_sha256=current.root_sha256
  authority_epoch : some expected_authority.value.current_epoch=current.release_fence_epoch
  authority_revision : some expected_authority.value.revision=
    current.release_fence_authority_revision
  stored_revision : expected_authority.revision=expected_authority.value.revision
  authority_cause : expected_authority.value.cause=.operatorRevocation
  authority_changed_by : some expected_authority.value.changed_by=current.release_fenced_by
  authority_request_id : some expected_authority.value.request_id=current.release_fence_request_id
  authority_evidence_id : some expected_authority.value.evidence_id=
    current.release_fence_evidence_id
  authority_changed_at : some expected_authority.value.changed_at=current.release_fenced_at

instance (current replacement : ServiceClaimRecord)
    (expected_authority : StoredRecord EpochAuthorityRecord) :
    Decidable (ExactFencedRelease current replacement expected_authority) :=
  decidable_of_iff _ (exactFencedRelease_iff current replacement expected_authority).symm

/-- Check that a claim moves from releasing to released. -/
def validateClaimRelease (configured_target : TargetBinding)
    (expected_claim : StoredRecord ServiceClaimRecord) (replacement_claim : ServiceClaimRecord)
    (expected_authority : StoredRecord EpochAuthorityRecord) : Except Raised Unit := do
  let current := expected_claim.value
  require (current.target=configured_target ∧ replacement_claim.target=configured_target)
    (.valueError "service claim does not match the configured target")
  require (ExactFencedRelease current replacement_claim expected_authority)
    (.valueError "service claim replacement is not an exact fenced release")

/-- Fields of a claim before its fence. -/
def activeFields (claim : ServiceClaimRecordFields) : ServiceClaimRecordFields :=
  {claim with
    status := .active,release_fence_epoch := none,release_fence_authority_revision := none,
    release_fenced_by := none,release_fence_request_id := none,release_fence_evidence_id := none,
    release_fenced_at := none,released_by := none,release_request_id := none,
    release_evidence_id := none,released_at := none,terminal_root_proof := none,
    target_classification_proof := none}

/-- The fields of an accepted claim before its fence are accepted. -/
theorem validateLifecycle_active {claim : ServiceClaimRecordFields}
    (h : validateLifecycle claim=.ok ()) : validateLifecycle (activeFields claim)=.ok () := by
  rw [validateLifecycle,check_bind_eq_ok,check_bind_eq_ok,check_bind_eq_ok,check_bind_eq_ok] at h
  rw [validateLifecycle,check_bind_eq_ok,check_bind_eq_ok,check_bind_eq_ok,check_bind_eq_ok]
  refine ⟨h.1,h.2.1,h.2.2.1,h.2.2.2.1,?_⟩
  rfl

/-- A claim before its fence. -/
def activeClaim (claim : ServiceClaimRecord) : ServiceClaimRecord :=
  ⟨activeFields claim.fields,validateLifecycle_active claim.accepted⟩

/-- What a final release is checked against. -/
structure ReleaseView where
  configured_target : TargetBinding
  bundle : RootCreationBundle
  receipt : StoredRecord ExecutionReceipt
  progress : StoredRecord ServiceClaimReleaseProgressV1
  terminal : StoredRecord SignedEvidenceEventV1
  fence : StoredRecord SignedEvidenceEventV1
  request_identity : StoredRecord ServiceClaimReleaseIdentityV1
  idempotency_identity : StoredRecord ServiceClaimReleaseIdentityV1
  invocation : ServiceClaimReleaseInvocationV1
  previous_head : EvidenceChainHeadV1
  request_sha256 : Sha256Digest
  /-- What the receipt shows. -/
  mapping : ReleaseMapping
  terminal_proof : ServiceClaimTerminalRootProof
  classification_proof : ServiceClaimTargetClassificationProof

/-- Whether the receipt of a release is the one that its command names. -/
def ReleaseView.receiptIsExact (functions : AuthorityFunctions) (view : ReleaseView) : Bool :=
  let receipt := view.receipt.value
  let root := view.bundle.root.value
  match view.invocation.command with
  | .stranded command =>
    decide (view.bundle.service_claim.revision=command.expected_service_claim_revision+1 ∧
      functions.canonical_sha256 (.serviceClaim (activeClaim view.bundle.service_claim.value))=
        command.expected_service_claim_sha256) &&
    strandedApplyReceiptIsExact functions view.configured_target root view.receipt command
  | .terminal command =>
    decide (receipt.receipt_id.1=(executionReceiptLogicalId functions.sha256 view.configured_target
        command.terminal_receipt_idempotency_key).1 ∧
      receipt.idempotency_key=command.terminal_receipt_idempotency_key ∧
      receipt.target=view.configured_target ∧ receipt.root_id=root.root_id ∧
      receipt.root_sha256=root.root_sha256 ∧ receipt.outcome=.verified ∧
      receipt.reason_code=none ∧ receipt.observed_etag.isSome=true ∧
      receipt.expected_poststate_sha256=view.mapping.target_configuration_sha256 ∧
      receipt.epoch.1 ≤ command.expected_epoch.1)

section

variable (functions : AuthorityFunctions) (view : ReleaseView)
  (commit : ServiceClaimReleaseFinalizeCommitV1)

/-- The records of a release belong to one root, one step behind its command. -/
@[mk_iff] structure ReleaseRecordsBound : Prop where
  root_target : view.bundle.root.value.content.target=view.configured_target
  root_id : view.bundle.root.value.root_id=view.invocation.command.root_id
  root_sha256 : view.bundle.root.value.root_sha256=view.invocation.command.expected_root_sha256
  claim_target : view.bundle.service_claim.value.target=view.configured_target
  claim_root_id : view.bundle.service_claim.value.root_id=view.bundle.root.value.root_id
  claim_root_sha256 : view.bundle.service_claim.value.root_sha256=view.bundle.root.value.root_sha256
  authority_target : view.bundle.authority.value.target=view.configured_target
  authority_root_id : view.bundle.authority.value.root_id=view.bundle.root.value.root_id
  authority_root_sha256 : view.bundle.authority.value.root_sha256=view.bundle.root.value.root_sha256
  epoch : view.bundle.authority.value.current_epoch.1=view.invocation.command.expected_epoch.1+1

instance : Decidable (ReleaseRecordsBound view) :=
  decidable_of_iff _ (releaseRecordsBound_iff view).symm

/-- The stored progress repeats the request, the evidence and the fenced authority. -/
@[mk_iff] structure StoredProgressBound : Prop where
  request_sha256 : view.progress.value.request_sha256=view.request_sha256
  result_id : view.progress.value.result_id.1="cgrelease:"++view.request_sha256.1
  request_id : view.progress.value.request_id=view.invocation.command.request_id
  idempotency_key : view.progress.value.idempotency_key=view.invocation.command.idempotency_key
  root_id : view.progress.value.root_id=view.bundle.root.value.root_id
  root_sha256 : view.progress.value.root_sha256=view.bundle.root.value.root_sha256
  target : view.progress.value.target=view.configured_target
  receipt_id : view.progress.value.terminal_receipt_id=view.receipt.value.receipt_id
  receipt_sha256 : view.progress.value.terminal_receipt_sha256=
    functions.canonical_sha256 (.executionReceipt view.receipt.value)
  terminal_id : view.progress.value.terminal_evidence_id=view.terminal.value.event.evidence_id
  terminal_sha256 : view.progress.value.terminal_evidence_sha256=
    functions.canonical_sha256 (.signedEvidence view.terminal.value)
  fence_id : view.progress.value.fence_evidence_id=view.fence.value.event.evidence_id
  fence_sha256 : view.progress.value.fence_evidence_sha256=
    functions.canonical_sha256 (.signedEvidence view.fence.value)
  epoch : view.progress.value.fenced_epoch=view.bundle.authority.value.current_epoch
  revision : view.progress.value.fenced_authority_revision=view.bundle.authority.value.revision
  fenced_at : view.progress.value.fenced_at=view.bundle.authority.value.changed_at
  receipt : view.receiptIsExact functions=true

instance : Decidable (StoredProgressBound functions view) :=
  decidable_of_iff _ (storedProgressBound_iff functions view).symm

/-- The stored terminal proof, subject and event say the same. -/
@[mk_iff] structure StoredTerminalBound : Prop where
  state : view.mapping.state=view.terminal_proof.state
  proof_target : view.terminal_proof.target=view.configured_target
  proof_root_id : view.terminal_proof.root_id=view.bundle.root.value.root_id
  proof_root_sha256 : view.terminal_proof.root_sha256=view.bundle.root.value.root_sha256
  proof_configuration : view.terminal_proof.target_configuration_sha256=
    view.mapping.target_configuration_sha256
  proof_evidence_id : view.terminal_proof.evidence_id=view.progress.value.terminal_evidence_id
  proof_evidence_sha256 : view.terminal_proof.evidence_sha256=
    view.progress.value.terminal_evidence_sha256
  proof_confirmed_at : view.terminal_proof.confirmed_at=view.progress.value.fenced_at
  subject_target : view.progress.value.terminal_subject.target=view.configured_target
  subject_root_id : view.progress.value.terminal_subject.root_id=view.bundle.root.value.root_id
  subject_root_sha256 : view.progress.value.terminal_subject.root_sha256=
    view.bundle.root.value.root_sha256
  subject_exact : terminalSubjectIsExact functions view.mapping view.receipt
    view.invocation.command view.progress.value.terminal_subject=true
  subject_evidence_id : view.progress.value.terminal_subject.evidence_id=
    view.terminal.value.event.evidence_id
  subject_confirmed_at : view.progress.value.terminal_subject.confirmed_at=
    view.progress.value.fenced_at
  event_root_id : view.terminal.value.event.root_id=view.bundle.root.value.root_id
  event_root_sha256 : view.terminal.value.event.root_sha256=view.bundle.root.value.root_sha256
  event_target : view.terminal.value.event.target=view.configured_target
  event_epoch : view.terminal.value.event.epoch=view.receipt.value.epoch
  event_actor : view.terminal.value.event.actor.1=coordinator
  event_request_id : view.terminal.value.event.request_id=some view.invocation.command.request_id
  event_occurred_at : view.terminal.value.event.occurred_at=view.progress.value.fenced_at
  event_subject : view.terminal.value.event.subject_sha256=
    functions.canonical_sha256 (.terminalSubject view.progress.value.terminal_subject)
  event_exact : terminalEventIsExact view.mapping view.receipt.value view.invocation.command
    view.terminal.value.event=true
  signing_key : view.terminal.value.signing_key_version=
    view.bundle.root.value.content.evidence_signing_key_version

instance : Decidable (StoredTerminalBound functions view) :=
  decidable_of_iff _ (storedTerminalBound_iff functions view).symm

/-- The stored fence subject and event repeat the fenced records. -/
@[mk_iff] structure StoredFenceBound : Prop where
  target : view.progress.value.fence_subject.target=view.configured_target
  root_id : view.progress.value.fence_subject.root_id=view.bundle.root.value.root_id
  root_sha256 : view.progress.value.fence_subject.root_sha256=view.bundle.root.value.root_sha256
  request_sha256 : view.progress.value.fence_subject.request_sha256=view.request_sha256
  request_id : view.progress.value.fence_subject.request_id=view.invocation.command.request_id
  idempotency_key : view.progress.value.fence_subject.idempotency_key=
    view.invocation.command.idempotency_key
  operator_identity : view.progress.value.fence_subject.operator_identity=
    view.invocation.operator_identity
  operator_subject : view.progress.value.fence_subject.operator_subject=
    view.invocation.operator_subject
  replacement_claim : view.progress.value.fence_subject.replacement_claim_sha256=
    functions.canonical_sha256 (.serviceClaim view.bundle.service_claim.value)
  replacement_authority : view.progress.value.fence_subject.replacement_authority_sha256=
    functions.canonical_sha256 (.epochAuthority view.bundle.authority.value)
  new_epoch : view.progress.value.fence_subject.new_epoch=view.bundle.authority.value.current_epoch
  evidence_id : view.progress.value.fence_subject.evidence_id=view.fence.value.event.evidence_id
  fenced_at : view.progress.value.fence_subject.fenced_at=view.progress.value.fenced_at
  event_root_id : view.fence.value.event.root_id=view.bundle.root.value.root_id
  event_root_sha256 : view.fence.value.event.root_sha256=view.bundle.root.value.root_sha256
  event_target : view.fence.value.event.target=view.configured_target
  event_epoch : view.fence.value.event.epoch=view.bundle.authority.value.current_epoch
  event_kind : view.fence.value.event.kind=.epochAdvanced
  event_actor : view.fence.value.event.actor=view.invocation.operator_identity
  event_request_id : view.fence.value.event.request_id=some view.invocation.command.request_id
  event_receipt_id : view.fence.value.event.receipt_id=none
  event_occurred_at : view.fence.value.event.occurred_at=view.progress.value.fenced_at
  event_subject : view.fence.value.event.subject_sha256=
    functions.canonical_sha256 (.fenceSubject view.progress.value.fence_subject)
  event_sequence : view.fence.value.event.sequence=view.terminal.value.event.sequence+1
  event_previous : view.fence.value.event.previous_event_sha256=
    some view.progress.value.terminal_evidence_sha256
  event_reason_code : view.fence.value.event.reason_code=none
  event_provider_operation : view.fence.value.event.provider_operation=none
  event_configuration : view.fence.value.event.target_configuration_sha256=none
  signing_key : view.fence.value.signing_key_version=
    view.bundle.root.value.content.evidence_signing_key_version

instance : Decidable (StoredFenceBound functions view) :=
  decidable_of_iff _ (storedFenceBound_iff functions view).symm

/-- The records of the fence stage are at their only revision. -/
@[mk_iff] structure StoredRevisions : Prop where
  progress : view.progress.revision=0
  request_identity : view.request_identity.revision=0
  idempotency_identity : view.idempotency_identity.revision=0
  terminal : view.terminal.revision=0
  fence : view.fence.revision=0

instance : Decidable (StoredRevisions view) :=
  decidable_of_iff _ (storedRevisions_iff view).symm

/-- The result repeats the request, the fence stage and the new evidence. -/
@[mk_iff] structure ReleaseResultBound : Prop where
  request_sha256 : commit.result.request_sha256=view.request_sha256
  result_id : commit.result.result_id=view.progress.value.result_id
  request_id : commit.result.request_id=view.invocation.command.request_id
  idempotency_key : commit.result.idempotency_key=view.invocation.command.idempotency_key
  root_id : commit.result.root_id=view.bundle.root.value.root_id
  root_sha256 : commit.result.root_sha256=view.bundle.root.value.root_sha256
  target : commit.result.target=view.configured_target
  operator_identity : commit.result.operator_identity=view.invocation.operator_identity
  operator_subject : commit.result.operator_subject=view.invocation.operator_subject
  receipt_id : commit.result.terminal_receipt_id=view.progress.value.terminal_receipt_id
  receipt_sha256 : commit.result.terminal_receipt_sha256=
    view.progress.value.terminal_receipt_sha256
  terminal_id : commit.result.terminal_evidence_id=view.progress.value.terminal_evidence_id
  terminal_sha256 : commit.result.terminal_evidence_sha256=
    view.progress.value.terminal_evidence_sha256
  fence_id : commit.result.fence_evidence_id=view.progress.value.fence_evidence_id
  fence_sha256 : commit.result.fence_evidence_sha256=view.progress.value.fence_evidence_sha256
  classification_subject : commit.result.classification_subject=commit.classification_subject
  release_subject : commit.result.release_subject=commit.release_subject
  classification_id : commit.result.classification_evidence_id=
    commit.classification_evidence.event.evidence_id
  classification_sha256 : commit.result.classification_evidence_sha256=
    functions.canonical_sha256 (.signedEvidence commit.classification_evidence)
  release_id : commit.result.release_evidence_id=commit.release_evidence.event.evidence_id
  release_sha256 : commit.result.release_evidence_sha256=
    functions.canonical_sha256 (.signedEvidence commit.release_evidence)
  epoch : commit.result.fenced_epoch=view.progress.value.fenced_epoch
  revision : commit.result.fenced_authority_revision=view.progress.value.fenced_authority_revision
  classification_proof : some commit.result.classification_proof=
    commit.replacement_claim.target_classification_proof
  claim_evidence_id : some commit.result.release_evidence_id=
    commit.replacement_claim.release_evidence_id
  claim_released_at : some commit.result.released_at=commit.replacement_claim.released_at
  released_at : commit.result.released_at=commit.release_evidence.event.occurred_at

instance : Decidable (ReleaseResultBound functions view commit) :=
  decidable_of_iff _ (releaseResultBound_iff functions view commit).symm

/-- The classification subject and its proof repeat the fence and the observed state. -/
@[mk_iff] structure ClassificationBound : Prop where
  target : commit.classification_subject.target=view.configured_target
  root_id : commit.classification_subject.root_id=view.bundle.root.value.root_id
  root_sha256 : commit.classification_subject.root_sha256=view.bundle.root.value.root_sha256
  request_sha256 : commit.classification_subject.request_sha256=view.request_sha256
  classification : commit.classification_subject.classification=view.mapping.classification
  epoch : commit.classification_subject.fenced_epoch=view.progress.value.fenced_epoch
  revision : commit.classification_subject.fenced_authority_revision=
    view.progress.value.fenced_authority_revision
  configuration : commit.classification_subject.target_configuration_sha256=
    view.mapping.target_configuration_sha256
  generation : view.bundle.service_claim.value.baseline_service_generation <
    commit.classification_subject.service_generation
  evidence_id : commit.classification_subject.evidence_id=
    commit.classification_evidence.event.evidence_id
  classified_by : commit.classification_subject.classified_by.1=
    verifierIdentity view.configured_target
  classified_at : commit.classification_subject.classified_at=
    commit.classification_evidence.event.occurred_at
  proof_target : view.classification_proof.target=view.configured_target
  proof_root_id : view.classification_proof.root_id=view.bundle.root.value.root_id
  proof_root_sha256 : view.classification_proof.root_sha256=view.bundle.root.value.root_sha256
  proof_classification : view.classification_proof.classification=view.mapping.classification
  proof_epoch : view.classification_proof.fenced_epoch=view.progress.value.fenced_epoch
  proof_revision : view.classification_proof.fenced_authority_revision=
    view.progress.value.fenced_authority_revision
  proof_generation : view.classification_proof.service_generation=
    commit.classification_subject.service_generation
  proof_etag : view.classification_proof.provider_etag.1=
    commit.classification_subject.provider_etag.1
  proof_configuration : view.classification_proof.target_configuration_sha256=
    view.mapping.target_configuration_sha256
  proof_evidence_id : view.classification_proof.evidence_id=
    commit.classification_evidence.event.evidence_id
  proof_evidence_sha256 : view.classification_proof.evidence_sha256=
    functions.canonical_sha256 (.signedEvidence commit.classification_evidence)
  proof_classified_by : view.classification_proof.classified_by.1=
    verifierIdentity view.configured_target
  proof_classified_at : view.classification_proof.classified_at=
    commit.classification_evidence.event.occurred_at

instance : Decidable (ClassificationBound functions view commit) :=
  decidable_of_iff _ (classificationBound_iff functions view commit).symm

/-- The classification event follows the current head. -/
@[mk_iff] structure ClassificationEventBound : Prop where
  evidence_id : commit.classification_evidence.event.evidence_id.1=
    serviceClaimReleaseEvidenceId functions.sha256 view.request_sha256 .classification
  sequence : commit.classification_evidence.event.sequence=view.previous_head.sequence+1
  previous : commit.classification_evidence.event.previous_event_sha256=
    some view.previous_head.evidence_sha256
  subject : commit.classification_evidence.event.subject_sha256=
    functions.canonical_sha256 (.classificationSubject commit.classification_subject)
  kind : commit.classification_evidence.event.kind=.targetVerified
  root_id : commit.classification_evidence.event.root_id=view.bundle.root.value.root_id
  root_sha256 : commit.classification_evidence.event.root_sha256=view.bundle.root.value.root_sha256
  target : commit.classification_evidence.event.target=view.configured_target
  epoch : commit.classification_evidence.event.epoch=view.progress.value.fenced_epoch
  actor : commit.classification_evidence.event.actor.1=verifierIdentity view.configured_target
  request_id : commit.classification_evidence.event.request_id=
    some view.invocation.command.request_id
  receipt_id : commit.classification_evidence.event.receipt_id=none
  occurred_at : view.previous_head.updated_at.1 ≤ commit.classification_evidence.event.occurred_at.1
  reason_code : commit.classification_evidence.event.reason_code=none
  provider_operation : commit.classification_evidence.event.provider_operation=none
  configuration : commit.classification_evidence.event.target_configuration_sha256=
    some view.mapping.target_configuration_sha256
  signing_key : commit.classification_evidence.signing_key_version=
    view.bundle.root.value.content.evidence_signing_key_version

instance : Decidable (ClassificationEventBound functions view commit) :=
  decidable_of_iff _ (classificationEventBound_iff functions view commit).symm

/-- The released claim and the release subject repeat the request and the classification. -/
@[mk_iff] structure ReleaseSubjectBound : Prop where
  claim_released_by : commit.replacement_claim.released_by=some ()
  claim_request_id : commit.replacement_claim.release_request_id=
    some view.invocation.command.request_id
  claim_proof : commit.replacement_claim.target_classification_proof=
    some view.classification_proof
  target : commit.release_subject.target=view.configured_target
  root_id : commit.release_subject.root_id=view.bundle.root.value.root_id
  root_sha256 : commit.release_subject.root_sha256=view.bundle.root.value.root_sha256
  request_sha256 : commit.release_subject.request_sha256=view.request_sha256
  request_id : commit.release_subject.request_id=view.invocation.command.request_id
  idempotency_key : commit.release_subject.idempotency_key=view.invocation.command.idempotency_key
  operator_identity : commit.release_subject.operator_identity=view.invocation.operator_identity
  operator_subject : commit.release_subject.operator_subject=view.invocation.operator_subject
  classification_id : commit.release_subject.classification_evidence_id=
    commit.classification_evidence.event.evidence_id
  classification_sha256 : commit.release_subject.classification_evidence_sha256=
    functions.canonical_sha256 (.signedEvidence commit.classification_evidence)
  fenced_claim : commit.release_subject.fenced_claim_sha256=
    functions.canonical_sha256 (.serviceClaim view.bundle.service_claim.value)
  released_claim : commit.release_subject.released_claim_sha256=
    functions.canonical_sha256 (.serviceClaim commit.replacement_claim)
  fenced_authority : commit.release_subject.fenced_authority_sha256=
    functions.canonical_sha256 (.epochAuthority view.bundle.authority.value)
  epoch : commit.release_subject.fenced_epoch=view.progress.value.fenced_epoch
  revision : commit.release_subject.fenced_authority_revision=
    view.progress.value.fenced_authority_revision
  evidence_id : commit.release_subject.evidence_id=commit.release_evidence.event.evidence_id
  released_at : commit.release_subject.released_at=commit.release_evidence.event.occurred_at

instance : Decidable (ReleaseSubjectBound functions view commit) :=
  decidable_of_iff _ (releaseSubjectBound_iff functions view commit).symm

/-- The release event follows the classification event, and the new head names it. -/
@[mk_iff] structure ReleaseEventBound : Prop where
  evidence_id : commit.release_evidence.event.evidence_id.1=
    serviceClaimReleaseEvidenceId functions.sha256 view.request_sha256 .release
  sequence : commit.release_evidence.event.sequence=
    commit.classification_evidence.event.sequence+1
  previous : commit.release_evidence.event.previous_event_sha256=
    some (functions.canonical_sha256 (.signedEvidence commit.classification_evidence))
  subject : commit.release_evidence.event.subject_sha256=
    functions.canonical_sha256 (.releaseSubject commit.release_subject)
  kind : commit.release_evidence.event.kind=.targetVerified
  root_id : commit.release_evidence.event.root_id=view.bundle.root.value.root_id
  root_sha256 : commit.release_evidence.event.root_sha256=view.bundle.root.value.root_sha256
  target : commit.release_evidence.event.target=view.configured_target
  epoch : commit.release_evidence.event.epoch=view.progress.value.fenced_epoch
  actor : commit.release_evidence.event.actor.1=coordinator
  request_id : commit.release_evidence.event.request_id=some view.invocation.command.request_id
  receipt_id : commit.release_evidence.event.receipt_id=none
  occurred_at : commit.classification_evidence.event.occurred_at.1 ≤
    commit.release_evidence.event.occurred_at.1
  reason_code : commit.release_evidence.event.reason_code=none
  provider_operation : commit.release_evidence.event.provider_operation=none
  configuration : commit.release_evidence.event.target_configuration_sha256=
    some view.mapping.target_configuration_sha256
  head_root_id : commit.chain_head.root_id=commit.release_evidence.event.root_id
  head_root_sha256 : commit.chain_head.root_sha256=commit.release_evidence.event.root_sha256
  head_target : commit.chain_head.target=commit.release_evidence.event.target
  head_sequence : commit.chain_head.sequence=commit.release_evidence.event.sequence
  head_evidence_id : commit.chain_head.evidence_id=commit.release_evidence.event.evidence_id
  head_evidence_sha256 : commit.chain_head.evidence_sha256=
    functions.canonical_sha256 (.signedEvidence commit.release_evidence)
  head_kind : commit.chain_head.kind=commit.release_evidence.event.kind
  head_epoch : commit.chain_head.epoch=commit.release_evidence.event.epoch
  head_updated_at : commit.chain_head.updated_at=commit.release_evidence.event.occurred_at
  signing_key : commit.release_evidence.signing_key_version=
    view.bundle.root.value.content.evidence_signing_key_version

instance : Decidable (ReleaseEventBound functions view commit) :=
  decidable_of_iff _ (releaseEventBound_iff functions view commit).symm

end

/-- Check a final release against the view that it was decided on. -/
def validateServiceClaimFinalizeCommit (functions : AuthorityFunctions)
    (configured_target : TargetBinding) (expected : ServiceClaimReleaseState)
    (commit : ServiceClaimReleaseFinalizeCommitV1) : Except Raised Unit := do
  let incomplete := Raised.valueError "service claim finalize state is incomplete"
  let bundle ← requireSome expected.root_bundle incomplete
  let receipt ← requireSome expected.terminal_receipt incomplete
  let progress ← requireSome expected.progress incomplete
  let request_identity ← requireSome expected.request_identity incomplete
  let idempotency_identity ← requireSome expected.idempotency_identity incomplete
  let terminal ← requireSome expected.terminal_evidence incomplete
  let fence ← requireSome expected.fence_evidence incomplete
  require (expected.chain_head.isSome=true ∧ expected.head_evidence.isSome=true ∧
    expected.result.isNone=true ∧ expected.classification_evidence.isNone=true ∧
    expected.release_evidence.isNone=true) incomplete
  validateReadRootCreationBundle functions configured_target bundle
  validateClaimRelease configured_target bundle.service_claim commit.replacement_claim
    bundle.authority
  let previous_head ← currentEvidenceChainHead functions bundle configured_target
    expected.chain_head expected.head_evidence
  let invocation := expected.invocation
  let request_sha256 := serviceClaimReleaseRequestSha256 functions.sha256 invocation
  let unproven := Raised.valueError "service claim release lacks verifier classification proof"
  let classification_proof ← requireSome commit.replacement_claim.target_classification_proof
    unproven
  let terminal_proof ← requireSome bundle.service_claim.value.terminal_root_proof unproven
  let mapping ← terminalReceiptReleaseMapping receipt.value bundle.service_claim.value
    invocation.command
  let view : ReleaseView :=
    ⟨configured_target,bundle,receipt,progress,terminal,fence,request_identity,
      idempotency_identity,invocation,previous_head,request_sha256,mapping,terminal_proof,
      classification_proof⟩
  require (ReleaseRecordsBound view ∧ StoredProgressBound functions view ∧
      StoredTerminalBound functions view ∧ StoredFenceBound functions view ∧
      ReleaseIdentityBound bundle.root.value request_sha256 progress.value request_identity.value
        .request invocation.command.request_id ∧
      ReleaseIdentityBound bundle.root.value request_sha256 progress.value
        idempotency_identity.value .idempotency invocation.command.idempotency_key ∧
      StoredRevisions view ∧ ReleaseResultBound functions view commit ∧
      ClassificationBound functions view commit ∧
      ClassificationEventBound functions view commit ∧
      ReleaseSubjectBound functions view commit ∧ ReleaseEventBound functions view commit)
    (.valueError "service claim finalize commit is not exactly bound")

/-- The documents of one final release. -/
structure ReleaseDocuments (functions : AuthorityFunctions) where
  service_claim : PreparedDocument functions (claimFamily functions)
  classification_evidence : PreparedDocument functions evidenceFamily
  release_evidence : PreparedDocument functions evidenceFamily
  chain_head : PreparedDocument functions headFamily
  result : PreparedDocument functions releaseResultFamily

/-- Prepare the documents of a final release. -/
def prepareRelease (functions : AuthorityFunctions) (configured_target : TargetBinding)
    (bundle : RootCreationBundle) (commit : ServiceClaimReleaseFinalizeCommitV1) :
    Except Raised (ReleaseDocuments functions) := do
  let claim_logical_id ← serviceClaimLogicalId functions.sha256 configured_target
  let service_claim ← preparedDocument functions (claimFamily functions) claim_logical_id.1
    (bundle.service_claim.revision+1) commit.replacement_claim
  let classification_evidence ← prepareEvidence functions commit.classification_evidence
  let release_evidence ← prepareEvidence functions commit.release_evidence
  let chain_head ← preparedDocument functions headFamily commit.chain_head.root_id.1
    commit.chain_head.sequence commit.chain_head
  let result ← preparedDocument functions releaseResultFamily commit.result.result_id.1 0
    commit.result
  return ⟨service_claim,classification_evidence,release_evidence,chain_head,result⟩

variable {functions : AuthorityFunctions}

/-- Read the owner of a release identity again. -/
def readReleaseIdentity (identity : ServiceClaimReleaseIdentityV1)
    (database : Database functions) :
    Except StoreError (Option (StoredRecord ServiceClaimReleaseIdentityV1)) := do
  let logical_id ← (serviceClaimReleaseIdentityLogicalId identity.identity_kind.value
    identity.identity_value.1).mapError .invalid
  database.release_identities.read (serviceClaimReleaseIdentityDocumentId functions.sha256
    identity.identity_kind.value identity.identity_value.1) logical_id

/-- The stored records of the fence stage that a final release is decided on. -/
structure FencedRecords where
  bundle : RootCreationBundle
  receipt : StoredRecord ExecutionReceipt
  terminal : StoredRecord SignedEvidenceEventV1
  progress : StoredRecord ServiceClaimReleaseProgressV1
  request_identity : StoredRecord ServiceClaimReleaseIdentityV1
  idempotency_identity : StoredRecord ServiceClaimReleaseIdentityV1

/-- Records of a view that are there. -/
def ServiceClaimReleaseState.fenced (expected : ServiceClaimReleaseState) :
    Except StoreError FencedRecords := do
  let absent := StoreError.invalid (.assertionError "fenced records")
  let bundle ← requireSome expected.root_bundle absent
  let receipt ← requireSome expected.terminal_receipt absent
  let terminal ← requireSome expected.terminal_evidence absent
  let progress ← requireSome expected.progress absent
  let request_identity ← requireSome expected.request_identity .conflict
  let idempotency_identity ← requireSome expected.idempotency_identity .conflict
  return ⟨bundle,receipt,terminal,progress,request_identity,idempotency_identity⟩

/-- Require every record of the view to be current and no record of the final release to be
there. -/
def checkReleaseView (configured_target : TargetBinding) (expected : ServiceClaimReleaseState)
    (records : FencedRecords) (commit : ServiceClaimReleaseFinalizeCommitV1)
    (documents : ReleaseDocuments functions) (database : Database functions) :
    Except StoreError Unit := do
  let root_id := commit.result.root_id
  let current_root ← readRoot database root_id
  let current_claim ← readServiceClaim configured_target database
  let current_authority ← readAuthority database root_id
  let current_receipt ← readTerminalReceipt configured_target records.receipt.value database
  let current_terminal ← readEvidence database records.terminal.value.event.evidence_id.1
  let current_head ← database.chain_heads.read (.ok documents.chain_head.document_id) root_id.1
  let expected_predecessor ← requireSome expected.head_evidence .conflict
  let current_predecessor ← readEvidence database expected_predecessor.value.event.evidence_id.1
  let current_progress ← database.release_progress.read
    (serviceClaimReleaseProgressDocumentId functions records.progress.value.result_id)
    records.progress.value.result_id.1
  let current_request_identity ← readReleaseIdentity records.request_identity.value database
  let current_idempotency_identity ← readReleaseIdentity records.idempotency_identity.value database
  let current_classification ← readEvidence database
    commit.classification_evidence.event.evidence_id.1
  let current_release ← readEvidence database commit.release_evidence.event.evidence_id.1
  let current_result ← database.release_results.read (.ok documents.result.document_id)
    commit.result.result_id.1
  require (current_root=some records.bundle.root ∧
    current_claim=some records.bundle.service_claim ∧
    current_authority=some records.bundle.authority ∧ current_receipt=some records.receipt ∧
    current_terminal=some records.terminal ∧ current_head.isSome=true ∧
    current_head=expected.chain_head ∧ current_predecessor=some expected_predecessor ∧
    current_progress=some records.progress ∧
    current_request_identity=some records.request_identity ∧
    current_idempotency_identity=some records.idempotency_identity ∧
    current_classification=none ∧ current_release=none ∧ current_result=none) .conflict

/-- Write the documents of a final release. -/
def writeRelease (documents : ReleaseDocuments functions) (database : Database functions) :
    Except StoreError (Database functions) := do
  let with_classification ← database.signed_evidence.create documents.classification_evidence
  let with_release ← with_classification.create documents.release_evidence
  let release_results ← database.release_results.create documents.result
  return {database with
    service_claims := database.service_claims.put documents.service_claim,
    signed_evidence := with_release,chain_heads := database.chain_heads.put documents.chain_head,
    release_results := release_results}

/-- Release the fenced claim of a root. -/
def commitServiceClaimRelease (configured_target : TargetBinding)
    (expected : ServiceClaimReleaseState) (commit : ServiceClaimReleaseFinalizeCommitV1)
    (database : Database functions) : Except StoreError (Database functions) := do
  (validateServiceClaimFinalizeCommit functions configured_target expected commit).mapError .invalid
  let records ← ServiceClaimReleaseState.fenced expected
  let documents ← (prepareRelease functions configured_target records.bundle commit).mapError
    .invalid
  checkReleaseView configured_target expected records commit documents database
  writeRelease documents database

end ControlGraph.ClaimRelease
