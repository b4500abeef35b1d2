import ControlGraph.RevocationCommits

/-!
# The fence commit of a claim release

The first commit of a release moves the active claim to releasing, ends the epoch
of the root, and appends two events: the terminal state that one verified
receipt shows, and the fence itself. A stranded claim is fenced on its apply
receipt. The transaction reads the receipt, the claim, the authority and the
head again and requires every document of the release to be absent.
-/

namespace ControlGraph.ClaimFence

open Checks ContractText RootContracts ReleaseContracts AuthorityDatabase EvidenceChain
  RootCreation RevocationCommits

open StorageIdentity (serviceClaimReleaseIdentityLogicalId)

open ReceiptContracts hiding ServiceClaimRecord

open ReceiptStore (StoreError isServiceClaimTarget serviceClaimLogicalId)

/-- What of a claim never changes while one root owns it. -/
structure ClaimOwnershipBinding where
  target : TargetBinding
  root_id : Identifier
  root_sha256 : Sha256Digest
  stable_revision : CloudRunName
  candidate_revision : CloudRunName
  initial_epoch : PositiveSafeInteger
  baseline_service_generation : Nat
  baseline_configuration_sha256 : Sha256Digest
  baseline_revision_configuration_sha256 : Sha256Digest
  candidate_revision_configuration_sha256 : Sha256Digest
  stable_target_configuration_sha256 : Sha256Digest
  candidate_target_configuration_sha256 : Sha256Digest
  operator_owner : BoundedText
  claim_request_id : Identifier
  claim_evidence_id : Identifier
  claimed_at : UtcSecond
  deriving DecidableEq

/-- The ownership binding of a claim. The workload creator and the release condition are
constants of the record. -/
def claimOwnershipBinding (claim : ServiceClaimRecord) : ClaimOwnershipBinding where
  target := claim.target
  root_id := claim.root_id
  root_sha256 := claim.root_sha256
  stable_revision := claim.stable_revision
  candidate_revision := claim.candidate_revision
  initial_epoch := claim.initial_epoch
  baseline_service_generation := claim.baseline_service_generation
  baseline_configuration_sha256 := claim.baseline_configuration_sha256
  baseline_revision_configuration_sha256 := claim.baseline_revision_configuration_sha256
  candidate_revision_configuration_sha256 := claim.candidate_revision_configuration_sha256
  stable_target_configuration_sha256 := claim.stable_target_configuration_sha256
  candidate_target_configuration_sha256 := claim.candidate_target_configuration_sha256
  operator_owner := claim.operator_owner
  claim_request_id := claim.claim_request_id
  claim_evidence_id := claim.claim_evidence_id
  claimed_at := claim.claimed_at

/-- Check that a claim moves from active to releasing. -/
def validateClaimFence (configured_target : TargetBinding)
    (expected : StoredRecord ServiceClaimRecord) (replacement : ServiceClaimRecord) :
    Except Raised Unit := do
  let current := expected.value
  require (current.target=configured_target ∧ replacement.target=configured_target)
    (.valueError "service claim does not match the configured target")
  require (current.status=.active ∧ replacement.status=.releasing ∧
      claimOwnershipBinding replacement=claimOwnershipBinding current)
    (.valueError "service claim replacement is not an exact epoch fence")

/-- A claim that is fenced by one step of the authority of its root. -/
@[mk_iff] structure FencedByAuthority (current_claim replacement_claim : ServiceClaimRecord)
    (current_authority replacement_authority : EpochAuthorityRecord) : Prop where
  current_root_id : current_claim.root_id=current_authority.root_id
  current_root_sha256 : current_claim.root_sha256=current_authority.root_sha256
  root_id : replacement_claim.root_id=replacement_authority.root_id
  root_sha256 : replacement_claim.root_sha256=replacement_authority.root_sha256
  epoch : replacement_claim.release_fence_epoch=some replacement_authority.current_epoch
  revision : replacement_claim.release_fence_authority_revision=some replacement_authority.revision
  fenced_by : replacement_claim.release_fenced_by=some replacement_authority.changed_by
  request_id : replacement_claim.release_fence_request_id=some replacement_authority.request_id
  evidence_id : replacement_claim.release_fence_evidence_id=some replacement_authority.evidence_id
  fenced_at : replacement_claim.release_fenced_at=some replacement_authority.changed_at
  cause : replacement_authority.cause=.operatorRevocation

instance (current_claim replacement_claim : ServiceClaimRecord)
    (current_authority replacement_authority : EpochAuthorityRecord) : Decidable
      (FencedByAuthority current_claim replacement_claim current_authority
        replacement_authority) :=
  decidable_of_iff _ (fencedByAuthority_iff current_claim replacement_claim current_authority
    replacement_authority).symm

/-- Check that a claim fence and an authority step are one transition. -/
def validateClaimFenceAuthority (configured_target : TargetBinding)
    (expected_claim : StoredRecord ServiceClaimRecord) (replacement_claim : ServiceClaimRecord)
    (expected_authority : StoredRecord EpochAuthorityRecord)
    (replacement_authority : EpochAuthorityRecord) : Except Raised Unit := do
  validateClaimFence configured_target expected_claim replacement_claim
  validateAuthorityAdvance configured_target expected_authority replacement_authority
  require (FencedByAuthority expected_claim.value replacement_claim expected_authority.value
      replacement_authority)
    (.valueError "service claim fence and authority advance are not one transition")

/-- Terminal state that the release of a claim goes with. -/
structure ReleaseMapping where
  state : ServiceClaimTerminalRootState
  classification : ServiceClaimTargetClassification
  target_configuration_sha256 : Sha256Digest

/-- Terminal state that a receipt shows. -/
def terminalReceiptReleaseMapping (receipt : ExecutionReceipt) (claim : ServiceClaimRecord)
    (command : ReleaseCommand) : Except Raised ReleaseMapping :=
  match command with
  | .stranded _ =>
    .ok ⟨.strandedStable,.stableRestored,claim.stable_target_configuration_sha256⟩
  | .terminal _ =>
    match receipt.action with
    | .promoteCandidate =>
      .ok ⟨.promoted,.candidatePromoted,claim.candidate_target_configuration_sha256⟩
    | .recoverStable => .ok ⟨.recovered,.stableRestored,claim.stable_target_configuration_sha256⟩
    | _ => .error (.valueError "terminal receipt action cannot release a service claim")

section

variable (functions : AuthorityFunctions)

/-- Digest of a root-derived recovery state. -/
def recoveryTargetConfigurationSha256 (root : RolloutRootV3)
    (stable_percent candidate_percent : Nat) : Except Raised Sha256Digest := do
  require ((stable_percent,candidate_percent)=(90,10) ∨ (stable_percent,candidate_percent)=(100,0))
    (.valueError "recovery target configuration must be exact 90/10 or 100/0")
  return targetConfigurationProjectionSha256 functions
    (rootProjection root stable_percent candidate_percent)

/-- Locator of a durable verified apply receipt. -/
def createRecoveryApplyReceiptLocator (receipt : ExecutionReceipt) (storage_revision : Nat) :
    Except Raised RecoveryApplyReceiptLocatorV1 := do
  let inexact := Raised.valueError "recovery requires a durable verified APPLY receipt"
  let provider_operation ← requireSome receipt.provider_operation inexact
  let observed_etag ← requireSome receipt.observed_etag inexact
  let observed ← requireSome receipt.observed_authority_epoch inexact
  require (receipt.action=.applyCanary ∧ receipt.outcome=.verified ∧ receipt.reason_code=none ∧
    observed=receipt.epoch ∧ 2 ≤ storage_revision) inexact
  if hbound : 2 ≤ storage_revision ∧ storage_revision ≤ maxRevision then
    if hbindings : isServiceClaimTarget receipt.target=true ∧
        receipt.root_id.1="cgroot:"++receipt.root_sha256.1 ∧ observed=receipt.epoch then
      .ok {
        receipt_id := receipt.receipt_id
        request_id := receipt.request_id
        idempotency_key := receipt.idempotency_key
        capability_sha256 := receipt.capability_sha256
        mutation_sha256 := receipt.mutation_sha256
        plan_sha256 := receipt.plan_sha256
        expected_poststate_sha256 := receipt.expected_poststate_sha256
        target := receipt.target
        root_id := receipt.root_id
        root_sha256 := receipt.root_sha256
        epoch := receipt.epoch
        provider_etag := receipt.provider_etag
        provider_operation := provider_operation
        observed_etag := observed_etag
        observed_authority_epoch := observed
        receipt_sha256 := functions.canonical_sha256 (.executionReceipt receipt)
        storage_revision := storage_revision
        revision_bound := hbound
        bindings := hbindings}
    else .error (.valueError "recovery apply receipt locator bindings are invalid")
  else .error .validationError

/-- Whether a value was computed without an error and satisfies a test. -/
def succeedsWith {Value : Type} (computed : Except Raised Value) (test : Value → Bool) : Bool :=
  match computed with
  | .ok value => test value
  | .error _ => false

/-- Whether a receipt is the exact apply receipt that a stranded release names. -/
def strandedApplyReceiptIsExact (configured_target : TargetBinding) (root : RolloutRootV3)
    (receipt_record : StoredRecord ExecutionReceipt)
    (command : StrandedStableClaimReleaseCommandV1) : Bool :=
  let receipt := receipt_record.value
  succeedsWith (createRecoveryApplyReceiptLocator functions receipt receipt_record.revision)
      (fun locator => decide (locator=command.verified_apply_receipt)) &&
    succeedsWith (recoveryTargetConfigurationSha256 functions root 90 10)
      (fun expected_poststate => decide (receipt.expected_poststate_sha256=expected_poststate)) &&
    decide (receipt.receipt_id.1=(executionReceiptLogicalId functions.sha256 configured_target
        command.verified_apply_receipt.idempotency_key).1 ∧
      receipt.target=configured_target ∧ receipt.root_id=root.root_id ∧
      receipt.root_sha256=root.root_sha256 ∧ receipt.epoch=command.expected_epoch ∧
      receipt.action=.applyCanary ∧
      receipt.plan_sha256=functions.canonical_sha256 (.rolloutPlan root.content.rollout_plan) ∧
      receipt.provider_etag=root.content.stable_snapshot.provider_etag ∧
      receipt.outcome=.verified ∧ receipt.reason_code=none ∧
      receipt.provider_operation.isSome=true ∧ receipt.observed_etag.isSome=true ∧
      receipt.observed_authority_epoch=some command.expected_epoch)

end

/-- What a fence is checked against. -/
structure FenceView where
  configured_target : TargetBinding
  bundle : RootCreationBundle
  receipt : StoredRecord ExecutionReceipt
  invocation : ServiceClaimReleaseInvocationV1
  previous_head : EvidenceChainHeadV1
  request_sha256 : Sha256Digest
  /-- What the receipt shows. -/
  mapping : ReleaseMapping
  terminal_proof : ServiceClaimTerminalRootProof

/-- Whether the receipt of a fence is the one that its command names. -/
def FenceView.receiptIsExact (functions : AuthorityFunctions) (view : FenceView) : Bool :=
  let receipt := view.receipt.value
  let root := view.bundle.root.value
  match view.invocation.command with
  | .stranded command =>
    decide (view.bundle.service_claim.revision=command.expected_service_claim_revision ∧
      functions.canonical_sha256 (.serviceClaim view.bundle.service_claim.value)=
        command.expected_service_claim_sha256) &&
    strandedApplyReceiptIsExact functions view.configured_target root view.receipt command
  | .terminal command =>
    decide (1 ≤ view.receipt.revision ∧
      receipt.receipt_id.1=(executionReceiptLogicalId functions.sha256 view.configured_target
        command.terminal_receipt_idempotency_key).1 ∧
      receipt.idempotency_key=command.terminal_receipt_idempotency_key ∧
      receipt.target=view.configured_target ∧ receipt.root_id=root.root_id ∧
      receipt.root_sha256=root.root_sha256 ∧ receipt.outcome=.verified ∧
      receipt.reason_code=none ∧ receipt.observed_etag.isSome=true ∧
      receipt.expected_poststate_sha256=view.mapping.target_configuration_sha256 ∧
      receipt.epoch.1 ≤ view.bundle.authority.value.current_epoch.1)

/-- Whether a terminal subject repeats its command and its receipt. -/
def terminalSubjectIsExact (functions : AuthorityFunctions) (mapping : ReleaseMapping)
    (receipt : StoredRecord ExecutionReceipt) (command : ReleaseCommand)
    (subject : TerminalSubject) : Bool :=
  match command,subject with
  | .stranded command,.stranded subject =>
    decide (subject.expected_stable_target_configuration_sha256=
        mapping.target_configuration_sha256 ∧
      subject.expected_service_claim_sha256=command.expected_service_claim_sha256 ∧
      subject.expected_service_claim_revision=command.expected_service_claim_revision ∧
      subject.verified_apply_receipt=command.verified_apply_receipt ∧
      subject.reason=command.reason)
  | .terminal _,.terminal subject =>
    decide (subject.state=mapping.state ∧
      subject.target_configuration_sha256=mapping.target_configuration_sha256 ∧
      subject.receipt_id=receipt.value.receipt_id ∧
      subject.receipt_sha256=functions.canonical_sha256 (.executionReceipt receipt.value) ∧
      subject.receipt_revision=receipt.revision ∧ subject.receipt_epoch=receipt.value.epoch ∧
      subject.receipt_action=receipt.value.action)
  | _,_ => false

/-- Whether a terminal event has the kind and the target state of its command. -/
def terminalEventIsExact (mapping : ReleaseMapping) (receipt : ExecutionReceipt)
    (command : ReleaseCommand) (event : EvidenceEvent) : Bool :=
  match command with
  | .stranded _ =>
    decide (event.kind=.outcomeAmbiguous ∧ event.receipt_id=some receipt.receipt_id ∧
      event.target_configuration_sha256=none)
  | .terminal _ =>
    decide (event.kind=.targetVerified ∧ event.receipt_id=some receipt.receipt_id ∧
      event.target_configuration_sha256=some mapping.target_configuration_sha256)

section

variable (functions : AuthorityFunctions) (view : FenceView)
  (commit : ServiceClaimReleaseFenceCommitV1)

/-- The records of a fence belong to one root and to its command. -/
@[mk_iff] structure FenceRecordsBound : Prop where
  root_target : view.bundle.root.value.content.target=view.configured_target
  root_id : view.bundle.root.value.root_id=view.invocation.command.root_id
  root_sha256 : view.bundle.root.value.root_sha256=view.invocation.command.expected_root_sha256
  claim_target : view.bundle.service_claim.value.target=view.configured_target
  claim_root_id : view.bundle.service_claim.value.root_id=view.bundle.root.value.root_id
  claim_root_sha256 : view.bundle.service_claim.value.root_sha256=view.bundle.root.value.root_sha256
  authority_target : view.bundle.authority.value.target=view.configured_target
  authority_root_id : view.bundle.authority.value.root_id=view.bundle.root.value.root_id
  authority_root_sha256 : view.bundle.authority.value.root_sha256=view.bundle.root.value.root_sha256
  epoch : view.bundle.authority.value.current_epoch=view.invocation.command.expected_epoch
  receipt : view.receiptIsExact functions=true
  receipt_updated_at : view.receipt.value.updated_at.1 ≤ commit.progress.fenced_at.1
  head_updated_at : view.previous_head.updated_at.1 ≤ commit.progress.fenced_at.1
  changed_by : commit.replacement_authority.changed_by=view.invocation.operator_identity
  authority_request_id : commit.replacement_authority.request_id=
    view.invocation.command.request_id
  authority_evidence_id : commit.replacement_authority.evidence_id=
    commit.fence_evidence.event.evidence_id
  changed_at : commit.replacement_authority.changed_at=commit.progress.fenced_at
  fenced_by : commit.replacement_claim.release_fenced_by=some view.invocation.operator_identity
  claim_request_id : commit.replacement_claim.release_fence_request_id=
    some view.invocation.command.request_id
  claim_evidence_id : commit.replacement_claim.release_fence_evidence_id=
    some commit.fence_evidence.event.evidence_id
  fenced_at : commit.replacement_claim.release_fenced_at=some commit.progress.fenced_at

instance : Decidable (FenceRecordsBound functions view commit) :=
  decidable_of_iff _ (fenceRecordsBound_iff functions view commit).symm

/-- The terminal subject, proof and event of a fence say the same. -/
@[mk_iff] structure FenceTerminalBound : Prop where
  subject_target : commit.terminal_subject.target=view.configured_target
  subject_root_id : commit.terminal_subject.root_id=view.bundle.root.value.root_id
  subject_root_sha256 : commit.terminal_subject.root_sha256=view.bundle.root.value.root_sha256
  subject_exact : terminalSubjectIsExact functions view.mapping view.receipt
    view.invocation.command commit.terminal_subject=true
  subject_evidence_id : commit.terminal_subject.evidence_id=
    commit.terminal_evidence.event.evidence_id
  confirmed_at : commit.terminal_subject.confirmed_at=commit.progress.fenced_at
  proof_target : view.terminal_proof.target=commit.terminal_subject.target
  proof_root_id : view.terminal_proof.root_id=commit.terminal_subject.root_id
  proof_root_sha256 : view.terminal_proof.root_sha256=commit.terminal_subject.root_sha256
  proof_state : view.terminal_proof.state=commit.terminal_subject.state
  proof_configuration : view.terminal_proof.target_configuration_sha256=
    view.mapping.target_configuration_sha256
  proof_evidence_id : view.terminal_proof.evidence_id=commit.terminal_evidence.event.evidence_id
  proof_evidence_sha256 : view.terminal_proof.evidence_sha256=
    functions.canonical_sha256 (.signedEvidence commit.terminal_evidence)
  proof_confirmed_at : view.terminal_proof.confirmed_at=commit.terminal_subject.confirmed_at
  event_root_id : commit.terminal_evidence.event.root_id=view.bundle.root.value.root_id
  event_root_sha256 : commit.terminal_evidence.event.root_sha256=view.bundle.root.value.root_sha256
  event_target : commit.terminal_evidence.event.target=view.configured_target
  event_epoch : commit.terminal_evidence.event.epoch=view.receipt.value.epoch
  event_actor : commit.terminal_evidence.event.actor.1=coordinator
  event_request_id : commit.terminal_evidence.event.request_id=
    some view.invocation.command.request_id
  event_occurred_at : commit.terminal_evidence.event.occurred_at=commit.progress.fenced_at
  event_reason_code : commit.terminal_evidence.event.reason_code=none
  event_provider_operation : commit.terminal_evidence.event.provider_operation=none
  event_exact : terminalEventIsExact view.mapping view.receipt.value view.invocation.command
    commit.terminal_evidence.event=true

instance : Decidable (FenceTerminalBound functions view commit) :=
  decidable_of_iff _ (fenceTerminalBound_iff functions view commit).symm

/-- The fence subject and event repeat the two transitions. -/
@[mk_iff] structure FenceSubjectBound : Prop where
  target : commit.fence_subject.target=view.configured_target
  root_id : commit.fence_subject.root_id=view.bundle.root.value.root_id
  root_sha256 : commit.fence_subject.root_sha256=view.bundle.root.value.root_sha256
  request_sha256 : commit.fence_subject.request_sha256=view.request_sha256
  request_id : commit.fence_subject.request_id=view.invocation.command.request_id
  idempotency_key : commit.fence_subject.idempotency_key=view.invocation.command.idempotency_key
  operator_identity : commit.fence_subject.operator_identity=view.invocation.operator_identity
  operator_subject : commit.fence_subject.operator_subject=view.invocation.operator_subject
  terminal_evidence_id : commit.fence_subject.terminal_evidence_id=
    commit.terminal_evidence.event.evidence_id
  terminal_evidence_sha256 : commit.fence_subject.terminal_evidence_sha256=
    functions.canonical_sha256 (.signedEvidence commit.terminal_evidence)
  previous_claim : commit.fence_subject.previous_claim_sha256=
    functions.canonical_sha256 (.serviceClaim view.bundle.service_claim.value)
  replacement_claim : commit.fence_subject.replacement_claim_sha256=
    functions.canonical_sha256 (.serviceClaim commit.replacement_claim)
  previous_authority : commit.fence_subject.previous_authority_sha256=
    functions.canonical_sha256 (.epochAuthority view.bundle.authority.value)
  replacement_authority : commit.fence_subject.replacement_authority_sha256=
    functions.canonical_sha256 (.epochAuthority commit.replacement_authority)
  previous_epoch : commit.fence_subject.previous_epoch=view.bundle.authority.value.current_epoch
  new_epoch : commit.fence_subject.new_epoch=commit.replacement_authority.current_epoch
  evidence_id : commit.fence_subject.evidence_id=commit.fence_evidence.event.evidence_id
  fenced_at : commit.fence_subject.fenced_at=commit.progress.fenced_at
  event_root_id : commit.fence_evidence.event.root_id=view.bundle.root.value.root_id
  event_root_sha256 : commit.fence_evidence.event.root_sha256=view.bundle.root.value.root_sha256
  event_target : commit.fence_evidence.event.target=view.configured_target
  event_actor : commit.fence_evidence.event.actor=view.invocation.operator_identity
  event_receipt_id : commit.fence_evidence.event.receipt_id=none
  event_occurred_at : commit.fence_evidence.event.occurred_at=commit.progress.fenced_at
  event_reason_code : commit.fence_evidence.event.reason_code=none
  event_provider_operation : commit.fence_evidence.event.provider_operation=none
  event_configuration : commit.fence_evidence.event.target_configuration_sha256=none

instance : Decidable (FenceSubjectBound functions view commit) :=
  decidable_of_iff _ (fenceSubjectBound_iff functions view commit).symm

/-- The progress record of a fence repeats its request and its evidence. -/
@[mk_iff] structure FenceProgressBound : Prop where
  request_sha256 : commit.progress.request_sha256=view.request_sha256
  result_id : commit.progress.result_id.1="cgrelease:"++view.request_sha256.1
  request_id : commit.progress.request_id=view.invocation.command.request_id
  idempotency_key : commit.progress.idempotency_key=view.invocation.command.idempotency_key
  root_id : commit.progress.root_id=view.bundle.root.value.root_id
  root_sha256 : commit.progress.root_sha256=view.bundle.root.value.root_sha256
  target : commit.progress.target=view.configured_target
  receipt_id : commit.progress.terminal_receipt_id=view.receipt.value.receipt_id
  receipt_sha256 : commit.progress.terminal_receipt_sha256=
    functions.canonical_sha256 (.executionReceipt view.receipt.value)
  terminal_sha256 : commit.progress.terminal_evidence_sha256=
    functions.canonical_sha256 (.signedEvidence commit.terminal_evidence)
  fence_sha256 : commit.progress.fence_evidence_sha256=
    functions.canonical_sha256 (.signedEvidence commit.fence_evidence)
  terminal_subject : commit.progress.terminal_subject=commit.terminal_subject
  fence_subject : commit.progress.fence_subject=commit.fence_subject
  terminal_id : commit.progress.terminal_evidence_id=commit.terminal_evidence.event.evidence_id
  fence_id : commit.progress.fence_evidence_id=commit.fence_evidence.event.evidence_id
  epoch : commit.progress.fenced_epoch=commit.replacement_authority.current_epoch
  revision : commit.progress.fenced_authority_revision=commit.replacement_authority.revision
  fenced_at : commit.progress.fenced_at=commit.replacement_authority.changed_at

instance : Decidable (FenceProgressBound functions view commit) :=
  decidable_of_iff _ (fenceProgressBound_iff functions view commit).symm

/-- The two events of a fence follow the current head, and the new head names the second. -/
@[mk_iff] structure FenceChainBound : Prop where
  terminal_id : commit.terminal_evidence.event.evidence_id.1=
    serviceClaimReleaseEvidenceId functions.sha256 view.request_sha256 .terminal
  terminal_sequence : commit.terminal_evidence.event.sequence=view.previous_head.sequence+1
  terminal_previous : commit.terminal_evidence.event.previous_event_sha256=
    some view.previous_head.evidence_sha256
  terminal_subject : commit.terminal_evidence.event.subject_sha256=
    functions.canonical_sha256 (.terminalSubject commit.terminal_subject)
  fence_id : commit.fence_evidence.event.evidence_id.1=
    serviceClaimReleaseEvidenceId functions.sha256 view.request_sha256 .fence
  fence_sequence : commit.fence_evidence.event.sequence=commit.terminal_evidence.event.sequence+1
  fence_previous : commit.fence_evidence.event.previous_event_sha256=
    some (functions.canonical_sha256 (.signedEvidence commit.terminal_evidence))
  fence_subject : commit.fence_evidence.event.subject_sha256=
    functions.canonical_sha256 (.fenceSubject commit.fence_subject)
  fence_kind : commit.fence_evidence.event.kind=.epochAdvanced
  fence_epoch : commit.fence_evidence.event.epoch=commit.replacement_authority.current_epoch
  fence_request_id : commit.fence_evidence.event.request_id=
    some view.invocation.command.request_id
  head_root_id : commit.chain_head.root_id=commit.fence_evidence.event.root_id
  head_root_sha256 : commit.chain_head.root_sha256=commit.fence_evidence.event.root_sha256
  head_target : commit.chain_head.target=commit.fence_evidence.event.target
  head_sequence : commit.chain_head.sequence=commit.fence_evidence.event.sequence
  head_evidence_id : commit.chain_head.evidence_id=commit.fence_evidence.event.evidence_id
  head_evidence_sha256 : commit.chain_head.evidence_sha256=
    functions.canonical_sha256 (.signedEvidence commit.fence_evidence)
  head_kind : commit.chain_head.kind=commit.fence_evidence.event.kind
  head_epoch : commit.chain_head.epoch=commit.fence_evidence.event.epoch
  head_updated_at : commit.chain_head.updated_at=commit.fence_evidence.event.occurred_at
  terminal_signing_key : commit.terminal_evidence.signing_key_version=
    view.bundle.root.value.content.evidence_signing_key_version
  fence_signing_key : commit.fence_evidence.signing_key_version=
    view.bundle.root.value.content.evidence_signing_key_version

instance : Decidable (FenceChainBound functions view commit) :=
  decidable_of_iff _ (fenceChainBound_iff functions view commit).symm

/-- An identity that is claimed by a release. -/
@[mk_iff] structure ReleaseIdentityBound (root : RolloutRootV3) (request_sha256 : Sha256Digest)
    (progress : ServiceClaimReleaseProgressV1) (identity : ServiceClaimReleaseIdentityV1)
    (kind : ServiceClaimReleaseIdentityKind) (value : Identifier) : Prop where
  identity_kind : identity.identity_kind=kind
  identity_value : identity.identity_value=value
  request_digest : identity.request_sha256=request_sha256
  result_id : identity.result_id=progress.result_id
  root_id : identity.root_id=root.root_id
  root_sha256 : identity.root_sha256=root.root_sha256
  claimed_at : identity.claimed_at=progress.fenced_at

instance (root : RolloutRootV3) (request_sha256 : Sha256Digest)
    (progress : ServiceClaimReleaseProgressV1) (identity : ServiceClaimReleaseIdentityV1)
    (kind : ServiceClaimReleaseIdentityKind) (value : Identifier) : Decidable
      (ReleaseIdentityBound root request_sha256 progress identity kind value) :=
  decidable_of_iff _
    (releaseIdentityBound_iff root request_sha256 progress identity kind value).symm

end

/-- Whether no record of a release is there yet. -/
def isPristine (expected : ServiceClaimReleaseState) : Bool :=
  expected.request_identity.isNone && expected.idempotency_identity.isNone &&
    expected.progress.isNone && expected.result.isNone && expected.terminal_evidence.isNone &&
    expected.fence_evidence.isNone && expected.classification_evidence.isNone &&
    expected.release_evidence.isNone

/-- Check a claim fence against the view that it was decided on. -/
def validateServiceClaimFenceCommit (functions : AuthorityFunctions)
    (configured_target : TargetBinding) (expected : ServiceClaimReleaseState)
    (commit : ServiceClaimReleaseFenceCommitV1) : Except Raised Unit := do
  let pristine := Raised.valueError "service claim fence state is not pristine"
  let bundle ← requireSome expected.root_bundle pristine
  let receipt ← requireSome expected.terminal_receipt pristine
  require (isPristine expected=true) pristine
  validateReadRootCreationBundle functions configured_target bundle
  validateClaimFenceAuthority configured_target bundle.service_claim commit.replacement_claim
    bundle.authority commit.replacement_authority
  let previous_head ← currentEvidenceChainHead functions bundle configured_target
    expected.chain_head expected.head_evidence
  let invocation := expected.invocation
  let request_sha256 := serviceClaimReleaseRequestSha256 functions.sha256 invocation
  let mapping ← terminalReceiptReleaseMapping receipt.value bundle.service_claim.value
    invocation.command
  let terminal_proof ← requireSome commit.replacement_claim.terminal_root_proof
    (.valueError "service claim fence lacks terminal proof")
  let view : FenceView :=
    ⟨configured_target,bundle,receipt,invocation,previous_head,request_sha256,mapping,terminal_proof⟩
  require (FenceRecordsBound functions view commit ∧ FenceTerminalBound functions view commit ∧
      FenceSubjectBound functions view commit ∧ FenceProgressBound functions view commit ∧
      FenceChainBound functions view commit ∧
      ReleaseIdentityBound bundle.root.value request_sha256 commit.progress
        commit.request_identity .request invocation.command.request_id ∧
      ReleaseIdentityBound bundle.root.value request_sha256 commit.progress
        commit.idempotency_identity .idempotency invocation.command.idempotency_key)
    (.valueError "service claim fence commit is not exactly bound")

/-- The documents of one claim fence. -/
structure FenceDocuments (functions : AuthorityFunctions) where
  service_claim : PreparedDocument functions (claimFamily functions)
  authority : PreparedDocument functions authorityFamily
  terminal_evidence : PreparedDocument functions evidenceFamily
  fence_evidence : PreparedDocument functions evidenceFamily
  chain_head : PreparedDocument functions headFamily
  progress : PreparedDocument functions releaseProgressFamily
  request_identity : PreparedDocument functions releaseIdentityFamily
  idempotency_identity : PreparedDocument functions releaseIdentityFamily

def prepareEvidence (functions : AuthorityFunctions) (evidence : SignedEvidenceEventV1) :
    Except Raised (PreparedDocument functions evidenceFamily) :=
  preparedDocument functions evidenceFamily evidence.event.evidence_id.1 0 evidence

def prepareReleaseIdentity (functions : AuthorityFunctions)
    (identity : ServiceClaimReleaseIdentityV1) :
    Except Raised (PreparedDocument functions releaseIdentityFamily) := do
  let logical_id ← serviceClaimReleaseIdentityLogicalId identity.identity_kind.value
    identity.identity_value.1
  preparedDocument functions releaseIdentityFamily logical_id 0 identity

/-- Prepare the documents of a claim fence. -/
def prepareFence (functions : AuthorityFunctions) (configured_target : TargetBinding)
    (bundle : RootCreationBundle) (commit : ServiceClaimReleaseFenceCommitV1) :
    Except Raised (FenceDocuments functions) := do
  let claim_logical_id ← serviceClaimLogicalId functions.sha256 configured_target
  let service_claim ← preparedDocument functions (claimFamily functions) claim_logical_id.1
    (bundle.service_claim.revision+1) commit.replacement_claim
  let authority ← preparedDocument functions authorityFamily commit.replacement_authority.root_id.1
    (bundle.authority.revision+1) commit.replacement_authority
  let terminal_evidence ← prepareEvidence functions commit.terminal_evidence
  let fence_evidence ← prepareEvidence functions commit.fence_evidence
  let chain_head ← preparedDocument functions headFamily commit.chain_head.root_id.1
    commit.chain_head.sequence commit.chain_head
  let progress ← preparedDocument functions releaseProgressFamily commit.progress.result_id.1 0
    commit.progress
  let request_identity ← prepareReleaseIdentity functions commit.request_identity
  let idempotency_identity ← prepareReleaseIdentity functions commit.idempotency_identity
  return ⟨service_claim,authority,terminal_evidence,fence_evidence,chain_head,progress,
    request_identity,idempotency_identity⟩

variable {functions : AuthorityFunctions}

/-- Read the terminal receipt of a release again. -/
def readTerminalReceipt (configured_target : TargetBinding) (receipt : ExecutionReceipt)
    (database : Database functions) : Except StoreError (Option (StoredRecord ExecutionReceipt)) :=
  database.receipts.read
    (executionReceiptDocumentId functions.sha256 configured_target receipt.idempotency_key)
    (executionReceiptLogicalId functions.sha256 configured_target receipt.idempotency_key).1

/-- Require every record of the view to be current and no record of the release to be there. -/
def checkFenceView (configured_target : TargetBinding) (expected : ServiceClaimReleaseState)
    (bundle : RootCreationBundle) (receipt : StoredRecord ExecutionReceipt)
    (commit : ServiceClaimReleaseFenceCommitV1) (documents : FenceDocuments functions)
    (database : Database functions) : Except StoreError Unit := do
  let root_id := commit.progress.root_id
  let current_root ← readRoot database root_id
  let current_claim ← readServiceClaim configured_target database
  let current_authority ← database.authorities.read (.ok documents.authority.document_id) root_id.1
  let current_receipt ← readTerminalReceipt configured_target receipt.value database
  let current_head ← database.chain_heads.read (.ok documents.chain_head.document_id) root_id.1
  let expected_predecessor ← requireSome
    (predecessor bundle expected.chain_head expected.head_evidence) .conflict
  let current_predecessor ← readEvidence database expected_predecessor.value.event.evidence_id.1
  let current_terminal ← readEvidence database commit.terminal_evidence.event.evidence_id.1
  let current_fence ← readEvidence database commit.fence_evidence.event.evidence_id.1
  let current_progress ← database.release_progress.read (.ok documents.progress.document_id)
    documents.progress.document.logical_id
  let current_request_identity ← database.release_identities.read
    (.ok documents.request_identity.document_id) documents.request_identity.document.logical_id
  let current_idempotency_identity ← database.release_identities.read
    (.ok documents.idempotency_identity.document_id)
    documents.idempotency_identity.document.logical_id
  let request_sha256 := serviceClaimReleaseRequestSha256 functions.sha256 expected.invocation
  let current_classification ← readEvidence database
    (serviceClaimReleaseEvidenceId functions.sha256 request_sha256 .classification)
  let current_release ← readEvidence database
    (serviceClaimReleaseEvidenceId functions.sha256 request_sha256 .release)
  let current_result ← database.release_results.read
    (serviceClaimReleaseResultDocumentId functions commit.progress.result_id)
    commit.progress.result_id.1
  require (current_root=some bundle.root ∧ current_claim=some bundle.service_claim ∧
    current_authority=some bundle.authority ∧ current_receipt=some receipt ∧
    current_head=expected.chain_head ∧ current_predecessor=some expected_predecessor ∧
    current_terminal=none ∧ current_fence=none ∧ current_progress=none ∧
    current_request_identity=none ∧ current_idempotency_identity=none ∧
    current_classification=none ∧ current_release=none ∧ current_result=none) .conflict

/-- Write the documents of a claim fence. -/
def writeFence (current_head : Option (StoredRecord EvidenceChainHeadV1))
    (documents : FenceDocuments functions) (database : Database functions) :
    Except StoreError (Database functions) := do
  let with_terminal ← database.signed_evidence.create documents.terminal_evidence
  let with_fence ← with_terminal.create documents.fence_evidence
  let chain_heads ← writeHead current_head documents.chain_head database.chain_heads
  let release_progress ← database.release_progress.create documents.progress
  let claimed_request ← database.release_identities.create documents.request_identity
  let claimed_key ← claimed_request.create documents.idempotency_identity
  return {database with
    service_claims := database.service_claims.put documents.service_claim,
    authorities := database.authorities.put documents.authority,signed_evidence := with_fence,
    chain_heads := chain_heads,release_progress := release_progress,
    release_identities := claimed_key}

/-- Fence the claim of a root and the authority with it. -/
def commitServiceClaimFence (configured_target : TargetBinding)
    (expected : ServiceClaimReleaseState) (commit : ServiceClaimReleaseFenceCommitV1)
    (database : Database functions) : Except StoreError (Database functions) := do
  (validateServiceClaimFenceCommit functions configured_target expected commit).mapError .invalid
  let bundle ← requireSome expected.root_bundle (.invalid (.assertionError "root bundle"))
  let receipt ← requireSome expected.terminal_receipt
    (.invalid (.assertionError "terminal receipt"))
  let documents ← (prepareFence functions configured_target bundle commit).mapError .invalid
  checkFenceView configured_target expected bundle receipt commit documents database
  writeFence expected.chain_head documents database

end ControlGraph.ClaimFence
