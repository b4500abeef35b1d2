import ControlGraph.AbandonmentContracts

/-!
# The fence commit of an abandonment

The commit is checked against the view that its caller has read: a dispatch that
can still be abandoned and whose task has expired, the active claim, and the
authority that owns the dispatch or has revoked it since. The transaction reads
every record of the view again, reads the receipt of the dispatch as absent, and
writes nine documents. An accepted commit therefore found no receipt and leaves
the next epoch behind.
-/

namespace ControlGraph.AbandonmentFence

open Checks ContractText RootContracts AuthorityDatabase EvidenceChain RootCreation
  RevocationCommits ClaimFence RecoveryContracts AbandonmentContracts

open ReceiptContracts hiding ServiceClaimRecord

open ReceiptStore (StoreError transactionRead)

/-- Whether a dispatch is stored at the revision of a state that can be abandoned. -/
def dispatchStateIsAbandonable {functions : RecoveryFunctions}
    (stored : StoredRecord (RecoveryDispatchRecordV2 functions)) : Bool :=
  match stored.value.state with
  | .prepared => stored.revision=0
  | .enqueueStarted => stored.revision=1
  | .created => stored.revision=2
  | .duplicate => stored.revision=2
  | .ambiguous => false

/-- Whether the authority of a root owns a dispatch or has revoked its epoch since. -/
def dispatchEpochIsAbandonable (authority : EpochAuthorityRecord)
    (command_epoch dispatch_epoch : PositiveSafeInteger) : Bool :=
  decide (authority.current_epoch=command_epoch) &&
    (decide (dispatch_epoch=command_epoch) ||
      decide (dispatch_epoch.1+1=command_epoch.1 ∧ authority.previous_epoch=some dispatch_epoch ∧
        authority.cause=.operatorRevocation))

/-- A claim that an abandonment fences together with the authority of its root. -/
@[mk_iff] structure FencedByAbandonment (current_claim : ServiceClaimRecord)
    (replacement_claim : ServiceClaimRecordV3)
    (current_authority replacement_authority : EpochAuthorityRecord) : Prop where
  current_root_id : current_claim.root_id=current_authority.root_id
  current_root_sha256 : current_claim.root_sha256=current_authority.root_sha256
  root_id : replacement_claim.ownership.root_id=replacement_authority.root_id
  root_sha256 : replacement_claim.ownership.root_sha256=replacement_authority.root_sha256
  epoch : replacement_claim.release_fence_epoch=some replacement_authority.current_epoch
  revision : replacement_claim.release_fence_authority_revision=some replacement_authority.revision
  fenced_by : replacement_claim.release_fenced_by=some replacement_authority.changed_by
  request_id : replacement_claim.release_fence_request_id=some replacement_authority.request_id
  evidence_id : replacement_claim.release_fence_evidence_id=some replacement_authority.evidence_id
  fenced_at : replacement_claim.release_fenced_at=some replacement_authority.changed_at
  cause : replacement_authority.cause=.operatorRevocation

instance (current_claim : ServiceClaimRecord) (replacement_claim : ServiceClaimRecordV3)
    (current_authority replacement_authority : EpochAuthorityRecord) :
    Decidable (FencedByAbandonment current_claim replacement_claim current_authority
      replacement_authority) :=
  decidable_of_iff _ (fencedByAbandonment_iff current_claim replacement_claim current_authority
    replacement_authority).symm

/-- Check that a claim fence and an authority step are one transition. -/
def validateAbandonmentClaimFenceAuthority (configured_target : TargetBinding)
    (current_claim : ServiceClaimRecord) (replacement_claim : ServiceClaimRecordV3)
    (expected_authority : StoredRecord EpochAuthorityRecord)
    (replacement_authority : EpochAuthorityRecord) : Except Raised Unit := do
  require (current_claim.target=configured_target ∧
      replacement_claim.ownership.target=configured_target ∧ current_claim.status=.active ∧
      replacement_claim.status=.releasing ∧
      replacement_claim.ownership=claimOwnershipBinding current_claim)
    (.valueError "abandonment claim replacement is not an exact fence")
  validateAuthorityAdvance configured_target expected_authority replacement_authority
  require (FencedByAbandonment current_claim replacement_claim expected_authority.value
      replacement_authority)
    (.valueError "abandonment claim fence and authority are not one transition")

/-- What an abandonment is checked against. -/
structure AbandonmentView (functions : AbandonmentFunctions) where
  configured_target : TargetBinding
  bundle : RootCreationBundle
  invocation : RecoveryAbandonmentInvocationV1
  intent : StoredRecord (RecoveryIntentV1 functions.recovery)
  dispatch : StoredRecord (RecoveryDispatchRecordV2 functions.recovery)
  previous_head : EvidenceChainHeadV1
  request_sha256 : Sha256Digest
  proof : ServiceClaimAbandonmentProofV1

/-- Digest of an evidence event. -/
def evidenceSha256 (functions : AbandonmentFunctions) (evidence : SignedEvidenceEventV1) :
    Sha256Digest :=
  functions.authority.canonical_sha256 (.signedEvidence evidence)

section

variable {functions : AbandonmentFunctions} (view : AbandonmentView functions)
  (commit : RecoveryAbandonmentFenceCommitV1 functions)

def AbandonmentView.evidenceId (stage : AbandonmentStage) : String :=
  recoveryAbandonmentEvidenceId functions.authority.sha256 view.request_sha256 stage

def AbandonmentView.receiptId : String :=
  (executionReceiptLogicalId functions.authority.sha256 view.configured_target
    view.dispatch.value.idempotency_key).1

/-- Whether the ambiguous dispatch ended at the fence, or before it if it had ended already. -/
def AbandonmentView.terminalIsExact : Prop :=
  if view.dispatch.revision=2 then
    commit.replacement_dispatch.terminal_at=view.dispatch.value.terminal_at ∧
      ∃ terminal_at∈commit.replacement_dispatch.terminal_at,
        terminal_at.1 ≤ commit.progress.fenced_at.1
  else commit.replacement_dispatch.terminal_at=some commit.progress.fenced_at

instance : Decidable (view.terminalIsExact commit) := by
  unfold AbandonmentView.terminalIsExact
  infer_instance

/-- The dispatch becomes ambiguous and is the one that the command names. -/
@[mk_iff] structure DispatchAbandoned : Prop where
  immutable : commit.replacement_dispatch.fields={view.dispatch.value.fields with
    state := commit.replacement_dispatch.state,
    terminal_at := commit.replacement_dispatch.terminal_at,
    result := commit.replacement_dispatch.result}
  intent_root_id : view.intent.value.root_id=view.invocation.command.root_id
  intent_root_sha256 : view.intent.value.root_sha256=view.invocation.command.expected_root_sha256
  intent_epoch : view.intent.value.epoch=view.dispatch.value.epoch
  intent_command : view.intent.value.command_sha256=view.dispatch.value.command_sha256
  command_sha256 : recoveryCommandSha256 functions.recovery view.intent.value.command=
    view.intent.value.command_sha256
  state : commit.replacement_dispatch.state=.ambiguous
  disposition : ∃ result∈commit.replacement_dispatch.result,result.enqueue_disposition=.ambiguous
  terminal : view.terminalIsExact commit
  dispatch_sha256 : recoveryDispatchRecordSha256 functions.recovery view.dispatch.value.fields=
    view.invocation.command.expected_dispatch_sha256
  dispatch_id : view.dispatch.value.dispatch_id=view.invocation.command.recovery_dispatch_id
  intent_dispatch_id : view.dispatch.value.dispatch_id.1=
    recoveryDispatchId functions.recovery view.intent.value.command_sha256
  epoch : dispatchEpochIsAbandonable view.bundle.authority.value
    view.invocation.command.expected_epoch view.dispatch.value.epoch=true
  root_id : view.dispatch.value.root_id=view.invocation.command.root_id
  root_sha256 : view.dispatch.value.root_sha256=view.invocation.command.expected_root_sha256
  target : view.dispatch.value.target=view.configured_target
  expired : view.dispatch.value.task.expires_at.1 ≤ commit.progress.fenced_at.1

instance : Decidable (DispatchAbandoned view commit) :=
  decidable_of_iff _ (dispatchAbandoned_iff view commit).symm

/-- The fenced claim carries the request and the proof of the abandonment. -/
@[mk_iff] structure ClaimAbandoned : Prop where
  fenced_by : commit.replacement_claim.release_fenced_by=some view.invocation.operator_identity
  request_id : commit.replacement_claim.release_fence_request_id=
    some view.invocation.command.request_id
  evidence_id : commit.replacement_claim.release_fence_evidence_id.map Subtype.val=
    some (view.evidenceId .fence)
  fenced_at : commit.replacement_claim.release_fenced_at=some commit.progress.fenced_at
  not_released : commit.replacement_claim.notReleased
  proof_target : view.proof.target=view.configured_target
  proof_root_id : view.proof.root_id=view.bundle.root.value.root_id
  proof_root_sha256 : view.proof.root_sha256=view.bundle.root.value.root_sha256
  proof_dispatch_id : view.proof.recovery_dispatch_id=view.dispatch.value.dispatch_id
  proof_dispatch_sha256 : view.proof.recovery_dispatch_sha256=
    recoveryDispatchRecordSha256 functions.recovery commit.replacement_dispatch.fields
  proof_dispatch_revision : view.proof.recovery_dispatch_revision=view.dispatch.revision+1
  proof_receipt_id : view.proof.recovery_receipt_id.1=view.receiptId
  proof_baseline : view.proof.required_stable_baseline_configuration_sha256=
    view.bundle.service_claim.value.stable_target_configuration_sha256
  proof_evidence_id : view.proof.evidence_id.1=view.evidenceId .ambiguity
  proof_evidence_sha256 : view.proof.evidence_sha256=
    evidenceSha256 functions commit.abandonment_evidence
  proof_confirmed_at : view.proof.confirmed_at=commit.progress.fenced_at

instance : Decidable (ClaimAbandoned view commit) :=
  decidable_of_iff _ (claimAbandoned_iff view commit).symm

/-- The progress record repeats the request and the transition. -/
@[mk_iff] structure AbandonmentProgressBound : Prop where
  request_sha256 : commit.progress.request_sha256=view.request_sha256
  result_id : commit.progress.result_id.1="cgabandon:"++view.request_sha256.1
  request_id : commit.progress.request_id=view.invocation.command.request_id
  idempotency_key : commit.progress.idempotency_key=view.invocation.command.idempotency_key
  root_id : commit.progress.root_id=view.bundle.root.value.root_id
  root_sha256 : commit.progress.root_sha256=view.bundle.root.value.root_sha256
  target : commit.progress.target=view.configured_target
  dispatch_id : commit.progress.recovery_dispatch_id=view.dispatch.value.dispatch_id
  previous_dispatch : commit.progress.previous_dispatch_sha256=
    recoveryDispatchRecordSha256 functions.recovery view.dispatch.value.fields
  ambiguous_dispatch : commit.progress.ambiguous_dispatch_sha256=
    recoveryDispatchRecordSha256 functions.recovery commit.replacement_dispatch.fields
  receipt_id : commit.progress.recovery_receipt_id.1=view.receiptId
  abandonment_subject : commit.abandonment_subject=commit.progress.abandonment_subject
  fence_subject : commit.fence_subject=commit.progress.fence_subject
  abandonment_evidence_id : commit.progress.abandonment_evidence_id=
    commit.abandonment_evidence.event.evidence_id
  abandonment_evidence_sha256 : commit.progress.abandonment_evidence_sha256=
    evidenceSha256 functions commit.abandonment_evidence
  fence_evidence_id : commit.progress.fence_evidence_id=commit.fence_evidence.event.evidence_id
  fence_evidence_sha256 : commit.progress.fence_evidence_sha256=
    evidenceSha256 functions commit.fence_evidence
  fenced_epoch : commit.progress.fenced_epoch=commit.replacement_authority.current_epoch
  fenced_revision : commit.progress.fenced_authority_revision=commit.replacement_authority.revision
  fenced_at : commit.progress.fenced_at=commit.replacement_authority.changed_at

instance : Decidable (AbandonmentProgressBound view commit) :=
  decidable_of_iff _ (abandonmentProgressBound_iff view commit).symm

/-- The subject of the abandonment repeats the dispatch and the request. -/
@[mk_iff] structure AbandonmentSubjectBound (subject : RecoveryAbandonmentEvidenceSubjectV1) :
    Prop where
  target : subject.target=view.configured_target
  root_id : subject.root_id=view.bundle.root.value.root_id
  root_sha256 : subject.root_sha256=view.bundle.root.value.root_sha256
  request_sha256 : subject.request_sha256=view.request_sha256
  dispatch_id : subject.recovery_dispatch_id=view.dispatch.value.dispatch_id
  previous_dispatch : subject.previous_dispatch_sha256=
    recoveryDispatchRecordSha256 functions.recovery view.dispatch.value.fields
  ambiguous_dispatch : subject.ambiguous_dispatch_sha256=
    recoveryDispatchRecordSha256 functions.recovery commit.replacement_dispatch.fields
  previous_revision : subject.previous_dispatch_revision=view.dispatch.revision
  ambiguous_revision : subject.ambiguous_dispatch_revision=view.dispatch.revision+1
  task_id : subject.task_id=view.dispatch.value.task.task_id
  task_name : subject.task_name=view.dispatch.value.task_name
  task_sha256 : subject.task_sha256=view.dispatch.value.task_sha256
  capability_id : subject.capability_id=view.dispatch.value.capability_id
  capability_sha256 : subject.capability_sha256=
    functions.recovery.contractSha256 (.capability view.dispatch.value.task.request.capability)
  task_expires_at : subject.task_expires_at=view.dispatch.value.task.expires_at
  receipt_id : subject.recovery_receipt_id=commit.progress.recovery_receipt_id
  reason : subject.reason=view.invocation.command.reason
  operator_identity : subject.operator_identity=view.invocation.operator_identity
  operator_subject : subject.operator_subject=view.invocation.operator_subject
  evidence_id : subject.evidence_id.1=view.evidenceId .ambiguity
  abandoned_at : subject.abandoned_at=commit.progress.fenced_at

instance (subject : RecoveryAbandonmentEvidenceSubjectV1) :
    Decidable (AbandonmentSubjectBound view commit subject) :=
  decidable_of_iff _ (abandonmentSubjectBound_iff view commit subject).symm

/-- The subject of the fence repeats the claim and the authority transition. -/
@[mk_iff] structure AbandonmentFenceSubjectBound (subject : RecoveryAbandonmentFenceSubjectV1) :
    Prop where
  target : subject.target=view.configured_target
  root_id : subject.root_id=view.bundle.root.value.root_id
  root_sha256 : subject.root_sha256=view.bundle.root.value.root_sha256
  request_sha256 : subject.request_sha256=view.request_sha256
  request_id : subject.request_id=view.invocation.command.request_id
  idempotency_key : subject.idempotency_key=view.invocation.command.idempotency_key
  operator_identity : subject.operator_identity=view.invocation.operator_identity
  operator_subject : subject.operator_subject=view.invocation.operator_subject
  abandonment_evidence_id : subject.abandonment_evidence_id=
    commit.abandonment_evidence.event.evidence_id
  abandonment_evidence_sha256 : subject.abandonment_evidence_sha256=
    evidenceSha256 functions commit.abandonment_evidence
  previous_claim : subject.previous_claim_sha256=
    functions.authority.canonical_sha256 (.serviceClaim view.bundle.service_claim.value)
  replacement_claim : subject.replacement_claim_sha256=
    functions.contractSha256 (.claim commit.replacement_claim)
  previous_authority : subject.previous_authority_sha256=
    functions.authority.canonical_sha256 (.epochAuthority view.bundle.authority.value)
  replacement_authority : subject.replacement_authority_sha256=
    functions.authority.canonical_sha256 (.epochAuthority commit.replacement_authority)
  previous_epoch : subject.previous_epoch=view.bundle.authority.value.current_epoch
  new_epoch : subject.new_epoch=commit.replacement_authority.current_epoch
  evidence_id : subject.evidence_id.1=view.evidenceId .fence
  fenced_at : subject.fenced_at=commit.progress.fenced_at

instance (subject : RecoveryAbandonmentFenceSubjectV1) :
    Decidable (AbandonmentFenceSubjectBound view commit subject) :=
  decidable_of_iff _ (abandonmentFenceSubjectBound_iff view commit subject).symm

/-- What both events of an abandonment share. -/
@[mk_iff] structure AbandonmentEventBound (evidence : SignedEvidenceEventV1) (kind : EvidenceKind)
    (evidence_id : Identifier) (sequence : Nat) (previous subject : Sha256Digest)
    (epoch : PositiveSafeInteger) : Prop where
  evidence_id : evidence.event.evidence_id=evidence_id
  kind : evidence.event.kind=kind
  reason_code : evidence.event.reason_code=none
  sequence : evidence.event.sequence=sequence
  previous_event : evidence.event.previous_event_sha256=some previous
  subject : evidence.event.subject_sha256=subject
  root_id : evidence.event.root_id=view.bundle.root.value.root_id
  root_sha256 : evidence.event.root_sha256=view.bundle.root.value.root_sha256
  target : evidence.event.target=view.configured_target
  epoch : evidence.event.epoch=epoch
  actor : evidence.event.actor=view.invocation.operator_identity
  request_id : evidence.event.request_id=some view.invocation.command.request_id
  receipt_id : evidence.event.receipt_id=none
  occurred_at : evidence.event.occurred_at=commit.progress.fenced_at
  provider_operation : evidence.event.provider_operation=none
  configuration : evidence.event.target_configuration_sha256=none
  signing_key : evidence.signing_key_version=
    view.bundle.root.value.content.evidence_signing_key_version

instance (evidence : SignedEvidenceEventV1) (kind : EvidenceKind) (evidence_id : Identifier)
    (sequence : Nat) (previous subject : Sha256Digest) (epoch : PositiveSafeInteger) :
    Decidable (AbandonmentEventBound view commit evidence kind evidence_id sequence previous subject
      epoch) :=
  decidable_of_iff _ (abandonmentEventBound_iff view commit evidence kind evidence_id sequence
    previous subject epoch).symm

/-- The events and the head follow the current head. -/
@[mk_iff] structure AbandonmentChainBound : Prop where
  abandonment : AbandonmentEventBound view commit commit.abandonment_evidence .outcomeAmbiguous
    commit.abandonment_subject.evidence_id (view.previous_head.sequence+1)
    view.previous_head.evidence_sha256
    (functions.contractSha256 (.evidenceSubject commit.abandonment_subject))
    view.bundle.authority.value.current_epoch
  fence : AbandonmentEventBound view commit commit.fence_evidence .epochAdvanced
    commit.fence_subject.evidence_id (commit.abandonment_evidence.event.sequence+1)
    (evidenceSha256 functions commit.abandonment_evidence)
    (functions.contractSha256 (.fenceSubject commit.fence_subject))
    commit.replacement_authority.current_epoch
  head_root_id : commit.chain_head.root_id=view.bundle.root.value.root_id
  head_root_sha256 : commit.chain_head.root_sha256=view.bundle.root.value.root_sha256
  head_target : commit.chain_head.target=view.configured_target
  head_evidence_sha256 : commit.chain_head.evidence_sha256=
    evidenceSha256 functions commit.fence_evidence
  head_evidence_id : commit.chain_head.evidence_id=commit.fence_evidence.event.evidence_id
  head_sequence : commit.chain_head.sequence=commit.fence_evidence.event.sequence
  head_kind : commit.chain_head.kind=commit.fence_evidence.event.kind
  head_epoch : commit.chain_head.epoch=commit.fence_evidence.event.epoch
  head_updated_at : commit.chain_head.updated_at=commit.fence_evidence.event.occurred_at

instance : Decidable (AbandonmentChainBound view commit) :=
  decidable_of_iff _ (abandonmentChainBound_iff view commit).symm

/-- An identity that names the abandonment. -/
@[mk_iff] structure AbandonmentIdentityBound (identity : RecoveryAbandonmentIdentityV1)
    (kind : RecoveryAbandonmentIdentityKind) (value : Identifier) : Prop where
  identity_kind : identity.identity_kind=kind
  identity_value : identity.identity_value=value
  request_sha256 : identity.request_sha256=view.request_sha256
  root_id : identity.root_id=view.bundle.root.value.root_id
  root_sha256 : identity.root_sha256=view.bundle.root.value.root_sha256
  result_id : identity.result_id=commit.progress.result_id
  claimed_at : identity.claimed_at=commit.progress.fenced_at

instance (identity : RecoveryAbandonmentIdentityV1) (kind : RecoveryAbandonmentIdentityKind)
    (value : Identifier) : Decidable (AbandonmentIdentityBound view commit identity kind value) :=
  decidable_of_iff _ (abandonmentIdentityBound_iff view commit identity kind value).symm

end

/-- Whether no record of an abandonment is there yet. -/
def isPristine {functions : AbandonmentFunctions} (expected : RecoveryAbandonmentState functions) :
    Bool :=
  expected.recovery_receipt.isNone && expected.abandonment_evidence.isNone &&
    expected.fence_evidence.isNone && expected.classification_evidence.isNone &&
    expected.release_evidence.isNone && expected.request_identity.isNone &&
    expected.idempotency_identity.isNone && expected.progress.isNone && !expected.result

variable (functions : AbandonmentFunctions)

/-- What a fence is checked against, when its state is pristine and its claim and
authority are one transition. -/
def abandonmentView (configured_target : TargetBinding)
    (expected : RecoveryAbandonmentState functions)
    (commit : RecoveryAbandonmentFenceCommitV1 functions) :
    Except Raised (AbandonmentView functions) := do
  let pristine := Raised.valueError "recovery abandonment fence state is not pristine"
  let bundle ← requireSome expected.root_bundle pristine
  let intent ← requireSome expected.recovery_intent pristine
  let dispatch ← requireSome expected.recovery_dispatch pristine
  require (intent.revision=0 ∧ dispatchStateIsAbandonable dispatch=true ∧
    isPristine expected=true) pristine
  match bundle.service_claim.value with
  | .third _ => .error (.valueError "abandonment claim version transition is invalid")
  | .first claim =>
    let trusted := bundle.withClaim claim
    validateReadRootCreationBundle functions.authority configured_target trusted
    require (claim.status=.active ∧ commit.replacement_claim.status=.releasing ∧
        commit.replacement_claim.ownership=claimOwnershipBinding claim)
      (.valueError "abandonment claim version transition is invalid")
    validateAbandonmentClaimFenceAuthority configured_target claim commit.replacement_claim
      trusted.authority commit.replacement_authority
    let previous_head ← currentEvidenceChainHead functions.authority trusted configured_target
      expected.chain_head expected.head_evidence
    let proof ← requireSome commit.replacement_claim.terminal_root_proof
      (.valueError "recovery abandonment fence commit is not exactly bound")
    return ⟨configured_target,trusted,expected.invocation,intent,dispatch,previous_head,
      recoveryAbandonmentRequestSha256 functions.authority.sha256 expected.invocation,proof⟩

/-- Check a fence commit against the view that it was decided on. -/
def validateRecoveryAbandonmentFenceCommit (configured_target : TargetBinding)
    (expected : RecoveryAbandonmentState functions)
    (commit : RecoveryAbandonmentFenceCommitV1 functions) :
    Except Raised (AbandonmentView functions) := do
  let view ← abandonmentView functions configured_target expected commit
  require (DispatchAbandoned view commit ∧ ClaimAbandoned view commit ∧
      AbandonmentProgressBound view commit ∧
      AbandonmentSubjectBound view commit commit.abandonment_subject ∧
      AbandonmentFenceSubjectBound view commit commit.fence_subject ∧
      AbandonmentChainBound view commit ∧
      AbandonmentIdentityBound view commit commit.request_identity .request
        view.invocation.command.request_id ∧
      AbandonmentIdentityBound view commit commit.idempotency_identity .idempotency
        view.invocation.command.idempotency_key)
    (.valueError "recovery abandonment fence commit is not exactly bound")
  return view

end ControlGraph.AbandonmentFence
