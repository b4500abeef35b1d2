import ControlGraph.AbandonmentStore
import ControlGraph.ExecutionGate

/-!
# Decisions of the abandoner

The abandoner reads one view of an abandonment and refuses it with a failure code,
goes on to the fence, or goes on behind its own fence. Behind the fence a receipt
of the dispatch is admitted only when it is the exact denial that the executor
writes because of this fence. The executor reads the same records in its own
contracts.
-/

namespace ControlGraph.AbandonmentDecisions

open Checks ContractText RootContracts AuthorityDatabase EvidenceChain RecoveryContracts
  AbandonmentContracts AbandonmentFence AbandonmentStore ExecutionRequests ExecutionGate

open ReceiptContracts hiding ServiceClaimRecord

open ReceiptStore (StoreError)

/-- Digests of the abandoner and of the executor, which share one digest function. -/
structure SharedFunctions extends AbandonmentFunctions where
  executor : ContractFunctions
  same_sha256 : executor.sha256=authority.sha256
  same_task : ∀ task : RecoveryTaskRequestV2,
    executor.requestSha256 task.request=recovery.contractSha256 (.task task)
  same_capability : ∀ capability,
    executor.capabilitySha256 capability=recovery.contractSha256 (.capability capability)
  /-- Canonical text of the content of a root that the executor does not read. -/
  rootText : RolloutRootContentV3 → String
  /-- Canonical text of the fields of a claim that the executor does not read. -/
  claimText : ServiceClaimRecordValue → String
  anchorText : CapabilityLineageAnchorV1 → String

/-- A stored record in other contracts. -/
def mapStored {First Second : Type} (view : First → Second) (stored : StoredRecord First) :
    StoredRecord Second :=
  ⟨view stored.value,stored.revision,stored.revision_bound⟩

section

variable (functions : SharedFunctions)

def executorRoot (root : RolloutRootV3) : RolloutRoot where
  version := .v3
  root_id := root.root_id
  root_sha256 := root.root_sha256
  target := root.content.target
  concurrency := root.content.rollout_plan.concurrency
  content := functions.rootText root.content

def executorClaim (claim : ServiceClaimRecordValue) : ReceiptContracts.ServiceClaimRecord :=
  match claim with
  | .first found => {
      version := .v2
      target := found.target
      root_id := found.root_id
      root_sha256 := found.root_sha256
      status := found.status
      release_fence_epoch := found.release_fence_epoch
      release_fence_authority_revision := found.release_fence_authority_revision
      release_fenced_by := found.release_fenced_by
      release_fence_request_id := found.release_fence_request_id
      release_fence_evidence_id := found.release_fence_evidence_id
      release_fenced_at := found.release_fenced_at
      others := functions.claimText claim }
  | .third found => {
      version := .v3
      target := found.ownership.target
      root_id := found.ownership.root_id
      root_sha256 := found.ownership.root_sha256
      status := found.status
      release_fence_epoch := found.release_fence_epoch
      release_fence_authority_revision := found.release_fence_authority_revision
      release_fenced_by := found.release_fenced_by
      release_fence_request_id := found.release_fence_request_id
      release_fence_evidence_id := found.release_fence_evidence_id
      release_fenced_at := found.release_fenced_at
      others := functions.claimText claim }

/-- The authority of a root as the executor reads it. -/
def executorBundle (records : Records functions.toAbandonmentFunctions) (root_id : Identifier) :
    Option RootAuthorityBundle :=
  match records.roots root_id,records.service_claim,records.authorities root_id,
      records.lineage_anchors root_id with
  | some root,some claim,some authority,some anchor =>
    some ⟨mapStored (executorRoot functions) root,mapStored (executorClaim functions) claim,
      authority,mapStored functions.anchorText anchor⟩
  | _,_,_,_ => none

def trustedAuthority (target : TargetBinding) (bundle : AbandonmentRootBundle) :
    Option TrustedRootAuthority :=
  inspectRootAuthorityBundle functions.executor target
    ⟨mapStored (executorRoot functions) bundle.root,
      mapStored (executorClaim functions) bundle.service_claim,bundle.authority,
      mapStored functions.anchorText bundle.lineage_anchor⟩

end

/-- Failures of an abandonment. -/
inductive RecoveryAbandonmentFailureCode
  | callerDenied | commandDenied | rootNotFound | rootMismatch | claimNotActive | epochMismatch
  | intentInvalid | dispatchInvalid | dispatchNotExpired | receiptExists | identityConflict
  | classificationDenied | evidenceDenied | trustedStateInvalid | storeUnavailable | outcomeUnknown
  deriving DecidableEq,Repr

/-- The mutation binding that the executor derives from the task of a dispatch. -/
def dispatchBinding (functions : AbandonmentFunctions) (dispatch : RecoveryDispatchRecordFields) :
    MutationBinding :=
  let intent := dispatch.task.request.intent
  { idempotency_key := intent.idempotency_key.1
    request_id := intent.request_id.1
    root_id := intent.root_id.1
    root_sha256 := intent.root_sha256
    epoch := intent.epoch.1
    action := .recoverStable
    target := dispatch.target.key
    provider_precondition := intent.provider_etag.1
    plan_sha256 := intent.plan_sha256
    capability_sha256 := functions.recovery.contractSha256 (.capability dispatch.task.request.capability)
    payload_sha256 := functions.recovery.contractSha256 (.task dispatch.task)
    expected_poststate_sha256 := dispatch.task.authorization.desired_poststate_sha256 }

/-- The exact denial that the executor writes because of one fence. -/
@[mk_iff] structure LateFenceReceipt (functions : AbandonmentFunctions) (stored : StoredRecord ExecutionReceipt)
    (dispatch : RecoveryDispatchRecordFields) (fenced_epoch : PositiveSafeInteger)
    (fenced_at : UtcSecond) : Prop where
  /-- The receipt was replaced once. -/
  revision : stored.revision=1
  /-- The fence ended the epoch of the dispatch or the one after it. -/
  epoch : fenced_epoch.1=dispatch.epoch.1+1 ∨ fenced_epoch.1=dispatch.epoch.1+2
  receipt_id : stored.value.receipt_id.1=(executionReceiptLogicalId functions.authority.sha256
    dispatch.target dispatch.idempotency_key).1
  binding : receiptMatchesBinding functions.authority.sha256 stored.value
    (dispatchBinding functions dispatch)
  target : stored.value.target=dispatch.target
  /-- The receipt ends with the task. -/
  dispatch_not_after : stored.value.dispatch_not_after=dispatch.task.expires_at
  outcome : stored.value.outcome=.denied
  /-- The denial is a stale epoch. -/
  reason_code : stored.value.reason_code=some .epochMismatch
  provider_operation : stored.value.provider_operation=none
  observed_etag : stored.value.observed_etag=none
  observed_epoch : stored.value.observed_authority_epoch=some fenced_epoch
  /-- The denial is not older than the fence. -/
  updated_at : fenced_at.1 ≤ stored.value.updated_at.1
  evidence_ids : stored.value.evidence_ids=[]

instance (functions : AbandonmentFunctions) (stored : StoredRecord ExecutionReceipt)
    (dispatch : RecoveryDispatchRecordFields) (fenced_epoch : PositiveSafeInteger)
    (fenced_at : UtcSecond) :
    Decidable (LateFenceReceipt functions stored dispatch fenced_epoch fenced_at) :=
  decidable_of_iff _ (lateFenceReceipt_iff functions stored dispatch fenced_epoch fenced_at).symm

/-- Whether a receipt is the exact denial of one fence. -/
def lateFenceReceiptMatches (functions : AbandonmentFunctions)
    (stored : StoredRecord ExecutionReceipt) (dispatch : RecoveryDispatchRecordFields)
    (fenced_epoch : PositiveSafeInteger) (fenced_at : UtcSecond) : Bool :=
  decide (LateFenceReceipt functions stored dispatch fenced_epoch fenced_at)

/-- Whether an identity is owned by the abandonment of a progress record. -/
def identityMatches (progress : RecoveryAbandonmentProgressV1)
    (kind : RecoveryAbandonmentIdentityKind) (value : Identifier) :
    Option (StoredRecord RecoveryAbandonmentIdentityV1) → Bool
  | none => false
  | some stored =>
    decide (stored.revision=0 ∧ stored.value.identity_kind=kind ∧
      stored.value.identity_value=value ∧ stored.value.root_id=progress.root_id ∧
      stored.value.root_sha256=progress.root_sha256 ∧
      stored.value.request_sha256=progress.request_sha256 ∧
      stored.value.result_id=progress.result_id ∧ stored.value.claimed_at=progress.fenced_at)

section

variable {functions : SharedFunctions} (configured_target : TargetBinding)
  (state : RecoveryAbandonmentState functions.toAbandonmentFunctions)

/-- Whether a view has none of the documents that an abandonment creates. -/
def hasNoAbandonment : Bool :=
  state.request_identity.isNone && state.idempotency_identity.isNone &&
    state.abandonment_evidence.isNone && state.fence_evidence.isNone &&
    state.classification_evidence.isNone && state.release_evidence.isNone

/-- Whether an intent is the one of the root of a command. -/
def intentIsExact (command : RecoveryAbandonmentCommandV1)
    (intent : StoredRecord (RecoveryIntentV1 functions.recovery)) : Bool :=
  decide (intent.revision=0 ∧ intent.value.root_id=command.root_id ∧
    intent.value.root_sha256=command.expected_root_sha256 ∧
    recoveryCommandSha256 functions.recovery intent.value.command=intent.value.command_sha256)

/-- Whether a dispatch is the one of a command and may be abandoned. -/
def dispatchIsExact (command : RecoveryAbandonmentCommandV1) (authority : EpochAuthorityRecord)
    (intent : StoredRecord (RecoveryIntentV1 functions.recovery))
    (dispatch : StoredRecord (RecoveryDispatchRecordV2 functions.recovery)) : Bool :=
  dispatchStateIsAbandonable dispatch &&
    dispatchEpochIsAbandonable authority command.expected_epoch dispatch.value.epoch &&
    decide (dispatch.value.dispatch_id=command.recovery_dispatch_id ∧
      recoveryDispatchRecordSha256 functions.recovery dispatch.value.fields=
        command.expected_dispatch_sha256 ∧
      dispatch.value.command_sha256=intent.value.command_sha256 ∧
      dispatch.value.root_id=command.root_id ∧
      dispatch.value.root_sha256=command.expected_root_sha256 ∧
      intent.value.epoch=dispatch.value.epoch ∧ dispatch.value.target=configured_target)

/-- Refusal of a view of a trusted root that has not been fenced by this request. -/
def pristineDenial (claim : ServiceClaimRecordValue) (authority : EpochAuthorityRecord)
    (now : UtcSecond) : Except RecoveryAbandonmentFailureCode Unit := do
  let command := state.invocation.command
  require (hasNoAbandonment state=true) .identityConflict
  match claim with
  | .third _ => .error .claimNotActive
  | .first claim =>
    require (claim.status=.active) .claimNotActive
    require (claim.operator_owner=state.invocation.operator_identity) .callerDenied
    require (authority.current_epoch=command.expected_epoch) .epochMismatch
    let intent ← requireSome state.recovery_intent .intentInvalid
    require (intentIsExact command intent=true) .intentInvalid
    let dispatch ← requireSome state.recovery_dispatch .dispatchInvalid
    require (dispatchIsExact configured_target command authority intent dispatch=true)
      .dispatchInvalid
    require (dispatch.value.task.expires_at.1 ≤ now.1) .dispatchNotExpired
    require (state.recovery_receipt.isNone=true) .receiptExists

/-- Whether the claim, the authority and the dispatch of a view are those of a fence. -/
def fencedIsExact (claim : ServiceClaimRecordValue) (authority : EpochAuthorityRecord)
    (progress : RecoveryAbandonmentProgressV1)
    (dispatch : StoredRecord (RecoveryDispatchRecordV2 functions.recovery)) : Bool :=
  match claim with
  | .first _ => false
  | .third claim =>
    decide (claim.status=.releasing ∧
      authority.current_epoch.1=state.invocation.command.expected_epoch.1+1 ∧
      claim.release_fence_epoch=some authority.current_epoch ∧
      dispatch.revision=progress.abandonment_subject.ambiguous_dispatch_revision ∧
      dispatch.value.state=.ambiguous ∧
      recoveryDispatchRecordSha256 functions.recovery dispatch.value.fields=
        progress.ambiguous_dispatch_sha256)

/-- Refusal of a view of a trusted root behind the fence of this request. -/
def fencedDenial (claim : ServiceClaimRecordValue) (authority : EpochAuthorityRecord)
    (progress : RecoveryAbandonmentProgressV1) : Except RecoveryAbandonmentFailureCode Unit := do
  let command := state.invocation.command
  require (identityMatches progress .request command.request_id state.request_identity=true ∧
      identityMatches progress .idempotency command.idempotency_key state.idempotency_identity=true)
    .identityConflict
  let dispatch ← requireSome state.recovery_dispatch .trustedStateInvalid
  require (fencedIsExact state claim authority progress dispatch=true) .trustedStateInvalid
  require (∀ receipt∈state.recovery_receipt,
      lateFenceReceiptMatches functions.toAbandonmentFunctions receipt dispatch.value.fields
        progress.fenced_epoch progress.fenced_at=true)
    .receiptExists

/-- Whether a stored head repeats its event and the authority behind a fence, where no
chain can be bootstrapped any more. -/
def fencedHeadIsReadable (bundle : AbandonmentRootBundle) (head : StoredRecord EvidenceChainHeadV1)
    (evidence : StoredRecord SignedEvidenceEventV1) : Bool :=
  let root := bundle.root.value
  let authority := bundle.authority.value
  let event := evidence.value.event
  decide (head.revision=head.value.sequence ∧ evidence.revision=0 ∧
    head.value.root_id=root.root_id ∧ head.value.root_sha256=root.root_sha256 ∧
    head.value.target=configured_target ∧ authority.revision ≤ head.value.sequence ∧
    (head.value.kind=.epochAdvanced → head.value.evidence_id=authority.evidence_id) ∧
    head.value.epoch=authority.current_epoch ∧
    authority.changed_at.1 ≤ head.value.updated_at.1 ∧
    head.value.evidence_sha256=
      evidenceSha256 functions.toAbandonmentFunctions evidence.value ∧
    event.evidence_id=head.value.evidence_id ∧ event.sequence=head.value.sequence ∧
    event.root_id=head.value.root_id ∧ event.root_sha256=head.value.root_sha256 ∧
    event.target=head.value.target ∧ event.epoch=head.value.epoch ∧ event.kind=head.value.kind ∧
    event.occurred_at=head.value.updated_at ∧
    evidence.value.signing_key_version=root.content.evidence_signing_key_version)

/-- Whether the common reader accepts the evidence chain of a view. -/
def chainIsReadable (bundle : AbandonmentRootBundle) : Bool :=
  match bundle.service_claim.value,state.chain_head,state.head_evidence with
  | .first claim,head,evidence =>
    (currentEvidenceChainHead functions.authority (bundle.withClaim claim) configured_target
      head evidence).isOk
  | .third _,some head,some evidence =>
    @fencedHeadIsReadable functions configured_target bundle head evidence
  | .third _,_,_ => false

/-- Refusal of a view, by what its progress is. -/
def stateDenial (request_sha256 : Sha256Digest) (progress : Option RecoveryAbandonmentProgressV1)
    (now : UtcSecond) : Except RecoveryAbandonmentFailureCode Unit := do
  let command := state.invocation.command
  require (state.result=false) .identityConflict
  let bundle ← requireSome state.root_bundle .rootNotFound
  let trusted ← requireSome (trustedAuthority functions configured_target bundle)
    .trustedStateInvalid
  require (trusted.root.version=.v3 ∧ trusted.root.root_id=command.root_id ∧
    trusted.root.root_sha256=command.expected_root_sha256) .rootMismatch
  require (chainIsReadable configured_target state bundle=true) .trustedStateInvalid
  require (request_sha256=recoveryAbandonmentRequestSha256 functions.authority.sha256
    state.invocation) .trustedStateInvalid
  match progress with
  | none =>
    pristineDenial configured_target state bundle.service_claim.value bundle.authority.value now
  | some progress => fencedDenial state bundle.service_claim.value bundle.authority.value progress

end

end ControlGraph.AbandonmentDecisions
