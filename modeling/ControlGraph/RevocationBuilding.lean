import ControlGraph.RevocationReading

/-!
# The commit of a revoker

A revoker builds the whole commit from one view and the start of its call: the next
authority, the event about it that the evidence service signs, the head of the
chain, the result with its identities, and the audit of the attempt. It builds
nothing before the time of the current head.
-/

namespace ControlGraph.RevocationBuilding

open Checks ContractText RootContracts RevocationContracts AuthorityDatabase EvidenceChain
  TrustedRoots RevocationReading

open StorageIdentity (isIdentifier_derived)

open ReceiptContracts hiding ServiceClaimRecord

/-- How building a commit ends without one. -/
inductive BuildFailure
  | denied (code : EpochRevocationFailureCode)
  | raised (error : Raised)

/-- Make an authority, which is checked. -/
def authorityOf (fields : EpochAuthorityRecordFields) : Except Raised EpochAuthorityRecord :=
  match h : validateTransitionShape fields with
  | .ok _ => .ok ⟨fields,h⟩
  | .error raised => .error raised

/-- Make an event, which is checked. -/
def eventOf (fields : EvidenceEventFields) : Except Raised EvidenceEvent :=
  match h : validateEventShape fields with
  | .ok _ => .ok ⟨fields,h⟩
  | .error raised => .error raised

def nextEpoch (epoch : PositiveSafeInteger) :
    Except Raised {next : PositiveSafeInteger // next.1=epoch.1+1} :=
  if h : epoch.1+1≤9007199254740991 then .ok ⟨⟨epoch.1+1,⟨by omega,h⟩⟩,rfl⟩
  else .error .validationError

/-- Identity of the evidence of one epoch transition. -/
def revocationEvidenceIdentifier (functions : AuthorityFunctions)
    (request_sha256 root_sha256 : Sha256Digest) (new_epoch : PositiveSafeInteger) : Identifier :=
  ⟨epochRevocationEvidenceId functions.sha256 request_sha256 root_sha256 new_epoch,
    isIdentifier_derived (by decide) (by decide) _⟩

section

variable (functions : AuthorityFunctions) (configured_target : TargetBinding)

/-- The next authority of a root. -/
def replacementAuthority (invocation : EpochRevocationInvocationV1) (root : RolloutRootV3)
    (authority : EpochAuthorityRecord) (new_epoch : PositiveSafeInteger) (evidence_id : Identifier)
    (committed_at : UtcSecond) : Except Raised EpochAuthorityRecord :=
  authorityOf {
    root_id := root.root_id
    root_sha256 := root.root_sha256
    target := configured_target
    current_epoch := new_epoch
    previous_epoch := some authority.current_epoch
    revision := authority.revision+1
    cause := .operatorRevocation
    changed_by := invocation.operator_identity
    request_id := invocation.command.request_id
    evidence_id := evidence_id
    changed_at := committed_at }

/-- The transition that the evidence is about. -/
def evidenceSubject (invocation : EpochRevocationInvocationV1) (request_sha256 : Sha256Digest)
    (root : RolloutRootV3) (service_claim : ServiceClaimRecord)
    (authority replacement : EpochAuthorityRecord)
    (new_epoch : {next : PositiveSafeInteger // next.1=authority.current_epoch.1+1})
    (evidence_id : Identifier) (committed_at : UtcSecond) : EpochRevocationEvidenceSubjectV1 where
  root_id := root.root_id
  root_sha256 := root.root_sha256
  request_sha256 := request_sha256
  request_id := invocation.command.request_id
  idempotency_key := invocation.command.idempotency_key
  operator_identity := invocation.operator_identity
  operator_subject := invocation.operator_subject
  reason := invocation.command.reason
  service_claim_sha256 := functions.canonical_sha256 (.serviceClaim service_claim)
  previous_authority_sha256 := functions.canonical_sha256 (.epochAuthority authority)
  replacement_authority_sha256 := functions.canonical_sha256 (.epochAuthority replacement)
  previous_epoch := authority.current_epoch
  new_epoch := new_epoch.1
  evidence_id := evidence_id
  committed_at := committed_at
  transition := new_epoch.2

/-- The event about the transition. -/
def revocationEvent (invocation : EpochRevocationInvocationV1) (root : RolloutRootV3)
    (previous_head : EvidenceChainHeadV1) (new_epoch : PositiveSafeInteger)
    (subject : EpochRevocationEvidenceSubjectV1) : Except Raised EvidenceEvent :=
  eventOf {
    evidence_id := subject.evidence_id
    sequence := previous_head.sequence+1
    root_id := root.root_id
    root_sha256 := root.root_sha256
    target := configured_target
    epoch := new_epoch
    kind := .epochAdvanced
    actor := invocation.operator_identity
    request_id := some invocation.command.request_id
    receipt_id := none
    occurred_at := subject.committed_at
    subject_sha256 := functions.canonical_sha256 (.revocationSubject subject)
    previous_event_sha256 := some previous_head.evidence_sha256
    reason_code := none
    provider_operation := none
    target_configuration_sha256 := none }

def identityClaim (result : EpochRevocationResultV1) (kind : EpochRevocationIdentityKind)
    (value : Identifier) : EpochRevocationIdentityV1 where
  identity_kind := kind
  identity_value := value
  root_id := result.root_id
  root_sha256 := result.root_sha256
  request_sha256 := result.request_sha256
  result_id := result.result_id
  claimed_at := result.committed_at

/-- Build the commit of a view. The evidence service answers with a signed event or not at
all. -/
def buildCommit (state : EpochRevocationState) (request_sha256 : Sha256Digest)
    (committed_at : UtcSecond) (answer : Option SignedEvidenceEventV1) :
    Except BuildFailure EpochRevocationCommitV1 := do
  let invocation := state.invocation
  let command := invocation.command
  let bundle ← requireSome state.root_bundle (.denied .rootNotFound)
  require (inspectRootAuthorityBundle functions configured_target (inspected bundle)=true)
    (.denied .trustedStateInvalid)
  let root := bundle.root.value
  let authority := bundle.authority.value
  let previous_head ← (currentEvidenceChainHead functions bundle configured_target state.chain_head
    state.head_evidence).mapError .raised
  require (previous_head.updated_at.1 ≤ committed_at.1) (.denied .trustedStateInvalid)
  let new_epoch ← (nextEpoch authority.current_epoch).mapError .raised
  let evidence_id := revocationEvidenceIdentifier functions request_sha256 root.root_sha256
    new_epoch.1
  let replacement ← (replacementAuthority configured_target invocation root authority new_epoch.1
    evidence_id committed_at).mapError .raised
  let subject := evidenceSubject functions invocation request_sha256 root
    bundle.service_claim.value authority replacement new_epoch evidence_id committed_at
  let event ← (revocationEvent functions configured_target invocation root previous_head new_epoch.1
    subject).mapError .raised
  let signed ← requireSome answer (.denied .evidenceDenied)
  require (signed.event=event ∧ signed.signing_key_version=root.content.evidence_signing_key_version)
    (.denied .evidenceDenied)
  let evidence_sha256 := functions.canonical_sha256 (.signedEvidence signed)
  let head ← (EvidenceChainHeadV1.make {
    root_id := root.root_id
    root_sha256 := root.root_sha256
    target := configured_target
    sequence := event.sequence
    evidence_id := event.evidence_id
    evidence_sha256 := evidence_sha256
    kind := event.kind
    epoch := event.epoch
    updated_at := committed_at }).mapError .raised
  let result : EpochRevocationResultV1 := {
    result_id := revocationResultId request_sha256
    request_sha256 := request_sha256
    request_id := command.request_id
    idempotency_key := command.idempotency_key
    root_id := root.root_id
    root_sha256 := root.root_sha256
    target := configured_target
    operator_identity := invocation.operator_identity
    operator_subject := invocation.operator_subject
    reason := command.reason
    previous_epoch := authority.current_epoch
    new_epoch := new_epoch.1
    evidence_id := evidence_id
    evidence_sha256 := evidence_sha256
    evidence_subject := subject
    committed_at := committed_at }
  (validateRevocationResult functions.sha256 result).mapError .raised
  return {
    replacement_authority := replacement
    evidence_subject := subject
    signed_evidence := signed
    chain_head := head
    result := result
    request_identity := identityClaim result .request command.request_id
    idempotency_identity := identityClaim result .idempotency command.idempotency_key
    audit := successAudit invocation result request_sha256 .committed committed_at }

end

end ControlGraph.RevocationBuilding
