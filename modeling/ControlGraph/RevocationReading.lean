import ControlGraph.ExecutionRequests
import ControlGraph.RevocationCommits
import ControlGraph.TrustedRoots

/-!
# What a revoker reads and decides

A revoker reads one view of its command: the records of the root, the head of the
chain, the owners of the request, the result with its evidence, and the audit of
its attempt. A stored result is checked against all of them before it is returned,
and a stored audit answers its attempt. Otherwise the view is denied, or a commit
is built from it whose times are the start of the call.
-/

namespace ControlGraph.RevocationReading

open Checks ContractText RootContracts RevocationContracts AuthorityDatabase EvidenceChain RootCreation
  RevocationCommits TrustedRoots

open StorageIdentity (isIdentifier_derived epochRevocationIdentityLogicalId
  epochRevocationIdentityDocumentId)

open ReceiptContracts hiding ServiceClaimRecord

open ReceiptStore (StoreError)

open ExecutionRequests (AuthenticationContext RouteAuthenticationPolicy CallerRole)

/-- One consistent view of a revocation, with the evidence of its result. -/
structure EpochRevocationReading where
  state : EpochRevocationState
  result_evidence : Option (StoredRecord SignedEvidenceEventV1)

/-- What the attempts of one request read alike. -/
structure RevocationView where
  root_bundle : Option RootCreationBundle
  chain_head : Option (StoredRecord EvidenceChainHeadV1)
  head_evidence : Option (StoredRecord SignedEvidenceEventV1)
  request_identity : Option (StoredRecord EpochRevocationIdentityV1)
  idempotency_identity : Option (StoredRecord EpochRevocationIdentityV1)
  result : Option (StoredRecord EpochRevocationResultV1)
  result_evidence : Option (StoredRecord SignedEvidenceEventV1)

/-- What an attempt reads. -/
def RevocationView.reading (view : RevocationView) (invocation : EpochRevocationInvocationV1)
    (attempt_audit : Option (StoredRecord EpochRevocationAuditV1)) : EpochRevocationReading where
  state := {
    invocation := invocation
    root_bundle := view.root_bundle
    chain_head := view.chain_head
    head_evidence := view.head_evidence
    request_identity := view.request_identity
    idempotency_identity := view.idempotency_identity
    result := view.result
    attempt_audit := attempt_audit }
  result_evidence := view.result_evidence

def revocationResultId (request_sha256 : Sha256Digest) : Identifier :=
  ⟨"cgrevoke:"++request_sha256.1,isIdentifier_derived (by decide) (by decide) request_sha256⟩

section

variable {functions : AuthorityFunctions}

/-- Take an event that is already read, or read it. -/
def readKnownEvidence (known : List (StoredRecord SignedEvidenceEventV1))
    (database : Database functions) (evidence_id : Identifier) :
    Except StoreError (StoredRecord SignedEvidenceEventV1) :=
  match known.find? (fun stored => stored.value.event.evidence_id=evidence_id) with
  | some stored => .ok stored
  | none => do
    let found ← readEvidence database evidence_id.1
    requireSome found .corruptRecord

/-- Read the event that an optional record names. -/
def readNamedEvidence {Record : Type} (known : List (StoredRecord SignedEvidenceEventV1))
    (database : Database functions) (name : Record → Identifier)
    (stored : Option (StoredRecord Record)) :
    Except StoreError (Option (StoredRecord SignedEvidenceEventV1)) :=
  match stored with
  | none => .ok none
  | some stored => do
    let evidence ← readKnownEvidence known database (name stored.value)
    return some evidence

def readRevocationIdentity (database : Database functions) (kind : EpochRevocationIdentityKind)
    (value : Identifier) : Except StoreError (Option (StoredRecord EpochRevocationIdentityV1)) := do
  let logical_id ← (epochRevocationIdentityLogicalId kind.value value.1).mapError .invalid
  database.revocation_identities.read
    (epochRevocationIdentityDocumentId functions.sha256 kind.value value.1) logical_id

/-- Read what the attempts of one request read alike. -/
def readRevocationView (configured_target : TargetBinding) (database : Database functions)
    (invocation : EpochRevocationInvocationV1) : Except StoreError RevocationView := do
  let command := invocation.command
  let result_id := revocationResultId (epochRevocationRequestSha256 functions.sha256 invocation)
  let root_bundle ← readRootCreationBundle configured_target database command.root_id
  let root_evidence := root_bundle.toList.map (fun bundle => bundle.signed_evidence)
  let chain_head ← readChainHead database command.root_id
  let head_evidence ← readNamedEvidence root_evidence database
    (fun head : EvidenceChainHeadV1 => head.evidence_id) chain_head
  let request_identity ← readRevocationIdentity database .request command.request_id
  let idempotency_identity ← readRevocationIdentity database .idempotency command.idempotency_key
  let result ← database.revocation_results.read (epochRevocationResultDocumentId functions result_id)
    result_id.1
  let result_evidence ← readNamedEvidence (head_evidence.toList++root_evidence) database
    (fun result : EpochRevocationResultV1 => result.evidence_id) result
  return ⟨root_bundle,chain_head,head_evidence,request_identity,idempotency_identity,result,
    result_evidence⟩

def readAttemptAudit (database : Database functions) (attempt_id : Identifier) :
    Except StoreError (Option (StoredRecord EpochRevocationAuditV1)) :=
  database.revocation_audits.read (epochRevocationAuditDocumentId functions attempt_id) attempt_id.1

/-- Read one consistent view of a revocation. -/
def readEpochRevocationState (configured_target : TargetBinding) (database : Database functions)
    (invocation : EpochRevocationInvocationV1) : Except StoreError EpochRevocationReading := do
  let view ← readRevocationView configured_target database invocation
  let attempt_audit ← readAttemptAudit database invocation.attempt_id
  return view.reading invocation attempt_audit

end

/-- A result that repeats the invocation that asks for it. -/
@[mk_iff] structure ResultRepeats (target : TargetBinding) (invocation : EpochRevocationInvocationV1)
    (request_sha256 : Sha256Digest) (result : EpochRevocationResultV1) : Prop where
  request_digest : result.request_sha256=request_sha256
  result_id : result.result_id=revocationResultId request_sha256
  request_id : result.request_id=invocation.command.request_id
  idempotency_key : result.idempotency_key=invocation.command.idempotency_key
  root_id : result.root_id=invocation.command.root_id
  root_sha256 : result.root_sha256=invocation.command.expected_root_sha256
  target : result.target=target
  operator_identity : result.operator_identity=invocation.operator_identity
  operator_subject : result.operator_subject=invocation.operator_subject
  reason : result.reason=invocation.command.reason
  previous_epoch : result.previous_epoch=invocation.command.expected_epoch
  new_epoch : result.new_epoch.1=invocation.command.expected_epoch.1+1

instance (target : TargetBinding) (invocation : EpochRevocationInvocationV1)
    (request_sha256 : Sha256Digest) (result : EpochRevocationResultV1) :
    Decidable (ResultRepeats target invocation request_sha256 result) :=
  decidable_of_iff _ (resultRepeats_iff target invocation request_sha256 result).symm

/-- An authority that is still the one that a result left behind. -/
@[mk_iff] structure AuthorityOfResult (functions : AuthorityFunctions)
    (authority : EpochAuthorityRecord) (result : EpochRevocationResultV1) : Prop where
  previous_epoch : authority.previous_epoch=some result.previous_epoch
  cause : authority.cause=.operatorRevocation
  changed_by : authority.changed_by=result.operator_identity
  request_id : authority.request_id=result.request_id
  evidence_id : authority.evidence_id=result.evidence_id
  changed_at : authority.changed_at=result.committed_at
  digest : functions.canonical_sha256 (.epochAuthority authority)=
    result.evidence_subject.replacement_authority_sha256

instance (functions : AuthorityFunctions) (authority : EpochAuthorityRecord)
    (result : EpochRevocationResultV1) : Decidable (AuthorityOfResult functions authority result) :=
  decidable_of_iff _ (authorityOfResult_iff functions authority result).symm

def identityMatchesResult (result : EpochRevocationResultV1) (kind : EpochRevocationIdentityKind)
    (value : Identifier) : Option (StoredRecord EpochRevocationIdentityV1) → Bool
  | none => false
  | some stored => decide (stored.revision=0 ∧ stored.value.identity_kind=kind ∧
      stored.value.identity_value=value ∧ stored.value.root_id=result.root_id ∧
      stored.value.root_sha256=result.root_sha256 ∧
      stored.value.request_sha256=result.request_sha256 ∧
      stored.value.result_id=result.result_id)

/-- Whether the request and the idempotency key are owned by a result. -/
def identitiesMatchResult (state : EpochRevocationState) (result : EpochRevocationResultV1) : Bool :=
  identityMatchesResult result .request state.invocation.command.request_id
      state.request_identity &&
    identityMatchesResult result .idempotency state.invocation.command.idempotency_key
      state.idempotency_identity

/-- Evidence that repeats a result and is on the chain up to a head. -/
@[mk_iff] structure EvidenceOfResult (functions : AuthorityFunctions)
    (signed : SignedEvidenceEventV1) (result : EpochRevocationResultV1)
    (current_head : EvidenceChainHeadV1) (signing_key_version : String) : Prop where
  digest : result.evidence_sha256=functions.canonical_sha256 (.signedEvidence signed)
  subject_evidence : result.evidence_subject.evidence_id=result.evidence_id
  evidence_id : signed.event.evidence_id=result.evidence_id
  later : 0 < signed.event.sequence
  reached : signed.event.sequence ≤ current_head.sequence
  root_id : signed.event.root_id=result.root_id
  root_sha256 : signed.event.root_sha256=result.root_sha256
  target : signed.event.target=result.target
  epoch : signed.event.epoch=result.new_epoch
  kind : signed.event.kind=.epochAdvanced
  actor : signed.event.actor=result.operator_identity
  request_id : signed.event.request_id=some result.request_id
  receipt_id : signed.event.receipt_id=none
  occurred_at : signed.event.occurred_at=result.committed_at
  subject : signed.event.subject_sha256=
    functions.canonical_sha256 (.revocationSubject result.evidence_subject)
  previous : signed.event.previous_event_sha256≠none
  reason_code : signed.event.reason_code=none
  provider_operation : signed.event.provider_operation=none
  target_configuration : signed.event.target_configuration_sha256=none
  signing_key : signed.signing_key_version=signing_key_version
  newest : signed.event.sequence<current_head.sequence ∨
    (current_head.evidence_id=result.evidence_id ∧
      current_head.evidence_sha256=functions.canonical_sha256 (.signedEvidence signed))

instance (functions : AuthorityFunctions) (signed : SignedEvidenceEventV1)
    (result : EpochRevocationResultV1) (current_head : EvidenceChainHeadV1)
    (signing_key_version : String) :
    Decidable (EvidenceOfResult functions signed result current_head signing_key_version) :=
  decidable_of_iff _
    (evidenceOfResult_iff functions signed result current_head signing_key_version).symm

/-- Whether stored evidence repeats a result. -/
def resultEvidenceMatches (functions : AuthorityFunctions)
    (stored : Option (StoredRecord SignedEvidenceEventV1)) (result : EpochRevocationResultV1)
    (current_head : EvidenceChainHeadV1) (signing_key_version : String) : Bool :=
  match stored with
  | none => false
  | some stored => decide (stored.revision=0 ∧
      EvidenceOfResult functions stored.value result current_head signing_key_version)

section

variable (functions : AuthorityFunctions) (configured_target : TargetBinding)

/-- The stored result of a view, checked against the rest of it. -/
def exactResult (reading : EpochRevocationReading) (request_sha256 : Sha256Digest) :
    Except EpochRevocationFailureCode (Option EpochRevocationResultV1) :=
  match reading.state.result with
  | none => .ok none
  | some stored => do
    let result := stored.value
    require (stored.revision=0) .trustedStateInvalid
    let bundle ← requireSome reading.state.root_bundle .trustedStateInvalid
    let authority := bundle.authority.value
    require (inspectRootAuthorityBundle functions configured_target (inspected bundle)=true ∧
      ResultRepeats configured_target reading.state.invocation request_sha256 result)
      .trustedStateInvalid
    require (result.new_epoch.1 ≤ authority.current_epoch.1) .trustedStateInvalid
    require (authority.current_epoch=result.new_epoch →
      AuthorityOfResult functions authority result) .trustedStateInvalid
    require (identitiesMatchResult reading.state result=true) .trustedStateInvalid
    let current_head ← (currentEvidenceChainHead functions bundle configured_target
      reading.state.chain_head reading.state.head_evidence).mapError
        (fun _ => .trustedStateInvalid)
    require (resultEvidenceMatches functions reading.result_evidence result current_head
      bundle.root.value.content.evidence_signing_key_version=true) .trustedStateInvalid
    return some result

/-- An audit of one attempt of an invocation. -/
@[mk_iff] structure AuditOfAttempt (audit : EpochRevocationAuditV1)
    (invocation : EpochRevocationInvocationV1) (request_sha256 : Sha256Digest) : Prop where
  audit_id : audit.audit_id=invocation.attempt_id
  attempt_id : audit.attempt_id=invocation.attempt_id
  request_digest : audit.request_sha256=request_sha256
  root_id : audit.root_id=invocation.command.root_id
  root_sha256 : audit.root_sha256=invocation.command.expected_root_sha256
  expected_epoch : audit.expected_epoch=invocation.command.expected_epoch
  request_id : audit.request_id=invocation.command.request_id
  idempotency_key : audit.idempotency_key=invocation.command.idempotency_key
  operator_identity : audit.operator_identity=invocation.operator_identity
  operator_subject : audit.operator_subject=invocation.operator_subject

instance (audit : EpochRevocationAuditV1) (invocation : EpochRevocationInvocationV1)
    (request_sha256 : Sha256Digest) : Decidable (AuditOfAttempt audit invocation request_sha256) :=
  decidable_of_iff _ (auditOfAttempt_iff audit invocation request_sha256).symm

/-- The stored audit of the attempt of a view. -/
def validatedAttemptAudit (state : EpochRevocationState) (request_sha256 : Sha256Digest) :
    Except EpochRevocationFailureCode (Option EpochRevocationAuditV1) :=
  match state.attempt_audit with
  | none => .ok none
  | some stored => do
    require (stored.revision=0 ∧ AuditOfAttempt stored.value state.invocation request_sha256)
      .trustedStateInvalid
    return some stored.value

/-- An audit that records the success of an attempt with a result. -/
@[mk_iff] structure SuccessfulAudit (audit : EpochRevocationAuditV1)
    (invocation : EpochRevocationInvocationV1) (result : EpochRevocationResultV1)
    (request_sha256 : Sha256Digest) : Prop where
  outcome : audit.outcome=.committed ∨ audit.outcome=.adopted
  failure_code : audit.failure_code=none
  request_digest : audit.request_sha256=request_sha256
  root_id : audit.root_id=result.root_id
  root_sha256 : audit.root_sha256=result.root_sha256
  expected_epoch : audit.expected_epoch=invocation.command.expected_epoch
  request_id : audit.request_id=result.request_id
  idempotency_key : audit.idempotency_key=result.idempotency_key
  operator_identity : audit.operator_identity=result.operator_identity
  operator_subject : audit.operator_subject=result.operator_subject
  result_id : audit.result_id=some result.result_id
  evidence_id : audit.evidence_id=some result.evidence_id
  new_epoch : audit.new_epoch=some result.new_epoch
  recorded_at : result.committed_at.1 ≤ audit.recorded_at.1

instance (audit : EpochRevocationAuditV1) (invocation : EpochRevocationInvocationV1)
    (result : EpochRevocationResultV1) (request_sha256 : Sha256Digest) :
    Decidable (SuccessfulAudit audit invocation result request_sha256) :=
  decidable_of_iff _ (successfulAudit_iff audit invocation result request_sha256).symm

/-- Refusal of a view that has no result. -/
def stateDenial (state : EpochRevocationState) : Except EpochRevocationFailureCode Unit := do
  let command := state.invocation.command
  require (state.result.isNone=true) .identityConflict
  require (∀ identity∈state.request_identity.toList++state.idempotency_identity.toList,
    identity.revision=0) .trustedStateInvalid
  require (state.request_identity.isNone=true ∧ state.idempotency_identity.isNone=true)
    .identityConflict
  let bundle ← requireSome state.root_bundle .rootNotFound
  require (inspectRootAuthorityBundle functions configured_target (inspected bundle)=true)
    .trustedStateInvalid
  require (bundle.root.value.root_id=command.root_id ∧
    bundle.root.value.root_sha256=command.expected_root_sha256) .rootMismatch
  require (bundle.service_claim.value.status=.active ∧ bundle.service_claim.revision%3=0)
    .activeClaimRequired
  require (bundle.authority.value.current_epoch=command.expected_epoch) .epochMismatch
  let _ ← (currentEvidenceChainHead functions bundle configured_target state.chain_head
    state.head_evidence).mapError (fun _ => .trustedStateInvalid)

def deniedAudit (invocation : EpochRevocationInvocationV1) (request_sha256 : Sha256Digest)
    (code : EpochRevocationFailureCode) (recorded_at : UtcSecond) : EpochRevocationAuditV1 where
  audit_id := invocation.attempt_id
  attempt_id := invocation.attempt_id
  request_sha256 := request_sha256
  root_id := invocation.command.root_id
  root_sha256 := invocation.command.expected_root_sha256
  expected_epoch := invocation.command.expected_epoch
  request_id := invocation.command.request_id
  idempotency_key := invocation.command.idempotency_key
  operator_identity := invocation.operator_identity
  operator_subject := invocation.operator_subject
  outcome := .denied
  failure_code := some code
  result_id := none
  evidence_id := none
  new_epoch := none
  recorded_at := recorded_at
  accepted := rfl

/-- The outcomes of a successful attempt. -/
inductive SuccessOutcome
  | committed | adopted
  deriving DecidableEq,Repr

/-- The outcome that an audit records. -/
def SuccessOutcome.outcome : SuccessOutcome → EpochRevocationAuditOutcome
  | .committed => .committed
  | .adopted => .adopted

/-- The audit of a successful attempt. -/
def successAudit (invocation : EpochRevocationInvocationV1) (result : EpochRevocationResultV1)
    (request_sha256 : Sha256Digest) (outcome : SuccessOutcome) (recorded_at : UtcSecond) :
    EpochRevocationAuditV1 where
  audit_id := invocation.attempt_id
  attempt_id := invocation.attempt_id
  request_sha256 := request_sha256
  root_id := invocation.command.root_id
  root_sha256 := invocation.command.expected_root_sha256
  expected_epoch := invocation.command.expected_epoch
  request_id := invocation.command.request_id
  idempotency_key := invocation.command.idempotency_key
  operator_identity := invocation.operator_identity
  operator_subject := invocation.operator_subject
  outcome := outcome.outcome
  failure_code := none
  result_id := some result.result_id
  evidence_id := some result.evidence_id
  new_epoch := some result.new_epoch
  recorded_at := recorded_at
  accepted := by cases outcome <;> rfl

end

end ControlGraph.RevocationReading
