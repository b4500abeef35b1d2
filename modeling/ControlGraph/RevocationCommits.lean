import ControlGraph.RootCreation

/-!
# The commit of an epoch revocation

A revocation is checked against the view that it was decided on: the claim of the
root is active, the authority advances by one epoch, and the result, the evidence,
the head, the identities and the audit all name the same request. The
transaction then reads every one of these records again, refuses a view that is no
longer current, and writes all documents at one instant. The epoch identity is
claimed as well, so one epoch of a root has one result.
-/

namespace ControlGraph.RevocationCommits

open Checks ContractText JsonValues StorageIdentity RootContracts RevocationContracts
  AuthorityDatabase EvidenceChain RootCreation

open ReceiptContracts hiding ServiceClaimRecord

open ReceiptStore (StoreError)

/-- One step of an authority. -/
@[mk_iff] structure MonotonicAdvance (current replacement : EpochAuthorityRecord) : Prop where
  root_id : replacement.root_id=current.root_id
  root_sha256 : replacement.root_sha256=current.root_sha256
  previous_epoch : replacement.previous_epoch=some current.current_epoch
  current_epoch : replacement.current_epoch.1=current.current_epoch.1+1
  revision : replacement.revision=current.revision+1
  cause : replacement.cause≠.rootCreated
  changed_at : current.changed_at.1 ≤ replacement.changed_at.1

instance (current replacement : EpochAuthorityRecord) :
    Decidable (MonotonicAdvance current replacement) :=
  decidable_of_iff _ (monotonicAdvance_iff current replacement).symm

/-- Check that an authority advances by one epoch. -/
def validateAuthorityAdvance (configured_target : TargetBinding)
    (expected : StoredRecord EpochAuthorityRecord) (replacement : EpochAuthorityRecord) :
    Except Raised Unit := do
  let current := expected.value
  require (expected.revision=current.revision)
    (.valueError "authority storage and domain revisions differ")
  require (current.target=configured_target ∧ replacement.target=configured_target)
    (.valueError "authority does not match the configured target")
  require (MonotonicAdvance current replacement)
    (.valueError "authority replacement is not a monotonic advance")

/-- A revocation of the active authority of a root. -/
@[mk_iff] structure ActiveRevocation (configured_target : TargetBinding)
    (invocation : EpochRevocationInvocationV1) (bundle : RootCreationBundle)
    (replacement : EpochAuthorityRecord) : Prop where
  root_target : bundle.root.value.content.target=configured_target
  root_id : bundle.root.value.root_id=invocation.command.root_id
  root_sha256 : bundle.root.value.root_sha256=invocation.command.expected_root_sha256
  claim_status : bundle.service_claim.value.status=.active
  claim_revision : bundle.service_claim.revision%3=0
  claim_root_id : bundle.service_claim.value.root_id=bundle.root.value.root_id
  claim_root_sha256 : bundle.service_claim.value.root_sha256=bundle.root.value.root_sha256
  epoch : bundle.authority.value.current_epoch=invocation.command.expected_epoch
  cause : replacement.cause=.operatorRevocation
  changed_by : replacement.changed_by=invocation.operator_identity
  request_id : replacement.request_id=invocation.command.request_id

instance (configured_target : TargetBinding) (invocation : EpochRevocationInvocationV1)
    (bundle : RootCreationBundle) (replacement : EpochAuthorityRecord) :
    Decidable (ActiveRevocation configured_target invocation bundle replacement) :=
  decidable_of_iff _ (activeRevocation_iff configured_target invocation bundle replacement).symm

/-- A result that repeats its request and its authority transition. -/
@[mk_iff] structure RevocationResultBound (configured_target : TargetBinding)
    (invocation : EpochRevocationInvocationV1) (bundle : RootCreationBundle)
    (commit : EpochRevocationCommitV1) (request_sha256 evidence_sha256 : Sha256Digest) :
    Prop where
  request_digest : commit.result.request_sha256=request_sha256
  result_id : commit.result.result_id.1="cgrevoke:"++request_sha256.1
  request_id : commit.result.request_id=invocation.command.request_id
  idempotency_key : commit.result.idempotency_key=invocation.command.idempotency_key
  root_id : commit.result.root_id=bundle.root.value.root_id
  root_sha256 : commit.result.root_sha256=bundle.root.value.root_sha256
  target : commit.result.target=configured_target
  operator_identity : commit.result.operator_identity=invocation.operator_identity
  operator_subject : commit.result.operator_subject=invocation.operator_subject
  reason : commit.result.reason=invocation.command.reason
  previous_epoch : commit.result.previous_epoch=bundle.authority.value.current_epoch
  new_epoch : commit.result.new_epoch=commit.replacement_authority.current_epoch
  evidence_id : commit.result.evidence_id=commit.replacement_authority.evidence_id
  evidence_digest : commit.result.evidence_sha256=evidence_sha256
  evidence_subject : commit.result.evidence_subject=commit.evidence_subject
  committed_at : commit.result.committed_at=commit.replacement_authority.changed_at

instance (configured_target : TargetBinding) (invocation : EpochRevocationInvocationV1)
    (bundle : RootCreationBundle) (commit : EpochRevocationCommitV1)
    (request_sha256 evidence_sha256 : Sha256Digest) : Decidable
      (RevocationResultBound configured_target invocation bundle commit request_sha256
        evidence_sha256) :=
  decidable_of_iff _ (revocationResultBound_iff configured_target invocation bundle commit
    request_sha256 evidence_sha256).symm

/-- An evidence subject that repeats the result and the records of the transition. -/
@[mk_iff] structure RevocationSubjectBound (functions : AuthorityFunctions)
    (bundle : RootCreationBundle) (commit : EpochRevocationCommitV1)
    (request_sha256 : Sha256Digest) : Prop where
  root_id : commit.evidence_subject.root_id=commit.result.root_id
  root_sha256 : commit.evidence_subject.root_sha256=commit.result.root_sha256
  request_digest : commit.evidence_subject.request_sha256=request_sha256
  request_id : commit.evidence_subject.request_id=commit.result.request_id
  idempotency_key : commit.evidence_subject.idempotency_key=commit.result.idempotency_key
  operator_identity : commit.evidence_subject.operator_identity=commit.result.operator_identity
  operator_subject : commit.evidence_subject.operator_subject=commit.result.operator_subject
  reason : commit.evidence_subject.reason=commit.result.reason
  service_claim : commit.evidence_subject.service_claim_sha256=
    functions.canonical_sha256 (.serviceClaim bundle.service_claim.value)
  previous_authority : commit.evidence_subject.previous_authority_sha256=
    functions.canonical_sha256 (.epochAuthority bundle.authority.value)
  replacement_authority : commit.evidence_subject.replacement_authority_sha256=
    functions.canonical_sha256 (.epochAuthority commit.replacement_authority)
  previous_epoch : commit.evidence_subject.previous_epoch=commit.result.previous_epoch
  new_epoch : commit.evidence_subject.new_epoch=commit.result.new_epoch
  evidence_id : commit.evidence_subject.evidence_id=commit.result.evidence_id
  committed_at : commit.evidence_subject.committed_at=commit.result.committed_at

instance (functions : AuthorityFunctions) (bundle : RootCreationBundle)
    (commit : EpochRevocationCommitV1) (request_sha256 : Sha256Digest) :
    Decidable (RevocationSubjectBound functions bundle commit request_sha256) :=
  decidable_of_iff _ (revocationSubjectBound_iff functions bundle commit request_sha256).symm

/-- An evidence event that repeats the result. -/
@[mk_iff] structure RevocationEventBound (functions : AuthorityFunctions)
    (configured_target : TargetBinding) (invocation : EpochRevocationInvocationV1)
    (bundle : RootCreationBundle) (commit : EpochRevocationCommitV1) : Prop where
  evidence_id : commit.signed_evidence.event.evidence_id=commit.result.evidence_id
  root_id : commit.signed_evidence.event.root_id=commit.result.root_id
  root_sha256 : commit.signed_evidence.event.root_sha256=commit.result.root_sha256
  target : commit.signed_evidence.event.target=configured_target
  epoch : commit.signed_evidence.event.epoch=commit.result.new_epoch
  kind : commit.signed_evidence.event.kind=.epochAdvanced
  actor : commit.signed_evidence.event.actor=invocation.operator_identity
  request_id : commit.signed_evidence.event.request_id=some invocation.command.request_id
  receipt_id : commit.signed_evidence.event.receipt_id=none
  occurred_at : commit.signed_evidence.event.occurred_at=commit.result.committed_at
  subject : commit.signed_evidence.event.subject_sha256=
    functions.canonical_sha256 (.revocationSubject commit.evidence_subject)
  reason_code : commit.signed_evidence.event.reason_code=none
  provider_operation : commit.signed_evidence.event.provider_operation=none
  target_configuration : commit.signed_evidence.event.target_configuration_sha256=none
  signing_key : commit.signed_evidence.signing_key_version=
    bundle.root.value.content.evidence_signing_key_version

instance (functions : AuthorityFunctions) (configured_target : TargetBinding)
    (invocation : EpochRevocationInvocationV1) (bundle : RootCreationBundle)
    (commit : EpochRevocationCommitV1) : Decidable
      (RevocationEventBound functions configured_target invocation bundle commit) :=
  decidable_of_iff _ (revocationEventBound_iff functions configured_target invocation bundle
    commit).symm

/-- An event and a head that follow the current head. -/
@[mk_iff] structure RevocationChainUpdate (functions : AuthorityFunctions)
    (configured_target : TargetBinding) (commit : EpochRevocationCommitV1)
    (predecessor : SignedEvidenceEventV1) (predecessor_head : EvidenceChainHeadV1)
    (evidence_sha256 : Sha256Digest) : Prop where
  sequence : commit.signed_evidence.event.sequence=predecessor_head.sequence+1
  previous : commit.signed_evidence.event.previous_event_sha256=
    some (functions.canonical_sha256 (.signedEvidence predecessor))
  occurred_at : predecessor_head.updated_at.1 ≤ commit.signed_evidence.event.occurred_at.1
  head_root_id : commit.chain_head.root_id=commit.result.root_id
  head_root_sha256 : commit.chain_head.root_sha256=commit.result.root_sha256
  head_target : commit.chain_head.target=configured_target
  head_sequence : commit.chain_head.sequence=commit.signed_evidence.event.sequence
  head_evidence_id : commit.chain_head.evidence_id=commit.signed_evidence.event.evidence_id
  head_evidence_sha256 : commit.chain_head.evidence_sha256=evidence_sha256
  head_kind : commit.chain_head.kind=commit.signed_evidence.event.kind
  head_epoch : commit.chain_head.epoch=commit.signed_evidence.event.epoch
  head_updated_at : commit.chain_head.updated_at=commit.signed_evidence.event.occurred_at

instance (functions : AuthorityFunctions) (configured_target : TargetBinding)
    (commit : EpochRevocationCommitV1) (predecessor : SignedEvidenceEventV1)
    (predecessor_head : EvidenceChainHeadV1) (evidence_sha256 : Sha256Digest) : Decidable
      (RevocationChainUpdate functions configured_target commit predecessor predecessor_head
        evidence_sha256) :=
  decidable_of_iff _ (revocationChainUpdate_iff functions configured_target commit predecessor
    predecessor_head evidence_sha256).symm

/-- An identity that is claimed by a result. -/
@[mk_iff] structure RevocationIdentityBound (result : EpochRevocationResultV1)
    (request_sha256 : Sha256Digest) (identity : EpochRevocationIdentityV1)
    (kind : EpochRevocationIdentityKind) (value : Identifier) : Prop where
  identity_kind : identity.identity_kind=kind
  identity_value : identity.identity_value=value
  root_id : identity.root_id=result.root_id
  root_sha256 : identity.root_sha256=result.root_sha256
  request_digest : identity.request_sha256=request_sha256
  result_id : identity.result_id=result.result_id
  claimed_at : identity.claimed_at=result.committed_at

instance (result : EpochRevocationResultV1) (request_sha256 : Sha256Digest)
    (identity : EpochRevocationIdentityV1) (kind : EpochRevocationIdentityKind)
    (value : Identifier) :
    Decidable (RevocationIdentityBound result request_sha256 identity kind value) :=
  decidable_of_iff _ (revocationIdentityBound_iff result request_sha256 identity kind value).symm

/-- An audit of the accepted attempt. -/
@[mk_iff] structure RevocationAuditBound (invocation : EpochRevocationInvocationV1)
    (result : EpochRevocationResultV1) (audit : EpochRevocationAuditV1)
    (request_sha256 : Sha256Digest) : Prop where
  audit_id : audit.audit_id=invocation.attempt_id
  attempt_id : audit.attempt_id=invocation.attempt_id
  request_digest : audit.request_sha256=request_sha256
  root_id : audit.root_id=result.root_id
  root_sha256 : audit.root_sha256=result.root_sha256
  expected_epoch : audit.expected_epoch=invocation.command.expected_epoch
  request_id : audit.request_id=invocation.command.request_id
  idempotency_key : audit.idempotency_key=invocation.command.idempotency_key
  operator_identity : audit.operator_identity=invocation.operator_identity
  operator_subject : audit.operator_subject=invocation.operator_subject
  outcome : audit.outcome=.committed
  result_id : audit.result_id=some result.result_id
  evidence_id : audit.evidence_id=some result.evidence_id
  new_epoch : audit.new_epoch=some result.new_epoch
  recorded_at : audit.recorded_at=result.committed_at

instance (invocation : EpochRevocationInvocationV1) (result : EpochRevocationResultV1)
    (audit : EpochRevocationAuditV1) (request_sha256 : Sha256Digest) :
    Decidable (RevocationAuditBound invocation result audit request_sha256) :=
  decidable_of_iff _ (revocationAuditBound_iff invocation result audit request_sha256).symm

/-- Check a revocation against the view that it was decided on. -/
def validateEpochRevocationCommit (functions : AuthorityFunctions)
    (configured_target : TargetBinding) (expected : EpochRevocationState)
    (commit : EpochRevocationCommitV1) : Except Raised Unit := do
  let inexact := Raised.valueError "epoch revocation commit requires exact state and records"
  let bundle ← requireSome expected.root_bundle inexact
  require (expected.request_identity.isNone=true ∧ expected.idempotency_identity.isNone=true ∧
    expected.result.isNone=true ∧ expected.attempt_audit.isNone=true) inexact
  let invocation := expected.invocation
  let command := invocation.command
  let request_sha256 := epochRevocationRequestSha256 functions.sha256 invocation
  validateAuthorityAdvance configured_target bundle.authority commit.replacement_authority
  require (ActiveRevocation configured_target invocation bundle commit.replacement_authority)
    (.valueError "epoch revocation does not match active root authority")
  let evidence_sha256 := functions.canonical_sha256 (.signedEvidence commit.signed_evidence)
  require (RevocationResultBound configured_target invocation bundle commit request_sha256
        evidence_sha256 ∧
      RevocationSubjectBound functions bundle commit request_sha256 ∧
      RevocationEventBound functions configured_target invocation bundle commit)
    (.valueError "epoch revocation result and evidence are incoherent")
  let predecessor_head ← currentEvidenceChainHead functions bundle configured_target
    expected.chain_head expected.head_evidence
  let stored ← requireSome (predecessor bundle expected.chain_head expected.head_evidence) inexact
  require (RevocationChainUpdate functions configured_target commit stored.value predecessor_head
      evidence_sha256) (.valueError "epoch revocation evidence-chain update is invalid")
  require (RevocationIdentityBound commit.result request_sha256 commit.request_identity .request
        command.request_id ∧
      RevocationIdentityBound commit.result request_sha256 commit.idempotency_identity
        .idempotency command.idempotency_key)
    (.valueError "epoch revocation identity claims are invalid")
  require (RevocationAuditBound invocation commit.result commit.audit request_sha256)
    (.valueError "epoch revocation accepted audit is invalid")

/-- The documents of one revocation. -/
structure RevocationDocuments (functions : AuthorityFunctions) where
  authority : PreparedDocument functions authorityFamily
  signed_evidence : PreparedDocument functions evidenceFamily
  chain_head : PreparedDocument functions headFamily
  result : PreparedDocument functions revocationResultFamily
  request_identity : PreparedDocument functions revocationIdentityFamily
  idempotency_identity : PreparedDocument functions revocationIdentityFamily
  epoch_identity : PreparedDocument functions revocationIdentityFamily
  audit : PreparedDocument functions revocationAuditFamily

def prepareRevocationIdentity (functions : AuthorityFunctions)
    (identity : EpochRevocationIdentityV1) :
    Except Raised (PreparedDocument functions revocationIdentityFamily) := do
  let logical_id ← epochRevocationIdentityLogicalId identity.identity_kind.value
    identity.identity_value.1
  preparedDocument functions revocationIdentityFamily logical_id 0 identity

/-- Ownership of the new epoch of a root. -/
def epochIdentity (result : EpochRevocationResultV1) (identity_value : Identifier) :
    EpochRevocationIdentityV1 where
  identity_kind := .epoch
  identity_value := identity_value
  root_id := result.root_id
  root_sha256 := result.root_sha256
  request_sha256 := result.request_sha256
  result_id := result.result_id
  claimed_at := result.committed_at

def prepareRevocation (functions : AuthorityFunctions) (commit : EpochRevocationCommitV1) :
    Except Raised (RevocationDocuments functions) := do
  let authority ← preparedDocument functions authorityFamily commit.replacement_authority.root_id.1
    commit.replacement_authority.revision commit.replacement_authority
  let signed_evidence ← preparedDocument functions evidenceFamily
    commit.signed_evidence.event.evidence_id.1 0 commit.signed_evidence
  let chain_head ← preparedDocument functions headFamily commit.chain_head.root_id.1
    commit.chain_head.sequence commit.chain_head
  let result ← preparedDocument functions revocationResultFamily commit.result.result_id.1 0
    commit.result
  let request_identity ← prepareRevocationIdentity functions commit.request_identity
  let idempotency_identity ← prepareRevocationIdentity functions commit.idempotency_identity
  let epoch_value ← epochRevocationIdentityValue commit.result.root_id.1 commit.result.new_epoch.1
  let epoch_identity_value ← logicalIdentity epoch_value
  let epoch_identity ← prepareRevocationIdentity functions
    (epochIdentity commit.result epoch_identity_value)
  let audit ← preparedDocument functions revocationAuditFamily commit.audit.audit_id.1 0 commit.audit
  return ⟨authority,signed_evidence,chain_head,result,request_identity,idempotency_identity,
    epoch_identity,audit⟩

variable {functions : AuthorityFunctions}

/-- Require every record of the view to be current, and the new epoch to be unclaimed. -/
def checkRevocationView (configured_target : TargetBinding) (expected : EpochRevocationState)
    (bundle : RootCreationBundle) (commit : EpochRevocationCommitV1)
    (documents : RevocationDocuments functions) (database : Database functions) :
    Except StoreError Unit := do
  let root_id := commit.result.root_id
  let current_root ← readRoot database root_id
  let current_claim ← readServiceClaim configured_target database
  let current_authority ← database.authorities.read (.ok documents.authority.document_id) root_id.1
  let current_head ← database.chain_heads.read (.ok documents.chain_head.document_id) root_id.1
  let expected_predecessor ← requireSome
    (predecessor bundle expected.chain_head expected.head_evidence) .conflict
  let current_predecessor ← readEvidence database expected_predecessor.value.event.evidence_id.1
  let current_request_identity ← database.revocation_identities.read
    (.ok documents.request_identity.document_id) documents.request_identity.document.logical_id
  let current_idempotency_identity ← database.revocation_identities.read
    (.ok documents.idempotency_identity.document_id)
    documents.idempotency_identity.document.logical_id
  let current_epoch_identity ← database.revocation_identities.read
    (.ok documents.epoch_identity.document_id) documents.epoch_identity.document.logical_id
  let current_result ← database.revocation_results.read (.ok documents.result.document_id)
    commit.result.result_id.1
  let current_audit ← database.revocation_audits.read (.ok documents.audit.document_id)
    commit.audit.audit_id.1
  require (current_root=some bundle.root ∧ current_claim=some bundle.service_claim ∧
    current_authority=some bundle.authority ∧ current_head=expected.chain_head ∧
    current_predecessor=some expected_predecessor ∧
    current_request_identity=expected.request_identity ∧
    current_idempotency_identity=expected.idempotency_identity ∧ current_epoch_identity=none ∧
    current_result=expected.result ∧ current_audit=expected.attempt_audit) .conflict

/-- Write the head of a chain: create it where there is none, replace it otherwise. -/
def writeHead (current_head : Option (StoredRecord EvidenceChainHeadV1))
    (prepared : PreparedDocument functions headFamily) (table : Table functions headFamily) :
    Except StoreError (Table functions headFamily) :=
  match current_head with
  | none => table.create prepared
  | some _ => .ok (table.put prepared)

def writeRevocation (current_head : Option (StoredRecord EvidenceChainHeadV1))
    (documents : RevocationDocuments functions) (database : Database functions) :
    Except StoreError (Database functions) := do
  let signed_evidence ← database.signed_evidence.create documents.signed_evidence
  let chain_heads ← writeHead current_head documents.chain_head database.chain_heads
  let revocation_results ← database.revocation_results.create documents.result
  let claimed_request ← database.revocation_identities.create documents.request_identity
  let claimed_key ← claimed_request.create documents.idempotency_identity
  let claimed_epoch ← claimed_key.create documents.epoch_identity
  let revocation_audits ← database.revocation_audits.create documents.audit
  return {database with
    authorities := database.authorities.put documents.authority,
    signed_evidence := signed_evidence,chain_heads := chain_heads,
    revocation_results := revocation_results,revocation_identities := claimed_epoch,
    revocation_audits := revocation_audits}

/-- Advance the authority of a root and append the evidence of it. The result is checked as the
model that it is. -/
def commitEpochRevocation (configured_target : TargetBinding) (expected : EpochRevocationState)
    (commit : EpochRevocationCommitV1) (database : Database functions) :
    Except StoreError (Database functions) := do
  (validateRevocationResult functions.sha256 commit.result).mapError .invalid
  (validateEpochRevocationCommit functions configured_target expected commit).mapError .invalid
  let bundle ← requireSome expected.root_bundle (.invalid (.assertionError "root bundle"))
  let documents ← (prepareRevocation functions commit).mapError .invalid
  checkRevocationView configured_target expected bundle commit documents database
  writeRevocation expected.chain_head documents database

end ControlGraph.RevocationCommits
