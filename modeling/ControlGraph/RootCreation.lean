import ControlGraph.EvidenceChain
import ControlGraph.ExecutionRequests

/-!
# Creation of a rollout root

A root is created with its service claim, its first authority, its lineage
anchor, the evidence of the creation and the result that names all of them. The
first root of a service creates the claim; a later one takes over a claim that was
released before its stable snapshot was captured. The creation refuses a root
that is already stored.
-/

namespace ControlGraph.RootCreation

open Checks ContractText JsonValues JsonText Utf8Text StorageIdentity RootContracts
  ReleaseContracts AuthorityDatabase

open ReceiptContracts hiding ServiceClaimRecord

open ReceiptStore (StoreError serviceClaimLogicalId serviceClaimDocumentId)

open ExecutionRequests (TargetConfigurationProjection)

/-- Whether a text is the mail address of one human operator. -/
def isHumanEmail (identity : String) : Bool :=
  let isStart := fun character => isLower character || isDecimal character
  let local_part := identity.toList.takeWhile (fun character => character != '@')
  match identity.toList.dropWhile (fun character => character != '@') with
  | _::domain =>
    local_part.head?.any isStart && local_part.length ≤ 64 &&
      local_part.all (fun character => isStart character ||
        ['.','_','%','+','-'].contains character) &&
      domain.head?.any isStart && domain.getLast?.any isStart && domain.length ≤ 253 &&
      domain.all (fun character => isStart character || ['.','-'].contains character)
  | [] => false

/-- Require the identity of a human operator. -/
def validateOperatorIdentity (identity : BoundedText) : Except Raised Unit :=
  require (isHumanEmail identity.1=true ∧
      ¬".iam.gserviceaccount.com".toList.isSuffixOf identity.1.toList=true)
    (.valueError "root operator identity must be one human email")

section

variable (functions : AuthorityFunctions)

/-- Maximum authority that the first capability of a root inherits. -/
def capabilityLineageAnchor (root : RolloutRootV3) : CapabilityLineageAnchorV1 where
  root_id := root.root_id
  root_sha256 := root.root_sha256
  target := root.content.target
  stable_snapshot_sha256 := root.content.rollout_plan.stable_snapshot_sha256
  stable_revision := root.content.rollout_plan.stable_revision
  stable_revision_configuration_sha256 :=
    root.content.rollout_plan.stable_revision_configuration_sha256
  candidate_revision := root.content.rollout_plan.candidate_revision
  candidate_revision_configuration_sha256 :=
    root.content.rollout_plan.candidate_revision_configuration_sha256
  plan_sha256 := functions.canonical_sha256 (.rolloutPlan root.content.rollout_plan)
  health_policy_sha256 := functions.canonical_sha256 (.healthPolicy root.content.health_policy)
  authority_bounds_sha256 :=
    functions.canonical_sha256 (.authorityBounds root.content.authority_bounds)
  initial_epoch := root.content.rollout_plan.initial_epoch

/-- Digest of a target state. -/
def targetConfigurationProjectionSha256 (projected : TargetConfigurationProjection) :
    Sha256Digest :=
  functions.sha256 (asciiBytes "controlgraph.target-configuration-sha256/v1"++[0]++
    utf8Bytes (dumpsSorted (.obj
      [(chars "candidate_percent",.int projected.candidate_percent),
        (chars "candidate_revision",.str (chars projected.candidate_revision.1)),
        (chars "concurrency",.int projected.concurrency),
        (chars "schema_version",.str (chars "controlgraph.target-configuration/v1")),
        (chars "stable_percent",.int projected.stable_percent),
        (chars "stable_revision",.str (chars projected.stable_revision.1)),
        (chars "target",targetJson projected.target)])))

/-- Target state of a root at a traffic split. -/
def rootProjection (root : RolloutRootV3) (stable_percent candidate_percent : Nat) :
    TargetConfigurationProjection where
  target := root.content.target
  stable_revision := root.content.rollout_plan.stable_revision
  candidate_revision := root.content.rollout_plan.candidate_revision
  stable_percent := stable_percent
  candidate_percent := candidate_percent
  concurrency := root.content.rollout_plan.concurrency

/-- Digest of the target state of a root at a traffic split. -/
def contentAddressedRootTargetConfigurationSha256 (root : RolloutRootV3)
    (stable_percent candidate_percent : Nat) : Except Raised Sha256Digest := do
  let projected ← (rootProjection root stable_percent candidate_percent).make
  return targetConfigurationProjectionSha256 functions projected

/-- Digest of an authenticated root creation request. -/
def rootCreationRequestSha256 (root : RolloutRootV3) (request_id idempotency_key : Identifier)
    (operator_identity : BoundedText) (operator_subject : GoogleSubject) :
    Except Raised Sha256Digest := do
  (validateOperatorIdentity operator_identity).mapError
    (fun _ => .valueError "root creation request identity is invalid")
  return functions.sha256 (asciiBytes "controlgraph.root-creation-request-sha256/v1"++[0]++
    utf8Bytes (dumpsSorted (.obj
      [(chars "idempotency_key",.str (chars idempotency_key.1)),
        (chars "operator_identity",.str (chars operator_identity.1)),
        (chars "operator_subject",.str (chars operator_subject.1)),
        (chars "request_id",.str (chars request_id.1)),(chars "root_id",.str (chars root.root_id.1)),
        (chars "root_sha256",.str (chars root.root_sha256.1)),
        (chars "schema_version",.str (chars "controlgraph.root-creation-request/v1"))])))

/-- Check that a root is addressed by its content. -/
def validateContentAddress (root : RolloutRootV3) : Except Raised Unit := do
  let expected_digest := functions.canonical_sha256 (.rootContent root.content)
  require (root.root_sha256=expected_digest)
    (.valueError "rollout root digest does not match its canonical content")
  require (root.root_id.1="cgroot:"++expected_digest.1)
    (.valueError "rollout root identifier does not match its content digest")

end

/-- The request of a creation result is the one of its winner. -/
@[mk_iff] structure WinningRequest (result : RootCreationResultV2) : Prop where
  request_id : result.request_id=result.winner_request_id
  idempotency_key : result.idempotency_key=result.winner_idempotency_key
  operator_identity : result.operator_identity=result.winner_operator_identity
  operator_subject : result.operator_subject=result.winner_operator_subject
  approved_by : result.winner_operator_identity=result.root.content.approved_by
  approved_by_subject : result.winner_operator_subject=result.root.content.approved_by_subject

instance (result : RootCreationResultV2) : Decidable (WinningRequest result) :=
  decidable_of_iff _ (winningRequest_iff result).symm

/-- The evidence of a creation result is about its root. -/
@[mk_iff] structure CreationEvidence (functions : AuthorityFunctions)
    (result : RootCreationResultV2) : Prop where
  approved_at : result.root.content.approved_at.1 ≤ result.created_at.1
  occurred_at : result.signed_evidence.event.occurred_at=result.created_at
  kind : result.signed_evidence.event.kind=.rootCreated
  sequence : result.signed_evidence.event.sequence=0
  previous : result.signed_evidence.event.previous_event_sha256=none
  root_id : result.signed_evidence.event.root_id=result.root.root_id
  root_sha256 : result.signed_evidence.event.root_sha256=result.root.root_sha256
  target : result.signed_evidence.event.target=result.root.content.target
  epoch : result.signed_evidence.event.epoch=result.root.content.rollout_plan.initial_epoch
  actor : result.signed_evidence.event.actor=result.winner_operator_identity
  request_id : result.signed_evidence.event.request_id=some result.winner_request_id
  receipt_id : result.signed_evidence.event.receipt_id=none
  reason_code : result.signed_evidence.event.reason_code=none
  provider_operation : result.signed_evidence.event.provider_operation=none
  target_configuration : result.signed_evidence.event.target_configuration_sha256=
    some result.root.content.stable_snapshot.configuration_sha256
  subject : result.signed_evidence.event.subject_sha256=
    functions.canonical_sha256 (.rootCreationSubject result.evidence_subject)
  signing_key : result.signed_evidence.signing_key_version=
    result.root.content.evidence_signing_key_version

instance (functions : AuthorityFunctions) (result : RootCreationResultV2) :
    Decidable (CreationEvidence functions result) :=
  decidable_of_iff _ (creationEvidence_iff functions result).symm

/-- The first authority of a creation result is the one of its root. -/
@[mk_iff] structure InitialAuthority (result : RootCreationResultV2) : Prop where
  root_id : result.initial_authority.root_id=result.root.root_id
  root_sha256 : result.initial_authority.root_sha256=result.root.root_sha256
  target : result.initial_authority.target=result.root.content.target
  current_epoch : result.initial_authority.current_epoch=
    result.root.content.rollout_plan.initial_epoch
  previous_epoch : result.initial_authority.previous_epoch=none
  revision : result.initial_authority.revision=0
  cause : result.initial_authority.cause=.rootCreated
  changed_by : result.initial_authority.changed_by=result.winner_operator_identity
  request_id : result.initial_authority.request_id=result.winner_request_id
  evidence_id : result.initial_authority.evidence_id=result.signed_evidence.event.evidence_id
  changed_at : result.initial_authority.changed_at=result.created_at

instance (result : RootCreationResultV2) : Decidable (InitialAuthority result) :=
  decidable_of_iff _ (initialAuthority_iff result).symm

/-- What the evidence of a creation result must be about. -/
def expectedEvidenceSubject (result : RootCreationResultV2) (request_sha256 : Sha256Digest) :
    RootCreationEvidenceSubjectV1 where
  root_id := result.root.root_id
  root_sha256 := result.root.root_sha256
  request_sha256 := request_sha256
  created_at := result.created_at
  service_claim_id := result.winner_service_claim_id
  service_claim_sha256 := result.winner_service_claim_sha256
  authority_id := result.winner_authority_id
  authority_sha256 := result.winner_authority_sha256
  lineage_anchor_id := result.winner_lineage_anchor_id
  lineage_anchor_sha256 := result.winner_lineage_anchor_sha256
  evidence_id := result.winner_evidence_id

/-- The artifacts of a creation result are named by their identities and digests. -/
@[mk_iff] structure CreationArtifacts (functions : AuthorityFunctions)
    (result : RootCreationResultV2) (request_sha256 : Sha256Digest) : Prop where
  claim_id : result.winner_service_claim_id.1=(targetSha256 functions result.root.content.target).1
  authority_id : result.winner_authority_id=result.root.root_id
  authority_sha256 : result.winner_authority_sha256=
    functions.canonical_sha256 (.epochAuthority result.initial_authority)
  anchor_id : result.winner_lineage_anchor_id.1=
    capabilityLineageAnchorLogicalId functions result.lineage_anchor
  anchor_sha256 : result.winner_lineage_anchor_sha256=
    functions.canonical_sha256 (.lineageAnchor result.lineage_anchor)
  evidence_id : result.winner_evidence_id=result.signed_evidence.event.evidence_id
  evidence_sha256 : result.winner_evidence_sha256=
    functions.canonical_sha256 (.signedEvidence result.signed_evidence)
  subject : result.evidence_subject=expectedEvidenceSubject result request_sha256

instance (functions : AuthorityFunctions) (result : RootCreationResultV2)
    (request_sha256 : Sha256Digest) :
    Decidable (CreationArtifacts functions result request_sha256) :=
  decidable_of_iff _ (creationArtifacts_iff functions result request_sha256).symm

/-- Check that a creation result names one deterministic winner. -/
def validateDeterministicWinner (functions : AuthorityFunctions) (result : RootCreationResultV2) :
    Except Raised Unit := do
  validateOperatorIdentity result.operator_identity
  validateOperatorIdentity result.winner_operator_identity
  require (WinningRequest result)
    (.valueError "root creation may adopt only the exact winning request")
  let expected_request_sha256 ← rootCreationRequestSha256 functions result.root result.request_id
    result.idempotency_key result.operator_identity result.operator_subject
  require (result.request_sha256=expected_request_sha256 ∧
      result.winner_request_sha256=expected_request_sha256)
    (.valueError "root creation request digest does not match the winner")
  require (result.lineage_anchor=capabilityLineageAnchor functions result.root)
    (.valueError "root creation lineage anchor does not match the root")
  require (CreationEvidence functions result)
    (.valueError "root creation evidence does not match the winning root")
  require (InitialAuthority result)
    (.valueError "initial authority does not match the winning root")
  require (CreationArtifacts functions result expected_request_sha256)
    (.valueError "root creation artifact identity or digest does not match")

/-- A claim that binds every field derived from a root. -/
@[mk_iff] structure ServiceClaimMatchesRootV3 (claim : ServiceClaimRecord) (root : RolloutRootV3)
    (stable_target_configuration_sha256 candidate_target_configuration_sha256 : Sha256Digest) :
    Prop where
  target : claim.target=root.content.target
  root_id : claim.root_id=root.root_id
  root_sha256 : claim.root_sha256=root.root_sha256
  stable_revision : claim.stable_revision=root.content.rollout_plan.stable_revision
  candidate_revision : claim.candidate_revision=root.content.rollout_plan.candidate_revision
  initial_epoch : claim.initial_epoch=root.content.rollout_plan.initial_epoch
  baseline_generation : claim.baseline_service_generation=
    root.content.stable_snapshot.service_generation
  baseline_configuration : claim.baseline_configuration_sha256=
    root.content.stable_snapshot.configuration_sha256
  baseline_revision_configuration : claim.baseline_revision_configuration_sha256=
    root.content.rollout_plan.stable_revision_configuration_sha256
  candidate_revision_configuration : claim.candidate_revision_configuration_sha256=
    root.content.rollout_plan.candidate_revision_configuration_sha256
  stable_target_configuration :
    claim.stable_target_configuration_sha256=stable_target_configuration_sha256
  candidate_target_configuration :
    claim.candidate_target_configuration_sha256=candidate_target_configuration_sha256
  operator_owner : claim.operator_owner=root.content.approved_by
  captured_by : root.content.stable_snapshot.captured_by.1=verifierIdentity root.content.target
  captured_at : root.content.stable_snapshot.captured_at.1 ≤ root.content.approved_at.1
  claimed_at : root.content.approved_at.1 ≤ claim.claimed_at.1

instance (claim : ServiceClaimRecord) (root : RolloutRootV3) (stable candidate : Sha256Digest) :
    Decidable (ServiceClaimMatchesRootV3 claim root stable candidate) :=
  decidable_of_iff _ (serviceClaimMatchesRootV3_iff claim root stable candidate).symm

/-- An active claim that binds every field derived from a root. -/
def ActiveServiceClaimMatchesRootV3 (claim : ServiceClaimRecord) (root : RolloutRootV3)
    (stable candidate : Sha256Digest) : Prop :=
  claim.status=.active ∧ ServiceClaimMatchesRootV3 claim root stable candidate

instance (claim : ServiceClaimRecord) (root : RolloutRootV3) (stable candidate : Sha256Digest) :
    Decidable (ActiveServiceClaimMatchesRootV3 claim root stable candidate) :=
  inferInstanceAs (Decidable (_ ∧ _))

/-- The records of one root creation. -/
structure RootCreationCommit where
  root : RolloutRootV3
  service_claim : ServiceClaimRecord
  authority : EpochAuthorityRecord
  lineage_anchor : CapabilityLineageAnchorV1
  signed_evidence : SignedEvidenceEventV1
  creation_result : RootCreationResultV2

/-- A released claim that a new root may take over. -/
@[mk_iff] structure ReleasedTakeover (configured_target : TargetBinding)
    (expected_released_claim : StoredRecord ServiceClaimRecord) (root : RolloutRootV3)
    (claim : ServiceClaimRecord) : Prop where
  target : expected_released_claim.value.target=configured_target
  status : expected_released_claim.value.status=.released
  revision : expected_released_claim.revision%3=2
  other_root : expected_released_claim.value.root_id≠root.root_id
  released_before : ∃ released_at∈expected_released_claim.value.released_at,
    released_at.1 < root.content.stable_snapshot.captured_at.1
  claimed_at : root.content.approved_at.1 ≤ claim.claimed_at.1

instance (configured_target : TargetBinding)
    (expected_released_claim : StoredRecord ServiceClaimRecord) (root : RolloutRootV3)
    (claim : ServiceClaimRecord) :
    Decidable (ReleasedTakeover configured_target expected_released_claim root claim) :=
  decidable_of_iff _
    (releasedTakeover_iff configured_target expected_released_claim root claim).symm

/-- Check that a new root follows a released claim. -/
def validateReleasedTakeoverContentAddressed (configured_target : TargetBinding)
    (expected_released_claim : StoredRecord ServiceClaimRecord) (root : RolloutRootV3)
    (claim : ServiceClaimRecord) : Except Raised Unit :=
  require (ReleasedTakeover configured_target expected_released_claim root claim)
    (.valueError "new rollout does not follow one safely released claim")

/-- The records of a root creation belong together. -/
@[mk_iff] structure AtomicBundle (functions : AuthorityFunctions) (commit : RootCreationCommit)
    (claim_id stable candidate : Sha256Digest) : Prop where
  outcome : commit.creation_result.outcome=.created
  root : commit.creation_result.root=commit.root
  authority : commit.creation_result.initial_authority=commit.authority
  lineage_anchor : commit.creation_result.lineage_anchor=commit.lineage_anchor
  signed_evidence : commit.creation_result.signed_evidence=commit.signed_evidence
  anchor : commit.lineage_anchor=capabilityLineageAnchor functions commit.root
  active_claim : ActiveServiceClaimMatchesRootV3 commit.service_claim commit.root stable candidate
  claim_id : commit.creation_result.winner_service_claim_id.1=claim_id.1
  claim_sha256 : commit.creation_result.winner_service_claim_sha256=
    functions.canonical_sha256 (.serviceClaim commit.service_claim)
  claim_request_id : commit.service_claim.claim_request_id=commit.creation_result.winner_request_id
  claim_evidence_id : commit.service_claim.claim_evidence_id=
    commit.signed_evidence.event.evidence_id
  claimed_at : commit.service_claim.claimed_at=commit.creation_result.created_at
  authority_request_id : commit.authority.request_id=commit.service_claim.claim_request_id
  authority_evidence_id : commit.authority.evidence_id=commit.service_claim.claim_evidence_id
  authority_changed_at : commit.authority.changed_at=commit.service_claim.claimed_at

instance (functions : AuthorityFunctions) (commit : RootCreationCommit)
    (claim_id stable candidate : Sha256Digest) :
    Decidable (AtomicBundle functions commit claim_id stable candidate) :=
  decidable_of_iff _ (atomicBundle_iff functions commit claim_id stable candidate).symm

/-- Check the records of a root creation. -/
def validateInitialRootCreationBundle (functions : AuthorityFunctions)
    (configured_target : TargetBinding) (commit : RootCreationCommit)
    (expected_released_claim : Option (StoredRecord ServiceClaimRecord)) : Except Raised Unit := do
  let stable ← contentAddressedRootTargetConfigurationSha256 functions commit.root 100 0
  let candidate ← contentAddressedRootTargetConfigurationSha256 functions commit.root 0 100
  require (∀ target∈[commit.root.content.target,commit.service_claim.target,
      commit.authority.target,commit.lineage_anchor.target,commit.signed_evidence.event.target],
      target=configured_target)
    (.valueError "root creation records do not match the configured target")
  let claim_id ← serviceClaimLogicalId functions.sha256 configured_target
  require (AtomicBundle functions commit claim_id stable candidate)
    (.valueError "root creation records are not one atomic authority bundle")
  match expected_released_claim with
  | none => return ()
  | some expected =>
    validateReleasedTakeoverContentAddressed configured_target expected commit.root
      commit.service_claim

/-- The documents of one root creation. -/
structure RootCreationDocuments (functions : AuthorityFunctions) where
  root : PreparedDocument functions rootFamily
  service_claim : PreparedDocument functions (claimFamily functions)
  authority : PreparedDocument functions authorityFamily
  lineage_anchor : PreparedDocument functions (anchorFamily functions)
  signed_evidence : PreparedDocument functions evidenceFamily
  creation_result : PreparedDocument functions creationResultFamily

def RootCreationCommit.prepare (functions : AuthorityFunctions) (configured_target : TargetBinding)
    (commit : RootCreationCommit) (claim_revision : Nat) :
    Except Raised (RootCreationDocuments functions) := do
  let root ← preparedDocument functions rootFamily commit.root.root_id.1 0 commit.root
  let claim_logical_id ← serviceClaimLogicalId functions.sha256 configured_target
  let service_claim ← preparedDocument functions (claimFamily functions) claim_logical_id.1
    claim_revision commit.service_claim
  let authority ← preparedDocument functions authorityFamily commit.authority.root_id.1 0
    commit.authority
  let lineage_anchor ← preparedDocument functions (anchorFamily functions)
    (capabilityLineageAnchorLogicalId functions commit.lineage_anchor) 0 commit.lineage_anchor
  let signed_evidence ← preparedDocument functions evidenceFamily
    commit.signed_evidence.event.evidence_id.1 0 commit.signed_evidence
  let creation_result ← preparedDocument functions creationResultFamily commit.root.root_id.1 0
    commit.creation_result
  return ⟨root,service_claim,authority,lineage_anchor,signed_evidence,creation_result⟩

variable {functions : AuthorityFunctions}

def readServiceClaim (configured_target : TargetBinding) (database : Database functions) :
    Except StoreError (Option (StoredRecord ServiceClaimRecord)) := do
  let claim_logical_id ← (serviceClaimLogicalId functions.sha256 configured_target).mapError .invalid
  database.service_claims.read (serviceClaimDocumentId functions.sha256 configured_target)
    claim_logical_id.1

def readRoot (database : Database functions) (root_id : Identifier) :
    Except StoreError (Option (StoredRecord RolloutRootV3)) :=
  database.roots.read (rolloutRootV3DocumentId functions root_id) root_id.1

def readCreationResult (database : Database functions) (root_id : Identifier) :
    Except StoreError (Option (StoredRecord RootCreationResultV2)) :=
  database.creation_results.read (rootCreationResultV2DocumentId functions root_id) root_id.1

def readAuthority (database : Database functions) (root_id : Identifier) :
    Except StoreError (Option (StoredRecord EpochAuthorityRecord)) :=
  database.authorities.read (epochAuthorityDocumentId functions.sha256 root_id) root_id.1

def readEvidence (database : Database functions) (evidence_id : String) :
    Except StoreError (Option (StoredRecord SignedEvidenceEventV1)) :=
  database.signed_evidence.read (signedEvidenceEventDocumentId functions evidence_id) evidence_id

/-- Read the head of the evidence chain of a root. -/
def readChainHead (database : Database functions) (root_id : Identifier) :
    Except StoreError (Option (StoredRecord EvidenceChainHeadV1)) :=
  database.chain_heads.read (evidenceChainHeadDocumentId functions root_id) root_id.1

/-- Create the records of a root besides its claim. -/
def createRootRecords (database : Database functions) (documents : RootCreationDocuments functions) :
    Except StoreError (Database functions) := do
  let roots ← database.roots.create documents.root
  let authorities ← database.authorities.create documents.authority
  let lineage_anchors ← database.lineage_anchors.create documents.lineage_anchor
  let signed_evidence ← database.signed_evidence.create documents.signed_evidence
  let creation_results ← database.creation_results.create documents.creation_result
  return {database with
    roots := roots,authorities := authorities,lineage_anchors := lineage_anchors,
    signed_evidence := signed_evidence,creation_results := creation_results}

def createRootTransaction (configured_target : TargetBinding) (root_id : Identifier)
    (expected_released_claim : Option (StoredRecord ServiceClaimRecord))
    (documents : RootCreationDocuments functions) (database : Database functions) :
    Except StoreError (Database functions) := do
  let existing_root ← readRoot database root_id
  let existing_result ← readCreationResult database root_id
  require (existing_root.isNone=existing_result.isNone) .corruptRecord
  require (existing_root=none) .conflict
  match expected_released_claim with
  | none =>
    let service_claims ← database.service_claims.create documents.service_claim
    createRootRecords {database with service_claims := service_claims} documents
  | some expected =>
    let current_claim ← readServiceClaim configured_target database
    require (current_claim=some expected) .conflict
    createRootRecords
      {database with service_claims := database.service_claims.put documents.service_claim}
      documents

/-- Create a root with its records, taking over a released claim where one is expected. The
creation result and the root are checked as the models that they are. -/
def createRootCreationBundle (configured_target : TargetBinding) (commit : RootCreationCommit)
    (expected_released_claim : Option (StoredRecord ServiceClaimRecord))
    (database : Database functions) : Except StoreError (Database functions) := do
  (validateContentAddress functions commit.root).mapError .invalid
  (validateDeterministicWinner functions commit.creation_result).mapError .invalid
  (validateInitialRootCreationBundle functions configured_target commit
    expected_released_claim).mapError .invalid
  let claim_revision := expected_released_claim.elim 0 (fun expected => expected.revision+1)
  let documents ← (commit.prepare functions configured_target claim_revision).mapError .invalid
  createRootTransaction configured_target commit.root.root_id expected_released_claim documents
    database

/-- A bundle of stored records belongs to the configured target and to its root. -/
@[mk_iff] structure BundleCoherent (functions : AuthorityFunctions) (bundle : RootCreationBundle)
    (claim_id : Sha256Digest) : Prop where
  root_revision : bundle.root.revision=0
  anchor_revision : bundle.lineage_anchor.revision=0
  evidence_revision : bundle.signed_evidence.revision=0
  result_revision : bundle.creation_result.revision=0
  outcome : bundle.creation_result.value.outcome=.created
  root : bundle.creation_result.value.root=bundle.root.value
  lineage_anchor : bundle.creation_result.value.lineage_anchor=bundle.lineage_anchor.value
  signed_evidence : bundle.creation_result.value.signed_evidence=bundle.signed_evidence.value
  anchor : bundle.lineage_anchor.value=capabilityLineageAnchor functions bundle.root.value
  authority_root_id : bundle.authority.value.root_id=bundle.root.value.root_id
  authority_root_sha256 : bundle.authority.value.root_sha256=bundle.root.value.root_sha256
  authority_revision : bundle.authority.value.revision=bundle.authority.revision
  claim_id : bundle.creation_result.value.winner_service_claim_id.1=claim_id.1

instance (functions : AuthorityFunctions) (bundle : RootCreationBundle) (claim_id : Sha256Digest) :
    Decidable (BundleCoherent functions bundle claim_id) :=
  decidable_of_iff _ (bundleCoherent_iff functions bundle claim_id).symm

/-- Check the stored records of one root. -/
def validateReadRootCreationBundle (functions : AuthorityFunctions)
    (configured_target : TargetBinding) (bundle : RootCreationBundle) : Except Raised Unit := do
  let root := bundle.root.value
  let claim := bundle.service_claim.value
  require (∀ target∈[root.content.target,claim.target,bundle.authority.value.target,
      bundle.lineage_anchor.value.target,bundle.signed_evidence.value.event.target],
      target=configured_target)
    (.valueError "root creation bundle target does not match configuration")
  let claim_id ← serviceClaimLogicalId functions.sha256 configured_target
  require (BundleCoherent functions bundle claim_id)
    (.valueError "root creation bundle is incoherent")
  if claim.root_id=root.root_id then
    let stable ← contentAddressedRootTargetConfigurationSha256 functions root 100 0
    let candidate ← contentAddressedRootTargetConfigurationSha256 functions root 0 100
    require (ServiceClaimMatchesRootV3 claim root stable candidate)
      (.valueError "root creation bundle claim is incoherent")
    require (bundle.service_claim.revision=0 →
        bundle.creation_result.value.winner_service_claim_sha256=
          functions.canonical_sha256 (.serviceClaim claim))
      (.valueError "root creation bundle initial claim digest does not match")

/-- Read the stored records of one root. -/
def readBundleRecords (configured_target : TargetBinding) (database : Database functions)
    (root_id : Identifier) : Except StoreError (Option RootCreationBundle) := do
  let root ← readRoot database root_id
  let authority ← readAuthority database root_id
  let creation_result ← readCreationResult database root_id
  match root,authority,creation_result with
  | none,none,none => return none
  | some root,some authority,some creation_result =>
    let claim ← readServiceClaim configured_target database
    let anchor ← database.lineage_anchors.read
      (capabilityLineageAnchorDocumentId functions creation_result.value.lineage_anchor)
      creation_result.value.winner_lineage_anchor_id.1
    let evidence ← readEvidence database creation_result.value.winner_evidence_id.1
    match claim,anchor,evidence with
    | some claim,some anchor,some evidence =>
      return some ⟨root,claim,authority,anchor,evidence,creation_result⟩
    | _,_,_ => .error .corruptRecord
  | _,_,_ => .error .corruptRecord

/-- Read and check the stored records of one root. -/
def readRootCreationBundle (configured_target : TargetBinding) (database : Database functions)
    (root_id : Identifier) : Except StoreError (Option RootCreationBundle) := do
  match ← readBundleRecords configured_target database root_id with
  | none => return none
  | some bundle =>
    (validateReadRootCreationBundle functions configured_target bundle).mapError
      (fun _ => .corruptRecord)
    return some bundle

end ControlGraph.RootCreation
