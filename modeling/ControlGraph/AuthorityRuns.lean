import ControlGraph.ClaimRelease
import ControlGraph.LabelledRuns

/-!
# Runs of the authority database

Attempts of every kind meet the database one after the other, in any order and
each with any view of its own. An attempt that is accepted changes the database
at one instant; any other leaves it as it is. For each kind of attempt one
theorem says everything that an accepted one has found and written. Receipts
are written by other operations, and may change to any receipts between the
attempts.
-/

namespace ControlGraph.AuthorityRuns

open Checks ContractText RootContracts RevocationContracts ReleaseContracts AuthorityDatabase
  EvidenceChain RootCreation RevocationCommits ClaimFence ClaimRelease LabelledRuns

open StorageIdentity (epochRevocationIdentityLogicalId epochRevocationIdentityValue logicalIdentity
  serviceClaimReleaseIdentityLogicalId)

open ReceiptContracts hiding ServiceClaimRecord

open ReceiptStore (StoreError serviceClaimLogicalId serviceClaimDocumentId)

/-- Attempts to change the authority database. -/
inductive Attempt (functions : AuthorityFunctions)
  /-- Create a root, or take over a released claim with it. -/
  | create (commit : RootCreationCommit)
    (expected_released_claim : Option (StoredRecord ServiceClaimRecord))
  | revoke (expected : EpochRevocationState) (commit : EpochRevocationCommitV1)
  | fence (expected : ServiceClaimReleaseState) (commit : ServiceClaimReleaseFenceCommitV1)
  | release (expected : ServiceClaimReleaseState) (commit : ServiceClaimReleaseFinalizeCommitV1)
  | receipts (written : Table functions (receiptFamily functions))

variable {functions : AuthorityFunctions} (configured_target : TargetBinding)

def Attempt.perform (database : Database functions) :
    Attempt functions → Except StoreError (Database functions)
  | .create commit expected => createRootCreationBundle configured_target commit expected database
  | .revoke expected commit => commitEpochRevocation configured_target expected commit database
  | .fence expected commit => commitServiceClaimFence configured_target expected commit database
  | .release expected commit => commitServiceClaimRelease configured_target expected commit database
  | .receipts written => .ok {database with receipts := written}

/-- Database after an attempt. -/
def step (database : Database functions) (attempt : Attempt functions) : Database functions :=
  match attempt.perform configured_target database with
  | .ok next => next
  | .error _ => database

/-- The database after a run of attempts that starts before the first root. -/
def after (attempts : List (Attempt functions)) : Database functions :=
  run (step configured_target) Database.empty attempts

/-- The claim that is stored for the configured target. -/
def storedClaim (database : Database functions) : Option (StoredRecord ServiceClaimRecord) :=
  match serviceClaimLogicalId functions.sha256 configured_target with
  | .ok claim_id => database.service_claims.find claim_id.1
  | .error _ => none

/-- The record that the next event of a root follows was found with its root, claim and
authority. -/
structure ViewFound (before : Database functions) (root_id : Identifier)
    (bundle : RootCreationBundle) (stored_head : Option (StoredRecord EvidenceChainHeadV1))
    (head_evidence : Option (StoredRecord SignedEvidenceEventV1)) : Prop where
  root : before.roots.find root_id.1=some bundle.root
  claim : storedClaim configured_target before=some bundle.service_claim
  authority : before.authorities.find root_id.1=some bundle.authority
  head : before.chain_heads.find root_id.1=stored_head
  event : ∀ stored,predecessor bundle stored_head head_evidence=some stored →
    before.signed_evidence.find stored.value.event.evidence_id.1=some stored

/-- The claim of the configured target is written. -/
def ClaimWritten (before next : Database functions) (claim : ServiceClaimRecord)
    (revision : Nat) : Prop :=
  ∃ claim_id,serviceClaimLogicalId functions.sha256 configured_target=.ok claim_id ∧
    Writes before.service_claims.find next.service_claims.find claim_id.1 claim revision

/-- Everything that an accepted root creation has found and written. -/
structure RootCreated (commit : RootCreationCommit)
    (expected_released_claim : Option (StoredRecord ServiceClaimRecord))
    (before next : Database functions) : Prop where
  winner : validateDeterministicWinner functions commit.creation_result=.ok ()
  /-- The records belong together. -/
  bundle : validateInitialRootCreationBundle functions configured_target commit
    expected_released_claim=.ok ()
  roots : Creates before.roots.find next.roots.find commit.root.root_id.1 commit.root 0
  authorities : Creates before.authorities.find next.authorities.find commit.authority.root_id.1
    commit.authority 0
  lineage_anchors : Creates before.lineage_anchors.find next.lineage_anchors.find
    (capabilityLineageAnchorLogicalId functions commit.lineage_anchor) commit.lineage_anchor 0
  signed_evidence : Creates before.signed_evidence.find next.signed_evidence.find
    commit.signed_evidence.event.evidence_id.1 commit.signed_evidence 0
  creation_results : Creates before.creation_results.find next.creation_results.find
    commit.root.root_id.1 commit.creation_result 0
  /-- The claim is new, or written over the released one. -/
  claim_before : storedClaim configured_target before=expected_released_claim
  service_claim : ClaimWritten configured_target before next commit.service_claim
    (expected_released_claim.elim 0 (fun expected => expected.revision+1))
  chain_heads : next.chain_heads=before.chain_heads
  revocation_identities : next.revocation_identities=before.revocation_identities
  revocation_results : next.revocation_results=before.revocation_results
  release_identities : next.release_identities=before.release_identities
  release_progress : next.release_progress=before.release_progress

/-- An identity is claimed by its first owner. -/
def IdentityClaimed {Record : Type} (logical_id : Except Raised String)
    (before after : String → Option (StoredRecord Record)) (identity : Record) : Prop :=
  ∃ place,logical_id=.ok place ∧ Creates before after place identity 0

/-- Logical id of the identity of a revocation. -/
def revocationIdentityPlace (identity : EpochRevocationIdentityV1) : Except Raised String :=
  epochRevocationIdentityLogicalId identity.identity_kind.value identity.identity_value.1

/-- Logical id of the identity of a release. -/
def releaseIdentityPlace (identity : ServiceClaimReleaseIdentityV1) : Except Raised String :=
  serviceClaimReleaseIdentityLogicalId identity.identity_kind.value identity.identity_value.1

/-- What the check of a revocation requires of its view. -/
structure RevocationAccepted (functions : AuthorityFunctions) (expected : EpochRevocationState)
    (commit : EpochRevocationCommitV1) (bundle : RootCreationBundle) : Prop where
  /-- The authority advances by one epoch. -/
  advance : MonotonicAdvance bundle.authority.value commit.replacement_authority
  stored_revision : bundle.authority.revision=bundle.authority.value.revision
  active : ActiveRevocation configured_target expected.invocation bundle
    commit.replacement_authority
  result : RevocationResultBound configured_target expected.invocation bundle commit
    (epochRevocationRequestSha256 functions.sha256 expected.invocation)
    (functions.canonical_sha256 (.signedEvidence commit.signed_evidence))
  event : RevocationEventBound functions configured_target expected.invocation bundle commit
  /-- The event and the head follow the current head. -/
  chain : ∃ head stored,currentEvidenceChainHead functions bundle configured_target
      expected.chain_head expected.head_evidence=.ok head ∧
    predecessor bundle expected.chain_head expected.head_evidence=some stored ∧
    RevocationChainUpdate functions configured_target commit stored.value head
      (functions.canonical_sha256 (.signedEvidence commit.signed_evidence))
  request_identity : RevocationIdentityBound commit.result
    (epochRevocationRequestSha256 functions.sha256 expected.invocation) commit.request_identity
    .request expected.invocation.command.request_id
  idempotency_identity : RevocationIdentityBound commit.result
    (epochRevocationRequestSha256 functions.sha256 expected.invocation)
    commit.idempotency_identity .idempotency expected.invocation.command.idempotency_key

/-- Everything that an accepted revocation has found and written. -/
structure EpochRevoked (expected : EpochRevocationState) (commit : EpochRevocationCommitV1)
    (bundle : RootCreationBundle) (before next : Database functions) : Prop where
  view : ViewFound configured_target before commit.result.root_id bundle expected.chain_head
    expected.head_evidence
  accepted : RevocationAccepted configured_target functions expected commit bundle
  authorities : Writes before.authorities.find next.authorities.find commit.result.root_id.1
    commit.replacement_authority commit.replacement_authority.revision
  signed_evidence : Creates before.signed_evidence.find next.signed_evidence.find
    commit.signed_evidence.event.evidence_id.1 commit.signed_evidence 0
  chain_heads : Writes before.chain_heads.find next.chain_heads.find commit.result.root_id.1
    commit.chain_head commit.chain_head.sequence
  revocation_results : Creates before.revocation_results.find next.revocation_results.find
    commit.result.result_id.1 commit.result 0
  /-- The request, the idempotency key and the new epoch are claimed. -/
  revocation_identities : ∃ requested keyed epoch_value epoch_identity_value,
    IdentityClaimed (revocationIdentityPlace commit.request_identity)
      before.revocation_identities.find requested commit.request_identity ∧
    IdentityClaimed (revocationIdentityPlace commit.idempotency_identity) requested keyed
      commit.idempotency_identity ∧
    epochRevocationIdentityValue commit.result.root_id.1 commit.result.new_epoch.1=
      .ok epoch_value ∧
    logicalIdentity epoch_value=.ok epoch_identity_value ∧
    IdentityClaimed (revocationIdentityPlace (epochIdentity commit.result epoch_identity_value))
      keyed next.revocation_identities.find (epochIdentity commit.result epoch_identity_value)
  roots : next.roots=before.roots
  service_claims : next.service_claims=before.service_claims
  lineage_anchors : next.lineage_anchors=before.lineage_anchors
  creation_results : next.creation_results=before.creation_results
  release_identities : next.release_identities=before.release_identities
  release_progress : next.release_progress=before.release_progress

/-- What the check of a fence requires of its view. -/
structure FenceAccepted (functions : AuthorityFunctions) (expected : ServiceClaimReleaseState)
    (commit : ServiceClaimReleaseFenceCommitV1) (view : FenceView) : Prop where
  configured : view.configured_target=configured_target
  /-- The records are those of the view. -/
  bundle : expected.root_bundle=some view.bundle
  head : currentEvidenceChainHead functions view.bundle configured_target expected.chain_head
    expected.head_evidence=.ok view.previous_head
  claim_target : commit.replacement_claim.target=configured_target
  active : view.bundle.service_claim.value.status=.active
  releasing : commit.replacement_claim.status=.releasing
  /-- The claim stays with its owner. -/
  ownership : claimOwnershipBinding commit.replacement_claim=
    claimOwnershipBinding view.bundle.service_claim.value
  /-- The authority advances by one epoch. -/
  advance : MonotonicAdvance view.bundle.authority.value commit.replacement_authority
  stored_revision : view.bundle.authority.revision=view.bundle.authority.value.revision
  /-- The claim carries the next authority. -/
  fenced : FencedByAuthority view.bundle.service_claim.value commit.replacement_claim
    view.bundle.authority.value commit.replacement_authority
  records : FenceRecordsBound functions view commit
  terminal : FenceTerminalBound functions view commit
  /-- The fence event belongs to the root. -/
  subject : FenceSubjectBound functions view commit
  progress : FenceProgressBound functions view commit
  /-- The events and the head follow the current head. -/
  chain : FenceChainBound functions view commit
  request_identity : ReleaseIdentityBound view.bundle.root.value view.request_sha256
    commit.progress commit.request_identity .request view.invocation.command.request_id
  idempotency_identity : ReleaseIdentityBound view.bundle.root.value view.request_sha256
    commit.progress commit.idempotency_identity .idempotency
    view.invocation.command.idempotency_key

/-- Everything that an accepted fence has found and written. -/
structure ClaimFenced (expected : ServiceClaimReleaseState)
    (commit : ServiceClaimReleaseFenceCommitV1) (view : FenceView)
    (before next : Database functions) : Prop where
  found : ViewFound configured_target before commit.progress.root_id view.bundle
    expected.chain_head expected.head_evidence
  accepted : FenceAccepted configured_target functions expected commit view
  service_claim : ClaimWritten configured_target before next commit.replacement_claim
    (view.bundle.service_claim.revision+1)
  authorities : Writes before.authorities.find next.authorities.find commit.progress.root_id.1
    commit.replacement_authority (view.bundle.authority.revision+1)
  /-- Both events are new. -/
  signed_evidence : ∃ terminated,Creates before.signed_evidence.find terminated
      commit.terminal_evidence.event.evidence_id.1 commit.terminal_evidence 0 ∧
    Creates terminated next.signed_evidence.find commit.fence_evidence.event.evidence_id.1
      commit.fence_evidence 0
  chain_heads : Writes before.chain_heads.find next.chain_heads.find commit.progress.root_id.1
    commit.chain_head commit.chain_head.sequence
  release_progress : Creates before.release_progress.find next.release_progress.find
    commit.progress.result_id.1 commit.progress 0
  /-- The request and the idempotency key are claimed. -/
  release_identities : ∃ requested,
    IdentityClaimed (releaseIdentityPlace commit.request_identity) before.release_identities.find
      requested commit.request_identity ∧
    IdentityClaimed (releaseIdentityPlace commit.idempotency_identity) requested
      next.release_identities.find commit.idempotency_identity
  roots : next.roots=before.roots
  lineage_anchors : next.lineage_anchors=before.lineage_anchors
  creation_results : next.creation_results=before.creation_results
  revocation_identities : next.revocation_identities=before.revocation_identities
  revocation_results : next.revocation_results=before.revocation_results

/-- What the check of a final release requires of its view. -/
structure ReleaseAccepted (functions : AuthorityFunctions) (expected : ServiceClaimReleaseState)
    (commit : ServiceClaimReleaseFinalizeCommitV1) (view : ReleaseView) : Prop where
  configured : view.configured_target=configured_target
  /-- The records are those of the view. -/
  bundle : expected.root_bundle=some view.bundle
  head : currentEvidenceChainHead functions view.bundle configured_target expected.chain_head
    expected.head_evidence=.ok view.previous_head
  claim_target : commit.replacement_claim.target=configured_target
  /-- The claim is released behind its fence. -/
  release : ExactFencedRelease view.bundle.service_claim.value commit.replacement_claim
    view.bundle.authority
  records : ReleaseRecordsBound view
  progress : StoredProgressBound functions view
  result : ReleaseResultBound functions view commit
  classification : ClassificationEventBound functions view commit
  event : ReleaseEventBound functions view commit

/-- Everything that an accepted final release has found and written. -/
structure ClaimReleased (expected : ServiceClaimReleaseState)
    (commit : ServiceClaimReleaseFinalizeCommitV1) (view : ReleaseView)
    (before next : Database functions) : Prop where
  found : ViewFound configured_target before commit.result.root_id view.bundle
    expected.chain_head expected.head_evidence
  headed : expected.chain_head.isSome=true
  accepted : ReleaseAccepted configured_target functions expected commit view
  service_claim : ClaimWritten configured_target before next commit.replacement_claim
    (view.bundle.service_claim.revision+1)
  /-- Both events are new. -/
  signed_evidence : ∃ classified,Creates before.signed_evidence.find classified
      commit.classification_evidence.event.evidence_id.1 commit.classification_evidence 0 ∧
    Creates classified next.signed_evidence.find commit.release_evidence.event.evidence_id.1
      commit.release_evidence 0
  chain_heads : Writes before.chain_heads.find next.chain_heads.find commit.result.root_id.1
    commit.chain_head commit.chain_head.sequence
  roots : next.roots=before.roots
  /-- No authority is touched. -/
  authorities : next.authorities=before.authorities
  lineage_anchors : next.lineage_anchors=before.lineage_anchors
  creation_results : next.creation_results=before.creation_results
  revocation_identities : next.revocation_identities=before.revocation_identities
  revocation_results : next.revocation_results=before.revocation_results
  release_identities : next.release_identities=before.release_identities
  release_progress : next.release_progress=before.release_progress

section

variable {configured_target} {before next : Database functions}

/-- The stored claim is found under the logical id of the target. -/
theorem storedClaim_of_ok {claim_id : Sha256Digest}
    (h : serviceClaimLogicalId functions.sha256 configured_target=.ok claim_id) :
    storedClaim configured_target before=before.service_claims.find claim_id.1 := by
  simp only [storedClaim,h]

theorem storedClaim_of_read {stored : StoredRecord ServiceClaimRecord}
    (h : readServiceClaim configured_target before=.ok (some stored)) :
    storedClaim configured_target before=some stored := by
  rw [readServiceClaim,bind_eq_ok] at h
  obtain ⟨claim_id,hclaim,hread⟩ := h
  rw [storedClaim_of_ok (mapError_eq_ok.mp hclaim)]
  exact Table.find_of_read hread

theorem createRootRecords_eq_ok {documents : RootCreationDocuments functions}
    (h : createRootRecords before documents=.ok next) :
    before.roots.create documents.root=.ok next.roots ∧
      before.authorities.create documents.authority=.ok next.authorities ∧
      before.lineage_anchors.create documents.lineage_anchor=.ok next.lineage_anchors ∧
      before.signed_evidence.create documents.signed_evidence=.ok next.signed_evidence ∧
      before.creation_results.create documents.creation_result=.ok next.creation_results ∧
      next.service_claims=before.service_claims ∧ next.chain_heads=before.chain_heads ∧
      next.revocation_identities=before.revocation_identities ∧
      next.revocation_results=before.revocation_results ∧
      next.release_identities=before.release_identities ∧
      next.release_progress=before.release_progress := by
  simp only [createRootRecords,bind_eq_ok] at h
  obtain ⟨roots,hroots,authorities,hauthorities,anchors,hanchors,evidence,hevidence,results,hresults,
    h⟩ := h
  cases h
  exact ⟨hroots,hauthorities,hanchors,hevidence,hresults,rfl,rfl,rfl,rfl,rfl,rfl⟩

/-- The documents of a root creation carry its records. -/
theorem prepareCreation_eq_ok {commit : RootCreationCommit} {claim_revision : Nat}
    {documents : RootCreationDocuments functions}
    (h : commit.prepare functions configured_target claim_revision=.ok documents) :
    preparedDocument functions rootFamily commit.root.root_id.1 0 commit.root=.ok documents.root ∧
      (∃ claim_id,serviceClaimLogicalId functions.sha256 configured_target=.ok claim_id ∧
        preparedDocument functions (claimFamily functions) claim_id.1 claim_revision
          commit.service_claim=.ok documents.service_claim) ∧
      preparedDocument functions authorityFamily commit.authority.root_id.1 0 commit.authority=
        .ok documents.authority ∧
      preparedDocument functions (anchorFamily functions)
        (capabilityLineageAnchorLogicalId functions commit.lineage_anchor) 0
        commit.lineage_anchor=.ok documents.lineage_anchor ∧
      preparedDocument functions evidenceFamily commit.signed_evidence.event.evidence_id.1 0
        commit.signed_evidence=.ok documents.signed_evidence ∧
      preparedDocument functions creationResultFamily commit.root.root_id.1 0
        commit.creation_result=.ok documents.creation_result := by
  simp only [RootCreationCommit.prepare,bind_eq_ok] at h
  obtain ⟨root,hroot,claim_id,hclaim_id,claim,hclaim,authority,hauthority,anchor,hanchor,evidence,
    hevidence,result,hresult,h⟩ := h
  cases h
  exact ⟨hroot,⟨claim_id,hclaim_id,hclaim⟩,hauthority,hanchor,hevidence,hresult⟩

/-- The claim of a root creation is created, or put over the released claim. -/
theorem createRootTransaction_claim {documents : RootCreationDocuments functions}
    {root_id : Identifier} {expected_released_claim : Option (StoredRecord ServiceClaimRecord)}
    {claim_id : Sha256Digest} {claim : ServiceClaimRecord} {revision : Nat}
    (hclaim_id : serviceClaimLogicalId functions.sha256 configured_target=.ok claim_id)
    (hprepared : preparedDocument functions (claimFamily functions) claim_id.1 revision claim=
      .ok documents.service_claim)
    (h : createRootTransaction configured_target root_id expected_released_claim documents before=
      .ok next) :
    ∃ service_claims,createRootRecords {before with service_claims := service_claims} documents=
        .ok next ∧
      storedClaim configured_target before=expected_released_claim ∧
      Writes before.service_claims.find service_claims.find claim_id.1 claim revision := by
  simp only [createRootTransaction,bind_eq_ok] at h
  obtain ⟨existing_root,-,existing_result,-,⟨⟩,-,⟨⟩,-,h⟩ := h
  cases expected_released_claim with
  | none =>
    obtain ⟨service_claims,hcreate,h⟩ := bind_eq_ok.mp h
    have hcreates := creates_of_create hprepared hcreate
    refine ⟨service_claims,h,?_,hcreates.2⟩
    rw [storedClaim_of_ok hclaim_id]
    exact hcreates.1
  | some expected =>
    simp only [bind_eq_ok] at h
    obtain ⟨current,hread,⟨⟩,hcurrent,h⟩ := h
    rw [require_eq_ok] at hcurrent
    rw [hcurrent] at hread
    have hfound := storedClaim_of_read hread
    have hclaims : before.service_claims.find claim_id.1=some expected := by
      rw [← storedClaim_of_ok hclaim_id]
      exact hfound
    exact ⟨_,h,hfound,writes_of_put hprepared hclaims⟩

/-- What an accepted root creation has found and written. -/
theorem rootCreated_of_ok {commit : RootCreationCommit}
    {expected_released_claim : Option (StoredRecord ServiceClaimRecord)}
    (h : createRootCreationBundle configured_target commit expected_released_claim before=
      .ok next) : RootCreated configured_target commit expected_released_claim before next := by
  simp only [createRootCreationBundle,bind_eq_ok,mapError_eq_ok] at h
  obtain ⟨⟨⟩,-,⟨⟩,hwinner,⟨⟩,hbundle,documents,hdocuments,htransaction⟩ := h
  obtain ⟨hroot,⟨claim_id,hclaim_id,hclaim⟩,hauthority,hanchor,hevidence,hresult⟩ :=
    prepareCreation_eq_ok hdocuments
  obtain ⟨service_claims,hrecords,hbefore,hwrites⟩ :=
    createRootTransaction_claim hclaim_id hclaim htransaction
  obtain ⟨hroots,hauthorities,hanchors,hsigned,hresults,hclaims,hheads,hidentities,hrevocations,
    hreleases,hprogress⟩ := createRootRecords_eq_ok hrecords
  refine ⟨hwinner,hbundle,creates_of_create hroot hroots,creates_of_create hauthority hauthorities,
    creates_of_create hanchor hanchors,creates_of_create hevidence hsigned,
    creates_of_create hresult hresults,hbefore,⟨claim_id,hclaim_id,?_⟩,hheads,hidentities,
    hrevocations,hreleases,hprogress⟩
  rw [hclaims]
  exact hwrites

/-- The head of a root is written whether there was one or not. -/
theorem writes_of_writeHead {table written : Table functions headFamily} {logical_id : String}
    {revision : Nat} {head : EvidenceChainHeadV1} {prepared : PreparedDocument functions headFamily}
    (hprepared : preparedDocument functions headFamily logical_id revision head=.ok prepared)
    (h : writeHead (table.find logical_id) prepared table=.ok written) :
    Writes table.find written.find logical_id head revision := by
  cases hfound : table.find logical_id with
  | none =>
    rw [hfound] at h
    exact (creates_of_create hprepared h).2
  | some stored =>
    rw [hfound] at h
    rw [← Except.ok.inj h]
    exact writes_of_put hprepared hfound

/-- The check of a revocation has required everything of its view. -/
theorem revocationAccepted_of_ok {expected : EpochRevocationState}
    {commit : EpochRevocationCommitV1} {bundle : RootCreationBundle}
    (hbundle : expected.root_bundle=some bundle)
    (h : validateEpochRevocationCommit functions configured_target expected commit=.ok ()) :
    RevocationAccepted configured_target functions expected commit bundle := by
  simp only [validateEpochRevocationCommit,validateAuthorityAdvance,bind_eq_ok,require_eq_ok,
    requireSome_eq_ok] at h
  obtain ⟨found,hfound,⟨⟩,-,⟨⟩,⟨⟨⟩,hrevision,⟨⟩,-,hadvance⟩,⟨⟩,hactive,⟨⟩,⟨hresult,-,hevent⟩,head,
    hhead,stored,hstored,⟨⟩,hupdate,⟨⟩,⟨hrequest,hkey⟩,-⟩ := h
  rw [hbundle] at hfound
  obtain rfl := Option.some.inj hfound
  exact ⟨hadvance,hrevision,hactive,hresult,hevent,⟨head,stored,hhead,hstored,hupdate⟩,hrequest,hkey⟩

theorem prepareRevocationIdentity_eq_ok {identity : EpochRevocationIdentityV1}
    {prepared : PreparedDocument functions revocationIdentityFamily}
    (h : prepareRevocationIdentity functions identity=.ok prepared) :
    ∃ place,revocationIdentityPlace identity=.ok place ∧
      preparedDocument functions revocationIdentityFamily place 0 identity=.ok prepared :=
  bind_eq_ok.mp h

theorem revocationIdentityClaimed {identity : EpochRevocationIdentityV1}
    {table written : Table functions revocationIdentityFamily}
    {prepared : PreparedDocument functions revocationIdentityFamily}
    (hprepared : prepareRevocationIdentity functions identity=.ok prepared)
    (h : table.create prepared=.ok written) :
    IdentityClaimed (revocationIdentityPlace identity) table.find written.find identity := by
  obtain ⟨place,hplace,hdocument⟩ := prepareRevocationIdentity_eq_ok hprepared
  exact ⟨place,hplace,creates_of_create hdocument h⟩

/-- The documents of a revocation carry its records. -/
structure RevocationPrepared (commit : EpochRevocationCommitV1)
    (documents : RevocationDocuments functions) : Prop where
  authority : preparedDocument functions authorityFamily commit.replacement_authority.root_id.1
    commit.replacement_authority.revision commit.replacement_authority=.ok documents.authority
  signed_evidence : preparedDocument functions evidenceFamily
    commit.signed_evidence.event.evidence_id.1 0 commit.signed_evidence=
    .ok documents.signed_evidence
  chain_head : preparedDocument functions headFamily commit.chain_head.root_id.1
    commit.chain_head.sequence commit.chain_head=.ok documents.chain_head
  result : preparedDocument functions revocationResultFamily commit.result.result_id.1 0
    commit.result=.ok documents.result
  request_identity : prepareRevocationIdentity functions commit.request_identity=
    .ok documents.request_identity
  idempotency_identity : prepareRevocationIdentity functions commit.idempotency_identity=
    .ok documents.idempotency_identity
  epoch_identity : ∃ epoch_value epoch_identity_value,
    epochRevocationIdentityValue commit.result.root_id.1 commit.result.new_epoch.1=
      .ok epoch_value ∧
    logicalIdentity epoch_value=.ok epoch_identity_value ∧
    prepareRevocationIdentity functions (epochIdentity commit.result epoch_identity_value)=
      .ok documents.epoch_identity

theorem prepareRevocation_eq_ok {commit : EpochRevocationCommitV1}
    {documents : RevocationDocuments functions}
    (h : prepareRevocation functions commit=.ok documents) :
    RevocationPrepared commit documents := by
  simp only [prepareRevocation,bind_eq_ok] at h
  obtain ⟨authority,hauthority,evidence,hevidence,head,hhead,result,hresult,request,hrequest,key,
    hkey,epoch_value,hvalue,identity_value,hidentity,epoch,hepoch,audit,-,h⟩ := h
  cases h
  exact ⟨hauthority,hevidence,hhead,hresult,hrequest,hkey,⟨_,_,hvalue,hidentity,hepoch⟩⟩

theorem viewFound_of_checkRevocationView {expected : EpochRevocationState}
    {bundle : RootCreationBundle} {commit : EpochRevocationCommitV1}
    {documents : RevocationDocuments functions}
    (hprepared : RevocationPrepared commit documents)
    (hhead : commit.chain_head.root_id=commit.result.root_id)
    (h : checkRevocationView configured_target expected bundle commit documents before=.ok ()) :
    ViewFound configured_target before commit.result.root_id bundle expected.chain_head
      expected.head_evidence := by
  have hplace := hprepared.chain_head
  rw [hhead] at hplace
  simp only [checkRevocationView,bind_eq_ok,require_eq_ok,requireSome_eq_ok] at h
  obtain ⟨root,hroot,claim,hclaim,authority,hauthority,head,hread,expected_stored,hpredecessor,
    event,hevent,-,-,-,-,-,-,-,-,-,-,rfl,rfl,rfl,rfl,rfl,-⟩ := h
  refine ⟨Table.find_of_read hroot,storedClaim_of_read hclaim,Table.find_of_read hauthority,
    Table.find_eq_of_prepared_read hplace hread,?_⟩
  intro stored hstored
  rw [hpredecessor] at hstored
  obtain rfl := Option.some.inj hstored
  exact Table.find_of_read hevent

/-- What an accepted revocation has found and written. -/
theorem epochRevoked_of_ok {expected : EpochRevocationState} {commit : EpochRevocationCommitV1}
    (h : commitEpochRevocation configured_target expected commit before=.ok next) :
    ∃ bundle,expected.root_bundle=some bundle ∧
      EpochRevoked configured_target expected commit bundle before next := by
  simp only [commitEpochRevocation,bind_eq_ok,mapError_eq_ok,requireSome_eq_ok] at h
  obtain ⟨⟨⟩,-,⟨⟩,hvalid,bundle,hbundle,documents,hdocuments,⟨⟩,hcheck,hwrite⟩ := h
  have haccepted := revocationAccepted_of_ok hbundle hvalid
  have hprepared := prepareRevocation_eq_ok hdocuments
  obtain ⟨head,stored,hhead,hstored,hupdate⟩ := haccepted.chain
  have hview := viewFound_of_checkRevocationView hprepared hupdate.head_root_id hcheck
  -- the replaced authority is the one of the root of the result
  have hsame : commit.replacement_authority.root_id=commit.result.root_id := by
    have hlogical := (Table.accepted_of_find hview.authority).2
    rw [haccepted.advance.root_id]
    exact Subtype.ext (Except.ok.inj hlogical)
  simp only [writeRevocation,bind_eq_ok] at hwrite
  obtain ⟨evidence,hevidence,heads,hheads,results,hresults,requested,hrequested,keyed,hkeyed,claimed,
    hclaimed,audits,-,hwrite⟩ := hwrite
  have hauthority := hprepared.authority
  rw [hsame] at hauthority
  have hplace := hprepared.chain_head
  rw [hupdate.head_root_id] at hplace
  rw [← hview.head] at hheads
  obtain ⟨epoch_value,identity_value,hvalue,hidentity,hepoch⟩ := hprepared.epoch_identity
  cases hwrite
  exact ⟨bundle,hbundle,hview,haccepted,writes_of_put hauthority hview.authority,
    creates_of_create hprepared.signed_evidence hevidence,writes_of_writeHead hplace hheads,
    creates_of_create hprepared.result hresults,
    ⟨requested.find,keyed.find,epoch_value,identity_value,
      revocationIdentityClaimed hprepared.request_identity hrequested,
      revocationIdentityClaimed hprepared.idempotency_identity hkeyed,hvalue,hidentity,
      revocationIdentityClaimed hepoch hclaimed⟩,rfl,rfl,rfl,rfl,rfl,rfl⟩

/-- The check of a fence has required everything of its view. -/
theorem fenceAccepted_of_ok {expected : ServiceClaimReleaseState}
    {commit : ServiceClaimReleaseFenceCommitV1}
    (h : validateServiceClaimFenceCommit functions configured_target expected commit=.ok ()) :
    ∃ view,FenceAccepted configured_target functions expected commit view := by
  simp only [validateServiceClaimFenceCommit,validateClaimFenceAuthority,validateClaimFence,
    validateAuthorityAdvance,bind_eq_ok,require_eq_ok,requireSome_eq_ok] at h
  obtain ⟨bundle,hbundle,receipt,-,⟨⟩,-,⟨⟩,-,⟨⟩,⟨⟨⟩,⟨⟨⟩,⟨-,htarget⟩,hactive,hreleasing,hownership⟩,
    ⟨⟩,⟨⟨⟩,hrevision,⟨⟩,-,hadvance⟩,hfenced⟩,head,hhead,mapping,-,proof,-,hbound⟩ := h
  obtain ⟨hrecords,hterminal,hsubject,hprogress,hchain,hrequest,hkey⟩ := hbound
  exact ⟨_,rfl,hbundle,hhead,htarget,hactive,hreleasing,hownership,hadvance,hrevision,hfenced,
    hrecords,hterminal,hsubject,hprogress,hchain,hrequest,hkey⟩

theorem releaseIdentityClaimed {identity : ServiceClaimReleaseIdentityV1}
    {table written : Table functions releaseIdentityFamily}
    {prepared : PreparedDocument functions releaseIdentityFamily}
    (hprepared : prepareReleaseIdentity functions identity=.ok prepared)
    (h : table.create prepared=.ok written) :
    IdentityClaimed (releaseIdentityPlace identity) table.find written.find identity := by
  obtain ⟨place,hplace,hdocument⟩ := bind_eq_ok.mp hprepared
  exact ⟨place,hplace,creates_of_create hdocument h⟩

/-- The documents of a fence carry its records. -/
structure FencePrepared (configured_target : TargetBinding) (bundle : RootCreationBundle)
    (commit : ServiceClaimReleaseFenceCommitV1) (documents : FenceDocuments functions) : Prop where
  service_claim : ∃ claim_id,serviceClaimLogicalId functions.sha256 configured_target=.ok claim_id ∧
    preparedDocument functions (claimFamily functions) claim_id.1
      (bundle.service_claim.revision+1) commit.replacement_claim=.ok documents.service_claim
  authority : preparedDocument functions authorityFamily commit.replacement_authority.root_id.1
    (bundle.authority.revision+1) commit.replacement_authority=.ok documents.authority
  terminal_evidence : prepareEvidence functions commit.terminal_evidence=
    .ok documents.terminal_evidence
  fence_evidence : prepareEvidence functions commit.fence_evidence=.ok documents.fence_evidence
  chain_head : preparedDocument functions headFamily commit.chain_head.root_id.1
    commit.chain_head.sequence commit.chain_head=.ok documents.chain_head
  progress : preparedDocument functions releaseProgressFamily commit.progress.result_id.1 0
    commit.progress=.ok documents.progress
  request_identity : prepareReleaseIdentity functions commit.request_identity=
    .ok documents.request_identity
  idempotency_identity : prepareReleaseIdentity functions commit.idempotency_identity=
    .ok documents.idempotency_identity

theorem prepareFence_eq_ok {bundle : RootCreationBundle}
    {commit : ServiceClaimReleaseFenceCommitV1} {documents : FenceDocuments functions}
    (h : prepareFence functions configured_target bundle commit=.ok documents) :
    FencePrepared configured_target bundle commit documents := by
  simp only [prepareFence,bind_eq_ok] at h
  obtain ⟨claim_id,hclaim_id,claim,hclaim,authority,hauthority,terminal,hterminal,fence,hfence,head,
    hhead,progress,hprogress,request,hrequest,key,hkey,h⟩ := h
  cases h
  exact ⟨⟨claim_id,hclaim_id,hclaim⟩,hauthority,hterminal,hfence,hhead,hprogress,hrequest,hkey⟩

theorem viewFound_of_checkFenceView {expected : ServiceClaimReleaseState}
    {bundle : RootCreationBundle} {receipt : StoredRecord ExecutionReceipt}
    {commit : ServiceClaimReleaseFenceCommitV1} {documents : FenceDocuments functions}
    (hprepared : FencePrepared configured_target bundle commit documents)
    (hhead : commit.chain_head.root_id=commit.progress.root_id)
    (h : checkFenceView configured_target expected bundle receipt commit documents before=.ok ()) :
    ViewFound configured_target before commit.progress.root_id bundle expected.chain_head
      expected.head_evidence := by
  have hplace := hprepared.chain_head
  rw [hhead] at hplace
  simp only [checkFenceView,bind_eq_ok,require_eq_ok,requireSome_eq_ok] at h
  obtain ⟨root,hroot,claim,hclaim,authority,hauthority,found_receipt,-,head,hread,expected_stored,
    hpredecessor,event,hevent,-,-,-,-,-,-,-,-,-,-,-,-,-,-,-,-,rfl,rfl,rfl,-,rfl,rfl,-⟩ := h
  refine ⟨Table.find_of_read hroot,storedClaim_of_read hclaim,Table.find_of_read hauthority,
    Table.find_eq_of_prepared_read hplace hread,?_⟩
  intro stored hstored
  rw [hpredecessor] at hstored
  obtain rfl := Option.some.inj hstored
  exact Table.find_of_read hevent

theorem claimWritten_of_put {claim : ServiceClaimRecord} {revision : Nat}
    {stored : StoredRecord ServiceClaimRecord} {claim_id : Sha256Digest}
    {prepared : PreparedDocument functions (claimFamily functions)}
    (hclaim_id : serviceClaimLogicalId functions.sha256 configured_target=.ok claim_id)
    (hprepared : preparedDocument functions (claimFamily functions) claim_id.1 revision claim=
      .ok prepared)
    (hfound : storedClaim configured_target before=some stored)
    (hnext : next.service_claims=before.service_claims.put prepared) :
    ClaimWritten configured_target before next claim revision := by
  rw [storedClaim_of_ok hclaim_id] at hfound
  refine ⟨claim_id,hclaim_id,?_⟩
  rw [hnext]
  exact writes_of_put hprepared hfound

theorem claimFenced_of_ok {expected : ServiceClaimReleaseState}
    {commit : ServiceClaimReleaseFenceCommitV1}
    (h : commitServiceClaimFence configured_target expected commit before=.ok next) :
    ∃ view,ClaimFenced configured_target expected commit view before next := by
  simp only [commitServiceClaimFence,bind_eq_ok,mapError_eq_ok,requireSome_eq_ok] at h
  obtain ⟨⟨⟩,hvalid,bundle,hbundle,receipt,-,documents,hdocuments,⟨⟩,hcheck,hwrite⟩ := h
  obtain ⟨view,haccepted⟩ := fenceAccepted_of_ok hvalid
  have hsame := haccepted.bundle
  rw [hbundle] at hsame
  obtain rfl := Option.some.inj hsame
  have hprepared := prepareFence_eq_ok hdocuments
  have hroot : commit.progress.root_id=view.bundle.root.value.root_id := haccepted.progress.root_id
  have hhead : commit.chain_head.root_id=commit.progress.root_id := by
    rw [haccepted.chain.head_root_id,haccepted.subject.event_root_id,hroot]
  have hauthority_root : commit.replacement_authority.root_id=commit.progress.root_id := by
    rw [haccepted.advance.root_id,haccepted.records.authority_root_id,hroot]
  have hview := viewFound_of_checkFenceView hprepared hhead hcheck
  simp only [writeFence,bind_eq_ok] at hwrite
  obtain ⟨terminated,hterminated,fenced,hfenced,heads,hheads,progress,hprogress,requested,hrequested,
    claimed,hclaimed,hwrite⟩ := hwrite
  have hauthority := hprepared.authority
  rw [hauthority_root] at hauthority
  have hplace := hprepared.chain_head
  rw [hhead] at hplace
  rw [← hview.head] at hheads
  obtain ⟨claim_id,hclaim_id,hclaim⟩ := hprepared.service_claim
  cases hwrite
  exact ⟨view,hview,haccepted,claimWritten_of_put hclaim_id hclaim hview.claim rfl,
    writes_of_put hauthority hview.authority,
    ⟨terminated.find,creates_of_create hprepared.terminal_evidence hterminated,
      creates_of_create hprepared.fence_evidence hfenced⟩,
    writes_of_writeHead hplace hheads,creates_of_create hprepared.progress hprogress,
    ⟨requested.find,releaseIdentityClaimed hprepared.request_identity hrequested,
      releaseIdentityClaimed hprepared.idempotency_identity hclaimed⟩,rfl,rfl,rfl,rfl,rfl⟩

/-- The check of a final release has required everything of its view. -/
theorem releaseAccepted_of_ok {expected : ServiceClaimReleaseState}
    {commit : ServiceClaimReleaseFinalizeCommitV1}
    (h : validateServiceClaimFinalizeCommit functions configured_target expected commit=.ok ()) :
    expected.chain_head.isSome=true ∧
      ∃ view,ReleaseAccepted configured_target functions expected commit view := by
  simp only [validateServiceClaimFinalizeCommit,validateClaimRelease,bind_eq_ok,require_eq_ok,
    requireSome_eq_ok] at h
  obtain ⟨bundle,hbundle,receipt,-,progress,-,request,-,key,-,terminal,-,fence,-,⟨⟩,⟨hheaded,-⟩,⟨⟩,-,
    ⟨⟩,⟨⟨⟩,⟨-,htarget⟩,hrelease⟩,head,hhead,classification,-,proof,-,mapping,-,hbound⟩ := h
  obtain ⟨hrecords,hprogress,-,-,-,-,-,hresult,-,hclassification,-,hevent⟩ := hbound
  exact ⟨hheaded,_,rfl,hbundle,hhead,htarget,hrelease,hrecords,hprogress,hresult,hclassification,
    hevent⟩

/-- The documents of a final release carry its records. -/
structure ReleasePrepared (configured_target : TargetBinding) (bundle : RootCreationBundle)
    (commit : ServiceClaimReleaseFinalizeCommitV1) (documents : ReleaseDocuments functions) :
    Prop where
  service_claim : ∃ claim_id,serviceClaimLogicalId functions.sha256 configured_target=.ok claim_id ∧
    preparedDocument functions (claimFamily functions) claim_id.1
      (bundle.service_claim.revision+1) commit.replacement_claim=.ok documents.service_claim
  classification_evidence : prepareEvidence functions commit.classification_evidence=
    .ok documents.classification_evidence
  release_evidence : prepareEvidence functions commit.release_evidence=.ok documents.release_evidence
  chain_head : preparedDocument functions headFamily commit.chain_head.root_id.1
    commit.chain_head.sequence commit.chain_head=.ok documents.chain_head

theorem prepareRelease_eq_ok {bundle : RootCreationBundle}
    {commit : ServiceClaimReleaseFinalizeCommitV1} {documents : ReleaseDocuments functions}
    (h : prepareRelease functions configured_target bundle commit=.ok documents) :
    ReleasePrepared configured_target bundle commit documents := by
  simp only [prepareRelease,bind_eq_ok] at h
  obtain ⟨claim_id,hclaim_id,claim,hclaim,classification,hclassification,release,hrelease,head,hhead,
    result,-,h⟩ := h
  cases h
  exact ⟨⟨claim_id,hclaim_id,hclaim⟩,hclassification,hrelease,hhead⟩

theorem viewFound_of_checkReleaseView {expected : ServiceClaimReleaseState}
    {records : FencedRecords} {commit : ServiceClaimReleaseFinalizeCommitV1}
    {documents : ReleaseDocuments functions}
    (hprepared : ReleasePrepared configured_target records.bundle commit documents)
    (hhead : commit.chain_head.root_id=commit.result.root_id)
    (hheaded : expected.chain_head.isSome=true)
    (h : checkReleaseView configured_target expected records commit documents before=.ok ()) :
    ViewFound configured_target before commit.result.root_id records.bundle expected.chain_head
      expected.head_evidence := by
  have hplace := hprepared.chain_head
  rw [hhead] at hplace
  simp only [checkReleaseView,bind_eq_ok,require_eq_ok,requireSome_eq_ok] at h
  obtain ⟨root,hroot,claim,hclaim,authority,hauthority,receipt,-,terminal,-,head,hread,
    expected_stored,hpredecessor,event,hevent,-,-,-,-,-,-,-,-,-,-,-,-,rfl,rfl,rfl,-,-,-,rfl,rfl,
    -⟩ := h
  refine ⟨Table.find_of_read hroot,storedClaim_of_read hclaim,Table.find_of_read hauthority,
    Table.find_eq_of_prepared_read hplace hread,?_⟩
  intro stored hstored
  obtain ⟨chain_head,hchain_head⟩ := Option.isSome_iff_exists.mp hheaded
  rw [hchain_head,predecessor,hpredecessor] at hstored
  obtain rfl := Option.some.inj hstored
  exact Table.find_of_read hevent

/-- The records of a view are those of its state. -/
theorem bundle_of_fenced {expected : ServiceClaimReleaseState} {records : FencedRecords}
    (h : ServiceClaimReleaseState.fenced expected=.ok records) :
    expected.root_bundle=some records.bundle := by
  simp only [ServiceClaimReleaseState.fenced,bind_eq_ok,requireSome_eq_ok] at h
  obtain ⟨bundle,hbundle,receipt,-,terminal,-,progress,-,request,-,key,-,h⟩ := h
  rw [hbundle,← Except.ok.inj h]

/-- What an accepted final release has found and written. -/
theorem claimReleased_of_ok {expected : ServiceClaimReleaseState}
    {commit : ServiceClaimReleaseFinalizeCommitV1}
    (h : commitServiceClaimRelease configured_target expected commit before=.ok next) :
    ∃ view,ClaimReleased configured_target expected commit view before next := by
  simp only [commitServiceClaimRelease,bind_eq_ok,mapError_eq_ok] at h
  obtain ⟨⟨⟩,hvalid,records,hrecords,documents,hdocuments,⟨⟩,hcheck,hwrite⟩ := h
  obtain ⟨hheaded,view,haccepted⟩ := releaseAccepted_of_ok hvalid
  have hbundle : records.bundle=view.bundle := by
    have hsame := haccepted.bundle
    rw [bundle_of_fenced hrecords] at hsame
    exact Option.some.inj hsame
  have hprepared := prepareRelease_eq_ok hdocuments
  have hhead : commit.chain_head.root_id=commit.result.root_id := by
    rw [haccepted.event.head_root_id,haccepted.event.root_id,haccepted.result.root_id]
  have hview := viewFound_of_checkReleaseView hprepared hhead hheaded hcheck
  simp only [writeRelease,bind_eq_ok] at hwrite
  obtain ⟨classified,hclassified,released,hreleased,results,-,hwrite⟩ := hwrite
  have hplace := hprepared.chain_head
  rw [hhead] at hplace
  obtain ⟨head,hsome⟩ := Option.isSome_iff_exists.mp hheaded
  have hfound := hview.head
  rw [hsome] at hfound
  obtain ⟨claim_id,hclaim_id,hclaim⟩ := hprepared.service_claim
  rw [hbundle] at hview hclaim
  cases hwrite
  exact ⟨view,hview,hheaded,haccepted,claimWritten_of_put hclaim_id hclaim hview.claim rfl,
    ⟨classified.find,creates_of_create hprepared.classification_evidence hclassified,
      creates_of_create hprepared.release_evidence hreleased⟩,
    writes_of_put hplace hfound,rfl,rfl,rfl,rfl,rfl,rfl,rfl,rfl⟩

variable (configured_target) in
/-- What one attempt may have done to the database. -/
inductive Changed (before : Database functions) : Database functions → Prop
  | refused : Changed before before
  | created {next : Database functions} (commit : RootCreationCommit)
      (expected_released_claim : Option (StoredRecord ServiceClaimRecord))
      (h : RootCreated configured_target commit expected_released_claim before next) :
      Changed before next
  | revoked {next : Database functions} (expected : EpochRevocationState)
      (commit : EpochRevocationCommitV1) (bundle : RootCreationBundle)
      (h : EpochRevoked configured_target expected commit bundle before next) : Changed before next
  | fenced {next : Database functions} (expected : ServiceClaimReleaseState)
      (commit : ServiceClaimReleaseFenceCommitV1) (view : FenceView)
      (h : ClaimFenced configured_target expected commit view before next) : Changed before next
  | released {next : Database functions} (expected : ServiceClaimReleaseState)
      (commit : ServiceClaimReleaseFinalizeCommitV1) (view : ReleaseView)
      (h : ClaimReleased configured_target expected commit view before next) : Changed before next
  /-- Receipts were written. -/
  | received (written : Table functions (receiptFamily functions)) :
      Changed before {before with receipts := written}

theorem step_of_ok {attempt : Attempt functions}
    (h : attempt.perform configured_target before=.ok next) :
    step configured_target before attempt=next := by
  rw [step,h]

theorem changed_of_ok {attempt : Attempt functions}
    (h : attempt.perform configured_target before=.ok next) :
    Changed configured_target before next := by
  cases attempt with
  | create commit expected => exact .created commit expected (rootCreated_of_ok h)
  | revoke expected commit =>
    obtain ⟨bundle,-,hrevoked⟩ := epochRevoked_of_ok h
    exact .revoked expected commit bundle hrevoked
  | fence expected commit =>
    obtain ⟨view,hfenced⟩ := claimFenced_of_ok h
    exact .fenced expected commit view hfenced
  | release expected commit =>
    obtain ⟨view,hreleased⟩ := claimReleased_of_ok h
    exact .released expected commit view hreleased
  | receipts written =>
    rw [← Except.ok.inj h]
    exact .received written

theorem changed_step {attempt : Attempt functions} :
    Changed configured_target before (step configured_target before attempt) := by
  cases hperform : attempt.perform configured_target before with
  | error error =>
    have hstep : step configured_target before attempt=before := by rw [step,hperform]
    rw [hstep]
    exact .refused
  | ok next =>
    rw [step_of_ok hperform]
    exact changed_of_ok hperform

/-- What every change keeps holds after every run that starts before the first root. -/
theorem after_invariant {invariant : Database functions → Prop} (hempty : invariant Database.empty)
    (hchanged : ∀ {before next},Changed configured_target before next → invariant before →
      invariant next) {attempts : List (Attempt functions)} :
    invariant (after configured_target attempts) :=
  run_invariant (fun _ _ h => hchanged changed_step h) hempty

/-- The last attempt of a run. -/
theorem after_concat {attempts : List (Attempt functions)} {attempt : Attempt functions} :
    after configured_target (attempts++[attempt])=
      step configured_target (after configured_target attempts) attempt :=
  run_concat

/-- A run goes on after its first part. -/
theorem after_append {first second : List (Attempt functions)} :
    after configured_target (first++second)=
      run (step configured_target) (after configured_target first) second :=
  run_append

end

end ControlGraph.AuthorityRuns
