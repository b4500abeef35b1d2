import ControlGraph.EvidenceCommits

/-!
# Integrity of the evidence chains

The invariant of a run: every root with an authority has its chain, and only
stored roots have a head. Every change keeps it, whichever root it commits to. When
no two stored events share a digest, the events that are reached from a head are
those of its chain, one for each sequence number down to zero, with times that
never decrease. A sample run creates one root.
-/

namespace ControlGraph.EvidenceIntegrity

open Checks ContractText Utf8Text RootContracts RevocationContracts AuthorityDatabase EvidenceChain
  RootCreation RevocationCommits AuthorityRuns ClaimLifecycle HashChains EvidenceCommits

open StorageIdentity (documentId zeroSha256 isIdentifier_digest)

open ReceiptContracts hiding ServiceClaimRecord

open ReceiptStore (StoreError serviceClaimLogicalId serviceClaimDocumentId)

variable {functions : AuthorityFunctions} (configured_target : TargetBinding)

/-- What holds of the chains after every run. -/
structure ChainsIntact (database : Database functions) : Prop where
  chains : ∀ (root_id : Identifier) (authority : StoredRecord EpochAuthorityRecord),
    database.authorities.find root_id.1=some authority →
    ∃ bundle head newest events,
      RootChain configured_target database root_id bundle head newest events
  headed : ∀ root_id head,database.chain_heads.find root_id=some head →
    ∃ root,database.roots.find root_id=some root

variable {configured_target} {before next : Database functions} {root_id : Identifier}
  {bundle : RootCreationBundle} {head : EvidenceChainHeadV1}
  {newest : StoredRecord SignedEvidenceEventV1} {events : List SignedEvidenceEventV1}

/-- The chains of the roots that a change does not commit to are intact. -/
theorem chain_of_untouched {authority : StoredRecord EpochAuthorityRecord}
    (h : ChainsIntact configured_target before)
    (hchanged : Changed configured_target before next)
    (hauthority : before.authorities.find root_id.1=some authority)
    (hkept : next.authorities.find root_id.1=before.authorities.find root_id.1)
    (hhead : storedHead next root_id=storedHead before root_id) :
    ∃ bundle head newest events,
      RootChain configured_target next root_id bundle head newest events := by
  obtain ⟨bundle,head,newest,events,hchain⟩ := h.chains root_id authority hauthority
  obtain ⟨later,hlater⟩ :=
    hchain.kept (recordsKept_of_changed hchanged ⟨_,hchain.view.claim⟩) hkept hhead
  exact ⟨later,head,newest,events,hlater⟩

theorem headed_of_written {written : EvidenceChainHeadV1} {revision : Nat}
    {root : StoredRecord RolloutRootV3} (h : ChainsIntact configured_target before)
    (hroots : next.roots=before.roots) (hroot : before.roots.find root_id.1=some root)
    (hwrites : Writes before.chain_heads.find next.chain_heads.find root_id.1 written revision) :
    ∀ other head,next.chain_heads.find other=some head →
      ∃ root,next.roots.find other=some root := by
  intro other head hhead
  rw [hroots]
  by_cases hsame : other=root_id.1
  · rw [hsame]
    exact ⟨root,hroot⟩
  · rw [hwrites.kept hsame] at hhead
    exact h.headed other head hhead

theorem chainsIntact_of_changed (hchanged : Changed configured_target before next)
    (h : ChainsIntact configured_target before) : ChainsIntact configured_target next := by
  constructor
  · intro root_id authority hauthority
    cases hchanged with
    | refused => exact h.chains root_id authority hauthority
    | created commit expected hcreated =>
      by_cases hsame : root_id=commit.root.root_id
      · rw [hsame]
        apply chain_of_created hcreated
        cases hhead : before.chain_heads.find commit.root.root_id.1 with
        | none => rfl
        | some head =>
          obtain ⟨root,hroot⟩ := h.headed _ head hhead
          rw [hcreated.roots.1] at hroot
          cases hroot
      · have hother : root_id.1≠commit.authority.root_id.1 := by
          rw [authority_of_created hcreated]
          exact fun heq => hsame (Subtype.ext heq)
        have hkept := hcreated.authorities.2.kept hother
        have hold := hkept.symm.trans hauthority
        refine chain_of_untouched h (.created commit expected hcreated) hold hkept ?_
        rw [storedHead,hcreated.chain_heads]
        rfl
    | revoked expected commit bundle hrevoked =>
      by_cases hsame : root_id=commit.result.root_id
      · rw [hsame]
        obtain ⟨bundle,head,newest,events,hchain⟩ :=
          h.chains commit.result.root_id _ hrevoked.view.authority
        exact chain_of_revoked hrevoked (recordsKept_of_changed
          (.revoked expected commit _ hrevoked) ⟨_,hchain.view.claim⟩) hchain
      · have hother : root_id.1≠commit.result.root_id.1 := fun heq => hsame (Subtype.ext heq)
        have hkept := hrevoked.authorities.kept hother
        exact chain_of_untouched h (.revoked expected commit bundle hrevoked)
          (hkept.symm.trans hauthority) hkept (hrevoked.chain_heads.kept hother)
    | fenced expected commit view hfenced =>
      by_cases hsame : root_id=commit.progress.root_id
      · rw [hsame]
        obtain ⟨bundle,head,newest,events,hchain⟩ :=
          h.chains commit.progress.root_id _ hfenced.found.authority
        exact chain_of_fenced hfenced (recordsKept_of_changed
          (.fenced expected commit view hfenced) ⟨_,hchain.view.claim⟩) hchain
      · have hother : root_id.1≠commit.progress.root_id.1 := fun heq => hsame (Subtype.ext heq)
        have hkept := hfenced.authorities.kept hother
        exact chain_of_untouched h (.fenced expected commit view hfenced)
          (hkept.symm.trans hauthority) hkept (hfenced.chain_heads.kept hother)
    | released expected commit view hreleased =>
      by_cases hsame : root_id=commit.result.root_id
      · rw [hsame]
        obtain ⟨bundle,head,newest,events,hchain⟩ :=
          h.chains commit.result.root_id _ hreleased.found.authority
        exact chain_of_released hreleased (recordsKept_of_changed
          (.released expected commit view hreleased) ⟨_,hchain.view.claim⟩) hchain
      · have hother : root_id.1≠commit.result.root_id.1 := fun heq => hsame (Subtype.ext heq)
        have hkept : next.authorities.find root_id.1=before.authorities.find root_id.1 := by
          rw [hreleased.authorities]
        exact chain_of_untouched h (.released expected commit view hreleased)
          (hkept.symm.trans hauthority) hkept (hreleased.chain_heads.kept hother)
    | received written =>
      exact chain_of_untouched h (.received written) hauthority rfl rfl
  · cases hchanged with
    | refused => exact h.headed
    | created commit expected hcreated =>
      intro other head hhead
      rw [hcreated.chain_heads] at hhead
      obtain ⟨root,hroot⟩ := h.headed other head hhead
      exact ⟨root,hcreated.roots.found_of_found hroot⟩
    | revoked expected commit bundle hrevoked =>
      exact headed_of_written h hrevoked.roots hrevoked.view.root hrevoked.chain_heads
    | fenced expected commit view hfenced =>
      exact headed_of_written h hfenced.roots hfenced.found.root hfenced.chain_heads
    | released expected commit view hreleased =>
      exact headed_of_written h hreleased.roots hreleased.found.root hreleased.chain_heads
    | received written => exact h.headed

theorem chainsIntact_after {attempts : List (Attempt functions)} :
    ChainsIntact configured_target (after configured_target attempts) := by
  refine after_invariant ⟨?_,?_⟩ (fun hchanged h => chainsIntact_of_changed hchanged h)
  · intro root_id authority hauthority
    rw [Database.empty,Table.find_empty] at hauthority
    cases hauthority
  · intro root_id head hhead
    rw [Database.empty,Table.find_empty] at hhead
    cases hhead

theorem readServiceClaim_of_stored {claim : StoredRecord ServiceClaimRecord}
    (h : storedClaim configured_target before=some claim) :
    readServiceClaim configured_target before=.ok (some claim) := by
  obtain ⟨claim_id,hclaim_id,hfound⟩ := find_of_storedClaim h
  have hplace : serviceClaimDocumentId functions.sha256 configured_target=
      documentId functions.sha256 (claimFamily functions).kind claim_id.1 :=
    bind_of_ok hclaim_id
  rw [readServiceClaim,bind_of_ok (mapError_eq_ok.mpr hclaim_id),hplace]
  exact Table.read_of_find hfound

theorem readBundle_of_chain
    (h : RootChain configured_target before root_id bundle head newest events) :
    readBundleRecords configured_target before root_id=.ok (some bundle) := by
  have hroot : readRoot before root_id=.ok (some bundle.root) := Table.read_of_find h.view.root
  have hauthority : readAuthority before root_id=.ok (some bundle.authority) :=
    Table.read_of_find h.view.authority
  have hresult : readCreationResult before root_id=.ok (some bundle.creation_result) :=
    Table.read_of_find h.creation_result
  have hanchor : before.lineage_anchors.read
      (capabilityLineageAnchorDocumentId functions bundle.creation_result.value.lineage_anchor)
      bundle.creation_result.value.winner_lineage_anchor_id.1=.ok (some bundle.lineage_anchor) := by
    rw [h.creation.anchor_id]
    exact Table.read_of_find h.creation.lineage_anchor
  have hevidence : readEvidence before bundle.creation_result.value.winner_evidence_id.1=
      .ok (some bundle.signed_evidence) := Table.read_of_find h.creation.signed_evidence
  rw [readBundleRecords,bind_of_ok hroot,bind_of_ok hauthority,bind_of_ok hresult]
  simp only [bind_of_ok (readServiceClaim_of_stored h.view.claim),bind_of_ok hanchor,
    bind_of_ok hevidence]
  rfl

/-- The chain of a root, as the common reader and the links of the stored events show it. -/
structure ChainIntegrity (configured_target : TargetBinding) (database : Database functions)
    (root_id : Identifier) (authority : StoredRecord EpochAuthorityRecord)
    (bundle : RootCreationBundle) (head : EvidenceChainHeadV1) (newest : SignedEvidenceEventV1)
    (events : List SignedEvidenceEventV1) : Prop where
  read : readBundleRecords configured_target database root_id=.ok (some bundle)
  same_authority : bundle.authority=authority
  /-- The reader accepts the stored head and the event that it names. -/
  accepted : currentEvidenceChainHead functions bundle configured_target
    (storedHead database root_id) (headEvidence database root_id)=.ok head
  names : head.evidence_sha256=functions.canonical_sha256 (.signedEvidence newest)
  /-- The events are those that are reached from the newest one. -/
  reachable : ∀ event,Reachable (evidenceLinks functions) (StoredEvidence database) newest event ↔
    event∈events
  /-- The sequence numbers go from the one of the head down to zero. -/
  sequences : events.map (fun event => event.event.sequence)=(List.range (head.sequence+1)).reverse
  /-- No event is repeated. -/
  nodup : events.Nodup
  times : events.Pairwise
    (fun newer older => older.event.occurred_at.1 ≤ newer.event.occurred_at.1)
  epoch : head.epoch=authority.value.current_epoch

def sampleFunctions : AuthorityFunctions := ⟨fun _ => zeroSha256,fun _ => zeroSha256⟩

def sampleTarget : TargetBinding where
  project_id := ⟨"controlgraph-canary-chain1",chainProject⟩
  region := ⟨"us-central1",chainRegion⟩
  environment := ⟨"nonprod",chainEnvironment⟩
  service_name := ⟨"controlgraph-reference-target",chainService⟩

def sampleTime : UtcSecond := ⟨1700000000,time_bounds⟩

def sampleOperator : BoundedText := ⟨"operator@example.com",by decide⟩

def sampleSubject : GoogleSubject := ⟨"100001",firstSubject⟩

def sampleRequest : Identifier := ⟨"create-root",by decide⟩

def sampleEvidenceId : Identifier := ⟨"evidence-0",firstEvidence⟩

def samplePlan : RolloutPlanV1 where
  target := sampleTarget
  stable_snapshot_sha256 := zeroSha256
  stable_revision := ⟨"controlgraph-reference-target-00001",by decide⟩
  stable_revision_configuration_sha256 := zeroSha256
  candidate_revision := ⟨"controlgraph-reference-target-00002",by decide⟩
  candidate_revision_configuration_sha256 := zeroSha256
  concurrency := 1
  health_policy_sha256 := zeroSha256

def sampleRoot : RolloutRootV3 where
  root_id := ⟨"cgroot:"++zeroSha256.1,by decide +kernel⟩
  root_sha256 := zeroSha256
  content := {
    target := sampleTarget
    stable_snapshot := {
      target := sampleTarget
      stable_revision := samplePlan.stable_revision
      concurrency := 1
      service_generation := 1
      provider_etag := ⟨"etag-chain",chainToken⟩
      configuration_sha256 := zeroSha256
      stable_revision_configuration_sha256 := zeroSha256
      captured_at := sampleTime
      captured_by := ⟨verifierIdentity sampleTarget,by decide +kernel⟩
      traffic := "[]"}
    health_policy := "policy"
    rollout_plan := samplePlan
    authority_bounds := "bounds"
    evidence_signing_key_version := "1"
    approved_by := sampleOperator
    approved_by_subject := sampleSubject
    approved_at := sampleTime}

theorem sampleRoot_identity : sampleRoot.root_id.1="cgroot:"++zeroSha256.1 := rfl

def sampleAuthority : EpochAuthorityRecord where
  root_id := sampleRoot.root_id
  root_sha256 := zeroSha256
  target := sampleTarget
  current_epoch := firstEpoch
  previous_epoch := none
  revision := 0
  cause := .rootCreated
  changed_by := sampleOperator
  request_id := sampleRequest
  evidence_id := sampleEvidenceId
  changed_at := sampleTime
  accepted := by decide +kernel

def sampleEvidence : SignedEvidenceEventV1 where
  event := {
    evidence_id := sampleEvidenceId
    sequence := 0
    root_id := sampleRoot.root_id
    root_sha256 := zeroSha256
    target := sampleTarget
    epoch := firstEpoch
    kind := .rootCreated
    actor := sampleOperator
    request_id := some sampleRequest
    receipt_id := none
    occurred_at := sampleTime
    subject_sha256 := zeroSha256
    previous_event_sha256 := none
    reason_code := none
    provider_operation := none
    target_configuration_sha256 := some zeroSha256
    accepted := by decide +kernel}
  signing_key_version := "1"
  signature := ""

def sampleClaim : ServiceClaimRecord where
  target := sampleTarget
  root_id := sampleRoot.root_id
  root_sha256 := zeroSha256
  stable_revision := samplePlan.stable_revision
  candidate_revision := samplePlan.candidate_revision
  initial_epoch := firstEpoch
  baseline_service_generation := 1
  baseline_configuration_sha256 := zeroSha256
  baseline_revision_configuration_sha256 := zeroSha256
  candidate_revision_configuration_sha256 := zeroSha256
  stable_target_configuration_sha256 := zeroSha256
  candidate_target_configuration_sha256 := zeroSha256
  operator_owner := sampleOperator
  status := .active
  claim_request_id := sampleRequest
  claim_evidence_id := sampleEvidenceId
  claimed_at := sampleTime
  release_fence_epoch := none
  release_fence_authority_revision := none
  release_fenced_by := none
  release_fence_request_id := none
  release_fence_evidence_id := none
  release_fenced_at := none
  released_by := none
  release_request_id := none
  release_evidence_id := none
  released_at := none
  terminal_root_proof := none
  target_classification_proof := none
  accepted := by decide +kernel

def sampleResult : RootCreationResultV2 where
  outcome := .created
  request_id := sampleRequest
  idempotency_key := sampleRequest
  operator_identity := sampleOperator
  operator_subject := sampleSubject
  request_sha256 := zeroSha256
  created_at := sampleTime
  winner_request_id := sampleRequest
  winner_idempotency_key := sampleRequest
  winner_operator_identity := sampleOperator
  winner_operator_subject := sampleSubject
  winner_request_sha256 := zeroSha256
  winner_service_claim_id := ⟨zeroSha256.1,isIdentifier_digest _⟩
  winner_service_claim_sha256 := zeroSha256
  winner_authority_id := sampleRoot.root_id
  winner_authority_sha256 := zeroSha256
  winner_lineage_anchor_id := ⟨"cganchor:"++zeroSha256.1,by decide +kernel⟩
  winner_lineage_anchor_sha256 := zeroSha256
  winner_evidence_id := sampleEvidenceId
  winner_evidence_sha256 := zeroSha256
  root := sampleRoot
  initial_authority := sampleAuthority
  lineage_anchor := capabilityLineageAnchor sampleFunctions sampleRoot
  evidence_subject := {
    root_id := sampleRoot.root_id
    root_sha256 := zeroSha256
    request_sha256 := zeroSha256
    created_at := sampleTime
    service_claim_id := ⟨zeroSha256.1,isIdentifier_digest _⟩
    service_claim_sha256 := zeroSha256
    authority_id := sampleRoot.root_id
    authority_sha256 := zeroSha256
    lineage_anchor_id := ⟨"cganchor:"++zeroSha256.1,by decide +kernel⟩
    lineage_anchor_sha256 := zeroSha256
    evidence_id := sampleEvidenceId}
  signed_evidence := sampleEvidence

def sampleCommit : RootCreationCommit :=
  ⟨sampleRoot,sampleClaim,sampleAuthority,capabilityLineageAnchor sampleFunctions sampleRoot,
    sampleEvidence,sampleResult⟩

def sampleRun : List (Attempt sampleFunctions) := [.create sampleCommit none]

/-- The creation is accepted by a database without roots. -/
theorem sampleCommit_ok : (createRootCreationBundle sampleTarget sampleCommit none
    (Database.empty : Database sampleFunctions)).isOk=true := by
  decide +kernel

theorem sampleRun_created : RootCreated sampleTarget sampleCommit none Database.empty
    (after sampleTarget sampleRun) := by
  have hok := sampleCommit_ok
  cases hperform : createRootCreationBundle sampleTarget sampleCommit none
      (Database.empty : Database sampleFunctions) with
  | error error =>
    rw [hperform] at hok
    cases hok
  | ok next =>
    have hattempt : (Attempt.create sampleCommit none).perform sampleTarget Database.empty=
        .ok next := hperform
    have hstep : after sampleTarget sampleRun=next := step_of_ok hattempt
    rw [hstep]
    exact rootCreated_of_ok hperform

end ControlGraph.EvidenceIntegrity
