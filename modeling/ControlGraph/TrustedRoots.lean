import ControlGraph.AbandonmentContracts

/-!
# Inspection of the authority of a root

Every path that bears authority inspects the stored records of a root before it
trusts them: the root is addressed by its content, the claim binds every field that
the root derives and is stored at a revision of its lifecycle, the authority
belongs to the root and counts its epochs with its revisions, and the anchor is
the one of the root. The inspection takes claims of either version.
-/

namespace ControlGraph.TrustedRoots

open Checks ContractText RootContracts AuthorityDatabase RootCreation ClaimFence AbandonmentContracts

open ReceiptContracts hiding ServiceClaimRecord

/-- What of a claim never changes while one root owns it, in either version. -/
def ownershipOf : ServiceClaimRecordValue → ClaimOwnershipBinding
  | .first claim => claimOwnershipBinding claim
  | .third claim => claim.ownership

/-- Lifecycle status of a claim in either version. -/
def statusOf : ServiceClaimRecordValue → ServiceClaimStatus
  | .first claim => claim.status
  | .third claim => claim.status

/-- A claim that binds every field that its root derives. -/
@[mk_iff] structure ContentAddressedClaim (ownership : ClaimOwnershipBinding) (root : RolloutRootV3)
    (stable candidate : Sha256Digest) : Prop where
  target : ownership.target=root.content.target
  root_id : ownership.root_id=root.root_id
  root_sha256 : ownership.root_sha256=root.root_sha256
  stable_revision : ownership.stable_revision=root.content.rollout_plan.stable_revision
  candidate_revision : ownership.candidate_revision=root.content.rollout_plan.candidate_revision
  initial_epoch : ownership.initial_epoch=root.content.rollout_plan.initial_epoch
  baseline_generation : ownership.baseline_service_generation=
    root.content.stable_snapshot.service_generation
  baseline_configuration : ownership.baseline_configuration_sha256=
    root.content.stable_snapshot.configuration_sha256
  baseline_revision_configuration : ownership.baseline_revision_configuration_sha256=
    root.content.rollout_plan.stable_revision_configuration_sha256
  candidate_revision_configuration : ownership.candidate_revision_configuration_sha256=
    root.content.rollout_plan.candidate_revision_configuration_sha256
  stable_target_configuration : ownership.stable_target_configuration_sha256=stable
  candidate_target_configuration : ownership.candidate_target_configuration_sha256=candidate
  operator_owner : ownership.operator_owner=root.content.approved_by
  claimed_at : root.content.approved_at.1 ≤ ownership.claimed_at.1

instance (ownership : ClaimOwnershipBinding) (root : RolloutRootV3)
    (stable candidate : Sha256Digest) :
    Decidable (ContentAddressedClaim ownership root stable candidate) :=
  decidable_of_iff _ (contentAddressedClaim_iff ownership root stable candidate).symm

/-- Whether a claim binds every field that a root derives. -/
def serviceClaimMatchesContentAddressedRoot (functions : AuthorityFunctions)
    (claim : ServiceClaimRecordValue) (root : RolloutRootV3) : Bool :=
  match contentAddressedRootTargetConfigurationSha256 functions root 100 0,
      contentAddressedRootTargetConfigurationSha256 functions root 0 100 with
  | .ok stable,.ok candidate => decide (ContentAddressedClaim (ownershipOf claim) root stable candidate)
  | _,_ => false

def claimLifecycleRevisionMatches (claim : ServiceClaimRecordValue) (revision : Nat) : Bool :=
  match statusOf claim with
  | .active =>
    match claim with
    | .first _ => revision%3=0
    | .third _ => false
  | .releasing => revision%3=1
  | .released => revision%3=2

/-- The stored records of a root that are inspected. -/
structure InspectedRecords where
  root : StoredRecord RolloutRootV3
  service_claim : StoredRecord ServiceClaimRecordValue
  authority : StoredRecord EpochAuthorityRecord
  lineage_anchor : StoredRecord CapabilityLineageAnchorV1

/-- The records of a root creation as they are inspected. -/
def inspected (bundle : RootCreationBundle) : InspectedRecords where
  root := bundle.root
  service_claim := ⟨.first bundle.service_claim.value,bundle.service_claim.revision,
    bundle.service_claim.revision_bound⟩
  authority := bundle.authority
  lineage_anchor := bundle.lineage_anchor

/-- Records of a root that pass the inspection. -/
@[mk_iff] structure TrustedRootAuthority (functions : AuthorityFunctions) (target : TargetBinding)
    (bundle : InspectedRecords) : Prop where
  root_revision : bundle.root.revision=0
  anchor_revision : bundle.lineage_anchor.revision=0
  root_target : bundle.root.value.content.target=target
  content : bundle.root.value.root_sha256=
    functions.canonical_sha256 (.rootContent bundle.root.value.content)
  root_id : bundle.root.value.root_id.1="cgroot:"++bundle.root.value.root_sha256.1
  anchor : bundle.lineage_anchor.value=capabilityLineageAnchor functions bundle.root.value
  claim : serviceClaimMatchesContentAddressedRoot functions bundle.service_claim.value
    bundle.root.value=true
  claim_revision : claimLifecycleRevisionMatches bundle.service_claim.value
    bundle.service_claim.revision=true
  authority_target : bundle.authority.value.target=target
  authority_root_id : bundle.authority.value.root_id=bundle.root.value.root_id
  authority_root_sha256 : bundle.authority.value.root_sha256=bundle.root.value.root_sha256
  authority_revision : bundle.authority.revision=bundle.authority.value.revision
  authority_epoch : bundle.authority.value.current_epoch.1=bundle.authority.value.revision+1

instance (functions : AuthorityFunctions) (target : TargetBinding) (bundle : InspectedRecords) :
    Decidable (TrustedRootAuthority functions target bundle) :=
  decidable_of_iff _ (trustedRootAuthority_iff functions target bundle).symm

def inspectRootAuthorityBundle (functions : AuthorityFunctions) (target : TargetBinding)
    (bundle : InspectedRecords) : Bool :=
  decide (TrustedRootAuthority functions target bundle)

section

variable {functions : AuthorityFunctions} {target : TargetBinding} {bundle : InspectedRecords}

/-- The inspection accepts exactly the trusted records. -/
@[simp] theorem inspectRootAuthorityBundle_eq_true :
    inspectRootAuthorityBundle functions target bundle=true ↔
      TrustedRootAuthority functions target bundle :=
  decide_eq_true_iff

/-- The records of a root stay trusted when its authority moves on. -/
theorem trusted_of_authority {authority : StoredRecord EpochAuthorityRecord}
    (h : TrustedRootAuthority functions target bundle)
    (htarget : authority.value.target=target)
    (hroot_id : authority.value.root_id=bundle.authority.value.root_id)
    (hroot_sha256 : authority.value.root_sha256=bundle.authority.value.root_sha256)
    (hrevision : authority.revision=authority.value.revision)
    (hepoch : authority.value.current_epoch.1=authority.value.revision+1) :
    TrustedRootAuthority functions target {bundle with authority := authority} :=
  {h with
    authority_target := htarget
    authority_root_id := hroot_id.trans h.authority_root_id
    authority_root_sha256 := hroot_sha256.trans h.authority_root_sha256
    authority_revision := hrevision
    authority_epoch := hepoch}

end

end ControlGraph.TrustedRoots
