import ControlGraph.AuthorityRuns

/-!
# The lifecycle of a service claim

One claim document is shared by the successive roots of a service. A root
creates it or takes it over after it was released; a fence and a final release
move it on behind the epoch that the fence has left. The storage revision modulo
three is the status of the claim, and the revision divided by three counts the
roots that owned it. Behind a fence the authority of the root never advances
again: a revocation and a fence both need the claim of their root to be active,
and no root is created twice.
-/

namespace ControlGraph.ClaimLifecycle

open Checks ContractText RootContracts RevocationContracts ReleaseContracts AuthorityDatabase
  EvidenceChain RootCreation RevocationCommits ClaimFence ClaimRelease LabelledRuns AuthorityRuns

open ReceiptContracts hiding ServiceClaimRecord

open ReceiptStore (serviceClaimLogicalId)

/-- The storage revision of a claim modulo three is its status. -/
structure RevisionOfStatus (claim : StoredRecord ServiceClaimRecord) : Prop where
  active : claim.revision%3=0 ↔ claim.value.status=.active
  releasing : claim.revision%3=1 ↔ claim.value.status=.releasing
  released : claim.revision%3=2 ↔ claim.value.status=.released

variable {functions : AuthorityFunctions} (configured_target : TargetBinding)

/-- A claim carries the authority of its root as its release fence. -/
def FencedByRoot (database : Database functions) (claim : StoredRecord ServiceClaimRecord) : Prop :=
  ∃ authority,database.authorities.find claim.value.root_id.1=some authority ∧
    claim.value.release_fence_epoch=some authority.value.current_epoch ∧
    claim.value.release_fence_authority_revision=some authority.value.revision

/-- What holds of the claim of a service after every run. -/
structure ClaimInvariant (database : Database functions) : Prop where
  /-- There is one claim document. -/
  one : ∀ claim_id claim,database.service_claims.find claim_id=some claim →
    storedClaim configured_target database=some claim
  rooted : ∀ claim,storedClaim configured_target database=some claim →
    ∃ root,database.roots.find claim.value.root_id.1=some root
  /-- A claim that is not active carries the authority of its root. -/
  fenced : ∀ claim,storedClaim configured_target database=some claim →
    claim.value.status≠.active → FencedByRoot database claim

/-- The claim of a root was fenced, or the root has no claim any more. -/
structure Settled (root_id : Identifier) (database : Database functions) : Prop where
  stored : ∃ root,database.roots.find root_id.1=some root
  /-- The root has no active claim. -/
  inactive : ∀ claim,storedClaim configured_target database=some claim →
    claim.value.root_id=root_id → claim.value.status≠.active

/-- What may become of a stored claim: the same root keeps it, with the same ownership, or a root
that was not stored yet has taken it over. -/
def ClaimFollows (before : Database functions) (first second : StoredRecord ServiceClaimRecord) :
    Prop :=
  first.revision ≤ second.revision ∧
    (second.value.root_id=first.value.root_id ∧ second.revision/3=first.revision/3 ∧
        claimOwnershipBinding second.value=claimOwnershipBinding first.value ∨
      before.roots.find second.value.root_id.1=none ∧ first.revision/3 < second.revision/3)

/-- How the claim and the roots may change. -/
structure ClaimKept (before next : Database functions) : Prop where
  roots : ∀ root_id root,before.roots.find root_id=some root → next.roots.find root_id=some root
  claim : ∀ first,storedClaim configured_target before=some first →
    ∃ second,storedClaim configured_target next=some second ∧ ClaimFollows before first second

/-- A claim was released before the stable state was captured that a root starts from. -/
def TakenOver (released : ServiceClaimRecord) (root : RolloutRootV3) : Prop :=
  released.status=.released ∧ ∃ released_at,released.released_at=some released_at ∧
    released_at.1 < root.content.stable_snapshot.captured_at.1

variable {configured_target} {before next : Database functions}

theorem revisionOfStatus {claim_id : String} {claim : StoredRecord ServiceClaimRecord}
    (h : before.service_claims.find claim_id=some claim) : RevisionOfStatus claim := by
  have hremainder : claim.revision%3=revisionRemainder claim.value.status :=
    require_eq_ok.mp (Table.accepted_of_find h).1
  constructor
  · cases hstatus : claim.value.status <;> simp [hremainder,hstatus,revisionRemainder]
  · cases hstatus : claim.value.status <;> simp [hremainder,hstatus,revisionRemainder]
  · cases hstatus : claim.value.status <;> simp [hremainder,hstatus,revisionRemainder]

theorem find_of_storedClaim {claim : StoredRecord ServiceClaimRecord}
    (h : storedClaim configured_target before=some claim) :
    ∃ claim_id,serviceClaimLogicalId functions.sha256 configured_target=.ok claim_id ∧
      before.service_claims.find claim_id.1=some claim := by
  unfold storedClaim at h
  split at h
  · rename_i claim_id hclaim_id
    exact ⟨claim_id,hclaim_id,h⟩
  · cases h

theorem revisionOfStatus_stored {claim : StoredRecord ServiceClaimRecord}
    (h : storedClaim configured_target before=some claim) : RevisionOfStatus claim := by
  obtain ⟨claim_id,-,hfound⟩ := find_of_storedClaim h
  exact revisionOfStatus hfound

theorem storedClaim_of_written {claim : ServiceClaimRecord} {revision : Nat}
    (h : ClaimWritten configured_target before next claim revision) :
    ∃ stored,storedClaim configured_target next=some stored ∧ stored.value=claim ∧
      stored.revision=revision := by
  obtain ⟨claim_id,hclaim_id,hwrites⟩ := h
  rw [storedClaim_of_ok hclaim_id]
  exact hwrites.found

theorem one_of_written {claim : ServiceClaimRecord} {revision : Nat}
    (h : ClaimInvariant configured_target before)
    (hwritten : ClaimWritten configured_target before next claim revision) :
    ∀ claim_id stored,next.service_claims.find claim_id=some stored →
      storedClaim configured_target next=some stored := by
  obtain ⟨own_id,hown,hwrites⟩ := hwritten
  intro claim_id stored hfound
  rw [storedClaim_of_ok hown]
  by_cases hsame : claim_id=own_id.1
  · rw [← hsame]
    exact hfound
  · -- another document would be the stored claim, whose place is the written one
    rw [hwrites.kept hsame] at hfound
    have hstored := h.one claim_id stored hfound
    rw [storedClaim_of_ok hown] at hstored
    have hplace := (Table.accepted_of_find hfound).2
    rw [(Table.accepted_of_find hstored).2] at hplace
    exact absurd (Except.ok.inj hplace).symm hsame

/-- The records of a root creation belong together. -/
theorem atomicBundle_of_ok {commit : RootCreationCommit}
    {expected_released_claim : Option (StoredRecord ServiceClaimRecord)}
    (h : validateInitialRootCreationBundle functions configured_target commit
      expected_released_claim=.ok ()) :
    (∃ claim_id stable candidate,AtomicBundle functions commit claim_id stable candidate) ∧
      ∀ expected,expected_released_claim=some expected →
        ReleasedTakeover configured_target expected commit.root commit.service_claim := by
  simp only [validateInitialRootCreationBundle,bind_eq_ok,require_eq_ok] at h
  obtain ⟨stable,-,candidate,-,⟨⟩,-,claim_id,-,⟨⟩,hatomic,htakeover⟩ := h
  refine ⟨⟨claim_id,stable,candidate,hatomic⟩,?_⟩
  intro expected hexpected
  rw [hexpected] at htakeover
  exact require_eq_ok.mp htakeover

theorem claim_of_created {commit : RootCreationCommit}
    {expected_released_claim : Option (StoredRecord ServiceClaimRecord)}
    (h : RootCreated configured_target commit expected_released_claim before next) :
    commit.service_claim.status=.active ∧ commit.service_claim.root_id=commit.root.root_id := by
  obtain ⟨⟨claim_id,stable,candidate,hatomic⟩,-⟩ := atomicBundle_of_ok h.bundle
  exact ⟨hatomic.active_claim.1,hatomic.active_claim.2.root_id⟩

/-- The first authority of a created root is stored under the root. -/
theorem authority_of_created {commit : RootCreationCommit}
    {expected_released_claim : Option (StoredRecord ServiceClaimRecord)}
    (h : RootCreated configured_target commit expected_released_claim before next) :
    commit.authority.root_id=commit.root.root_id := by
  obtain ⟨⟨claim_id,stable,candidate,hatomic⟩,-⟩ := atomicBundle_of_ok h.bundle
  have hwinner := h.winner
  simp only [validateDeterministicWinner,bind_eq_ok,require_eq_ok] at hwinner
  obtain ⟨⟨⟩,-,⟨⟩,-,⟨⟩,-,request_sha256,-,⟨⟩,-,⟨⟩,-,⟨⟩,-,⟨⟩,hinitial,-⟩ := hwinner
  rw [← hatomic.authority,hinitial.root_id,hatomic.root]

theorem claim_of_revoked {expected : EpochRevocationState} {commit : EpochRevocationCommitV1}
    {bundle : RootCreationBundle}
    (h : EpochRevoked configured_target expected commit bundle before next) :
    bundle.service_claim.value.status=.active ∧
      bundle.service_claim.value.root_id=commit.result.root_id := by
  refine ⟨h.accepted.active.claim_status,?_⟩
  rw [h.accepted.active.claim_root_id,h.accepted.result.root_id]

theorem claim_of_fenced {expected : ServiceClaimReleaseState}
    {commit : ServiceClaimReleaseFenceCommitV1} {view : FenceView}
    (h : ClaimFenced configured_target expected commit view before next) :
    view.bundle.service_claim.value.root_id=commit.progress.root_id ∧
      commit.replacement_claim.root_id=commit.progress.root_id ∧
      commit.replacement_authority.root_id=commit.progress.root_id := by
  have hroot := h.accepted.progress.root_id
  have howner : commit.replacement_claim.root_id=view.bundle.service_claim.value.root_id :=
    congrArg ClaimOwnershipBinding.root_id h.accepted.ownership
  refine ⟨?_,?_,?_⟩
  · rw [h.accepted.records.claim_root_id,hroot]
  · rw [howner,h.accepted.records.claim_root_id,hroot]
  · rw [h.accepted.advance.root_id,h.accepted.records.authority_root_id,hroot]

theorem claim_of_released {expected : ServiceClaimReleaseState}
    {commit : ServiceClaimReleaseFinalizeCommitV1} {view : ReleaseView}
    (h : ClaimReleased configured_target expected commit view before next) :
    view.bundle.service_claim.value.root_id=commit.result.root_id ∧
      commit.replacement_claim.root_id=commit.result.root_id := by
  have hroot := h.accepted.result.root_id
  have howner : commit.replacement_claim.root_id=view.bundle.service_claim.value.root_id :=
    congrArg ClaimOwnershipBinding.root_id h.accepted.release.ownership
  refine ⟨?_,?_⟩
  · rw [h.accepted.records.claim_root_id,hroot]
  · rw [howner,h.accepted.records.claim_root_id,hroot]

theorem storedClaim_unique {first second : StoredRecord ServiceClaimRecord}
    (hfirst : storedClaim configured_target before=some first)
    (hsecond : storedClaim configured_target before=some second) : first=second := by
  rw [hfirst] at hsecond
  exact Option.some.inj hsecond

theorem claimInvariant_of_created {commit : RootCreationCommit}
    {expected_released_claim : Option (StoredRecord ServiceClaimRecord)}
    (hcreated : RootCreated configured_target commit expected_released_claim before next)
    (h : ClaimInvariant configured_target before) : ClaimInvariant configured_target next := by
  obtain ⟨hstatus,hroot⟩ := claim_of_created hcreated
  obtain ⟨stored,hstored,hvalue,-⟩ := storedClaim_of_written hcreated.service_claim
  refine ⟨one_of_written h hcreated.service_claim,?_,?_⟩
  · intro claim hclaim
    obtain ⟨root,hfound,-⟩ := hcreated.roots.2.found
    refine ⟨root,?_⟩
    rw [storedClaim_unique hclaim hstored,hvalue,hroot]
    exact hfound
  · intro claim hclaim hinactive
    rw [storedClaim_unique hclaim hstored,hvalue] at hinactive
    exact absurd hstatus hinactive

theorem claimInvariant_of_revoked {expected : EpochRevocationState}
    {commit : EpochRevocationCommitV1} {bundle : RootCreationBundle}
    (hrevoked : EpochRevoked configured_target expected commit bundle before next)
    (h : ClaimInvariant configured_target before) : ClaimInvariant configured_target next := by
  have hsame : storedClaim configured_target next=storedClaim configured_target before := by
    unfold storedClaim
    rw [hrevoked.service_claims]
  constructor
  · rw [hrevoked.service_claims,hsame]
    exact h.one
  · rw [hsame,hrevoked.roots]
    exact h.rooted
  · intro claim hclaim hinactive
    rw [hsame] at hclaim
    rw [storedClaim_unique hclaim hrevoked.view.claim] at hinactive
    exact absurd (claim_of_revoked hrevoked).1 hinactive

theorem claimInvariant_of_fenced {expected : ServiceClaimReleaseState}
    {commit : ServiceClaimReleaseFenceCommitV1} {view : FenceView}
    (hfenced : ClaimFenced configured_target expected commit view before next)
    (h : ClaimInvariant configured_target before) : ClaimInvariant configured_target next := by
  obtain ⟨-,hroot,-⟩ := claim_of_fenced hfenced
  obtain ⟨stored,hstored,hvalue,-⟩ := storedClaim_of_written hfenced.service_claim
  refine ⟨one_of_written h hfenced.service_claim,?_,?_⟩
  · intro claim hclaim
    rw [storedClaim_unique hclaim hstored,hvalue,hroot,hfenced.roots]
    exact ⟨view.bundle.root,hfenced.found.root⟩
  · intro claim hclaim hinactive
    obtain ⟨authority,hauthority,hreplaced,-⟩ := hfenced.authorities.found
    refine ⟨authority,?_,?_,?_⟩
    · rw [storedClaim_unique hclaim hstored,hvalue,hroot]
      exact hauthority
    · rw [storedClaim_unique hclaim hstored,hvalue,hreplaced]
      exact hfenced.accepted.fenced.epoch
    · rw [storedClaim_unique hclaim hstored,hvalue,hreplaced]
      exact hfenced.accepted.fenced.revision

theorem claimInvariant_of_released {expected : ServiceClaimReleaseState}
    {commit : ServiceClaimReleaseFinalizeCommitV1} {view : ReleaseView}
    (hreleased : ClaimReleased configured_target expected commit view before next)
    (h : ClaimInvariant configured_target before) : ClaimInvariant configured_target next := by
  obtain ⟨-,hroot⟩ := claim_of_released hreleased
  obtain ⟨stored,hstored,hvalue,-⟩ := storedClaim_of_written hreleased.service_claim
  have hrelease := hreleased.accepted.release
  refine ⟨one_of_written h hreleased.service_claim,?_,?_⟩
  · intro claim hclaim
    rw [storedClaim_unique hclaim hstored,hvalue,hroot,hreleased.roots]
    exact ⟨view.bundle.root,hreleased.found.root⟩
  · intro claim hclaim hinactive
    refine ⟨view.bundle.authority,?_,?_,?_⟩
    · rw [storedClaim_unique hclaim hstored,hvalue,hroot,hreleased.authorities]
      exact hreleased.found.authority
    · rw [storedClaim_unique hclaim hstored,hvalue,hrelease.epoch,hrelease.authority_epoch]
    · rw [storedClaim_unique hclaim hstored,hvalue,hrelease.revision,hrelease.authority_revision]

theorem claimInvariant_of_changed (hchanged : Changed configured_target before next)
    (h : ClaimInvariant configured_target before) : ClaimInvariant configured_target next := by
  cases hchanged with
  | refused => exact h
  | created commit expected hcreated => exact claimInvariant_of_created hcreated h
  | revoked expected commit bundle hrevoked => exact claimInvariant_of_revoked hrevoked h
  | fenced expected commit view hfenced => exact claimInvariant_of_fenced hfenced h
  | released expected commit view hreleased => exact claimInvariant_of_released hreleased h
  | received written => exact ⟨h.one,h.rooted,h.fenced⟩

theorem claimInvariant_after {attempts : List (Attempt functions)} :
    ClaimInvariant configured_target (after configured_target attempts) := by
  have hnone : storedClaim configured_target (Database.empty : Database functions)=none := by
    unfold storedClaim
    split
    · rw [Database.empty,Table.find_empty]
    · rfl
  refine after_invariant ⟨?_,?_,?_⟩ (fun hchanged h => claimInvariant_of_changed hchanged h)
  · intro claim_id claim hfound
    rw [Database.empty,Table.find_empty] at hfound
    cases hfound
  · intro claim hclaim
    rw [hnone] at hclaim
    cases hclaim
  · intro claim hclaim
    rw [hnone] at hclaim
    cases hclaim

/-- A settled root stays settled, and its authority is never written again. -/
theorem settled_of_changed {root_id : Identifier} (hchanged : Changed configured_target before next)
    (h : Settled configured_target root_id before) : Settled configured_target root_id next ∧
      next.authorities.find root_id.1=before.authorities.find root_id.1 := by
  obtain ⟨root,hroot⟩ := h.stored
  cases hchanged with
  | refused => exact ⟨h,rfl⟩
  | created commit expected hcreated =>
    -- the created root is another one, since it was not stored
    have hother : root_id.1≠commit.root.root_id.1 := by
      intro hsame
      rw [hsame,hcreated.roots.1] at hroot
      cases hroot
    obtain ⟨-,hclaim_root⟩ := claim_of_created hcreated
    refine ⟨⟨⟨root,hcreated.roots.found_of_found hroot⟩,?_⟩,?_⟩
    · intro claim hclaim hsame
      obtain ⟨stored,hstored,hvalue,-⟩ := storedClaim_of_written hcreated.service_claim
      rw [storedClaim_unique hclaim hstored,hvalue,hclaim_root] at hsame
      exact absurd (congrArg Subtype.val hsame.symm) hother
    · apply hcreated.authorities.2.kept
      rw [authority_of_created hcreated]
      exact hother
  | revoked expected commit bundle hrevoked =>
    obtain ⟨hstatus,hclaim_root⟩ := claim_of_revoked hrevoked
    have hother : root_id.1≠commit.result.root_id.1 := by
      intro hsame
      have hclaim : bundle.service_claim.value.root_id=root_id := by
        rw [hclaim_root]
        exact Subtype.ext hsame.symm
      exact h.inactive bundle.service_claim hrevoked.view.claim hclaim hstatus
    refine ⟨⟨⟨root,?_⟩,?_⟩,hrevoked.authorities.kept hother⟩
    · rw [hrevoked.roots]
      exact hroot
    · unfold storedClaim
      rw [hrevoked.service_claims]
      exact h.inactive
  | fenced expected commit view hfenced =>
    obtain ⟨hclaim_root,hnext_root,-⟩ := claim_of_fenced hfenced
    have hother : root_id.1≠commit.progress.root_id.1 := by
      intro hsame
      have hclaim : view.bundle.service_claim.value.root_id=root_id := by
        rw [hclaim_root]
        exact Subtype.ext hsame.symm
      exact h.inactive view.bundle.service_claim hfenced.found.claim hclaim hfenced.accepted.active
    refine ⟨⟨⟨root,?_⟩,?_⟩,hfenced.authorities.kept hother⟩
    · rw [hfenced.roots]
      exact hroot
    · intro claim hclaim hsame
      obtain ⟨stored,hstored,hvalue,-⟩ := storedClaim_of_written hfenced.service_claim
      rw [storedClaim_unique hclaim hstored,hvalue,hnext_root] at hsame
      exact absurd (congrArg Subtype.val hsame.symm) hother
  | released expected commit view hreleased =>
    refine ⟨⟨⟨root,?_⟩,?_⟩,?_⟩
    · rw [hreleased.roots]
      exact hroot
    · intro claim hclaim hsame hactive
      obtain ⟨stored,hstored,hvalue,-⟩ := storedClaim_of_written hreleased.service_claim
      rw [storedClaim_unique hclaim hstored,hvalue,
        hreleased.accepted.release.replacement_status] at hactive
      cases hactive
    · rw [hreleased.authorities]
  | received written => exact ⟨⟨⟨root,hroot⟩,h.inactive⟩,rfl⟩

/-- The authority of a settled root is the same after every further run. -/
theorem authority_of_settled {root_id : Identifier} {attempts : List (Attempt functions)}
    (h : Settled configured_target root_id before) :
    (run (step configured_target) before attempts).authorities.find root_id.1=
      before.authorities.find root_id.1 := by
  have hkept : ∀ (database : Database functions) (attempt : Attempt functions),
      Settled configured_target root_id database ∧
        database.authorities.find root_id.1=before.authorities.find root_id.1 →
      Settled configured_target root_id (step configured_target database attempt) ∧
        (step configured_target database attempt).authorities.find root_id.1=
          before.authorities.find root_id.1 := by
    intro database attempt hdatabase
    obtain ⟨hsettled,hsame⟩ := settled_of_changed changed_step hdatabase.1
    exact ⟨hsettled,hsame.trans hdatabase.2⟩
  exact (run_invariant hkept ⟨h,rfl⟩).2

theorem claimKept_of_eq
    (hroots : ∀ root_id root,before.roots.find root_id=some root → next.roots.find root_id=some root)
    (hclaims : next.service_claims=before.service_claims) :
    ClaimKept configured_target before next := by
  refine ⟨hroots,?_⟩
  intro first hfirst
  refine ⟨first,?_,Nat.le_refl _,.inl ⟨rfl,rfl,rfl⟩⟩
  unfold storedClaim
  rw [hclaims]
  exact hfirst

theorem claimKept_of_written {current : StoredRecord ServiceClaimRecord}
    {replacement : ServiceClaimRecord} (hroots : next.roots=before.roots)
    (hfound : storedClaim configured_target before=some current)
    (hstatus : current.value.status≠.released)
    (howner : claimOwnershipBinding replacement=claimOwnershipBinding current.value)
    (hwritten : ClaimWritten configured_target before next replacement (current.revision+1)) :
    ClaimKept configured_target before next := by
  refine ⟨fun root_id root hroot => by rw [hroots]; exact hroot,?_⟩
  intro first hfirst
  rw [storedClaim_unique hfirst hfound]
  obtain ⟨stored,hstored,hvalue,hrevision⟩ := storedClaim_of_written hwritten
  have hremainder : current.revision%3≠2 := fun h =>
    hstatus ((revisionOfStatus_stored hfound).released.mp h)
  refine ⟨stored,hstored,by omega,.inl ⟨?_,by omega,?_⟩⟩
  · rw [hvalue]
    exact congrArg ClaimOwnershipBinding.root_id howner
  · rw [hvalue]
    exact howner

/-- Every change keeps the claim of its root, or follows a released claim with a new root. -/
theorem claimKept_of_changed (hchanged : Changed configured_target before next) :
    ClaimKept configured_target before next := by
  cases hchanged with
  | refused => exact claimKept_of_eq (fun _ _ hroot => hroot) rfl
  | created commit expected hcreated =>
    refine ⟨fun root_id root hroot => hcreated.roots.found_of_found hroot,?_⟩
    intro first hfirst
    have hexpected := hcreated.claim_before
    rw [hfirst] at hexpected
    have htakeover := (atomicBundle_of_ok hcreated.bundle).2 first hexpected.symm
    obtain ⟨-,hclaim_root⟩ := claim_of_created hcreated
    obtain ⟨stored,hstored,hvalue,hrevision⟩ := storedClaim_of_written hcreated.service_claim
    rw [← hexpected,Option.elim_some] at hrevision
    have hremainder := htakeover.revision
    refine ⟨stored,hstored,by omega,.inr ⟨?_,by omega⟩⟩
    rw [hvalue,hclaim_root]
    exact hcreated.roots.1
  | revoked expected commit bundle hrevoked =>
    refine claimKept_of_eq ?_ hrevoked.service_claims
    rw [hrevoked.roots]
    exact fun _ _ hroot => hroot
  | fenced expected commit view hfenced =>
    refine claimKept_of_written hfenced.roots hfenced.found.claim ?_ hfenced.accepted.ownership
      hfenced.service_claim
    rw [hfenced.accepted.active]
    exact fun h => nomatch h
  | released expected commit view hreleased =>
    refine claimKept_of_written hreleased.roots hreleased.found.claim ?_
      hreleased.accepted.release.ownership hreleased.service_claim
    rw [hreleased.accepted.release.current_status]
    exact fun h => nomatch h
  | received written => exact claimKept_of_eq (fun _ _ hroot => hroot) rfl

theorem ClaimKept.trans {first second third : Database functions}
    (hfirst : ClaimKept configured_target first second)
    (hsecond : ClaimKept configured_target second third) :
    ClaimKept configured_target first third := by
  refine ⟨fun root_id root hroot => hsecond.roots root_id root (hfirst.roots root_id root hroot),?_⟩
  intro claim hclaim
  obtain ⟨middle,hmiddle,hle,hfollows⟩ := hfirst.claim claim hclaim
  obtain ⟨last,hlast,hlast_le,hlast_follows⟩ := hsecond.claim middle hmiddle
  refine ⟨last,hlast,Nat.le_trans hle hlast_le,?_⟩
  rcases hfollows with ⟨hroot,hcount,howner⟩ | ⟨hnew,hcount⟩
  · rcases hlast_follows with ⟨hlast_root,hlast_count,hlast_owner⟩ | ⟨hlast_new,hlast_count⟩
    · exact .inl ⟨hlast_root.trans hroot,hlast_count.trans hcount,hlast_owner.trans howner⟩
    · refine .inr ⟨?_,by omega⟩
      -- a root that is not stored yet was not stored before
      cases hold : first.roots.find last.value.root_id.1 with
      | none => rfl
      | some root =>
        rw [hfirst.roots _ root hold] at hlast_new
        cases hlast_new
  · rcases hlast_follows with ⟨hlast_root,hlast_count,hlast_owner⟩ | ⟨hlast_new,hlast_count⟩
    · refine .inr ⟨?_,by omega⟩
      rw [hlast_root]
      exact hnew
    · refine .inr ⟨?_,by omega⟩
      cases hold : first.roots.find last.value.root_id.1 with
      | none => rfl
      | some root =>
        rw [hfirst.roots _ root hold] at hlast_new
        cases hlast_new

/-- Every run keeps the claim of its root, or follows it with new roots. -/
theorem claimKept_of_run {attempts : List (Attempt functions)} :
    ClaimKept configured_target before (run (step configured_target) before attempts) :=
  run_relation (ClaimKept configured_target)
    (fun _ => claimKept_of_eq (fun _ _ hroot => hroot) rfl) ClaimKept.trans
    (fun _ _ => claimKept_of_changed changed_step)

/-- The claims of two moments of a run have one root exactly when no root has taken over in
between, and then they have the same ownership. -/
theorem ownership_kept {earlier later : List (Attempt functions)}
    {first second : StoredRecord ServiceClaimRecord}
    (hfirst : storedClaim configured_target (after configured_target earlier)=some first)
    (hsecond : storedClaim configured_target (after configured_target (earlier++later))=
      some second) :
    first.revision ≤ second.revision ∧
      (second.value.root_id=first.value.root_id ↔ second.revision/3=first.revision/3) ∧
      (second.value.root_id=first.value.root_id →
        claimOwnershipBinding second.value=claimOwnershipBinding first.value) := by
  rw [after_append] at hsecond
  obtain ⟨last,hlast,hle,hfollows⟩ := claimKept_of_run.claim first hfirst
  rw [storedClaim_unique hsecond hlast]
  obtain ⟨root,hroot⟩ := claimInvariant_after.rooted first hfirst
  rcases hfollows with ⟨hsame,hcount,howner⟩ | ⟨hnew,hcount⟩
  · exact ⟨hle,⟨fun _ => hcount,fun _ => hsame⟩,fun _ => howner⟩
  · have hother : last.value.root_id≠first.value.root_id := by
      intro hsame
      rw [hsame,hroot] at hnew
      cases hnew
    exact ⟨hle,⟨fun hsame => absurd hsame hother,fun hsame => by omega⟩,
      fun hsame => absurd hsame hother⟩

/-- A claim that is not active carries the authority of its root, which stays as it is. -/
theorem fence_kept {earlier later : List (Attempt functions)}
    {claim : StoredRecord ServiceClaimRecord}
    (hclaim : storedClaim configured_target (after configured_target earlier)=some claim)
    (hinactive : claim.value.status≠.active) :
    FencedByRoot (after configured_target earlier) claim ∧
      (after configured_target (earlier++later)).authorities.find claim.value.root_id.1=
        (after configured_target earlier).authorities.find claim.value.root_id.1 := by
  have hinvariant : ClaimInvariant configured_target (after configured_target earlier) :=
    claimInvariant_after
  refine ⟨hinvariant.fenced claim hclaim hinactive,?_⟩
  rw [after_append]
  apply authority_of_settled
  refine ⟨hinvariant.rooted claim hclaim,?_⟩
  intro other hother _
  rw [storedClaim_unique hother hclaim]
  exact hinactive

/-- Only the creation of a root changes the root of a claim, after the claim was released. -/
theorem takenOver_of_changed {first second : StoredRecord ServiceClaimRecord}
    (hchanged : Changed configured_target before next)
    (hfirst : storedClaim configured_target before=some first)
    (hsecond : storedClaim configured_target next=some second)
    (hother : second.value.root_id≠first.value.root_id) :
    ∃ root,next.roots.find second.value.root_id.1=some root ∧
      TakenOver first.value root.value := by
  have hsame : next.service_claims=before.service_claims → False := by
    intro hclaims
    unfold storedClaim at hsecond
    rw [hclaims] at hsecond
    exact hother (congrArg (fun claim => claim.value.root_id) (storedClaim_unique hsecond hfirst))
  cases hchanged with
  | refused => exact absurd rfl hsame
  | created commit expected hcreated =>
    have hexpected := hcreated.claim_before
    rw [hfirst] at hexpected
    have htakeover := (atomicBundle_of_ok hcreated.bundle).2 first hexpected.symm
    obtain ⟨-,hclaim_root⟩ := claim_of_created hcreated
    obtain ⟨stored,hstored,hvalue,-⟩ := storedClaim_of_written hcreated.service_claim
    obtain ⟨root,hroot,hroot_value,-⟩ := hcreated.roots.2.found
    refine ⟨root,?_,htakeover.status,?_⟩
    · rw [storedClaim_unique hsecond hstored,hvalue,hclaim_root]
      exact hroot
    · obtain ⟨released_at,hreleased,hbefore⟩ := htakeover.released_before
      rw [hroot_value]
      exact ⟨released_at,hreleased,hbefore⟩
  | revoked expected commit bundle hrevoked => exact absurd hrevoked.service_claims hsame
  | fenced expected commit view hfenced =>
    obtain ⟨hclaim_root,hnext_root,-⟩ := claim_of_fenced hfenced
    obtain ⟨stored,hstored,hvalue,-⟩ := storedClaim_of_written hfenced.service_claim
    rw [storedClaim_unique hsecond hstored,storedClaim_unique hfirst hfenced.found.claim,hvalue,
      hnext_root,hclaim_root] at hother
    exact absurd rfl hother
  | released expected commit view hreleased =>
    obtain ⟨hclaim_root,hnext_root⟩ := claim_of_released hreleased
    obtain ⟨stored,hstored,hvalue,-⟩ := storedClaim_of_written hreleased.service_claim
    rw [storedClaim_unique hsecond hstored,storedClaim_unique hfirst hreleased.found.claim,hvalue,
      hnext_root,hclaim_root] at hother
    exact absurd rfl hother
  | received written => exact absurd rfl hsame

/-- In every run on one service: the revision of the claim document modulo three is its status;
as long as one root owns the claim its ownership is unchanged; behind a fence the claim carries
the authority of its root, which is never written again; only a released claim is taken over,
by a root whose stable state was captured after the release; and no two roots hold an active
claim. -/
theorem claim_lifecycle (configured_target : TargetBinding) (attempts : List (Attempt functions)) :
    (∀ claim_id claim,(after configured_target attempts).service_claims.find claim_id=some claim →
      RevisionOfStatus claim) ∧
    (∀ earlier later first second,attempts=earlier++later →
      storedClaim configured_target (after configured_target earlier)=some first →
      storedClaim configured_target (after configured_target attempts)=some second →
      first.revision ≤ second.revision ∧
        (second.value.root_id=first.value.root_id ↔ second.revision/3=first.revision/3) ∧
        (second.value.root_id=first.value.root_id →
          claimOwnershipBinding second.value=claimOwnershipBinding first.value)) ∧
    (∀ earlier later claim,attempts=earlier++later →
      storedClaim configured_target (after configured_target earlier)=some claim →
      claim.value.status≠.active →
      FencedByRoot (after configured_target earlier) claim ∧
        (after configured_target attempts).authorities.find claim.value.root_id.1=
          (after configured_target earlier).authorities.find claim.value.root_id.1) ∧
    (∀ earlier attempt later first second,attempts=earlier++attempt::later →
      storedClaim configured_target (after configured_target earlier)=some first →
      storedClaim configured_target (after configured_target (earlier++[attempt]))=some second →
      second.value.root_id≠first.value.root_id →
      ∃ root,(after configured_target (earlier++[attempt])).roots.find second.value.root_id.1=
          some root ∧ TakenOver first.value root.value) ∧
    (∀ first_id second_id first second,
      (after configured_target attempts).service_claims.find first_id=some first →
      (after configured_target attempts).service_claims.find second_id=some second →
      first=second) := by
  refine ⟨fun claim_id claim hfound => revisionOfStatus hfound,?_,?_,?_,?_⟩
  · intro earlier later first second hsplit hfirst hsecond
    rw [hsplit] at hsecond
    exact ownership_kept hfirst hsecond
  · intro earlier later claim hsplit hclaim hinactive
    rw [hsplit]
    exact fence_kept hclaim hinactive
  · intro earlier attempt later first second hsplit hfirst hsecond hother
    rw [after_concat] at hsecond ⊢
    exact takenOver_of_changed changed_step hfirst hsecond hother
  · intro first_id second_id first second hfirst hsecond
    have hinvariant : ClaimInvariant configured_target (after configured_target attempts) :=
      claimInvariant_after
    exact storedClaim_unique (hinvariant.one first_id first hfirst)
      (hinvariant.one second_id second hsecond)

end ControlGraph.ClaimLifecycle
