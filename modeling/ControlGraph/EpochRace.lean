import ControlGraph.AuthorityRuns

/-!
# The race for the epoch of a root

Revocations and claim fences race for the authority of a root, each from a view
that may be stale by then. The transaction reads every record of the view again,
so an accepted attempt starts from the stored epoch and leaves the next one
behind. Every later attempt of the same root starts from a later epoch. The
identities of an accepted revocation are created with its result and never
change, so one request, one idempotency key and one epoch of a root have one
result.
-/

namespace ControlGraph.EpochRace

open Checks ContractText RootContracts RevocationContracts ReleaseContracts AuthorityDatabase
  EvidenceChain RootCreation RevocationCommits ClaimFence ClaimRelease LabelledRuns AuthorityRuns

open StorageIdentity (epochRevocationIdentityLogicalId epochRevocationIdentityValue logicalIdentity
  serviceClaimReleaseIdentityLogicalId)

open ReceiptContracts hiding ServiceClaimRecord

/-- An authority counts its changes from epoch one. -/
structure AuthorityShape (authority : EpochAuthorityRecord) : Prop where
  current_epoch : authority.current_epoch.1=authority.revision+1
  first : authority.revision=0 → authority.previous_epoch=none
  /-- Every later authority names the epoch before it. -/
  later : authority.revision≠0 → ∃ previous,authority.previous_epoch=some previous ∧
    previous.1=authority.current_epoch.1-1

/-- Root and epoch that an attempt advances from. -/
def epochAdvance {functions : AuthorityFunctions} :
    Attempt functions → Option (Identifier×PositiveSafeInteger)
  | .revoke _ commit => some (commit.result.root_id,commit.result.previous_epoch)
  | .fence _ commit => some (commit.progress.root_id,commit.fence_subject.previous_epoch)
  | .create _ _ => none
  | .release _ _ => none
  | .receipts _ => none

variable {functions : AuthorityFunctions}

/-- The stored authority of a root moves from an epoch to the next one. -/
def EpochAdvanced (before next : Database functions) (root_id : Identifier)
    (epoch : PositiveSafeInteger) : Prop :=
  ∃ old new,before.authorities.find root_id.1=some old ∧ old.value.current_epoch=epoch ∧
    next.authorities.find root_id.1=some new ∧ new.value.current_epoch.1=epoch.1+1 ∧
    new.value.previous_epoch=some epoch ∧ new.revision=old.revision+1

/-- No authority goes back to an earlier epoch. -/
def EpochsKept (before after : Database functions) : Prop :=
  ∀ root_id old,before.authorities.find root_id=some old →
    ∃ new,after.authorities.find root_id=some new ∧
      old.value.current_epoch.1 ≤ new.value.current_epoch.1

/-- An identity is stored for the record that owns it. -/
def Owned {Identity : Type} (owner : Identity → Identifier)
    (identities : String → Option (StoredRecord Identity)) (place : Except Raised String)
    (result_id : Identifier) : Prop :=
  ∃ logical_id stored,place=.ok logical_id ∧ identities logical_id=some stored ∧
    owner stored.value=result_id

/-- Place of the identity of one epoch of a root. -/
def epochPlace (root_id : Identifier) (epoch : PositiveSafeInteger) : Except Raised String := do
  let value ← epochRevocationIdentityValue root_id.1 epoch.1
  epochRevocationIdentityLogicalId EpochRevocationIdentityKind.epoch.value value

/-- A stored revocation owns its request, its idempotency key and its epoch. -/
structure RevocationOwned (identities : String → Option (StoredRecord EpochRevocationIdentityV1))
    (result : EpochRevocationResultV1) : Prop where
  request : Owned EpochRevocationIdentityV1.result_id identities
    (epochRevocationIdentityLogicalId EpochRevocationIdentityKind.request.value
      result.request_id.1) result.result_id
  idempotency : Owned EpochRevocationIdentityV1.result_id identities
    (epochRevocationIdentityLogicalId EpochRevocationIdentityKind.idempotency.value
      result.idempotency_key.1) result.result_id
  epoch : Owned EpochRevocationIdentityV1.result_id identities
    (epochPlace result.root_id result.new_epoch) result.result_id

/-- A stored fence owns its request and its idempotency key. -/
structure FenceOwned (identities : String → Option (StoredRecord ServiceClaimReleaseIdentityV1))
    (progress : ServiceClaimReleaseProgressV1) : Prop where
  request : Owned ServiceClaimReleaseIdentityV1.result_id identities
    (serviceClaimReleaseIdentityLogicalId ServiceClaimReleaseIdentityKind.request.value
      progress.request_id.1) progress.result_id
  idempotency : Owned ServiceClaimReleaseIdentityV1.result_id identities
    (serviceClaimReleaseIdentityLogicalId ServiceClaimReleaseIdentityKind.idempotency.value
      progress.idempotency_key.1) progress.result_id

/-- Every stored revocation and every stored fence owns its identities. -/
structure IdentitiesOwned (database : Database functions) : Prop where
  revocations : ∀ result_id stored,database.revocation_results.find result_id=some stored →
    RevocationOwned database.revocation_identities.find stored.value
  fences : ∀ result_id stored,database.release_progress.find result_id=some stored →
    FenceOwned database.release_identities.find stored.value

/-- Stored revocations differ in their requests, in their idempotency keys and in their epochs. -/
structure RevocationsUnique (database : Database functions) : Prop where
  request_id : ∀ first_id second_id first second,
    database.revocation_results.find first_id=some first →
    database.revocation_results.find second_id=some second →
    first.value.request_id=second.value.request_id → first=second
  idempotency_key : ∀ first_id second_id first second,
    database.revocation_results.find first_id=some first →
    database.revocation_results.find second_id=some second →
    first.value.idempotency_key=second.value.idempotency_key → first=second
  epoch : ∀ first_id second_id first second,
    database.revocation_results.find first_id=some first →
    database.revocation_results.find second_id=some second →
    first.value.root_id=second.value.root_id → first.value.new_epoch=second.value.new_epoch →
    first=second

/-- Stored fences differ in their requests and in their idempotency keys. -/
structure FencesUnique (database : Database functions) : Prop where
  request_id : ∀ first_id second_id first second,
    database.release_progress.find first_id=some first →
    database.release_progress.find second_id=some second →
    first.value.request_id=second.value.request_id → first=second
  idempotency_key : ∀ first_id second_id first second,
    database.release_progress.find first_id=some first →
    database.release_progress.find second_id=some second →
    first.value.idempotency_key=second.value.idempotency_key → first=second

theorem authorityShape (authority : EpochAuthorityRecord) : AuthorityShape authority := by
  have haccepted := authority.accepted
  rw [validateTransitionShape,check_bind_eq_ok] at haccepted
  obtain ⟨-,haccepted⟩ := haccepted
  by_cases hcause : authority.cause=.rootCreated
  · rw [if_pos hcause,check_bind_eq_ok,require_eq_ok,require_eq_ok] at haccepted
    obtain ⟨⟨-,hprevious,hrevision⟩,hcurrent⟩ := haccepted
    exact ⟨hcurrent,fun _ => hprevious,fun hlater => absurd hrevision hlater⟩
  · rw [if_neg hcause,check_bind_eq_ok,require_eq_ok,require_eq_ok] at haccepted
    obtain ⟨⟨⟨previous,hprevious,hstep⟩,hrevision⟩,hcurrent⟩ := haccepted
    refine ⟨hcurrent,fun hfirst => absurd hfirst (by omega),fun _ => ⟨previous,hprevious,?_⟩⟩
    omega

theorem revision_of_find {table : Table functions authorityFamily} {root_id : String}
    {stored : StoredRecord EpochAuthorityRecord} (h : table.find root_id=some stored) :
    stored.revision=stored.value.revision :=
  require_eq_ok.mp (Table.accepted_of_find h).1

theorem epochAdvanced_of_ok {configured_target : TargetBinding} {before next : Database functions}
    {attempt : Attempt functions} {root_id : Identifier} {epoch : PositiveSafeInteger}
    (hadvance : epochAdvance attempt=some (root_id,epoch))
    (h : attempt.perform configured_target before=.ok next) :
    EpochAdvanced before next root_id epoch := by
  cases attempt with
  | create commit expected => cases hadvance
  | release expected commit => cases hadvance
  | receipts written => cases hadvance
  | revoke expected commit =>
    cases hadvance
    obtain ⟨bundle,-,hrevoked⟩ := epochRevoked_of_ok h
    obtain ⟨new,hnew,hvalue,hrevision⟩ := hrevoked.authorities.found
    have hadvance := hrevoked.accepted.advance
    have hepoch := hrevoked.accepted.result.previous_epoch
    refine ⟨bundle.authority,new,hrevoked.view.authority,hepoch.symm,hnew,?_,?_,?_⟩
    · rw [hvalue,hepoch]
      exact hadvance.current_epoch
    · rw [hvalue,hepoch]
      exact hadvance.previous_epoch
    · rw [hrevision,hadvance.revision,hrevoked.accepted.stored_revision]
  | fence expected commit =>
    cases hadvance
    obtain ⟨view,hfenced⟩ := claimFenced_of_ok h
    obtain ⟨new,hnew,hvalue,hrevision⟩ := hfenced.authorities.found
    have hadvance := hfenced.accepted.advance
    have hepoch := hfenced.accepted.subject.previous_epoch
    refine ⟨view.bundle.authority,new,hfenced.found.authority,hepoch.symm,hnew,?_,?_,hrevision⟩
    · rw [hvalue,hepoch]
      exact hadvance.current_epoch
    · rw [hvalue,hepoch]
      exact hadvance.previous_epoch

theorem epochsKept_of_advance {before next : Database functions} {root_id : Identifier}
    {current : StoredRecord EpochAuthorityRecord} {replacement : EpochAuthorityRecord}
    {revision : Nat} (hfound : before.authorities.find root_id.1=some current)
    (hadvance : MonotonicAdvance current.value replacement)
    (hwrites : Writes before.authorities.find next.authorities.find root_id.1 replacement revision) :
    EpochsKept before next := by
  intro other old hold
  by_cases hother : other=root_id.1
  · obtain ⟨new,hnew,hvalue,-⟩ := hwrites.found
    rw [hother,hfound] at hold
    refine ⟨new,by rw [hother]; exact hnew,?_⟩
    rw [← Option.some.inj hold,hvalue,hadvance.current_epoch]
    exact Nat.le_succ _
  · refine ⟨old,?_,Nat.le_refl _⟩
    rw [hwrites.kept hother]
    exact hold

theorem epochsKept_of_changed {configured_target : TargetBinding} {before next : Database functions}
    (h : Changed configured_target before next) : EpochsKept before next := by
  cases h with
  | refused => exact fun root_id old hold => ⟨old,hold,Nat.le_refl _⟩
  | created commit expected h =>
    exact fun root_id old hold => ⟨old,h.authorities.found_of_found hold,Nat.le_refl _⟩
  | revoked expected commit bundle h =>
    exact epochsKept_of_advance h.view.authority h.accepted.advance h.authorities
  | fenced expected commit view h =>
    exact epochsKept_of_advance h.found.authority h.accepted.advance h.authorities
  | released expected commit view h =>
    intro root_id old hold
    rw [h.authorities]
    exact ⟨old,hold,Nat.le_refl _⟩
  | received written => exact fun root_id old hold => ⟨old,hold,Nat.le_refl _⟩

theorem epochsKept_of_run {configured_target : TargetBinding} {before : Database functions}
    {attempts : List (Attempt functions)} :
    EpochsKept before (run (step configured_target) before attempts) := by
  apply run_relation EpochsKept
  · exact fun state root_id old hold => ⟨old,hold,Nat.le_refl _⟩
  · intro first second third hfirst hsecond root_id old hold
    obtain ⟨middle,hmiddle,hle⟩ := hfirst root_id old hold
    obtain ⟨new,hnew,hnext⟩ := hsecond root_id middle hmiddle
    exact ⟨new,hnew,Nat.le_trans hle hnext⟩
  · exact fun state attempt => epochsKept_of_changed changed_step

section

variable {Identity : Type} {owner : Identity → Identifier} {place : Except Raised String}
  {identities later : String → Option (StoredRecord Identity)} {result_id other_id : Identifier}

/-- An identity has one owner. -/
theorem Owned.unique (h : Owned owner identities place result_id)
    (hother : Owned owner identities place other_id) : result_id=other_id := by
  obtain ⟨logical_id,stored,hplace,hstored,howner⟩ := h
  obtain ⟨other_place,other,hother_place,hother_stored,hother_owner⟩ := hother
  rw [hplace] at hother_place
  rw [← Except.ok.inj hother_place,hstored] at hother_stored
  rw [← howner,← hother_owner,Option.some.inj hother_stored]

/-- An owned identity stays owned when another one is claimed. -/
theorem Owned.kept {other_place : Except Raised String} {identity : Identity}
    (h : Owned owner identities place result_id)
    (hclaimed : IdentityClaimed other_place identities later identity) :
    Owned owner later place result_id := by
  obtain ⟨logical_id,stored,hplace,hstored,howner⟩ := h
  obtain ⟨claimed,-,hcreates⟩ := hclaimed
  exact ⟨logical_id,stored,hplace,hcreates.found_of_found hstored,howner⟩

theorem owned_of_claimed (owner : Identity → Identifier) {identity : Identity}
    (hclaimed : IdentityClaimed place identities later identity) :
    Owned owner later place (owner identity) := by
  obtain ⟨logical_id,hplace,hcreates⟩ := hclaimed
  obtain ⟨stored,hstored,hvalue,-⟩ := hcreates.2.found
  exact ⟨logical_id,stored,hplace,hstored,congrArg owner hvalue⟩

end

/-- The owned identities of a revocation stay owned when another one is claimed. -/
theorem RevocationOwned.kept {identities later : String → Option (StoredRecord EpochRevocationIdentityV1)}
    {result : EpochRevocationResultV1} {place : Except Raised String}
    {identity : EpochRevocationIdentityV1} (h : RevocationOwned identities result)
    (hclaimed : IdentityClaimed place identities later identity) : RevocationOwned later result :=
  ⟨h.request.kept hclaimed,h.idempotency.kept hclaimed,h.epoch.kept hclaimed⟩

/-- The owned identities of a fence stay owned when another one is claimed. -/
theorem FenceOwned.kept {identities later : String → Option (StoredRecord ServiceClaimReleaseIdentityV1)}
    {progress : ServiceClaimReleaseProgressV1} {place : Except Raised String}
    {identity : ServiceClaimReleaseIdentityV1} (h : FenceOwned identities progress)
    (hclaimed : IdentityClaimed place identities later identity) : FenceOwned later progress :=
  ⟨h.request.kept hclaimed,h.idempotency.kept hclaimed⟩

/-- An accepted revocation owns its identities, and so do all before it. -/
theorem identitiesOwned_of_revoked {configured_target : TargetBinding}
    {before next : Database functions} {expected : EpochRevocationState}
    {commit : EpochRevocationCommitV1} {bundle : RootCreationBundle}
    (hrevoked : EpochRevoked configured_target expected commit bundle before next)
    (h : IdentitiesOwned before) : IdentitiesOwned next := by
  obtain ⟨requested,keyed,epoch_value,identity_value,hrequest,hkey,hvalue,hidentity,hepoch⟩ :=
    hrevoked.revocation_identities
  constructor
  · intro result_id stored hfound
    rcases hrevoked.revocation_results.found_iff hfound with hold | ⟨-,hnew,-⟩
    · exact ((((h.revocations result_id stored hold).kept hrequest).kept hkey).kept hepoch)
    · have hrequested := hrevoked.accepted.request_identity
      have hkeyed := hrevoked.accepted.idempotency_identity
      rw [hnew]
      constructor
      · have howned := ((owned_of_claimed EpochRevocationIdentityV1.result_id hrequest).kept
          hkey).kept hepoch
        rw [hrequested.result_id,revocationIdentityPlace,hrequested.identity_kind,
          hrequested.identity_value,← hrevoked.accepted.result.request_id] at howned
        exact howned
      · have howned := (owned_of_claimed EpochRevocationIdentityV1.result_id hkey).kept
          hepoch
        rw [hkeyed.result_id,revocationIdentityPlace,hkeyed.identity_kind,hkeyed.identity_value,
          ← hrevoked.accepted.result.idempotency_key] at howned
        exact howned
      · have howned := owned_of_claimed EpochRevocationIdentityV1.result_id hepoch
        have hplace : epochPlace commit.result.root_id commit.result.new_epoch=
            revocationIdentityPlace (epochIdentity commit.result identity_value) := by
          rw [epochPlace,bind_of_ok hvalue,revocationIdentityPlace,epochIdentity]
          unfold logicalIdentity at hidentity
          split at hidentity
          · rw [← Except.ok.inj hidentity]
          · cases hidentity
        rw [hplace]
        exact howned
  · rw [hrevoked.release_progress,hrevoked.release_identities]
    exact h.fences

/-- An accepted fence owns its identities, and so do all before it. -/
theorem identitiesOwned_of_fenced {configured_target : TargetBinding}
    {before next : Database functions} {expected : ServiceClaimReleaseState}
    {commit : ServiceClaimReleaseFenceCommitV1} {view : FenceView}
    (hfenced : ClaimFenced configured_target expected commit view before next)
    (h : IdentitiesOwned before) : IdentitiesOwned next := by
  obtain ⟨requested,hrequest,hkey⟩ := hfenced.release_identities
  constructor
  · rw [hfenced.revocation_results,hfenced.revocation_identities]
    exact h.revocations
  · intro result_id stored hfound
    rcases hfenced.release_progress.found_iff hfound with hold | ⟨-,hnew,-⟩
    · exact ((h.fences result_id stored hold).kept hrequest).kept hkey
    · have hrequested := hfenced.accepted.request_identity
      have hkeyed := hfenced.accepted.idempotency_identity
      rw [hnew]
      constructor
      · have howned := (owned_of_claimed ServiceClaimReleaseIdentityV1.result_id
          hrequest).kept hkey
        rw [hrequested.result_id,releaseIdentityPlace,hrequested.identity_kind,
          hrequested.identity_value,← hfenced.accepted.progress.request_id] at howned
        exact howned
      · have howned := owned_of_claimed ServiceClaimReleaseIdentityV1.result_id hkey
        rw [hkeyed.result_id,releaseIdentityPlace,hkeyed.identity_kind,hkeyed.identity_value,
          ← hfenced.accepted.progress.idempotency_key] at howned
        exact howned

theorem identitiesOwned_of_changed {configured_target : TargetBinding}
    {before next : Database functions} (hchanged : Changed configured_target before next)
    (h : IdentitiesOwned before) : IdentitiesOwned next := by
  cases hchanged with
  | refused => exact h
  | created commit expected hcreated =>
    constructor
    · rw [hcreated.revocation_results,hcreated.revocation_identities]
      exact h.revocations
    · rw [hcreated.release_progress,hcreated.release_identities]
      exact h.fences
  | revoked expected commit bundle hrevoked => exact identitiesOwned_of_revoked hrevoked h
  | fenced expected commit view hfenced => exact identitiesOwned_of_fenced hfenced h
  | released expected commit view hreleased =>
    constructor
    · rw [hreleased.revocation_results,hreleased.revocation_identities]
      exact h.revocations
    · rw [hreleased.release_progress,hreleased.release_identities]
      exact h.fences
  | received written => exact ⟨h.revocations,h.fences⟩

theorem identitiesOwned_after {configured_target : TargetBinding}
    {attempts : List (Attempt functions)} : IdentitiesOwned (after configured_target attempts) := by
  apply after_invariant
  · constructor
    · intro result_id stored hfound
      rw [Database.empty,Table.find_empty] at hfound
      cases hfound
    · intro result_id stored hfound
      rw [Database.empty,Table.find_empty] at hfound
      cases hfound
  · exact fun hchanged h => identitiesOwned_of_changed hchanged h

/-- Results with one identity have one logical id. -/
theorem resultPlace_eq {first second : EpochRevocationResultV1}
    (h : first.result_id=second.result_id) :
    revocationResultFamily.logical_id first=revocationResultFamily.logical_id second := by
  simp only [revocationResultFamily,h]

/-- Progress records with one identity have one logical id. -/
theorem progressPlace_eq {first second : ServiceClaimReleaseProgressV1}
    (h : first.result_id=second.result_id) :
    releaseProgressFamily.logical_id first=releaseProgressFamily.logical_id second := by
  simp only [releaseProgressFamily,h]

theorem revocationsUnique_of_owned {database : Database functions} (h : IdentitiesOwned database) :
    RevocationsUnique database := by
  constructor
  · intro first_id second_id first second hfirst hsecond hsame
    have howned := (h.revocations second_id second hsecond).request
    rw [← hsame] at howned
    exact Table.eq_of_find hfirst hsecond (resultPlace_eq
      ((h.revocations first_id first hfirst).request.unique howned))
  · intro first_id second_id first second hfirst hsecond hsame
    have howned := (h.revocations second_id second hsecond).idempotency
    rw [← hsame] at howned
    exact Table.eq_of_find hfirst hsecond (resultPlace_eq
      ((h.revocations first_id first hfirst).idempotency.unique howned))
  · intro first_id second_id first second hfirst hsecond hroot hepoch
    have howned := (h.revocations second_id second hsecond).epoch
    rw [← hroot,← hepoch] at howned
    exact Table.eq_of_find hfirst hsecond (resultPlace_eq
      ((h.revocations first_id first hfirst).epoch.unique howned))

theorem fencesUnique_of_owned {database : Database functions} (h : IdentitiesOwned database) :
    FencesUnique database := by
  constructor
  · intro first_id second_id first second hfirst hsecond hsame
    have howned := (h.fences second_id second hsecond).request
    rw [← hsame] at howned
    exact Table.eq_of_find hfirst hsecond (progressPlace_eq
      ((h.fences first_id first hfirst).request.unique howned))
  · intro first_id second_id first second hfirst hsecond hsame
    have howned := (h.fences second_id second hsecond).idempotency
    rw [← hsame] at howned
    exact Table.eq_of_find hfirst hsecond (progressPlace_eq
      ((h.fences first_id first hfirst).idempotency.unique howned))

theorem result_kept_of_run {configured_target : TargetBinding} {before : Database functions}
    {attempts : List (Attempt functions)} {result_id : String}
    {stored : StoredRecord EpochRevocationResultV1}
    (h : before.revocation_results.find result_id=some stored) :
    (run (step configured_target) before attempts).revocation_results.find result_id=some stored := by
  have hkept : ∀ (database : Database functions) (attempt : Attempt functions),
      database.revocation_results.find result_id=some stored →
      (step configured_target database attempt).revocation_results.find result_id=some stored := by
    intro database attempt hfound
    generalize hnext : step configured_target database attempt=next
    have hchanged : Changed configured_target database next := by
      rw [← hnext]
      exact changed_step
    cases hchanged with
    | refused => exact hfound
    | created commit expected hcreated =>
      rw [hcreated.revocation_results]
      exact hfound
    | revoked expected commit bundle hrevoked =>
      exact hrevoked.revocation_results.found_of_found hfound
    | fenced expected commit view hfenced =>
      rw [hfenced.revocation_results]
      exact hfound
    | released expected commit view hreleased =>
      rw [hreleased.revocation_results]
      exact hfound
    | received written => exact hfound
  exact run_invariant hkept h

/-- The state in which an attempt of a run is made, and the state that an accepted one leaves. -/
theorem after_of_ok {configured_target : TargetBinding} {earlier later : List (Attempt functions)}
    {attempt : Attempt functions} {next : Database functions}
    (h : attempt.perform configured_target (after configured_target earlier)=.ok next) :
    after configured_target (earlier++attempt::later)=run (step configured_target) next later := by
  rw [after_append,run_cons,step_of_ok h]

/-- A root is advanced from an earlier epoch by every earlier attempt that is accepted. -/
theorem epoch_lt_of_accepted {configured_target : TargetBinding}
    {earlier between : List (Attempt functions)} {first second : Attempt functions}
    {first_next second_next : Database functions} {root_id : Identifier}
    {first_epoch second_epoch : PositiveSafeInteger}
    (hfirst : epochAdvance first=some (root_id,first_epoch))
    (hsecond : epochAdvance second=some (root_id,second_epoch))
    (hfirst_ok : first.perform configured_target (after configured_target earlier)=.ok first_next)
    (hsecond_ok : second.perform configured_target
      (after configured_target (earlier++first::between))=.ok second_next) :
    first_epoch.1 < second_epoch.1 := by
  obtain ⟨-,left,-,-,hleft,hepoch,-⟩ := epochAdvanced_of_ok hfirst hfirst_ok
  obtain ⟨found,-,hfound,hstart,-⟩ := epochAdvanced_of_ok hsecond hsecond_ok
  rw [after_of_ok hfirst_ok] at hfound
  obtain ⟨kept,hkept,hle⟩ := epochsKept_of_run root_id.1 left hleft
  rw [hkept] at hfound
  have hsame : kept.value.current_epoch=second_epoch := by
    rw [Option.some.inj hfound]
    exact hstart
  rw [hsame] at hle
  omega

theorem result_of_accepted {configured_target : TargetBinding}
    {earlier later : List (Attempt functions)} {expected : EpochRevocationState}
    {commit : EpochRevocationCommitV1} {next : Database functions}
    (h : commitEpochRevocation configured_target expected commit
      (after configured_target earlier)=.ok next) :
    ∃ stored,(after configured_target (earlier++.revoke expected commit::later)).revocation_results.find
      commit.result.result_id.1=some stored ∧ stored.value=commit.result := by
  obtain ⟨bundle,-,hrevoked⟩ := epochRevoked_of_ok h
  obtain ⟨stored,hstored,hvalue,-⟩ := hrevoked.revocation_results.2.found
  have hperform : (Attempt.revoke expected commit).perform configured_target
      (after configured_target earlier)=.ok next := h
  refine ⟨stored,?_,hvalue⟩
  rw [after_of_ok hperform]
  exact result_kept_of_run hstored

/-- Accepted revocations of one run have different results. -/
theorem results_differ {configured_target : TargetBinding}
    {earlier between : List (Attempt functions)} {first_view second_view : EpochRevocationState}
    {first second : EpochRevocationCommitV1} {first_next second_next : Database functions}
    (hfirst : commitEpochRevocation configured_target first_view first
      (after configured_target earlier)=.ok first_next)
    (hsecond : commitEpochRevocation configured_target second_view second
      (after configured_target (earlier++.revoke first_view first::between))=.ok second_next) :
    first.result≠second.result := by
  intro hsame
  obtain ⟨stored,hstored,-⟩ := result_of_accepted hfirst
  obtain ⟨bundle,-,hrevoked⟩ := epochRevoked_of_ok hsecond
  have hnone := hrevoked.revocation_results.1
  rw [← hsame,hstored] at hnone
  cases hnone

/-- In every run of attempts on one database, in any order and each from any view: the authority
of a root is one epoch ahead of its revision and names the epoch before; an accepted revocation
or fence advances its root by exactly one epoch, from an epoch that no other accepted attempt on
the root starts from; an accepted revocation has a result of its own that stays stored; and the
stored results differ in their requests, in their idempotency keys and in their epochs. -/
theorem epoch_race (configured_target : TargetBinding) (attempts : List (Attempt functions)) :
    (∀ root_id stored,(after configured_target attempts).authorities.find root_id=some stored →
      stored.revision=stored.value.revision ∧ AuthorityShape stored.value) ∧
    (∀ earlier attempt later next root_id epoch,attempts=earlier++attempt::later →
      epochAdvance attempt=some (root_id,epoch) →
      attempt.perform configured_target (after configured_target earlier)=.ok next →
      EpochAdvanced (after configured_target earlier) next root_id epoch) ∧
    (∀ earlier first between second later first_next second_next root_id first_epoch second_epoch,
      attempts=earlier++first::between++second::later →
      epochAdvance first=some (root_id,first_epoch) →
      epochAdvance second=some (root_id,second_epoch) →
      first.perform configured_target (after configured_target earlier)=.ok first_next →
      second.perform configured_target (after configured_target (earlier++first::between))=
        .ok second_next → first_epoch≠second_epoch) ∧
    (∀ earlier expected commit later next,attempts=earlier++.revoke expected commit::later →
      commitEpochRevocation configured_target expected commit (after configured_target earlier)=
        .ok next →
      ∃ stored,(after configured_target attempts).revocation_results.find
        commit.result.result_id.1=some stored ∧ stored.value=commit.result) ∧
    (∀ earlier first_view first between second_view second later first_next second_next,
      attempts=earlier++.revoke first_view first::between++.revoke second_view second::later →
      commitEpochRevocation configured_target first_view first (after configured_target earlier)=
        .ok first_next →
      commitEpochRevocation configured_target second_view second
        (after configured_target (earlier++.revoke first_view first::between))=.ok second_next →
      first.result≠second.result) ∧
    RevocationsUnique (after configured_target attempts) ∧
    FencesUnique (after configured_target attempts) := by
  refine ⟨?_,?_,?_,?_,?_,revocationsUnique_of_owned identitiesOwned_after,
    fencesUnique_of_owned identitiesOwned_after⟩
  · exact fun root_id stored hfound => ⟨revision_of_find hfound,authorityShape stored.value⟩
  · intro earlier attempt later next root_id epoch hsplit hadvance hok
    exact epochAdvanced_of_ok hadvance hok
  · intro earlier first between second later first_next second_next root_id first_epoch second_epoch
      hsplit hfirst hsecond hfirst_ok hsecond_ok hsame
    have hlt := epoch_lt_of_accepted hfirst hsecond hfirst_ok hsecond_ok
    rw [hsame] at hlt
    exact Nat.lt_irrefl _ hlt
  · intro earlier expected commit later next hsplit hok
    rw [hsplit]
    exact result_of_accepted hok
  · intro earlier first_view first between second_view second later first_next second_next hsplit
      hfirst hsecond
    exact results_differ hfirst hsecond

end ControlGraph.EpochRace
