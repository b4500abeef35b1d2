import ControlGraph.RecoverySlot

/-!
# Receipts of final denials

A denial of the last check before a dispatch closes the claim with a receipt that
names its reason. The validator of a receipt admits the reason of an epoch mismatch
only next to an observed epoch that differs from the one of the receipt. The check
gives this reason where the observed epoch is another one, and also where the rules
of a recovery source fail, which are looked at only after the observed epoch was
found to be the one of the mutation. There no receipt can be made, and the claim
stays open.
-/

namespace ControlGraph.DenialReceipts

open Checks ContractText ReceiptContracts ExecutionRequests ExecutionGate ReceiptExecution

/-- What the gate requires of the authority of a revoked or an unhealthy source. -/
def SourceAgrees (source : RecoverySource) (apply_epoch : PositiveSafeInteger)
    (authority : EpochAuthorityRecord) : Prop :=
  (∀ revoked∈source.revokedAuthority,authority=revoked ∧
    authority.cause=.operatorRevocation ∧ authority.previous_epoch=some apply_epoch) ∧
  (source=.unhealthy → apply_epoch=authority.current_epoch)

variable (functions : ContractFunctions)

/-- The last check found the authority of the mutation and all windows open, which leaves
the rules of derived work to be looked at. -/
structure WorkReached (gate : FinalMutationGate) (verified : VerifiedMutation)
    (snapshot : Option RootAuthorityBundle) (now_second : Int) (state : TrustedRootAuthority) :
    Prop where
  read : ∃ bundle,snapshot=some bundle ∧
    inspectRootAuthorityBundle functions gate.target bundle=some state
  caller : finalCallerDenial gate.route_policy verified now_second=.ok ()
  epoch : coherentAuthorityEpoch functions gate.target verified snapshot=
    some verified.request.intent.epoch
  active : state.service_claim_revision%3=0 ∧ state.service_claim.status=.active ∧
    state.authority.changed_at.1 ≤ verified.earliest_lineage_issued_at
  begun : verified.request.capability.not_before.1 ≤ now_second ∧
    verified.request.scheduled_at.1 ≤ now_second
  unexpired : now_second < verified.request.capability.expires_at.1 ∧
    now_second < verified.request.expires_at.1

/-- A recovery of the root is looked at whose source does not agree with the authority. -/
def SourceRefused (gate : FinalMutationGate) (verified : VerifiedMutation)
    (snapshot : Option RootAuthorityBundle) (now_second : Int) : Prop :=
  ∃ state work source,WorkReached functions gate verified snapshot now_second state ∧
    verified.request.kind=.recovery work source ∧
    functions.recoveryRequestMatchesRoot verified.request verified.root=true ∧
    ¬SourceAgrees source work.apply_epoch state.authority

variable {functions} {gate : FinalMutationGate} {verified : VerifiedMutation}
  {snapshot : Option RootAuthorityBundle} {now_second : Int}

/-- The rules of a source give one reason, and give it where the source does not agree. -/
theorem recoverySourceDenial_eq_error {source : RecoverySource}
    {apply_epoch : PositiveSafeInteger} {authority : EpochAuthorityRecord} {reason : ReasonCode} :
    recoverySourceDenial source apply_epoch authority=.error reason ↔
      ¬SourceAgrees source apply_epoch authority ∧ reason=.epochMismatch := by
  unfold recoverySourceDenial
  rw [bind_eq_error,require_eq_error]
  simp only [require_eq_ok,require_eq_error,exists_const]
  constructor
  · rintro (⟨hrevoked,hreason⟩ | ⟨-,hunhealthy,hreason⟩)
    · exact ⟨fun hagrees => hrevoked hagrees.1,hreason⟩
    · exact ⟨fun hagrees => hunhealthy hagrees.2,hreason⟩
  · rintro ⟨hrefused,hreason⟩
    by_cases hrevoked : ∀ revoked∈source.revokedAuthority,authority=revoked ∧
        authority.cause=.operatorRevocation ∧ authority.previous_epoch=some apply_epoch
    · exact .inr ⟨hrevoked,fun hunhealthy => hrefused ⟨hrevoked,hunhealthy⟩,hreason⟩
    · exact .inl ⟨hrevoked,hreason⟩

/-- The rules of derived work give the reason of a mismatch only for a source that does
not agree. -/
theorem derivedWorkDenial_mismatch {authority : EpochAuthorityRecord} :
    derivedWorkDenial functions verified authority now_second=.error .epochMismatch ↔
      ∃ work source,verified.request.kind=.recovery work source ∧
        functions.recoveryRequestMatchesRoot verified.request verified.root=true ∧
        ¬SourceAgrees source work.apply_epoch authority := by
  unfold derivedWorkDenial
  cases hkind : verified.request.kind with
  | task => simp only [reduceCtorEq,false_and,exists_false]
  | promotion work =>
    simp only [bind_eq_error,require_eq_error,reduceCtorEq,and_false,exists_false,or_self,
      false_and]
  | recovery work source =>
    simp only [bind_eq_error,require_eq_error,require_eq_ok,recoverySourceDenial_eq_error,
      reduceCtorEq,and_false,false_or,exists_const,or_false,and_true,RequestKind.recovery.injEq]
    constructor
    · rintro ⟨hroot,hrefused⟩
      exact ⟨work,source,⟨rfl,rfl⟩,hroot,hrefused⟩
    · rintro ⟨work,source,⟨rfl,rfl⟩,hroot,hrefused⟩
      exact ⟨hroot,hrefused⟩

/-- The last check gives the reason of a mismatch where another epoch was observed, or
where a source is refused. -/
theorem observed_of_mismatch
    (h : finalAuthorityDenial functions gate verified snapshot now_second=.error .epochMismatch) :
    (∃ observed,coherentAuthorityEpoch functions gate.target verified snapshot=some observed ∧
      observed≠verified.request.intent.epoch) ∨
        SourceRefused functions gate verified snapshot now_second := by
  unfold finalAuthorityDenial finalCallerDenial at h
  simp only [bind_eq_error,require_eq_error,require_eq_ok,requireSome_eq_error,
    requireSome_eq_ok,reduceCtorEq,and_false,false_or,or_false,exists_const,and_true] at h
  obtain ⟨bundle,hbundle,state,hstate,hcaller,observed,hobserved,h⟩ := h
  rcases h with hdiffers | ⟨hsame,hactive,hbegun,hunexpired,hwork⟩
  · exact .inl ⟨observed,hobserved,hdiffers⟩
  · rw [hsame] at hobserved
    obtain ⟨work,source,hkind,hroot,hrefused⟩ := derivedWorkDenial_mismatch.mp hwork
    exact .inr ⟨state,work,source,⟨⟨bundle,hbundle,hstate⟩,require_of hcaller,hobserved,hactive,
      hbegun,hunexpired⟩,hkind,hroot,hrefused⟩

/-- A refused source ends the last check with the reason of a mismatch. -/
theorem mismatch_of_refused (h : SourceRefused functions gate verified snapshot now_second) :
    finalAuthorityDenial functions gate verified snapshot now_second=.error .epochMismatch := by
  obtain ⟨state,work,source,hreached,hkind,hroot,hrefused⟩ := h
  obtain ⟨bundle,hbundle,hstate⟩ := hreached.read
  have hwork : derivedWorkDenial functions verified state.authority now_second=
      .error .epochMismatch :=
    derivedWorkDenial_mismatch.mpr ⟨work,source,hkind,hroot,hrefused⟩
  unfold finalAuthorityDenial
  rw [bind_of_ok (requireSome_eq_ok.mpr hbundle),bind_of_ok (requireSome_eq_ok.mpr hstate),
    bind_of_ok hreached.caller,bind_of_ok (requireSome_eq_ok.mpr hreached.epoch),
    bind_of_ok (require_of rfl),bind_of_ok (require_of hreached.active),
    bind_of_ok (require_of hreached.begun),bind_of_ok (require_of hreached.unexpired),hwork]
  rfl

/-- The receipt of a denial of a claim can be made exactly when a mismatch comes with
another epoch. -/
theorem deniedReceipt_made {claimed : StoredRecord ExecutionReceipt} {reason : ReasonCode}
    {observed : Option PositiveSafeInteger} {updated_at : UtcSecond}
    (hclaimed : claimed.value.outcome=.claimed)
    (htime : claimed.value.created_at.1 ≤ updated_at.1) :
    (∃ receipt,deniedReceipt ⟨reason,claimed,observed⟩ updated_at=.ok receipt) ↔
      (reason=.epochMismatch → observed≠none ∧ observed≠some claimed.value.epoch) := by
  have haccepted := claimed.value.accepted
  simp only [validateOutcomeShape,check_bind_eq_ok,require_eq_ok] at haccepted
  obtain ⟨hlength,-,hdeadline,-,-,-,hshape,-,-,-,-,-,hunique⟩ := haccepted
  obtain ⟨hoperation,hetag,-⟩ := hshape hclaimed
  have hmade : ∀ fields : ExecutionReceiptFields,
      (∃ receipt,makeReceipt fields=.ok receipt) ↔ validateOutcomeShape fields=.ok () := by
    intro fields
    unfold makeReceipt
    split
    · rename_i haccepted
      exact ⟨fun _ => haccepted,fun _ => ⟨_,rfl⟩⟩
    · rename_i hrefused
      rw [hrefused]
      simp only [reduceCtorEq,exists_false]
  rw [deniedReceipt,hmade]
  simp only [validateOutcomeShape,check_bind_eq_ok,require_eq_ok,needsReason,hoperation,hetag,
    Option.isSome_some,Option.some.injEq,reduceCtorEq,false_implies,ne_eq,not_true_eq_false]
  constructor
  · intro h
    exact h.2.2.2.2.2.2.2.2.2.2.1
  · intro hmismatch
    exact ⟨hlength,htime,hdeadline,require_of rfl,trivial,trivial,trivial,
      fun _ => ⟨trivial,trivial⟩,trivial,trivial,hmismatch,trivial,hunique⟩

/-- A denial of the last check closes the claim of its mutation exactly when no source
of a recovery was refused. -/
theorem denial_closes_iff {reason : ReasonCode} {claimed : StoredRecord ExecutionReceipt}
    {updated_at : UtcSecond}
    (hdenied : finalAuthorityDenial functions gate verified snapshot now_second=.error reason)
    (hclaimed : claimed.value.outcome=.claimed)
    (hepoch : claimed.value.epoch=verified.request.intent.epoch)
    (htime : claimed.value.created_at.1 ≤ updated_at.1) :
    (∃ receipt,deniedReceipt ⟨reason,claimed,
        coherentAuthorityEpoch functions gate.target verified snapshot⟩ updated_at=.ok receipt) ↔
      ¬SourceRefused functions gate verified snapshot now_second := by
  rw [deniedReceipt_made hclaimed htime,hepoch]
  constructor
  · rintro hmade ⟨state,work,source,hreached,hrule⟩
    have hmismatch := mismatch_of_refused ⟨state,work,source,hreached,hrule⟩
    rw [hdenied] at hmismatch
    exact (hmade (Except.error.inj hmismatch)).2 hreached.epoch
  · rintro hagrees rfl
    rcases observed_of_mismatch hdenied with ⟨observed,hobserved,hdiffers⟩ | hrefused
    · rw [hobserved]
      exact ⟨Option.some_ne_none _,fun hsame => hdiffers (Option.some.inj hsame)⟩
    · exact absurd hrefused hagrees

def sampleRecovery : VerifiedMutation :=
  {OrphanGrace.sampleVerified with
    request := {OrphanGrace.sampleVerified.request with
      kind := .recovery
        { expected_prestate_sha256 := StorageIdentity.zeroSha256
          desired_poststate_sha256 := StorageIdentity.zeroSha256
          proof_valid_until := OrphanGrace.sampleVerified.request.expires_at
          apply_idempotency_key := OrphanGrace.sampleIntent.idempotency_key
          apply_epoch := firstEpoch }
        (.revokedV2 RecoverySlot.sampleRevokedAuthority)
      intent := {OrphanGrace.sampleIntent with
        epoch := RecoverySlot.secondEpoch
        action := .recoverStable }}
    caller := {OrphanGrace.sampleVerified.caller with role := .recovery }}

def sampleRecoveryGate : FinalMutationGate where
  target := OrphanGrace.sampleGate.target
  service_role := .executor
  route_policy := {OrphanGrace.sampleGate.route_policy with role := .recovery }
  mutation_purpose := .stableRecovery
  has_source_receipt_reader := false
  executor := rfl
  caller := rfl

/-- Contract functions under which the sample recovery matches its root. -/
def recoveringFunctions : ContractFunctions :=
  {OrphanGrace.sampleFunctions with recoveryRequestMatchesRoot := fun _ _ => true}

/-- The authority of the second epoch, set by another request. -/
def otherAuthority : EpochAuthorityRecord :=
  {RecoverySlot.sampleRevokedAuthority with
    request_id := OrphanGrace.sampleIntent.request_id
    accepted := RecoverySlot.sampleRevokedAuthority.accepted }

/-- The bundle of the sample root with an authority of the second epoch. -/
def bundleWith (authority : EpochAuthorityRecord) : RootAuthorityBundle :=
  {OrphanGrace.sampleBundle with authority := ⟨authority,1,one_revision⟩}

def sampleClaim : ExecutionReceipt :=
  {RecoverySlot.sampleClaimedReceipt with
    epoch := RecoverySlot.secondEpoch
    action := .recoverStable
    accepted := RecoverySlot.sampleClaimedReceipt.accepted }

/-- The epoch of the other authority is the one of the recovery, and the check denies it
as a mismatch. -/
theorem otherAuthority_denied :
    finalAuthorityDenial recoveringFunctions sampleRecoveryGate sampleRecovery
        (some (bundleWith otherAuthority)) 1000=.error .epochMismatch ∧
      coherentAuthorityEpoch recoveringFunctions sampleRecoveryGate.target sampleRecovery
        (some (bundleWith otherAuthority))=some sampleClaim.epoch :=
  ⟨rfl,rfl⟩

/-- Not every denial closes its claim: a recovery may be denied as a mismatch under its
own epoch. -/
theorem denial_left_open : ¬∀ (functions : ContractFunctions) (gate : FinalMutationGate)
    (verified : VerifiedMutation) (snapshot : Option RootAuthorityBundle) (now_second : Int)
    (reason : ReasonCode) (claimed : StoredRecord ExecutionReceipt) (updated_at : UtcSecond),
    finalAuthorityDenial functions gate verified snapshot now_second=.error reason →
    claimed.value.outcome=.claimed → claimed.value.epoch=verified.request.intent.epoch →
    claimed.value.created_at.1 ≤ updated_at.1 →
    ∃ receipt,deniedReceipt ⟨reason,claimed,
      coherentAuthorityEpoch functions gate.target verified snapshot⟩ updated_at=.ok receipt := by
  intro h
  obtain ⟨hdenied,hepoch⟩ := otherAuthority_denied
  obtain ⟨receipt,hmade⟩ := h _ _ _ _ _ _ (OrphanGrace.firstRevision sampleClaim)
    sampleClaim.created_at hdenied rfl rfl (le_refl _)
  rw [hepoch] at hmade
  cases hmade

/-- The authority of the first epoch is denied to the sample recovery, and its claim is
closed exactly when no source was refused. -/
theorem denial_closes_first_epoch :
    (∃ receipt,deniedReceipt ⟨.epochMismatch,OrphanGrace.firstRevision sampleClaim,
        coherentAuthorityEpoch recoveringFunctions sampleRecoveryGate.target sampleRecovery
          (some OrphanGrace.sampleBundle)⟩ sampleClaim.created_at=.ok receipt) ↔
      ¬SourceRefused recoveringFunctions sampleRecoveryGate sampleRecovery
        (some OrphanGrace.sampleBundle) 1000 :=
  denial_closes_iff rfl rfl rfl (le_refl _)

end ControlGraph.DenialReceipts
