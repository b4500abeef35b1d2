import ControlGraph.OrphanGrace
import ControlGraph.RecoveryCoordination

/-!
# The recovery slot of a root

The one intent of a root is its recovery slot. A call of the coordinator takes the
slot for its command before it checks the command. A command that is refused for
its own reasons therefore keeps the slot: the stores gain its intent and nothing
else, every other command of the root is refused from then on, and the same command
may be prepared by a later call.
-/

namespace ControlGraph.RecoverySlot

open Checks ContractText RecoveryContracts ExecutionRequests RecoveryDispatchStore
  RecoveryResolution RecoveryCoordination

open ReceiptContracts hiding ServiceClaimRecord

open ReceiptStore (StoreError)

variable {functions : RecoveryServiceFunctions} {configuration : ResolverConfiguration}
variable {command other : RecoveryCommandV2} {stores after : Documents functions}

def intentDocument (own : RecoveryIntentV1 functions.recovery) :
    StoredIntent functions.toHealthStoreFunctions :=
  ⟨own,0,Nat.zero_le _⟩

/-- The stores with the intent that owns their root. -/
def claimedStores (own : RecoveryIntentV1 functions.recovery) (stores : Documents functions) :
    Documents functions :=
  stores.putIntent (intentDocument own)

/-- A command that is refused for its own reasons: its intent, if one can be made of it,
does not get an authorization. -/
def Denied (functions : RecoveryServiceFunctions) (configuration : ResolverConfiguration)
    (command : RecoveryCommandV2) (answers : PreparationAnswers functions)
    (stores : Documents functions) : Prop :=
  ∀ own,createRecoveryIntent functions command command.source.triggered_at=.ok own →
    ∃ code,authorizeDispatch functions configuration command answers
      (claimedStores own stores)=.error code

/-- What a held slot means to later calls. -/
structure HoldsSlot (functions : RecoveryServiceFunctions) (configuration : ResolverConfiguration)
    (own : RecoveryIntentV1 functions.recovery) (stores : Documents functions) : Prop where
  /-- A call for another command changes nothing and fails. -/
  unchanged : ∀ other answers,other.expected_root_sha256=own.root_sha256 → other≠own.command →
    ∃ code,dispatch functions configuration other answers stores=(stores,.error code)
  /-- A call for another command that reads the intent finds a conflict. -/
  conflict : ∀ other answers,other.expected_root_sha256=own.root_sha256 → other≠own.command →
    answers.claim.failure=none →
    dispatch functions configuration other answers stores=(stores,.error .identityConflict)
  /-- A call for the same command goes on as the owner of the slot. -/
  owned : ∀ answers,answers.claim.failure=none →
    dispatch functions configuration own.command answers stores=
      dispatchOwned functions configuration own.command answers (intentDocument own) stores

/-- An accepted intent repeats the root and the digest of its command. -/
theorem intent_repeats (own : RecoveryIntentV1 functions.recovery) :
    own.root_sha256=own.command.expected_root_sha256 ∧
      own.command_sha256=recoveryCommandSha256 functions.recovery own.command := by
  have haccepted : validateIntent functions.recovery own.fields=.ok () := own.accepted
  rw [validateIntent,check_bind_eq_ok,require_eq_ok] at haccepted
  exact ⟨haccepted.2.2.2.2.1,haccepted.2.2.1⟩

theorem createRecoveryIntent_eq_ok {created_at : UtcSecond}
    {own : RecoveryIntentV1 functions.recovery}
    (h : createRecoveryIntent functions command created_at=.ok own) :
    own.command=command := by
  rw [createRecoveryIntent,bind_eq_ok] at h
  obtain ⟨intent_id,-,h⟩ := h
  simp only at h
  split at h
  · rw [← Except.ok.inj h]
    rfl
  · cases h

theorem intent_id_eq (own : RecoveryIntentV1 functions.recovery) :
    own.intent_id.1=recoveryIntentId functions.recovery own.root_sha256 := by
  have haccepted : validateIntent functions.recovery own.fields=.ok () := own.accepted
  rw [validateIntent,check_bind_eq_ok,require_eq_ok] at haccepted
  exact haccepted.2.1

/-- A prepared document of an intent is its first one, and its target is configured. -/
theorem preparedIntent_eq_ok {target : TargetBinding} {own : RecoveryIntentV1 functions.recovery}
    {document : StoredIntent functions.toHealthStoreFunctions}
    (h : preparedIntent target own=.ok document) :
    document=intentDocument own ∧ own.command.source.target=target ∧
      isRevoked own.command.source=true := by
  rw [preparedIntent,check_bind_eq_ok,require_eq_ok] at h
  obtain ⟨⟨hrevoked,htarget⟩,h⟩ := h
  rw [check_bind_eq_ok,check_bind_eq_ok] at h
  obtain ⟨-,-,h⟩ := h
  obtain ⟨hvalue,hrevision⟩ := StoredRecord.make_eq_ok h
  obtain ⟨value,revision,bound⟩ := document
  cases hvalue
  cases hrevision
  exact ⟨rfl,htarget,hrevoked⟩

/-- A create at a free root leaves the stores or adds the first document of its intent. -/
theorem createOrAdopt_fst {target : TargetBinding} {own : RecoveryIntentV1 functions.recovery}
    (report : WriteReport functions.toHealthStoreFunctions) :
    (createOrAdoptRecoveryIntent target own report stores).1=stores ∨
      (createOrAdoptRecoveryIntent target own report stores).1=claimedStores own stores ∧
        own.command.source.target=target := by
  unfold createOrAdoptRecoveryIntent
  cases hprepared : preparedIntent target own with
  | error raised => exact Or.inl rfl
  | ok document =>
    obtain ⟨hdocument,htarget,-⟩ := preparedIntent_eq_ok hprepared
    rcases (runWrite_fst : (runWrite (createIntent target document) report.commit stores).1=stores
        ∨ _) with hsame | hwritten
    · exact Or.inl hsame
    · rw [createIntent,bind_eq_ok] at hwritten
      obtain ⟨current,-,hwritten⟩ := hwritten
      cases current with
      | some found =>
        simp only at hwritten
        split at hwritten <;> cases hwritten
      | none =>
        refine Or.inr ⟨?_,htarget⟩
        rw [claimedStores,← hdocument]
        exact (Except.ok.inj hwritten).symm

theorem readRecoveryIntent_claimed {target : TargetBinding}
    {own : RecoveryIntentV1 functions.recovery} (htarget : own.command.source.target=target) :
    readRecoveryIntent target own.root_sha256 (claimedStores own stores)=
      .ok (some (intentDocument own)) := by
  have hstored : (claimedStores own stores).records.intents own.root_sha256=
      some (intentDocument own) := Function.update_self _ _ _
  have hread : transactionReadIntent target own.root_sha256
      (recoveryIntentId functions.recovery own.root_sha256) (claimedStores own stores)=
        .ok (some (intentDocument own)) := by
    rw [transactionReadIntent,hstored]
    exact if_pos ⟨rfl,intent_id_eq own,htarget⟩
  have hroot : ∀ stored∈some (intentDocument own),stored.value.root_sha256=own.root_sha256 := by
    intro stored hstored
    rw [← Option.some.inj hstored]
    rfl
  rw [readRecoveryIntent,hread]
  exact bind_of_ok (require_of hroot)

theorem readRecoveryIntent_free {target : TargetBinding} {root_sha256 : Sha256Digest}
    (free : stores.records.intents root_sha256=none) :
    readRecoveryIntent target root_sha256 stores=.ok none := by
  have hread : transactionReadIntent target root_sha256
      (recoveryIntentId functions.recovery root_sha256) stores=.ok none := by
    rw [transactionReadIntent,free]
  have hroot : ∀ stored∈(none : Option (StoredIntent functions.toHealthStoreFunctions)),
      stored.value.root_sha256=root_sha256 := by
    intro stored hstored
    cases hstored
  rw [readRecoveryIntent,hread]
  exact (bind_of_ok rfl).trans (bind_of_ok (require_of hroot))

theorem validateOwnedIntent_eq_ok {stored intent : StoredIntent functions.toHealthStoreFunctions}
    (h : validateOwnedIntent functions configuration command stored=.ok intent) :
    intent=stored ∧ stored.value.command=command := by
  rw [validateOwnedIntent,check_bind_eq_ok,require_eq_ok] at h
  exact ⟨(Except.ok.inj h.2).symm,h.1.1.2.1⟩

theorem validateOwnedIntent_own {own : RecoveryIntentV1 functions.recovery}
    (htarget : own.command.source.target=configuration.target) :
    validateOwnedIntent functions configuration own.command (intentDocument own)=
      .ok (intentDocument own) :=
  bind_of_ok (require_of ⟨⟨rfl,rfl,(intent_repeats own).2⟩,(intent_repeats own).1,htarget⟩)

theorem validateOwnedIntent_other {stored : StoredIntent functions.toHealthStoreFunctions}
    (hne : command≠stored.value.command) :
    validateOwnedIntent functions configuration command stored=.error .identityConflict := by
  have hrefused : ¬(OwnsCommand stored command ∧
      stored.value.root_sha256=command.expected_root_sha256 ∧
      stored.value.command.source.target=configuration.target) := fun h => hne h.1.2.1.symm
  rw [validateOwnedIntent,require,if_neg hrefused]
  rfl

theorem claimedIntent_eq_ok {uncertain : Option StoreError}
    {stored : Except StoreError (StoredIntent functions.toHealthStoreFunctions)}
    {intent : StoredIntent functions.toHealthStoreFunctions}
    (h : claimedIntent functions configuration command uncertain after stored=.ok intent) :
    intent.value.command=command := by
  unfold claimedIntent at h
  split at h
  · obtain ⟨hsame,howned⟩ := validateOwnedIntent_eq_ok h
    rw [hsame,howned]
  · cases h
  · split at h
    · obtain ⟨hsame,howned⟩ := validateOwnedIntent_eq_ok h
      rw [hsame,howned]
    · cases h
  · cases h
  · cases h

/-- The claim of a free slot leaves the stores or adds the intent of its command. An
intent that it returns is one of the command. -/
theorem ownedIntent_free {answers : ClaimAnswers functions}
    (free : stores.records.intents command.expected_root_sha256=none) :
    ((ownedIntent functions configuration command answers stores).1=stores ∨
      ∃ own,createRecoveryIntent functions command command.source.triggered_at=.ok own ∧
        own.command.source.target=configuration.target ∧
        (ownedIntent functions configuration command answers stores).1=claimedStores own stores) ∧
    ∀ intent,(ownedIntent functions configuration command answers stores).2=.ok intent →
      intent.value.command=command ∧
        ∃ own,createRecoveryIntent functions command command.source.triggered_at=.ok own := by
  have hread : readRecoveryIntent configuration.target command.expected_root_sha256 stores=
      .ok none := readRecoveryIntent_free free
  unfold ownedIntent intentRead
  cases answers.failure with
  | some raised => exact ⟨Or.inl rfl,fun intent h => nomatch h⟩
  | none =>
    simp only [hread]
    split
    · exact ⟨Or.inl rfl,fun intent h => nomatch h⟩
    · cases hproposed : createRecoveryIntent functions command command.source.triggered_at with
      | error raised => exact ⟨Or.inl rfl,fun intent h => nomatch h⟩
      | ok own =>
        refine ⟨?_,fun intent h => ⟨claimedIntent_eq_ok h,own,rfl⟩⟩
        have hcreate : (createOrAdoptRecoveryIntent configuration.target own answers.report
              stores).1=stores ∨ _ :=
          createOrAdopt_fst answers.report
        rcases hcreate with hsame | ⟨hclaimed,htarget⟩
        · exact Or.inl hsame
        · exact Or.inr ⟨own,rfl,htarget,hclaimed⟩

/-- A claim of a free slot that is written returns the intent of its command. -/
theorem ownedIntent_confirmed {answers : ClaimAnswers functions}
    {own : RecoveryIntentV1 functions.recovery}
    (free : stores.records.intents own.root_sha256=none)
    (hown : createRecoveryIntent functions own.command own.command.source.triggered_at=.ok own)
    (hprepared : preparedIntent configuration.target own=.ok (intentDocument own))
    (hfailure : answers.failure=none) (hcommit : answers.report.commit=.confirmed) :
    ownedIntent functions configuration own.command answers stores=
      (claimedStores own stores,.ok (intentDocument own)) := by
  obtain ⟨-,htarget,hrevoked⟩ := preparedIntent_eq_ok hprepared
  have hcreate : createIntent configuration.target (intentDocument own) stores=
      .ok (claimedStores own stores) := by
    have hread : transactionReadIntent configuration.target (intentDocument own).value.root_sha256
        (intentDocument own).value.intent_id.1 stores=.ok none := by
      rw [transactionReadIntent,show stores.records.intents
        (intentDocument own).value.root_sha256=none from free]
    rw [createIntent,hread]
    rfl
  have hwrite : createOrAdoptRecoveryIntent configuration.target own answers.report stores=
      (claimedStores own stores,.ok (intentDocument own)) := by
    simp only [createOrAdoptRecoveryIntent,hprepared,runWrite,hcommit,hcreate,createResult]
  have hread : readRecoveryIntent configuration.target own.command.expected_root_sha256 stores=
      .ok none := by
    rw [← (intent_repeats own).1]
    exact readRecoveryIntent_free free
  cases hsource : own.command.source with
  | unhealthy source =>
    rw [hsource] at hrevoked
    cases hrevoked
  | revokedV2 source =>
    rw [hsource] at hown
    simp only [ownedIntent,intentRead,hfailure,hread,hsource,hown,hwrite,claimedIntent,
      validateOwnedIntent_own htarget]
  | revokedV3 source =>
    rw [hsource] at hown
    simp only [ownedIntent,intentRead,hfailure,hread,hsource,hown,hwrite,claimedIntent,
      validateOwnedIntent_own htarget]

/-- Without the intent of its root a command gets no authorization. -/
theorem authorizeDispatch_free {answers : PreparationAnswers functions}
    (free : stores.records.intents command.expected_root_sha256=none) :
    ∃ code,authorizeDispatch functions configuration command answers stores=.error code := by
  cases hresult : authorizeDispatch functions configuration command answers stores with
  | error code => exact ⟨code,rfl⟩
  | ok prepared =>
    rw [authorizeDispatch,bind_eq_ok] at hresult
    obtain ⟨authorization,hresolve,-⟩ := hresult
    rw [resolve,bind_eq_ok] at hresolve
    obtain ⟨initial,hinitial,-⟩ := hresolve
    rw [readInputs,check_bind_eq_ok,bind_eq_ok] at hinitial
    obtain ⟨-,intent,hintent,hinitial⟩ := hinitial
    rw [bind_eq_ok] at hinitial
    obtain ⟨trusted,-,hinitial⟩ := hinitial
    rw [bind_eq_ok] at hinitial
    obtain ⟨owned,howned,-⟩ := hinitial
    rw [mapError_eq_ok,readRecoveryIntent,transactionReadIntent,free,bind_eq_ok] at hintent
    obtain ⟨found,hfound,hintent⟩ := hintent
    rw [check_bind_eq_ok] at hintent
    rw [← Except.ok.inj hintent.2,← Except.ok.inj hfound,requireSome_eq_ok] at howned
    cases howned

theorem dispatchRead_claimed {own : RecoveryIntentV1 functions.recovery}
    {failure : Option StoreError} :
    dispatchRead functions configuration command failure (claimedStores own stores)=
      dispatchRead functions configuration command failure stores := rfl

theorem dispatchRead_none {failure : Option StoreError}
    (h : dispatchRead functions configuration command none stores=.ok none) :
    dispatchRead functions configuration command failure stores=.ok none ∨
      ∃ code,dispatchRead functions configuration command failure stores=.error code := by
  cases failure with
  | none => exact Or.inl h
  | some raised => exact Or.inr ⟨_,rfl⟩

/-- A denied command gets no dispatch, and its owner changes nothing. -/
theorem dispatchOwned_denied {answers : DispatchAnswers functions}
    {intent : StoredIntent functions.toHealthStoreFunctions} {code : RecoveryExecutionErrorCode}
    (howned : intent.value.command=command)
    (hundispatched : dispatchRead functions configuration command none stores=.ok none)
    (hdenied : authorizeDispatch functions configuration command answers.preparation stores=
      .error code) :
    (∃ raised,dispatchOwned functions configuration command answers intent stores=
      (stores,.error raised)) ∧
    (answers.read_failure=none →
      dispatchOwned functions configuration command answers intent stores=(stores,.error code)) := by
  have hprepare : prepare functions configuration intent answers.preparation stores=
      (stores,.error code) := by
    rw [prepare,howned,hdenied]
  have hreads : dispatchRead functions configuration command answers.read_failure stores=.ok none ∨
      ∃ raised,dispatchRead functions configuration command answers.read_failure stores=
        .error raised := dispatchRead_none hundispatched
  rcases hreads with hread | ⟨raised,hread⟩
  · have hsame : dispatchOwned functions configuration command answers intent stores=
        (stores,.error code) := by
      simp only [dispatchOwned,hread,hprepare]
    exact ⟨⟨code,hsame⟩,fun _ => hsame⟩
  · refine ⟨⟨raised,by simp only [dispatchOwned,hread]⟩,fun hnone => ?_⟩
    rw [hnone,hundispatched] at hread
    cases hread

theorem holdsSlot_claimed {own : RecoveryIntentV1 functions.recovery}
    (htarget : own.command.source.target=configuration.target) :
    HoldsSlot functions configuration own (claimedStores own stores) := by
  have hread : readRecoveryIntent configuration.target own.root_sha256 (claimedStores own stores)=
      .ok (some (intentDocument own)) := readRecoveryIntent_claimed htarget
  have hconflict : ∀ other answers,other.expected_root_sha256=own.root_sha256 →
      other≠own.command → answers.claim.failure=none →
      dispatch functions configuration other answers (claimedStores own stores)=
        (claimedStores own stores,.error .identityConflict) := by
    intro other answers hroot hne hfailure
    have howned : ownedIntent functions configuration other answers.claim
        (claimedStores own stores)=(claimedStores own stores,.error .identityConflict) := by
      simp only [ownedIntent,intentRead,hfailure,hroot,hread]
      rw [validateOwnedIntent_other (show other≠(intentDocument own).value.command from hne)]
    rw [dispatch,howned]
  refine ⟨?_,hconflict,?_⟩
  · intro other answers hroot hne
    cases hfailure : answers.claim.failure with
    | none => exact ⟨.identityConflict,hconflict other answers hroot hne hfailure⟩
    | some raised =>
      refine ⟨storeFailure raised,?_⟩
      simp only [dispatch,ownedIntent,intentRead,hfailure]
  · intro answers hfailure
    have howned : ownedIntent functions configuration own.command answers.claim
        (claimedStores own stores)=(claimedStores own stores,.ok (intentDocument own)) := by
      simp only [ownedIntent,intentRead,hfailure,← (intent_repeats own).1,hread,
        validateOwnedIntent_own htarget]
    rw [dispatch,howned]

section

open OrphanGrace ReceiptLifecycle StorageIdentity RootContracts RevocationContracts ReleaseContracts

def samplePlanSha256 : Sha256Digest := ⟨String.ofList (List.replicate 64 '1'),isSha256_one⟩

/-- The epoch after the revocation of the sample root. -/
def secondEpoch : PositiveSafeInteger := ⟨2,two_safe⟩

def sampleRevokedAuthority : EpochAuthorityRecord where
  root_id := sampleRoot.root_id
  root_sha256 := zeroSha256
  target := sampleTarget
  current_epoch := secondEpoch
  previous_epoch := some firstEpoch
  revision := 1
  cause := .operatorRevocation
  changed_by := sampleAuthority.changed_by
  request_id := sampleAuthority.request_id
  evidence_id := sampleAuthority.evidence_id
  changed_at := sampleSecond 850 (by omega)
  accepted := by
    simp only [validateTransitionShape,check_bind_eq_ok,require_eq_ok]
    decide

def sampleSubject : GoogleSubject := ⟨"100001",firstSubject⟩

def sampleReason : ShortText := ⟨"withdrawn",by decide⟩

def sampleRevocation : EpochRevocationProofV1 where
  authority := sampleRevokedAuthority
  signed_evidence := {
    event := {
      evidence_id := sampleAuthority.evidence_id
      sequence := 1
      root_id := sampleRoot.root_id
      root_sha256 := zeroSha256
      target := sampleTarget
      epoch := secondEpoch
      kind := .epochAdvanced
      actor := sampleAuthority.changed_by
      request_id := none
      receipt_id := none
      occurred_at := sampleSecond 850 (by omega)
      subject_sha256 := zeroSha256
      previous_event_sha256 := some zeroSha256
      reason_code := none
      provider_operation := none
      target_configuration_sha256 := none
      accepted := by decide }
    signing_key_version := "1"
    signature := "" }
  result := {
    result_id := sampleIntent.request_id
    request_sha256 := zeroSha256
    request_id := sampleAuthority.request_id
    idempotency_key := sampleAuthority.request_id
    root_id := sampleRoot.root_id
    root_sha256 := zeroSha256
    target := sampleTarget
    operator_identity := sampleAuthority.changed_by
    operator_subject := sampleSubject
    reason := sampleReason
    previous_epoch := firstEpoch
    new_epoch := secondEpoch
    evidence_id := sampleAuthority.evidence_id
    evidence_sha256 := zeroSha256
    evidence_subject := {
      root_id := sampleRoot.root_id
      root_sha256 := zeroSha256
      request_sha256 := zeroSha256
      request_id := sampleAuthority.request_id
      idempotency_key := sampleAuthority.request_id
      operator_identity := sampleAuthority.changed_by
      operator_subject := sampleSubject
      reason := sampleReason
      service_claim_sha256 := zeroSha256
      previous_authority_sha256 := zeroSha256
      replacement_authority_sha256 := zeroSha256
      previous_epoch := firstEpoch
      new_epoch := secondEpoch
      evidence_id := sampleAuthority.evidence_id
      committed_at := sampleSecond 850 (by omega)
      transition := rfl }
    committed_at := sampleSecond 850 (by omega) }
  audit := ""

def sampleCommand (request_id : Identifier) : RecoveryCommandV2 where
  root_id := sampleRoot.root_id
  expected_root_sha256 := zeroSha256
  expected_epoch := secondEpoch
  request_id := request_id
  idempotency_key := request_id
  scheduled_at := sampleSecond 1000 second_1000
  verified_apply_receipt := {
    receipt_id := sampleIntent.request_id
    request_id := sampleIntent.request_id
    idempotency_key := sampleIntent.idempotency_key
    capability_sha256 := zeroSha256
    mutation_sha256 := zeroSha256
    plan_sha256 := samplePlanSha256
    expected_poststate_sha256 := zeroSha256
    target := sampleTarget
    root_id := sampleRoot.root_id
    root_sha256 := zeroSha256
    epoch := firstEpoch
    provider_etag := sampleIntent.provider_etag
    provider_operation := sampleAuthority.changed_by
    observed_etag := sampleIntent.provider_etag
    observed_authority_epoch := firstEpoch
    receipt_sha256 := zeroSha256
    storage_revision := 2
    revision_bound := by decide
    bindings := by decide +kernel }
  source := .revokedV2 {
    root_id := sampleRoot.root_id
    root_sha256 := zeroSha256
    target := sampleTarget
    epoch := secondEpoch
    revocation_proof := sampleRevocation
    revocation_proof_sha256 := zeroSha256
    triggered_at := sampleSecond 850 (by omega) }

def sampleClaimedReceipt : ExecutionReceipt where
  receipt_id := sampleIntent.request_id
  request_id := sampleIntent.request_id
  idempotency_key := sampleIntent.idempotency_key
  capability_sha256 := zeroSha256
  mutation_sha256 := zeroSha256
  plan_sha256 := samplePlanSha256
  expected_poststate_sha256 := zeroSha256
  target := sampleTarget
  root_id := sampleRoot.root_id
  root_sha256 := zeroSha256
  epoch := firstEpoch
  action := .applyCanary
  provider_etag := sampleIntent.provider_etag
  dispatch_not_after := sampleSecond 840 (by omega)
  outcome := .claimed
  reason_code := none
  provider_operation := none
  observed_etag := none
  observed_authority_epoch := none
  created_at := sampleSecond 830 (by omega)
  updated_at := sampleSecond 830 (by omega)
  evidence_ids := []
  accepted := by decide

def sampleRecoveryFunctions : RecoveryServiceFunctions where
  recovery := ⟨fun _ => zeroSha256,fun _ => zeroSha256,fun _ => []⟩
  authority := ⟨fun _ => zeroSha256,fun _ => zeroSha256⟩
  contractSha256 := fun _ => zeroSha256
  intentFits := fun _ => true
  dispatchFits := fun _ => true
  executor := sampleFunctions
  rootBindings := fun root => {
    plan_sha256 := samplePlanSha256
    snapshot_etag := sampleIntent.provider_etag
    stable_revision := sampleIntent.stable_revision
    stable_revision_configuration_sha256 := root.root_sha256
    candidate_revision := sampleIntent.candidate_revision
    candidate_revision_configuration_sha256 := root.root_sha256
    evidence_signing_key_version := "1"
    recovery_audience := "recovery" }
  authorizationAdmitted := fun _ => true
  attestationSha256 := fun _ => zeroSha256
  authorizationText := fun _ => ""
  recoveryCapabilityId := fun _ => sampleIntent.request_id
  capabilityMatches := fun _ _ => true
  taskText := fun _ _ => ""

def sampleConfiguration : ResolverConfiguration where
  target := sampleTarget
  evidence_key_version := "1"
  prestate_key_version := "1"

def sampleReads : InputReads where
  failure := none
  bundle := some {sampleBundle with
    authority := ⟨sampleRevokedAuthority,1,one_revision⟩}
  receipt := some (firstRevision sampleClaimedReceipt)
  chain := .ok none
  chain_verified := false
  revocation_verified := true

def sampleDispatchAnswers : DispatchAnswers sampleRecoveryFunctions where
  claim := ⟨none,⟨.confirmed,none⟩,none⟩
  read_failure := none
  preparation := {
    prepared_time := sampleSecond 900 second_900
    resolver := ⟨sampleReads,sampleReads,.ok none,false⟩
    issuance := .ok none
    recorded := true
    address := fun _ _ => none
    report := ⟨.confirmed,none⟩ }
  attempt := {
    dispatch_time := sampleSecond 900 second_900
    address := fun _ _ => none
    start_report := ⟨.confirmed,none⟩
    dispatched := none
    terminal_time := sampleSecond 900 second_900
    terminal_report := ⟨.confirmed,none⟩
    replay_failure := none }

/-- Stores without any document. -/
def emptyStores (functions : RecoveryServiceFunctions) : Documents functions where
  records := {
    roots := fun _ => none
    service_claim := none
    authorities := fun _ => none
    lineage_anchors := fun _ => none
    intents := fun _ => none
    dispatches := fun _ => none
    signed_evidence := fun _ => none
    chain_heads := fun _ => none
    progress := fun _ => none
    identities := fun _ _ => none }
  dispatch_identities := fun _ _ => none

def firstRequest : Identifier := ⟨"recover-1",by decide⟩

/-- A later request of the operator. -/
def secondRequest : Identifier := ⟨"recover-2",by decide⟩

def sampleRecoveryIntent : RecoveryIntentV1 sampleRecoveryFunctions.recovery where
  fields := recoveryIntentFields sampleRecoveryFunctions
    ⟨recoveryIntentId sampleRecoveryFunctions.recovery zeroSha256,by decide +kernel⟩
    (sampleCommand firstRequest) (sampleSecond 850 (by omega))
  accepted := by rfl

/-- The first sample command is refused for its own reasons. -/
theorem sample_denied : Denied sampleRecoveryFunctions sampleConfiguration
    (sampleCommand firstRequest) sampleDispatchAnswers.preparation
    (emptyStores sampleRecoveryFunctions) := by
  intro own hown
  have hsample : createRecoveryIntent sampleRecoveryFunctions (sampleCommand firstRequest)
      (sampleCommand firstRequest).source.triggered_at=.ok sampleRecoveryIntent := rfl
  rw [hsample] at hown
  rw [← Except.ok.inj hown]
  exact ⟨.sourceReceiptInvalid,rfl⟩

end

end ControlGraph.RecoverySlot
