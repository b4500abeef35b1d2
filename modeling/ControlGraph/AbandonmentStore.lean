import ControlGraph.AbandonmentFence

/-!
# The transaction of an abandonment fence

The store keeps every document at the place of its logical identity. The fence
transaction reads its view again, requires the receipt of the dispatch and the
new documents to be absent, and writes all its documents at one instant. For an
accepted fence one lemma says what it has found and written.
-/

namespace ControlGraph.AbandonmentStore

open Checks ContractText RootContracts AuthorityDatabase EvidenceChain RevocationCommits
  RecoveryContracts AbandonmentContracts AbandonmentFence

open ReceiptContracts hiding ServiceClaimRecord

open ReceiptStore (StoreError transactionRead)

/-- The documents that the abandonment path reads and writes. The claim is the one of
the configured target. -/
structure Records (functions : AbandonmentFunctions) where
  roots : Identifier → Option (StoredRecord RolloutRootV3)
  service_claim : Option (StoredRecord ServiceClaimRecordValue)
  /-- Authority of each root. -/
  authorities : Identifier → Option (StoredRecord EpochAuthorityRecord)
  lineage_anchors : Identifier → Option (StoredRecord CapabilityLineageAnchorV1)
  intents : Sha256Digest → Option (StoredRecord (RecoveryIntentV1 functions.recovery))
  dispatches : Identifier → Option (StoredRecord (RecoveryDispatchRecordV2 functions.recovery))
  signed_evidence : Identifier → Option (StoredRecord SignedEvidenceEventV1)
  chain_heads : Identifier → Option (StoredRecord EvidenceChainHeadV1)
  progress : Identifier → Option (StoredRecord RecoveryAbandonmentProgressV1)
  /-- Owner of each identity of an abandonment. -/
  identities : RecoveryAbandonmentIdentityKind → Identifier →
    Option (StoredRecord RecoveryAbandonmentIdentityV1)

/-- A record at revision zero. -/
def created {Record : Type} (value : Record) : StoredRecord Record := ⟨value,0,Nat.zero_le _⟩

variable {functions : AbandonmentFunctions}

/-- The event that the events of a fence follow. -/
def predecessorEvidence (expected : RecoveryAbandonmentState functions)
    (bundle : RootCreationBundle) : StoredRecord SignedEvidenceEventV1 :=
  expected.head_evidence.getD bundle.signed_evidence

/-- What the transaction of a fence must find beside the absent receipt. -/
@[mk_iff] structure FenceCurrent (expected : RecoveryAbandonmentState functions)
    (view : AbandonmentView functions) (commit : RecoveryAbandonmentFenceCommitV1 functions)
    (records : Records functions) : Prop where
  root : records.roots commit.progress.root_id=some view.bundle.root
  service_claim : records.service_claim=expected.root_bundle.map (·.service_claim)
  authority : records.authorities commit.progress.root_id=some view.bundle.authority
  intent : records.intents view.intent.value.root_sha256=some view.intent
  dispatch : records.dispatches commit.replacement_dispatch.dispatch_id=some view.dispatch
  chain_head : records.chain_heads commit.progress.root_id=expected.chain_head
  predecessor : records.signed_evidence
    (predecessorEvidence expected view.bundle).value.event.evidence_id=
      some (predecessorEvidence expected view.bundle)
  abandonment_evidence :
    records.signed_evidence commit.abandonment_evidence.event.evidence_id=none
  fence_evidence : records.signed_evidence commit.fence_evidence.event.evidence_id=none
  progress : records.progress commit.progress.result_id=none
  request_identity : records.identities commit.request_identity.identity_kind
    commit.request_identity.identity_value=none
  idempotency_identity : records.identities commit.idempotency_identity.identity_kind
    commit.idempotency_identity.identity_value=none

instance (expected : RecoveryAbandonmentState functions) (view : AbandonmentView functions)
    (commit : RecoveryAbandonmentFenceCommitV1 functions) (records : Records functions) :
    Decidable (FenceCurrent expected view commit records) :=
  decidable_of_iff _ (fenceCurrent_iff expected view commit records).symm

/-- Read the receipt document of an idempotency key. -/
def readReceiptDocument (functions : AbandonmentFunctions) (configured_target : TargetBinding)
    (receipts : Sha256Digest → Option (ReceiptStore.Document ExecutionReceipt))
    (idempotency_key : Identifier) :
    Except StoreError (Option (ReceiptStore.Document ExecutionReceipt)) := do
  let document_id ← (executionReceiptDocumentId functions.authority.sha256 configured_target
    idempotency_key).mapError .invalid
  transactionRead receipts document_id
    (executionReceiptLogicalId functions.authority.sha256 configured_target idempotency_key).1

/-- The replaced records of a fence. -/
structure FenceReplacements (functions : AbandonmentFunctions) where
  dispatch : StoredRecord (RecoveryDispatchRecordV2 functions.recovery)
  service_claim : StoredRecord ServiceClaimRecordValue
  authority : StoredRecord EpochAuthorityRecord
  chain_head : StoredRecord EvidenceChainHeadV1

/-- Prepare the replaced records of a fence. -/
def prepareReplacements (view : AbandonmentView functions)
    (commit : RecoveryAbandonmentFenceCommitV1 functions) :
    Except Raised (FenceReplacements functions) := do
  let service_claim ← StoredRecord.make (.third commit.replacement_claim)
    (view.bundle.service_claim.revision+1)
  let authority ← StoredRecord.make commit.replacement_authority (view.bundle.authority.revision+1)
  let dispatch ← StoredRecord.make commit.replacement_dispatch (view.dispatch.revision+1)
  let chain_head ← StoredRecord.make commit.chain_head commit.chain_head.sequence
  return ⟨dispatch,service_claim,authority,chain_head⟩

/-- The records after a fence. -/
def writeFence (commit : RecoveryAbandonmentFenceCommitV1 functions)
    (replacements : FenceReplacements functions) (records : Records functions) :
    Records functions :=
  {records with
    dispatches := Function.update records.dispatches commit.replacement_dispatch.dispatch_id
      (some replacements.dispatch),
    service_claim := some replacements.service_claim,
    authorities := Function.update records.authorities commit.progress.root_id
      (some replacements.authority),
    signed_evidence := Function.update
      (Function.update records.signed_evidence commit.abandonment_evidence.event.evidence_id
        (some (created commit.abandonment_evidence)))
      commit.fence_evidence.event.evidence_id (some (created commit.fence_evidence)),
    chain_heads := Function.update records.chain_heads commit.progress.root_id
      (some replacements.chain_head),
    progress := Function.update records.progress commit.progress.result_id
      (some (created commit.progress)),
    identities := fun kind value =>
      if commit.request_identity.identity_kind=kind ∧ commit.request_identity.identity_value=value
        then some (created commit.request_identity)
      else if commit.idempotency_identity.identity_kind=kind ∧
          commit.idempotency_identity.identity_value=value
        then some (created commit.idempotency_identity)
      else records.identities kind value}

/-- Turn the dispatch ambiguous, prove its receipt absent, and fence the root. -/
def commitRecoveryAbandonmentFence (configured_target : TargetBinding)
    (expected : RecoveryAbandonmentState functions)
    (commit : RecoveryAbandonmentFenceCommitV1 functions)
    (receipts : Sha256Digest → Option (ReceiptStore.Document ExecutionReceipt))
    (records : Records functions) : Except StoreError (Records functions) := do
  let view ← (validateRecoveryAbandonmentFenceCommit functions configured_target expected
    commit).mapError .invalid
  let replacements ← (prepareReplacements view commit).mapError .invalid
  let current_receipt ← readReceiptDocument functions configured_target receipts
    view.dispatch.value.idempotency_key
  require (FenceCurrent expected view commit records ∧ current_receipt.isNone=true) .conflict
  return writeFence commit replacements records

/-- Everything that an accepted fence has found and written. -/
structure Fenced (configured_target : TargetBinding) (expected : RecoveryAbandonmentState functions)
    (commit : RecoveryAbandonmentFenceCommitV1 functions)
    (receipts : Sha256Digest → Option (ReceiptStore.Document ExecutionReceipt))
    (records next : Records functions) (view : AbandonmentView functions) : Prop where
  accepted : validateRecoveryAbandonmentFenceCommit functions configured_target expected commit=
    .ok view
  found : FenceCurrent expected view commit records
  receipt : ∃ document_id,executionReceiptDocumentId functions.authority.sha256 configured_target
    view.dispatch.value.idempotency_key=.ok document_id ∧ receipts document_id=none
  written : ∃ replacements,prepareReplacements view commit=.ok replacements ∧
    next=writeFence commit replacements records

section

variable {configured_target : TargetBinding} {expected : RecoveryAbandonmentState functions}
  {commit : RecoveryAbandonmentFenceCommitV1 functions}
  {receipts : Sha256Digest → Option (ReceiptStore.Document ExecutionReceipt)}
  {records next : Records functions} {view : AbandonmentView functions}

theorem readReceiptDocument_none {idempotency_key : Identifier}
    {found : Option (ReceiptStore.Document ExecutionReceipt)} (hnone : found.isNone=true)
    (h : readReceiptDocument functions configured_target receipts idempotency_key=.ok found) :
    ∃ document_id,executionReceiptDocumentId functions.authority.sha256 configured_target
      idempotency_key=.ok document_id ∧ receipts document_id=none := by
  rw [readReceiptDocument,bind_eq_ok] at h
  obtain ⟨document_id,hid,hread⟩ := h
  refine ⟨document_id,mapError_eq_ok.mp hid,?_⟩
  rw [Option.isNone_iff_eq_none.mp hnone] at hread
  unfold transactionRead at hread
  cases hfound : receipts document_id with
  | none => rfl
  | some document =>
    simp only [hfound] at hread
    split at hread <;> cases hread

theorem commitRecoveryAbandonmentFence_eq_ok
    (h : commitRecoveryAbandonmentFence configured_target expected commit receipts records=
      .ok next) : ∃ view,Fenced configured_target expected commit receipts records next view := by
  rw [commitRecoveryAbandonmentFence,bind_eq_ok] at h
  obtain ⟨view,hview,h⟩ := h
  rw [bind_eq_ok] at h
  obtain ⟨replacements,hreplacements,h⟩ := h
  rw [bind_eq_ok] at h
  obtain ⟨found,hfound,h⟩ := h
  rw [check_bind_eq_ok,require_eq_ok] at h
  obtain ⟨⟨hcurrent,hnone⟩,hnext⟩ := h
  exact ⟨view,mapError_eq_ok.mp hview,hcurrent,readReceiptDocument_none hnone hfound,
    replacements,mapError_eq_ok.mp hreplacements,(Except.ok.inj hnext).symm⟩

/-- What the check of a fence requires of the view that its state gives. -/
theorem validateRecoveryAbandonmentFenceCommit_eq_ok
    (h : validateRecoveryAbandonmentFenceCommit functions configured_target expected commit=
      .ok view) :
    abandonmentView functions configured_target expected commit=.ok view ∧
      DispatchAbandoned view commit ∧ AbandonmentProgressBound view commit := by
  rw [validateRecoveryAbandonmentFenceCommit,bind_eq_ok] at h
  obtain ⟨found,hfound,h⟩ := h
  rw [check_bind_eq_ok,require_eq_ok] at h
  obtain ⟨⟨hdispatch,-,hprogress,-⟩,hview⟩ := h
  rw [← Except.ok.inj hview]
  exact ⟨hfound,hdispatch,hprogress⟩

/-- The authority of a dispatch that can be abandoned has not fallen behind it. -/
theorem epoch_le_of_abandonable {authority : EpochAuthorityRecord}
    {command_epoch dispatch_epoch : PositiveSafeInteger}
    (h : dispatchEpochIsAbandonable authority command_epoch dispatch_epoch=true) :
    dispatch_epoch.1 ≤ authority.current_epoch.1 := by
  simp only [dispatchEpochIsAbandonable,Bool.and_eq_true,Bool.or_eq_true,decide_eq_true_eq] at h
  obtain ⟨hcurrent,hsame | ⟨hprevious,-⟩⟩ := h
  · rw [hcurrent,hsame]
  · rw [hcurrent]
    omega

/-- The view of a fence repeats the state that it was read from, and its authority
advances by one epoch. -/
theorem abandonmentView_eq_ok
    (h : abandonmentView functions configured_target expected commit=.ok view) :
    expected.recovery_dispatch=some view.dispatch ∧ view.invocation=expected.invocation ∧
      (∃ bundle,expected.root_bundle=some bundle ∧ view.bundle.root=bundle.root ∧
        view.bundle.authority=bundle.authority) ∧
      MonotonicAdvance view.bundle.authority.value commit.replacement_authority := by
  rw [abandonmentView,bind_eq_ok] at h
  obtain ⟨bundle,hbundle,h⟩ := h
  rw [bind_eq_ok] at h
  obtain ⟨intent,-,h⟩ := h
  rw [bind_eq_ok] at h
  obtain ⟨dispatch,hdispatch,h⟩ := h
  rw [check_bind_eq_ok] at h
  obtain ⟨-,h⟩ := h
  cases hclaim : bundle.service_claim.value with
  | third claim => simp only [hclaim,reduceCtorEq] at h
  | first claim =>
    simp only [hclaim] at h
    rw [check_bind_eq_ok] at h
    obtain ⟨-,h⟩ := h
    rw [check_bind_eq_ok] at h
    obtain ⟨-,h⟩ := h
    rw [check_bind_eq_ok] at h
    obtain ⟨hfence,h⟩ := h
    rw [bind_eq_ok] at h
    obtain ⟨head,-,h⟩ := h
    rw [bind_eq_ok] at h
    obtain ⟨proof,-,hview⟩ := h
    rw [validateAbandonmentClaimFenceAuthority,check_bind_eq_ok] at hfence
    obtain ⟨-,hfence⟩ := hfence
    rw [check_bind_eq_ok,validateAuthorityAdvance,check_bind_eq_ok] at hfence
    obtain ⟨⟨-,hfence⟩,-⟩ := hfence
    rw [check_bind_eq_ok,require_eq_ok] at hfence
    obtain ⟨-,hadvance⟩ := hfence
    rw [require_eq_ok] at hadvance
    rw [← Except.ok.inj hview]
    exact ⟨requireSome_eq_ok.mp hdispatch,rfl,⟨bundle,requireSome_eq_ok.mp hbundle,rfl,rfl⟩,
      hadvance⟩

end

end ControlGraph.AbandonmentStore
