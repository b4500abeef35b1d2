import ControlGraph.LabelledRuns
import ControlGraph.ReceiptStore

/-!
# The life of a stored receipt

Any number of callers run the three receipt operations, and other operations
of the store change authorities and service claims in between. Each operation
is one atomic step, whatever the provider answers. A step leaves the document
of a receipt alone, creates it, replaces it, or resolves it behind its fence.
The facts about whole runs follow from these four changes.
-/

namespace ControlGraph.ReceiptLifecycle

open Checks ContractText Utf8Text LabelledRuns StorageIdentity ReceiptContracts ReceiptReplacement
  ReceiptStore

/-- One atomic step on the authority database. Every call names the configured
target of the store that runs it. -/
inductive StoreAction
  | claimOrAdopt (target : TargetBinding) (receipt : ExecutionReceipt) (binding : MutationBinding)
      (mutation_id : Identifier) (report : ProviderReport)
  | compareAndSet (target : TargetBinding) (expected : StoredRecord ExecutionReceipt)
      (replacement : ExecutionReceipt) (mutation_id : Identifier) (report : ProviderReport)
  | resolveAmbiguous (target : TargetBinding) (expected : StoredRecord ExecutionReceipt)
      (replacement : ExecutionReceipt) (expected_authority : StoredRecord EpochAuthorityRecord)
      (expected_service_claim : StoredRecord ServiceClaimRecord) (mutation_id : Identifier)
      (report : ProviderReport)
  /-- Operations that write no receipt. -/
  | others (authorities : Sha256Digest → Option (Document EpochAuthorityRecord))
      (service_claims : Sha256Digest → Option (Document ServiceClaimRecord))

/-- Database after one step. -/
def step (sha256 : Bytes → Sha256Digest) (database : Database) : StoreAction → Database
  | .claimOrAdopt target receipt binding mutation_id report =>
    (claimOrAdoptReceipt sha256 target receipt binding mutation_id report database).1
  | .compareAndSet target expected replacement mutation_id report =>
    (compareAndSetReceipt sha256 target expected replacement mutation_id report database).1
  | .resolveAmbiguous target expected replacement expected_authority expected_service_claim
      mutation_id report =>
    (resolveAmbiguousReceipt sha256 target expected replacement expected_authority
      expected_service_claim mutation_id report database).1
  | .others authorities service_claims => ⟨database.receipts,authorities,service_claims⟩

/-- Whether an action is a claim only of receipts without a readback marker. -/
def StoreAction.claimsUnmarked : StoreAction → Prop
  | .claimOrAdopt _ receipt _ _ _ =>
    ∀ evidence_id∈receipt.evidence_ids,¬startsWithMarker evidence_id=true
  | _ => True

/-- Whether an action resolves a receipt while the stored authority of its root
is at the epoch of the receipt and the stored service claim is active. -/
def StoreAction.resolvesCurrent (sha256 : Bytes → Sha256Digest) (database : Database)
    (target : TargetBinding) (receipt : ExecutionReceipt) : StoreAction → Prop
  | .resolveAmbiguous _ _ replacement _ _ _ _ => replacement=receipt ∧
    (∃ authority_id document,epochAuthorityDocumentId sha256 receipt.root_id=.ok authority_id ∧
      database.authorities authority_id=some document ∧
        document.stored.value.root_id=receipt.root_id ∧
          document.stored.value.current_epoch=receipt.epoch) ∧
    (∃ claim_id document,serviceClaimDocumentId sha256 target=.ok claim_id ∧
      database.service_claims claim_id=some document ∧
        document.stored.value.root_id=receipt.root_id ∧ document.stored.value.status=.active)
  | _ => False

/-- What one action does to the document at one id. -/
inductive ReceiptChange (sha256 : Bytes → Sha256Digest) (database : Database)
    (action : StoreAction) : Option (Document ExecutionReceipt) →
    Option (Document ExecutionReceipt) → Prop
  | unchanged (document : Option (Document ExecutionReceipt)) :
      ReceiptChange sha256 database action document document
  | created {document : Document ExecutionReceipt} (hrevision : document.stored.revision=0)
      (hclaimed : document.stored.value.outcome=.claimed)
      (hunmarked : action.claimsUnmarked → ∀ evidence_id∈document.stored.value.evidence_ids,
        ¬startsWithMarker evidence_id=true) :
      ReceiptChange sha256 database action none (some document)
  /-- A replacement or a resolution is written over it. -/
  | replaced {current document : Document ExecutionReceipt}
      (haccepts : StoreAccepts sha256 document.stored.value.target current.stored document.stored)
      (hlogical : document.logical_id=current.logical_id)
      (hmarked : (∀ evidence_id∈document.stored.value.evidence_ids,
          ¬startsWithMarker evidence_id=true) ∨
        action.resolvesCurrent sha256 database document.stored.value.target document.stored.value) :
      ReceiptChange sha256 database action (some current) (some document)

section

variable {sha256 : Bytes → Sha256Digest} {database : Database}

theorem putReceipt_change {action : StoreAction} {prepared : PreparedReceipt}
    (h : ReceiptChange sha256 database action (database.receipts prepared.document_id)
      (some prepared.document)) (document_id : Sha256Digest) :
    ReceiptChange sha256 database action (database.receipts document_id)
      ((database.putReceipt prepared).receipts document_id) := by
  by_cases hid : document_id=prepared.document_id
  · rw [hid,putReceipt_receipts]
    exact h
  · rw [putReceipt_receipts_ne hid]
    exact .unchanged _

/-- An accepted replacement is written over the document of the expected record. -/
theorem replacement_change {action : StoreAction} {target : TargetBinding}
    {expected : StoredRecord ExecutionReceipt} {replacement : ExecutionReceipt}
    {mutation_id : Identifier} {prepared : PreparedReceipt} {current : Document ExecutionReceipt}
    (hprepared : preparedReceipt sha256 target replacement (expected.revision+1) mutation_id=
      .ok prepared)
    (haccepts : prepared.document.stored.value=replacement →
      prepared.document.stored.revision=expected.revision+1 →
        StoreAccepts sha256 target expected prepared.document.stored)
    (hcurrent : database.receipts prepared.document_id=some current)
    (hlogical : current.logical_id=prepared.document.logical_id)
    (hexpected : current.stored=expected)
    (hmarked : (∀ evidence_id∈replacement.evidence_ids,¬startsWithMarker evidence_id=true) ∨
      action.resolvesCurrent sha256 database replacement.target replacement) :
    ReceiptChange sha256 database action (database.receipts prepared.document_id)
      (some prepared.document) := by
  obtain ⟨-,-,hvalue,hrevision⟩ := preparedReceipt_eq_ok hprepared
  have hwritten := haccepts hvalue hrevision
  obtain ⟨-,⟨logical_id,hidentity⟩,-⟩ := validateReceiptReplacement_eq_ok.mp hwritten.valid.1
  rw [← hexpected,← (validateReceiptIdentity_eq_ok.mp hidentity).1] at hwritten
  rw [← hvalue] at hmarked
  rw [hcurrent]
  exact .replaced hwritten hlogical.symm hmarked

/-- A resolution finds the authority and the claim that its fence requires. -/
theorem resolution_current {target : TargetBinding} {expected : StoredRecord ExecutionReceipt}
    {replacement : ExecutionReceipt} {expected_authority : StoredRecord EpochAuthorityRecord}
    {expected_service_claim : StoredRecord ServiceClaimRecord} {mutation_id : Identifier}
    {report : ProviderReport} {prepared : PreparedReceipt} {after : Database}
    (hvalid : validateReceiptReplacement sha256 target expected replacement=.ok ())
    (hfence : resolutionFence target expected.value replacement expected_authority
      expected_service_claim)
    (hbody : updateResolvedReceipt sha256 target prepared expected expected_authority
      expected_service_claim database=.ok after) :
    (StoreAction.resolveAmbiguous target expected replacement expected_authority
      expected_service_claim mutation_id report).resolvesCurrent sha256 database replacement.target
        replacement := by
  obtain ⟨-,-,⟨authority_id,authority,hauthorityId,hauthority,hauthorityEq⟩,
    claim_id,claim,hclaimId,hclaim,hclaimEq⟩ := updateResolvedReceipt_eq_ok hbody
  obtain ⟨-,⟨logical_id,hidentity⟩,hreplaces⟩ := validateReceiptReplacement_eq_ok.mp hvalid
  have htarget := (validateReceiptIdentity_eq_ok.mp hidentity).1
  have hbinding := congrArg Prod.fst hreplaces.binding
  have hroot : expected.value.root_id=replacement.root_id :=
    congrArg ReceiptSemanticBinding.root_id hbinding
  have hepoch : expected.value.epoch=replacement.epoch :=
    congrArg ReceiptSemanticBinding.epoch hbinding
  obtain ⟨-,-,-,-,-,-,-,-,-,-,-,-,hauthorityRoot,-,hauthorityEpoch,-,-,hactive,-,-,
    hclaimRoot,-⟩ :=
    hfence
  rw [← hauthorityEq] at hauthorityRoot hauthorityEpoch
  rw [← hclaimEq] at hactive hclaimRoot
  rw [hroot] at hauthorityId hauthorityRoot hclaimRoot
  rw [hepoch] at hauthorityEpoch
  rw [htarget]
  exact ⟨rfl,⟨authority_id,authority,hauthorityId,hauthority,hauthorityRoot,hauthorityEpoch⟩,
    claim_id,claim,hclaimId,hclaim,hclaimRoot,hactive⟩

/-- Every step changes every receipt document in one of the four ways. -/
theorem step_change (action : StoreAction) (document_id : Sha256Digest) :
    ReceiptChange sha256 database action (database.receipts document_id)
      ((step sha256 database action).receipts document_id) := by
  cases action with
  | others authorities service_claims => exact .unchanged _
  | claimOrAdopt target receipt binding mutation_id report =>
    rw [step]
    rcases claimOrAdoptReceipt_fst with hsame | ⟨prepared,hprepared,habsent,hwritten⟩
    · rw [hsame]
      exact .unchanged _
    · rw [hwritten]
      obtain ⟨hclaimed,-,-,hdocument⟩ := prepareClaim_eq_ok.mp hprepared
      obtain ⟨-,-,hvalue,hrevision⟩ := preparedReceipt_eq_ok hdocument
      rw [← hvalue] at hclaimed
      refine putReceipt_change ?_ document_id
      rw [habsent]
      refine .created hrevision hclaimed ?_
      intro hunmarked
      rw [hvalue]
      exact hunmarked
  | compareAndSet target expected replacement mutation_id report =>
    rw [step,compareAndSetReceipt]
    rcases writeReplacement_fst with hsame | ⟨prepared,hprepared,hbody⟩
    · rw [hsame]
      exact .unchanged _
    · obtain ⟨hvalid,hunmarked,hdocument⟩ := prepareReplacement_eq_ok.mp hprepared
      obtain ⟨hwritten,current,hcurrent,hlogical,hexpected⟩ := updateReceipt_eq_ok hbody
      rw [hwritten]
      refine putReceipt_change (replacement_change hdocument ?_ hcurrent hlogical hexpected
        (.inl hunmarked)) document_id
      intro hvalue hrevision
      rw [← hvalue] at hvalid hunmarked
      exact .compareAndSet hvalid (require_eq_ok.mpr hunmarked) hrevision
  | resolveAmbiguous target expected replacement expected_authority expected_service_claim
      mutation_id report =>
    rw [step,resolveAmbiguousReceipt]
    rcases writeReplacement_fst with hsame | ⟨prepared,hprepared,hbody⟩
    · rw [hsame]
      exact .unchanged _
    · obtain ⟨⟨hvalid,hfence⟩,hdocument⟩ := prepareResolution_eq_ok.mp hprepared
      obtain ⟨hwritten,⟨current,hcurrent,hlogical,hexpected⟩,-,-⟩ :=
        updateResolvedReceipt_eq_ok hbody
      have hresolves : (StoreAction.resolveAmbiguous target expected replacement
          expected_authority expected_service_claim mutation_id report).resolvesCurrent sha256
            database replacement.target replacement := resolution_current hvalid hfence hbody
      rw [hwritten]
      refine putReceipt_change (replacement_change hdocument ?_ hcurrent hlogical hexpected
        (.inr hresolves)) document_id
      intro hvalue hrevision
      have hresolution := validateAmbiguousReceiptResolution_eq_ok.mpr ⟨hvalid,hfence⟩
      rw [← hvalue] at hresolution
      exact .resolveAmbiguous expected_authority expected_service_claim hresolution hrevision

/-- The claim identity of a receipt is part of its immutable binding. -/
theorem identity_of_binding {target : TargetBinding} {first second : ExecutionReceipt}
    (hbinding : receiptCasBinding first=receiptCasBinding second)
    (h : ∃ logical_id,validateReceiptIdentity sha256 target first=.ok logical_id) :
    ∃ logical_id,validateReceiptIdentity sha256 target second=.ok logical_id := by
  have hwork := congrArg Prod.fst hbinding
  have htarget : first.target=second.target := congrArg ReceiptSemanticBinding.target hwork
  have hid : first.receipt_id=second.receipt_id :=
    congrArg ReceiptSemanticBinding.receipt_id hwork
  have hkey : first.idempotency_key=second.idempotency_key :=
    congrArg ReceiptSemanticBinding.idempotency_key hwork
  obtain ⟨logical_id,hidentity⟩ := h
  rw [validateReceiptIdentity_eq_ok,htarget,hid,hkey] at hidentity
  exact ⟨logical_id,validateReceiptIdentity_eq_ok.mpr hidentity⟩

variable {action : StoreAction} {target : TargetBinding} {idempotency_key : Identifier}

/-- A step keeps a readable receipt or replaces it. -/
theorem readReceipt_step {first : StoredRecord ExecutionReceipt}
    (h : database.readReceipt sha256 target idempotency_key=.ok (some first)) : ∃ last,
      (step sha256 database action).readReceipt sha256 target idempotency_key=.ok (some last) ∧
        (last=first ∨ StoreAccepts sha256 target first last) := by
  obtain ⟨document_id,current,hid,hcurrent,hlogical,hidentity,rfl⟩ := readReceipt_eq_some.mp h
  have hchange : ReceiptChange sha256 database action (database.receipts document_id)
      ((step sha256 database action).receipts document_id) := step_change action document_id
  rw [hcurrent] at hchange
  generalize hafter : (step sha256 database action).receipts document_id=after at hchange
  cases hchange with
  | unchanged =>
    exact ⟨current.stored,readReceipt_eq_some.mpr
      ⟨document_id,current,hid,hafter,hlogical,hidentity,rfl⟩,.inl rfl⟩
  | replaced haccepts hkept hmarked =>
    rename_i document
    have hvalid := identity_of_binding haccepts.replaces.binding hidentity
    obtain ⟨logical_id,hsame⟩ := hvalid
    rw [(validateReceiptIdentity_eq_ok.mp hsame).1] at haccepts
    exact ⟨document.stored,readReceipt_eq_some.mpr
      ⟨document_id,document,hid,hafter,hkept.trans hlogical,⟨logical_id,hsame⟩,rfl⟩,
      .inr haccepts⟩

/-- A readable receipt was there before the step, is a new claim, or replaces the
receipt that was there. -/
theorem readReceipt_after {last : StoredRecord ExecutionReceipt}
    (h : (step sha256 database action).readReceipt sha256 target idempotency_key=.ok (some last)) :
    database.readReceipt sha256 target idempotency_key=.ok (some last) ∨
    (last.value.outcome=.claimed ∧ (action.claimsUnmarked →
      ∀ evidence_id∈last.value.evidence_ids,¬startsWithMarker evidence_id=true)) ∨
    ∃ first,database.readReceipt sha256 target idempotency_key=.ok (some first) ∧
      Replaces first.value last.value ∧
        ((∀ evidence_id∈last.value.evidence_ids,¬startsWithMarker evidence_id=true) ∨
          action.resolvesCurrent sha256 database target last.value) := by
  obtain ⟨document_id,document,hid,hdocument,hlogical,hidentity,rfl⟩ := readReceipt_eq_some.mp h
  have hchange : ReceiptChange sha256 database action (database.receipts document_id)
      ((step sha256 database action).receipts document_id) := step_change action document_id
  rw [hdocument] at hchange
  generalize hbefore : database.receipts document_id=before at hchange
  cases hchange with
  | unchanged =>
    exact .inl (readReceipt_eq_some.mpr
      ⟨document_id,document,hid,hbefore,hlogical,hidentity,rfl⟩)
  | created hrevision hclaimed hunmarked => exact .inr (.inl ⟨hclaimed,hunmarked⟩)
  | replaced haccepts hkept hmarked =>
    rename_i current
    have hvalid := identity_of_binding haccepts.replaces.binding.symm hidentity
    obtain ⟨logical_id,hsame⟩ := hidentity
    rw [(validateReceiptIdentity_eq_ok.mp hsame).1] at hmarked
    exact .inr (.inr ⟨current.stored,readReceipt_eq_some.mpr
      ⟨document_id,current,hid,hbefore,hkept.symm.trans hlogical,hvalid,rfl⟩,haccepts.replaces,
      hmarked⟩)

/-- What a stored receipt keeps through a run. -/
def StoredContinues (first last : StoredRecord ExecutionReceipt) : Prop :=
  Continues first.value last.value ∧ first.revision ≤ last.revision ∧
    (isFinal first.value.outcome=true → last=first)

/-- Every readable receipt stays readable and continues. -/
def KeepsReceipts (sha256 : Bytes → Sha256Digest) (before after : Database) : Prop :=
  ∀ target idempotency_key first,
    before.readReceipt sha256 target idempotency_key=.ok (some first) → ∃ last,
      after.readReceipt sha256 target idempotency_key=.ok (some last) ∧ StoredContinues first last

/-- Stored receipts continue through composed runs. -/
theorem StoredContinues.trans {first second third : StoredRecord ExecutionReceipt}
    (h : StoredContinues first second) (hrest : StoredContinues second third) :
    StoredContinues first third := by
  refine ⟨h.1.trans hrest.1,h.2.1.trans hrest.2.1,?_⟩
  intro hfinal
  have hsecond := h.2.2 hfinal
  have hthird := hrest.2.2 (by rw [hsecond]; exact hfinal)
  rw [hthird,hsecond]

theorem step_keepsReceipts : KeepsReceipts sha256 database (step sha256 database action) := by
  intro target idempotency_key first h
  obtain ⟨last,hread,hlast⟩ := readReceipt_step h
  refine ⟨last,hread,?_⟩
  rcases hlast with rfl | haccepts
  · exact ⟨Continues.refl _,le_refl _,fun _ => rfl⟩
  · have hrevision := haccepts.valid.2
    refine ⟨haccepts.replaces.continues,by omega,?_⟩
    intro hfinal
    have hmem := haccepts.replaces.transition
    rw [List.isEmpty_iff.mp hfinal] at hmem
    cases hmem

theorem run_keepsReceipts (actions : List StoreAction) :
    KeepsReceipts sha256 database (run (step sha256) database actions) := by
  have hstep : ∀ state action,KeepsReceipts sha256 state (step sha256 state action) := by
    intro state action
    exact step_keepsReceipts
  refine run_relation (KeepsReceipts sha256) ?_ ?_ hstep
  · intro state target idempotency_key first h
    exact ⟨first,h,Continues.refl _,le_refl _,fun _ => rfl⟩
  · intro first second third h hrest target idempotency_key receipt hread
    obtain ⟨middle,hmiddle,hcontinues⟩ := h target idempotency_key receipt hread
    obtain ⟨last,hlast,hlastContinues⟩ := hrest target idempotency_key middle hmiddle
    exact ⟨last,hlast,hcontinues.trans hlastContinues⟩

/-- Every stored receipt is at revision zero exactly while it is a claim. -/
def ClaimsAtZero (database : Database) : Prop :=
  ∀ document_id document,database.receipts document_id=some document →
    (document.stored.revision=0 ↔ document.stored.value.outcome=.claimed)

theorem step_claimsAtZero (h : ClaimsAtZero database) :
    ClaimsAtZero (step sha256 database action) := by
  intro document_id document hdocument
  have hchange : ReceiptChange sha256 database action (database.receipts document_id)
      ((step sha256 database action).receipts document_id) := step_change action document_id
  rw [hdocument] at hchange
  generalize hbefore : database.receipts document_id=before at hchange
  cases hchange with
  | unchanged => exact h document_id document hbefore
  | created hrevision hclaimed hunmarked => exact ⟨fun _ => hclaimed,fun _ => hrevision⟩
  | replaced haccepts hkept hmarked =>
    have hrevision := haccepts.valid.2
    constructor
    · intro hzero
      omega
    · intro hclaimed
      exact absurd hclaimed haccepts.replaces.not_claimed

theorem run_claimsAtZero (hempty : database.receipts=fun _ => none) (actions : List StoreAction) :
    ClaimsAtZero (run (step sha256) database actions) := by
  refine run_invariant (fun _ _ => step_claimsAtZero) ?_
  intro document_id document h
  rw [hempty] at h
  cases h

theorem readReceipt_of_empty (hempty : database.receipts=fun _ => none)
    {stored : StoredRecord ExecutionReceipt} :
    database.readReceipt sha256 target idempotency_key≠.ok (some stored) := by
  intro h
  obtain ⟨document_id,document,-,hdocument,-⟩ := readReceipt_eq_some.mp h
  rw [hempty] at hdocument
  cases hdocument

/-- Starting from no receipt, in every run whose claims carry no readback marker:
a receipt is at revision zero exactly while it is a claim; it keeps its binding,
its creation time, its evidence and its fixed observations, and a final receipt
is never replaced; a verified receipt replaced an applied or an ambiguous one;
and every readback marker was added by a resolution that committed while the
authority of the root was at the epoch of the receipt and its claim active. -/
theorem receipt_lifecycle (sha256 : Bytes → Sha256Digest) (database : Database)
    (hempty : database.receipts=fun _ => none) (actions : List StoreAction)
    (hunmarked : ∀ action∈actions,action.claimsUnmarked) (target : TargetBinding)
    (idempotency_key : Identifier) :
    (∀ earlier later,actions=earlier++later → ∀ first,
      (run (step sha256) database earlier).readReceipt sha256 target idempotency_key=
          .ok (some first) →
        (first.revision=0 ↔ first.value.outcome=.claimed) ∧ ∃ last,
          (run (step sha256) database actions).readReceipt sha256 target idempotency_key=
              .ok (some last) ∧ StoredContinues first last) ∧
    (∀ last,(run (step sha256) database actions).readReceipt sha256 target idempotency_key=
        .ok (some last) →
      (last.value.outcome=.verified → ∃ earlier action later first,
        actions=earlier++action::later ∧
        (run (step sha256) database earlier).readReceipt sha256 target idempotency_key=
          .ok (some first) ∧ (first.value.outcome=.applied ∨ first.value.outcome=.ambiguous) ∧
        (step sha256 (run (step sha256) database earlier) action).readReceipt sha256 target
          idempotency_key=.ok (some last)) ∧
      ∀ evidence_id∈last.value.evidence_ids,startsWithMarker evidence_id=true →
        ∃ earlier action later resolved,actions=earlier++action::later ∧
          action.resolvesCurrent sha256 (run (step sha256) database earlier) target
            resolved.value ∧ evidence_id∈resolved.value.evidence_ids ∧
          (step sha256 (run (step sha256) database earlier) action).readReceipt sha256 target
            idempotency_key=.ok (some resolved)) := by
  refine ⟨?_,?_⟩
  · intro earlier later hsplit first h
    obtain ⟨document_id,document,-,hdocument,-,-,rfl⟩ := readReceipt_eq_some.mp h
    have hclaims : ClaimsAtZero (run (step sha256) database earlier) :=
      run_claimsAtZero hempty earlier
    have hzero := hclaims document_id document hdocument
    have hkeeps : KeepsReceipts sha256 (run (step sha256) database earlier)
        (run (step sha256) (run (step sha256) database earlier) later) := run_keepsReceipts later
    rw [hsplit,run_append]
    exact ⟨hzero,hkeeps target idempotency_key document.stored h⟩
  · intro last hlast
    refine ⟨?_,?_⟩
    · intro hverified
      obtain ⟨earlier,action,later,hsplit,hbefore,hafter⟩ := run_change
        (fun state : Database =>
          state.readReceipt sha256 target idempotency_key=.ok (some last))
        (readReceipt_of_empty hempty) hlast
      rcases readReceipt_after hafter with hsame | ⟨hclaimed,-⟩ | ⟨first,hfirst,hreplaces,-⟩
      · exact absurd hsame hbefore
      · rw [hverified] at hclaimed
        cases hclaimed
      · exact ⟨earlier,action,later,first,hsplit,hfirst,hreplaces.verified_from hverified,hafter⟩
    · intro evidence_id hmem hmarker
      obtain ⟨earlier,action,later,hsplit,hbefore,resolved,hresolved,hevidence⟩ := run_change
        (fun state : Database => ∃ stored,
          state.readReceipt sha256 target idempotency_key=.ok (some stored) ∧
            evidence_id∈stored.value.evidence_ids)
        (fun ⟨stored,hstored,_⟩ => readReceipt_of_empty hempty hstored) ⟨last,hlast,hmem⟩
      have haction := hunmarked action (by rw [hsplit]; exact List.mem_append_right _ List.mem_cons_self)
      rcases readReceipt_after hresolved with hsame | ⟨-,hclean⟩ | ⟨first,hfirst,hreplaces,hmarked⟩
      · exact absurd ⟨resolved,hsame,hevidence⟩ hbefore
      · exact absurd hmarker (hclean haction evidence_id hevidence)
      · rcases hmarked with hclean | hcurrent
        · exact absurd hmarker (hclean evidence_id hevidence)
        · exact ⟨earlier,action,later,resolved,hsplit,hcurrent,hevidence,hresolved⟩

end

def sampleTarget : TargetBinding where
  project_id := ⟨"controlgraph-canary-a1b2c3",by decide⟩
  region := ⟨"us-central1",chainRegion⟩
  environment := ⟨"nonprod",chainEnvironment⟩
  service_name := ⟨"controlgraph-reference-target",chainService⟩

def sampleBinding : MutationBinding where
  idempotency_key := "apply-1"
  request_id := "request-1"
  root_id := "root-1"
  root_sha256 := zeroSha256
  epoch := 1
  action := .applyCanary
  target := sampleTarget.key
  provider_precondition := "etag-1"
  plan_sha256 := zeroSha256
  capability_sha256 := zeroSha256
  payload_sha256 := zeroSha256
  expected_poststate_sha256 := zeroSha256

/-- The seconds of a day after 1970 are timestamps. -/
theorem utcSecond_small {second : Int} (hlow : 0 ≤ second) (hhigh : second ≤ 86400) :
    -62135596800 ≤ second ∧ second≤253402300799 := by
  omega

def sampleClaimFields (sha256 : Bytes → Sha256Digest) (evidence_ids : List Identifier) :
    ExecutionReceiptFields where
  receipt_id := ⟨(executionReceiptLogicalId sha256 sampleTarget ⟨"apply-1",by decide⟩).1,
    isIdentifier_digest _⟩
  request_id := ⟨"request-1",by decide⟩
  idempotency_key := ⟨"apply-1",by decide⟩
  capability_sha256 := zeroSha256
  mutation_sha256 := mutationIdentity sha256 sampleBinding
  plan_sha256 := zeroSha256
  expected_poststate_sha256 := zeroSha256
  target := sampleTarget
  root_id := ⟨"root-1",by decide⟩
  root_sha256 := zeroSha256
  epoch := firstEpoch
  action := .applyCanary
  provider_etag := ⟨"etag-1",by decide⟩
  dispatch_not_after := ⟨1300,utcSecond_small (by omega) (by omega)⟩
  outcome := .claimed
  reason_code := none
  provider_operation := none
  observed_etag := none
  observed_authority_epoch := none
  created_at := ⟨1000,utcSecond_small (by omega) (by omega)⟩
  updated_at := ⟨1000,utcSecond_small (by omega) (by omega)⟩
  evidence_ids := evidence_ids

def sampleClaim (sha256 : Bytes → Sha256Digest) (evidence_ids : List Identifier)
    (h : evidence_ids.length ≤ 64 ∧ evidence_ids.Nodup) : ExecutionReceipt where
  fields := sampleClaimFields sha256 evidence_ids
  accepted := by
    simp only [validateOutcomeShape,check_bind_eq_ok,require_eq_ok]
    simp only [sampleClaimFields,needsReason]
    exact ⟨h.1,by omega,by omega,by decide,by decide,by decide,by decide,by decide,by decide,
      by decide,by decide,by decide,h.2⟩

def confirmingProvider : ProviderReport := ⟨.confirmed,none,none⟩

/-- A database without documents. -/
def emptyDatabase : Database := ⟨fun _ => none,fun _ => none,fun _ => none⟩

def sampleAction (sha256 : Bytes → Sha256Digest) (evidence_ids : List Identifier)
    (h : evidence_ids.length ≤ 64 ∧ evidence_ids.Nodup) : StoreAction :=
  .claimOrAdopt sampleTarget (sampleClaim sha256 evidence_ids h) sampleBinding
    ⟨"write-1",firstWrite⟩ confirmingProvider

/-- The sample claim is read after its commit is confirmed. -/
theorem sampleAction_reads (sha256 : Bytes → Sha256Digest) (evidence_ids : List Identifier)
    (h : evidence_ids.length ≤ 64 ∧ evidence_ids.Nodup) : ∃ stored,
      (step sha256 emptyDatabase (sampleAction sha256 evidence_ids h)).readReceipt sha256
          sampleTarget ⟨"apply-1",by decide⟩=.ok (some stored) ∧
        stored.value=sampleClaim sha256 evidence_ids h := by
  obtain ⟨prepared,hprepared⟩ : ∃ prepared,preparedReceipt sha256 sampleTarget
      (sampleClaim sha256 evidence_ids h) 0 ⟨"write-1",by decide⟩=.ok prepared :=
    preparedReceipt_ok _ (Nat.zero_le _) _
  have hmatches : receiptMatchesBinding sha256 (sampleClaim sha256 evidence_ids h) sampleBinding :=
    ⟨rfl,rfl,rfl,rfl,rfl,rfl,rfl,rfl,rfl,rfl,rfl,rfl⟩
  have hclaim : prepareClaim sha256 sampleTarget (sampleClaim sha256 evidence_ids h) sampleBinding
      ⟨"write-1",by decide⟩=.ok prepared :=
    prepareClaim_eq_ok.mpr ⟨rfl,hmatches,
      ⟨_,validateReceiptIdentity_eq_ok.mpr ⟨rfl,rfl,rfl⟩⟩,hprepared⟩
  exact ⟨prepared.document.stored,claim_confirmed hclaim rfl rfl,
    (preparedReceipt_eq_ok hprepared).2.2.1⟩

/-- The lifecycle of a store on which one unmarked claim runs. -/
theorem receipt_lifecycle_sample : ∃ stored,
    (run (step fun _ => zeroSha256) emptyDatabase
        [sampleAction (fun _ => zeroSha256) [] (by decide)]).readReceipt (fun _ => zeroSha256)
      sampleTarget ⟨"apply-1",by decide⟩=.ok (some stored) ∧
    (stored.revision=0 ↔ stored.value.outcome=.claimed) := by
  obtain ⟨stored,hread,-⟩ := sampleAction_reads (fun _ => zeroSha256) [] (by decide)
  have hunmarked : ∀ action∈[sampleAction (fun _ => zeroSha256) [] (by decide)],
      action.claimsUnmarked := by
    intro action hmem
    rw [List.mem_singleton.mp hmem]
    intro evidence_id hevidence
    cases hevidence
  exact ⟨stored,hread,((receipt_lifecycle (fun _ => zeroSha256) emptyDatabase rfl _ hunmarked
    sampleTarget ⟨"apply-1",by decide⟩).1 _ [] (List.append_nil _).symm stored hread).1⟩

/-- With no digest function is every stored readback marker one that a
resolution added: a claim stores one by itself. -/
theorem receipt_lifecycle_refuted : ¬∃ sha256 : Bytes → Sha256Digest,
    ∀ (database : Database) (_ : database.receipts=fun _ => none) (actions : List StoreAction)
      (target : TargetBinding) (idempotency_key : Identifier)
      (last : StoredRecord ExecutionReceipt),
      (run (step sha256) database actions).readReceipt sha256 target idempotency_key=
          .ok (some last) →
        ∀ evidence_id∈last.value.evidence_ids,startsWithMarker evidence_id=true →
          ∃ earlier action later resolved,actions=earlier++action::later ∧
            action.resolvesCurrent sha256 (run (step sha256) database earlier) target
              resolved := by
  rintro ⟨sha256,h⟩
  obtain ⟨stored,hread,hvalue⟩ :=
    sampleAction_reads sha256 [⟨"cgrrb:forged",by decide⟩] (by decide)
  obtain ⟨earlier,action,later,resolved,hsplit,hresolves⟩ := h emptyDatabase rfl
    [sampleAction sha256 [⟨"cgrrb:forged",by decide⟩] (by decide)] sampleTarget _ stored hread
      ⟨"cgrrb:forged",by decide⟩ (by rw [hvalue]; exact List.mem_cons_self) (by decide)
  have haction : action∈[sampleAction sha256 [⟨"cgrrb:forged",by decide⟩] (by decide)] := by
    rw [hsplit]
    exact List.mem_append_right _ List.mem_cons_self
  rw [List.mem_singleton.mp haction] at hresolves
  exact hresolves

end ControlGraph.ReceiptLifecycle
