import ControlGraph.ClaimFence
import ControlGraph.HealthProofs

/-!
# Locators of execution receipts

Later contracts name an execution receipt by a locator. The locator of a canary
is made only of a verified receipt with its operation, its etag and its epoch.
The locator of a recovery is made of every receipt that left its claim, and a
verified one must be as complete. An anchor of the observation carries the
receipt itself and repeats what it is about.
-/

namespace ControlGraph.RecoveryReceiptLocators

open Checks ContractText StorageIdentity ReceiptContracts HealthProofs

open AuthorityDatabase (AuthorityFunctions)

open ClaimFence (createRecoveryApplyReceiptLocator)

open ReceiptStore (isServiceClaimTarget)

/-- A root names its digest. -/
def RootBound (root_id : Identifier) (root_sha256 : Sha256Digest) : Prop :=
  root_id.1="cgroot:"++root_sha256.1

instance (root_id : Identifier) (root_sha256 : Sha256Digest) :
    Decidable (RootBound root_id root_sha256) :=
  inferInstanceAs (Decidable (_=_))

/-- Fields of the locator of one terminal recovery receipt. -/
structure RecoveryReceiptLocatorV1Fields where
  receipt_id : Identifier
  request_id : Identifier
  idempotency_key : Identifier
  capability_sha256 : Sha256Digest
  mutation_sha256 : Sha256Digest
  plan_sha256 : Sha256Digest
  expected_poststate_sha256 : Sha256Digest
  target : TargetBinding
  root_id : Identifier
  root_sha256 : Sha256Digest
  epoch : PositiveSafeInteger
  provider_etag : OpaqueToken
  outcome : ReceiptOutcome
  /-- Reason of a denied, failed or ambiguous outcome. -/
  reason_code : Option ReasonCode
  provider_operation : Option BoundedText
  observed_etag : Option OpaqueToken
  observed_authority_epoch : Option PositiveSafeInteger
  receipt_sha256 : Sha256Digest
  storage_revision : Nat
  deriving DecidableEq

/-- Check the locator of a recovery receipt. A claim has none. -/
def RecoveryReceiptLocatorV1Fields.validateLocator (locator : RecoveryReceiptLocatorV1Fields) :
    Except Raised Unit := do
  require (locator.outcome≠.claimed ∧ 1 ≤ locator.storage_revision ∧
    locator.storage_revision ≤ maxRevision) .validationError
  require (isServiceClaimTarget locator.target=true ∧
      RootBound locator.root_id locator.root_sha256)
    (.valueError "recovery receipt locator bindings are invalid")
  require (needsReason locator.outcome=locator.reason_code.isSome)
    (.valueError "recovery receipt locator outcome is invalid")
  require (locator.outcome=.ambiguous → locator.reason_code=some .providerOutcomeAmbiguous)
    (.valueError "recovery receipt locator ambiguity is invalid")
  require (locator.outcome=.verified → locator.provider_operation≠none ∧
      locator.observed_etag≠none ∧ locator.observed_authority_epoch=some locator.epoch)
    (.valueError "verified recovery receipt locator is incomplete")

/-- The exact durable locator of one terminal recovery receipt. -/
structure RecoveryReceiptLocatorV1 extends fields : RecoveryReceiptLocatorV1Fields where
  accepted : fields.validateLocator=.ok ()

section

variable (functions : AuthorityFunctions)

/-- What the locator of a recovery receipt says. -/
def recoveryReceiptLocatorFields (receipt : ExecutionReceipt) (storage_revision : Nat) :
    RecoveryReceiptLocatorV1Fields where
  receipt_id := receipt.receipt_id
  request_id := receipt.request_id
  idempotency_key := receipt.idempotency_key
  capability_sha256 := receipt.capability_sha256
  mutation_sha256 := receipt.mutation_sha256
  plan_sha256 := receipt.plan_sha256
  expected_poststate_sha256 := receipt.expected_poststate_sha256
  target := receipt.target
  root_id := receipt.root_id
  root_sha256 := receipt.root_sha256
  epoch := receipt.epoch
  provider_etag := receipt.provider_etag
  outcome := receipt.outcome
  reason_code := receipt.reason_code
  provider_operation := receipt.provider_operation
  observed_etag := receipt.observed_etag
  observed_authority_epoch := receipt.observed_authority_epoch
  receipt_sha256 := functions.canonical_sha256 (.executionReceipt receipt)
  storage_revision := storage_revision

def createRecoveryReceiptLocator (receipt : ExecutionReceipt) (storage_revision : Nat) :
    Except Raised RecoveryReceiptLocatorV1 := do
  require (receipt.action=.recoverStable ∧ receipt.outcome≠.claimed ∧ 1 ≤ storage_revision)
    (.valueError "recovery receipt locator requires a terminal recovery receipt")
  let fields := recoveryReceiptLocatorFields functions receipt storage_revision
  match h : fields.validateLocator with
  | .ok () => .ok ⟨fields,h⟩
  | .error raised => .error raised

end

/-- What a verified receipt must say besides its outcome: its operation, its etag and its
own epoch as the one that the final gate observed. -/
structure Complete (receipt : ExecutionReceipt) : Prop where
  operation : receipt.provider_operation≠none
  etag : receipt.observed_etag≠none
  epoch : receipt.observed_authority_epoch=some receipt.epoch

/-- An anchor repeats what its receipt is about. -/
structure Describes (functions : HealthProofFunctions) (anchor : PostApplyHealthAnchorV1Fields)
    (receipt : ExecutionReceipt) : Prop where
  carried : anchor.apply_receipt=receipt
  target : receipt.target=anchor.target
  root : receipt.root_id=anchor.root_id ∧ receipt.root_sha256=anchor.root_sha256
  epoch : receipt.epoch=anchor.epoch
  plan : receipt.plan_sha256=anchor.plan_sha256
  /-- The observed state is the one that the receipt leads to. -/
  prestate : receipt.expected_poststate_sha256=anchor.expected_prestate_sha256
  etag : ∀ observed_etag∈receipt.observed_etag,observed_etag=anchor.provider_etag
  digest : anchor.source_receipt_sha256=functions.receipt_sha256 receipt

section

variable {functions : AuthorityFunctions} {receipt : ExecutionReceipt} {storage_revision : Nat}

theorem reason_of_accepted : needsReason receipt.outcome=receipt.reason_code.isSome ∧
    (receipt.outcome=.ambiguous → receipt.reason_code=some .providerOutcomeAmbiguous) := by
  have haccepted := receipt.accepted
  simp only [validateOutcomeShape,check_bind_eq_ok,require_eq_ok] at haccepted
  exact ⟨haccepted.2.2.2.1,haccepted.2.2.2.2.2.1⟩

theorem reason_of_verified (h : receipt.outcome=.verified) : receipt.reason_code=none := by
  have hreason : needsReason receipt.outcome=receipt.reason_code.isSome := reason_of_accepted.1
  rw [h] at hreason
  have hnone : receipt.reason_code.isSome=false := hreason.symm
  rw [Option.isSome_eq_false_iff,Option.isNone_iff_eq_none] at hnone
  exact hnone

theorem etag_of_verified (h : receipt.outcome=.verified) : receipt.observed_etag≠none := by
  have haccepted := receipt.accepted
  simp only [validateOutcomeShape,check_bind_eq_ok,require_eq_ok] at haccepted
  obtain ⟨-,-,-,-,-,-,-,-,-,-,-,hverified,-⟩ := haccepted
  exact hverified h

/-- A receipt that was denied or failed safe, and a claim, name no operation. -/
theorem operation_of_refused (h : receipt.outcome=.claimed ∨ receipt.outcome=.denied ∨
    receipt.outcome=.failedSafe) : receipt.provider_operation=none := by
  have haccepted := receipt.accepted
  simp only [validateOutcomeShape,check_bind_eq_ok,require_eq_ok] at haccepted
  obtain ⟨-,-,-,-,-,-,hclaimed,hdenied,-,hfailed,-⟩ := haccepted
  rcases h with h | h | h
  · exact (hclaimed h).1
  · exact (hdenied h).1
  · exact (hfailed h).1

theorem operation_of_applied (h : receipt.outcome=.applied) :
    receipt.provider_operation≠none := by
  have haccepted := receipt.accepted
  simp only [validateOutcomeShape,check_bind_eq_ok,require_eq_ok] at haccepted
  obtain ⟨-,-,-,-,-,-,-,-,happlied,-⟩ := haccepted
  exact (happlied h).1

/-- A verified canary of the reference service, bound to its root, has a locator exactly
when it is complete and stored after its result. -/
theorem createRecoveryApplyReceiptLocator_iff (haction : receipt.action=.applyCanary)
    (hverified : receipt.outcome=.verified) (htarget : isServiceClaimTarget receipt.target=true)
    (hbound : RootBound receipt.root_id receipt.root_sha256)
    (hrevision : storage_revision ≤ maxRevision) :
    (∃ locator,createRecoveryApplyReceiptLocator functions receipt storage_revision=.ok locator) ↔
      Complete receipt ∧ 2 ≤ storage_revision := by
  constructor
  · rintro ⟨locator,h⟩
    rw [createRecoveryApplyReceiptLocator,bind_eq_ok] at h
    obtain ⟨operation,hoperation,h⟩ := h
    rw [bind_eq_ok] at h
    obtain ⟨etag,hetag,h⟩ := h
    rw [bind_eq_ok] at h
    obtain ⟨observed,hobserved,h⟩ := h
    rw [requireSome_eq_ok] at hoperation hetag hobserved
    rw [check_bind_eq_ok,require_eq_ok] at h
    obtain ⟨⟨-,-,-,hepoch,hbound⟩,-⟩ := h
    refine ⟨⟨?_,?_,?_⟩,hbound⟩
    · rw [hoperation]
      exact Option.some_ne_none operation
    · rw [hetag]
      exact Option.some_ne_none etag
    · rw [hobserved,hepoch]
  · rintro ⟨⟨hoperation,hetag,hepoch⟩,hlate⟩
    obtain ⟨operation,hoperation⟩ := Option.ne_none_iff_exists'.mp hoperation
    obtain ⟨etag,hetag⟩ := Option.ne_none_iff_exists'.mp hetag
    have hbindings : isServiceClaimTarget receipt.target=true ∧
        receipt.root_id.1="cgroot:"++receipt.root_sha256.1 ∧ receipt.epoch=receipt.epoch :=
      ⟨htarget,hbound,rfl⟩
    have hexact : receipt.action=.applyCanary ∧ receipt.outcome=.verified ∧
        receipt.reason_code=none ∧ receipt.epoch=receipt.epoch ∧ 2 ≤ storage_revision :=
      ⟨haction,hverified,reason_of_verified hverified,rfl,hlate⟩
    rw [createRecoveryApplyReceiptLocator,bind_of_ok (requireSome_eq_ok.mpr hoperation),
      bind_of_ok (requireSome_eq_ok.mpr hetag),bind_of_ok (requireSome_eq_ok.mpr hepoch),
      bind_of_ok (require_of hexact),dif_pos ⟨hlate,hrevision⟩,dif_pos hbindings]
    exact ⟨_,rfl⟩

/-- A recovery receipt of the reference service that left its claim, bound to its root, has
a locator exactly when it is complete once it is verified. -/
theorem createRecoveryReceiptLocator_iff (haction : receipt.action=.recoverStable)
    (hleft : receipt.outcome≠.claimed) (htarget : isServiceClaimTarget receipt.target=true)
    (hbound : RootBound receipt.root_id receipt.root_sha256) (hlow : 1 ≤ storage_revision)
    (hhigh : storage_revision ≤ maxRevision) :
    (∃ locator,createRecoveryReceiptLocator functions receipt storage_revision=.ok locator) ↔
      (receipt.outcome=.verified → Complete receipt) := by
  have hvalid : (recoveryReceiptLocatorFields functions receipt storage_revision).validateLocator=
      .ok () ↔ (receipt.outcome=.verified → Complete receipt) := by
    simp only [RecoveryReceiptLocatorV1Fields.validateLocator,check_bind_eq_ok,require_eq_ok]
    constructor
    · rintro ⟨-,-,-,-,hcomplete⟩ hverified
      obtain ⟨hoperation,hetag,hepoch⟩ := hcomplete hverified
      exact ⟨hoperation,hetag,hepoch⟩
    · intro hcomplete
      refine ⟨⟨hleft,hlow,hhigh⟩,⟨htarget,hbound⟩,reason_of_accepted.1,reason_of_accepted.2,?_⟩
      intro hverified
      have h := hcomplete hverified
      exact ⟨h.operation,h.etag,h.epoch⟩
  have hbegins : createRecoveryReceiptLocator functions receipt storage_revision=
      (match h : (recoveryReceiptLocatorFields functions receipt storage_revision).validateLocator
        with
      | .ok () => .ok ⟨_,h⟩
      | .error raised => .error raised) :=
    bind_of_ok (require_of ⟨haction,hleft,hlow⟩)
  rw [hbegins,← hvalid]
  constructor
  · rintro ⟨locator,h⟩
    split at h
    · rename_i hok
      exact hok
    · cases h
  · intro hok
    refine ⟨⟨_,hok⟩,?_⟩
    split
    · rfl
    · rename_i raised herror
      rw [hok] at herror
      cases herror

end

/-- The conditions of an anchor on a verified canary that it describes hold exactly when
the receipt is complete. -/
theorem receiptMatches_iff {functions : HealthProofFunctions}
    {anchor : PostApplyHealthAnchorV1Fields} {receipt : ExecutionReceipt}
    (hdescribes : Describes functions anchor receipt) (haction : receipt.action=.applyCanary)
    (hverified : receipt.outcome=.verified) :
    anchor.receiptMatches functions ↔ Complete receipt := by
  have hcarried := hdescribes.carried
  unfold PostApplyHealthAnchorV1Fields.receiptMatches
  simp only [hcarried]
  constructor
  · rintro ⟨-,-,-,hoperation,-,-,-,hsame,-,-,hetag,hepoch,-⟩
    refine ⟨hoperation,?_,?_⟩
    · rw [hetag]
      exact Option.some_ne_none _
    · rw [hepoch,hsame]
  · intro h
    obtain ⟨etag,hetag⟩ := Option.ne_none_iff_exists'.mp h.etag
    refine ⟨haction,hverified,reason_of_verified hverified,h.operation,hdescribes.target,
      hdescribes.root.1,hdescribes.root.2,hdescribes.epoch,hdescribes.plan,hdescribes.prestate,?_,
      ?_,hdescribes.digest⟩
    · rw [hetag,hdescribes.etag etag hetag]
    · rw [h.epoch,hdescribes.epoch]

end ControlGraph.RecoveryReceiptLocators
