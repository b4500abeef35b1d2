import ControlGraph.ReceiptContracts

/-!
# Replacements of an execution receipt

The store accepts a replacement of a receipt when it keeps the immutable
binding, follows a forward transition, moves no time backwards, removes no
evidence and changes no observation that is fixed. A resolution of an
ambiguous receipt adds a fence on the authority and on the service claim of
its root. What one replacement keeps is kept by every sequence of them.
-/

namespace ControlGraph.ReceiptReplacement

open Checks ContractText JsonValues JsonText Utf8Text StorageIdentity ReceiptContracts

/-- Outcomes that may replace an outcome. -/
def receiptTransitions : ReceiptOutcome → List ReceiptOutcome
  | .claimed => [.denied,.applied,.failedSafe,.ambiguous]
  | .ambiguous => [.verified,.ambiguous]
  | .applied => [.verified,.ambiguous]
  | _ => []

/-- Fields of a receipt that name its work. -/
structure ReceiptSemanticBinding where
  receipt_id : Identifier
  request_id : Identifier
  idempotency_key : Identifier
  capability_sha256 : Sha256Digest
  mutation_sha256 : Sha256Digest
  plan_sha256 : Sha256Digest
  expected_poststate_sha256 : Sha256Digest
  target : TargetBinding
  root_id : Identifier
  root_sha256 : Sha256Digest
  epoch : PositiveSafeInteger
  action : CapabilityAction
  provider_etag : OpaqueToken
  dispatch_not_after : UtcSecond
  deriving DecidableEq

/-- The work that a receipt names. -/
def receiptSemanticBinding (receipt : ExecutionReceipt) : ReceiptSemanticBinding where
  receipt_id := receipt.receipt_id
  request_id := receipt.request_id
  idempotency_key := receipt.idempotency_key
  capability_sha256 := receipt.capability_sha256
  mutation_sha256 := receipt.mutation_sha256
  plan_sha256 := receipt.plan_sha256
  expected_poststate_sha256 := receipt.expected_poststate_sha256
  target := receipt.target
  root_id := receipt.root_id
  root_sha256 := receipt.root_sha256
  epoch := receipt.epoch
  action := receipt.action
  provider_etag := receipt.provider_etag
  dispatch_not_after := receipt.dispatch_not_after

/-- The fields that no replacement may change. -/
def receiptCasBinding (receipt : ExecutionReceipt) : ReceiptSemanticBinding×UtcSecond :=
  (receiptSemanticBinding receipt,receipt.created_at)

/-- Require a receipt of the configured target that carries its own claim identity. -/
def validateReceiptIdentity (sha256 : Bytes → Sha256Digest) (configured_target : TargetBinding)
    (receipt : ExecutionReceipt) : Except Raised Sha256Digest := do
  require (receipt.target=configured_target)
    (.valueError "receipt does not match the configured target")
  require (receipt.receipt_id.1=
      (executionReceiptLogicalId sha256 configured_target receipt.idempotency_key).1)
    (.valueError "receipt identifier does not match its idempotency claim")
  return executionReceiptLogicalId sha256 configured_target receipt.idempotency_key

/-- Whether an observation is kept once it is present, and once the claim is left. -/
def keepsObservation {Value : Type} (outcome : ReceiptOutcome) (before after : Option Value) :
    Prop :=
  (before≠none → after=before) ∧ (outcome≠.claimed → before=none → after=none)

instance {Value : Type} [DecidableEq Value] (outcome : ReceiptOutcome)
    (before after : Option Value) : Decidable (keepsObservation outcome before after) :=
  inferInstanceAs (Decidable (_ ∧ _))

/-- Require a permitted replacement of a stored receipt. -/
def validateReceiptReplacement (sha256 : Bytes → Sha256Digest) (configured_target : TargetBinding)
    (expected : StoredRecord ExecutionReceipt) (replacement : ExecutionReceipt) :
    Except Raised Unit := do
  let current := expected.value
  let _ ← validateReceiptIdentity sha256 configured_target current
  let _ ← validateReceiptIdentity sha256 configured_target replacement
  require (receiptCasBinding current=receiptCasBinding replacement)
    (.valueError "receipt replacement changes an immutable binding")
  require (replacement.outcome∈receiptTransitions current.outcome)
    (.valueError "receipt replacement is not a permitted forward transition")
  require (current.updated_at.1 ≤ replacement.updated_at.1)
    (.valueError "receipt replacement moves time backwards")
  require (replacement.evidence_ids.take current.evidence_ids.length=current.evidence_ids)
    (.valueError "receipt replacement removes existing evidence")
  require (keepsObservation current.outcome current.observed_authority_epoch
      replacement.observed_authority_epoch)
    (.valueError "receipt replacement changes its final authority observation")
  require (keepsObservation current.outcome current.provider_operation
      replacement.provider_operation)
    (.valueError "receipt replacement changes its provider operation")
  require (replacement≠current)
    (.valueError "receipt replacement does not change durable state")

/-- Whether an evidence id carries the prefix of readback resolutions. -/
def startsWithMarker (evidence_id : Identifier) : Bool :=
  "cgrrb:".toList.isPrefixOf evidence_id.1.toList

/-- Whether an evidence id is exactly a readback resolution marker. -/
def isReadbackResolutionMarker (evidence_id : Identifier) : Bool :=
  startsWithMarker evidence_id && isSha256 (String.ofList (evidence_id.1.toList.drop 6))

/-- Require a replacement without readback resolution evidence. -/
def rejectGenericReadbackResolutionMarker (replacement : ExecutionReceipt) : Except Raised Unit :=
  require (∀ evidence_id∈replacement.evidence_ids,¬startsWithMarker evidence_id=true)
    (.valueError "readback resolution evidence requires its dedicated operation")

/-- Fence of the resolution of an ambiguous receipt. -/
def resolutionFence (configured_target : TargetBinding) (before replacement : ExecutionReceipt)
    (expected_authority : StoredRecord EpochAuthorityRecord)
    (expected_service_claim : StoredRecord ServiceClaimRecord) : Prop :=
  before.outcome=.ambiguous ∧ before.reason_code=some .providerOutcomeAmbiguous ∧
  before.provider_operation≠none ∧ before.observed_etag≠none ∧
  before.observed_authority_epoch=some before.epoch ∧ replacement.outcome=.verified ∧
  replacement.reason_code=none ∧ replacement.observed_etag≠none ∧
  replacement.evidence_ids.length=before.evidence_ids.length+1 ∧
  replacement.evidence_ids.dropLast=before.evidence_ids ∧
  (∃ marker∈replacement.evidence_ids.getLast?,isReadbackResolutionMarker marker=true) ∧
  expected_authority.value.target=configured_target ∧
  expected_authority.value.root_id=before.root_id ∧
  expected_authority.value.root_sha256=before.root_sha256 ∧
  expected_authority.value.current_epoch=before.epoch ∧
  expected_authority.value.revision=expected_authority.revision ∧
  expected_service_claim.value.version=.v2 ∧ expected_service_claim.value.status=.active ∧
  expected_service_claim.revision%3=0 ∧
  expected_service_claim.value.target=configured_target ∧
  expected_service_claim.value.root_id=before.root_id ∧
  expected_service_claim.value.root_sha256=before.root_sha256

instance (configured_target : TargetBinding) (before replacement : ExecutionReceipt)
    (expected_authority : StoredRecord EpochAuthorityRecord)
    (expected_service_claim : StoredRecord ServiceClaimRecord) :
    Decidable (resolutionFence configured_target before replacement expected_authority
      expected_service_claim) :=
  inferInstanceAs (Decidable (_ ∧ _))

/-- Require a fenced resolution of an ambiguous receipt. -/
def validateAmbiguousReceiptResolution (sha256 : Bytes → Sha256Digest)
    (configured_target : TargetBinding) (expected : StoredRecord ExecutionReceipt)
    (replacement : ExecutionReceipt) (expected_authority : StoredRecord EpochAuthorityRecord)
    (expected_service_claim : StoredRecord ServiceClaimRecord) : Except Raised Unit := do
  validateReceiptReplacement sha256 configured_target expected replacement
  require (resolutionFence configured_target expected.value replacement expected_authority
      expected_service_claim)
    (.valueError "ambiguous receipt resolution fence is invalid")

/-- What an accepted replacement of a receipt keeps and changes. -/
structure Replaces (current replacement : ExecutionReceipt) : Prop where
  binding : receiptCasBinding current=receiptCasBinding replacement
  transition : replacement.outcome∈receiptTransitions current.outcome
  /-- Time does not go backwards. -/
  ordered : current.updated_at.1 ≤ replacement.updated_at.1
  evidence : current.evidence_ids<+: replacement.evidence_ids
  epoch : keepsObservation current.outcome current.observed_authority_epoch
    replacement.observed_authority_epoch
  operation : keepsObservation current.outcome current.provider_operation
    replacement.provider_operation
  changed : replacement≠current

/-- A list is taken back from its own length exactly when it is a prefix. -/
theorem take_length_eq_iff {Item : Type} {first second : List Item} :
    second.take first.length=first ↔ first<+: second :=
  ⟨fun h => List.prefix_iff_eq_take.mpr h.symm,fun h => (List.prefix_iff_eq_take.mp h).symm⟩

section

variable {sha256 : Bytes → Sha256Digest} {configured_target : TargetBinding}

theorem validateReceiptIdentity_eq_ok {receipt : ExecutionReceipt} {logical_id : Sha256Digest} :
    validateReceiptIdentity sha256 configured_target receipt=.ok logical_id ↔
      receipt.target=configured_target ∧ receipt.receipt_id.1=
          (executionReceiptLogicalId sha256 configured_target receipt.idempotency_key).1 ∧
        executionReceiptLogicalId sha256 configured_target receipt.idempotency_key=logical_id := by
  simp only [validateReceiptIdentity,check_bind_eq_ok,require_eq_ok,pure,Except.pure,
    Except.ok.injEq]

/-- A replacement is accepted exactly when both receipts carry their claim
identity and the second replaces the first. -/
theorem validateReceiptReplacement_eq_ok {expected : StoredRecord ExecutionReceipt}
    {replacement : ExecutionReceipt} :
    validateReceiptReplacement sha256 configured_target expected replacement=.ok () ↔
      (∃ logical_id,validateReceiptIdentity sha256 configured_target expected.value=
        .ok logical_id) ∧
      (∃ logical_id,validateReceiptIdentity sha256 configured_target replacement=
        .ok logical_id) ∧ Replaces expected.value replacement := by
  rw [validateReceiptReplacement,bind_eq_ok]
  constructor
  · rintro ⟨first,hfirst,h⟩
    rw [bind_eq_ok] at h
    obtain ⟨second,hsecond,h⟩ := h
    simp only [check_bind_eq_ok,require_eq_ok,take_length_eq_iff] at h
    obtain ⟨hbinding,htransition,hordered,hevidence,hepoch,hoperation,hchanged⟩ := h
    exact ⟨⟨first,hfirst⟩,⟨second,hsecond⟩,
      ⟨hbinding,htransition,hordered,hevidence,hepoch,hoperation,hchanged⟩⟩
  · rintro ⟨⟨first,hfirst⟩,⟨second,hsecond⟩,h⟩
    refine ⟨first,hfirst,?_⟩
    rw [bind_of_ok hsecond]
    simp only [check_bind_eq_ok,require_eq_ok,take_length_eq_iff]
    exact ⟨h.binding,h.transition,h.ordered,h.evidence,h.epoch,h.operation,h.changed⟩

theorem validateAmbiguousReceiptResolution_eq_ok {expected : StoredRecord ExecutionReceipt}
    {replacement : ExecutionReceipt} {expected_authority : StoredRecord EpochAuthorityRecord}
    {expected_service_claim : StoredRecord ServiceClaimRecord} :
    validateAmbiguousReceiptResolution sha256 configured_target expected replacement
        expected_authority expected_service_claim=.ok () ↔
      validateReceiptReplacement sha256 configured_target expected replacement=.ok () ∧
        resolutionFence configured_target expected.value replacement expected_authority
          expected_service_claim := by
  simp only [validateAmbiguousReceiptResolution,check_bind_eq_ok,require_eq_ok]

end

/-- The replacements of stored receipts that the store accepts. -/
inductive StoreAccepts (sha256 : Bytes → Sha256Digest) (configured_target : TargetBinding)
    (expected stored : StoredRecord ExecutionReceipt) : Prop
  /-- A generic replacement, at the next revision. -/
  | compareAndSet
      (hvalid : validateReceiptReplacement sha256 configured_target expected stored.value=.ok ())
      (hunmarked : rejectGenericReadbackResolutionMarker stored.value=.ok ())
      (hrevision : stored.revision=expected.revision+1)
  /-- A fenced resolution, at the next revision. -/
  | resolveAmbiguous (expected_authority : StoredRecord EpochAuthorityRecord)
      (expected_service_claim : StoredRecord ServiceClaimRecord)
      (hvalid : validateAmbiguousReceiptResolution sha256 configured_target expected stored.value
        expected_authority expected_service_claim=.ok ())
      (hrevision : stored.revision=expected.revision+1)

/-- An accepted replacement passed the checks that both operations make. -/
theorem StoreAccepts.valid {sha256 : Bytes → Sha256Digest} {configured_target : TargetBinding}
    {expected stored : StoredRecord ExecutionReceipt}
    (h : StoreAccepts sha256 configured_target expected stored) :
    validateReceiptReplacement sha256 configured_target expected stored.value=.ok () ∧
      stored.revision=expected.revision+1 := by
  cases h with
  | compareAndSet hvalid hunmarked hrevision => exact ⟨hvalid,hrevision⟩
  | resolveAmbiguous expected_authority expected_service_claim hvalid hrevision =>
    exact ⟨(validateAmbiguousReceiptResolution_eq_ok.mp hvalid).1,hrevision⟩

theorem StoreAccepts.replaces {sha256 : Bytes → Sha256Digest} {configured_target : TargetBinding}
    {expected stored : StoredRecord ExecutionReceipt}
    (h : StoreAccepts sha256 configured_target expected stored) :
    Replaces expected.value stored.value :=
  (validateReceiptReplacement_eq_ok.mp h.valid.1).2.2

/-- Outcomes that nothing replaces. -/
def isFinal (outcome : ReceiptOutcome) : Bool := (receiptTransitions outcome).isEmpty

/-- What a receipt keeps through any number of replacements. -/
structure Continues (earlier later : ExecutionReceipt) : Prop where
  binding : receiptCasBinding earlier=receiptCasBinding later
  /-- Time does not go backwards. -/
  ordered : earlier.updated_at.1 ≤ later.updated_at.1
  evidence : earlier.evidence_ids<+: later.evidence_ids
  epoch : keepsObservation earlier.outcome earlier.observed_authority_epoch
    later.observed_authority_epoch
  operation : keepsObservation earlier.outcome earlier.provider_operation later.provider_operation
  claimed : later.outcome=.claimed → later=earlier
  final : isFinal earlier.outcome=true → later=earlier

theorem keepsObservation_refl {Value : Type} {outcome : ReceiptOutcome}
    {observation : Option Value} : keepsObservation outcome observation observation :=
  ⟨fun _ => rfl,fun _ h => h⟩

/-- Kept observations compose when a left claim is not entered again. -/
theorem keepsObservation_trans {Value : Type} {outcome next : ReceiptOutcome}
    {first second third : Option Value} (hnext : next=.claimed → outcome=.claimed)
    (h : keepsObservation outcome first second) (hrest : keepsObservation next second third) :
    keepsObservation outcome first third := by
  constructor
  · intro hpresent
    have hsecond := h.1 hpresent
    rw [hrest.1 (by rw [hsecond]; exact hpresent),hsecond]
  · intro hleft habsent
    exact hrest.2 (fun hclaimed => hleft (hnext hclaimed)) (h.2 hleft habsent)

theorem claimed_not_mem_transitions (outcome : ReceiptOutcome) :
    ReceiptOutcome.claimed∉receiptTransitions outcome := by
  cases outcome <;> decide

theorem Continues.refl (receipt : ExecutionReceipt) : Continues receipt receipt where
  binding := rfl
  ordered := le_refl _
  evidence := List.prefix_refl _
  epoch := keepsObservation_refl
  operation := keepsObservation_refl
  claimed := fun _ => rfl
  final := fun _ => rfl

/-- Continuation is transitive. -/
theorem Continues.trans {first second third : ExecutionReceipt} (h : Continues first second)
    (hrest : Continues second third) : Continues first third where
  binding := h.binding.trans hrest.binding
  ordered := h.ordered.trans hrest.ordered
  evidence := h.evidence.trans hrest.evidence
  epoch := keepsObservation_trans (fun hclaimed => by rw [← h.claimed hclaimed]; exact hclaimed)
    h.epoch hrest.epoch
  operation := keepsObservation_trans (fun hclaimed => by rw [← h.claimed hclaimed]; exact hclaimed)
    h.operation hrest.operation
  claimed := by
    intro hclaimed
    have hsecond := hrest.claimed hclaimed
    have hfirst := h.claimed (by rw [← hsecond]; exact hclaimed)
    rw [hsecond,hfirst]
  final := by
    intro hfinal
    have hsecond := h.final hfinal
    have hthird := hrest.final (by rw [hsecond]; exact hfinal)
    rw [hthird,hsecond]

theorem Replaces.continues {current replacement : ExecutionReceipt}
    (h : Replaces current replacement) : Continues current replacement where
  binding := h.binding
  ordered := h.ordered
  evidence := h.evidence
  epoch := h.epoch
  operation := h.operation
  claimed := by
    intro hclaimed
    have hmem := h.transition
    rw [hclaimed] at hmem
    exact absurd hmem (claimed_not_mem_transitions _)
  final := by
    intro hfinal
    have hmem := h.transition
    rw [List.isEmpty_iff.mp hfinal] at hmem
    cases hmem

theorem Replaces.not_claimed {current replacement : ExecutionReceipt}
    (h : Replaces current replacement) : replacement.outcome≠.claimed := by
  intro hclaimed
  have hmem := h.transition
  rw [hclaimed] at hmem
  exact claimed_not_mem_transitions _ hmem

/-- A verified receipt replaces an applied or an ambiguous one. -/
theorem Replaces.verified_from {current replacement : ExecutionReceipt}
    (h : Replaces current replacement) (hverified : replacement.outcome=.verified) :
    current.outcome=.applied ∨ current.outcome=.ambiguous := by
  have hmem := h.transition
  rw [hverified] at hmem
  cases hcurrent : current.outcome <;> rw [hcurrent] at hmem <;> revert hmem <;> decide

end ControlGraph.ReceiptReplacement
