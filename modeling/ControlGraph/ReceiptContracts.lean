import ControlGraph.StorageIdentity

/-!
# Execution receipts and the records they are bound to

A receipt belongs to one target and idempotency key and moves from a claim to
an outcome. Its validator fixes the shape of every outcome; a receipt value
carries the proof that the validator accepted it. A stored record adds the
revision of its document. The identity of a claim hashes the target and the
key, and the identity of a mutation hashes its whole binding.
-/

namespace ControlGraph.ReceiptContracts

open Checks ContractText JsonValues JsonText Utf8Text StorageIdentity

/-- Exact service coordinates of the configured target. -/
structure TargetBinding where
  project_id : ProjectId
  region : Region
  environment : Identifier
  service_name : CloudRunName
  deriving DecidableEq

/-- Actions that a capability may grant. -/
inductive CapabilityAction
  | applyCanary | promoteCandidate | recoverStable
  deriving DecidableEq,Repr

/-- Wire text of an action. -/
def CapabilityAction.value : CapabilityAction → String
  | .applyCanary => "APPLY_CANARY_V1"
  | .promoteCandidate => "PROMOTE_CANDIDATE_V1"
  | .recoverStable => "RECOVER_STABLE_V1"

/-- Outcomes of an execution receipt. -/
inductive ReceiptOutcome
  | claimed | denied | applied | verified | failedSafe | ambiguous
  deriving DecidableEq,Repr

/-- Public reason codes of the wire contracts. -/
inductive ReasonCode
  | contractInvalid | contractVersionUnsupported | callerUnauthenticated | callerUnauthorized
  | signatureInvalid | keyVersionUntrusted | capabilityExpired | capabilityNotYetValid
  | claimBindingMismatch | targetBindingMismatch | lineageInvalid | scopeAmplification
  | authorityUnavailable | epochMismatch | idempotencyConflict | receiptInProgress
  | transportUnavailable | providerPreconditionFailed | providerRequestRejected
  | providerOutcomeAmbiguous | transitionInvalid | policyUnhealthy
  deriving DecidableEq,Repr

/-- Fields of an execution receipt. -/
structure ExecutionReceiptFields where
  receipt_id : Identifier
  request_id : Identifier
  idempotency_key : Identifier
  capability_sha256 : Sha256Digest
  mutation_sha256 : Sha256Digest
  plan_sha256 : Sha256Digest
  expected_poststate_sha256 : Sha256Digest
  target : TargetBinding
  root_id : Identifier
  root_sha256 : Sha256Digest
  epoch : PositiveSafeInteger
  action : CapabilityAction
  provider_etag : OpaqueToken
  dispatch_not_after : UtcSecond
  outcome : ReceiptOutcome
  /-- Reason of a denied, failed or ambiguous outcome. -/
  reason_code : Option ReasonCode
  provider_operation : Option BoundedText
  observed_etag : Option OpaqueToken
  observed_authority_epoch : Option PositiveSafeInteger
  created_at : UtcSecond
  updated_at : UtcSecond
  evidence_ids : List Identifier
  deriving DecidableEq

/-- Outcomes that need a reason. -/
def needsReason (outcome : ReceiptOutcome) : Bool :=
  outcome==.denied || outcome==.failedSafe || outcome==.ambiguous

def failedSafeReasons : List ReasonCode :=
  [.providerPreconditionFailed,.targetBindingMismatch,.providerRequestRejected]

/-- Check the shape of the outcome of a receipt. -/
def validateOutcomeShape (receipt : ExecutionReceiptFields) : Except Raised Unit := do
  require (receipt.evidence_ids.length≤64) .validationError
  require (receipt.created_at.1 ≤ receipt.updated_at.1)
    (.valueError "receipt timestamps are not ordered")
  require (receipt.created_at.1 ≤ receipt.dispatch_not_after.1)
    (.valueError "receipt dispatch deadline precedes its claim")
  require (needsReason receipt.outcome=receipt.reason_code.isSome)
    (.valueError "receipt reason does not match its outcome")
  require (receipt.outcome=.failedSafe → ∃ reason∈failedSafeReasons,receipt.reason_code=some reason)
    (.valueError "failed-safe receipt reason is invalid")
  require (receipt.outcome=.ambiguous → receipt.reason_code=some .providerOutcomeAmbiguous)
    (.valueError "ambiguous receipt reason is invalid")
  require (receipt.outcome=.claimed → receipt.provider_operation=none ∧
      receipt.observed_etag=none ∧ receipt.observed_authority_epoch=none)
    (.valueError "claimed receipt cannot contain a provider result")
  require (receipt.outcome=.denied → receipt.provider_operation=none ∧ receipt.observed_etag=none)
    (.valueError "denied receipt cannot contain a provider result")
  require (receipt.outcome=.applied → receipt.provider_operation≠none ∧ receipt.observed_etag=none)
    (.valueError "applied receipt result shape is invalid")
  require (receipt.outcome=.failedSafe →
      receipt.provider_operation=none ∧ receipt.observed_etag=none)
    (.valueError "failed-safe receipt cannot contain a provider result")
  require (receipt.reason_code=some .epochMismatch → receipt.observed_authority_epoch≠none ∧
      receipt.observed_authority_epoch≠some receipt.epoch)
    (.valueError "epoch mismatch receipt requires a different observed authority epoch")
  require (receipt.outcome=.verified → receipt.observed_etag≠none)
    (.valueError "verified receipt requires an observed etag")
  require receipt.evidence_ids.Nodup
    (.valueError "receipt evidence identifiers must be unique")

/-- A receipt whose shape was accepted. -/
structure ExecutionReceipt extends fields : ExecutionReceiptFields where
  accepted : validateOutcomeShape fields=.ok ()

theorem ExecutionReceipt.ext_fields {first second : ExecutionReceipt}
    (h : first.fields=second.fields) : first=second := by
  cases first
  cases second
  cases h
  rfl

instance : DecidableEq ExecutionReceipt := fun first second =>
  decidable_of_iff (first.fields=second.fields)
    ⟨ExecutionReceipt.ext_fields,fun h => congrArg ExecutionReceipt.fields h⟩

/-- Greatest revision of a stored document. -/
def maxRevision : Nat := 9007199254740991

theorem one_revision : 1 ≤ maxRevision := by decide

/-- A record with the revision of its document. -/
structure StoredRecord (Record : Type) where
  value : Record
  revision : Nat
  revision_bound : revision ≤ maxRevision
  deriving DecidableEq

def StoredRecord.make {Record : Type} (value : Record) (revision : Nat) :
    Except Raised (StoredRecord Record) :=
  if h : revision ≤ maxRevision then .ok ⟨value,revision,h⟩
  else .error (.valueError "stored record revision is invalid")

/-- A made record keeps its value and revision. -/
theorem StoredRecord.make_eq_ok {Record : Type} {value : Record} {revision : Nat}
    {stored : StoredRecord Record} (h : StoredRecord.make value revision=.ok stored) :
    stored.value=value ∧ stored.revision=revision := by
  unfold StoredRecord.make at h
  split at h
  · rw [← Except.ok.inj h]
    exact ⟨rfl,rfl⟩
  · cases h

/-- Exact service coordinates of a mutation binding. -/
structure MutationTargetKey where
  project_id : String
  region : String
  environment : String
  service_name : String
  deriving DecidableEq

def TargetBinding.key (target : TargetBinding) : MutationTargetKey where
  project_id := target.project_id.1
  region := target.region.1
  environment := target.environment.1
  service_name := target.service_name.1

/-- JSON of service coordinates. -/
def MutationTargetKey.json (target : MutationTargetKey) : Json :=
  .obj [(chars "environment",.str (chars target.environment)),
    (chars "project_id",.str (chars target.project_id)),
    (chars "region",.str (chars target.region)),
    (chars "service_name",.str (chars target.service_name))]

def receiptClaimIdentityDomain : Bytes := asciiBytes "controlgraph.receipt-claim-identity/v1"++[0]

/-- The receipt claim shared by every reuse of one target key. -/
def receiptClaimIdentity (sha256 : Bytes → Sha256Digest) (target : MutationTargetKey)
    (idempotency_key : String) : Sha256Digest :=
  sha256 (receiptClaimIdentityDomain++utf8Bytes (dumpsSorted (.obj
    [(chars "idempotency_key",.str (chars idempotency_key)),
      (chars "schema_version",.str (chars "controlgraph.receipt-claim-identity/v1")),
      (chars "target",target.json)])))

/-- One target-bound claim identity for an idempotency key. -/
def executionReceiptLogicalId (sha256 : Bytes → Sha256Digest) (target : TargetBinding)
    (idempotency_key : Identifier) : Sha256Digest :=
  receiptClaimIdentity sha256 target.key idempotency_key.1

/-- Document id of one target-bound idempotency claim. -/
def executionReceiptDocumentId (sha256 : Bytes → Sha256Digest) (target : TargetBinding)
    (idempotency_key : Identifier) : Except Raised Sha256Digest :=
  documentId sha256 .executionReceipt (executionReceiptLogicalId sha256 target idempotency_key).1

theorem executionReceiptDocumentId_ok (sha256 : Bytes → Sha256Digest) (target : TargetBinding)
    (idempotency_key : Identifier) : ∃ document_id,
      executionReceiptDocumentId sha256 target idempotency_key=.ok document_id :=
  documentId_eq_ok.mpr (isIdentifier_digest _)

def epochAuthorityDocumentId (sha256 : Bytes → Sha256Digest) (root_id : Identifier) :
    Except Raised Sha256Digest :=
  documentId sha256 .epochAuthority root_id.1

/-- Complete immutable binding owned by one idempotency key. -/
structure MutationBinding where
  idempotency_key : String
  request_id : String
  root_id : String
  root_sha256 : Sha256Digest
  epoch : Nat
  action : CapabilityAction
  target : MutationTargetKey
  provider_precondition : String
  plan_sha256 : Sha256Digest
  capability_sha256 : Sha256Digest
  payload_sha256 : Sha256Digest
  expected_poststate_sha256 : Sha256Digest
  deriving DecidableEq

def mutationIdentityDomain : Bytes := asciiBytes "controlgraph.mutation-identity/v1"++[0]

/-- One domain-separated identity for an exact mutation binding. -/
def mutationIdentity (sha256 : Bytes → Sha256Digest) (binding : MutationBinding) : Sha256Digest :=
  sha256 (mutationIdentityDomain++utf8Bytes (dumpsSorted (.obj
    [(chars "action",.str (chars binding.action.value)),
      (chars "capability_sha256",.str (chars binding.capability_sha256.1)),
      (chars "epoch",.int binding.epoch),
      (chars "expected_poststate_sha256",.str (chars binding.expected_poststate_sha256.1)),
      (chars "idempotency_key",.str (chars binding.idempotency_key)),
      (chars "payload_sha256",.str (chars binding.payload_sha256.1)),
      (chars "plan_sha256",.str (chars binding.plan_sha256.1)),
      (chars "provider_precondition",.str (chars binding.provider_precondition)),
      (chars "request_id",.str (chars binding.request_id)),
      (chars "root_id",.str (chars binding.root_id)),
      (chars "root_sha256",.str (chars binding.root_sha256.1)),
      (chars "schema_version",.str (chars "controlgraph.mutation-identity/v1")),
      (chars "target",binding.target.json)])))

/-- Whether a receipt carries exactly a mutation binding. -/
def receiptMatchesBinding (sha256 : Bytes → Sha256Digest) (receipt : ExecutionReceipt)
    (binding : MutationBinding) : Prop :=
  receipt.idempotency_key.1=binding.idempotency_key ∧ receipt.request_id.1=binding.request_id ∧
  receipt.root_id.1=binding.root_id ∧ receipt.root_sha256=binding.root_sha256 ∧
  receipt.epoch.1=binding.epoch ∧ receipt.action=binding.action ∧
  receipt.target.key=binding.target ∧ receipt.provider_etag.1=binding.provider_precondition ∧
  receipt.plan_sha256=binding.plan_sha256 ∧ receipt.capability_sha256=binding.capability_sha256 ∧
  receipt.mutation_sha256=mutationIdentity sha256 binding ∧
  receipt.expected_poststate_sha256=binding.expected_poststate_sha256

instance (sha256 : Bytes → Sha256Digest) (receipt : ExecutionReceipt) (binding : MutationBinding) :
    Decidable (receiptMatchesBinding sha256 receipt binding) :=
  inferInstanceAs (Decidable (_ ∧ _))

/-- Causes of an epoch change. -/
inductive EpochChangeCause
  | rootCreated | operatorRevocation | supersession | recovery
  deriving DecidableEq,Repr

/-- Fields of the authority of one root. -/
structure EpochAuthorityRecordFields where
  root_id : Identifier
  root_sha256 : Sha256Digest
  target : TargetBinding
  current_epoch : PositiveSafeInteger
  previous_epoch : Option PositiveSafeInteger
  revision : Nat
  cause : EpochChangeCause
  /-- Who made the last change. -/
  changed_by : BoundedText
  request_id : Identifier
  evidence_id : Identifier
  changed_at : UtcSecond
  deriving DecidableEq

/-- Check the shape of an authority transition. -/
def validateTransitionShape (authority : EpochAuthorityRecordFields) : Except Raised Unit := do
  require (authority.revision ≤ maxRevision) .validationError
  if authority.cause=.rootCreated then
    require (authority.current_epoch.1=1 ∧ authority.previous_epoch=none ∧ authority.revision=0)
      (.valueError "initial authority must use epoch one, no previous epoch, and revision zero")
  else
    require ((∃ previous∈authority.previous_epoch,authority.current_epoch.1=previous.1+1) ∧
      1 ≤ authority.revision) (.valueError "authority transition must advance exactly one epoch")
  require (authority.current_epoch.1=authority.revision+1)
    (.valueError "authority epoch and revision must advance together")

/-- The authority of one root. -/
structure EpochAuthorityRecord extends fields : EpochAuthorityRecordFields where
  accepted : validateTransitionShape fields=.ok ()

instance : DecidableEq EpochAuthorityRecord := fun first second =>
  decidable_of_iff (first.fields=second.fields) ⟨fun h => by
    cases first
    cases second
    cases h
    rfl,fun h => congrArg EpochAuthorityRecord.fields h⟩

/-- Lifecycle of the claim on one service. -/
inductive ServiceClaimStatus
  | active | releasing | released
  deriving DecidableEq,Repr

/-- Versions of the service claim. -/
inductive ServiceClaimVersion
  | v2 | v3
  deriving DecidableEq,Repr

/-- The claim of one root on a service. The fields that no modelled operation
reads are kept as their canonical text, so that equal claims have equal fields. -/
structure ServiceClaimRecord where
  version : ServiceClaimVersion
  target : TargetBinding
  root_id : Identifier
  root_sha256 : Sha256Digest
  status : ServiceClaimStatus
  release_fence_epoch : Option PositiveSafeInteger
  release_fence_authority_revision : Option Nat
  release_fenced_by : Option BoundedText
  release_fence_request_id : Option Identifier
  release_fence_evidence_id : Option Identifier
  release_fenced_at : Option UtcSecond
  others : String
  deriving DecidableEq

end ControlGraph.ReceiptContracts
