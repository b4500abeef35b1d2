import ControlGraph.RootContracts

/-!
# Contracts of an epoch revocation

An operator asks to end the current epoch of one root. The request has a digest
over everything that the operator controls, and the accepted revocation has a
result, an audit, and identities that claim the request, its idempotency key
and the new epoch. The evidence of a revocation is named by the request, the root
and the new epoch. Digests of requests are over sorted JSON text.
-/

namespace ControlGraph.RevocationContracts

open Checks ContractText JsonValues JsonText Utf8Text StorageIdentity ReceiptContracts RootContracts

/-- Text of at most 512 characters. -/
abbrev ShortText := {text : String // 1 ≤ text.length ∧ text.length≤512}

/-- Whether a text starts and ends without whitespace. -/
def isStripped (text : String) : Bool :=
  text.toList.head?.all (fun character => !ContractText.isSpace character) &&
    text.toList.getLast?.all (fun character => !ContractText.isSpace character)

/-- The reason of the samples is exact. -/
theorem drill_stripped : isStripped "drill"=true := by decide

/-- Identifiers that one revocation reserves. -/
inductive EpochRevocationIdentityKind
  | request | idempotency | epoch
  deriving DecidableEq,Repr

def EpochRevocationIdentityKind.value : EpochRevocationIdentityKind → String
  | .request => "REQUEST"
  | .idempotency => "IDEMPOTENCY"
  | .epoch => "EPOCH"

/-- Dispositions of an authenticated attempt. -/
inductive EpochRevocationAuditOutcome
  | committed | adopted | denied
  deriving DecidableEq,Repr

/-- Denials of a revocation. -/
inductive EpochRevocationFailureCode
  | callerDenied | commandDenied | rootNotFound | rootMismatch | activeClaimRequired
  | epochMismatch | identityConflict | trustedStateInvalid | evidenceDenied | storeUnavailable
  | outcomeUnknown | proofDenied
  deriving DecidableEq,Repr

/-- A request to advance the epoch of one root. -/
structure EpochRevocationCommandV1 extends StorageIdentity.EpochRevocationCommandV1 where
  reason : ShortText
  reason_exact : isStripped reason.1=true

/-- A command with the operator facts that its digest binds. -/
structure EpochRevocationInvocationV1 where
  command : EpochRevocationCommandV1
  attempt_id : Identifier
  operator_identity : BoundedText
  operator_subject : GoogleSubject

/-- The authority transition that the evidence is about. -/
structure EpochRevocationEvidenceSubjectV1 where
  root_id : Identifier
  root_sha256 : Sha256Digest
  request_sha256 : Sha256Digest
  request_id : Identifier
  idempotency_key : Identifier
  operator_identity : BoundedText
  operator_subject : GoogleSubject
  reason : ShortText
  service_claim_sha256 : Sha256Digest
  previous_authority_sha256 : Sha256Digest
  replacement_authority_sha256 : Sha256Digest
  previous_epoch : PositiveSafeInteger
  new_epoch : PositiveSafeInteger
  evidence_id : Identifier
  committed_at : UtcSecond
  /-- The evidence advances exactly one epoch. -/
  transition : new_epoch.1=previous_epoch.1+1
  deriving DecidableEq

/-- Ownership of one identity. -/
structure EpochRevocationIdentityV1 where
  identity_kind : EpochRevocationIdentityKind
  identity_value : Identifier
  root_id : Identifier
  root_sha256 : Sha256Digest
  request_sha256 : Sha256Digest
  result_id : Identifier
  claimed_at : UtcSecond
  deriving DecidableEq

/-- A committed result. -/
structure EpochRevocationResultV1 where
  result_id : Identifier
  request_sha256 : Sha256Digest
  request_id : Identifier
  idempotency_key : Identifier
  root_id : Identifier
  root_sha256 : Sha256Digest
  target : TargetBinding
  operator_identity : BoundedText
  operator_subject : GoogleSubject
  reason : ShortText
  previous_epoch : PositiveSafeInteger
  new_epoch : PositiveSafeInteger
  evidence_id : Identifier
  evidence_sha256 : Sha256Digest
  evidence_subject : EpochRevocationEvidenceSubjectV1
  committed_at : UtcSecond
  deriving DecidableEq

/-- Fields of the audit of an attempt. -/
structure EpochRevocationAuditFields where
  audit_id : Identifier
  attempt_id : Identifier
  request_sha256 : Sha256Digest
  root_id : Identifier
  root_sha256 : Sha256Digest
  expected_epoch : PositiveSafeInteger
  request_id : Identifier
  idempotency_key : Identifier
  operator_identity : BoundedText
  operator_subject : GoogleSubject
  outcome : EpochRevocationAuditOutcome
  /-- Why the attempt was denied. -/
  failure_code : Option EpochRevocationFailureCode
  result_id : Option Identifier
  evidence_id : Option Identifier
  new_epoch : Option PositiveSafeInteger
  recorded_at : UtcSecond
  deriving DecidableEq

/-- Check the shape of an audit. -/
def validateAuditOutcome (audit : EpochRevocationAuditFields) : Except Raised Unit :=
  if audit.outcome=.denied then
    require (audit.failure_code≠none ∧ audit.result_id=none ∧ audit.evidence_id=none ∧
      audit.new_epoch=none) (.valueError "denied revocation audit shape is invalid")
  else
    require (audit.failure_code=none ∧ audit.result_id≠none ∧ audit.evidence_id≠none ∧
      audit.new_epoch≠none) (.valueError "successful revocation audit shape is invalid")

/-- The audit of one attempt. -/
structure EpochRevocationAuditV1 extends fields : EpochRevocationAuditFields where
  accepted : validateAuditOutcome fields=.ok ()

instance : DecidableEq EpochRevocationAuditV1 := fun first second =>
  decidable_of_iff (first.fields=second.fields) ⟨fun h => by
    cases first
    cases second
    cases h
    rfl,fun h => congrArg EpochRevocationAuditV1.fields h⟩

/-- What a revocation writes. -/
structure EpochRevocationCommitV1 where
  replacement_authority : EpochAuthorityRecord
  evidence_subject : EpochRevocationEvidenceSubjectV1
  signed_evidence : SignedEvidenceEventV1
  chain_head : EvidenceChainHeadV1
  result : EpochRevocationResultV1
  request_identity : EpochRevocationIdentityV1
  idempotency_identity : EpochRevocationIdentityV1
  audit : EpochRevocationAuditV1

/-- The view that a revocation was decided on. -/
structure EpochRevocationState where
  invocation : EpochRevocationInvocationV1
  root_bundle : Option RootCreationBundle
  chain_head : Option (StoredRecord EvidenceChainHeadV1)
  head_evidence : Option (StoredRecord SignedEvidenceEventV1)
  request_identity : Option (StoredRecord EpochRevocationIdentityV1)
  idempotency_identity : Option (StoredRecord EpochRevocationIdentityV1)
  result : Option (StoredRecord EpochRevocationResultV1)
  attempt_audit : Option (StoredRecord EpochRevocationAuditV1)

variable (sha256 : Bytes → Sha256Digest)

/-- Digest of everything that the operator of a revocation controls. -/
def epochRevocationRequestSha256 (invocation : EpochRevocationInvocationV1) : Sha256Digest :=
  sha256 (asciiBytes "controlgraph.epoch-revocation-request-sha256/v1"++[0]++
    utf8Bytes (dumpsSorted (.obj
      [(chars "confirmation",.str (chars "REVOKE")),
        (chars "expected_epoch",.int invocation.command.expected_epoch.1),
        (chars "expected_root_sha256",.str (chars invocation.command.expected_root_sha256.1)),
        (chars "idempotency_key",.str (chars invocation.command.idempotency_key.1)),
        (chars "operator_identity",.str (chars invocation.operator_identity.1)),
        (chars "operator_subject",.str (chars invocation.operator_subject.1)),
        (chars "reason",.str (chars invocation.command.reason.1)),
        (chars "request_id",.str (chars invocation.command.request_id.1)),
        (chars "root_id",.str (chars invocation.command.root_id.1)),
        (chars "schema_version",.str (chars "controlgraph.epoch-revocation-request/v1"))])))

def epochRevocationEvidenceId (request_sha256 root_sha256 : Sha256Digest)
    (new_epoch : PositiveSafeInteger) : String :=
  "cgevidence:"++(sha256 (asciiBytes "controlgraph.epoch-revocation-evidence-id/v1"++[0]++
    asciiBytes request_sha256.1++[0]++asciiBytes root_sha256.1++[0]++
    asciiBytes (toString new_epoch.1))).1

/-- Check the bindings of a result. -/
def validateRevocationResult (result : EpochRevocationResultV1) : Except Raised Unit :=
  let subject := result.evidence_subject
  require (result.root_id.1="cgroot:"++result.root_sha256.1 ∧
      result.new_epoch.1=result.previous_epoch.1+1 ∧
      result.result_id.1="cgrevoke:"++result.request_sha256.1 ∧
      result.evidence_id.1=epochRevocationEvidenceId sha256 result.request_sha256
        result.root_sha256 result.new_epoch ∧
      subject.root_id=result.root_id ∧ subject.root_sha256=result.root_sha256 ∧
      subject.request_sha256=result.request_sha256 ∧ subject.request_id=result.request_id ∧
      subject.idempotency_key=result.idempotency_key ∧
      subject.operator_identity=result.operator_identity ∧
      subject.operator_subject=result.operator_subject ∧ subject.reason=result.reason ∧
      subject.previous_epoch=result.previous_epoch ∧ subject.new_epoch=result.new_epoch ∧
      subject.evidence_id=result.evidence_id ∧ subject.committed_at=result.committed_at)
    (.valueError "revocation result identity or transition is invalid")

end ControlGraph.RevocationContracts
