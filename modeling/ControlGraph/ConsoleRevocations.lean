import ControlGraph.ConsoleValues

/-!
# The console's reader of revocations

After a revocation the console reads the outcome that the service answers with.
The console computes again what it can from its command and the credential of its
operator: the digest of the request, the identity of the evidence, and a digest
of the subject of the evidence. Records may not have unknown fields, and a text
of the response is compared unit by unit.
-/

namespace ControlGraph.ConsoleRevocations

open Checks ContractText JsonValues JsonText Utf8Text Utf16Text UtcTimestamps ConsoleCodec
  ConsoleTimeline ConsoleValues

open CanonicalCodec (digestDomain)

/-- Kinds of the errors that the console shows. -/
inductive OperatorApiErrorKind
  | authenticationRequired | accessDenied | cursorInvalid | staleAuthority | conflict
  | responseInvalid | unavailable
  deriving DecidableEq,Repr

/-- What ends a reader without a result. -/
inductive OperatorRaised
  | operatorApi (kind : OperatorApiErrorKind) (stableCode : Option String)
  /-- An error of the codec, which the reader does not translate. -/
  | contractCodec (message : String)
  deriving DecidableEq,Repr

def responseInvalid : OperatorRaised := .operatorApi .responseInvalid none

/-- The operator that the console knows. -/
structure OperatorIdentity where
  /-- Mail address of the operator. -/
  principal : Text
  subject : Text

/-- A revocation that the console asks for. -/
structure RevocationCommand where
  rootId : Text
  rootSha256 : Text
  expectedEpoch : Int
  reason : Text
  requestId : Text
  idempotencyKey : Text
  expectedTarget : ConsoleTarget

/-- What the console keeps of a revocation. -/
structure RevocationResult where
  resultId : Text
  previousEpoch : Int
  newEpoch : Int
  evidenceId : Text
  evidenceSha256 : Text
  committedAt : Text
  deriving DecidableEq

def revocationRequestDigestDomain : Text := chars "controlgraph.epoch-revocation-request-sha256/v1"++[0]

def revocationEvidenceIdDomain : Text := chars "controlgraph.epoch-revocation-evidence-id/v1"++[0]

/-- Bytes that a digest of a contract is taken over. -/
def contractMaterial (schemaVersion : String) (content : Bytes) : Bytes :=
  digestDomain++textEncoder (chars schemaVersion)++[0]++content

def textOf : Unknown → Option Text
  | some (.str text) => some text
  | _ => none

def sameText (value : Unknown) (text : Text) : Bool := textOf value=some text

/-- A text that must be an identifier. -/
def assertIdentifier (value : Text) (name : String) : Except OperatorRaised Unit :=
  require (asciiPattern isIdentifier value=true)
    (.operatorApi .responseInvalid (some (name.toUpper++"_INVALID")))

/-- A text that must be a digest. -/
def assertDigest (value : Text) (name : String) : Except OperatorRaised Unit :=
  require (asciiPattern isSha256 value=true)
    (.operatorApi .responseInvalid (some (name.toUpper++"_INVALID")))

/-- Fields of a record of the response, which has no unknown one. -/
def exactResponseRecord (value : Unknown) (allowed : List String) :
    Except OperatorRaised (List (Text×Json)) :=
  match value with
  | some (.obj fields) => do
    require (∀ field∈fields,field.1∈allowed.map chars) responseInvalid
    return fields
  | _ => .error responseInvalid

def parseResponseTarget (value : Unknown) : Except OperatorRaised ConsoleTarget := do
  let target ← exactResponseRecord value
    ["schema_version","project_id","region","environment","service_name"]
  require (isText (property target "schema_version") "controlgraph.target-binding/v1"=true)
    responseInvalid
  let project_id ← requireSome (textOf (property target "project_id")) responseInvalid
  let region ← requireSome (textOf (property target "region")) responseInvalid
  let environment ← requireSome (textOf (property target "environment")) responseInvalid
  let service_name ← requireSome (textOf (property target "service_name")) responseInvalid
  return ⟨project_id,region,environment,service_name⟩

def outcomeNames : List String := ["schema_version","attempt_id","audit_id","result"]

def resultNames : List String :=
  ["schema_version","result_id","request_sha256","request_id","idempotency_key","root_id",
    "root_sha256","target","operator_identity","operator_subject","reason","previous_epoch",
    "new_epoch","evidence_id","evidence_sha256","evidence_subject","committed_at"]

/-- Fields of the subject of an event. -/
def subjectNames : List String :=
  ["schema_version","root_id","root_sha256","request_sha256","request_id","idempotency_key",
    "operator_identity","operator_subject","reason","service_claim_sha256",
    "previous_authority_sha256","replacement_authority_sha256","previous_epoch","new_epoch",
    "evidence_id","committed_at"]

/-- What the digest of a request is taken over. -/
def revocationRequest (command : RevocationCommand) (identity : OperatorIdentity) : Json :=
  .obj [(chars "confirmation",.str (chars "REVOKE")),
    (chars "expected_epoch",.int command.expectedEpoch),
    (chars "expected_root_sha256",.str command.rootSha256),
    (chars "idempotency_key",.str command.idempotencyKey),
    (chars "operator_identity",.str identity.principal),
    (chars "operator_subject",.str identity.subject),(chars "reason",.str command.reason),
    (chars "request_id",.str command.requestId),(chars "root_id",.str command.rootId),
    (chars "schema_version",.str (chars "controlgraph.epoch-revocation-request/v1"))]

section

variable (runtime : ConsoleRuntime) (sha256 : Bytes → Sha256Digest)

/-- Canonical text of a value, with the errors of the codec. -/
def canonicalText (value : Json) : Except OperatorRaised Text :=
  (canonicalJson runtime.toRuntime value).mapError .contractCodec

/-- Digest of a contract under its version. -/
def canonicalSha256 (schemaVersion : String) (value : Json) : Except OperatorRaised Text := do
  (assertNfc runtime.toRuntime (unitsOf schemaVersion)).mapError .contractCodec
  let canonical ← canonicalText runtime value
  return unitsOf (sha256 (contractMaterial schemaVersion (textEncoder canonical))).1

/-- Digest of a request of an operator. -/
def revocationRequestSha256 (command : RevocationCommand) (identity : OperatorIdentity) :
    Except OperatorRaised Text := do
  let canonical ← canonicalText runtime (revocationRequest command identity)
  return unitsOf (sha256 (textEncoder revocationRequestDigestDomain++textEncoder canonical)).1

/-- Identity of the evidence of a request. -/
def expectedEvidence (command : RevocationCommand) (requestSha256 : Text) : Text :=
  chars "cgevidence:"++unitsOf (sha256 (textEncoder revocationEvidenceIdDomain++
    textEncoder (requestSha256++[0]++command.rootSha256++[0]++
      chars (toString (command.expectedEpoch+1))))).1

/-- Read the outcome of a revocation. -/
def parseRevocationResult (text : Text) (command : RevocationCommand)
    (credential : OperatorIdentity) : Except OperatorRaised RevocationResult := do
  let response ← (decodeVersionedCanonicalJson runtime.toRuntime text
    (chars "controlgraph.epoch-revocation-call-outcome/v1")).mapError (fun _ => responseInvalid)
  let envelope ← exactResponseRecord (some (.obj response)) outcomeNames
  let attemptId ← requireSome (textOf (property envelope "attempt_id")) responseInvalid
  require (sameText (property envelope "audit_id") attemptId=true) responseInvalid
  assertIdentifier attemptId "attempt"
  let value ← exactResponseRecord (property envelope "result") resultNames
  let target ← parseResponseTarget (property value "target")
  let resultId ← requireSome (textOf (property value "result_id")) responseInvalid
  let requestSha256 ← requireSome (textOf (property value "request_sha256")) responseInvalid
  let evidenceId ← requireSome (textOf (property value "evidence_id")) responseInvalid
  let evidenceSha256 ← requireSome (textOf (property value "evidence_sha256")) responseInvalid
  let committedAt ← requireSome (textOf (property value "committed_at")) responseInvalid
  require (isText (property value "schema_version") "controlgraph.epoch-revocation-result/v1"=true ∧
      sameText (property value "root_id") command.rootId=true ∧
      sameText (property value "root_sha256") command.rootSha256=true ∧
      isNumber (property value "previous_epoch") command.expectedEpoch=true ∧
      isNumber (property value "new_epoch") (command.expectedEpoch+1)=true ∧
      sameText (property value "reason") command.reason=true ∧
      sameText (property value "request_id") command.requestId=true ∧
      sameText (property value "idempotency_key") command.idempotencyKey=true ∧
      sameText (property value "operator_identity") credential.principal=true ∧
      sameText (property value "operator_subject") credential.subject=true ∧
      sameTarget target command.expectedTarget=true) responseInvalid
  assertIdentifier resultId "result"
  assertIdentifier evidenceId "evidence"
  assertDigest requestSha256 "request digest"
  assertDigest evidenceSha256 "evidence digest"
  let parsed ← requireSome (dateParse runtime.toRuntime committedAt) responseInvalid
  require (replaceFirst (chars ".000Z") (chars "Z") (toIsoString parsed)=committedAt) responseInvalid
  let expectedRequestSha256 ← revocationRequestSha256 runtime sha256 command credential
  let expectedEvidenceId := expectedEvidence sha256 command expectedRequestSha256
  require (requestSha256=expectedRequestSha256 ∧
      resultId=chars "cgrevoke:"++expectedRequestSha256 ∧ evidenceId=expectedEvidenceId)
    responseInvalid
  let evidenceSubject ← exactResponseRecord (property value "evidence_subject") subjectNames
  require (isText (property evidenceSubject "schema_version")
        "controlgraph.epoch-revocation-evidence-subject/v1"=true ∧
      sameText (property evidenceSubject "root_id") command.rootId=true ∧
      sameText (property evidenceSubject "root_sha256") command.rootSha256=true ∧
      sameText (property evidenceSubject "request_sha256") expectedRequestSha256=true ∧
      sameText (property evidenceSubject "request_id") command.requestId=true ∧
      sameText (property evidenceSubject "idempotency_key") command.idempotencyKey=true ∧
      sameText (property evidenceSubject "operator_identity") credential.principal=true ∧
      sameText (property evidenceSubject "operator_subject") credential.subject=true ∧
      sameText (property evidenceSubject "reason") command.reason=true ∧
      isNumber (property evidenceSubject "previous_epoch") command.expectedEpoch=true ∧
      isNumber (property evidenceSubject "new_epoch") (command.expectedEpoch+1)=true ∧
      sameText (property evidenceSubject "evidence_id") expectedEvidenceId=true ∧
      sameText (property evidenceSubject "committed_at") committedAt=true) responseInvalid
  let service_claim ← requireSome
    (textOf (property evidenceSubject "service_claim_sha256")) responseInvalid
  let previous_authority ← requireSome
    (textOf (property evidenceSubject "previous_authority_sha256")) responseInvalid
  let replacement_authority ← requireSome
    (textOf (property evidenceSubject "replacement_authority_sha256")) responseInvalid
  assertDigest service_claim "service claim digest"
  assertDigest previous_authority "previous authority digest"
  assertDigest replacement_authority "replacement authority digest"
  let subjectSha256 ← canonicalSha256 runtime sha256
    "controlgraph.epoch-revocation-evidence-subject/v1" (.obj evidenceSubject)
  require (evidenceSha256=subjectSha256) responseInvalid
  return {
    resultId := resultId
    previousEpoch := command.expectedEpoch
    newEpoch := command.expectedEpoch+1
    evidenceId := evidenceId
    evidenceSha256 := evidenceSha256
    committedAt := committedAt }

end

end ControlGraph.ConsoleRevocations
