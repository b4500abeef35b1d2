import ControlGraph.ConsoleRevocations
import ControlGraph.EvidenceIntegrity
import ControlGraph.RevocationBuilding
import ControlGraph.TimelinePageAgreement

/-!
# Outcomes of revocations at the console

The service answers a revocation with the result that it has committed. What the
console accepts is bound to its command in every field. The service names the
signed event by the digest of the whole signed event, and the console compares
that digest with one of the subject of the event. The two digests are taken
under different versions, so that the console refuses every result that a revoker
builds.
-/

namespace ControlGraph.RevocationReadings

open Checks ContractText JsonValues JsonText Utf8Text Utf16Text UtcTimestamps ConsoleCodec
  CodecAgreement ConsoleTimeline ConsoleValues ConsoleRevocations TimelineWire RevocationContracts
  RevocationBuilding AuthorityDatabase

open CanonicalCodec (canonicalJsonValueBytes digestDomain)

open EvidenceIntegrity hiding sampleFunctions sampleCommit

open RootContracts (SignedEvidenceEventV1 RootCreationBundle)

open ReceiptContracts (TargetBinding)

open StorageIdentity (zeroSha256)

open TimelineEntryAgreement (targetView)

open TimelinePageAgreement (plainRuntime units_of_canonical)

/-- An attempt and the result that it committed or adopted. -/
structure EpochRevocationCallOutcomeV1 where
  attempt_id : Identifier
  audit_id : Identifier
  result : EpochRevocationResultV1
  audit_identity : audit_id=attempt_id

def callOutcome (attempt_id : Identifier) (result : EpochRevocationResultV1) :
    EpochRevocationCallOutcomeV1 := ⟨attempt_id,attempt_id,result,rfl⟩

def subjectFields (subject : EpochRevocationEvidenceSubjectV1) : List (String×Json) :=
  [("schema_version",text "controlgraph.epoch-revocation-evidence-subject/v1"),
    ("root_id",text subject.root_id.1),("root_sha256",digest subject.root_sha256),
    ("request_sha256",digest subject.request_sha256),("request_id",text subject.request_id.1),
    ("idempotency_key",text subject.idempotency_key.1),
    ("operator_identity",text subject.operator_identity.1),
    ("operator_subject",text subject.operator_subject.1),("reason",text subject.reason.1),
    ("service_claim_sha256",digest subject.service_claim_sha256),
    ("previous_authority_sha256",digest subject.previous_authority_sha256),
    ("replacement_authority_sha256",digest subject.replacement_authority_sha256),
    ("previous_epoch",integer subject.previous_epoch.1),("new_epoch",integer subject.new_epoch.1),
    ("evidence_id",text subject.evidence_id.1),("committed_at",timestamp subject.committed_at)]

def resultFields (result : EpochRevocationResultV1) : List (String×Json) :=
  [("schema_version",text "controlgraph.epoch-revocation-result/v1"),
    ("result_id",text result.result_id.1),("request_sha256",digest result.request_sha256),
    ("request_id",text result.request_id.1),("idempotency_key",text result.idempotency_key.1),
    ("root_id",text result.root_id.1),("root_sha256",digest result.root_sha256),
    ("target",object (targetFields result.target)),
    ("operator_identity",text result.operator_identity.1),
    ("operator_subject",text result.operator_subject.1),("reason",text result.reason.1),
    ("previous_epoch",integer result.previous_epoch.1),("new_epoch",integer result.new_epoch.1),
    ("evidence_id",text result.evidence_id.1),("evidence_sha256",digest result.evidence_sha256),
    ("evidence_subject",object (subjectFields result.evidence_subject)),
    ("committed_at",timestamp result.committed_at)]

def outcomeFields (outcome : EpochRevocationCallOutcomeV1) : List (String×Json) :=
  [("schema_version",text "controlgraph.epoch-revocation-call-outcome/v1"),
    ("attempt_id",text outcome.attempt_id.1),("audit_id",text outcome.audit_id.1),
    ("result",object (resultFields outcome.result))]

/-- Wire form of an outcome. -/
def outcomeJson (outcome : EpochRevocationCallOutcomeV1) : Json := object (outcomeFields outcome)

theorem named_subject (subject : EpochRevocationEvidenceSubjectV1) : Named (subjectFields subject) :=
  @named_of _ subjectNames rfl (by decide +kernel) (by decide +kernel)

theorem named_result (result : EpochRevocationResultV1) : Named (resultFields result) :=
  @named_of _ resultNames rfl (by decide +kernel) (by decide +kernel)

theorem named_outcome (outcome : EpochRevocationCallOutcomeV1) : Named (outcomeFields outcome) :=
  @named_of _ outcomeNames rfl (by decide +kernel) (by decide +kernel)

theorem uniqueKeys_outcome (outcome : EpochRevocationCallOutcomeV1) :
    (outcomeJson outcome).UniqueKeys := by
  obtain ⟨htext,hinteger,hdigest,htime,-⟩ := TimelinePageAgreement.uniqueKeys_leaves
  have hsubject : (object (subjectFields outcome.result.evidence_subject)).UniqueKeys := by
    refine uniqueKeys_object (named_subject _) ?_
    simp only [subjectFields,List.forall_mem_cons,htext,hinteger,hdigest,htime,List.not_mem_nil,
      false_implies,implies_true,and_self]
  have hresult : (object (resultFields outcome.result)).UniqueKeys := by
    refine uniqueKeys_object (named_result _) ?_
    simp only [resultFields,List.forall_mem_cons,htext,hinteger,hdigest,htime,hsubject,
      TimelinePageAgreement.uniqueKeys_target,List.not_mem_nil,false_implies,implies_true,and_self]
  refine uniqueKeys_object (named_outcome outcome) ?_
  simp only [outcomeFields,List.forall_mem_cons,htext,hresult,List.not_mem_nil,false_implies,
    implies_true,and_self]

section

variable {runtime : ConsoleRuntime}

theorem exactResponseRecord_eq_ok {value : Unknown} {allowed : List String}
    {fields : List (Text×Json)} (h : exactResponseRecord value allowed=.ok fields) :
    value=some (.obj fields) := by
  unfold exactResponseRecord at h
  split at h
  · obtain ⟨-,h⟩ := check_bind_eq_ok.mp h
    rw [Except.ok.inj h]
  · cases h

theorem sameText_eq_true {value : Unknown} {units : Text} :
    sameText value units=true ↔ value=some (.str units) := by
  unfold sameText
  rw [decide_eq_true_eq]
  unfold textOf
  split
  · simp only [Option.some.injEq,Json.str.injEq]
  · rename_i h
    simp only [reduceCtorEq,false_iff]
    exact h units

theorem isNumber_eq_true {value : Unknown} {number : Int} :
    isNumber value number=true ↔ value=some (.int number) := by
  unfold isNumber
  split
  · rw [decide_eq_true_eq]
    simp only [Option.some.injEq,Json.int.injEq]
  · rename_i h
    simp only [Bool.false_eq_true,false_iff]
    exact h number

theorem sameTarget_eq_true {left right : ConsoleTarget} : sameTarget left right=true ↔ left=right := by
  cases left
  cases right
  simp only [sameTarget,Bool.decide_and,Bool.and_eq_true,decide_eq_true_eq,ConsoleTarget.mk.injEq]

/-- The fields that an accepted result has for a command. -/
structure BoundResult (runtime : ConsoleRuntime) (sha256 : Bytes → Sha256Digest)
    (command : RevocationCommand) (credential : OperatorIdentity) (requestSha256 : Text)
    (value subject : List (Text×Json)) (result : RevocationResult) : Prop where
  request : revocationRequestSha256 runtime sha256 command credential=.ok requestSha256
  request_sha256 : property value "request_sha256"=some (.str requestSha256)
  result_id : property value "result_id"=some (.str result.resultId) ∧
    result.resultId=chars "cgrevoke:"++requestSha256
  /-- The evidence is named by the request, the root and the new epoch. -/
  evidence_id : property value "evidence_id"=some (.str result.evidenceId) ∧
    result.evidenceId=expectedEvidence sha256 command requestSha256
  root : property value "root_id"=some (.str command.rootId) ∧
    property value "root_sha256"=some (.str command.rootSha256)
  target : parseResponseTarget (property value "target")=.ok command.expectedTarget
  operator : property value "operator_identity"=some (.str credential.principal) ∧
    property value "operator_subject"=some (.str credential.subject)
  request_fields : property value "request_id"=some (.str command.requestId) ∧
    property value "idempotency_key"=some (.str command.idempotencyKey) ∧
    property value "reason"=some (.str command.reason)
  epochs : property value "previous_epoch"=some (.int command.expectedEpoch) ∧
    property value "new_epoch"=some (.int (command.expectedEpoch+1)) ∧
    result.previousEpoch=command.expectedEpoch ∧ result.newEpoch=command.expectedEpoch+1
  committed_at : property value "committed_at"=some (.str result.committedAt)
  evidence_subject : property value "evidence_subject"=some (.obj subject)
  subject_root : property subject "root_id"=some (.str command.rootId) ∧
    property subject "root_sha256"=some (.str command.rootSha256) ∧
    property subject "request_sha256"=some (.str requestSha256) ∧
    property subject "request_id"=some (.str command.requestId) ∧
    property subject "idempotency_key"=some (.str command.idempotencyKey)
  subject_operator : property subject "operator_identity"=some (.str credential.principal) ∧
    property subject "operator_subject"=some (.str credential.subject) ∧
    property subject "reason"=some (.str command.reason)
  subject_epochs : property subject "previous_epoch"=some (.int command.expectedEpoch) ∧
    property subject "new_epoch"=some (.int (command.expectedEpoch+1)) ∧
    property subject "evidence_id"=some (.str result.evidenceId) ∧
    property subject "committed_at"=some (.str result.committedAt)
  evidence_sha256 : property value "evidence_sha256"=some (.str result.evidenceSha256) ∧
    canonicalSha256 runtime sha256 "controlgraph.epoch-revocation-evidence-subject/v1" (.obj subject)=
      .ok result.evidenceSha256

/-- What the console accepts is bound to its command. -/
theorem bound_of_parsed {sha256 : Bytes → Sha256Digest} {text : Text} {command : RevocationCommand}
    {credential : OperatorIdentity} {result : RevocationResult}
    (h : parseRevocationResult runtime sha256 text command credential=.ok result) :
    ∃ response value subject requestSha256,
      decodeVersionedCanonicalJson runtime.toRuntime text
        (chars "controlgraph.epoch-revocation-call-outcome/v1")=.ok response ∧
      property response "result"=some (.obj value) ∧
      BoundResult runtime sha256 command credential requestSha256 value subject result := by
  have htextOf : ∀ {value : Unknown} {units : Text},textOf value=some units → value=some (.str units) :=
    fun h => sameText_eq_true.mp (decide_eq_true h)
  unfold parseRevocationResult at h
  obtain ⟨response,hresponse,h⟩ := bind_eq_ok.mp h
  obtain ⟨envelope,henvelope,h⟩ := bind_eq_ok.mp h
  obtain ⟨attemptId,-,h⟩ := bind_eq_ok.mp h
  obtain ⟨-,h⟩ := check_bind_eq_ok.mp h
  obtain ⟨-,h⟩ := check_bind_eq_ok.mp h
  obtain ⟨value,hvalue,h⟩ := bind_eq_ok.mp h
  obtain ⟨target,htarget,h⟩ := bind_eq_ok.mp h
  obtain ⟨resultId,hresultId,h⟩ := bind_eq_ok.mp h
  obtain ⟨requestSha256,hrequest,h⟩ := bind_eq_ok.mp h
  obtain ⟨evidenceId,hevidenceId,h⟩ := bind_eq_ok.mp h
  obtain ⟨evidenceSha256,hevidence,h⟩ := bind_eq_ok.mp h
  obtain ⟨committedAt,hcommitted,h⟩ := bind_eq_ok.mp h
  obtain ⟨hfields,h⟩ := check_bind_eq_ok.mp h
  obtain ⟨-,h⟩ := check_bind_eq_ok.mp h
  obtain ⟨-,h⟩ := check_bind_eq_ok.mp h
  obtain ⟨-,h⟩ := check_bind_eq_ok.mp h
  obtain ⟨-,h⟩ := check_bind_eq_ok.mp h
  obtain ⟨parsed,-,h⟩ := bind_eq_ok.mp h
  obtain ⟨-,h⟩ := check_bind_eq_ok.mp h
  obtain ⟨expected,hexpected,h⟩ := bind_eq_ok.mp h
  obtain ⟨hidentities,h⟩ := check_bind_eq_ok.mp h
  obtain ⟨subject,hsubject,h⟩ := bind_eq_ok.mp h
  obtain ⟨hsubjectFields,h⟩ := check_bind_eq_ok.mp h
  obtain ⟨claim,-,h⟩ := bind_eq_ok.mp h
  obtain ⟨previous,-,h⟩ := bind_eq_ok.mp h
  obtain ⟨replacement,-,h⟩ := bind_eq_ok.mp h
  obtain ⟨-,h⟩ := check_bind_eq_ok.mp h
  obtain ⟨-,h⟩ := check_bind_eq_ok.mp h
  obtain ⟨-,h⟩ := check_bind_eq_ok.mp h
  obtain ⟨subjectSha256,hdigest,h⟩ := bind_eq_ok.mp h
  obtain ⟨hsame,h⟩ := check_bind_eq_ok.mp h
  cases Except.ok.inj h
  cases exactResponseRecord_eq_ok henvelope
  simp only [require_eq_ok,sameText_eq_true,isNumber_eq_true,sameTarget_eq_true]
    at hfields hidentities hsubjectFields hsame
  rw [requireSome_eq_ok] at hresultId hrequest hevidenceId hevidence hcommitted
  obtain ⟨-,hroot,hrootSha,hprevious,hnew,hreason,hrequestId,hkey,hoperator,hsubjectId,rfl⟩ := hfields
  obtain ⟨rfl,hresult,hevidenceName⟩ := hidentities
  obtain ⟨-,hsroot,hsrootSha,hsrequest,hsrequestId,hskey,hsoperator,hssubject,hsreason,hsprevious,
    hsnew,hsevidence,hscommitted⟩ := hsubjectFields
  have hnamed : some (Json.str (expectedEvidence sha256 command requestSha256))=
      some (.str evidenceId) := by rw [hevidenceName]
  refine ⟨response,value,subject,requestSha256,mapError_eq_ok.mp hresponse,
    exactResponseRecord_eq_ok hvalue,?_⟩
  exact {
    request := hexpected
    request_sha256 := htextOf hrequest
    result_id := ⟨htextOf hresultId,hresult⟩
    evidence_id := ⟨htextOf hevidenceId,hevidenceName⟩
    root := ⟨hroot,hrootSha⟩
    target := htarget
    operator := ⟨hoperator,hsubjectId⟩
    request_fields := ⟨hrequestId,hkey,hreason⟩
    epochs := ⟨hprevious,hnew,rfl,rfl⟩
    committed_at := htextOf hcommitted
    evidence_subject := exactResponseRecord_eq_ok hsubject
    subject_root := ⟨hsroot,hsrootSha,hsrequest,hsrequestId,hskey⟩
    subject_operator := ⟨hsoperator,hssubject,hsreason⟩
    subject_epochs := ⟨hsprevious,hsnew,hsevidence.trans hnamed,hscommitted⟩
    evidence_sha256 := ⟨htextOf hevidence,hsame ▸ hdigest⟩ }

/-- No digest of a subject is taken over the bytes that one of a signed event is taken over. -/
theorem materials_differ (subject evidence : Bytes) :
    contractMaterial "controlgraph.epoch-revocation-evidence-subject/v1" subject ≠
      contractMaterial "controlgraph.signed-evidence-event/v1" evidence := by
  intro hsame
  simp only [contractMaterial,List.append_assoc] at hsame
  have hversions := congrArg (List.take 14) (List.append_cancel_left hsame)
  have hlengths :
      14 ≤ (textEncoder (chars "controlgraph.epoch-revocation-evidence-subject/v1")).length ∧
        14 ≤ (textEncoder (chars "controlgraph.signed-evidence-event/v1")).length := by
    decide +kernel
  rw [List.take_append_of_le_length hlengths.1,List.take_append_of_le_length hlengths.2] at hversions
  revert hversions
  decide +kernel

/-- What a revoker builds names the signed event by its digest. -/
theorem evidence_sha256_of_built {functions : AuthorityFunctions} {configured_target : TargetBinding}
    {state : EpochRevocationState} {request_sha256 : Sha256Digest} {committed_at : UtcSecond}
    {answer : Option SignedEvidenceEventV1} {commit : EpochRevocationCommitV1}
    (h : buildCommit functions configured_target state request_sha256 committed_at answer=
      .ok commit) :
    commit.result.evidence_sha256=
      functions.canonical_sha256 (.signedEvidence commit.signed_evidence) := by
  unfold buildCommit at h
  obtain ⟨bundle,-,h⟩ := bind_eq_ok.mp h
  obtain ⟨-,h⟩ := check_bind_eq_ok.mp h
  obtain ⟨head,-,h⟩ := bind_eq_ok.mp h
  obtain ⟨-,h⟩ := check_bind_eq_ok.mp h
  obtain ⟨epoch,-,h⟩ := bind_eq_ok.mp h
  obtain ⟨replacement,-,h⟩ := bind_eq_ok.mp h
  obtain ⟨event,-,h⟩ := bind_eq_ok.mp h
  obtain ⟨signed,-,h⟩ := bind_eq_ok.mp h
  obtain ⟨-,h⟩ := check_bind_eq_ok.mp h
  obtain ⟨next,-,h⟩ := bind_eq_ok.mp h
  obtain ⟨-,h⟩ := check_bind_eq_ok.mp h
  cases Except.ok.inj h
  rfl

theorem decodes_outcome {outcome : EpochRevocationCallOutcomeV1} {encoded : Bytes}
    (hencodable : canonicalJsonValueBytes runtime.tables.nfc (outcomeJson outcome)=.ok encoded)
    {text : Units} (htext : encodeUtf8 (fromUnits text.1)=some encoded)
    {response : List (Text×Json)} (hresponse : decodeVersionedCanonicalJson runtime.toRuntime text.1
      (chars "controlgraph.epoch-revocation-call-outcome/v1")=.ok response) :
    response=seenFields (outcomeFields outcome) := by
  have hdecode : decodeCanonicalJson runtime.toRuntime text.1=.ok (seenFields (outcomeFields outcome)) :=
    console_of_canonical (uniqueKeys_outcome outcome) hencodable htext (seen_object _)
  obtain ⟨fields,hfields,h⟩ := bind_eq_ok.mp hresponse
  obtain ⟨version,-,h⟩ := bind_eq_ok.mp h
  obtain ⟨-,h⟩ := check_bind_eq_ok.mp h
  rw [hdecode] at hfields
  rw [← Except.ok.inj h,← Except.ok.inj hfields]

/-- An outcome is accepted only if its digest of the evidence is one of the subject. -/
theorem evidence_of_accepted {sha256 : Bytes → Sha256Digest} {outcome : EpochRevocationCallOutcomeV1}
    {encoded : Bytes}
    (hencodable : canonicalJsonValueBytes runtime.tables.nfc (outcomeJson outcome)=.ok encoded)
    {text : Units} (htext : encodeUtf8 (fromUnits text.1)=some encoded) {command : RevocationCommand}
    {credential : OperatorIdentity} {result : RevocationResult}
    (h : parseRevocationResult runtime sha256 text.1 command credential=.ok result) :
    ∃ canonical,canonicalJson runtime.toRuntime
        (seen (object (subjectFields outcome.result.evidence_subject)))=.ok canonical ∧
      outcome.result.evidence_sha256=sha256 (contractMaterial
        "controlgraph.epoch-revocation-evidence-subject/v1" (textEncoder canonical)) := by
  obtain ⟨response,value,subject,requestSha256,hresponse,hvalue,hbound⟩ := bound_of_parsed h
  rw [decodes_outcome hencodable htext hresponse] at hvalue
  have hsentResult := property_seenFields (named_outcome outcome)
    ("result",object (resultFields outcome.result))
    (by simp only [outcomeFields,List.mem_cons,true_or,or_true])
  rw [hsentResult,seen_object] at hvalue
  have hfields : seenFields (resultFields outcome.result)=value :=
    Json.obj.inj (Option.some.inj hvalue)
  have hresult := property_seenFields (named_result outcome.result)
  rw [hfields] at hresult
  obtain ⟨hevidence,hdigest⟩ := hbound.evidence_sha256
  have hsentEvidence := hresult ("evidence_sha256",digest outcome.result.evidence_sha256)
    (by simp only [resultFields,List.mem_cons,true_or,or_true])
  have hsentSubject := hresult
    ("evidence_subject",object (subjectFields outcome.result.evidence_subject))
    (by simp only [resultFields,List.mem_cons,true_or,or_true])
  rw [hsentEvidence,TimelineWire.digest,seen_text] at hevidence
  have hsame : seen (object (subjectFields outcome.result.evidence_subject))=.obj subject :=
    Option.some.inj (hsentSubject.symm.trans hbound.evidence_subject)
  unfold ConsoleRevocations.canonicalSha256 at hdigest
  obtain ⟨-,hdigest⟩ := check_bind_eq_ok.mp hdigest
  obtain ⟨canonical,hcanonical,hdigest⟩ := bind_eq_ok.mp hdigest
  refine ⟨canonical,?_,?_⟩
  · rw [hsame]
    exact mapError_eq_ok.mp hcanonical
  · have hunits : unitsOf outcome.result.evidence_sha256.1=result.evidenceSha256 :=
      Json.str.inj (Option.some.inj hevidence)
    rw [← Except.ok.inj hdigest] at hunits
    exact Subtype.ext (unitsOf_injective hunits)

/-- The console refuses every outcome whose result a revoker has built, whatever it asked for,
unless the digest of the subject collides with the one of the signed event. What it accepts
is bound to its command and its operator. -/
theorem console_refuses_outcomes (runtime : ConsoleRuntime) (functions : AuthorityFunctions)
    (configured_target : TargetBinding) (state : EpochRevocationState) (request_sha256 : Sha256Digest)
    (committed_at : UtcSecond) (answer : Option SignedEvidenceEventV1)
    (commit : EpochRevocationCommitV1)
    (hbuilt : buildCommit functions configured_target state request_sha256 committed_at answer=
      .ok commit)
    (attempt_id : Identifier) (encoded : Bytes)
    (hencodable : canonicalJsonValueBytes runtime.tables.nfc
      (outcomeJson (callOutcome attempt_id commit.result))=.ok encoded)
    (text : Units) (htext : encodeUtf8 (fromUnits text.1)=some encoded) (signed_bytes : Bytes)
    (hdigest : functions.canonical_sha256 (.signedEvidence commit.signed_evidence)=
      functions.sha256 (contractMaterial "controlgraph.signed-evidence-event/v1" signed_bytes))
    (hcollision : ∀ canonical,canonicalJson runtime.toRuntime
        (seen (object (subjectFields commit.result.evidence_subject)))=.ok canonical →
      functions.sha256 (contractMaterial "controlgraph.signed-evidence-event/v1" signed_bytes)=
        functions.sha256 (contractMaterial "controlgraph.epoch-revocation-evidence-subject/v1"
          (textEncoder canonical)) →
      contractMaterial "controlgraph.signed-evidence-event/v1" signed_bytes=
        contractMaterial "controlgraph.epoch-revocation-evidence-subject/v1"
          (textEncoder canonical))
    (command : RevocationCommand) (credential : OperatorIdentity) :
    (∀ result,parseRevocationResult runtime functions.sha256 text.1 command credential ≠ .ok result) ∧
      ∀ (text : Text) (result : RevocationResult),
        parseRevocationResult runtime functions.sha256 text command credential=.ok result →
        ∃ response value subject requestSha256,
          decodeVersionedCanonicalJson runtime.toRuntime text
            (chars "controlgraph.epoch-revocation-call-outcome/v1")=.ok response ∧
          property response "result"=some (.obj value) ∧
          BoundResult runtime functions.sha256 command credential requestSha256 value subject
            result := by
  refine ⟨?_,fun _ _ h => bound_of_parsed h⟩
  intro result hresult
  obtain ⟨canonical,hcanonical,hevidence⟩ := evidence_of_accepted hencodable htext hresult
  have hsigned : commit.result.evidence_sha256=functions.sha256
      (contractMaterial "controlgraph.signed-evidence-event/v1" signed_bytes) :=
    (evidence_sha256_of_built hbuilt).trans hdigest
  have hsame := hcollision canonical hcanonical (hsigned.symm.trans hevidence)
  exact materials_differ _ _ hsame.symm

end

/-- A digest that is not the one of the other values of the sample. -/
def subjectSha256 : Sha256Digest := ⟨String.ofList (List.replicate 64 '1'),isSha256_one⟩

def sampleFunctions : AuthorityFunctions where
  sha256 := fun bytes =>
    if (contractMaterial "controlgraph.epoch-revocation-evidence-subject/v1" []).isPrefixOf bytes=true
    then subjectSha256 else zeroSha256
  canonical_sha256 := fun contract =>
    match contract with
    | .revocationSubject _ => subjectSha256
    | _ => zeroSha256

def sampleBundle : RootCreationBundle where
  root := ⟨sampleRoot,0,Nat.zero_le _⟩
  service_claim := ⟨sampleClaim,0,Nat.zero_le _⟩
  authority := ⟨sampleAuthority,0,Nat.zero_le _⟩
  lineage_anchor := ⟨RootCreation.capabilityLineageAnchor sampleFunctions sampleRoot,0,Nat.zero_le _⟩
  signed_evidence := ⟨sampleEvidence,0,Nat.zero_le _⟩
  creation_result := ⟨sampleResult,0,Nat.zero_le _⟩

def sampleInvocation : EpochRevocationInvocationV1 where
  command := {
    root_id := sampleRoot.root_id
    expected_root_sha256 := zeroSha256
    expected_epoch := firstEpoch
    request_id := ⟨"revoke",revocationName⟩
    idempotency_key := ⟨"revoke-key",revocationKey⟩
    root_identity := sampleRoot_identity
    reason := ⟨"drill",drill_bounds⟩
    reason_exact := drill_stripped }
  attempt_id := ⟨"attempt",by decide⟩
  operator_identity := sampleOperator
  operator_subject := sampleSubject

def sampleState : EpochRevocationState where
  invocation := sampleInvocation
  root_bundle := some sampleBundle
  chain_head := none
  head_evidence := none
  request_identity := none
  idempotency_identity := none
  result := none
  attempt_audit := none

def sampleAnswer : SignedEvidenceEventV1 where
  event := {
    evidence_id := revocationEvidenceIdentifier sampleFunctions zeroSha256 zeroSha256 ⟨2,two_safe⟩
    sequence := 1
    root_id := sampleRoot.root_id
    root_sha256 := zeroSha256
    target := sampleTarget
    epoch := ⟨2,two_safe⟩
    kind := .epochAdvanced
    actor := sampleOperator
    request_id := some sampleInvocation.command.request_id
    receipt_id := none
    occurred_at := sampleTime
    subject_sha256 := subjectSha256
    previous_event_sha256 := some zeroSha256
    reason_code := none
    provider_operation := none
    target_configuration_sha256 := none
    accepted := by decide +kernel }
  signing_key_version := "1"
  signature := ""

def sampleCommand : RevocationCommand where
  rootId := unitsOf sampleRoot.root_id.1
  rootSha256 := unitsOf zeroSha256.1
  expectedEpoch := 1
  reason := unitsOf "drill"
  requestId := unitsOf "revoke"
  idempotencyKey := unitsOf "revoke-key"
  expectedTarget := targetView sampleTarget

def sampleCredential : OperatorIdentity := ⟨unitsOf sampleOperator.1,unitsOf sampleSubject.1⟩

theorem sample_built : (match buildCommit sampleFunctions sampleTarget sampleState zeroSha256 sampleTime
      (some sampleAnswer) with
    | .ok commit => (canonicalJsonValueBytes id (outcomeJson
        (callOutcome sampleInvocation.attempt_id commit.result))).toBool
    | .error _ => false)=true := by
  decide +kernel

theorem sample_sent : ∃ commit encoded,∃ text : Units,
    buildCommit sampleFunctions sampleTarget sampleState zeroSha256 sampleTime (some sampleAnswer)=
      .ok commit ∧
    canonicalJsonValueBytes plainRuntime.tables.nfc (outcomeJson
      (callOutcome sampleInvocation.attempt_id commit.result))=.ok encoded ∧
    encodeUtf8 (fromUnits text.1)=some encoded := by
  have hsample := sample_built
  cases hbuilt : buildCommit sampleFunctions sampleTarget sampleState zeroSha256 sampleTime
      (some sampleAnswer) with
  | error failure =>
    rw [hbuilt] at hsample
    cases hsample
  | ok commit =>
    rw [hbuilt] at hsample
    dsimp only at hsample
    cases hencoded : canonicalJsonValueBytes id (outcomeJson
        (callOutcome sampleInvocation.attempt_id commit.result)) with
    | error raised =>
      rw [hencoded] at hsample
      cases hsample
    | ok encoded =>
      have hencodable : canonicalJsonValueBytes plainRuntime.tables.nfc (outcomeJson
          (callOutcome sampleInvocation.attempt_id commit.result))=.ok encoded := hencoded
      obtain ⟨text,htext⟩ := units_of_canonical (uniqueKeys_outcome _) hencodable
      exact ⟨commit,encoded,text,rfl,hencodable,htext⟩

theorem sample_signed : sampleFunctions.sha256
    (contractMaterial "controlgraph.signed-evidence-event/v1" [])=zeroSha256 := by
  decide +kernel

/-- The sample tells digests of subjects from all digests of signed events. -/
theorem sample_distinct (subject : Bytes) :
    sampleFunctions.sha256 (contractMaterial "controlgraph.signed-evidence-event/v1" []) ≠
      sampleFunctions.sha256 (contractMaterial "controlgraph.epoch-revocation-evidence-subject/v1"
        subject) := by
  have hsubject : (contractMaterial "controlgraph.epoch-revocation-evidence-subject/v1" []).isPrefixOf
      (contractMaterial "controlgraph.epoch-revocation-evidence-subject/v1" subject)=true := by
    rw [List.isPrefixOf_iff_prefix]
    refine ⟨subject,?_⟩
    simp only [contractMaterial,List.append_nil]
  have hdigest : sampleFunctions.sha256 (contractMaterial
      "controlgraph.epoch-revocation-evidence-subject/v1" subject)=subjectSha256 :=
    @if_pos _ _ hsubject _ subjectSha256 zeroSha256
  rw [sample_signed,hdigest]
  decide +kernel

/-- The console refuses the outcome of the sample for any command and operator. -/
theorem console_refuses_sample : ∃ commit,∃ text : Units,
    buildCommit sampleFunctions sampleTarget sampleState zeroSha256 sampleTime (some sampleAnswer)=
      .ok commit ∧
    ∀ result,parseRevocationResult plainRuntime sampleFunctions.sha256 text.1 sampleCommand
      sampleCredential ≠ .ok result := by
  obtain ⟨commit,encoded,text,hbuilt,hencodable,htext⟩ := sample_sent
  have hdigest : sampleFunctions.canonical_sha256 (.signedEvidence commit.signed_evidence)=
      sampleFunctions.sha256 (contractMaterial "controlgraph.signed-evidence-event/v1" []) :=
    sample_signed.symm
  exact ⟨commit,text,hbuilt,(console_refuses_outcomes plainRuntime sampleFunctions sampleTarget
    sampleState zeroSha256 sampleTime (some sampleAnswer) commit hbuilt sampleInvocation.attempt_id
    encoded hencodable text htext [] hdigest (fun canonical _ hsame =>
      absurd hsame (sample_distinct _)) sampleCommand sampleCredential).1⟩

/-- A built outcome, sent in its canonical text, that the console refuses for the very command and
operator of the revocation. -/
theorem console_misses_sample : ∃ commit encoded,∃ text : Units,
    buildCommit sampleFunctions sampleTarget sampleState zeroSha256 sampleTime (some sampleAnswer)=
      .ok commit ∧
    canonicalJsonValueBytes plainRuntime.tables.nfc (outcomeJson
      (callOutcome sampleInvocation.attempt_id commit.result))=.ok encoded ∧
    encodeUtf8 (fromUnits text.1)=some encoded ∧
    ¬∃ result,parseRevocationResult plainRuntime sampleFunctions.sha256 text.1 sampleCommand
      sampleCredential=.ok result := by
  obtain ⟨commit,encoded,text,hbuilt,hencodable,htext⟩ := sample_sent
  refine ⟨commit,encoded,text,hbuilt,hencodable,htext,?_⟩
  rintro ⟨result,hresult⟩
  obtain ⟨canonical,-,hevidence⟩ := evidence_of_accepted hencodable htext hresult
  have hbuiltDigest : commit.result.evidence_sha256=zeroSha256 := evidence_sha256_of_built hbuilt
  refine sample_distinct (textEncoder canonical) ?_
  rw [sample_signed,← hbuiltDigest]
  exact hevidence

end ControlGraph.RevocationReadings
