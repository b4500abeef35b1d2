import ControlGraph.CompletionBytes

/-!
# Exactness of the classifier

A valid bundle whose canonical text is within the bound of a contract is classified, as
complete exactly when its evidence completes the claim. The classifier hashes
the bundle, so it raises on a bundle that is too long. Such bundles are valid: a signature
may have sixteen thousand characters, and a bundle holds two.
-/

namespace ControlGraph.CompletionExactness

open Checks CanonicalCodec ConsoleValues ContractText JsonSizes JsonText JsonValues ReceiptContracts StorageIdentity
  TimelinePageSizes TimelineReading TimelineWire Utf8Text VerificationContracts VerificationRules
  CompletionBytes CompletionClassification CompletionLayers CompletionSizes

open TimelineContracts (KeyVersionResource)

/-- Bytes of the canonical text of a bundle. -/
def bundleBytes (bundle : CompletionEvidenceBundleV1) : Nat :=
  byteLength (dumpsSorted (object (bundleFields bundle)))

section

variable {functions : VerificationFunctions} {bundle : CompletionEvidenceBundleV1}

/-- A plain value that fits is hashed. -/
theorem canonicalSha256_ok {schema_version : String} {value : Json}
    (hplain : Plain functions.tables 0 value) (hsize : jsonBytes value ≤ maxContractBytes) :
    ∃ sha256,canonicalSha256 functions schema_version value=.ok sha256 := by
  obtain ⟨encoded,hencoded⟩ := (encodable_iff hplain.unique).mpr ⟨hplain.restricted,hsize⟩
  exact ⟨_,bind_eq_ok.mpr ⟨encoded,hencoded,rfl⟩⟩

/-- A plain value that does not fit is refused for its bytes. -/
theorem canonicalSha256_error {schema_version : String} {value : Json}
    (hplain : Plain functions.tables 0 value) (hsize : maxContractBytes < jsonBytes value) :
    canonicalSha256 functions schema_version value=
      .error (invalid "canonical JSON is outside its byte bounds") := by
  have hnone : ∀ encoded,canonicalJsonValueBytes functions.tables.nfc value≠.ok encoded := by
    intro encoded hencoded
    have hfits := ((encodable_iff hplain.unique).mp ⟨encoded,hencoded⟩).2
    omega
  obtain ⟨encoded,hencoded,hfits⟩ :=
    canonicalJsonValueBytes_of_restricted hplain.unique hplain.restricted
  have hlong : ¬(encoded≠[] ∧ encoded.length ≤ maxContractBytes) :=
    fun hbounds => hnone encoded (hfits hbounds.2)
  have hvalid : orRaise (invalid "canonical JSON encoding failed")
      (validateRestricted functions.tables.nfc 0 value)=.ok () := by
    rw [orRaise_eq_ok]
    exact hplain.restricted
  refine bind_eq_error.mpr (.inl ?_)
  have hread : someOrRaise (invalid "canonical JSON encoding failed")
      (encodeUtf8 (dumpsSorted value))=.ok encoded := by
    rw [hencoded]
    rfl
  unfold canonicalJsonValueBytes
  rw [bind_of_ok hvalid,bind_of_ok hread]
  exact bind_eq_error.mpr (.inl (require_eq_error.mpr ⟨hlong,rfl⟩))

/-- The traffic that completes a rollout is the one of its action. -/
theorem percentages (h : ValidBundle functions bundle) :
    (bundle.request.kind=.promotion → bundle.request.verification.stable_percent.1=0 ∧
      bundle.request.verification.candidate_percent.1=100) ∧
    (bundle.request.kind=.recovery → bundle.request.verification.stable_percent.1=100 ∧
      bundle.request.verification.candidate_percent.1=0) := by
  have hrequest := h.request
  unfold validateAssessment at hrequest
  obtain ⟨hbindings,hrequest⟩ := check_bind_eq_ok.mp hrequest
  obtain ⟨hpromotion,hrecovery,-⟩ := require_eq_ok.mp hrequest
  unfold validateBindings at hbindings
  obtain ⟨policy,-,hbindings⟩ := bind_eq_ok.mp hbindings
  obtain ⟨policy_sha256,-,hbindings⟩ := bind_eq_ok.mp hbindings
  obtain ⟨-,-,-,-,-,hpercent,-⟩ := require_eq_ok.mp hbindings
  constructor
  · intro hkind
    rw [hpromotion hkind] at hpercent
    exact Prod.mk.inj hpercent
  · intro hkind
    rw [hrecovery hkind] at hpercent
    exact Prod.mk.inj hpercent

/-- A valid bundle that is too long makes the classifier raise. -/
theorem oversize_raises (hvalid : validateBundle functions bundle=.ok ())
    (hlong : maxContractBytes < bundleBytes bundle) :
    classifyCompletion functions bundle=
      .error (.codec (invalid "canonical JSON is outside its byte bounds")) := by
  have hbundle : ValidBundle functions bundle := validateBundle_eq_ok.mp hvalid
  rw [bundleBytes,byteLength_dumpsSorted] at hlong
  exact classifyCompletion_error hbundle
    (canonicalSha256_error (plain_bundle (Nat.zero_le _) hbundle) hlong)

/-- A valid bundle that fits is classified without an error, and as complete exactly
when its evidence completes the claim. -/
theorem classification_is_exact (hvalid : validateBundle functions bundle=.ok ())
    (hfits : bundleBytes bundle ≤ maxContractBytes) :
    ∃ classification,classifyCompletion functions bundle=.ok classification ∧
      validateTerminalShape classification=.ok () ∧ classification.request=bundle.request ∧
      (classification.status=.complete ↔ Completes bundle) ∧
      (bundle.request.kind=.promotion → bundle.request.verification.stable_percent.1=0 ∧
        bundle.request.verification.candidate_percent.1=100) ∧
      (bundle.request.kind=.recovery → bundle.request.verification.stable_percent.1=100 ∧
        bundle.request.verification.candidate_percent.1=0) := by
  have hbundle : ValidBundle functions bundle := validateBundle_eq_ok.mp hvalid
  rw [bundleBytes,byteLength_dumpsSorted] at hfits
  obtain ⟨bundle_sha256,hdigest⟩ :=
    canonicalSha256_ok (plain_bundle (Nat.zero_le _) hbundle) hfits
  obtain ⟨classification,hclassified,hshape,hrequest,-,hiff⟩ :=
    classifyCompletion_eq hbundle hdigest
  exact ⟨classification,hclassified,hshape,hrequest,hiff,percentages hbundle⟩

end

theorem sampleNames_valid : isRegion "us-central1"=true ∧ isIdentifier "nonprod"=true ∧
    (isHyphenatedName "controlgraph-reference-target".toList=true ∧
      "controlgraph-reference-target".length≤63) ∧
    (isHyphenatedName "controlgraph-reference-target-stable-00001".toList=true ∧
      "controlgraph-reference-target-stable-00001".length≤63) ∧
    (isHyphenatedName "controlgraph-reference-target-candidate-00002".toList=true ∧
      "controlgraph-reference-target-candidate-00002".length≤63) ∧
    isIdentifier "promotion-request-00000001"=true ∧
    isIdentifier "promotion-correlation-0001"=true ∧
    isIdentifier "controlgraph-reference-target-candidate-00002"=true ∧
    TimelineContracts.isKeyVersion
      "projects/canary/locations/us-central1/keyRings/evidence/cryptoKeys/verify/cryptoKeyVersions/1"=true ∧
    (byteList ("cgroot:"++zeroSha256.1)).all isPlainByte=true ∧
    2+(byteList ("cgroot:"++zeroSha256.1)).length=73 := by
  decide +kernel

def sampleTarget : TargetBinding where
  project_id := ⟨"controlgraph-canary-chain1",chainProject⟩
  region := ⟨"us-central1",chainRegion⟩
  environment := ⟨"nonprod",chainEnvironment⟩
  service_name := ⟨"controlgraph-reference-target",chainService⟩

def sampleStable : CloudRunName := 
  ⟨"controlgraph-reference-target-stable-00001",sampleNames_valid.2.2.2.1⟩

def sampleCandidate : CloudRunName :=
  ⟨"controlgraph-reference-target-candidate-00002",sampleNames_valid.2.2.2.2.1⟩

def sampleVerifier : BoundedText :=
  ⟨"controlgraph-verifier@controlgraph-canary-chain1.iam.gserviceaccount.com",by decide⟩

def sampleTime : UtcSecond := ⟨1700000100,later_bounds⟩

def sampleVerification : VerificationRequestV1 where
  root_id := ⟨"cgroot:"++zeroSha256.1,isIdentifier_root zeroSha256⟩
  root_sha256 := zeroSha256
  epoch := firstEpoch
  target := sampleTarget
  plan_sha256 := zeroSha256
  service_claim_sha256 := zeroSha256
  probe_policy_sha256 := zeroSha256
  signed_intent_sha256 := zeroSha256
  action := .promoteCandidate
  stable_revision := sampleStable
  candidate_revision := sampleCandidate
  stable_percent := ⟨0,by decide⟩
  candidate_percent := ⟨100,by decide⟩
  concurrency := ⟨80,by decide⟩
  expected_stable_revision_configuration_sha256 := zeroSha256
  expected_candidate_revision_configuration_sha256 := zeroSha256
  expected_target_configuration_sha256 := zeroSha256
  observation_window_started_at := ⟨1700000000,time_bounds⟩
  observation_window_ends_at := ⟨1700000200,by omega⟩
  request_id := ⟨"promotion-request-00000001",sampleNames_valid.2.2.2.2.2.1⟩
  correlation_id := ⟨"promotion-correlation-0001",sampleNames_valid.2.2.2.2.2.2.1⟩

def sampleFacts : ConfigurationObservationFactsV1 where
  target := sampleTarget
  source_generation := ⟨7,by decide⟩
  observed_generation := ⟨7,seven_safe⟩
  provider_etag := ⟨"generation-7",by decide +kernel⟩
  reconciling := false
  ready_state := .ready
  template_revision := sampleCandidate
  latest_created_revision := sampleCandidate
  latest_ready_revision := sampleCandidate
  stable_revision := sampleStable
  candidate_revision := sampleCandidate
  traffic := [⟨sampleCandidate,⟨100,by decide⟩⟩]
  traffic_statuses := [⟨sampleCandidate,⟨100,by decide⟩⟩]
  concurrency := ⟨80,by decide⟩
  stable_revision_configuration_sha256 := zeroSha256
  candidate_revision_configuration_sha256 := zeroSha256
  target_configuration_sha256 := zeroSha256
  retrieved_by := sampleVerifier
  retrieved_at := sampleTime

def sampleConfiguration : ConfigurationAttestationV1 where
  request := sampleVerification
  request_sha256 := zeroSha256
  status := .matched
  reason := .matched
  observation := some ⟨sampleFacts,zeroSha256⟩
  attested_by := sampleVerifier
  attested_at := sampleTime

def sampleEvidence (kind : IndependentVerificationKind) (reason_code : BoundedText) :
    IndependentVerificationEvidenceV1 where
  kind := kind
  verification_request_sha256 := zeroSha256
  root_id := sampleVerification.root_id
  root_sha256 := zeroSha256
  epoch := firstEpoch
  target := sampleTarget
  plan_sha256 := zeroSha256
  service_claim_sha256 := zeroSha256
  probe_policy_sha256 := zeroSha256
  signed_intent_sha256 := zeroSha256
  action := .promoteCandidate
  stable_revision := sampleStable
  candidate_revision := sampleCandidate
  stable_percent := ⟨0,by decide⟩
  candidate_percent := ⟨100,by decide⟩
  concurrency := ⟨80,by decide⟩
  request_id := sampleVerification.request_id
  correlation_id := sampleVerification.correlation_id
  observation_window_started_at := sampleVerification.observation_window_started_at
  observation_window_ends_at := sampleVerification.observation_window_ends_at
  subject_sha256 := zeroSha256
  verdict := .matched
  reason_code := reason_code
  verifier_identity := sampleVerifier
  occurred_at := sampleTime

/-- Reason of the configuration read of the sample. -/
def configurationMatch : BoundedText := ⟨"CONFIGURATION_MATCH",by decide⟩

/-- Reason of the probe of the sample. -/
def probeMatch : BoundedText := ⟨"PROBE_MATCH",by decide⟩

def sampleCorrelation (index : Nat) : String :=
  "promotion-correlation-0001"++":"++toString index

theorem sampleCorrelation_plain : ∀ index : Fin 20,
    isIdentifier (sampleCorrelation (index.1+1))=true ∧
      (byteList (sampleCorrelation (index.1+1))).all isPlainByte=true ∧
      2+(byteList (sampleCorrelation (index.1+1))).length=29+digitBytes (index.1+1) := by
  decide +kernel

def sampleMarker : Identifier :=
  ⟨"controlgraph-reference-target-candidate-00002",sampleNames_valid.2.2.2.2.2.2.2.1⟩

def sampleAnswer (index : Fin 20) : ProbeSampleObservationV1 where
  sample_index := ⟨index.1+1,Nat.succ_pos _,index.2⟩
  correlation_id := ⟨sampleCorrelation (index.1+1),(sampleCorrelation_plain index).1⟩
  requested_at := sampleTime
  completed_at := sampleTime
  outcome := .candidate
  revision := some sampleCandidate
  marker := some sampleMarker
  response_sha256 := some zeroSha256

def sampleAnswers : List ProbeSampleObservationV1 := (List.finRange 20).map sampleAnswer

def samplePolicy : ProbePolicyV1 := ⟨⟨0,none_counted⟩,⟨0,none_counted⟩,⟨20,all_counted⟩,⟨20,all_counted⟩⟩

def sampleNonce : ProbeNonce := ⟨"00000000000000000000000000000000",by decide⟩

def sampleProbe (endpoint : AudienceText) : ProbeAttestationV1 where
  request :=
    { verification := sampleVerification
      policy := samplePolicy
      endpoint
      nonce := sampleNonce
      started_at := sampleTime }
  request_sha256 := zeroSha256
  status := .matched
  reason := .matched
  observation :=
    { samples := ⟨sampleAnswers,by simp only [sampleAnswers,List.length_map,List.length_finRange]⟩
      stable_count := ⟨0,none_counted⟩
      candidate_count := ⟨20,all_counted⟩
      invalid_count := ⟨0,none_counted⟩
      unavailable_count := ⟨0,none_counted⟩
      observation_sha256 := zeroSha256 }
  attested_by := sampleVerifier
  completed_at := sampleTime

def sampleKey : KeyVersionResource :=
  ⟨"projects/canary/locations/us-central1/keyRings/evidence/cryptoKeys/verify/cryptoKeyVersions/1",
    sampleNames_valid.2.2.2.2.2.2.2.2.1⟩

def sampleSigned (evidence : IndependentVerificationEvidenceV1) (signature : Base64Url) :
    SignedIndependentVerificationEvidenceV1 where
  evidence := evidence
  signing_key_version := sampleKey
  payload_sha256 := zeroSha256
  signing_input_sha256 := zeroSha256
  signature := signature

def sampleExecution : ExecutionCompletionEvidenceV1 where
  root_id := sampleVerification.root_id
  root_sha256 := zeroSha256
  epoch := firstEpoch
  target := sampleTarget
  plan_sha256 := zeroSha256
  service_claim_sha256 := zeroSha256
  probe_policy_sha256 := zeroSha256
  signed_intent_sha256 := zeroSha256
  request_id := sampleVerification.request_id
  correlation_id := sampleVerification.correlation_id
  observation_window_started_at := sampleVerification.observation_window_started_at
  observation_window_ends_at := sampleVerification.observation_window_ends_at
  action := .promoteCandidate
  outcome := .verified
  reason_code := none
  observed_authority_epoch := some firstEpoch
  receipt_sha256 := zeroSha256
  write_outcome_known := true

def sampleAssessment : CompletionAssessmentRequestV1 :=
  ⟨.promotion,sampleVerification,⟨1700000300,end_bounds⟩⟩

def sampleVerifiedConfiguration (signature : Base64Url) :
    VerifiedIndependentVerificationEvidenceV1 where
  signing_request :=
    ⟨some sampleConfiguration,none,sampleEvidence .configuration configurationMatch⟩
  signed_evidence := sampleSigned (sampleEvidence .configuration configurationMatch) signature
  verified_at := sampleTime

def sampleVerifiedProbe (endpoint : AudienceText) (signature : Base64Url) :
    VerifiedIndependentVerificationEvidenceV1 where
  signing_request := ⟨none,some (sampleProbe endpoint),sampleEvidence .probe probeMatch⟩
  signed_evidence := sampleSigned (sampleEvidence .probe probeMatch) signature
  verified_at := sampleTime

def sampleBundle (endpoint : AudienceText) (signature : Base64Url) : CompletionEvidenceBundleV1 where
  request := sampleAssessment
  execution := some sampleExecution
  configuration := some (sampleVerifiedConfiguration signature)
  probe := some (sampleVerifiedProbe endpoint signature)
  authority := none

def sampleEndpoint : AudienceText := ⟨"https://probe.example/v1/probe",by decide⟩

def sampleFunctions (host : String) : VerificationFunctions where
  sha256 := fun _ => zeroSha256
  tables := default
  urlsplit := fun _ => some ⟨"https",some host,none,none,some none,"/v1/probe","",""⟩

def sampleSignature : Base64Url := ⟨"signature",by decide⟩

theorem root_bytes : textBytes sampleVerification.root_id.1=73 :=
  (textBytes_plain sampleNames_valid.2.2.2.2.2.2.2.2.2.1).trans sampleNames_valid.2.2.2.2.2.2.2.2.2.2

theorem stable_bytes : textBytes sampleStable.1=44 := text_bytes rfl rfl

theorem candidate_bytes : textBytes sampleCandidate.1=47 := text_bytes rfl rfl

theorem request_bytes : textBytes sampleVerification.request_id.1=28 := text_bytes rfl rfl

theorem correlation_bytes : textBytes sampleVerification.correlation_id.1=28 := text_bytes rfl rfl

theorem verifier_bytes : textBytes sampleVerifier.1=74 := text_bytes rfl rfl

theorem nonce_bytes : textBytes sampleNonce.1=34 := text_bytes rfl rfl

theorem key_bytes : textBytes sampleKey.1=95 := text_bytes rfl rfl

theorem action_bytes : textBytes CapabilityAction.promoteCandidate.value=22 := text_bytes rfl rfl

theorem target_bytes : targetBytes sampleTarget=187 := by
  have hproject : textBytes sampleTarget.project_id.1=28 := text_bytes rfl rfl
  have hregion : textBytes sampleTarget.region.1=13 := text_bytes rfl rfl
  have henvironment : textBytes sampleTarget.environment.1=9 := text_bytes rfl rfl
  have hservice : textBytes sampleTarget.service_name.1=31 := text_bytes rfl rfl
  rw [targetBytes,hproject,hregion,henvironment,hservice]

theorem total_bytes {names total : Nat} {sizes known : List Nat} (h : sizes=known)
    (htotal : names+known.sum=total) : names+sizes.sum=total := by
  rw [h]
  exact htotal

theorem verification_bytes : jsonBytes (object (verificationFields sampleVerification))=1537 := by
  rw [jsonBytes_verification]
  refine @total_bytes _ _ _ [38,textBytes sampleVerification.root_id.1,66,1,targetBytes sampleTarget,66,66,66,66,
    textBytes CapabilityAction.promoteCandidate.value,textBytes sampleStable.1,
    textBytes sampleCandidate.1,1,3,2,66,66,66,22,22,textBytes sampleVerification.request_id.1,
    textBytes sampleVerification.correlation_id.1] rfl ?_
  rw [root_bytes,stable_bytes,candidate_bytes,request_bytes,correlation_bytes,action_bytes,target_bytes]
  rfl

theorem facts_bytes : jsonBytes (object (factsFields sampleFacts))=1370 := by
  have hetag : textBytes sampleFacts.provider_etag.1=14 := text_bytes rfl rfl
  have hready : textBytes ConfigurationReadyState.ready.value=7 := text_bytes rfl rfl
  have htraffic : jsonBytes (trafficJson sampleFacts.traffic)=76 := by rfl
  rw [jsonBytes_facts]
  refine @total_bytes _ _ _ [49,targetBytes sampleTarget,1,1,textBytes sampleFacts.provider_etag.1,5,
    textBytes ConfigurationReadyState.ready.value,textBytes sampleCandidate.1,
    textBytes sampleCandidate.1,textBytes sampleCandidate.1,textBytes sampleStable.1,
    textBytes sampleCandidate.1,jsonBytes (trafficJson sampleFacts.traffic),
    jsonBytes (trafficJson sampleFacts.traffic),2,66,66,66,textBytes sampleVerifier.1,22] rfl ?_
  rw [target_bytes,hetag,hready,candidate_bytes,stable_bytes,htraffic,verifier_bytes]
  rfl

theorem observation_bytes :
    jsonBytes (object (configurationObservationFields ⟨sampleFacts,zeroSha256⟩))=1529 := by
  have hfacts : jsonBytes (object (factsFields (ConfigurationObservationV1.mk sampleFacts
      zeroSha256).facts))=1370 := facts_bytes
  rw [jsonBytes_configurationObservation,hfacts]
  rfl

theorem configuration_bytes :
    jsonBytes (object (configurationFields sampleConfiguration))=3412 := by
  have hstatus : textBytes ConfigurationAttestationStatus.matched.value=7 := text_bytes rfl rfl
  have hreason : textBytes ConfigurationAttestationReason.matched.value=21 := text_bytes rfl rfl
  rw [jsonBytes_configuration]
  refine @total_bytes _ _ _ [43,jsonBytes (object (verificationFields sampleVerification)),66,
    textBytes ConfigurationAttestationStatus.matched.value,
    textBytes ConfigurationAttestationReason.matched.value,
    jsonBytes (object (configurationObservationFields ⟨sampleFacts,zeroSha256⟩)),
    textBytes sampleVerifier.1,22] rfl ?_
  rw [verification_bytes,hstatus,hreason,observation_bytes,verifier_bytes]
  rfl

theorem evidence_bytes (kind : IndependentVerificationKind) (reason_code : BoundedText) :
    jsonBytes (object (evidenceFields (sampleEvidence kind reason_code)))=
      1565+textBytes kind.value+textBytes reason_code.1 := by
  have hverdict : textBytes IndependentVerificationVerdict.matched.value=7 := text_bytes rfl rfl
  rw [jsonBytes_evidence]
  refine @total_bytes _ _ _ [51,textBytes kind.value,66,textBytes sampleVerification.root_id.1,66,1,
    targetBytes sampleTarget,66,66,66,66,textBytes CapabilityAction.promoteCandidate.value,
    textBytes sampleStable.1,textBytes sampleCandidate.1,1,3,2,
    textBytes sampleVerification.request_id.1,textBytes sampleVerification.correlation_id.1,22,22,
    66,textBytes IndependentVerificationVerdict.matched.value,textBytes reason_code.1,
    textBytes sampleVerifier.1,22] rfl ?_
  rw [root_bytes,target_bytes,action_bytes,stable_bytes,candidate_bytes,request_bytes,
    correlation_bytes,hverdict,verifier_bytes]
  clear hverdict
  simp only [List.sum_cons,List.sum_nil]
  omega

theorem execution_bytes : jsonBytes (object (executionFields sampleExecution))=1253 := by
  have houtcome : textBytes (receiptOutcomeValue .verified)=10 := text_bytes rfl rfl
  rw [jsonBytes_execution]
  refine @total_bytes _ _ _ [47,textBytes sampleVerification.root_id.1,66,1,targetBytes sampleTarget,66,66,66,66,4,
    textBytes sampleVerification.request_id.1,textBytes sampleVerification.correlation_id.1,22,22,
    textBytes CapabilityAction.promoteCandidate.value,textBytes (receiptOutcomeValue .verified),4,
    1,66,4,4] rfl ?_
  rw [root_bytes,target_bytes,request_bytes,correlation_bytes,action_bytes,houtcome]
  rfl

theorem answerCorrelation_bytes (index : Fin 20) :
    textBytes (sampleCorrelation (index.1+1))=29+digitBytes (index.1+1) := by
  have hplain := sampleCorrelation_plain index
  exact (textBytes_plain hplain.2.1).trans hplain.2.2

theorem answer_bytes (index : Fin 20) :
    jsonBytes (object (sampleFields (sampleAnswer index)))=423+2*digitBytes (index.1+1) := by
  have houtcome : textBytes ProbeSampleOutcome.candidate.value=11 := text_bytes rfl rfl
  rw [jsonBytes_sample]
  refine @total_bytes _ _ _ [42,digitBytes (index.1+1),textBytes (sampleCorrelation (index.1+1)),
    22,22,textBytes ProbeSampleOutcome.candidate.value,textBytes sampleCandidate.1,
    textBytes sampleCandidate.1,jsonBytes (digest zeroSha256)] rfl ?_
  rw [answerCorrelation_bytes,houtcome,candidate_bytes,jsonBytes_digest]
  clear houtcome
  simp only [List.sum_cons,List.sum_nil]
  omega

theorem answers_bytes : jsonBytes (samplesJson sampleAnswers)=8543 := by
  have hsum : arrayBytes ((List.finRange 20).map fun index : Fin 20 =>
      423+2*digitBytes (index.1+1))=8543 := by
    decide
  rw [samplesJson,sampleAnswers,List.map_map]
  exact (jsonBytes_items (List.finRange 20) fun index _ => answer_bytes index).trans hsum

theorem policy_bytes : jsonBytes (object (policyFields samplePolicy))=235 := by
  rw [jsonBytes_policy]
  exact @total_bytes _ _ _ [30,2,4,1,4,1,1,2,2] rfl rfl

theorem probeRequest_bytes (endpoint : AudienceText) :
    jsonBytes (object (probeRequestFields (sampleProbe endpoint).request))=
      1939+textBytes endpoint.1 := by
  rw [jsonBytes_probeRequest]
  refine @total_bytes _ _ _ [31,jsonBytes (object (verificationFields sampleVerification)),
    jsonBytes (object (policyFields samplePolicy)),textBytes endpoint.1,textBytes sampleNonce.1,
    22] rfl ?_
  rw [verification_bytes,policy_bytes,nonce_bytes]
  simp only [List.sum_cons,List.sum_nil]
  omega

theorem probe_bytes (endpoint : AudienceText) :
    jsonBytes (object (probeFields (sampleProbe endpoint)))=11044+textBytes endpoint.1 := by
  have hstatus : textBytes ProbeAttestationStatus.matched.value=7 := text_bytes rfl rfl
  have hreason : textBytes ProbeAttestationReason.matched.value=13 := text_bytes rfl rfl
  have hobservation :
      jsonBytes (object (probeObservationFields (sampleProbe endpoint).observation))=8774 := by
    rw [jsonBytes_probeObservation]
    refine @total_bytes _ _ _ [35,jsonBytes (samplesJson sampleAnswers),1,2,1,1,66] rfl ?_
    rw [answers_bytes]
    rfl
  rw [jsonBytes_probe,hobservation,probeRequest_bytes]
  refine @total_bytes _ _ _ [35,1939+textBytes endpoint.1,66,textBytes ProbeAttestationStatus.matched.value,
    textBytes ProbeAttestationReason.matched.value,8774,textBytes sampleVerifier.1,22] rfl ?_
  rw [hstatus,hreason,verifier_bytes]
  simp only [List.sum_cons,List.sum_nil]
  omega

theorem signed_bytes (evidence : IndependentVerificationEvidenceV1) (signature : Base64Url) :
    jsonBytes (object (signedEvidenceFields (sampleSigned evidence signature)))=
      473+jsonBytes (object (evidenceFields evidence))+textBytes signature.1 := by
  rw [jsonBytes_signed]
  refine @total_bytes _ _ _ [58,jsonBytes (object (evidenceFields evidence)),26,textBytes sampleKey.1,21,66,66,
    textBytes signature.1] rfl ?_
  rw [key_bytes]
  simp only [List.sum_cons,List.sum_nil]
  omega

theorem verifiedConfiguration_bytes (signature : Base64Url) :
    jsonBytes (object (verifiedFields (sampleVerifiedConfiguration signature)))=
      7360+textBytes signature.1 := by
  have hkind : textBytes IndependentVerificationKind.configuration.value=15 := text_bytes rfl rfl
  have hreason : textBytes configurationMatch.1=21 := text_bytes rfl rfl
  have hrequest : jsonBytes (object (signingRequestFields
      (sampleVerifiedConfiguration signature).signing_request))=5132 := by
    rw [jsonBytes_signingRequest]
    refine @total_bytes _ _ _ [58,jsonBytes (object (configurationFields sampleConfiguration)),4,
      jsonBytes (object (evidenceFields (sampleEvidence .configuration configurationMatch)))] rfl ?_
    rw [configuration_bytes,evidence_bytes,hkind,hreason]
    rfl
  rw [jsonBytes_verified,hrequest]
  refine @total_bytes _ _ _ [60,5132,jsonBytes (object (signedEvidenceFields
    (sampleSigned (sampleEvidence .configuration configurationMatch) signature))),22] rfl ?_
  rw [signed_bytes,evidence_bytes,hkind,hreason]
  clear hkind hreason hrequest
  simp only [List.sum_cons,List.sum_nil]
  omega

theorem verifiedProbe_bytes (endpoint : AudienceText) (signature : Base64Url) :
    jsonBytes (object (verifiedFields (sampleVerifiedProbe endpoint signature)))=
      14960+textBytes endpoint.1+textBytes signature.1 := by
  have hkind : textBytes IndependentVerificationKind.probe.value=7 := text_bytes rfl rfl
  have hreason : textBytes probeMatch.1=13 := text_bytes rfl rfl
  have hrequest : jsonBytes (object (signingRequestFields
      (sampleVerifiedProbe endpoint signature).signing_request))=12748+textBytes endpoint.1 := by
    rw [jsonBytes_signingRequest]
    refine @total_bytes _ _ _ [58,4,jsonBytes (object (probeFields (sampleProbe endpoint))),
      jsonBytes (object (evidenceFields (sampleEvidence .probe probeMatch)))] rfl ?_
    rw [probe_bytes,evidence_bytes,hkind,hreason]
    clear hkind hreason
    simp only [List.sum_cons,List.sum_nil]
    omega
  rw [jsonBytes_verified,hrequest]
  refine @total_bytes _ _ _ [60,12748+textBytes endpoint.1,jsonBytes (object (signedEvidenceFields
    (sampleSigned (sampleEvidence .probe probeMatch) signature))),22] rfl ?_
  rw [signed_bytes,evidence_bytes,hkind,hreason]
  clear hkind hreason hrequest
  simp only [List.sum_cons,List.sum_nil]
  omega

theorem assessment_bytes (endpoint : AudienceText) (signature : Base64Url) :
    jsonBytes (object (assessmentFields (sampleBundle endpoint signature).request))=1675 := by
  have hkind : textBytes CompletionKind.promotion.value=11 := text_bytes rfl rfl
  rw [jsonBytes_assessment]
  refine @total_bytes _ _ _ [47,textBytes CompletionKind.promotion.value,
    jsonBytes (object (verificationFields sampleVerification)),22] rfl ?_
  rw [hkind,verification_bytes]
  rfl

theorem sample_bytes (endpoint : AudienceText) (signature : Base64Url) :
    jsonBytes (object (bundleFields (sampleBundle endpoint signature)))=
      25378+textBytes endpoint.1+2*textBytes signature.1 := by
  rw [jsonBytes_bundle,assessment_bytes]
  refine @total_bytes _ _ _ [44,1675,jsonBytes (object (executionFields sampleExecution)),
    jsonBytes (object (verifiedFields (sampleVerifiedConfiguration signature))),
    jsonBytes (object (verifiedFields (sampleVerifiedProbe endpoint signature))),4] rfl ?_
  rw [execution_bytes,verifiedConfiguration_bytes,verifiedProbe_bytes]
  simp only [List.sum_cons,List.sum_nil]
  omega

section

variable {host : String}

theorem sample_digest {schema_version : String} {value : Json}
    (hplain : Plain (sampleFunctions host).tables 0 value)
    (hsize : jsonBytes value ≤ 65536) :
    canonicalSha256 (sampleFunctions host) schema_version value=.ok zeroSha256 := by
  obtain ⟨sha256,hdigest⟩ := @canonicalSha256_ok _ schema_version _ hplain hsize
  obtain ⟨canonical,-,hsame⟩ := bind_eq_ok.mp hdigest
  rw [hdigest,← Except.ok.inj hsame]
  rfl

theorem sample_verificationSha256 :
    verificationSha256 (sampleFunctions host) sampleVerification=.ok zeroSha256 :=
  sample_digest (plain_verification (Nat.zero_le _) _) (by rw [verification_bytes]; decide)

theorem sample_policySha256 : policySha256 (sampleFunctions host) samplePolicy=.ok zeroSha256 :=
  sample_digest (plain_policy (Nat.zero_le _) _) (by rw [policy_bytes]; decide)

theorem sample_window : timestampInWindow sampleTime sampleVerification := by
  decide

/-- The revisions, the facts and the answers of the sample are as the checks want them. -/
theorem sample_decided : (sampleStable≠sampleCandidate ∧
      (sampleTarget.service_name.1++"-").toList.isPrefixOf sampleStable.1.toList=true ∧
      (sampleTarget.service_name.1++"-").toList.isPrefixOf sampleCandidate.1.toList=true) ∧
    (sampleFacts.retrieved_by.1=RootContracts.verifierIdentity sampleTarget ∧
      configurationAttestationReason sampleVerification sampleFacts=.matched) ∧
    (share sampleFacts.traffic sampleStable=0 ∧ share sampleFacts.traffic sampleCandidate=100) ∧
    outcomeCount sampleAnswers .stable=0 ∧
    outcomeCount sampleAnswers .candidate=20 ∧ outcomeCount sampleAnswers .responseInvalid=0 ∧
    outcomeCount sampleAnswers .transportUnavailable=0 ∧
    sampleAnswers.map (fun sample => sample.sample_index.1)=List.range' 1 20 ∧
    (sampleAnswers.map fun sample => sample.correlation_id).Nodup := by
  decide +kernel

theorem sample_bindings : validateBindings (sampleFunctions host) sampleVerification=.ok () := by
  refine bind_eq_ok.mpr ⟨samplePolicy,rfl,?_⟩
  refine bind_eq_ok.mpr ⟨zeroSha256,mapError_eq_ok.mpr sample_policySha256,require_of ?_⟩
  obtain ⟨hrevisions,hstable,hcandidate⟩ := sample_decided.1
  exact ⟨rfl,rfl,hrevisions,hstable,hcandidate,rfl,rfl,by decide,by decide⟩

theorem sample_facts : validateFacts sampleFacts=.ok () :=
  check_bind_eq_ok.mpr ⟨require_of (by decide),
    require_of ⟨List.nodup_singleton _,List.nodup_singleton _,rfl,rfl⟩⟩

theorem sample_configuration :
    validateConfiguration (sampleFunctions host) sampleConfiguration=.ok () := by
  have hplain := @plain_facts (sampleFunctions host).tables 0 (Nat.zero_le _) sampleFacts
    (by decide) (by decide) (isAscii_ofList rfl)
  have hfacts : factsSha256 (sampleFunctions host) sampleFacts=.ok zeroSha256 :=
    sample_digest hplain (by rw [facts_bytes]; decide)
  have hobserved : validateObserved (sampleFunctions host) sampleConfiguration.observation=.ok () :=
    check_bind_eq_ok.mpr ⟨sample_facts,bind_eq_ok.mpr ⟨zeroSha256,mapError_eq_ok.mpr hfacts,
      require_of rfl⟩⟩
  have hresult : requireConfigurationResult sampleConfiguration=.ok () :=
    require_of ⟨rfl,sample_decided.2.1.1,sample_window,sample_decided.2.1.2.symm,
      congrArg configurationStatus sample_decided.2.1.2.symm⟩
  refine check_bind_eq_ok.mpr ⟨sample_bindings,check_bind_eq_ok.mpr ⟨hobserved,bind_eq_ok.mpr
    ⟨zeroSha256,mapError_eq_ok.mpr sample_verificationSha256,check_bind_eq_ok.mpr
      ⟨require_of ⟨rfl,rfl,sample_window⟩,hresult⟩⟩⟩⟩

theorem sample_answers : ∀ answer∈sampleAnswers,validateShape answer=.ok () := by
  intro answer hmem
  obtain ⟨index,-,rfl⟩ := List.mem_map.mp hmem
  exact require_of ⟨le_rfl,rfl,fun h => nomatch h⟩

theorem sample_observation (endpoint : AudienceText) :
    validateObservation (sampleFunctions host) (sampleProbe endpoint).observation=.ok () := by
  have hplain := @plain_samples (sampleFunctions host).tables 0 (Nat.zero_le _) sampleAnswers
    (sampleProbe endpoint).observation.samples.2
  have hfits : jsonBytes (samplesJson sampleAnswers) ≤ maxContractBytes := by
    rw [answers_bytes]
    decide
  obtain ⟨canonical,hcanonical⟩ := (encodable_iff hplain.unique).mpr ⟨hplain.restricted,hfits⟩
  have hsamples : probeObservationSha256 (sampleFunctions host) sampleAnswers=.ok zeroSha256 :=
    bind_eq_ok.mpr ⟨canonical,hcanonical,rfl⟩
  refine check_bind_eq_ok.mpr ⟨forM_eq_ok.mpr sample_answers,bind_eq_ok.mpr
    ⟨zeroSha256,mapError_eq_ok.mpr hsamples,require_of ?_⟩⟩
  obtain ⟨hstable,hcandidate,hinvalid,hunavailable,hindexes,hnodup⟩ := sample_decided.2.2.2
  exact ⟨hstable.symm,hcandidate.symm,hinvalid.symm,hunavailable.symm,rfl,hindexes,hnodup,rfl⟩

/-- The endpoint of a host is valid. -/
theorem sample_audience {endpoint : AudienceText} (hhost : host≠"") :
    validateAudience (sampleFunctions host) endpoint=
      .ok ⟨"https",some host,none,none,some none,"/v1/probe","",""⟩ := by
  have hscalar : ∀ character∈chars endpoint.1,character.isValidChar := isScalar_chars endpoint.1
  have hencoded : (encodeUtf8 (chars endpoint.1)).isSome=true := by
    rw [encodeUtf8,if_pos hscalar,Option.isSome_some]
  have hnfc : validateNfcText (sampleFunctions host).tables.nfc (chars endpoint.1)=.ok () :=
    (bind_of_ok (require_of hencoded)).trans (require_of rfl)
  refine check_bind_eq_ok.mpr ⟨mapError_eq_ok.mpr hnfc,bind_eq_ok.mpr ⟨_,requireSome_eq_ok.mpr rfl,
    bind_eq_ok.mpr ⟨none,requireSome_eq_ok.mpr rfl,check_bind_eq_ok.mpr ⟨require_of ?_,rfl⟩⟩⟩⟩
  exact ⟨rfl,⟨host,rfl,hhost⟩,rfl,rfl,rfl,rfl,fun _ hmem => (Option.not_mem_none _ hmem).elim⟩

theorem sample_probe {endpoint : AudienceText} (hhost : host≠"")
    (hendpoint : textBytes endpoint.1 ≤ 10000) :
    validateProbeAttestation (sampleFunctions host) (sampleProbe endpoint)=.ok () := by
  have hrequest : probeRequestSha256 (sampleFunctions host) (sampleProbe endpoint).request=
      .ok zeroSha256 :=
    sample_digest (plain_probeRequest (Nat.zero_le _) rfl) (by rw [probeRequest_bytes]; omega)
  have hbounds : validateBounds samplePolicy=.ok () := by
    decide
  have hprobe : validateProbe (sampleFunctions host) (sampleProbe endpoint).request=.ok () := by
    refine check_bind_eq_ok.mpr ⟨sample_bindings,check_bind_eq_ok.mpr ⟨?_,bind_eq_ok.mpr
      ⟨_,sample_audience hhost,bind_eq_ok.mpr ⟨(⟨0,by decide⟩,⟨0,by decide⟩,⟨20,by decide⟩,
        ⟨20,by decide⟩),rfl,bind_eq_ok.mpr ⟨zeroSha256,mapError_eq_ok.mpr sample_policySha256,
          require_of ?_⟩⟩⟩⟩⟩
    · exact hbounds
    · exact ⟨rfl,rfl,rfl,rfl,rfl,sample_window⟩
  refine check_bind_eq_ok.mpr ⟨hprobe,check_bind_eq_ok.mpr ⟨sample_observation endpoint,
    bind_eq_ok.mpr ⟨zeroSha256,mapError_eq_ok.mpr hrequest,require_of ?_⟩⟩⟩
  have hanswers : ∀ answer∈sampleAnswers,
      answer.correlation_id.1=sampleVerification.correlation_id.1++":"++
          toString answer.sample_index.1 ∧
        timestampInWindow answer.requested_at sampleVerification ∧
        timestampInWindow answer.completed_at sampleVerification := by
    intro answer hmem
    obtain ⟨index,-,rfl⟩ := List.mem_map.mp hmem
    exact ⟨rfl,sample_window,sample_window⟩
  exact ⟨rfl,rfl,rfl,rfl,sample_window,hanswers⟩

theorem sample_signatures {kind : IndependentVerificationKind} {reason_code : BoundedText}
    {signature : Base64Url} (hascii : IsAscii reason_code.1)
    (hfits : textBytes kind.value+textBytes reason_code.1 ≤ 1000) :
    validateSignatureBindings (sampleFunctions host)
      (sampleSigned (sampleEvidence kind reason_code) signature)=.ok () := by
  have hplain := @plain_evidence (sampleFunctions host).tables 0 (Nat.zero_le _)
    (sampleEvidence kind reason_code) hascii (ascii_verifier sampleTarget)
  have hsize : jsonBytes (object (evidenceFields (sampleEvidence kind reason_code))) ≤
      maxContractBytes := by
    rw [evidence_bytes,maxContractBytes]
    omega
  obtain ⟨canonical,hcanonical⟩ := (encodable_iff hplain.unique).mpr ⟨hplain.restricted,hsize⟩
  have hevidence : evidenceSha256 (sampleFunctions host) (sampleEvidence kind reason_code)=
      .ok zeroSha256 :=
    bind_eq_ok.mpr ⟨canonical,hcanonical,rfl⟩
  have hinput : signingInputSha256 (sampleFunctions host) (sampleEvidence kind reason_code)
      sampleKey.1=.ok zeroSha256 :=
    bind_eq_ok.mpr ⟨canonical,hcanonical,rfl⟩
  exact bind_eq_ok.mpr ⟨zeroSha256,mapError_eq_ok.mpr hevidence,bind_eq_ok.mpr
    ⟨zeroSha256,mapError_eq_ok.mpr hinput,require_of ⟨rfl,rfl⟩⟩⟩

theorem sample_binds (kind : IndependentVerificationKind) (reason_code : BoundedText) :
    evidenceBinds (sampleEvidence kind reason_code) sampleVerification :=
  ⟨rfl,rfl,rfl,rfl,rfl,rfl,rfl,rfl,rfl,rfl,rfl,rfl,rfl,rfl,rfl,rfl,rfl,rfl⟩

theorem sample_verifiedConfiguration (signature : Base64Url) :
    validateVerifiedEvidence (sampleFunctions host) (sampleVerifiedConfiguration signature)=
      .ok () := by
  have hdigest : configurationSha256 (sampleFunctions host) sampleConfiguration=.ok zeroSha256 :=
    sample_digest (plain_configuration (Nat.zero_le _) sample_configuration)
      (by rw [configuration_bytes]; decide)
  have hbound : requireResultBound (sampleFunctions host)
      (sampleEvidence .configuration configurationMatch) .configuration sampleVerification .matched
      ConfigurationAttestationReason.matched.value sampleTime
      (configurationSha256 (sampleFunctions host) sampleConfiguration)=.ok () :=
    bind_eq_ok.mpr ⟨zeroSha256,mapError_eq_ok.mpr hdigest,bind_eq_ok.mpr
      ⟨zeroSha256,mapError_eq_ok.mpr sample_verificationSha256,require_of
        ⟨rfl,rfl,sample_binds _ _,rfl,rfl,rfl,rfl,rfl⟩⟩⟩
  have hkind : textBytes IndependentVerificationKind.configuration.value=15 := text_bytes rfl rfl
  have hreason : textBytes configurationMatch.1=21 := text_bytes rfl rfl
  have hsigned := @sample_signatures host .configuration configurationMatch signature
    (isAscii_ofList rfl) (by rw [hkind,hreason]; decide)
  exact check_bind_eq_ok.mpr ⟨check_bind_eq_ok.mpr ⟨sample_configuration,hbound⟩,
    check_bind_eq_ok.mpr ⟨hsigned,require_of ⟨rfl,le_rfl⟩⟩⟩

theorem sample_verifiedProbe {endpoint : AudienceText} (signature : Base64Url) (hhost : host≠"")
    (hendpoint : textBytes endpoint.1 ≤ 10000) :
    validateVerifiedEvidence (sampleFunctions host) (sampleVerifiedProbe endpoint signature)=
      .ok () := by
  have hvalid := sample_probe hhost hendpoint
  have hdigest : probeSha256 (sampleFunctions host) (sampleProbe endpoint)=.ok zeroSha256 :=
    sample_digest (plain_probe (Nat.zero_le _) hvalid) (by rw [probe_bytes]; omega)
  have hbound : requireResultBound (sampleFunctions host) (sampleEvidence .probe probeMatch) .probe
      sampleVerification .matched ProbeAttestationReason.matched.value sampleTime
      (probeSha256 (sampleFunctions host) (sampleProbe endpoint))=.ok () :=
    bind_eq_ok.mpr ⟨zeroSha256,mapError_eq_ok.mpr hdigest,bind_eq_ok.mpr
      ⟨zeroSha256,mapError_eq_ok.mpr sample_verificationSha256,require_of
        ⟨rfl,rfl,sample_binds _ _,rfl,rfl,rfl,rfl,rfl⟩⟩⟩
  have hkind : textBytes IndependentVerificationKind.probe.value=7 := text_bytes rfl rfl
  have hreason : textBytes probeMatch.1=13 := text_bytes rfl rfl
  have hsigned := @sample_signatures host .probe probeMatch signature (isAscii_ofList rfl)
    (by rw [hkind,hreason]; decide)
  exact check_bind_eq_ok.mpr ⟨check_bind_eq_ok.mpr ⟨hvalid,hbound⟩,
    check_bind_eq_ok.mpr ⟨hsigned,require_of ⟨rfl,le_rfl⟩⟩⟩

theorem whenPresent_some {Value : Type} {check : Value → Except Raised Unit} {value : Value}
    (h : check value=.ok ()) : whenPresent check (some value)=.ok () :=
  h

theorem sample_valid {endpoint : AudienceText} (signature : Base64Url) (hhost : host≠"")
    (hendpoint : textBytes endpoint.1 ≤ 10000) :
    validateBundle (sampleFunctions host) (sampleBundle endpoint signature)=.ok () := by
  have hwindow : sampleVerification.observation_window_started_at.1 ≤ 1700000300 := by
    decide
  have hassessment : validateAssessment (sampleFunctions host)
      (sampleBundle endpoint signature).request=.ok () :=
    check_bind_eq_ok.mpr ⟨sample_bindings,require_of
      ⟨fun _ => rfl,fun hkind => (nomatch hkind),hwindow⟩⟩
  have hwritten : sampleExecution.observation_window_started_at.1 <
      sampleExecution.observation_window_ends_at.1 := by
    decide
  have hreceipt : validateReceiptFacts sampleExecution=.ok () :=
    require_of ⟨rfl,hwritten,rfl,⟨fun h => (nomatch h),fun h => (nomatch h)⟩,
      fun h => (nomatch h),fun h => (nomatch h)⟩
  have hplaces : (∀ evidence∈(sampleBundle endpoint signature).configuration,
      evidence.signing_request.evidence.kind=.configuration) ∧
      ∀ evidence∈(sampleBundle endpoint signature).probe,
        evidence.signing_request.evidence.kind=.probe :=
    ⟨fun _ hmem => Option.some.inj hmem ▸ rfl,fun _ hmem => Option.some.inj hmem ▸ rfl⟩
  exact validateBundle_eq_ok.mpr ⟨hassessment,whenPresent_some hreceipt,
    whenPresent_some (sample_verifiedConfiguration signature),
    whenPresent_some (sample_verifiedProbe signature hhost hendpoint),rfl,hplaces.1,hplaces.2⟩

end

theorem sample_completes (endpoint : AudienceText) (signature : Base64Url) :
    Completes (sampleBundle endpoint signature) := by
  have hreceipt : executionBinds sampleAssessment sampleExecution :=
    ⟨rfl,rfl,rfl,rfl,rfl,rfl,rfl,rfl,rfl,rfl,rfl,rfl,fun _ => rfl⟩
  have hshare := sample_decided.2.2.1
  have hnamed : ∀ allocation∈sampleFacts.traffic,
      allocation.revision=sampleVerification.stable_revision ∨
        allocation.revision=sampleVerification.candidate_revision := by
    intro allocation hmem
    rw [List.mem_singleton.mp hmem]
    exact .inr rfl
  have htraffic : TrafficHolds sampleVerification sampleFacts.traffic :=
    ⟨hnamed,hshare.1,hshare.2⟩
  have hfacts : FactsHold sampleVerification sampleFacts :=
    ⟨rfl,sample_window,rfl,rfl,rfl,⟨rfl,rfl,rfl,rfl,rfl⟩,htraffic,htraffic,rfl,rfl,rfl,rfl⟩
  have hsamples : SamplesHold sampleVerification sampleAnswers := by
    refine ⟨?_,⟨0,by decide⟩,⟨0,by decide⟩,⟨20,by decide⟩,⟨20,by decide⟩,rfl,?_⟩
    · intro answer hmem
      obtain ⟨index,-,rfl⟩ := List.mem_map.mp hmem
      rfl
    · rw [sample_decided.2.2.2.1,sample_decided.2.2.2.2.1]
      exact ⟨le_rfl,le_rfl,le_rfl,le_rfl⟩
  have htime : sampleTime.1 ≤ 1700000300 := by
    decide
  have hstale : ¬(300 : Int) < 1700000300-sampleVerification.observation_window_ends_at.1 := by
    decide
  refine ⟨hstale,⟨sampleExecution,rfl,hreceipt,rfl,rfl⟩,?_,?_⟩
  · exact ⟨_,rfl,_,rfl,_,rfl,rfl,hfacts,htime⟩
  · exact ⟨_,rfl,_,rfl,rfl,hsamples,htime⟩

/-- The sample with a short endpoint and a short signature is complete. -/
theorem sample_is_complete : ∃ classification,
    classifyCompletion (sampleFunctions "probe.example")
        (sampleBundle sampleEndpoint sampleSignature)=.ok classification ∧
      classification.status=.complete := by
  have hendpoint : textBytes sampleEndpoint.1=32 := text_bytes rfl rfl
  have hsignature : textBytes sampleSignature.1=11 := text_bytes rfl rfl
  have hvalid := @sample_valid "probe.example" sampleEndpoint sampleSignature (by decide)
    (by rw [hendpoint]; decide)
  have hfits : bundleBytes (sampleBundle sampleEndpoint sampleSignature) ≤ maxContractBytes := by
    rw [bundleBytes,byteLength_dumpsSorted,sample_bytes,hendpoint,hsignature]
    decide
  obtain ⟨classification,hclassified,-,-,hiff,-⟩ := classification_is_exact hvalid hfits
  exact ⟨classification,hclassified,hiff.mpr (sample_completes sampleEndpoint sampleSignature)⟩

def repeated (count : Nat) (character : Char) : String :=
  String.ofList (List.replicate count character)

theorem repeated_bytes (count : Nat) (character : Char) :
    textBytes (repeated count character)=2+count*characterBytes character.toNat := by
  rw [textBytes,quotedBytes,chars_eq,repeated,String.toList_ofList,List.map_replicate,
    List.map_replicate,List.sum_replicate_nat]

theorem repeated_length (count : Nat) (character : Char) :
    (repeated count character).length=count := by
  rw [repeated,String.length_ofList,List.length_replicate]

/-- A repeated character of the URL-safe alphabet is of that alphabet. -/
theorem repeated_all {character : Char} (h : isBase64UrlCharacter character=true) (count : Nat) :
    (repeated count character).toList.all isBase64UrlCharacter=true := by
  rw [repeated,String.toList_ofList,List.all_eq_true]
  intro found hmem
  rw [List.eq_of_mem_replicate hmem]
  exact h

def endpointText (host : String) : String := "https://"++host++"/v1/probe"

theorem endpointText_length (host : String) : (endpointText host).length=17+host.length := by
  have hfirst : ("https://" : String).length=8 := by decide
  have hlast : ("/v1/probe" : String).length=9 := by decide
  rw [endpointText,String.length_append,String.length_append,hfirst,hlast]
  omega

theorem endpointText_bytes (host : String) : textBytes (endpointText host)=17+textBytes host := by
  have hfirst : ((chars "https://").map characterBytes).sum=8 := rfl
  have hlast : ((chars "/v1/probe").map characterBytes).sum=9 := rfl
  have hchars : chars (endpointText host)=chars "https://"++chars host++chars "/v1/probe" := by
    simp only [chars_eq,endpointText,String.toList_append,List.map_append]
  rw [textBytes,textBytes,quotedBytes,quotedBytes,hchars,List.map_append,List.map_append,
    List.sum_append,List.sum_append,hfirst,hlast]
  omega

/-- A host of two thousand characters outside the basic plane. -/
def longHost : String := repeated 2031 (Char.ofNat 65536)

def longEndpoint : AudienceText :=
  ⟨endpointText longHost,by rw [endpointText_length,longHost,repeated_length]; omega⟩

/-- A signature of the greatest length. -/
def longSignature : Base64Url :=
  ⟨repeated 16384 'A',repeated_all (by decide) _,by rw [repeated_length]; omega⟩

/-- A valid bundle that is complete and that the classifier raises on. -/
theorem oversize_bundle_raises :
    validateBundle (sampleFunctions longHost) (sampleBundle longEndpoint longSignature)=.ok () ∧
      Completes (sampleBundle longEndpoint longSignature) ∧
      classifyCompletion (sampleFunctions longHost) (sampleBundle longEndpoint longSignature)=
        .error (.codec (invalid "canonical JSON is outside its byte bounds")) := by
  have hwide : characterBytes (Char.ofNat 65536).toNat=4 := rfl
  have hletter : characterBytes 'A'.toNat=1 := rfl
  have hendpoint : textBytes longEndpoint.1=8143 := by
    rw [longEndpoint,endpointText_bytes,longHost,repeated_bytes,hwide]
  have hsignature : textBytes longSignature.1=16386 := by
    rw [longSignature,repeated_bytes,hletter]
  have hhost : longHost≠"" := by
    intro hempty
    have hlength := repeated_length 2031 (Char.ofNat 65536)
    rw [← longHost,hempty] at hlength
    cases hlength
  have hvalid := @sample_valid longHost longEndpoint longSignature hhost
    (by rw [hendpoint]; decide)
  have hlong : maxContractBytes < bundleBytes (sampleBundle longEndpoint longSignature) := by
    rw [bundleBytes,byteLength_dumpsSorted,sample_bytes,hendpoint,hsignature]
    decide
  exact ⟨hvalid,sample_completes longEndpoint longSignature,oversize_raises hvalid hlong⟩

end ControlGraph.CompletionExactness
