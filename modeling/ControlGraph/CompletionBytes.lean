import ControlGraph.CompletionSizes

/-!
# Bytes of a bundle

The bytes of each contract of a completion are those of its texts, of its numbers
and of its parts, and a constant for its names, its digests and its times. A
bundle takes most of its bytes for its requests, for its samples and for its two signatures.
-/

namespace ControlGraph.CompletionBytes

open CanonicalCodec ContractText JsonSizes JsonValues ReceiptContracts TimelinePageSizes
  TimelineWire VerificationContracts CompletionClassification CompletionSizes

/-- Whether a byte is one of a character that is written as it is. -/
def isPlainByte (byte : UInt8) : Bool :=
  32 ≤ byte.toNat && byte.toNat < 127 && byte.toNat≠34 && byte.toNat≠92

theorem plain_character {character : Char}
    (h : ∀ byte∈String.utf8EncodeChar character,isPlainByte byte=true) :
    (32 ≤ character.toNat ∧ character.toNat < 127 ∧ character.toNat≠34 ∧ character.toNat≠92) ∧
      (String.utf8EncodeChar character).length=1 := by
  unfold String.utf8EncodeChar at h ⊢
  dsimp only at h ⊢
  have hval : character.toNat=character.val.toNat := rfl
  rw [hval]
  have hbound : character.val.toNat < 1114112 := by
    have hvalid := character.valid
    rcases hvalid with hlow | hhigh <;> omega
  split_ifs at h ⊢ with hone htwo hthree
  · have hbyte := h _ (List.mem_singleton_self _)
    simp only [isPlainByte,Bool.and_eq_true,decide_eq_true_eq,UInt8.toNat_ofNat'] at hbyte
    refine ⟨?_,rfl⟩
    omega
  · have hbyte := h _ List.mem_cons_self
    simp only [isPlainByte,Bool.and_eq_true,decide_eq_true_eq,UInt8.toNat_ofNat'] at hbyte
    omega
  · have hbyte := h _ List.mem_cons_self
    simp only [isPlainByte,Bool.and_eq_true,decide_eq_true_eq,UInt8.toNat_ofNat'] at hbyte
    omega
  · have hbyte := h _ List.mem_cons_self
    simp only [isPlainByte,Bool.and_eq_true,decide_eq_true_eq,UInt8.toNat_ofNat'] at hbyte
    omega

/-- A text of plain bytes takes them and two quotes. -/
theorem textBytes_plain {value : String} (h : (byteList value).all isPlainByte=true) :
    textBytes value=2+(byteList value).length := by
  have hplain : ∀ character∈value.toList,∀ byte∈String.utf8EncodeChar character,
      isPlainByte byte=true := by
    intro character hcharacter byte hbyte
    refine List.all_eq_true.mp h byte ?_
    rw [byteList_eq]
    exact List.mem_flatMap.mpr ⟨character,hcharacter,hbyte⟩
  have hlength : (byteList value).length=value.toList.length := by
    have hone : value.toList.map (fun character => (String.utf8EncodeChar character).length)=
        value.toList.map fun _ => 1 :=
      List.map_congr_left fun character hmem => (plain_character (hplain character hmem)).2
    rw [byteList_eq,List.length_flatMap,hone,List.map_const',List.sum_replicate_nat,Nat.mul_one]
  have hchars : ∀ character∈chars value,
      32 ≤ character ∧ character < 127 ∧ character≠34 ∧ character≠92 := by
    intro code hcode
    obtain ⟨character,hcharacter,rfl⟩ := mem_chars.mp hcode
    exact (plain_character (hplain character hcharacter)).1
  rw [textBytes,quotedBytes_plain hchars,hlength,chars_eq,List.length_map]

/-- Plain names take their bytes, and four each for the quotes, the colon and the comma. -/
theorem names_total {names : List String} {size : Nat}
    (hplain : ∀ name∈names,(byteList name).all isPlainByte=true)
    (hsize : 1+(names.map fun name => (byteList name).length+4).sum=size) :
    1+(names.map fun name => textBytes name+2).sum=size := by
  rw [← hsize]
  refine congrArg (fun sum => 1+sum) (congrArg List.sum (List.map_congr_left ?_))
  intro name hname
  rw [textBytes_plain (hplain name hname)]
  omega

/-- The schema version of a contract takes the bytes that are counted for it. -/
theorem version_bytes (contract : Contract) :
    textBytes contract.version=contract.versionBytes := by
  cases contract <;> exact text_bytes rfl rfl

/-- The names of a contract take the bytes that are counted for them. -/
theorem names_bytes (contract : Contract) :
    1+(contract.names.map fun name => textBytes name+2).sum=contract.namesBytes := by
  cases contract <;> exact names_total (by decide +kernel) (by decide +kernel)

theorem jsonBytes_contract {fields : List (String×Json)} {size : Nat} (contract : Contract)
    (hfields : fields.map Prod.fst=contract.names) (hsize : contract.namesBytes=size) :
    jsonBytes (object fields)=size+(fields.map fun field => jsonBytes field.2).sum := by
  have hsome : contract.names≠[] := by
    cases contract <;> exact List.cons_ne_nil _ _
  exact jsonBytes_object hfields hsome ((names_bytes contract).trans hsize)

/-- A verification request takes the bytes of its texts and of its parts. -/
theorem jsonBytes_verification (request : VerificationRequestV1) :
    jsonBytes (object (verificationFields request))=491+[38,textBytes request.root_id.1,66,
      digitBytes request.epoch.1,targetBytes request.target,66,66,66,66,
      textBytes request.action.value,textBytes request.stable_revision.1,
      textBytes request.candidate_revision.1,digitBytes request.stable_percent.1,
      digitBytes request.candidate_percent.1,digitBytes request.concurrency.1,66,66,66,22,22,
      textBytes request.request_id.1,textBytes request.correlation_id.1].sum := by
  have hversion : textBytes "controlgraph.verification-request/v1"=38 :=
    version_bytes .verification
  rw [@jsonBytes_contract (verificationFields request) 491 .verification rfl rfl]
  refine congrArg (fun sizes => 491+List.sum sizes) ?_
  simp only [verificationFields,List.map_cons,List.map_nil,jsonBytes_text,jsonBytes_digest,
    jsonBytes_timestamp,jsonBytes_integer,jsonBytes_target,hversion]

/-- Facts take the bytes of their texts and of their parts. -/
theorem jsonBytes_facts (facts : ConfigurationObservationFactsV1) :
    jsonBytes (object (factsFields facts))=426+[49,targetBytes facts.target,
      digitBytes facts.source_generation.1,digitBytes facts.observed_generation.1,
      textBytes facts.provider_etag.1,jsonBytes (.bool facts.reconciling),
      textBytes facts.ready_state.value,textBytes facts.template_revision.1,
      textBytes facts.latest_created_revision.1,textBytes facts.latest_ready_revision.1,
      textBytes facts.stable_revision.1,textBytes facts.candidate_revision.1,
      jsonBytes (trafficJson facts.traffic),jsonBytes (trafficJson facts.traffic_statuses),
      digitBytes facts.concurrency.1,66,66,66,textBytes facts.retrieved_by.1,22].sum := by
  have hversion : textBytes "controlgraph.configuration-observation-facts/v1"=49 :=
    version_bytes .facts
  rw [@jsonBytes_contract (factsFields facts) 426 .facts rfl rfl]
  refine congrArg (fun sizes => 426+List.sum sizes) ?_
  simp only [factsFields,List.map_cons,List.map_nil,jsonBytes_text,jsonBytes_digest,
    jsonBytes_timestamp,jsonBytes_integer,jsonBytes_target,hversion]

theorem jsonBytes_configurationObservation (observation : ConfigurationObservationV1) :
    jsonBytes (object (configurationObservationFields observation))=50+[43,
      jsonBytes (object (factsFields observation.facts)),66].sum := by
  have hversion : textBytes "controlgraph.configuration-observation/v1"=43 :=
    version_bytes .configurationObservation
  rw [@jsonBytes_contract (configurationObservationFields observation) 50 .configurationObservation rfl rfl]
  refine congrArg (fun sizes => 50+List.sum sizes) ?_
  simp only [configurationObservationFields,List.map_cons,List.map_nil,jsonBytes_text,
    jsonBytes_digest,hversion]

/-- A configuration attestation takes the bytes of its texts and of its parts. -/
theorem jsonBytes_configuration (attestation : ConfigurationAttestationV1) :
    jsonBytes (object (configurationFields attestation))=113+[43,
      jsonBytes (object (verificationFields attestation.request)),66,
      textBytes attestation.status.value,textBytes attestation.reason.value,
      jsonBytes (nullable (fun observation => object (configurationObservationFields observation))
        attestation.observation),textBytes attestation.attested_by.1,22].sum := by
  have hversion : textBytes "controlgraph.configuration-attestation/v1"=43 :=
    version_bytes .configuration
  rw [@jsonBytes_contract (configurationFields attestation) 113 .configuration rfl rfl]
  refine congrArg (fun sizes => 113+List.sum sizes) ?_
  simp only [configurationFields,List.map_cons,List.map_nil,jsonBytes_text,jsonBytes_digest,
    jsonBytes_timestamp,hversion]

theorem jsonBytes_policy (policy : ProbePolicyV1) :
    jsonBytes (object (policyFields policy))=188+[30,2,4,1,4,digitBytes policy.stable_minimum.1,
      digitBytes policy.stable_maximum.1,digitBytes policy.candidate_minimum.1,
      digitBytes policy.candidate_maximum.1].sum := by
  have hversion : textBytes "controlgraph.probe-policy/v1"=30 := version_bytes .policy
  have hliteral1 : digitBytes 20=2 := by decide +kernel
  have hliteral2 : digitBytes 2000=4 := by decide +kernel
  have hliteral3 : digitBytes 1=1 := by decide +kernel
  have hliteral4 : digitBytes 1024=4 := by decide +kernel
  rw [@jsonBytes_contract (policyFields policy) 188 .policy rfl rfl]
  refine congrArg (fun sizes => 188+List.sum sizes) ?_
  simp only [policyFields,List.map_cons,List.map_nil,jsonBytes_text,jsonBytes_integer,hversion,
    hliteral1,hliteral2,hliteral3,hliteral4]

theorem jsonBytes_probeRequest (request : ProbeRequestV1) :
    jsonBytes (object (probeRequestFields request))=80+[31,
      jsonBytes (object (verificationFields request.verification)),
      jsonBytes (object (policyFields request.policy)),textBytes request.endpoint.1,
      textBytes request.nonce.1,22].sum := by
  have hversion : textBytes "controlgraph.probe-request/v1"=31 := version_bytes .probeRequest
  rw [@jsonBytes_contract (probeRequestFields request) 80 .probeRequest rfl rfl]
  refine congrArg (fun sizes => 80+List.sum sizes) ?_
  simp only [probeRequestFields,List.map_cons,List.map_nil,jsonBytes_text,jsonBytes_timestamp,
    hversion]

theorem jsonBytes_sample (sample : ProbeSampleObservationV1) :
    jsonBytes (object (sampleFields sample))=137+[42,digitBytes sample.sample_index.1,
      textBytes sample.correlation_id.1,22,22,textBytes sample.outcome.value,
      jsonBytes (nullable (fun revision : CloudRunName => text revision.1) sample.revision),
      jsonBytes (nullable (fun marker : Identifier => text marker.1) sample.marker),
      jsonBytes (nullable digest sample.response_sha256)].sum := by
  have hversion : textBytes "controlgraph.probe-sample-observation/v1"=42 := version_bytes .sample
  rw [@jsonBytes_contract (sampleFields sample) 137 .sample rfl rfl]
  refine congrArg (fun sizes => 137+List.sum sizes) ?_
  simp only [sampleFields,List.map_cons,List.map_nil,jsonBytes_text,jsonBytes_timestamp,
    jsonBytes_integer,hversion]

theorem jsonBytes_probeObservation (observation : ProbeObservationV1) :
    jsonBytes (object (probeObservationFields observation))=125+[35,
      jsonBytes (samplesJson observation.samples.1),digitBytes observation.stable_count.1,
      digitBytes observation.candidate_count.1,digitBytes observation.invalid_count.1,
      digitBytes observation.unavailable_count.1,66].sum := by
  have hversion : textBytes "controlgraph.probe-observation/v1"=35 :=
    version_bytes .probeObservation
  rw [@jsonBytes_contract (probeObservationFields observation) 125 .probeObservation rfl rfl]
  refine congrArg (fun sizes => 125+List.sum sizes) ?_
  simp only [probeObservationFields,List.map_cons,List.map_nil,jsonBytes_text,jsonBytes_digest,
    jsonBytes_integer,hversion]

/-- A probe attestation takes the bytes of its texts and of its parts. -/
theorem jsonBytes_probe (attestation : ProbeAttestationV1) :
    jsonBytes (object (probeFields attestation))=114+[35,
      jsonBytes (object (probeRequestFields attestation.request)),66,
      textBytes attestation.status.value,textBytes attestation.reason.value,
      jsonBytes (object (probeObservationFields attestation.observation)),
      textBytes attestation.attested_by.1,22].sum := by
  have hversion : textBytes "controlgraph.probe-attestation/v1"=35 := version_bytes .probe
  rw [@jsonBytes_contract (probeFields attestation) 114 .probe rfl rfl]
  refine congrArg (fun sizes => 114+List.sum sizes) ?_
  simp only [probeFields,List.map_cons,List.map_nil,jsonBytes_text,jsonBytes_digest,
    jsonBytes_timestamp,hversion]

theorem jsonBytes_evidence (evidence : IndependentVerificationEvidenceV1) :
    jsonBytes (object (evidenceFields evidence))=469+[51,textBytes evidence.kind.value,66,
      textBytes evidence.root_id.1,66,digitBytes evidence.epoch.1,targetBytes evidence.target,66,
      66,66,66,textBytes evidence.action.value,textBytes evidence.stable_revision.1,
      textBytes evidence.candidate_revision.1,digitBytes evidence.stable_percent.1,
      digitBytes evidence.candidate_percent.1,digitBytes evidence.concurrency.1,
      textBytes evidence.request_id.1,textBytes evidence.correlation_id.1,22,22,66,
      textBytes evidence.verdict.value,textBytes evidence.reason_code.1,
      textBytes evidence.verifier_identity.1,22].sum := by
  have hversion : textBytes "controlgraph.independent-verification-evidence/v1"=51 :=
    version_bytes .evidence
  rw [@jsonBytes_contract (evidenceFields evidence) 469 .evidence rfl rfl]
  refine congrArg (fun sizes => 469+List.sum sizes) ?_
  simp only [evidenceFields,List.map_cons,List.map_nil,jsonBytes_text,jsonBytes_digest,
    jsonBytes_timestamp,jsonBytes_integer,jsonBytes_target,hversion]

theorem jsonBytes_signingRequest (request : IndependentVerificationSigningRequestV1) :
    jsonBytes (object (signingRequestFields request))=57+[58,
      jsonBytes (nullable (fun attestation => object (configurationFields attestation))
        request.configuration),
      jsonBytes (nullable (fun attestation => object (probeFields attestation)) request.probe),
      jsonBytes (object (evidenceFields request.evidence))].sum := by
  have hversion : textBytes "controlgraph.independent-verification-signing-request/v1"=58 :=
    version_bytes .signingRequest
  rw [@jsonBytes_contract (signingRequestFields request) 57 .signingRequest rfl rfl]
  refine congrArg (fun sizes => 57+List.sum sizes) ?_
  simp only [signingRequestFields,List.map_cons,List.map_nil,jsonBytes_text,hversion]

/-- Signed evidence takes the bytes of its texts and of its parts. -/
theorem jsonBytes_signed (signed : SignedIndependentVerificationEvidenceV1) :
    jsonBytes (object (signedEvidenceFields signed))=141+[58,
      jsonBytes (object (evidenceFields signed.evidence)),26,
      textBytes signed.signing_key_version.1,21,66,66,textBytes signed.signature.1].sum := by
  have hversion : textBytes "controlgraph.signed-independent-verification-evidence/v1"=58 :=
    version_bytes .signed
  have hliteral1 : textBytes "INDEPENDENT_VERIFICATION"=26 := text_bytes rfl rfl
  have hliteral2 : textBytes "EC_SIGN_P256_SHA256"=21 := text_bytes rfl rfl
  rw [@jsonBytes_contract (signedEvidenceFields signed) 141 .signed rfl rfl]
  refine congrArg (fun sizes => 141+List.sum sizes) ?_
  simp only [signedEvidenceFields,List.map_cons,List.map_nil,jsonBytes_text,jsonBytes_digest,
    hversion,hliteral1,hliteral2]

/-- A verified result takes the bytes of its texts and of its parts. -/
theorem jsonBytes_verified (evidence : VerifiedIndependentVerificationEvidenceV1) :
    jsonBytes (object (verifiedFields evidence))=72+[60,
      jsonBytes (object (signingRequestFields evidence.signing_request)),
      jsonBytes (object (signedEvidenceFields evidence.signed_evidence)),22].sum := by
  have hversion : textBytes "controlgraph.verified-independent-verification-evidence/v1"=60 :=
    version_bytes .verified
  rw [@jsonBytes_contract (verifiedFields evidence) 72 .verified rfl rfl]
  refine congrArg (fun sizes => 72+List.sum sizes) ?_
  simp only [verifiedFields,List.map_cons,List.map_nil,jsonBytes_text,jsonBytes_timestamp,
    hversion]

/-- The facts of a receipt take the bytes of their texts and of their parts. -/
theorem jsonBytes_execution (execution : ExecutionCompletionEvidenceV1) :
    jsonBytes (object (executionFields execution))=400+[47,textBytes execution.root_id.1,66,
      digitBytes execution.epoch.1,targetBytes execution.target,66,66,66,66,4,
      textBytes execution.request_id.1,textBytes execution.correlation_id.1,22,22,
      textBytes execution.action.value,textBytes (receiptOutcomeValue execution.outcome),
      jsonBytes (nullable (fun reason => text (reasonCodeValue reason)) execution.reason_code),
      jsonBytes (nullable (fun epoch : PositiveSafeInteger => integer epoch.1)
        execution.observed_authority_epoch),66,4,
      jsonBytes (.bool execution.write_outcome_known)].sum := by
  have hversion : textBytes "controlgraph.execution-completion-evidence/v1"=47 :=
    version_bytes .execution
  have hliteral1 : jsonBytes (.bool true)=4 := by decide +kernel
  rw [@jsonBytes_contract (executionFields execution) 400 .execution rfl rfl]
  refine congrArg (fun sizes => 400+List.sum sizes) ?_
  simp only [executionFields,List.map_cons,List.map_nil,jsonBytes_text,jsonBytes_digest,
    jsonBytes_timestamp,jsonBytes_integer,jsonBytes_target,hversion,hliteral1]

/-- A terminal claim takes the bytes of its texts and of its parts. -/
theorem jsonBytes_assessment (request : CompletionAssessmentRequestV1) :
    jsonBytes (object (assessmentFields request))=58+[47,textBytes request.kind.value,
      jsonBytes (object (verificationFields request.verification)),22].sum := by
  have hversion : textBytes "controlgraph.completion-assessment-request/v1"=47 :=
    version_bytes .assessment
  rw [@jsonBytes_contract (assessmentFields request) 58 .assessment rfl rfl]
  refine congrArg (fun sizes => 58+List.sum sizes) ?_
  simp only [assessmentFields,List.map_cons,List.map_nil,jsonBytes_text,jsonBytes_timestamp,
    hversion]

theorem jsonBytes_bundle (bundle : CompletionEvidenceBundleV1) :
    jsonBytes (object (bundleFields bundle))=82+[44,
      jsonBytes (object (assessmentFields bundle.request)),
      jsonBytes (nullable (fun execution => object (executionFields execution))
        bundle.execution),jsonBytes (nullable (fun evidence => object (verifiedFields evidence))
        bundle.configuration),
      jsonBytes (nullable (fun evidence => object (verifiedFields evidence)) bundle.probe),
      jsonBytes (nullable (fun authority => object (authorityFields authority))
        bundle.authority)].sum := by
  have hversion : textBytes "controlgraph.completion-evidence-bundle/v1"=44 :=
    version_bytes .bundle
  rw [@jsonBytes_contract (bundleFields bundle) 82 .bundle rfl rfl]
  refine congrArg (fun sizes => 82+List.sum sizes) ?_
  simp only [bundleFields,List.map_cons,List.map_nil,jsonBytes_text,hversion]

end ControlGraph.CompletionBytes
