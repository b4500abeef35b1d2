import ControlGraph.VerificationContracts

/-!
# Validators of independent verification

The reason of a configuration attestation is the first rule that its facts break,
the reason of a probe attestation the first that its counts break, and both are
recomputed when the attestation is validated. Evidence is accepted with a signing
request only if it repeats the bindings, the verdict and the time of the
one result in it. Digests are taken over canonical values, so a value that the
codec refuses makes its contract invalid.
-/

namespace ControlGraph.VerificationRules

open Checks CanonicalCodec ContractText JsonValues ReceiptContracts StorageIdentity TimelineWire
  Utf8Text VerificationContracts

open ConsoleCodec (UnicodeTables)

open RootContracts (verifierIdentity)

/-- Parts of a URL. -/
structure SplitResult where
  scheme : String
  /-- The host name, if any. -/
  hostname : Option String
  /-- The user name, if any. -/
  username : Option String
  password : Option String
  /-- The port, if any, or no port that can be read. -/
  port : Option (Option Nat)
  path : String
  query : String
  fragment : String

/-- Functions that the contracts rest on. -/
structure VerificationFunctions where
  sha256 : Bytes → Sha256Digest
  /-- Normal forms of texts. -/
  tables : UnicodeTables
  /-- Parts of a URL, unless it cannot be split. -/
  urlsplit : String → Option SplitResult

/-- Whether a time is in the observation window of a request. -/
def timestampInWindow (time : UtcSecond) (request : VerificationRequestV1) : Prop :=
  request.observation_window_started_at.1 ≤ time.1 ∧ time.1 ≤ request.observation_window_ends_at.1

instance (time : UtcSecond) (request : VerificationRequestV1) :
    Decidable (timestampInWindow time request) :=
  inferInstanceAs (Decidable (_ ∧ _))

/-- The bounds of the samples for a split of the traffic. -/
def probeDistributionBounds (stable_percent candidate_percent : Nat) :
    Except Raised (SampleCount×SampleCount×SampleCount×SampleCount) :=
  if stable_percent=100 ∧ candidate_percent=0 then
    .ok (⟨20,by decide⟩,⟨20,by decide⟩,⟨0,by decide⟩,⟨0,by decide⟩)
  else if stable_percent=90 ∧ candidate_percent=10 then
    .ok (⟨14,by decide⟩,⟨19,by decide⟩,⟨1,by decide⟩,⟨6,by decide⟩)
  else if stable_percent=0 ∧ candidate_percent=100 then
    .ok (⟨0,by decide⟩,⟨0,by decide⟩,⟨20,by decide⟩,⟨20,by decide⟩)
  else .error (.valueError "unsupported probe traffic distribution")

/-- Require bounds that twenty samples can meet. -/
def validateBounds (policy : ProbePolicyV1) : Except Raised Unit :=
  require (policy.stable_minimum.1 ≤ policy.stable_maximum.1 ∧
      policy.candidate_minimum.1 ≤ policy.candidate_maximum.1 ∧
      policy.stable_minimum.1+policy.candidate_minimum.1 ≤ 20 ∧
      20 ≤ policy.stable_maximum.1+policy.candidate_maximum.1)
    (.valueError "probe distribution bounds are invalid")

/-- The policy of a split of the traffic. -/
def fixedProbePolicy (stable_percent candidate_percent : Nat) : Except Raised ProbePolicyV1 := do
  let (stable_minimum,stable_maximum,candidate_minimum,candidate_maximum) ←
    probeDistributionBounds stable_percent candidate_percent
  let policy : ProbePolicyV1 :=
    ⟨stable_minimum,stable_maximum,candidate_minimum,candidate_maximum⟩
  validateBounds policy
  return policy

/-- Percentage of a revision, where the last of several allocations counts. -/
def observedPercent (allocations : List TrafficAllocation) (revision : CloudRunName) : Option Nat :=
  (allocations.reverse.find? fun allocation => allocation.revision=revision).map
    fun allocation => allocation.percent.1

/-- Whether traffic names no other revision and gives these their percentages. -/
def trafficMatchesExpected (allocations : List TrafficAllocation) (request : VerificationRequestV1) :
    Prop :=
  (∀ allocation∈allocations,allocation.revision=request.stable_revision ∨
    allocation.revision=request.candidate_revision) ∧
  (observedPercent allocations request.stable_revision).getD 0=request.stable_percent.1 ∧
  (observedPercent allocations request.candidate_revision).getD 0=request.candidate_percent.1

instance (allocations : List TrafficAllocation) (request : VerificationRequestV1) :
    Decidable (trafficMatchesExpected allocations request) :=
  inferInstanceAs (Decidable (_ ∧ _))

/-- Whether the revisions of the facts are those of the request. -/
def revisionsMatch (request : VerificationRequestV1) (facts : ConfigurationObservationFactsV1) :
    Prop :=
  facts.template_revision=request.candidate_revision ∧
    facts.latest_created_revision=request.candidate_revision ∧
    facts.latest_ready_revision=request.candidate_revision ∧
    facts.stable_revision=request.stable_revision ∧
    facts.candidate_revision=request.candidate_revision

instance (request : VerificationRequestV1) (facts : ConfigurationObservationFactsV1) :
    Decidable (revisionsMatch request facts) :=
  inferInstanceAs (Decidable (_ ∧ _))

/-- Whether the digests of the facts are those of the request. -/
def digestsMatch (request : VerificationRequestV1) (facts : ConfigurationObservationFactsV1) :
    Prop :=
  facts.stable_revision_configuration_sha256=request.expected_stable_revision_configuration_sha256 ∧
    facts.candidate_revision_configuration_sha256=
      request.expected_candidate_revision_configuration_sha256 ∧
    facts.target_configuration_sha256=request.expected_target_configuration_sha256

instance (request : VerificationRequestV1) (facts : ConfigurationObservationFactsV1) :
    Decidable (digestsMatch request facts) :=
  inferInstanceAs (Decidable (_ ∧ _))

/-- The first mismatch of the facts with a request. -/
def configurationAttestationReason (request : VerificationRequestV1)
    (facts : ConfigurationObservationFactsV1) : ConfigurationAttestationReason :=
  if facts.reconciling=true then .reconciling
  else if facts.ready_state≠.ready then .notReady
  else if facts.source_generation.1≠facts.observed_generation.1 then .generationMismatch
  else if ¬revisionsMatch request facts then .revisionMappingMismatch
  else if ¬trafficMatchesExpected facts.traffic request ∨
      ¬trafficMatchesExpected facts.traffic_statuses request then .trafficMismatch
  else if facts.concurrency.1≠request.concurrency.1 then .concurrencyMismatch
  else if ¬digestsMatch request facts then .digestMismatch
  else .matched

/-- Whether the counts of a probe are within its policy. -/
def countsWithin (policy : ProbePolicyV1) (observation : ProbeObservationV1) : Prop :=
  (policy.stable_minimum.1 ≤ observation.stable_count.1 ∧
    observation.stable_count.1 ≤ policy.stable_maximum.1) ∧
  policy.candidate_minimum.1 ≤ observation.candidate_count.1 ∧
    observation.candidate_count.1 ≤ policy.candidate_maximum.1

instance (policy : ProbePolicyV1) (observation : ProbeObservationV1) :
    Decidable (countsWithin policy observation) :=
  inferInstanceAs (Decidable (_ ∧ _))

/-- The first fault of the samples. -/
def probeAttestationReason (policy : ProbePolicyV1) (observation : ProbeObservationV1) :
    ProbeAttestationReason :=
  if observation.unavailable_count.1≠0 then .transportUnavailable
  else if observation.invalid_count.1≠0 then .responseInvalid
  else if ¬countsWithin policy observation then .distributionMismatch
  else .matched

/-- Whether evidence repeats the bindings of a request. -/
def evidenceBinds (evidence : IndependentVerificationEvidenceV1) (expected : VerificationRequestV1) :
    Prop :=
  evidence.root_id=expected.root_id ∧ evidence.root_sha256=expected.root_sha256 ∧
    evidence.epoch=expected.epoch ∧ evidence.target=expected.target ∧
    evidence.plan_sha256=expected.plan_sha256 ∧
    evidence.service_claim_sha256=expected.service_claim_sha256 ∧
    evidence.probe_policy_sha256=expected.probe_policy_sha256 ∧
    evidence.signed_intent_sha256=expected.signed_intent_sha256 ∧
    evidence.action=expected.action ∧ evidence.stable_revision=expected.stable_revision ∧
    evidence.candidate_revision=expected.candidate_revision ∧
    evidence.stable_percent=expected.stable_percent ∧
    evidence.candidate_percent=expected.candidate_percent ∧
    evidence.concurrency=expected.concurrency ∧ evidence.request_id=expected.request_id ∧
    evidence.correlation_id=expected.correlation_id ∧
    evidence.observation_window_started_at=expected.observation_window_started_at ∧
    evidence.observation_window_ends_at=expected.observation_window_ends_at

instance (evidence : IndependentVerificationEvidenceV1) (expected : VerificationRequestV1) :
    Decidable (evidenceBinds evidence expected) :=
  inferInstanceAs (Decidable (_ ∧ _))

section

variable (functions : VerificationFunctions)

/-- Hash a contract under its version. -/
def canonicalSha256 (schema_version : String) (value : Json) : Except CodecRaised Sha256Digest := do
  let canonical ← canonicalJsonValueBytes functions.tables.nfc value
  return functions.sha256 (digestDomain++asciiBytes schema_version++[0]++canonical)

/-- Digest of a verification request. -/
def verificationSha256 (request : VerificationRequestV1) : Except CodecRaised Sha256Digest :=
  canonicalSha256 functions "controlgraph.verification-request/v1"
    (object (verificationFields request))

def policySha256 (policy : ProbePolicyV1) : Except CodecRaised Sha256Digest :=
  canonicalSha256 functions "controlgraph.probe-policy/v1" (object (policyFields policy))

def factsSha256 (facts : ConfigurationObservationFactsV1) : Except CodecRaised Sha256Digest :=
  canonicalSha256 functions "controlgraph.configuration-observation-facts/v1"
    (object (factsFields facts))

/-- Digest of a configuration attestation. -/
def configurationSha256 (attestation : ConfigurationAttestationV1) :
    Except CodecRaised Sha256Digest :=
  canonicalSha256 functions "controlgraph.configuration-attestation/v1"
    (object (configurationFields attestation))

def probeRequestSha256 (request : ProbeRequestV1) : Except CodecRaised Sha256Digest :=
  canonicalSha256 functions "controlgraph.probe-request/v1" (object (probeRequestFields request))

/-- Digest of a probe attestation. -/
def probeSha256 (attestation : ProbeAttestationV1) : Except CodecRaised Sha256Digest :=
  canonicalSha256 functions "controlgraph.probe-attestation/v1" (object (probeFields attestation))

def evidenceSha256 (evidence : IndependentVerificationEvidenceV1) :
    Except CodecRaised Sha256Digest :=
  canonicalSha256 functions "controlgraph.independent-verification-evidence/v1"
    (object (evidenceFields evidence))

/-- Hash the whole sequence of samples. -/
def probeObservationSha256 (samples : List ProbeSampleObservationV1) :
    Except CodecRaised Sha256Digest := do
  let canonical ← canonicalJsonValueBytes functions.tables.nfc (samplesJson samples)
  return functions.sha256 (asciiBytes "controlgraph.probe-observation/v1"++[0]++canonical)

/-- A number as bytes, the greatest first. -/
def bigEndian (width value : Nat) : Bytes :=
  (List.range width).reverse.map fun place => UInt8.ofNat (value/256^place)

/-- Hash the evidence with the key that signs it. -/
def signingInputSha256 (evidence : IndependentVerificationEvidenceV1) (signing_key_version : String) :
    Except CodecRaised Sha256Digest := do
  let payload ← canonicalJsonValueBytes functions.tables.nfc (object (evidenceFields evidence))
  let key := utf8Bytes (chars signing_key_version)
  return functions.sha256 (asciiBytes "controlgraph.independent-verification-evidence/v1"++[0]++
    bigEndian 4 key.length++key++bigEndian 8 payload.length++payload)

/-- Validate a verification request. -/
def validateBindings (request : VerificationRequestV1) : Except Raised Unit := do
  let policy ← fixedProbePolicy request.stable_percent.1 request.candidate_percent.1
  let expected_policy_sha256 ← (policySha256 functions policy).mapError fun _ => .validationError
  require (request.root_id.1="cgroot:"++request.root_sha256.1 ∧
      request.target.service_name.1="controlgraph-reference-target" ∧
      request.stable_revision≠request.candidate_revision ∧
      (request.target.service_name.1++"-").toList.isPrefixOf
        request.stable_revision.1.toList=true ∧
      (request.target.service_name.1++"-").toList.isPrefixOf
        request.candidate_revision.1.toList=true ∧
      (request.stable_percent.1,request.candidate_percent.1)=(match request.action with
        | .applyCanary => (90,10)
        | .promoteCandidate => (0,100)
        | .recoverStable => (100,0)) ∧
      request.probe_policy_sha256=expected_policy_sha256 ∧
      request.observation_window_started_at.1 < request.observation_window_ends_at.1 ∧
      request.observation_window_ends_at.1-request.observation_window_started_at.1 ≤ 300)
    (.valueError "verification request bindings are invalid")

def validateFacts (facts : ConfigurationObservationFactsV1) : Except Raised Unit := do
  require (1 ≤ facts.traffic.length ∧ facts.traffic.length ≤ 2 ∧
    1 ≤ facts.traffic_statuses.length ∧ facts.traffic_statuses.length ≤ 2) .validationError
  require ((facts.traffic.map fun item => item.revision).Nodup ∧
      (facts.traffic_statuses.map fun item => item.revision).Nodup ∧
      (facts.traffic.map fun item => item.percent.1).sum=100 ∧
      (facts.traffic_statuses.map fun item => item.percent.1).sum=100)
    (.valueError "configuration observation traffic is invalid")

def validateDigest (observation : ConfigurationObservationV1) : Except Raised Unit := do
  validateFacts observation.facts
  let expected ← (factsSha256 functions observation.facts).mapError fun _ => .validationError
  require (observation.observation_sha256=expected)
    (.valueError "configuration observation digest is invalid")

/-- Outcome that goes with a reason of the configuration read. -/
def configurationStatus (reason : ConfigurationAttestationReason) : ConfigurationAttestationStatus :=
  if reason=.matched then .matched else .mismatch

/-- Validate what was observed, if anything. -/
def validateObserved : Option ConfigurationObservationV1 → Except Raised Unit
  | none => .ok ()
  | some observation => validateDigest functions observation

/-- Require the result that the facts give. -/
def requireConfigurationResult (attestation : ConfigurationAttestationV1) : Except Raised Unit :=
  match attestation.observation with
  | none => require (attestation.status=.unavailable ∧ attestation.reason=.readUnavailable)
    (.valueError "missing configuration observation must be unavailable")
  | some observation =>
    let reason := configurationAttestationReason attestation.request observation.facts
    require (observation.facts.target=attestation.request.target ∧
        observation.facts.retrieved_by.1=verifierIdentity attestation.request.target ∧
        timestampInWindow observation.facts.retrieved_at attestation.request ∧
        attestation.reason=reason ∧ attestation.status=configurationStatus reason)
      (.valueError "configuration attestation result is inconsistent")

def validateConfiguration (attestation : ConfigurationAttestationV1) : Except Raised Unit := do
  validateBindings functions attestation.request
  validateObserved functions attestation.observation
  let expected ← (verificationSha256 functions attestation.request).mapError fun _ => .validationError
  require (attestation.request_sha256=expected ∧
      attestation.attested_by.1=verifierIdentity attestation.request.target ∧
      timestampInWindow attestation.attested_at attestation.request)
    (.valueError "configuration attestation binding is invalid")
  requireConfigurationResult attestation

/-- Validate the endpoint of a probe. -/
def validateAudience (value : AudienceText) : Except Raised SplitResult := do
  (validateNfcText functions.tables.nfc (chars value.1)).mapError .valueError
  let parsed ← requireSome (functions.urlsplit value.1) (.valueError "audience is invalid")
  let port ← requireSome parsed.port (.valueError "audience is invalid")
  require (parsed.scheme="https" ∧ (∃ hostname∈parsed.hostname,hostname≠"") ∧
      parsed.username=none ∧ parsed.password=none ∧ parsed.query="" ∧ parsed.fragment="" ∧
      ∀ number∈port,1 ≤ number ∧ number ≤ 65535)
    (.valueError "audience must be one exact HTTPS origin or path")
  return parsed

def validateProbe (request : ProbeRequestV1) : Except Raised Unit := do
  validateBindings functions request.verification
  validateBounds request.policy
  let parsed ← validateAudience functions request.endpoint
  let bounds ← probeDistributionBounds request.verification.stable_percent.1
    request.verification.candidate_percent.1
  let policy_sha256 ← (policySha256 functions request.policy).mapError fun _ => .validationError
  require (parsed.path="/v1/probe" ∧ parsed.query="" ∧ parsed.fragment="" ∧
      (request.policy.stable_minimum,request.policy.stable_maximum,
        request.policy.candidate_minimum,request.policy.candidate_maximum)=bounds ∧
      policy_sha256=request.verification.probe_policy_sha256 ∧
      timestampInWindow request.started_at request.verification)
    (.valueError "probe request bindings are invalid")

/-- Whether an outcome is an answer of a revision. -/
def isSuccessful (outcome : ProbeSampleOutcome) : Bool := outcome==.stable || outcome==.candidate

def validateShape (sample : ProbeSampleObservationV1) : Except Raised Unit :=
  require (sample.requested_at.1 ≤ sample.completed_at.1 ∧
      isSuccessful sample.outcome=(sample.revision.isSome && sample.marker.isSome &&
        sample.response_sha256.isSome) ∧
      (sample.outcome=.transportUnavailable → sample.response_sha256=none))
    (.valueError "probe sample observation shape is invalid")

def outcomeCount (samples : List ProbeSampleObservationV1) (outcome : ProbeSampleOutcome) : Nat :=
  (samples.map fun sample => sample.outcome).count outcome

/-- Validate the counts, the order and the digest of the samples. -/
def validateObservation (observation : ProbeObservationV1) : Except Raised Unit := do
  observation.samples.1.forM validateShape
  let expected ← (probeObservationSha256 functions observation.samples.1).mapError
    fun _ => .validationError
  require (observation.stable_count.1=outcomeCount observation.samples.1 .stable ∧
      observation.candidate_count.1=outcomeCount observation.samples.1 .candidate ∧
      observation.invalid_count.1=outcomeCount observation.samples.1 .responseInvalid ∧
      observation.unavailable_count.1=outcomeCount observation.samples.1 .transportUnavailable ∧
      observation.stable_count.1+observation.candidate_count.1+observation.invalid_count.1+
        observation.unavailable_count.1=20 ∧
      (observation.samples.1.map fun sample => sample.sample_index.1)=List.range' 1 20 ∧
      (observation.samples.1.map fun sample => sample.correlation_id).Nodup ∧
      observation.observation_sha256=expected)
    (.valueError "probe observation is inconsistent")

/-- Outcome that goes with a reason of a probe. -/
def probeStatus (reason : ProbeAttestationReason) : ProbeAttestationStatus :=
  if reason=.matched then .matched else .inconclusive

def validateProbeAttestation (attestation : ProbeAttestationV1) : Except Raised Unit := do
  validateProbe functions attestation.request
  validateObservation functions attestation.observation
  let expected ← (probeRequestSha256 functions attestation.request).mapError fun _ => .validationError
  let verification := attestation.request.verification
  let reason := probeAttestationReason attestation.request.policy attestation.observation
  require (attestation.request_sha256=expected ∧
      attestation.attested_by.1=verifierIdentity verification.target ∧
      attestation.reason=reason ∧ attestation.status=probeStatus reason ∧
      timestampInWindow attestation.completed_at verification ∧
      ∀ sample∈attestation.observation.samples.1,
        sample.correlation_id.1=verification.correlation_id.1++":"++toString sample.sample_index.1 ∧
        timestampInWindow sample.requested_at verification ∧
        timestampInWindow sample.completed_at verification)
    (.valueError "probe attestation binding is invalid")

def configurationVerdict : ConfigurationAttestationStatus → IndependentVerificationVerdict
  | .matched => .matched
  | .mismatch => .mismatch
  | .unavailable => .unavailable

def probeVerdict : ProbeAttestationStatus → IndependentVerificationVerdict
  | .matched => .matched
  | .inconclusive => .inconclusive

def requireResultBound (evidence : IndependentVerificationEvidenceV1)
    (kind : IndependentVerificationKind) (verification : VerificationRequestV1)
    (verdict : IndependentVerificationVerdict) (reason : String) (occurred_at : UtcSecond)
    (subject : Except CodecRaised Sha256Digest) : Except Raised Unit := do
  let subject_sha256 ← subject.mapError fun _ => .validationError
  let request_sha256 ← (verificationSha256 functions verification).mapError fun _ => .validationError
  require (evidence.kind=kind ∧ evidence.verification_request_sha256=request_sha256 ∧
      evidenceBinds evidence verification ∧ evidence.subject_sha256=subject_sha256 ∧
      evidence.verdict=verdict ∧ evidence.reason_code.1=reason ∧
      evidence.verifier_identity.1=verifierIdentity verification.target ∧
      evidence.occurred_at=occurred_at)
    (.valueError "independent verification evidence is not result-bound")

def validateSigningRequest (request : IndependentVerificationSigningRequestV1) :
    Except Raised Unit :=
  match request.configuration,request.probe with
  | some configuration,none => do
    validateConfiguration functions configuration
    requireResultBound functions request.evidence .configuration configuration.request
      (configurationVerdict configuration.status) configuration.reason.value
      configuration.attested_at (configurationSha256 functions configuration)
  | none,some probe => do
    validateProbeAttestation functions probe
    requireResultBound functions request.evidence .probe probe.request.verification
      (probeVerdict probe.status) probe.reason.value probe.completed_at (probeSha256 functions probe)
  | _,_ => .error (.valueError "exactly one independent verification result is required")

/-- Validate the digests of signed evidence. -/
def validateSignatureBindings (signed : SignedIndependentVerificationEvidenceV1) :
    Except Raised Unit := do
  let payload_sha256 ← (evidenceSha256 functions signed.evidence).mapError fun _ => .validationError
  let signing_input_sha256 ← (signingInputSha256 functions signed.evidence
    signed.signing_key_version.1).mapError fun _ => .validationError
  require (signed.payload_sha256=payload_sha256 ∧ signed.signing_input_sha256=signing_input_sha256)
    (.valueError "independent verification signature binding is invalid")

def validateVerifiedEvidence (evidence : VerifiedIndependentVerificationEvidenceV1) :
    Except Raised Unit := do
  validateSigningRequest functions evidence.signing_request
  validateSignatureBindings functions evidence.signed_evidence
  require (evidence.signed_evidence.evidence=evidence.signing_request.evidence ∧
      evidence.signing_request.evidence.occurred_at.1 ≤ evidence.verified_at.1)
    (.valueError "verified independent evidence binding is invalid")

end

end ControlGraph.VerificationRules
