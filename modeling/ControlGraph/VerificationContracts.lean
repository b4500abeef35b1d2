import ControlGraph.RootContracts
import ControlGraph.StorageIdentity
import ControlGraph.TimelinePageSizes

/-!
# Contracts of independent verification

A verifier that is not the executor reads the configuration of the target and
probes it, and the evidence writer signs a digest of the result. Each contract is
a record of fields, its canonical value, and the validator of the source over
it. A configuration attestation states the first mismatch of the observed
facts with the request, and a probe attestation the first fault of its twenty
samples, so neither can claim a verdict that its own facts do not give. Splitting
a URL is a parameter.
-/

namespace ControlGraph.VerificationContracts

open Checks CanonicalCodec ContractText JsonValues ReceiptContracts StorageIdentity TimelineWire
  Utf8Text

open ConsoleCodec (UnicodeTables)

open RootContracts (verifierIdentity)

open TimelineContracts (KeyVersionResource)

/-- A percentage. -/
abbrev Percent := {value : Nat // value ≤ 100}

abbrev Concurrency := {value : Nat // 1 ≤ value ∧ value ≤ 1000}

/-- A count of at most twenty samples. -/
abbrev SampleCount := {value : Nat // value ≤ 20}

theorem none_counted : 0 ≤ 20 := by omega

theorem all_counted : 20 ≤ 20 := by omega

/-- An integer that survives a JSON round trip and is not negative. -/
abbrev NonNegativeSafeInteger := {value : Nat // value ≤ 9007199254740991}

/-- Characters of the URL-safe alphabet of base64. -/
def isBase64UrlCharacter (character : Char) : Bool :=
  isAlphanumeric character || character== '_' || character== '-'

/-- Text of the URL-safe alphabet. -/
abbrev Base64Url := {text : String // text.toList.all isBase64UrlCharacter=true ∧
  1 ≤ text.length ∧ text.length ≤ 16384}

abbrev ProbeNonce := {text : String // text.toList.all isBase64UrlCharacter=true ∧
  32 ≤ text.length ∧ text.length ≤ 64}

/-- Bounded text of an endpoint. -/
abbrev AudienceText := {text : String // 9 ≤ text.length ∧ text.length ≤ 2048}

/-- Outcomes of the configuration read. -/
inductive ConfigurationAttestationStatus
  | matched | mismatch | unavailable
  deriving DecidableEq,Repr

/-- Wire text of an outcome of the configuration read. -/
def ConfigurationAttestationStatus.value : ConfigurationAttestationStatus → String
  | .matched => "MATCH"
  | .mismatch => "MISMATCH"
  | .unavailable => "UNAVAILABLE"

/-- Reasons of a configuration attestation. -/
inductive ConfigurationAttestationReason
  | matched | readUnavailable | reconciling | notReady | generationMismatch
  | revisionMappingMismatch | trafficMismatch | concurrencyMismatch | digestMismatch
  deriving DecidableEq,Repr

/-- Wire text of a reason of a configuration attestation. -/
def ConfigurationAttestationReason.value : ConfigurationAttestationReason → String
  | .matched => "CONFIGURATION_MATCH"
  | .readUnavailable => "CONFIGURATION_READ_UNAVAILABLE"
  | .reconciling => "CONFIGURATION_RECONCILING"
  | .notReady => "CONFIGURATION_NOT_READY"
  | .generationMismatch => "CONFIGURATION_GENERATION_MISMATCH"
  | .revisionMappingMismatch => "CONFIGURATION_REVISION_MAPPING_MISMATCH"
  | .trafficMismatch => "CONFIGURATION_TRAFFIC_MISMATCH"
  | .concurrencyMismatch => "CONFIGURATION_CONCURRENCY_MISMATCH"
  | .digestMismatch => "CONFIGURATION_DIGEST_MISMATCH"

/-- Readiness of the provider. -/
inductive ConfigurationReadyState
  | ready | notReady | unknown
  deriving DecidableEq,Repr

/-- Wire text of a readiness. -/
def ConfigurationReadyState.value : ConfigurationReadyState → String
  | .ready => "READY"
  | .notReady => "NOT_READY"
  | .unknown => "UNKNOWN"

/-- Outcomes of one request of a probe. -/
inductive ProbeSampleOutcome
  | stable | candidate | responseInvalid | transportUnavailable
  deriving DecidableEq,Repr

/-- Wire text of an outcome of a request. -/
def ProbeSampleOutcome.value : ProbeSampleOutcome → String
  | .stable => "STABLE"
  | .candidate => "CANDIDATE"
  | .responseInvalid => "RESPONSE_INVALID"
  | .transportUnavailable => "TRANSPORT_UNAVAILABLE"

/-- Outcomes of a probe. -/
inductive ProbeAttestationStatus
  | matched | inconclusive
  deriving DecidableEq,Repr

/-- Wire text of an outcome of a probe. -/
def ProbeAttestationStatus.value : ProbeAttestationStatus → String
  | .matched => "MATCH"
  | .inconclusive => "INCONCLUSIVE"

/-- Reasons of a probe attestation. -/
inductive ProbeAttestationReason
  | matched | transportUnavailable | responseInvalid | distributionMismatch
  deriving DecidableEq,Repr

/-- Wire text of a reason of a probe attestation. -/
def ProbeAttestationReason.value : ProbeAttestationReason → String
  | .matched => "PROBE_MATCH"
  | .transportUnavailable => "PROBE_TRANSPORT_UNAVAILABLE"
  | .responseInvalid => "PROBE_RESPONSE_INVALID"
  | .distributionMismatch => "PROBE_DISTRIBUTION_MISMATCH"

/-- Subjects of verifier evidence. -/
inductive IndependentVerificationKind
  | configuration | probe
  deriving DecidableEq,Repr

/-- Wire text of a subject. -/
def IndependentVerificationKind.value : IndependentVerificationKind → String
  | .configuration => "CONFIGURATION"
  | .probe => "PROBE"

/-- Signed verdicts. -/
inductive IndependentVerificationVerdict
  | matched | mismatch | unavailable | inconclusive
  deriving DecidableEq,Repr

/-- Wire text of a verdict. -/
def IndependentVerificationVerdict.value : IndependentVerificationVerdict → String
  | .matched => "MATCH"
  | .mismatch => "MISMATCH"
  | .unavailable => "UNAVAILABLE"
  | .inconclusive => "INCONCLUSIVE"

/-- Wire text of an outcome of a receipt. -/
def receiptOutcomeValue : ReceiptOutcome → String
  | .claimed => "CLAIMED"
  | .denied => "DENIED"
  | .applied => "APPLIED"
  | .verified => "VERIFIED"
  | .failedSafe => "FAILED_SAFE"
  | .ambiguous => "AMBIGUOUS"

/-- Wire text of a reason code. -/
def reasonCodeValue : ReasonCode → String
  | .contractInvalid => "CONTRACT_INVALID"
  | .contractVersionUnsupported => "CONTRACT_VERSION_UNSUPPORTED"
  | .callerUnauthenticated => "CALLER_UNAUTHENTICATED"
  | .callerUnauthorized => "CALLER_UNAUTHORIZED"
  | .signatureInvalid => "SIGNATURE_INVALID"
  | .keyVersionUntrusted => "KEY_VERSION_UNTRUSTED"
  | .capabilityExpired => "CAPABILITY_EXPIRED"
  | .capabilityNotYetValid => "CAPABILITY_NOT_YET_VALID"
  | .claimBindingMismatch => "CLAIM_BINDING_MISMATCH"
  | .targetBindingMismatch => "TARGET_BINDING_MISMATCH"
  | .lineageInvalid => "LINEAGE_INVALID"
  | .scopeAmplification => "SCOPE_AMPLIFICATION"
  | .authorityUnavailable => "AUTHORITY_UNAVAILABLE"
  | .epochMismatch => "EPOCH_MISMATCH"
  | .idempotencyConflict => "IDEMPOTENCY_CONFLICT"
  | .receiptInProgress => "RECEIPT_IN_PROGRESS"
  | .transportUnavailable => "TRANSPORT_UNAVAILABLE"
  | .providerPreconditionFailed => "PROVIDER_PRECONDITION_FAILED"
  | .providerRequestRejected => "PROVIDER_REQUEST_REJECTED"
  | .providerOutcomeAmbiguous => "PROVIDER_OUTCOME_AMBIGUOUS"
  | .transitionInvalid => "TRANSITION_INVALID"
  | .policyUnhealthy => "POLICY_UNHEALTHY"

/-- A verification request. -/
structure VerificationRequestV1 where
  root_id : Identifier
  root_sha256 : Sha256Digest
  epoch : PositiveSafeInteger
  target : TargetBinding
  plan_sha256 : Sha256Digest
  service_claim_sha256 : Sha256Digest
  probe_policy_sha256 : Sha256Digest
  signed_intent_sha256 : Sha256Digest
  action : CapabilityAction
  stable_revision : CloudRunName
  candidate_revision : CloudRunName
  stable_percent : Percent
  candidate_percent : Percent
  concurrency : Concurrency
  expected_stable_revision_configuration_sha256 : Sha256Digest
  expected_candidate_revision_configuration_sha256 : Sha256Digest
  expected_target_configuration_sha256 : Sha256Digest
  observation_window_started_at : UtcSecond
  observation_window_ends_at : UtcSecond
  request_id : Identifier
  /-- What the samples of a probe are correlated by. -/
  correlation_id : Identifier
  deriving DecidableEq

def verificationFields (request : VerificationRequestV1) : List (String×Json) :=
  [("schema_version",text "controlgraph.verification-request/v1"),("root_id",text request.root_id.1),
    ("root_sha256",digest request.root_sha256),("epoch",integer request.epoch.1),
    ("target",object (targetFields request.target)),("plan_sha256",digest request.plan_sha256),
    ("service_claim_sha256",digest request.service_claim_sha256),
    ("probe_policy_sha256",digest request.probe_policy_sha256),
    ("signed_intent_sha256",digest request.signed_intent_sha256),
    ("action",text request.action.value),("stable_revision",text request.stable_revision.1),
    ("candidate_revision",text request.candidate_revision.1),
    ("stable_percent",integer request.stable_percent.1),
    ("candidate_percent",integer request.candidate_percent.1),
    ("concurrency",integer request.concurrency.1),
    ("expected_stable_revision_configuration_sha256",
      digest request.expected_stable_revision_configuration_sha256),
    ("expected_candidate_revision_configuration_sha256",
      digest request.expected_candidate_revision_configuration_sha256),
    ("expected_target_configuration_sha256",digest request.expected_target_configuration_sha256),
    ("observation_window_started_at",timestamp request.observation_window_started_at),
    ("observation_window_ends_at",timestamp request.observation_window_ends_at),
    ("request_id",text request.request_id.1),("correlation_id",text request.correlation_id.1)]

/-- Traffic of one revision. -/
structure TrafficAllocation where
  revision : CloudRunName
  percent : Percent
  deriving DecidableEq

def trafficFields (allocation : TrafficAllocation) : List (String×Json) :=
  [("revision",text allocation.revision.1),("percent",integer allocation.percent.1)]

/-- An array of allocations. -/
def trafficJson (allocations : List TrafficAllocation) : Json :=
  .arr (allocations.map fun allocation => object (trafficFields allocation))

/-- What the verifier read of the configuration. -/
structure ConfigurationObservationFactsV1 where
  target : TargetBinding
  source_generation : PositiveSafeInteger
  observed_generation : NonNegativeSafeInteger
  provider_etag : OpaqueToken
  reconciling : Bool
  ready_state : ConfigurationReadyState
  template_revision : CloudRunName
  latest_created_revision : CloudRunName
  latest_ready_revision : CloudRunName
  stable_revision : CloudRunName
  candidate_revision : CloudRunName
  traffic : List TrafficAllocation
  traffic_statuses : List TrafficAllocation
  concurrency : Concurrency
  stable_revision_configuration_sha256 : Sha256Digest
  candidate_revision_configuration_sha256 : Sha256Digest
  target_configuration_sha256 : Sha256Digest
  retrieved_by : BoundedText
  retrieved_at : UtcSecond
  deriving DecidableEq

def factsFields (facts : ConfigurationObservationFactsV1) : List (String×Json) :=
  [("schema_version",text "controlgraph.configuration-observation-facts/v1"),
    ("target",object (targetFields facts.target)),
    ("source_generation",integer facts.source_generation.1),
    ("observed_generation",integer facts.observed_generation.1),
    ("provider_etag",text facts.provider_etag.1),("reconciling",.bool facts.reconciling),
    ("ready_state",text facts.ready_state.value),
    ("template_revision",text facts.template_revision.1),
    ("latest_created_revision",text facts.latest_created_revision.1),
    ("latest_ready_revision",text facts.latest_ready_revision.1),
    ("stable_revision",text facts.stable_revision.1),
    ("candidate_revision",text facts.candidate_revision.1),("traffic",trafficJson facts.traffic),
    ("traffic_statuses",trafficJson facts.traffic_statuses),
    ("concurrency",integer facts.concurrency.1),
    ("stable_revision_configuration_sha256",digest facts.stable_revision_configuration_sha256),
    ("candidate_revision_configuration_sha256",
      digest facts.candidate_revision_configuration_sha256),
    ("target_configuration_sha256",digest facts.target_configuration_sha256),
    ("retrieved_by",text facts.retrieved_by.1),("retrieved_at",timestamp facts.retrieved_at)]

/-- Facts with their digest. -/
structure ConfigurationObservationV1 where
  facts : ConfigurationObservationFactsV1
  observation_sha256 : Sha256Digest
  deriving DecidableEq

def configurationObservationFields (observation : ConfigurationObservationV1) :
    List (String×Json) :=
  [("schema_version",text "controlgraph.configuration-observation/v1"),
    ("facts",object (factsFields observation.facts)),
    ("observation_sha256",digest observation.observation_sha256)]

/-- Result of the configuration read. -/
structure ConfigurationAttestationV1 where
  request : VerificationRequestV1
  request_sha256 : Sha256Digest
  status : ConfigurationAttestationStatus
  reason : ConfigurationAttestationReason
  observation : Option ConfigurationObservationV1
  attested_by : BoundedText
  attested_at : UtcSecond
  deriving DecidableEq

def configurationFields (attestation : ConfigurationAttestationV1) : List (String×Json) :=
  [("schema_version",text "controlgraph.configuration-attestation/v1"),
    ("request",object (verificationFields attestation.request)),
    ("request_sha256",digest attestation.request_sha256),("status",text attestation.status.value),
    ("reason",text attestation.reason.value),
    ("observation",nullable (fun observation => object (configurationObservationFields observation))
      attestation.observation),
    ("attested_by",text attestation.attested_by.1),("attested_at",timestamp attestation.attested_at)]

/-- Sampling policy of a probe. -/
structure ProbePolicyV1 where
  stable_minimum : SampleCount
  stable_maximum : SampleCount
  candidate_minimum : SampleCount
  candidate_maximum : SampleCount
  deriving DecidableEq

def policyFields (policy : ProbePolicyV1) : List (String×Json) :=
  [("schema_version",text "controlgraph.probe-policy/v1"),("sample_count",integer 20),
    ("timeout_milliseconds",integer 2000),("max_attempts_per_sample",integer 1),
    ("response_limit_bytes",integer 1024),("stable_minimum",integer policy.stable_minimum.1),
    ("stable_maximum",integer policy.stable_maximum.1),
    ("candidate_minimum",integer policy.candidate_minimum.1),
    ("candidate_maximum",integer policy.candidate_maximum.1)]

/-- A request for a probe. -/
structure ProbeRequestV1 where
  verification : VerificationRequestV1
  policy : ProbePolicyV1
  endpoint : AudienceText
  nonce : ProbeNonce
  started_at : UtcSecond
  deriving DecidableEq

def probeRequestFields (request : ProbeRequestV1) : List (String×Json) :=
  [("schema_version",text "controlgraph.probe-request/v1"),
    ("verification",object (verificationFields request.verification)),
    ("policy",object (policyFields request.policy)),("endpoint",text request.endpoint.1),
    ("nonce",text request.nonce.1),("started_at",timestamp request.started_at)]

/-- One sample of a probe. -/
structure ProbeSampleObservationV1 where
  sample_index : {value : Nat // 1 ≤ value ∧ value ≤ 20}
  /-- What the sample is correlated by. -/
  correlation_id : Identifier
  requested_at : UtcSecond
  completed_at : UtcSecond
  outcome : ProbeSampleOutcome
  revision : Option CloudRunName
  marker : Option Identifier
  response_sha256 : Option Sha256Digest
  deriving DecidableEq

def sampleFields (sample : ProbeSampleObservationV1) : List (String×Json) :=
  [("schema_version",text "controlgraph.probe-sample-observation/v1"),
    ("sample_index",integer sample.sample_index.1),("correlation_id",text sample.correlation_id.1),
    ("requested_at",timestamp sample.requested_at),("completed_at",timestamp sample.completed_at),
    ("outcome",text sample.outcome.value),
    ("revision",nullable (fun revision : CloudRunName => text revision.1) sample.revision),
    ("marker",nullable (fun marker : Identifier => text marker.1) sample.marker),
    ("response_sha256",nullable digest sample.response_sha256)]

def samplesJson (samples : List ProbeSampleObservationV1) : Json :=
  .arr (samples.map fun sample => object (sampleFields sample))

/-- Twenty samples with their counts. -/
structure ProbeObservationV1 where
  samples : {samples : List ProbeSampleObservationV1 // samples.length=20}
  stable_count : SampleCount
  candidate_count : SampleCount
  invalid_count : SampleCount
  unavailable_count : SampleCount
  observation_sha256 : Sha256Digest
  deriving DecidableEq

def probeObservationFields (observation : ProbeObservationV1) : List (String×Json) :=
  [("schema_version",text "controlgraph.probe-observation/v1"),
    ("samples",samplesJson observation.samples.1),
    ("stable_count",integer observation.stable_count.1),
    ("candidate_count",integer observation.candidate_count.1),
    ("invalid_count",integer observation.invalid_count.1),
    ("unavailable_count",integer observation.unavailable_count.1),
    ("observation_sha256",digest observation.observation_sha256)]

/-- Result of a probe. -/
structure ProbeAttestationV1 where
  request : ProbeRequestV1
  request_sha256 : Sha256Digest
  status : ProbeAttestationStatus
  reason : ProbeAttestationReason
  observation : ProbeObservationV1
  attested_by : BoundedText
  /-- When the probe ended. -/
  completed_at : UtcSecond
  deriving DecidableEq

def probeFields (attestation : ProbeAttestationV1) : List (String×Json) :=
  [("schema_version",text "controlgraph.probe-attestation/v1"),
    ("request",object (probeRequestFields attestation.request)),
    ("request_sha256",digest attestation.request_sha256),("status",text attestation.status.value),
    ("reason",text attestation.reason.value),
    ("observation",object (probeObservationFields attestation.observation)),
    ("attested_by",text attestation.attested_by.1),
    ("completed_at",timestamp attestation.completed_at)]

/-- What the evidence writer signs about a result. -/
structure IndependentVerificationEvidenceV1 where
  kind : IndependentVerificationKind
  verification_request_sha256 : Sha256Digest
  root_id : Identifier
  root_sha256 : Sha256Digest
  epoch : PositiveSafeInteger
  target : TargetBinding
  plan_sha256 : Sha256Digest
  service_claim_sha256 : Sha256Digest
  probe_policy_sha256 : Sha256Digest
  signed_intent_sha256 : Sha256Digest
  action : CapabilityAction
  stable_revision : CloudRunName
  candidate_revision : CloudRunName
  stable_percent : Percent
  candidate_percent : Percent
  concurrency : Concurrency
  request_id : Identifier
  /-- What the samples of a probe are correlated by. -/
  correlation_id : Identifier
  observation_window_started_at : UtcSecond
  observation_window_ends_at : UtcSecond
  subject_sha256 : Sha256Digest
  verdict : IndependentVerificationVerdict
  reason_code : BoundedText
  verifier_identity : BoundedText
  /-- When the result was obtained. -/
  occurred_at : UtcSecond
  deriving DecidableEq

def evidenceFields (evidence : IndependentVerificationEvidenceV1) : List (String×Json) :=
  [("schema_version",text "controlgraph.independent-verification-evidence/v1"),
    ("kind",text evidence.kind.value),
    ("verification_request_sha256",digest evidence.verification_request_sha256),
    ("root_id",text evidence.root_id.1),("root_sha256",digest evidence.root_sha256),
    ("epoch",integer evidence.epoch.1),("target",object (targetFields evidence.target)),
    ("plan_sha256",digest evidence.plan_sha256),
    ("service_claim_sha256",digest evidence.service_claim_sha256),
    ("probe_policy_sha256",digest evidence.probe_policy_sha256),
    ("signed_intent_sha256",digest evidence.signed_intent_sha256),
    ("action",text evidence.action.value),("stable_revision",text evidence.stable_revision.1),
    ("candidate_revision",text evidence.candidate_revision.1),
    ("stable_percent",integer evidence.stable_percent.1),
    ("candidate_percent",integer evidence.candidate_percent.1),
    ("concurrency",integer evidence.concurrency.1),("request_id",text evidence.request_id.1),
    ("correlation_id",text evidence.correlation_id.1),
    ("observation_window_started_at",timestamp evidence.observation_window_started_at),
    ("observation_window_ends_at",timestamp evidence.observation_window_ends_at),
    ("subject_sha256",digest evidence.subject_sha256),("verdict",text evidence.verdict.value),
    ("reason_code",text evidence.reason_code.1),
    ("verifier_identity",text evidence.verifier_identity.1),
    ("occurred_at",timestamp evidence.occurred_at)]

/-- The result that is signed. -/
structure IndependentVerificationSigningRequestV1 where
  configuration : Option ConfigurationAttestationV1
  probe : Option ProbeAttestationV1
  evidence : IndependentVerificationEvidenceV1
  deriving DecidableEq

def signingRequestFields (request : IndependentVerificationSigningRequestV1) : List (String×Json) :=
  [("schema_version",text "controlgraph.independent-verification-signing-request/v1"),
    ("configuration",nullable (fun attestation => object (configurationFields attestation))
      request.configuration),
    ("probe",nullable (fun attestation => object (probeFields attestation)) request.probe),
    ("evidence",object (evidenceFields request.evidence))]

/-- Evidence with its signature. -/
structure SignedIndependentVerificationEvidenceV1 where
  evidence : IndependentVerificationEvidenceV1
  signing_key_version : KeyVersionResource
  payload_sha256 : Sha256Digest
  signing_input_sha256 : Sha256Digest
  signature : Base64Url
  deriving DecidableEq

def signedEvidenceFields (signed : SignedIndependentVerificationEvidenceV1) : List (String×Json) :=
  [("schema_version",text "controlgraph.signed-independent-verification-evidence/v1"),
    ("evidence",object (evidenceFields signed.evidence)),
    ("purpose",text "INDEPENDENT_VERIFICATION"),
    ("signing_key_version",text signed.signing_key_version.1),
    ("signing_algorithm",text "EC_SIGN_P256_SHA256"),
    ("payload_sha256",digest signed.payload_sha256),
    ("signing_input_sha256",digest signed.signing_input_sha256),
    ("signature",text signed.signature.1)]

/-- A result whose signature was verified. -/
structure VerifiedIndependentVerificationEvidenceV1 where
  signing_request : IndependentVerificationSigningRequestV1
  signed_evidence : SignedIndependentVerificationEvidenceV1
  verified_at : UtcSecond
  deriving DecidableEq

def verifiedFields (evidence : VerifiedIndependentVerificationEvidenceV1) : List (String×Json) :=
  [("schema_version",text "controlgraph.verified-independent-verification-evidence/v1"),
    ("signing_request",object (signingRequestFields evidence.signing_request)),
    ("signed_evidence",object (signedEvidenceFields evidence.signed_evidence)),
    ("verified_at",timestamp evidence.verified_at)]

end ControlGraph.VerificationContracts
