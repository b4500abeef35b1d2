import ControlGraph.CompletionLayers
import ControlGraph.FlatRecords

/-!
# Bundles that can be hashed

Every text of a valid bundle is in normal form, its numbers are safe, and its nesting is
shallow, so the codec refuses its canonical value for one reason only: its bytes. A
bundle whose bytes are within the bound of a contract is classified, and any other raises.
-/

namespace ControlGraph.CompletionSizes

open Checks CanonicalCodec ConsoleValues ContractText FlatRecords JsonSizes JsonValues
  ReceiptContracts TimelinePageAgreement TimelinePageSizes TimelineReading TimelineWire Utf8Text
  VerificationContracts VerificationRules CompletionClassification CompletionLayers

open ConsoleCodec (UnicodeTables)

open RootContracts (verifierIdentity)

/-- A value that the codec accepts at a depth and that repeats no key. -/
structure Plain (tables : UnicodeTables) (depth : Nat) (value : Json) : Prop where
  /-- The codec accepts the value. -/
  restricted : Restricted tables depth value
  /-- No key is repeated. -/
  unique : value.UniqueKeys

/-- Names of a record: canonical, distinct and few. -/
def RecordNames (names : List String) : Prop :=
  (∀ name∈names,isObjectKey (chars name)=true) ∧ names.Nodup ∧ names.length ≤ 64

instance (names : List String) : Decidable (RecordNames names) :=
  inferInstanceAs (Decidable (_ ∧ _))

/-- Contracts of a completion. -/
inductive Contract
  | verification | allocation | facts | configurationObservation | policy | probeRequest | sample
  | probeObservation | evidence | execution | authority | assessment | configuration | probe
  | signingRequest | signed | verified | bundle

def Contract.names : Contract → List String
  | .verification =>
    ["schema_version","root_id","root_sha256","epoch","target","plan_sha256",
      "service_claim_sha256","probe_policy_sha256","signed_intent_sha256","action",
      "stable_revision","candidate_revision","stable_percent","candidate_percent","concurrency",
      "expected_stable_revision_configuration_sha256",
      "expected_candidate_revision_configuration_sha256","expected_target_configuration_sha256",
      "observation_window_started_at","observation_window_ends_at","request_id","correlation_id"]
  | .allocation => ["revision","percent"]
  | .facts =>
    ["schema_version","target","source_generation","observed_generation","provider_etag",
      "reconciling","ready_state","template_revision","latest_created_revision",
      "latest_ready_revision","stable_revision","candidate_revision","traffic",
      "traffic_statuses","concurrency","stable_revision_configuration_sha256",
      "candidate_revision_configuration_sha256","target_configuration_sha256","retrieved_by",
      "retrieved_at"]
  | .configurationObservation => ["schema_version","facts","observation_sha256"]
  | .policy =>
    ["schema_version","sample_count","timeout_milliseconds","max_attempts_per_sample",
      "response_limit_bytes","stable_minimum","stable_maximum","candidate_minimum",
      "candidate_maximum"]
  | .probeRequest => ["schema_version","verification","policy","endpoint","nonce","started_at"]
  | .sample =>
    ["schema_version","sample_index","correlation_id","requested_at","completed_at","outcome",
      "revision","marker","response_sha256"]
  | .probeObservation =>
    ["schema_version","samples","stable_count","candidate_count","invalid_count",
      "unavailable_count","observation_sha256"]
  | .evidence =>
    ["schema_version","kind","verification_request_sha256","root_id","root_sha256","epoch",
      "target","plan_sha256","service_claim_sha256","probe_policy_sha256","signed_intent_sha256",
      "action","stable_revision","candidate_revision","stable_percent","candidate_percent",
      "concurrency","request_id","correlation_id","observation_window_started_at",
      "observation_window_ends_at","subject_sha256","verdict","reason_code","verifier_identity",
      "occurred_at"]
  | .execution =>
    ["schema_version","root_id","root_sha256","epoch","target","plan_sha256",
      "service_claim_sha256","probe_policy_sha256","signed_intent_sha256",
      "intent_signature_verified","request_id","correlation_id","observation_window_started_at",
      "observation_window_ends_at","action","outcome","reason_code","observed_authority_epoch",
      "receipt_sha256","receipt_persisted","write_outcome_known"]
  | .authority =>
    ["schema_version","kind","root_id","root_sha256","epoch","target","plan_sha256",
      "request_id","correlation_id","observation_window_started_at","observation_window_ends_at",
      "authority_evidence_sha256","signature_verified","occurred_at"]
  | .assessment => ["schema_version","kind","verification","assessed_at"]
  | .configuration =>
    ["schema_version","request","request_sha256","status","reason","observation","attested_by",
      "attested_at"]
  | .probe =>
    ["schema_version","request","request_sha256","status","reason","observation","attested_by",
      "completed_at"]
  | .signingRequest => ["schema_version","configuration","probe","evidence"]
  | .signed =>
    ["schema_version","evidence","purpose","signing_key_version","signing_algorithm",
      "payload_sha256","signing_input_sha256","signature"]
  | .verified => ["schema_version","signing_request","signed_evidence","verified_at"]
  | .bundle => ["schema_version","request","execution","configuration","probe","authority"]

/-- Schema version of a contract, where an allocation has none. -/
def Contract.version : Contract → String
  | .verification => "controlgraph.verification-request/v1"
  | .allocation => ""
  | .facts => "controlgraph.configuration-observation-facts/v1"
  | .configurationObservation => "controlgraph.configuration-observation/v1"
  | .policy => "controlgraph.probe-policy/v1"
  | .probeRequest => "controlgraph.probe-request/v1"
  | .sample => "controlgraph.probe-sample-observation/v1"
  | .probeObservation => "controlgraph.probe-observation/v1"
  | .evidence => "controlgraph.independent-verification-evidence/v1"
  | .execution => "controlgraph.execution-completion-evidence/v1"
  | .authority => "controlgraph.authority-completion-evidence/v1"
  | .assessment => "controlgraph.completion-assessment-request/v1"
  | .configuration => "controlgraph.configuration-attestation/v1"
  | .probe => "controlgraph.probe-attestation/v1"
  | .signingRequest => "controlgraph.independent-verification-signing-request/v1"
  | .signed => "controlgraph.signed-independent-verification-evidence/v1"
  | .verified => "controlgraph.verified-independent-verification-evidence/v1"
  | .bundle => "controlgraph.completion-evidence-bundle/v1"

def Contract.versionBytes : Contract → Nat
  | .verification => 38
  | .allocation => 2
  | .facts => 49
  | .configurationObservation => 43
  | .policy => 30
  | .probeRequest => 31
  | .sample => 42
  | .probeObservation => 35
  | .evidence => 51
  | .execution => 47
  | .authority => 47
  | .assessment => 47
  | .configuration => 43
  | .probe => 35
  | .signingRequest => 58
  | .signed => 58
  | .verified => 60
  | .bundle => 44

def Contract.namesBytes : Contract → Nat
  | .verification => 491
  | .allocation => 24
  | .facts => 426
  | .configurationObservation => 50
  | .policy => 188
  | .probeRequest => 80
  | .sample => 137
  | .probeObservation => 125
  | .evidence => 469
  | .execution => 400
  | .authority => 248
  | .assessment => 58
  | .configuration => 113
  | .probe => 114
  | .signingRequest => 57
  | .signed => 141
  | .verified => 72
  | .bundle => 82

/-- The names of a contract are canonical, distinct and few. -/
theorem names_valid (contract : Contract) : RecordNames contract.names := by
  cases contract <;> decide +kernel

section

variable {tables : UnicodeTables} {depth : Nat}

theorem plain_normal {value : String} (hdepth : depth ≤ 12)
    (hnormal : tables.nfc (chars value)=chars value) : Plain tables depth (text value) :=
  ⟨restricted_normal hdepth hnormal,.str _⟩

theorem plain_ascii {value : String} (hdepth : depth ≤ 12) (hascii : IsAscii value) :
    Plain tables depth (text value) :=
  ⟨restricted_ascii hdepth hascii,.str _⟩

theorem plain_integer {value : Nat} (hdepth : depth ≤ 12) (hsafe : value ≤ 9007199254740991) :
    Plain tables depth (integer value) :=
  ⟨restricted_integer hdepth hsafe,.int _⟩

theorem plain_digest (hdepth : depth ≤ 12) (value : Sha256Digest) :
    Plain tables depth (digest value) :=
  ⟨restricted_digest hdepth value,.str _⟩

theorem plain_timestamp (hdepth : depth ≤ 12) (second : UtcSecond) :
    Plain tables depth (timestamp second) :=
  ⟨restricted_timestamp hdepth second,.str _⟩

/-- A truth value. -/
theorem plain_bool (hdepth : depth ≤ 12) (value : Bool) : Plain tables depth (.bool value) := by
  refine ⟨?_,.bool value⟩
  rw [Restricted,validateRestricted]
  exact require_of hdepth

/-- A value or the null literal. -/
theorem plain_nullable {Value : Type} {json : Value → Json} {value : Option Value}
    (hdepth : depth ≤ 12) (h : ∀ found∈value,Plain tables depth (json found)) :
    Plain tables depth (nullable json value) := by
  refine ⟨restricted_nullable hdepth fun found hfound => (h found hfound).restricted,?_⟩
  cases value with
  | none => exact .null
  | some found => exact (h found rfl).unique

/-- A record. -/
theorem plain_object {fields : List (String×Json)} {names : List String} (hdepth : depth ≤ 12)
    (hnames : RecordNames names) (hfields : fields.map Prod.fst=names)
    (hvalues : ∀ field∈fields,Plain tables (depth+1) field.2) :
    Plain tables depth (object fields) := by
  obtain ⟨hcanonical,hnodup,hfew⟩ := hnames
  refine ⟨restricted_object hdepth hcanonical hfields hfew fun field hfield =>
    (hvalues field hfield).restricted,.obj ?_ ?_⟩
  · have hwritten : (fields.map fun field => (chars field.1,field.2)).map Prod.fst=names.map chars := by
      rw [← hfields,List.map_map,List.map_map]
      rfl
    rw [hwritten]
    exact hnodup.map fun _ _ hsame => literal_of_chars hsame
  · intro field hfield
    obtain ⟨source,hsource,rfl⟩ := List.mem_map.mp hfield
    exact (hvalues source hsource).unique

theorem plain_contract {fields : List (String×Json)} (contract : Contract) (hdepth : depth ≤ 12)
    (hfields : fields.map Prod.fst=contract.names)
    (hvalues : ∀ field∈fields,Plain tables (depth+1) field.2) :
    Plain tables depth (object fields) :=
  plain_object hdepth (names_valid contract) hfields hvalues

/-- An array of few items. -/
theorem plain_arr {Item : Type} {items : List Item} {json : Item → Json} (hdepth : depth ≤ 12)
    (hfew : items.length ≤ 64) (hitems : ∀ item∈items,Plain tables (depth+1) (json item)) :
    Plain tables depth (.arr (items.map json)) := by
  refine ⟨(restricted_arr hdepth fun item hitem => (hitems item hitem).restricted).mpr hfew,.arr ?_⟩
  intro value hvalue
  obtain ⟨item,hitem,rfl⟩ := List.mem_map.mp hvalue
  exact (hitems item hitem).unique

theorem plain_target (hdepth : depth ≤ 11) (target : TargetBinding) :
    Plain tables depth (object (targetFields target)) :=
  ⟨restricted_target hdepth target,uniqueKeys_target target⟩

theorem plain_revision (hdepth : depth ≤ 12) (revision : CloudRunName) :
    Plain tables depth (text revision.1) :=
  plain_ascii hdepth (isAscii_hyphenated revision.2.1)

theorem plain_identifier (hdepth : depth ≤ 12) (identifier : Identifier) :
    Plain tables depth (text identifier.1) :=
  plain_ascii hdepth (isAscii_identifier identifier.2)

theorem ascii_configurationStatus (status : ConfigurationAttestationStatus) : IsAscii status.value := by
  cases status <;> exact isAscii_ofList rfl

theorem ascii_configurationReason (reason : ConfigurationAttestationReason) : IsAscii reason.value := by
  cases reason <;> exact isAscii_ofList rfl

theorem ascii_readyState (state : ConfigurationReadyState) : IsAscii state.value := by
  cases state <;> exact isAscii_ofList rfl

theorem ascii_sampleOutcome (outcome : ProbeSampleOutcome) : IsAscii outcome.value := by
  cases outcome <;> exact isAscii_ofList rfl

theorem ascii_probeStatus (status : ProbeAttestationStatus) : IsAscii status.value := by
  cases status <;> exact isAscii_ofList rfl

theorem ascii_probeReason (reason : ProbeAttestationReason) : IsAscii reason.value := by
  cases reason <;> exact isAscii_ofList rfl

theorem ascii_kind (kind : IndependentVerificationKind) : IsAscii kind.value := by
  cases kind <;> exact isAscii_ofList rfl

theorem ascii_verdict (verdict : IndependentVerificationVerdict) : IsAscii verdict.value := by
  cases verdict <;> exact isAscii_ofList rfl

theorem ascii_receiptOutcome (outcome : ReceiptOutcome) : IsAscii (receiptOutcomeValue outcome) := by
  cases outcome <;> exact isAscii_ofList rfl

theorem ascii_reasonCode (reason : ReasonCode) : IsAscii (reasonCodeValue reason) := by
  cases reason <;> exact isAscii_ofList rfl

theorem ascii_action (action : CapabilityAction) : IsAscii action.value := by
  cases action <;> exact isAscii_ofList rfl

theorem ascii_completionKind (kind : CompletionKind) : IsAscii kind.value := by
  cases kind <;> exact isAscii_ofList rfl

theorem ascii_authorityKind (kind : AuthorityCompletionKind) : IsAscii kind.value := by
  cases kind <;> exact isAscii_ofList rfl

theorem ascii_append {first second : String} (hfirst : IsAscii first) (hsecond : IsAscii second) :
    IsAscii (first++second) := by
  intro character hmem
  rw [String.toList_append,List.mem_append] at hmem
  exact hmem.elim (hfirst character) (hsecond character)

theorem ascii_verifier (target : TargetBinding) : IsAscii (verifierIdentity target) :=
  ascii_append (ascii_append (isAscii_ofList rfl) (isAscii_hyphenated target.project_id.2.1))
    (isAscii_ofList rfl)

/-- Text of the URL-safe alphabet is ASCII. -/
theorem ascii_base64Url {value : String} (h : value.toList.all isBase64UrlCharacter=true) :
    IsAscii value := by
  intro character hmem
  have hcharacter := List.all_eq_true.mp h character hmem
  simp only [isBase64UrlCharacter,Bool.or_eq_true,beq_iff_eq] at hcharacter
  rcases hcharacter with (halphanumeric | rfl) | rfl
  · exact alphanumeric_ascii halphanumeric
  · decide
  · decide

theorem tokenCharacter_ascii {character : Char} (h : isTokenCharacter character=true) :
    character.toNat < 128 := by
  simp only [isTokenCharacter,Bool.or_eq_true,List.contains_eq_mem,decide_eq_true_eq,List.mem_cons,
    List.not_mem_nil,or_false] at h
  rcases h with halphanumeric | h
  · exact alphanumeric_ascii halphanumeric
  · rcases h with rfl | rfl | rfl | rfl | rfl | rfl | rfl | rfl <;> decide

theorem ascii_token (token : OpaqueToken) : IsAscii token.1 := by
  have h := token.2
  unfold isOpaqueToken at h
  intro character hmem
  split at h
  · rename_i rest hquoted
    rw [hquoted,List.mem_cons] at hmem
    rcases hmem with rfl | hrest
    · decide
    · split_ifs at h with hlast
      · simp only [Bool.and_eq_true,List.all_eq_true] at h
        have hsplit : rest=rest.dropLast++ ['"'] := by
          have hne : rest≠[] := by
            rintro rfl
            cases hlast
          have hfinal : rest.getLast hne = '"' := by
            rw [List.getLast?_eq_some_getLast hne] at hlast
            exact Option.some.inj hlast
          rw [← hfinal]
          exact (List.dropLast_append_getLast hne).symm
        rw [hsplit,List.mem_append,List.mem_singleton] at hrest
        rcases hrest with hbody | rfl
        · exact tokenCharacter_ascii (h.1.2 character hbody)
        · decide
      · simp at h
  · simp only [Bool.and_eq_true,List.all_eq_true] at h
    exact tokenCharacter_ascii (h.1.2 character hmem)

theorem plain_verification (hdepth : depth ≤ 10) (request : VerificationRequestV1) :
    Plain tables depth (object (verificationFields request)) := by
  refine plain_contract .verification (by omega) rfl ?_
  simp only [verificationFields,List.forall_mem_cons]
  exact ⟨plain_ascii (by omega) (isAscii_ofList rfl),plain_identifier (by omega) _,
    plain_digest (by omega) _,plain_integer (by omega) (by have hbound := request.epoch.2; omega),
    plain_target (by omega) _,plain_digest (by omega) _,plain_digest (by omega) _,
    plain_digest (by omega) _,plain_digest (by omega) _,plain_ascii (by omega) (ascii_action _),
    plain_revision (by omega) _,plain_revision (by omega) _,
    plain_integer (by omega) (by have hbound := request.stable_percent.2; omega),
    plain_integer (by omega) (by have hbound := request.candidate_percent.2; omega),
    plain_integer (by omega) (by have hbound := request.concurrency.2; omega),
    plain_digest (by omega) _,plain_digest (by omega) _,plain_digest (by omega) _,
    plain_timestamp (by omega) _,plain_timestamp (by omega) _,plain_identifier (by omega) _,
    plain_identifier (by omega) _,List.forall_mem_nil _⟩

theorem plain_allocation (hdepth : depth ≤ 11) (allocation : TrafficAllocation) :
    Plain tables depth (object (trafficFields allocation)) := by
  refine plain_contract .allocation (by omega) rfl ?_
  simp only [trafficFields,List.forall_mem_cons]
  exact ⟨plain_revision (by omega) _,
    plain_integer (by omega) (by have hbound := allocation.percent.2; omega),
    List.forall_mem_nil _⟩

/-- A few allocations. -/
theorem plain_traffic (hdepth : depth ≤ 10) {allocations : List TrafficAllocation}
    (hfew : allocations.length ≤ 2) : Plain tables depth (trafficJson allocations) :=
  plain_arr (by omega) (by omega) fun allocation _ => plain_allocation (by omega) allocation

/-- Facts with little traffic that an ASCII identity has read. -/
theorem plain_facts (hdepth : depth ≤ 9) {facts : ConfigurationObservationFactsV1}
    (htraffic : facts.traffic.length ≤ 2) (hstatuses : facts.traffic_statuses.length ≤ 2)
    (hreader : IsAscii facts.retrieved_by.1) :
    Plain tables depth (object (factsFields facts)) := by
  refine plain_contract .facts (by omega) rfl ?_
  simp only [factsFields,List.forall_mem_cons]
  exact ⟨plain_ascii (by omega) (isAscii_ofList rfl),plain_target (by omega) _,
    plain_integer (by omega) (by have hbound := facts.source_generation.2; omega),
    plain_integer (by omega) (by have hbound := facts.observed_generation.2; omega),
    plain_ascii (by omega) (ascii_token _),plain_bool (by omega) _,
    plain_ascii (by omega) (ascii_readyState _),plain_revision (by omega) _,
    plain_revision (by omega) _,plain_revision (by omega) _,plain_revision (by omega) _,
    plain_revision (by omega) _,plain_traffic (by omega) htraffic,
    plain_traffic (by omega) hstatuses,
    plain_integer (by omega) (by have hbound := facts.concurrency.2; omega),
    plain_digest (by omega) _,plain_digest (by omega) _,plain_digest (by omega) _,
    plain_ascii (by omega) (hreader),plain_timestamp (by omega) _,List.forall_mem_nil _⟩

theorem plain_configurationObservation (hdepth : depth ≤ 8) {observation : ConfigurationObservationV1}
    (htraffic : observation.facts.traffic.length ≤ 2)
    (hstatuses : observation.facts.traffic_statuses.length ≤ 2)
    (hreader : IsAscii observation.facts.retrieved_by.1) :
    Plain tables depth (object (configurationObservationFields observation)) := by
  refine plain_contract .configurationObservation (by omega) rfl ?_
  simp only [configurationObservationFields,List.forall_mem_cons]
  exact ⟨plain_ascii (by omega) (isAscii_ofList rfl),
    plain_facts (by omega) htraffic hstatuses hreader,plain_digest (by omega) _,
    List.forall_mem_nil _⟩

theorem plain_policy (hdepth : depth ≤ 11) (policy : ProbePolicyV1) :
    Plain tables depth (object (policyFields policy)) := by
  refine plain_contract .policy (by omega) rfl ?_
  simp only [policyFields,List.forall_mem_cons]
  exact ⟨plain_ascii (by omega) (isAscii_ofList rfl),plain_integer (by omega) (by omega),
    plain_integer (by omega) (by omega),plain_integer (by omega) (by omega),
    plain_integer (by omega) (by omega),
    plain_integer (by omega) (by have hbound := policy.stable_minimum.2; omega),
    plain_integer (by omega) (by have hbound := policy.stable_maximum.2; omega),
    plain_integer (by omega) (by have hbound := policy.candidate_minimum.2; omega),
    plain_integer (by omega) (by have hbound := policy.candidate_maximum.2; omega),
    List.forall_mem_nil _⟩

theorem plain_probeRequest (hdepth : depth ≤ 9) {request : ProbeRequestV1}
    (hnormal : tables.nfc (chars request.endpoint.1)=chars request.endpoint.1) :
    Plain tables depth (object (probeRequestFields request)) := by
  refine plain_contract .probeRequest (by omega) rfl ?_
  simp only [probeRequestFields,List.forall_mem_cons]
  exact ⟨plain_ascii (by omega) (isAscii_ofList rfl),plain_verification (by omega) _,
    plain_policy (by omega) _,plain_normal (by omega) hnormal,
    plain_ascii (by omega) (ascii_base64Url request.nonce.2.1),plain_timestamp (by omega) _,
    List.forall_mem_nil _⟩

theorem plain_sample (hdepth : depth ≤ 11) (sample : ProbeSampleObservationV1) :
    Plain tables depth (object (sampleFields sample)) := by
  refine plain_contract .sample (by omega) rfl ?_
  simp only [sampleFields,List.forall_mem_cons]
  exact ⟨plain_ascii (by omega) (isAscii_ofList rfl),
    plain_integer (by omega) (by have hbound := sample.sample_index.2; omega),
    plain_identifier (by omega) _,plain_timestamp (by omega) _,plain_timestamp (by omega) _,
    plain_ascii (by omega) (ascii_sampleOutcome _),
    plain_nullable (by omega) (fun _ _ => plain_revision (by omega) _),
    plain_nullable (by omega) (fun _ _ => plain_identifier (by omega) _),
    plain_nullable (by omega) (fun _ _ => plain_digest (by omega) _),List.forall_mem_nil _⟩

theorem plain_samples (hdepth : depth ≤ 10) {samples : List ProbeSampleObservationV1}
    (hfew : samples.length=20) : Plain tables depth (samplesJson samples) :=
  plain_arr (by omega) (by omega) fun sample _ => plain_sample (by omega) sample

theorem plain_probeObservation (hdepth : depth ≤ 9) (observation : ProbeObservationV1) :
    Plain tables depth (object (probeObservationFields observation)) := by
  refine plain_contract .probeObservation (by omega) rfl ?_
  simp only [probeObservationFields,List.forall_mem_cons]
  exact ⟨plain_ascii (by omega) (isAscii_ofList rfl),plain_samples (by omega) observation.samples.2,
    plain_integer (by omega) (by have hbound := observation.stable_count.2; omega),
    plain_integer (by omega) (by have hbound := observation.candidate_count.2; omega),
    plain_integer (by omega) (by have hbound := observation.invalid_count.2; omega),
    plain_integer (by omega) (by have hbound := observation.unavailable_count.2; omega),
    plain_digest (by omega) _,List.forall_mem_nil _⟩

theorem plain_evidence (hdepth : depth ≤ 10) {evidence : IndependentVerificationEvidenceV1}
    (hreason : IsAscii evidence.reason_code.1) (hverifier : IsAscii evidence.verifier_identity.1) :
    Plain tables depth (object (evidenceFields evidence)) := by
  refine plain_contract .evidence (by omega) rfl ?_
  simp only [evidenceFields,List.forall_mem_cons]
  exact ⟨plain_ascii (by omega) (isAscii_ofList rfl),plain_ascii (by omega) (ascii_kind _),
    plain_digest (by omega) _,plain_identifier (by omega) _,plain_digest (by omega) _,
    plain_integer (by omega) (by have hbound := evidence.epoch.2; omega),plain_target (by omega) _,
    plain_digest (by omega) _,plain_digest (by omega) _,plain_digest (by omega) _,
    plain_digest (by omega) _,plain_ascii (by omega) (ascii_action _),plain_revision (by omega) _,
    plain_revision (by omega) _,
    plain_integer (by omega) (by have hbound := evidence.stable_percent.2; omega),
    plain_integer (by omega) (by have hbound := evidence.candidate_percent.2; omega),
    plain_integer (by omega) (by have hbound := evidence.concurrency.2; omega),
    plain_identifier (by omega) _,plain_identifier (by omega) _,plain_timestamp (by omega) _,
    plain_timestamp (by omega) _,plain_digest (by omega) _,plain_ascii (by omega) (ascii_verdict _),
    plain_ascii (by omega) (hreason),plain_ascii (by omega) (hverifier),
    plain_timestamp (by omega) _,List.forall_mem_nil _⟩

/-- The facts of a receipt. -/
theorem plain_execution (hdepth : depth ≤ 10) (execution : ExecutionCompletionEvidenceV1) :
    Plain tables depth (object (executionFields execution)) := by
  refine plain_contract .execution (by omega) rfl ?_
  simp only [executionFields,List.forall_mem_cons]
  exact ⟨plain_ascii (by omega) (isAscii_ofList rfl),plain_identifier (by omega) _,
    plain_digest (by omega) _,plain_integer (by omega) (by have hbound := execution.epoch.2; omega),
    plain_target (by omega) _,plain_digest (by omega) _,plain_digest (by omega) _,
    plain_digest (by omega) _,plain_digest (by omega) _,plain_bool (by omega) _,
    plain_identifier (by omega) _,plain_identifier (by omega) _,plain_timestamp (by omega) _,
    plain_timestamp (by omega) _,plain_ascii (by omega) (ascii_action _),
    plain_ascii (by omega) (ascii_receiptOutcome _),
    plain_nullable (by omega) (fun _ _ => plain_ascii (by omega) (ascii_reasonCode _)),
    plain_nullable (by omega)
    (fun epoch _ => plain_integer (by omega) epoch.2.2),
    plain_digest (by omega) _,plain_bool (by omega) _,plain_bool (by omega) _,
    List.forall_mem_nil _⟩

theorem plain_authority (hdepth : depth ≤ 10) (authority : AuthorityCompletionEvidenceV1) :
    Plain tables depth (object (authorityFields authority)) := by
  refine plain_contract .authority (by omega) rfl ?_
  simp only [authorityFields,List.forall_mem_cons]
  exact ⟨plain_ascii (by omega) (isAscii_ofList rfl),plain_ascii (by omega) (ascii_authorityKind _),
    plain_identifier (by omega) _,plain_digest (by omega) _,
    plain_integer (by omega) (by have hbound := authority.epoch.2; omega),plain_target (by omega) _,
    plain_digest (by omega) _,plain_identifier (by omega) _,plain_identifier (by omega) _,
    plain_timestamp (by omega) _,plain_timestamp (by omega) _,plain_digest (by omega) _,
    plain_bool (by omega) _,plain_timestamp (by omega) _,List.forall_mem_nil _⟩

/-- A terminal claim. -/
theorem plain_assessment (hdepth : depth ≤ 9) (request : CompletionAssessmentRequestV1) :
    Plain tables depth (object (assessmentFields request)) := by
  refine plain_contract .assessment (by omega) rfl ?_
  simp only [assessmentFields,List.forall_mem_cons]
  exact ⟨plain_ascii (by omega) (isAscii_ofList rfl),
    plain_ascii (by omega) (ascii_completionKind _),plain_verification (by omega) _,
    plain_timestamp (by omega) _,List.forall_mem_nil _⟩

end

section

variable {functions : VerificationFunctions} {depth : Nat}

theorem ascii_of_eq {first second : String} (hsame : first=second) (hascii : IsAscii second) :
    IsAscii first :=
  hsame ▸ hascii

theorem plain_configuration (hdepth : depth ≤ 7) {attestation : ConfigurationAttestationV1}
    (h : validateConfiguration functions attestation=.ok ()) :
    Plain functions.tables depth (object (configurationFields attestation)) := by
  unfold validateConfiguration at h
  obtain ⟨-,h⟩ := check_bind_eq_ok.mp h
  obtain ⟨hobserved,h⟩ := check_bind_eq_ok.mp h
  obtain ⟨expected,-,h⟩ := bind_eq_ok.mp h
  obtain ⟨hbinding,h⟩ := check_bind_eq_ok.mp h
  obtain ⟨-,hattested,-⟩ := require_eq_ok.mp hbinding
  have hobservation : ∀ observation∈attestation.observation,
      Plain functions.tables (depth+1) (object (configurationObservationFields observation)) := by
    intro observation hmem
    rw [requireConfigurationResult,Option.mem_def.mp hmem] at h
    rw [Option.mem_def.mp hmem,validateObserved,validateDigest,validateFacts] at hobserved
    simp only [check_bind_eq_ok,require_eq_ok] at hobserved
    obtain ⟨⟨⟨-,htraffic,-,hstatuses⟩,-⟩,-⟩ := hobserved
    obtain ⟨-,hreader,-⟩ := require_eq_ok.mp h
    exact plain_configurationObservation (by omega) htraffic hstatuses
      (ascii_of_eq hreader (ascii_verifier _))
  refine plain_contract .configuration (by omega) rfl ?_
  simp only [configurationFields,List.forall_mem_cons]
  exact ⟨plain_ascii (by omega) (isAscii_ofList rfl),plain_verification (by omega) _,
    plain_digest (by omega) _,plain_ascii (by omega) (ascii_configurationStatus _),
    plain_ascii (by omega) (ascii_configurationReason _),plain_nullable (by omega) hobservation,
    plain_ascii (by omega) (ascii_of_eq hattested (ascii_verifier _)),plain_timestamp (by omega) _,
    List.forall_mem_nil _⟩

theorem plain_probe (hdepth : depth ≤ 8) {attestation : ProbeAttestationV1}
    (h : validateProbeAttestation functions attestation=.ok ()) :
    Plain functions.tables depth (object (probeFields attestation)) := by
  unfold validateProbeAttestation at h
  obtain ⟨hprobe,h⟩ := check_bind_eq_ok.mp h
  obtain ⟨-,h⟩ := check_bind_eq_ok.mp h
  obtain ⟨expected,-,h⟩ := bind_eq_ok.mp h
  obtain ⟨-,hattested,-⟩ := require_eq_ok.mp h
  unfold validateProbe at hprobe
  obtain ⟨-,hprobe⟩ := check_bind_eq_ok.mp hprobe
  obtain ⟨-,hprobe⟩ := check_bind_eq_ok.mp hprobe
  obtain ⟨parsed,haudience,-⟩ := bind_eq_ok.mp hprobe
  unfold validateAudience at haudience
  obtain ⟨hnormal,-⟩ := check_bind_eq_ok.mp haudience
  rw [mapError_eq_ok,validateNfcText,check_bind_eq_ok,require_eq_ok,require_eq_ok] at hnormal
  refine plain_contract .probe (by omega) rfl ?_
  simp only [probeFields,List.forall_mem_cons]
  exact ⟨plain_ascii (by omega) (isAscii_ofList rfl),plain_probeRequest (by omega) hnormal.2,
    plain_digest (by omega) _,plain_ascii (by omega) (ascii_probeStatus _),
    plain_ascii (by omega) (ascii_probeReason _),plain_probeObservation (by omega) _,
    plain_ascii (by omega) (ascii_of_eq hattested (ascii_verifier _)),plain_timestamp (by omega) _,
    List.forall_mem_nil _⟩

theorem plain_bound {evidence : IndependentVerificationEvidenceV1}
    {kind : IndependentVerificationKind} {verification : VerificationRequestV1}
    {verdict : IndependentVerificationVerdict} {reason : String} {occurred_at : UtcSecond}
    {subject : Except CodecRaised Sha256Digest} (hdepth : depth ≤ 10) (hreason : IsAscii reason)
    (h : requireResultBound functions evidence kind verification verdict reason occurred_at
      subject=.ok ()) :
    Plain functions.tables depth (object (evidenceFields evidence)) := by
  obtain ⟨-,-,-,hverifier,hsame⟩ := requireResultBound_eq_ok h
  exact plain_evidence hdepth (ascii_of_eq hsame hreason) (ascii_of_eq hverifier (ascii_verifier _))

theorem plain_parts {request : IndependentVerificationSigningRequestV1} (hdepth : depth ≤ 7)
    (h : validateSigningRequest functions request=.ok ()) :
    (∀ attestation∈request.configuration,
      Plain functions.tables depth (object (configurationFields attestation))) ∧
    (∀ attestation∈request.probe,Plain functions.tables depth (object (probeFields attestation))) ∧
    Plain functions.tables depth (object (evidenceFields request.evidence)) := by
  unfold validateSigningRequest at h
  split at h
  · rename_i configuration hconfiguration hprobe
    obtain ⟨hvalid,hbound⟩ := check_bind_eq_ok.mp h
    rw [hconfiguration,hprobe]
    refine ⟨fun attestation hmem => ?_,fun attestation hmem => (Option.not_mem_none _ hmem).elim,
      plain_bound (by omega) (ascii_configurationReason _) hbound⟩
    rw [← Option.some.inj hmem]
    exact plain_configuration (by omega) hvalid
  · rename_i probe hconfiguration hprobe
    obtain ⟨hvalid,hbound⟩ := check_bind_eq_ok.mp h
    rw [hconfiguration,hprobe]
    refine ⟨fun attestation hmem => (Option.not_mem_none _ hmem).elim,fun attestation hmem => ?_,
      plain_bound (by omega) (ascii_probeReason _) hbound⟩
    rw [← Option.some.inj hmem]
    exact plain_probe (by omega) hvalid
  · cases h

theorem plain_signingRequest (hdepth : depth ≤ 6) {request : IndependentVerificationSigningRequestV1}
    (h : validateSigningRequest functions request=.ok ()) :
    Plain functions.tables depth (object (signingRequestFields request)) := by
  have hparts := @plain_parts functions (depth+1) request (by omega) h
  obtain ⟨hconfiguration,hprobe,hevidence⟩ := hparts
  refine plain_contract .signingRequest (by omega) rfl ?_
  simp only [signingRequestFields,List.forall_mem_cons]
  exact ⟨plain_ascii (by omega) (isAscii_ofList rfl),plain_nullable (by omega) hconfiguration,
    plain_nullable (by omega) hprobe,hevidence,List.forall_mem_nil _⟩

theorem plain_signed (hdepth : depth ≤ 6) {signed : SignedIndependentVerificationEvidenceV1}
    (h : Plain functions.tables (depth+1) (object (evidenceFields signed.evidence))) :
    Plain functions.tables depth (object (signedEvidenceFields signed)) := by
  refine plain_contract .signed (by omega) rfl ?_
  simp only [signedEvidenceFields,List.forall_mem_cons]
  exact ⟨plain_ascii (by omega) (isAscii_ofList rfl),h,plain_ascii (by omega) (isAscii_ofList rfl),
    plain_ascii (by omega) ((keyVersion_spec signed.signing_key_version.2).1),
    plain_ascii (by omega) (isAscii_ofList rfl),plain_digest (by omega) _,plain_digest (by omega) _,
    plain_ascii (by omega) (ascii_base64Url signed.signature.2.1),List.forall_mem_nil _⟩

theorem plain_verified (hdepth : depth ≤ 5) {evidence : VerifiedIndependentVerificationEvidenceV1}
    (h : validateVerifiedEvidence functions evidence=.ok ()) :
    Plain functions.tables depth (object (verifiedFields evidence)) := by
  unfold validateVerifiedEvidence at h
  obtain ⟨hrequest,h⟩ := check_bind_eq_ok.mp h
  obtain ⟨-,h⟩ := check_bind_eq_ok.mp h
  obtain ⟨hsame,-⟩ := require_eq_ok.mp h
  have hparts := @plain_parts functions (depth+2) evidence.signing_request (by omega) hrequest
  have hsigned : Plain functions.tables (depth+1+1)
      (object (evidenceFields evidence.signed_evidence.evidence)) := by
    rw [hsame]
    exact hparts.2.2
  refine plain_contract .verified (by omega) rfl ?_
  simp only [verifiedFields,List.forall_mem_cons]
  exact ⟨plain_ascii (by omega) (isAscii_ofList rfl),plain_signingRequest (by omega) hrequest,
    plain_signed (by omega) hsigned,plain_timestamp (by omega) _,List.forall_mem_nil _⟩

theorem valid_of_present {Value : Type} {check : Value → Except Raised Unit} {value : Option Value}
    (h : whenPresent check value=.ok ()) : ∀ found∈value,check found=.ok () := by
  intro found hmem
  rw [Option.mem_def.mp hmem] at h
  exact h

theorem plain_bundle (hdepth : depth ≤ 4) {bundle : CompletionEvidenceBundleV1}
    (h : ValidBundle functions bundle) :
    Plain functions.tables depth (object (bundleFields bundle)) := by
  refine plain_contract .bundle (by omega) rfl ?_
  simp only [bundleFields,List.forall_mem_cons]
  exact ⟨plain_ascii (by omega) (isAscii_ofList rfl),plain_assessment (by omega) _,
    plain_nullable (by omega) (fun execution _ => plain_execution (by omega) execution),
    plain_nullable (by omega) (fun evidence hmem =>
      plain_verified (by omega) (valid_of_present h.configuration evidence hmem)),
    plain_nullable (by omega) (fun evidence hmem =>
      plain_verified (by omega) (valid_of_present h.probe evidence hmem)),
    plain_nullable (by omega) (fun authority _ => plain_authority (by omega) authority),
    List.forall_mem_nil _⟩

end

end ControlGraph.CompletionSizes
