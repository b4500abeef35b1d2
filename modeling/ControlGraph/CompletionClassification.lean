import ControlGraph.VerificationRules

/-!
# Classification of completions

A terminal claim is classified from a bundle of evidence: the receipt of the execution, the
verified results of the configuration read and of the probe, and a fact of the authority.
The classifier takes the first reason that applies, in the order of the source, and is
complete only when none does. It reads no clock: the time of the assessment is part of
the bundle. The result repeats the request and a digest of the whole bundle, which is taken
over its canonical value.
-/

namespace ControlGraph.CompletionClassification

open Checks CanonicalCodec ContractText JsonValues ReceiptContracts TimelineWire
  VerificationContracts VerificationRules

open RootContracts (verifierIdentity)

/-- Terminal claims. -/
inductive CompletionKind
  | promotion | recovery | revocation | staleCapabilityDenial
  deriving DecidableEq,Repr

/-- Wire text of a terminal claim. -/
def CompletionKind.value : CompletionKind → String
  | .promotion => "PROMOTION"
  | .recovery => "RECOVERY"
  | .revocation => "REVOCATION"
  | .staleCapabilityDenial => "STALE_CAPABILITY_DENIAL"

/-- Whether a claim is complete. -/
inductive CompletionStatus
  | complete | ambiguous
  deriving DecidableEq,Repr

/-- Facts of the authority. -/
inductive AuthorityCompletionKind
  | revocation | epochAdvancement
  deriving DecidableEq,Repr

/-- Wire text of a fact of the authority. -/
def AuthorityCompletionKind.value : AuthorityCompletionKind → String
  | .revocation => "REVOCATION"
  | .epochAdvancement => "EPOCH_ADVANCEMENT"

/-- Reasons of a classification. -/
inductive CompletionReason
  | promotionComplete | recoveryComplete | revocationComplete | staleCapabilityDenialComplete
  | uncertainWrite | executionProofAbsent | executionEvidenceContradictory
  | authorityProofAbsent | configurationProofAbsent | configurationMismatch
  | configurationUnavailable | probeProofAbsent | probeInconclusive
  | configurationDataDisagreement | evidenceBindingMismatch | evidenceStale
  deriving DecidableEq,Repr

/-- Facts of a durable receipt. Its intent is signed and it is persisted. -/
structure ExecutionCompletionEvidenceV1 where
  root_id : Identifier
  root_sha256 : Sha256Digest
  epoch : PositiveSafeInteger
  target : TargetBinding
  plan_sha256 : Sha256Digest
  service_claim_sha256 : Sha256Digest
  probe_policy_sha256 : Sha256Digest
  signed_intent_sha256 : Sha256Digest
  request_id : Identifier
  /-- What the samples of a probe are correlated by. -/
  correlation_id : Identifier
  observation_window_started_at : UtcSecond
  observation_window_ends_at : UtcSecond
  action : CapabilityAction
  outcome : ReceiptOutcome
  reason_code : Option ReasonCode
  observed_authority_epoch : Option PositiveSafeInteger
  receipt_sha256 : Sha256Digest
  write_outcome_known : Bool
  deriving DecidableEq

/-- Fields of the facts of a receipt. -/
def executionFields (execution : ExecutionCompletionEvidenceV1) : List (String×Json) :=
  [("schema_version",text "controlgraph.execution-completion-evidence/v1"),
    ("root_id",text execution.root_id.1),("root_sha256",digest execution.root_sha256),
    ("epoch",integer execution.epoch.1),("target",object (targetFields execution.target)),
    ("plan_sha256",digest execution.plan_sha256),
    ("service_claim_sha256",digest execution.service_claim_sha256),
    ("probe_policy_sha256",digest execution.probe_policy_sha256),
    ("signed_intent_sha256",digest execution.signed_intent_sha256),
    ("intent_signature_verified",.bool true),("request_id",text execution.request_id.1),
    ("correlation_id",text execution.correlation_id.1),
    ("observation_window_started_at",timestamp execution.observation_window_started_at),
    ("observation_window_ends_at",timestamp execution.observation_window_ends_at),
    ("action",text execution.action.value),("outcome",text (receiptOutcomeValue execution.outcome)),
    ("reason_code",nullable (fun reason => text (reasonCodeValue reason)) execution.reason_code),
    ("observed_authority_epoch",nullable (fun epoch : PositiveSafeInteger => integer epoch.1)
      execution.observed_authority_epoch),
    ("receipt_sha256",digest execution.receipt_sha256),("receipt_persisted",.bool true),
    ("write_outcome_known",.bool execution.write_outcome_known)]

/-- A fact of the authority whose signature was verified. -/
structure AuthorityCompletionEvidenceV1 where
  kind : AuthorityCompletionKind
  root_id : Identifier
  root_sha256 : Sha256Digest
  epoch : PositiveSafeInteger
  target : TargetBinding
  plan_sha256 : Sha256Digest
  request_id : Identifier
  /-- What the samples of a probe are correlated by. -/
  correlation_id : Identifier
  observation_window_started_at : UtcSecond
  observation_window_ends_at : UtcSecond
  authority_evidence_sha256 : Sha256Digest
  occurred_at : UtcSecond
  deriving DecidableEq

def authorityFields (authority : AuthorityCompletionEvidenceV1) : List (String×Json) :=
  [("schema_version",text "controlgraph.authority-completion-evidence/v1"),
    ("kind",text authority.kind.value),("root_id",text authority.root_id.1),
    ("root_sha256",digest authority.root_sha256),("epoch",integer authority.epoch.1),
    ("target",object (targetFields authority.target)),("plan_sha256",digest authority.plan_sha256),
    ("request_id",text authority.request_id.1),("correlation_id",text authority.correlation_id.1),
    ("observation_window_started_at",timestamp authority.observation_window_started_at),
    ("observation_window_ends_at",timestamp authority.observation_window_ends_at),
    ("authority_evidence_sha256",digest authority.authority_evidence_sha256),
    ("signature_verified",.bool true),("occurred_at",timestamp authority.occurred_at)]

/-- A terminal claim to classify. -/
structure CompletionAssessmentRequestV1 where
  kind : CompletionKind
  verification : VerificationRequestV1
  assessed_at : UtcSecond
  deriving DecidableEq

/-- Fields of a terminal claim. -/
def assessmentFields (request : CompletionAssessmentRequestV1) : List (String×Json) :=
  [("schema_version",text "controlgraph.completion-assessment-request/v1"),
    ("kind",text request.kind.value),
    ("verification",object (verificationFields request.verification)),
    ("assessed_at",timestamp request.assessed_at)]

/-- All evidence of a claim. -/
structure CompletionEvidenceBundleV1 where
  request : CompletionAssessmentRequestV1
  execution : Option ExecutionCompletionEvidenceV1
  configuration : Option VerifiedIndependentVerificationEvidenceV1
  probe : Option VerifiedIndependentVerificationEvidenceV1
  authority : Option AuthorityCompletionEvidenceV1
  deriving DecidableEq

def bundleFields (bundle : CompletionEvidenceBundleV1) : List (String×Json) :=
  [("schema_version",text "controlgraph.completion-evidence-bundle/v1"),
    ("request",object (assessmentFields bundle.request)),
    ("execution",nullable (fun execution => object (executionFields execution)) bundle.execution),
    ("configuration",nullable (fun evidence => object (verifiedFields evidence)) bundle.configuration),
    ("probe",nullable (fun evidence => object (verifiedFields evidence)) bundle.probe),
    ("authority",nullable (fun authority => object (authorityFields authority)) bundle.authority)]

/-- Result of the classifier. -/
structure CompletionClassificationV1 where
  request : CompletionAssessmentRequestV1
  bundle_sha256 : Sha256Digest
  status : CompletionStatus
  reason : CompletionReason
  follow_up_required : Bool
  follow_up_after_seconds : Option Nat
  follow_up_attempt_limit : Option Nat
  classified_at : UtcSecond
  deriving DecidableEq

def completeReason : CompletionKind → CompletionReason
  | .promotion => .promotionComplete
  | .recovery => .recoveryComplete
  | .revocation => .revocationComplete
  | .staleCapabilityDenial => .staleCapabilityDenialComplete

def validateTerminalShape (classification : CompletionClassificationV1) : Except Raised Unit := do
  require ((∀ seconds∈classification.follow_up_after_seconds,seconds=5) ∧
    ∀ limit∈classification.follow_up_attempt_limit,limit=3) .validationError
  require (classification.classified_at=classification.request.assessed_at ∧
      (classification.status=.ambiguous ↔ classification.follow_up_required=true) ∧
      (classification.follow_up_required=true ↔ classification.follow_up_after_seconds=some 5 ∧
        classification.follow_up_attempt_limit=some 3) ∧
      (classification.status=.complete ↔
        classification.reason=completeReason classification.request.kind))
    (.valueError "completion classification shape is invalid")

def validateReceiptFacts (execution : ExecutionCompletionEvidenceV1) : Except Raised Unit :=
  require (execution.root_id.1="cgroot:"++execution.root_sha256.1 ∧
      execution.observation_window_started_at.1 < execution.observation_window_ends_at.1 ∧
      needsReason execution.outcome=execution.reason_code.isSome ∧
      (execution.outcome=.ambiguous ↔ execution.write_outcome_known=false) ∧
      (execution.outcome=.ambiguous → execution.reason_code=some .providerOutcomeAmbiguous) ∧
      (execution.reason_code=some .epochMismatch →
        ∃ epoch∈execution.observed_authority_epoch,execution.epoch.1 < epoch.1))
    (.valueError "execution completion evidence is inconsistent")

def validateAuthorityFact (authority : AuthorityCompletionEvidenceV1) : Except Raised Unit :=
  require (authority.root_id.1="cgroot:"++authority.root_sha256.1 ∧
      authority.observation_window_started_at.1 ≤ authority.occurred_at.1 ∧
      authority.occurred_at.1 ≤ authority.observation_window_ends_at.1)
    (.valueError "authority completion evidence is inconsistent")

/-- Check what may be absent. -/
def whenPresent {Value : Type} (check : Value → Except Raised Unit) : Option Value → Except Raised Unit
  | none => .ok ()
  | some value => check value

section

variable (functions : VerificationFunctions)

/-- Validate a terminal claim. -/
def validateAssessment (request : CompletionAssessmentRequestV1) : Except Raised Unit := do
  validateBindings functions request.verification
  require ((request.kind=.promotion → request.verification.action=.promoteCandidate) ∧
      (request.kind=.recovery → request.verification.action=.recoverStable) ∧
      request.verification.observation_window_started_at.1 ≤ request.assessed_at.1)
    (.valueError "completion assessment request is invalid")

/-- Validate a bundle with all that it holds. -/
def validateBundle (bundle : CompletionEvidenceBundleV1) : Except Raised Unit := do
  validateAssessment functions bundle.request
  whenPresent validateReceiptFacts bundle.execution
  whenPresent (validateVerifiedEvidence functions) bundle.configuration
  whenPresent (validateVerifiedEvidence functions) bundle.probe
  whenPresent validateAuthorityFact bundle.authority
  require ((∀ evidence∈bundle.configuration,evidence.signing_request.evidence.kind=.configuration) ∧
      ∀ evidence∈bundle.probe,evidence.signing_request.evidence.kind=.probe)
    (.valueError "completion evidence occupies the wrong slot")

def bundleSha256 (bundle : CompletionEvidenceBundleV1) : Except CodecRaised Sha256Digest :=
  canonicalSha256 functions "controlgraph.completion-evidence-bundle/v1"
    (object (bundleFields bundle))

/-- Longest time between the observation window and the assessment. -/
def maxEvidenceAssessmentLagSeconds : Int := 300

/-- Whether the assessment is too late. -/
def assessmentIsStale (bundle : CompletionEvidenceBundleV1) : Prop :=
  maxEvidenceAssessmentLagSeconds <
    bundle.request.assessed_at.1-bundle.request.verification.observation_window_ends_at.1

instance (bundle : CompletionEvidenceBundleV1) : Decidable (assessmentIsStale bundle) :=
  inferInstanceAs (Decidable (_ < _))

/-- Whether evidence was verified after the assessment, or the assessment is too late. -/
def evidenceIsStale (evidence : VerifiedIndependentVerificationEvidenceV1)
    (bundle : CompletionEvidenceBundleV1) : Prop :=
  bundle.request.assessed_at.1 < evidence.verified_at.1 ∨ assessmentIsStale bundle

instance (evidence : VerifiedIndependentVerificationEvidenceV1)
    (bundle : CompletionEvidenceBundleV1) : Decidable (evidenceIsStale evidence bundle) :=
  inferInstanceAs (Decidable (_ ∨ _))

/-- The request that a result is about. -/
def boundRequest (request : IndependentVerificationSigningRequestV1) :
    IndependentVerificationKind → Option VerificationRequestV1
  | .configuration => request.configuration.map fun configuration => configuration.request
  | .probe => request.probe.map fun probe => probe.request.verification

/-- Whether evidence is about the verification of a bundle. The digest of the request is only
taken when the requests are the same. -/
def evidenceMatches (evidence : VerifiedIndependentVerificationEvidenceV1)
    (bundle : CompletionEvidenceBundleV1) (kind : IndependentVerificationKind) :
    Except CodecRaised Bool :=
  let expected := bundle.request.verification
  let signed := evidence.signed_evidence.evidence
  if boundRequest evidence.signing_request kind=some expected ∧
      signed=evidence.signing_request.evidence ∧ signed.kind=kind then do
    let request_sha256 ← verificationSha256 functions expected
    return decide (signed.verification_request_sha256=request_sha256 ∧
      evidenceBinds signed expected ∧ signed.verifier_identity.1=verifierIdentity expected.target)
  else .ok false

/-- Whether a fact of the authority is about the verification of a bundle. -/
def authorityMatches (bundle : CompletionEvidenceBundleV1) (kind : AuthorityCompletionKind)
    (authority : AuthorityCompletionEvidenceV1) : Prop :=
  let expected := bundle.request.verification
  authority.kind=kind ∧ authority.root_id=expected.root_id ∧
    authority.root_sha256=expected.root_sha256 ∧
    some authority.epoch=(match kind,bundle.execution with
      | .epochAdvancement,some execution => execution.observed_authority_epoch
      | _,_ => some expected.epoch) ∧
    authority.target=expected.target ∧ authority.plan_sha256=expected.plan_sha256 ∧
    authority.request_id=expected.request_id ∧ authority.correlation_id=expected.correlation_id ∧
    authority.observation_window_started_at=expected.observation_window_started_at ∧
    authority.observation_window_ends_at=expected.observation_window_ends_at

instance (bundle : CompletionEvidenceBundleV1) (kind : AuthorityCompletionKind)
    (authority : AuthorityCompletionEvidenceV1) :
    Decidable (authorityMatches bundle kind authority) :=
  inferInstanceAs (Decidable (_ ∧ _))

/-- Whether the receipt leaves open what was written. -/
def writeIsUncertain (execution : ExecutionCompletionEvidenceV1) : Prop :=
  execution.write_outcome_known=false ∨ execution.outcome=.ambiguous

instance (execution : ExecutionCompletionEvidenceV1) : Decidable (writeIsUncertain execution) :=
  inferInstanceAs (Decidable (_ ∨ _))

/-- Whether a receipt is about the claim. -/
def executionBinds (request : CompletionAssessmentRequestV1)
    (execution : ExecutionCompletionEvidenceV1) : Prop :=
  execution.root_id=request.verification.root_id ∧
    execution.root_sha256=request.verification.root_sha256 ∧
    execution.epoch=request.verification.epoch ∧ execution.target=request.verification.target ∧
    execution.plan_sha256=request.verification.plan_sha256 ∧
    execution.service_claim_sha256=request.verification.service_claim_sha256 ∧
    execution.probe_policy_sha256=request.verification.probe_policy_sha256 ∧
    execution.signed_intent_sha256=request.verification.signed_intent_sha256 ∧
    execution.request_id=request.verification.request_id ∧
    execution.correlation_id=request.verification.correlation_id ∧
    execution.observation_window_started_at=request.verification.observation_window_started_at ∧
    execution.observation_window_ends_at=request.verification.observation_window_ends_at ∧
    (request.kind≠.staleCapabilityDenial →
      execution.observed_authority_epoch=some request.verification.epoch)

instance (request : CompletionAssessmentRequestV1) (execution : ExecutionCompletionEvidenceV1) :
    Decidable (executionBinds request execution) :=
  inferInstanceAs (Decidable (_ ∧ _))

def revocationReason (bundle : CompletionEvidenceBundleV1) : CompletionReason :=
  match bundle.authority with
  | none => .authorityProofAbsent
  | some authority =>
    if ¬authorityMatches bundle .revocation authority then .evidenceBindingMismatch
    else if assessmentIsStale bundle then .evidenceStale
    else .revocationComplete

/-- Whether a receipt denies a capability whose epoch has passed. -/
def deniesStaleCapability (execution : ExecutionCompletionEvidenceV1) : Prop :=
  execution.outcome=.denied ∧ execution.reason_code=some .epochMismatch ∧
    ∃ epoch∈execution.observed_authority_epoch,execution.epoch.1 < epoch.1

instance (execution : ExecutionCompletionEvidenceV1) : Decidable (deniesStaleCapability execution) :=
  inferInstanceAs (Decidable (_ ∧ _))

def staleDenialReason (bundle : CompletionEvidenceBundleV1) : CompletionReason :=
  match bundle.authority with
  | none => .authorityProofAbsent
  | some authority =>
    if ¬authorityMatches bundle .epochAdvancement authority then .evidenceBindingMismatch
    else
      match bundle.execution with
      | none => .executionProofAbsent
      | some execution =>
        if assessmentIsStale bundle then .evidenceStale
        else if ¬deniesStaleCapability execution then .executionEvidenceContradictory
        else .staleCapabilityDenialComplete

/-- Reason of the configuration layer, if it does not hold. -/
def configurationReason (bundle : CompletionEvidenceBundleV1) :
    Except CodecRaised (Option CompletionReason) :=
  match bundle.configuration with
  | none => .ok (some .configurationProofAbsent)
  | some evidence => do
    let bound ← evidenceMatches functions evidence bundle .configuration
    if bound=false then return some .evidenceBindingMismatch
    else if evidenceIsStale evidence bundle then return some .evidenceStale
    else
      match evidence.signing_request.configuration with
      | none => return some .evidenceBindingMismatch
      | some attestation =>
        match attestation.status with
        | .unavailable => return some .configurationUnavailable
        | .mismatch => return some .configurationMismatch
        | .matched => return none

/-- Reason of the probe layer, if it does not hold. -/
def probeReason (bundle : CompletionEvidenceBundleV1) :
    Except CodecRaised (Option CompletionReason) :=
  match bundle.probe with
  | none => .ok (some .probeProofAbsent)
  | some evidence => do
    let bound ← evidenceMatches functions evidence bundle .probe
    if bound=false then return some .evidenceBindingMismatch
    else if evidenceIsStale evidence bundle then return some .evidenceStale
    else
      match evidence.signing_request.probe with
      | none => return some .evidenceBindingMismatch
      | some attestation =>
        match attestation.status with
        | .inconclusive =>
          if attestation.reason∈[.distributionMismatch,.responseInvalid] then
            return some .configurationDataDisagreement
          else return some .probeInconclusive
        | .matched => return none

/-- The action of a promotion, and else of a recovery. -/
def expectedAction (kind : CompletionKind) : CapabilityAction :=
  if kind=.promotion then .promoteCandidate else .recoverStable

/-- Reason of a promotion or of a recovery. -/
def rolloutReason (bundle : CompletionEvidenceBundleV1) : Except CodecRaised CompletionReason :=
  match bundle.execution with
  | none => .ok .executionProofAbsent
  | some execution =>
    if ¬(execution.action=expectedAction bundle.request.kind ∧ execution.outcome=.verified ∧
        execution.reason_code=none) then .ok .executionEvidenceContradictory
    else if assessmentIsStale bundle then .ok .evidenceStale
    else do
      let configuration ← configurationReason functions bundle
      match configuration with
      | some reason => return reason
      | none =>
        let probe ← probeReason functions bundle
        match probe with
        | some reason => return reason
        | none =>
          if bundle.request.kind=.promotion then return .promotionComplete
          else return .recoveryComplete

/-- The first reason that applies. -/
def classificationReason (bundle : CompletionEvidenceBundleV1) :
    Except CodecRaised CompletionReason :=
  if ∃ execution∈bundle.execution,writeIsUncertain execution then .ok .uncertainWrite
  else if ∃ execution∈bundle.execution,¬executionBinds bundle.request execution then
    .ok .evidenceBindingMismatch
  else
    match bundle.request.kind with
    | .revocation => .ok (revocationReason bundle)
    | .staleCapabilityDenial => .ok (staleDenialReason bundle)
    | .promotion => rolloutReason functions bundle
    | .recovery => rolloutReason functions bundle

def completeReasons : List CompletionReason :=
  [.promotionComplete,.recoveryComplete,.revocationComplete,.staleCapabilityDenialComplete]

def classificationOf (bundle : CompletionEvidenceBundleV1) (reason : CompletionReason)
    (bundle_sha256 : Sha256Digest) : CompletionClassificationV1 :=
  let status : CompletionStatus := if reason∈completeReasons then .complete else .ambiguous
  { request := bundle.request
    bundle_sha256
    status
    reason
    follow_up_required := status=.ambiguous
    follow_up_after_seconds := if status=.ambiguous then some 5 else none
    follow_up_attempt_limit := if status=.ambiguous then some 3 else none
    classified_at := bundle.request.assessed_at }

/-- What the classifier raises. -/
inductive ClassificationRaised
  | codec (error : CodecRaised)
  | contract (error : Raised)
  deriving DecidableEq

/-- Classify one closed bundle. -/
def classifyCompletion (bundle : CompletionEvidenceBundleV1) :
    Except ClassificationRaised CompletionClassificationV1 := do
  let reason ← (classificationReason functions bundle).mapError .codec
  let bundle_sha256 ← (bundleSha256 functions bundle).mapError .codec
  let classification := classificationOf bundle reason bundle_sha256
  (validateTerminalShape classification).mapError .contract
  return classification

end

end ControlGraph.CompletionClassification
