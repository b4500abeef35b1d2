import ControlGraph.HealthProofs

/-!
# Evaluation and attestation of one window

The verifier service is bound to one root and its anchor. Given the signed proof
before, it derives the state, collects the next window, evaluates it, makes a
proof, and asks the evidence writer for a signature on exactly that proof. Its
clocks, the provider, the writer and the verifier of signatures are ports.
-/

namespace ControlGraph.HealthAttestation

open Checks ContractText MonitoringContracts MonitoringCollection HealthDecisions HealthProofs

open ReceiptContracts (TargetBinding ExecutionReceipt)

open TimelineContracts (KeyVersionResource isKeyVersion)

/-- A root whose target its own contract has admitted. -/
structure HealthRoot extends RootContracts.RolloutRootV3 where
  target_bound : ReceiptStore.isServiceClaimTarget content.target=true

variable (functions : HealthProofFunctions)

def keyVersionOf (text : String) : Except Raised KeyVersionResource :=
  if h : isKeyVersion text=true then .ok ⟨text,h⟩ else .error .validationError

/-- Build an anchor, checking it. -/
def makeAnchor (fields : PostApplyHealthAnchorV1Fields) :
    Except Raised (PostApplyHealthAnchorV1 functions) :=
  if h : fields.validateAnchor functions=.ok () then .ok ⟨fields,h⟩
  else .error (.valueError "health anchor is invalid")

/-- Derive the only interval that a root and its verified receipt admit. -/
def createPostApplyHealthAnchor (root : HealthRoot) (apply_receipt : ExecutionReceipt) :
    Except Raised (PostApplyHealthAnchorV1 functions) := do
  let content := root.content
  let plan := content.rollout_plan
  require (apply_receipt.provider_etag=content.stable_snapshot.provider_etag)
    (.valueError "health anchor receipt does not use the root's stable precondition")
  let provider_etag ← requireSome apply_receipt.observed_etag .validationError
  let evidence_signing_key_version ← keyVersionOf content.evidence_signing_key_version
  let observation_started_at ← nextUtcMinuteStrictlyAfter apply_receipt.updated_at
  let draft : PostApplyHealthAnchorV1Fields := {
    anchor_id := HealthProofs.pendingIdentity
    root_id := root.root_id
    root_sha256 := root.root_sha256
    target := content.target
    epoch := apply_receipt.epoch
    plan_sha256 := functions.plan_sha256 plan
    policy_sha256 := functions.policy_sha256
    stable_snapshot_sha256 := functions.snapshot_sha256 content.stable_snapshot
    stable_revision := plan.stable_revision
    stable_revision_configuration_sha256 := plan.stable_revision_configuration_sha256
    candidate_revision := plan.candidate_revision
    candidate_revision_configuration_sha256 := plan.candidate_revision_configuration_sha256
    concurrency := plan.concurrency
    expected_prestate_sha256 := functions.target_configuration_sha256 {
      target := content.target
      stable_revision := plan.stable_revision
      candidate_revision := plan.candidate_revision
      stable_percent := 90
      candidate_percent := 10
      concurrency := plan.concurrency }
    provider_etag := provider_etag
    evidence_signing_key_version := evidence_signing_key_version
    apply_receipt := apply_receipt
    source_receipt_sha256 := functions.receipt_sha256 apply_receipt
    observation_started_at := observation_started_at }
  makeAnchor functions {draft with anchor_id := functions.anchor_id draft}

/-- Build a proof, checking it. -/
def makeProof (fields : HealthDecisionProofV1Fields functions.toHealthFunctions) :
    Except Raised (HealthDecisionProofV1 functions) :=
  if h : fields.validateProof functions=.ok () then .ok ⟨fields,h⟩
  else .error (.valueError "health proof is invalid")

/-- A proof before its identity is computed. -/
def proofDraft (anchor : PostApplyHealthAnchorV1Fields) (sequence : Nat)
    (previous_signed_proof_sha256 : Option Sha256Digest) (prior_state : HealthEvaluationStateV1)
    (observation : Observation functions.toHealthFunctions)
    (decision : Decision functions.toHealthFunctions) :
    HealthDecisionProofV1Fields functions.toHealthFunctions where
  proof_id := HealthProofs.pendingIdentity
  anchor_id := anchor.anchor_id
  anchor_sha256 := functions.anchor_sha256 anchor
  sequence := sequence
  previous_signed_proof_sha256 := previous_signed_proof_sha256
  verifier_identity := RootContracts.verifierIdentity anchor.target
  prior_state := prior_state
  observation := observation
  observation_sha256 := functions.observation_sha256 observation.toMonitoringObservationFields
  decision := decision
  decision_sha256 := functions.decision_sha256 decision.fields
  produced_at := decision.evaluated_at

def createHealthDecisionProof (anchor : PostApplyHealthAnchorV1Fields) (sequence : Nat)
    (previous_signed_proof_sha256 : Option Sha256Digest) (prior_state : HealthEvaluationStateV1)
    (observation : Observation functions.toHealthFunctions)
    (decision : Decision functions.toHealthFunctions) :
    Except Raised (HealthDecisionProofV1 functions) :=
  let draft := proofDraft functions anchor sequence previous_signed_proof_sha256 prior_state
    observation decision
  makeProof functions {draft with proof_id := functions.proof_id draft}

def validateRequestPredecessor
    (request : HealthAttestationSigningRequestV1Fields functions.toHealthFunctions) :
    Except Raised Unit :=
  let proof := request.pending_proof
  match request.prior_signed_proof with
  | none =>
    require (proof.sequence=1 ∧ proof.previous_signed_proof_sha256=none)
      (.valueError "initial health attestation request predecessor is invalid")
  | some predecessor =>
    require (predecessor.proof.anchor_id=request.anchor.anchor_id ∧
        predecessor.proof.anchor_sha256=functions.anchor_sha256 request.anchor ∧
        predecessor.signing_key_version=request.anchor.evidence_signing_key_version ∧
        proof.sequence=predecessor.proof.sequence+1 ∧
        proof.previous_signed_proof_sha256=some (functions.signed_proof_sha256 predecessor) ∧
        predecessor.proof.decision.next_evaluation_at≠none)
      (.valueError "health attestation request predecessor is invalid")

def validateRequest
    (request : HealthAttestationSigningRequestV1Fields functions.toHealthFunctions) :
    Except Raised Unit := do
  request.anchor.validateAnchor functions
  request.prior_signed_proof.toList.forM (fun signed => signed.validateSigned functions)
  request.pending_proof.validateProof functions
  require (request.anchor_sha256=functions.anchor_sha256 request.anchor)
    (.valueError "health attestation request anchor digest is invalid")
  require (request.pending_proof.anchor_id=request.anchor.anchor_id ∧
      request.pending_proof.anchor_sha256=functions.anchor_sha256 request.anchor)
    (.valueError "health attestation request proof is outside its anchor")
  validateRequestPredecessor functions request
  let expected_state ← derivedState functions request.anchor request.prior_signed_proof
  require (request.pending_proof.prior_state=expected_state)
    (.valueError "health attestation request state is not predecessor-derived")
  require (request.request_id=functions.request_id request)
    (.valueError "health attestation request identifier is not canonical")

/-- A request for the signature of one proof. -/
structure HealthAttestationSigningRequestV1 extends
    fields : HealthAttestationSigningRequestV1Fields functions.toHealthFunctions where
  accepted : validateRequest functions fields=.ok ()

/-- Build a request, checking it. -/
def makeRequest (fields : HealthAttestationSigningRequestV1Fields functions.toHealthFunctions) :
    Except Raised (HealthAttestationSigningRequestV1 functions) :=
  if h : validateRequest functions fields=.ok () then .ok ⟨fields,h⟩
  else .error (.valueError "health attestation request is invalid")

/-- Create the request for the signature of a proof. -/
def createHealthAttestationSigningRequest (anchor : PostApplyHealthAnchorV1Fields)
    (prior_signed_proof : Option (SignedHealthDecisionProofV1 functions))
    (pending_proof : HealthDecisionProofV1Fields functions.toHealthFunctions) :
    Except Raised (HealthAttestationSigningRequestV1 functions) :=
  let draft : HealthAttestationSigningRequestV1Fields functions.toHealthFunctions := {
    request_id := HealthProofs.pendingIdentity
    anchor := anchor
    anchor_sha256 := functions.anchor_sha256 anchor
    prior_signed_proof := prior_signed_proof.map SignedHealthDecisionProofV1.fields
    pending_proof := pending_proof }
  makeRequest functions {draft with request_id := functions.request_id draft}

/-- Evaluate the observation of a request again: its decision must be the same. -/
def validateSigningRequestDecisions (request : HealthAttestationSigningRequestV1 functions)
    (predecessor : Option (Decision functions.toHealthFunctions)) : Except Raised Unit := do
  let proof := request.pending_proof
  let expected ← evaluateHealthObservation functions.toHealthFunctions proof.prior_state predecessor
    (some proof.observation) proof.produced_at
  require (expected=proof.decision)
    (.valueError "health attestation request contains a noncanonical decision")

/-- Check that a proof is the first one, one of a new window, or the one retry of a window. -/
def validatePredecessorAttempt (predecessor : Option (SignedHealthDecisionProofV1 functions))
    (pending : HealthDecisionProofV1Fields functions.toHealthFunctions) : Except Raised Unit :=
  match predecessor with
  | none =>
    require (pending.sequence=1 ∧ pending.observation.window_index=1)
      (.valueError "initial health proof attempt is invalid")
  | some predecessor =>
    if pending.observation.window_index≠predecessor.proof.observation.window_index then .ok ()
    else do
      let deadline ← addSeconds pending.observation.window_ended_at maximumObservationDelaySeconds
      require (isDeadlineRetry functions predecessor.proof pending deadline)
        (.valueError "health proof is not the one canonical deadline retry")

/-- Time from which a window may be evaluated. -/
def windowReadyAt (anchor : PostApplyHealthAnchorV1Fields) (window_index : Nat) :
    Except Raised UtcSecond :=
  addSeconds anchor.observation_started_at
    ((window_index : Int)*windowSeconds+observationDelaySeconds)

/-- Stable failures of the verifier. -/
inductive HealthOrchestrationErrorCode
  | configurationInvalid | stateInvalid | evaluationNotReady | evaluationTerminal
  | collectionUnavailable | evaluationInvalid | attestationUnavailable | attestationInvalid
  | signatureInvalid | promotionProofUnavailable | promotionProofExpired
  deriving DecidableEq,Repr

/-- Failures of an evaluation. -/
inductive HealthOrchestrationFailure
  | reported (code : HealthOrchestrationErrorCode)
  /-- An error that the service does not catch. -/
  | uncaught (raised : Raised)
  deriving DecidableEq

/-- Issue the scope of a collection: the anchor must be the one that the root admits. -/
def createMonitoringCollectionScope (root : HealthRoot) (anchor : PostApplyHealthAnchorV1 functions) :
    Except HealthOrchestrationFailure (MonitoringCollectionScope functions.toMonitoringFunctions) := do
  let expected_anchor ← (createPostApplyHealthAnchor functions root anchor.apply_receipt).mapError
    (fun _ => HealthOrchestrationFailure.reported .configurationInvalid)
  require (expected_anchor.fields=anchor.fields) (.reported .configurationInvalid)
  let scope : MonitoringScopeFields := {
    target := anchor.target
    root_id := anchor.root_id
    root_sha256 := anchor.root_sha256
    epoch := anchor.epoch
    candidate_revision := anchor.candidate_revision
    observation_started_at := anchor.observation_started_at }
  if h : scope.validateScope functions.toMonitoringFunctions=.ok () then return ⟨scope,h⟩
  else .error (.uncaught (.valueError "monitoring collection scope is invalid"))

/-- The verifier of one root and anchor. -/
structure VerifierHealthProofService where
  root : HealthRoot
  anchor : PostApplyHealthAnchorV1 functions
  scope : MonitoringCollectionScope functions.toMonitoringFunctions
  issued : createMonitoringCollectionScope functions root anchor=.ok scope

/-- Answers of the surroundings in one evaluation. -/
structure VerifierPorts where
  /-- First reading of the clock. -/
  now : Option UtcSecond
  provider : MonitoringMetricQueryV1 →
    Except MonitoringCollectionErrorCode MonitoringQueryCollection
  clock : Option UtcSecond
  verify : SignedHealthDecisionProofV1 functions → Bool
  /-- Answer of the evidence writer. -/
  attest : HealthAttestationSigningRequestV1 functions →
    Option (SignedHealthDecisionProofV1 functions)

/-- Where an evaluation starts from. -/
structure PriorAttempt where
  prior_state : HealthEvaluationStateV1
  /-- Place of the next proof. -/
  sequence : Nat
  predecessor_sha256 : Option Sha256Digest

/-- Derive where an evaluation starts from. -/
def priorAttempt (anchor : PostApplyHealthAnchorV1 functions) (ports : VerifierPorts functions)
    (now : UtcSecond) (predecessor : Option (SignedHealthDecisionProofV1 functions)) :
    Except HealthOrchestrationFailure PriorAttempt :=
  match predecessor with
  | none => do
    let prior_state ← (initialHealthEvaluationState functions.toHealthFunctions anchor.target
      anchor.root_id anchor.root_sha256 anchor.epoch anchor.candidate_revision
      anchor.observation_started_at).mapError HealthOrchestrationFailure.uncaught
    return ⟨prior_state,1,none⟩
  | some predecessor => do
    let proof := predecessor.proof
    require (proof.anchor_id=anchor.anchor_id ∧
        proof.anchor_sha256=functions.anchor_sha256 anchor.fields ∧
        predecessor.signing_key_version=anchor.evidence_signing_key_version)
      (.reported .stateInvalid)
    require (ports.verify predecessor=true) (.reported .signatureInvalid)
    let next_evaluation_at ← requireSome proof.decision.next_evaluation_at
      (.reported .evaluationTerminal)
    require (next_evaluation_at.1 ≤ now.1) (.reported .evaluationNotReady)
    let prior_state ← (deriveNextHealthEvaluationState functions.toHealthFunctions
      proof.decision).mapError
      (fun _ => HealthOrchestrationFailure.reported .stateInvalid)
    return ⟨prior_state,proof.sequence+1,some (signedSha256 functions predecessor)⟩

/-- How an error of an evaluation is reported. -/
def evaluationFailure : Raised → HealthOrchestrationFailure
  | .valueError _ => .reported .evaluationInvalid
  | .validationError => .reported .evaluationInvalid
  | _ => .reported .collectionUnavailable

/-- Evaluate an observation and make the request for its signature. -/
def pendingRequest (anchor : PostApplyHealthAnchorV1 functions) (attempt : PriorAttempt)
    (predecessor : Option (SignedHealthDecisionProofV1 functions))
    (observation : Observation functions.toHealthFunctions) :
    Except Raised (HealthAttestationSigningRequestV1 functions) := do
  let predecessor_decision := predecessor.map (fun signed => signed.proof.decision)
  let decision ← evaluateHealthObservation functions.toHealthFunctions attempt.prior_state
    predecessor_decision (some observation) observation.observed_at
  let pending ← createHealthDecisionProof functions anchor.fields attempt.sequence
    attempt.predecessor_sha256 attempt.prior_state observation decision
  let request ← createHealthAttestationSigningRequest functions anchor.fields predecessor
    pending.fields
  validateSigningRequestDecisions functions request predecessor_decision
  validatePredecessorAttempt functions predecessor pending.fields
  return request

/-- Collect, evaluate and attest one window. -/
def evaluateAndAttest (service : VerifierHealthProofService functions)
    (ports : VerifierPorts functions)
    (predecessor : Option (SignedHealthDecisionProofV1 functions)) :
    Except HealthOrchestrationFailure (SignedHealthDecisionProofV1 functions) := do
  let anchor := service.anchor
  let now ← requireSome ports.now (.reported .evaluationInvalid)
  let attempt ← priorAttempt functions anchor ports now predecessor
  let window_index := attempt.prior_state.evaluated_windows.toNat+1
  require (attempt.sequence≤ maximumProofs ∧ window_index≤ maximumWindows)
    (.reported .evaluationTerminal)
  let ready_at ← (windowReadyAt anchor.fields window_index).mapError
    HealthOrchestrationFailure.uncaught
  require (ready_at.1 ≤ now.1) (.reported .evaluationNotReady)
  let observation ← (collect functions.toMonitoringFunctions service.scope ports.provider ports.clock
    window_index).mapError (fun _ => HealthOrchestrationFailure.reported .collectionUnavailable)
  let request ← (pendingRequest functions anchor attempt predecessor observation).mapError
    evaluationFailure
  let signed ← requireSome (ports.attest request) (.reported .attestationUnavailable)
  require (signed.proof=request.pending_proof ∧
      signed.signing_key_version=anchor.evidence_signing_key_version)
    (.reported .attestationInvalid)
  require (ports.verify signed=true) (.reported .signatureInvalid)
  return signed

end ControlGraph.HealthAttestation
