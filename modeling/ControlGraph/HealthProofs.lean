import ControlGraph.HealthDecisions
import ControlGraph.MonitoringIngestion
import ControlGraph.RootContracts
import ControlGraph.TimelineContracts

/-!
# Signed health proofs and their chains

An anchor fixes the interval in which a rollout is observed, from one verified
receipt. A proof binds one observation, the state before it and its decision,
and names the signed proof before it. A chain is a list of signed proofs of one
anchor, and a chain that ends healthy carries a compact proof with a lifetime.
Digests of whole contracts are functions; digests of digests are computed.
-/

namespace ControlGraph.HealthProofs

open Checks ContractText MonitoringContracts HealthDecisions Utf8Text

open StorageIdentity (asciiBytes)

open ReceiptContracts (TargetBinding ExecutionReceipt)

open TimelineContracts (KeyVersionResource isKeyVersion)

open HealthWindows (HealthDecisionKind HealthReason)

deriving instance DecidableEq for MonitoringObservationFields

instance (functions : MonitoringFunctions) :
    DecidableEq (MonitoringWindowObservationV1 functions) := fun first second =>
  decidable_of_iff
    (first.toMonitoringObservationFields=second.toMonitoringObservationFields) ⟨fun h => by
      cases first
      cases second
      cases h
      rfl,fun h => congrArg _ h⟩

/-- Greatest number of proofs of one window. -/
def maximumProofsPerWindow : Nat := 2

/-- Greatest number of proofs of a chain under the policy. -/
def maximumProofs : Nat := maximumWindows*maximumProofsPerWindow

/-- Reasons after which a window is evaluated once more. -/
def retryableReasons : List HealthReason := [.sampleMissing,.samplePartial,.minimumRequestsNotMet]

/-- Reasons that no proof may record. -/
def forbiddenOrchestrationReasons : List HealthReason :=
  [.windowNotReady,.sampleEarly,.windowDuplicate,.windowOutOfOrder]

/-- The next whole minute, also of a time on a minute. -/
def nextUtcMinuteStrictlyAfter (value : UtcSecond) : Except Raised UtcSecond :=
  (addSeconds value (60-value.1%60)).mapError
    (fun _ => .valueError "health anchor interval exceeds the UTC calendar range")

/-- Name of the evidence key of a project, up to its version. -/
def evidenceKeyName (project_id : ProjectId) : String :=
  "projects/"++project_id.1++"/locations/us-central1/keyRings/controlgraph-signing/"++
    "cryptoKeys/evidence-signing/cryptoKeyVersions/"

/-- Whether a key is a version of the evidence key of a dedicated project. -/
def isEvidenceKey (project_id : ProjectId) (key : KeyVersionResource) : Bool :=
  let project := project_id.1.toList
  let suffix := project.drop "controlgraph-canary-".length
  let version := key.1.toList.drop (evidenceKeyName project_id).length
  "controlgraph-canary-".toList.isPrefixOf project && 6 ≤ suffix.length && suffix.length≤10 &&
    suffix.all (fun character => isLower character || isDecimal character) &&
    (evidenceKeyName project_id).toList.isPrefixOf key.1.toList && version.all isDecimal &&
    version.head?.any (fun first => first != '0')

/-- Value of a character of the URL-safe alphabet. -/
def base64Value (character : Char) : Option Nat :=
  if character ≥ 'A' && character ≤ 'Z' then some (character.toNat-65)
  else if character ≥ 'a' && character ≤ 'z' then some (character.toNat-71)
  else if character ≥ '0' && character ≤ '9' then some (character.toNat+4)
  else if character== '-' then some 62
  else if character== '_' then some 63
  else none

/-- Bytes of a list of six-bit values whose unused last bits are zero. -/
def sextetBytes : List Nat → Option Bytes
  | [] => some []
  | [_] => none
  | [first,second] =>
    if second%16=0 then some [UInt8.ofNat (4*first+second/16)] else none
  | [first,second,third] =>
    if third%4=0 then
      some [UInt8.ofNat (4*first+second/16),UInt8.ofNat (second%16*16+third/4)]
    else none
  | first::second::third::fourth::rest => do
    let bytes ← sextetBytes rest
    return UInt8.ofNat (4*first+second/16)::UInt8.ofNat (second%16*16+third/4)::
      UInt8.ofNat (third%4*64+fourth)::bytes

/-- Bytes of a canonical text of the URL-safe alphabet without padding. -/
def decodeBase64url (text : String) : Option Bytes := do
  let values ← text.toList.mapM base64Value
  sextetBytes values

example : decodeBase64url "aGk_"=some [104,105,63] := by decide

/-- A state of the target that a digest stands for. -/
structure TargetConfiguration where
  target : TargetBinding
  stable_revision : CloudRunName
  candidate_revision : CloudRunName
  stable_percent : Nat
  candidate_percent : Nat
  concurrency : Nat
  deriving DecidableEq

/-- Fields of an anchor. -/
structure PostApplyHealthAnchorV1Fields where
  anchor_id : Identifier
  root_id : Identifier
  root_sha256 : Sha256Digest
  target : TargetBinding
  epoch : PositiveSafeInteger
  plan_sha256 : Sha256Digest
  policy_sha256 : Sha256Digest
  stable_snapshot_sha256 : Sha256Digest
  stable_revision : CloudRunName
  stable_revision_configuration_sha256 : Sha256Digest
  candidate_revision : CloudRunName
  candidate_revision_configuration_sha256 : Sha256Digest
  concurrency : Nat
  expected_prestate_sha256 : Sha256Digest
  provider_etag : OpaqueToken
  evidence_signing_key_version : KeyVersionResource
  apply_receipt : ExecutionReceipt
  source_receipt_sha256 : Sha256Digest
  observation_started_at : UtcSecond
  deriving DecidableEq

/-- The verified state of the target, with a tenth of the traffic on the candidate. -/
def PostApplyHealthAnchorV1Fields.prestate (anchor : PostApplyHealthAnchorV1Fields) :
    TargetConfiguration where
  target := anchor.target
  stable_revision := anchor.stable_revision
  candidate_revision := anchor.candidate_revision
  stable_percent := 90
  candidate_percent := 10
  concurrency := anchor.concurrency

/-- The state of the target after a promotion. -/
def PostApplyHealthAnchorV1Fields.promoted (anchor : PostApplyHealthAnchorV1Fields) :
    TargetConfiguration :=
  {anchor.prestate with stable_percent := 0,candidate_percent := 100}

/-- Fields of a proof. -/
structure HealthDecisionProofV1Fields (functions : HealthFunctions) where
  proof_id : Identifier
  anchor_id : Identifier
  anchor_sha256 : Sha256Digest
  /-- Place of the proof in its chain. -/
  sequence : Nat
  previous_signed_proof_sha256 : Option Sha256Digest
  verifier_identity : String
  prior_state : HealthEvaluationStateV1
  observation : Observation functions
  observation_sha256 : Sha256Digest
  decision : Decision functions
  decision_sha256 : Sha256Digest
  produced_at : UtcSecond
  deriving DecidableEq

/-- Fields of a signed proof. -/
structure SignedHealthDecisionProofV1Fields (functions : HealthFunctions) where
  proof : HealthDecisionProofV1Fields functions
  signing_key_version : KeyVersionResource
  payload_sha256 : Sha256Digest
  signing_input_sha256 : Sha256Digest
  signature : String
  deriving DecidableEq

/-- Fields of the compact proof of a healthy chain. -/
structure HealthyPromotionProofV1Fields where
  proof_id : Identifier
  anchor_id : Identifier
  anchor_sha256 : Sha256Digest
  root_id : Identifier
  root_sha256 : Sha256Digest
  target : TargetBinding
  epoch : PositiveSafeInteger
  policy_sha256 : Sha256Digest
  candidate_revision : CloudRunName
  /-- Place of the last proof. -/
  terminal_sequence : Nat
  source_receipt_sha256 : Sha256Digest
  expected_prestate_sha256 : Sha256Digest
  terminal_health_decision_sha256 : Sha256Digest
  signed_health_chain_sha256 : Sha256Digest
  desired_poststate_sha256 : Sha256Digest
  issued_at : UtcSecond
  valid_until : UtcSecond
  deriving DecidableEq

/-- Fields of a request for a signature. -/
structure HealthAttestationSigningRequestV1Fields (functions : HealthFunctions) where
  request_id : Identifier
  anchor : PostApplyHealthAnchorV1Fields
  anchor_sha256 : Sha256Digest
  prior_signed_proof : Option (SignedHealthDecisionProofV1Fields functions)
  pending_proof : HealthDecisionProofV1Fields functions
  deriving DecidableEq

/-- Functions on proofs that are not looked into. -/
structure HealthProofFunctions extends HealthFunctions where
  target_sha256 : TargetBinding → Sha256Digest
  snapshot_sha256 : RootContracts.StableSnapshot → Sha256Digest
  plan_sha256 : RootContracts.RolloutPlanV1 → Sha256Digest
  receipt_sha256 : ExecutionReceipt → Sha256Digest
  target_configuration_sha256 : TargetConfiguration → Sha256Digest
  anchor_sha256 : PostApplyHealthAnchorV1Fields → Sha256Digest
  anchor_id : PostApplyHealthAnchorV1Fields → Identifier
  /-- The identity of an anchor is not among the fields that it is derived from. -/
  anchor_id_other : ∀ anchor anchor_id',
    anchor_id {anchor with anchor_id := anchor_id'}=anchor_id anchor
  proof_sha256 : HealthDecisionProofV1Fields toHealthFunctions → Sha256Digest
  proof_id : HealthDecisionProofV1Fields toHealthFunctions → Identifier
  /-- The identity of a proof is not among the fields that it is derived from. -/
  proof_id_other : ∀ proof proof_id',proof_id {proof with proof_id := proof_id'}=proof_id proof
  signing_input_sha256 : HealthDecisionProofV1Fields toHealthFunctions → KeyVersionResource →
    Sha256Digest
  signed_proof_sha256 : SignedHealthDecisionProofV1Fields toHealthFunctions → Sha256Digest
  promotion_sha256 : HealthyPromotionProofV1Fields → Sha256Digest
  /-- Identity of a compact proof from its other fields. -/
  promotion_id : HealthyPromotionProofV1Fields → Identifier
  /-- The identity of a compact proof is not among the fields that it is derived from. -/
  promotion_id_other : ∀ promotion proof_id',
    promotion_id {promotion with proof_id := proof_id'}=promotion_id promotion
  request_id : HealthAttestationSigningRequestV1Fields toHealthFunctions → Identifier
  /-- The identity of a request is not among the fields that it is derived from. -/
  request_id_other : ∀ request request_id',
    request_id {request with request_id := request_id'}=request_id request

variable (functions : HealthProofFunctions)

/-- A revision of a service starts with its name. -/
def isRevisionOf (service revision : CloudRunName) : Prop :=
  (service.1++"-").toList.isPrefixOf revision.1.toList=true

instance (service revision : CloudRunName) : Decidable (isRevisionOf service revision) :=
  inferInstanceAs (Decidable (_=_))

/-- The receipt of an anchor is the verified result that the anchor describes. -/
def PostApplyHealthAnchorV1Fields.receiptMatches (anchor : PostApplyHealthAnchorV1Fields) : Prop :=
  let receipt := anchor.apply_receipt
  receipt.action=.applyCanary ∧ receipt.outcome=.verified ∧ receipt.reason_code=none ∧
    receipt.provider_operation≠none ∧ receipt.target=anchor.target ∧
    receipt.root_id=anchor.root_id ∧ receipt.root_sha256=anchor.root_sha256 ∧
    receipt.epoch=anchor.epoch ∧ receipt.plan_sha256=anchor.plan_sha256 ∧
    receipt.expected_poststate_sha256=anchor.expected_prestate_sha256 ∧
    receipt.observed_etag=some anchor.provider_etag ∧
    receipt.observed_authority_epoch=some anchor.epoch ∧
    anchor.source_receipt_sha256=functions.receipt_sha256 receipt

instance (anchor : PostApplyHealthAnchorV1Fields) : Decidable (anchor.receiptMatches functions) := by
  unfold PostApplyHealthAnchorV1Fields.receiptMatches
  infer_instance

def PostApplyHealthAnchorV1Fields.validateAnchor (anchor : PostApplyHealthAnchorV1Fields) :
    Except Raised Unit := do
  require (1 ≤ anchor.concurrency ∧ anchor.concurrency≤1000) .validationError
  require (anchor.root_id.1="cgroot:"++anchor.root_sha256.1)
    (.valueError "health anchor root binding is invalid")
  require (anchor.stable_revision≠anchor.candidate_revision ∧
      isRevisionOf anchor.target.service_name anchor.stable_revision ∧
      isRevisionOf anchor.target.service_name anchor.candidate_revision)
    (.valueError "health anchor revisions are outside the exact target")
  require (anchor.policy_sha256=functions.policy_sha256)
    (.valueError "health anchor policy digest is invalid")
  require (anchor.expected_prestate_sha256=
      functions.target_configuration_sha256 anchor.prestate)
    (.valueError "health anchor 90/10 prestate digest is invalid")
  require (isEvidenceKey anchor.target.project_id anchor.evidence_signing_key_version=true)
    (.valueError "health anchor signing key is outside the evidence purpose")
  require (anchor.receiptMatches functions)
    (.valueError "health anchor receipt is not the exact verified 90/10 result")
  let expected_start ← nextUtcMinuteStrictlyAfter anchor.apply_receipt.updated_at
  require (anchor.observation_started_at=expected_start)
    (.valueError "health anchor interval is not derived from the receipt")
  require (anchor.anchor_id=functions.anchor_id anchor)
    (.valueError "health anchor identifier is not canonical")

/-- The interval in which a rollout is observed. -/
structure PostApplyHealthAnchorV1 extends fields : PostApplyHealthAnchorV1Fields where
  accepted : fields.validateAnchor functions=.ok ()
  deriving DecidableEq

/-- The decision and the observation of a proof are about each other. -/
def HealthDecisionProofV1Fields.evidenceMatches
    (proof : HealthDecisionProofV1Fields functions.toHealthFunctions) : Prop :=
  let decision := proof.decision
  let observation := proof.observation
  let prior_state := proof.prior_state
  decision.observation_sha256=some proof.observation_sha256 ∧
    decision.query_sha256s=observation.query_sha256s ∧
    decision.sample_sha256s=observation.sample_sha256s ∧
    decision.window_started_at=some observation.window_started_at ∧
    decision.window_ended_at=some observation.window_ended_at ∧
    decision.policy_sha256=observation.policy_sha256 ∧ decision.target=observation.target ∧
    decision.root_id=observation.root_id ∧ decision.root_sha256=observation.root_sha256 ∧
    decision.epoch=observation.epoch ∧
    decision.candidate_revision=observation.candidate_revision ∧
    prior_state.target=observation.target ∧ prior_state.root_id=observation.root_id ∧
    prior_state.root_sha256=observation.root_sha256 ∧ prior_state.epoch=observation.epoch ∧
    prior_state.candidate_revision=observation.candidate_revision ∧
    proof.produced_at=decision.evaluated_at ∧ observation.observed_at=decision.evaluated_at

instance (proof : HealthDecisionProofV1Fields functions.toHealthFunctions) :
    Decidable (proof.evidenceMatches functions) := by
  unfold HealthDecisionProofV1Fields.evidenceMatches
  infer_instance

def HealthDecisionProofV1Fields.validateProof
    (proof : HealthDecisionProofV1Fields functions.toHealthFunctions) : Except Raised Unit := do
  require ((1 ≤ proof.sequence ∧ proof.sequence≤20) ∧ 1 ≤ proof.verifier_identity.length ∧
      proof.verifier_identity.length≤320)
    .validationError
  require (proof.sequence=1 ↔ proof.previous_signed_proof_sha256=none)
    (.valueError "health proof predecessor shape is invalid")
  require (proof.verifier_identity=RootContracts.verifierIdentity proof.decision.target)
    (.valueError "health proof verifier identity is not target-bound")
  require (proof.observation_sha256=
      functions.observation_sha256 proof.observation.toMonitoringObservationFields)
    (.valueError "health proof observation digest is invalid")
  require (proof.decision_sha256=functions.decision_sha256 proof.decision.fields)
    (.valueError "health proof decision digest is invalid")
  require (proof.decision.prior_state_sha256=functions.state_sha256 proof.prior_state.fields)
    (.valueError "health proof prior state digest is invalid")
  require (proof.evidenceMatches functions)
    (.valueError "health proof evidence and decision scope is inconsistent")
  require (∀ reason∈proof.decision.reason_codes,reason∉forbiddenOrchestrationReasons)
    (.valueError "health proof records a noncanonical orchestration attempt")
  require (proof.observation.timing≠.early)
    (.valueError "health proof cannot attest an early observation")
  require (proof.proof_id=functions.proof_id proof)
    (.valueError "health proof identifier is not canonical")

/-- One observation, the state before it and its decision. -/
structure HealthDecisionProofV1 extends
    fields : HealthDecisionProofV1Fields functions.toHealthFunctions where
  accepted : fields.validateProof functions=.ok ()
  deriving DecidableEq

def SignedHealthDecisionProofV1Fields.validateSigned
    (signed : SignedHealthDecisionProofV1Fields functions.toHealthFunctions) :
    Except Raised Unit := do
  signed.proof.validateProof functions
  let raw_signature ← requireSome (decodeBase64url signed.signature)
    (.valueError "health attestation signature encoding is invalid")
  require (isEvidenceKey signed.proof.decision.target.project_id signed.signing_key_version=true ∧
      signed.payload_sha256=functions.proof_sha256 signed.proof ∧
      signed.signing_input_sha256=
        functions.signing_input_sha256 signed.proof signed.signing_key_version ∧
      raw_signature≠[] ∧ raw_signature.length≤256)
    (.valueError "health attestation signature bindings are invalid")

/-- A proof that the evidence key has signed. -/
structure SignedHealthDecisionProofV1 extends
    fields : SignedHealthDecisionProofV1Fields functions.toHealthFunctions where
  accepted : fields.validateSigned functions=.ok ()
  deriving DecidableEq

/-- Check a compact proof. -/
def HealthyPromotionProofV1Fields.validatePromotion (promotion : HealthyPromotionProofV1Fields) :
    Except Raised Unit := do
  require (1 ≤ promotion.terminal_sequence ∧ promotion.terminal_sequence≤20) .validationError
  require (promotion.root_id.1="cgroot:"++promotion.root_sha256.1)
    (.valueError "healthy promotion proof root binding is invalid")
  require (promotion.issued_at.1<promotion.valid_until.1)
    (.valueError "healthy promotion proof validity interval is invalid")
  require (promotion.proof_id=functions.promotion_id promotion)
    (.valueError "healthy promotion proof identifier is not canonical")

/-- The compact proof of a healthy chain. -/
structure HealthyPromotionProofV1 extends fields : HealthyPromotionProofV1Fields where
  accepted : fields.validatePromotion functions=.ok ()
  deriving DecidableEq

def twoBytes (value : Nat) : Bytes := [UInt8.ofNat (value/256),UInt8.ofNat value]

/-- Domain of the digest of a sequence of signed proofs. -/
def signedProofChainDomain : Bytes := asciiBytes "controlgraph.signed-health-proof-chain/v1"++[0]

def orderedHealthProofDigestsSha256 (signed_proof_sha256s : List Sha256Digest) :
    Except Raised Sha256Digest := do
  require (signed_proof_sha256s≠[] ∧ signed_proof_sha256s.length≤20)
    (.valueError "ordered signed-proof digest sequence is invalid")
  return functions.sha256 (signedProofChainDomain++twoBytes signed_proof_sha256s.length++
    signed_proof_sha256s.flatMap (fun digest => fromHex digest.1.toList))

/-- Digest of signed proofs in order. -/
def signedHealthProofChainSha256 (signed_proofs : List (SignedHealthDecisionProofV1 functions)) :
    Except Raised Sha256Digest := do
  require (signed_proofs≠[] ∧ signed_proofs.length≤20)
    (.valueError "signed health proof sequence is invalid")
  return functions.sha256 (signedProofChainDomain++twoBytes signed_proofs.length++
    signed_proofs.flatMap (fun signed =>
      fromHex (functions.signed_proof_sha256 signed.fields).1.toList))

def chainManifestDomain : Bytes :=
  asciiBytes "controlgraph.signed-health-decision-chain-sha256/v1"++[0]

/-- Digest of the components of a manifest. -/
def healthChainManifestSha256 (anchor_sha256 ordered_proof_chain_sha256 chain_head_sha256 :
      Sha256Digest) (healthy_promotion_proof_sha256 : Option Sha256Digest) : Sha256Digest :=
  let components := [fromHex anchor_sha256.1.toList,fromHex ordered_proof_chain_sha256.1.toList,
    fromHex chain_head_sha256.1.toList,
    (healthy_promotion_proof_sha256.map (fun digest => fromHex digest.1.toList)).getD []]
  functions.sha256 (chainManifestDomain++components.flatMap
    (fun component => twoBytes component.length++component))

/-- The first state of the interval of an anchor. -/
def anchoredStateFields (anchor : PostApplyHealthAnchorV1Fields) : HealthEvaluationStateV1Fields :=
  {initialStateFields functions.toHealthFunctions anchor.target anchor.root_id anchor.root_sha256
    anchor.epoch anchor.candidate_revision anchor.observation_started_at with
    policy_sha256 := anchor.policy_sha256}

/-- The state that an evaluation after a signed proof starts from. -/
def derivedState (anchor : PostApplyHealthAnchorV1Fields)
    (previous : Option (SignedHealthDecisionProofV1Fields functions.toHealthFunctions)) :
    Except Raised HealthEvaluationStateV1 :=
  match previous with
  | none => makeState (anchoredStateFields functions anchor)
  | some previous =>
    makeState (nextStateFields functions.toHealthFunctions previous.proof.decision.fields)

/-- A proof repeats the window of its predecessor at the deadline, after a retryable reason. -/
def isDeadlineRetry (predecessor proof : HealthDecisionProofV1Fields functions.toHealthFunctions)
    (deadline : UtcSecond) : Prop :=
  (∃ reason∈retryableReasons,predecessor.decision.reason_codes=[reason]) ∧
    predecessor.decision.next_evaluation_at=some deadline ∧
    predecessor.decision.evaluated_at.1<deadline.1 ∧ deadline.1 ≤ proof.decision.evaluated_at.1

instance (predecessor proof : HealthDecisionProofV1Fields functions.toHealthFunctions)
    (deadline : UtcSecond) : Decidable (isDeadlineRetry functions predecessor proof deadline) := by
  unfold isDeadlineRetry
  infer_instance

section chains

variable (anchor : PostApplyHealthAnchorV1 functions)

/-- Check that the state of a proof follows the proof before it. -/
def validateStateTransition (previous : Option (SignedHealthDecisionProofV1 functions))
    (proof : HealthDecisionProofV1Fields functions.toHealthFunctions) : Except Raised Unit := do
  require (∀ predecessor∈previous,predecessor.proof.decision.next_evaluation_at≠none)
    (.valueError "health chain continues after a terminal decision")
  let expected ← derivedState functions anchor.fields
    (previous.map SignedHealthDecisionProofV1.fields)
  require (proof.prior_state=expected)
    (.valueError "health chain state is not derived from its predecessor")

/-- A signed proof is about a window. -/
def isAttemptOf (window_index : Nat) (signed : SignedHealthDecisionProofV1 functions) : Bool :=
  signed.proof.observation.window_index=window_index

/-- Check the time of a proof and the number of proofs of its window. -/
def validateWindowAttempt (earlier : List (SignedHealthDecisionProofV1 functions))
    (proof : HealthDecisionProofV1Fields functions.toHealthFunctions) : Except Raised Unit := do
  let observation := proof.observation
  let count := earlier.countP (isAttemptOf functions observation.window_index)+1
  require (count≤ maximumProofsPerWindow)
    (.valueError "health chain exceeds the per-window attempt bound")
  let ready_at ← addSeconds observation.window_ended_at observationDelaySeconds
  let deadline ← addSeconds observation.window_ended_at maximumObservationDelaySeconds
  require (ready_at.1 ≤ proof.decision.evaluated_at.1)
    (.valueError "health chain contains an evaluation before readiness")
  if count=1 then return ()
  else do
    let predecessor ← requireSome earlier.head?
      (.valueError "health chain retry lacks its predecessor")
    require (predecessor.proof.observation.window_index=observation.window_index ∧
        isDeadlineRetry functions predecessor.proof proof deadline)
      (.valueError "health chain retry is not the one policy-declared deadline retry")

/-- A proof belongs to an anchor, at its place in the chain. -/
def isAnchored (anchor_sha256 : Sha256Digest) (sequence : Nat)
    (signed : SignedHealthDecisionProofV1 functions) : Prop :=
  let proof := signed.proof
  proof.sequence=sequence ∧ proof.anchor_id=anchor.anchor_id ∧ proof.anchor_sha256=anchor_sha256 ∧
    proof.decision.policy_sha256=anchor.policy_sha256 ∧ proof.decision.target=anchor.target ∧
    proof.decision.root_id=anchor.root_id ∧ proof.decision.root_sha256=anchor.root_sha256 ∧
    proof.decision.epoch=anchor.epoch ∧
    proof.decision.candidate_revision=anchor.candidate_revision ∧
    proof.observation.observation_started_at=anchor.observation_started_at ∧
    signed.signing_key_version=anchor.evidence_signing_key_version

instance (anchor_sha256 : Sha256Digest) (sequence : Nat)
    (signed : SignedHealthDecisionProofV1 functions) :
    Decidable (isAnchored functions anchor anchor_sha256 sequence signed) := by
  unfold isAnchored
  infer_instance

/-- Digest of a signed proof. -/
def signedSha256 (signed : SignedHealthDecisionProofV1 functions) : Sha256Digest :=
  functions.signed_proof_sha256 signed.fields

/-- Check one signed proof after the earlier ones, the latest of them first. -/
def validateLink (anchor_sha256 : Sha256Digest)
    (earlier : List (SignedHealthDecisionProofV1 functions))
    (signed : SignedHealthDecisionProofV1 functions) : Except Raised Unit := do
  require (signedSha256 functions signed∉earlier.map (signedSha256 functions))
    (.valueError "health chain contains a repeated signed proof")
  require (isAnchored functions anchor anchor_sha256 (earlier.length+1) signed)
    (.valueError "health chain proof is outside its exact anchor")
  require (signed.proof.previous_signed_proof_sha256=earlier.head?.map (signedSha256 functions))
    (.valueError "health chain predecessor digest is invalid")
  validateStateTransition functions anchor earlier.head? signed.proof
  validateWindowAttempt functions earlier signed.proof

/-- Check signed proofs one after the other. -/
def validateLinks (anchor_sha256 : Sha256Digest) (earlier : List (SignedHealthDecisionProofV1 functions)) :
    List (SignedHealthDecisionProofV1 functions) → Except Raised Unit
  | [] => .ok ()
  | signed::rest => do
    validateLink functions anchor anchor_sha256 earlier signed
    validateLinks anchor_sha256 (signed::earlier) rest

end chains

/-- Fields of a chain. -/
structure SignedHealthDecisionChainV1Fields where
  chain_id : Identifier
  anchor : PostApplyHealthAnchorV1 functions
  anchor_sha256 : Sha256Digest
  signed_proofs : List (SignedHealthDecisionProofV1 functions)
  chain_head_sha256 : Sha256Digest
  healthy_promotion_proof : Option (HealthyPromotionProofV1 functions)
  deriving DecidableEq

/-- Digest of the manifest of a chain. -/
def signedHealthDecisionChainSha256 (chain : SignedHealthDecisionChainV1Fields functions) :
    Except Raised Sha256Digest := do
  let ordered ← signedHealthProofChainSha256 functions chain.signed_proofs
  return healthChainManifestSha256 functions chain.anchor_sha256 ordered chain.chain_head_sha256
    (chain.healthy_promotion_proof.map (fun promotion => functions.promotion_sha256 promotion.fields))

/-- A chain identifier from the digest of the manifest. -/
def chainIdentity (manifest_sha256 : Sha256Digest) : String := "cghealthchain:"++manifest_sha256.1

/-- The compact proof that belongs to signed proofs, before its identity is computed. -/
def promotionFields (anchor : PostApplyHealthAnchorV1Fields) (anchor_sha256 : Sha256Digest)
    (terminal : HealthDecisionProofV1Fields functions.toHealthFunctions)
    (signed_health_chain_sha256 : Sha256Digest) (proof_id : Identifier)
    (valid_until : UtcSecond) : HealthyPromotionProofV1Fields where
  proof_id := proof_id
  anchor_id := anchor.anchor_id
  anchor_sha256 := anchor_sha256
  root_id := anchor.root_id
  root_sha256 := anchor.root_sha256
  target := anchor.target
  epoch := anchor.epoch
  policy_sha256 := anchor.policy_sha256
  candidate_revision := anchor.candidate_revision
  terminal_sequence := terminal.sequence
  source_receipt_sha256 := anchor.source_receipt_sha256
  expected_prestate_sha256 := anchor.expected_prestate_sha256
  terminal_health_decision_sha256 := terminal.decision_sha256
  signed_health_chain_sha256 := signed_health_chain_sha256
  desired_poststate_sha256 := functions.target_configuration_sha256 anchor.promoted
  issued_at := terminal.decision.evaluated_at
  valid_until := valid_until

/-- Check the compact proof of a chain: apart from its identity it is the one that the
signed proofs determine. -/
def validateHealthyPromotionProof (chain : SignedHealthDecisionChainV1Fields functions)
    (terminal : SignedHealthDecisionProofV1 functions) (compact : HealthyPromotionProofV1 functions) :
    Except Raised Unit := do
  let signed_health_chain_sha256 ← signedHealthProofChainSha256 functions chain.signed_proofs
  let valid_until ← addSeconds terminal.proof.observation.window_ended_at
    maximumObservationDelaySeconds
  require (compact.fields=promotionFields functions chain.anchor.fields chain.anchor_sha256
      terminal.proof signed_health_chain_sha256 compact.proof_id valid_until)
    (.valueError "healthy promotion proof does not match its signed chain")

/-- Check the end of a chain. -/
def validateTerminal (chain : SignedHealthDecisionChainV1Fields functions)
    (terminal : SignedHealthDecisionProofV1 functions) : Except Raised Unit :=
  if terminal.proof.decision.status=.healthy then do
    let compact ← requireSome chain.healthy_promotion_proof
      (.valueError "healthy chain requires its compact promotion proof")
    validateHealthyPromotionProof functions chain terminal compact
  else
    require (chain.healthy_promotion_proof=none)
      (.valueError "non-healthy chain cannot authorize promotion")

def SignedHealthDecisionChainV1Fields.validateChain
    (chain : SignedHealthDecisionChainV1Fields functions) : Except Raised Unit := do
  require (chain.signed_proofs.length≤20) .validationError
  let terminal ← requireSome chain.signed_proofs.getLast? .validationError
  require (chain.anchor_sha256=functions.anchor_sha256 chain.anchor.fields)
    (.valueError "health chain anchor digest is invalid")
  require (chain.signed_proofs.length≤ maximumProofs)
    (.valueError "health chain exceeds the policy evaluation bound")
  require (chain.chain_head_sha256=signedSha256 functions terminal)
    (.valueError "health chain head digest is invalid")
  validateLinks functions chain.anchor chain.anchor_sha256 [] chain.signed_proofs
  validateTerminal functions chain terminal
  let manifest_sha256 ← signedHealthDecisionChainSha256 functions chain
  require (chain.chain_id.1=chainIdentity manifest_sha256)
    (.valueError "health chain identifier is not canonical")

/-- The signed health history of one anchor. -/
structure SignedHealthDecisionChainV1 extends
    fields : SignedHealthDecisionChainV1Fields functions where
  accepted : fields.validateChain functions=.ok ()
  deriving DecidableEq

/-- Build a compact proof, checking it. -/
def makePromotion (fields : HealthyPromotionProofV1Fields) :
    Except Raised (HealthyPromotionProofV1 functions) :=
  if h : fields.validatePromotion functions=.ok () then .ok ⟨fields,h⟩
  else .error (.valueError "healthy promotion proof is invalid")

/-- Identity of a record before its own is computed. -/
def pendingIdentity : Identifier := ⟨"pending",by decide⟩

/-- Create the compact proof of signed proofs that end healthy. -/
def createHealthyPromotionProof (anchor : PostApplyHealthAnchorV1 functions)
    (signed_proofs : List (SignedHealthDecisionProofV1 functions)) :
    Except Raised (HealthyPromotionProofV1 functions) := do
  let terminal ← requireSome signed_proofs.getLast?
    (.valueError "healthy promotion proof requires exact signed proofs")
  require (terminal.proof.decision.status=.healthy)
    (.valueError "only a terminal healthy decision can authorize promotion")
  let valid_until ← addSeconds terminal.proof.observation.window_ended_at
    maximumObservationDelaySeconds
  require (terminal.proof.decision.evaluated_at.1<valid_until.1)
    (.valueError "terminal healthy decision is outside the policy evidence lifetime")
  let signed_health_chain_sha256 ← signedHealthProofChainSha256 functions signed_proofs
  let pending := promotionFields functions anchor.fields (functions.anchor_sha256 anchor.fields)
    terminal.proof signed_health_chain_sha256 pendingIdentity valid_until
  makePromotion functions {pending with proof_id := functions.promotion_id pending}

/-- Build a chain, checking it. -/
def makeChain (fields : SignedHealthDecisionChainV1Fields functions) :
    Except Raised (SignedHealthDecisionChainV1 functions) :=
  if h : fields.validateChain functions=.ok () then .ok ⟨fields,h⟩
  else .error (.valueError "signed health chain is invalid")

/-- The compact proof of signed proofs, which there is only when they end healthy. -/
def terminalPromotion (anchor : PostApplyHealthAnchorV1 functions)
    (signed_proofs : List (SignedHealthDecisionProofV1 functions))
    (terminal : SignedHealthDecisionProofV1 functions) :
    Except Raised (Option (HealthyPromotionProofV1 functions)) :=
  if terminal.proof.decision.status=.healthy then
    (createHealthyPromotionProof functions anchor signed_proofs).map some
  else .ok none

/-- A chain before its identity is computed. -/
def chainDraft (anchor : PostApplyHealthAnchorV1 functions)
    (signed_proofs : List (SignedHealthDecisionProofV1 functions))
    (terminal : SignedHealthDecisionProofV1 functions)
    (healthy_promotion_proof : Option (HealthyPromotionProofV1 functions)) :
    SignedHealthDecisionChainV1Fields functions where
  chain_id := pendingIdentity
  anchor := anchor
  anchor_sha256 := functions.anchor_sha256 anchor.fields
  signed_proofs := signed_proofs
  chain_head_sha256 := signedSha256 functions terminal
  healthy_promotion_proof := healthy_promotion_proof

/-- Give a draft its identity and check it. -/
def sealChain (draft : SignedHealthDecisionChainV1Fields functions) :
    Except Raised (SignedHealthDecisionChainV1 functions) := do
  let manifest_sha256 ← signedHealthDecisionChainSha256 functions draft
  let chain_id ← identifierText (chainIdentity manifest_sha256)
  makeChain functions {draft with chain_id := chain_id}

def createSignedHealthDecisionChain (anchor : PostApplyHealthAnchorV1 functions)
    (signed_proofs : List (SignedHealthDecisionProofV1 functions)) :
    Except Raised (SignedHealthDecisionChainV1 functions) := do
  let terminal ← requireSome signed_proofs.getLast?
    (.valueError "health chain requires at least one signed proof")
  let healthy_promotion_proof ← terminalPromotion functions anchor signed_proofs terminal
  sealChain functions (chainDraft functions anchor signed_proofs terminal healthy_promotion_proof)

/-- Families of stored health documents. -/
inductive HealthStorageKind
  | postApplyHealthAnchor | signedHealthDecisionProof | healthChainHead | healthChainManifest
  | recoveryIntent | recoveryDispatchIdentity | recoveryDispatch
  deriving DecidableEq,Repr

/-- Collection name of a family. -/
def HealthStorageKind.value : HealthStorageKind → String
  | .postApplyHealthAnchor => "controlgraph-post-apply-health-anchors-v1"
  | .signedHealthDecisionProof => "controlgraph-signed-health-decision-proofs-v1"
  | .healthChainHead => "controlgraph-health-chain-heads-v1"
  | .healthChainManifest => "controlgraph-health-chain-manifests-v1"
  | .recoveryIntent => "controlgraph-recovery-intents-v1"
  | .recoveryDispatchIdentity => "controlgraph-recovery-dispatch-identities-v2"
  | .recoveryDispatch => "controlgraph-recovery-dispatches-v2"

/-- Domain of the document ids of health records. -/
def healthFirestoreDocumentIdDomain : Bytes :=
  asciiBytes "controlgraph.health-firestore-document-id/v1"++[0]

/-- Document id of a record of one target. -/
def documentId (kind : HealthStorageKind) (target : TargetBinding) (components : List String) :
    Except Raised Sha256Digest := do
  require (ReceiptStore.isServiceClaimTarget target=true)
    (.valueError "health storage target is outside the ControlGraph boundary")
  let parts := kind.value::(functions.target_sha256 target).1::components
  return functions.sha256 (healthFirestoreDocumentIdDomain++
    parts.flatMap (fun part => twoBytes (asciiBytes part).length++asciiBytes part))

def signedHealthProofDocumentId (target : TargetBinding) (anchor_id : Identifier)
    (signed_proof_sha256 : Sha256Digest) : Except Raised Sha256Digest :=
  documentId functions .signedHealthDecisionProof target [anchor_id.1,signed_proof_sha256.1]

/-- Reference to the document of a signed proof. -/
structure HealthProofDocumentReferenceV1 where
  /-- Place of the proof in its chain. -/
  sequence : Nat
  proof_id : Identifier
  document_id : Sha256Digest
  signed_proof_sha256 : Sha256Digest
  decision_sha256 : Sha256Digest
  bounded : 1 ≤ sequence ∧ sequence≤20
  deriving DecidableEq

/-- Fields of a manifest. -/
structure HealthChainManifestV1Fields where
  target : TargetBinding
  root_id : Identifier
  root_sha256 : Sha256Digest
  epoch : PositiveSafeInteger
  anchor_id : Identifier
  anchor_sha256 : Sha256Digest
  chain_id : Identifier
  manifest_sha256 : Sha256Digest
  ordered_proof_chain_sha256 : Sha256Digest
  chain_head_sha256 : Sha256Digest
  /-- Place of the last proof. -/
  terminal_sequence : Nat
  terminal_status : HealthDecisionKind
  proof_documents : List HealthProofDocumentReferenceV1
  healthy_promotion_proof : Option (HealthyPromotionProofV1 functions)
  healthy_promotion_proof_sha256 : Option Sha256Digest
  deriving DecidableEq

/-- Check one reference after the earlier ones. -/
def validateReference (target : TargetBinding) (anchor_id : Identifier)
    (earlier : List HealthProofDocumentReferenceV1) (reference : HealthProofDocumentReferenceV1) :
    Except Raised Unit := do
  let expected_document_id ← signedHealthProofDocumentId functions target anchor_id
    reference.signed_proof_sha256
  require (reference.sequence=earlier.length+1 ∧ reference.document_id=expected_document_id ∧
      reference.document_id∉earlier.map HealthProofDocumentReferenceV1.document_id ∧
      reference.signed_proof_sha256∉
        earlier.map HealthProofDocumentReferenceV1.signed_proof_sha256)
    (.valueError "health manifest proof reference is invalid")

/-- Check references one after the other. -/
def validateReferences (target : TargetBinding) (anchor_id : Identifier)
    (earlier : List HealthProofDocumentReferenceV1) :
    List HealthProofDocumentReferenceV1 → Except Raised Unit
  | [] => .ok ()
  | reference::rest => do
    validateReference functions target anchor_id earlier reference
    validateReferences target anchor_id (reference::earlier) rest

/-- The compact proof of a manifest is about its chain. -/
def HealthChainManifestV1Fields.compactMatches (manifest : HealthChainManifestV1Fields functions)
    (terminal : HealthProofDocumentReferenceV1) (compact : HealthyPromotionProofV1 functions) :
    Prop :=
  compact.anchor_id=manifest.anchor_id ∧ compact.anchor_sha256=manifest.anchor_sha256 ∧
    compact.root_id=manifest.root_id ∧ compact.root_sha256=manifest.root_sha256 ∧
    compact.target=manifest.target ∧ compact.epoch=manifest.epoch ∧
    compact.terminal_sequence=manifest.terminal_sequence ∧
    compact.terminal_health_decision_sha256=terminal.decision_sha256 ∧
    compact.signed_health_chain_sha256=manifest.ordered_proof_chain_sha256

instance (manifest : HealthChainManifestV1Fields functions)
    (terminal : HealthProofDocumentReferenceV1) (compact : HealthyPromotionProofV1 functions) :
    Decidable (manifest.compactMatches functions terminal compact) := by
  unfold HealthChainManifestV1Fields.compactMatches
  infer_instance

/-- Check the end of a manifest. -/
def HealthChainManifestV1Fields.validateCompact (manifest : HealthChainManifestV1Fields functions)
    (terminal : HealthProofDocumentReferenceV1) : Except Raised Unit :=
  if manifest.terminal_status=.healthy then
    require (∃ compact∈manifest.healthy_promotion_proof,
        manifest.compactMatches functions terminal compact)
      (.valueError "healthy manifest compact proof is invalid")
  else
    require (manifest.healthy_promotion_proof=none)
      (.valueError "non-healthy manifest cannot carry a promotion proof")

def HealthChainManifestV1Fields.validateManifest (manifest : HealthChainManifestV1Fields functions) :
    Except Raised Unit := do
  require ((1 ≤ manifest.terminal_sequence ∧ manifest.terminal_sequence≤20) ∧
      manifest.proof_documents.length≤20)
    .validationError
  let terminal ← requireSome manifest.proof_documents.getLast? .validationError
  require (ReceiptStore.isServiceClaimTarget manifest.target=true)
    (.valueError "health storage target is outside the ControlGraph boundary")
  require (manifest.root_id.1="cgroot:"++manifest.root_sha256.1)
    (.valueError "health manifest root binding is invalid")
  require (manifest.proof_documents.length=manifest.terminal_sequence)
    (.valueError "health manifest proof count is invalid")
  validateReferences functions manifest.target manifest.anchor_id [] manifest.proof_documents
  let ordered ← orderedHealthProofDigestsSha256 functions
    (manifest.proof_documents.map HealthProofDocumentReferenceV1.signed_proof_sha256)
  require (manifest.ordered_proof_chain_sha256=ordered ∧
      manifest.chain_head_sha256=terminal.signed_proof_sha256 ∧
      manifest.healthy_promotion_proof_sha256=manifest.healthy_promotion_proof.map
        (fun compact => functions.promotion_sha256 compact.fields))
    (.valueError "health manifest digest bindings are invalid")
  manifest.validateCompact functions terminal
  require (manifest.manifest_sha256=healthChainManifestSha256 functions manifest.anchor_sha256
        manifest.ordered_proof_chain_sha256 manifest.chain_head_sha256
        manifest.healthy_promotion_proof_sha256 ∧
      manifest.chain_id.1=chainIdentity manifest.manifest_sha256)
    (.valueError "health manifest identity is invalid")

/-- The durable state of a chain. -/
structure HealthChainManifestV1 extends fields : HealthChainManifestV1Fields functions where
  accepted : fields.validateManifest functions=.ok ()
  deriving DecidableEq

/-- Build a manifest, checking it. -/
def makeManifest (fields : HealthChainManifestV1Fields functions) :
    Except Raised (HealthChainManifestV1 functions) :=
  if h : fields.validateManifest functions=.ok () then .ok ⟨fields,h⟩
  else .error (.valueError "health chain manifest is invalid")

/-- Build a reference, checking it. -/
def makeReference (sequence : Nat) (proof_id : Identifier) (document_id : Sha256Digest)
    (signed_proof_sha256 decision_sha256 : Sha256Digest) :
    Except Raised HealthProofDocumentReferenceV1 :=
  if h : 1 ≤ sequence ∧ sequence≤20 then
    .ok ⟨sequence,proof_id,document_id,signed_proof_sha256,decision_sha256,h⟩
  else .error .validationError

/-- The reference to the document of a signed proof. -/
def referenceOf (anchor : PostApplyHealthAnchorV1Fields)
    (signed : SignedHealthDecisionProofV1 functions) :
    Except Raised HealthProofDocumentReferenceV1 := do
  let document_id ← signedHealthProofDocumentId functions anchor.target anchor.anchor_id
    (signedSha256 functions signed)
  makeReference signed.proof.sequence signed.proof.proof_id document_id
    (signedSha256 functions signed) signed.proof.decision_sha256

def createHealthChainManifest (chain : SignedHealthDecisionChainV1 functions) :
    Except Raised (HealthChainManifestV1 functions) := do
  let proof_documents ← chain.signed_proofs.mapM (referenceOf functions chain.anchor.fields)
  let manifest_sha256 ← signedHealthDecisionChainSha256 functions chain.fields
  let ordered ← signedHealthProofChainSha256 functions chain.signed_proofs
  let terminal ← requireSome chain.signed_proofs.getLast? .validationError
  let manifest ← makeManifest functions {
    target := chain.anchor.target
    root_id := chain.anchor.root_id
    root_sha256 := chain.anchor.root_sha256
    epoch := chain.anchor.epoch
    anchor_id := chain.anchor.anchor_id
    anchor_sha256 := chain.anchor_sha256
    chain_id := chain.chain_id
    manifest_sha256 := manifest_sha256
    ordered_proof_chain_sha256 := ordered
    chain_head_sha256 := chain.chain_head_sha256
    terminal_sequence := terminal.proof.sequence
    terminal_status := terminal.proof.decision.status
    proof_documents := proof_documents
    healthy_promotion_proof := chain.healthy_promotion_proof
    healthy_promotion_proof_sha256 := chain.healthy_promotion_proof.map
      (fun promotion => functions.promotion_sha256 promotion.fields) }
  let helper_sha256 ← signedHealthDecisionChainSha256 functions chain.fields
  require (manifest.manifest_sha256=helper_sha256)
    (.valueError "health manifest does not match the chain helper digest")
  return manifest

end ControlGraph.HealthProofs
