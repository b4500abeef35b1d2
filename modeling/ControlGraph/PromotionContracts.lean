import ControlGraph.CapabilityContracts
import ControlGraph.RecoveryContracts

/-!
# Contracts of a candidate promotion

One command names the verified apply receipt and the healthy chain behind a
promotion. An authorization binds the chain to its root and to the traffic
change, and its own identity fixes the capability that may be issued for it. The
task carries the capability and an intent that repeats the authorization. The
dispatch record carries the exact task and the outcome of its only enqueue
attempt. The digests of whole contracts are given by a record of functions.
-/

namespace ControlGraph.PromotionContracts

open Checks ContractText Utf8Text HealthProofs CapabilityContracts

open ReceiptContracts (TargetBinding CapabilityAction)

open ReceiptStore (isServiceClaimTarget)

open TimelineContracts (KeyVersionResource)

open RecoveryContracts (isDerivedCapabilityId)

/-- The apply receipt that a promotion starts from. -/
structure VerifiedApplyReceiptLocatorV1 where
  receipt_id : Identifier
  request_id : Identifier
  idempotency_key : Identifier
  capability_sha256 : Sha256Digest
  mutation_sha256 : Sha256Digest
  expected_poststate_sha256 : Sha256Digest
  provider_operation : BoundedText
  receipt_sha256 : Sha256Digest
  deriving DecidableEq

/-- Where one signed health chain is stored. -/
structure PromotionHealthChainLocatorV1 where
  anchor_id : Identifier
  anchor_sha256 : Sha256Digest
  chain_id : Identifier
  health_chain_sha256 : Sha256Digest
  chain_head_sha256 : Sha256Digest
  ordered_proof_chain_sha256 : Sha256Digest
  /-- Place of the last proof. -/
  terminal_sequence : Nat
  deriving DecidableEq

/-- Root and chain of one promotion capability. -/
structure PromotionAuthorizationV1 where
  capability_id : Identifier
  request_id : Identifier
  idempotency_key : Identifier
  /-- When the task is due. -/
  scheduled_at : UtcSecond
  root_id : Identifier
  root_sha256 : Sha256Digest
  target : TargetBinding
  epoch : PositiveSafeInteger
  plan_sha256 : Sha256Digest
  policy_sha256 : Sha256Digest
  stable_snapshot_sha256 : Sha256Digest
  stable_revision : CloudRunName
  stable_revision_configuration_sha256 : Sha256Digest
  candidate_revision : CloudRunName
  candidate_revision_configuration_sha256 : Sha256Digest
  concurrency : Nat
  evidence_signing_key_version : KeyVersionResource
  capability_signing_key_version : KeyVersionResource
  /-- Who issues the capability. -/
  issuer_identity : BoundedText
  /-- Who executes the promotion. -/
  executor_identity : BoundedText
  executor_audience : String
  expected_prestate_sha256 : Sha256Digest
  provider_etag : OpaqueToken
  verified_apply_receipt : VerifiedApplyReceiptLocatorV1
  source_receipt_sha256 : Sha256Digest
  health_chain_locator : PromotionHealthChainLocatorV1
  terminal_health_decision_sha256 : Sha256Digest
  healthy_promotion_proof_sha256 : Sha256Digest
  healthy_promotion_proof : HealthyPromotionProofV1Fields
  desired_poststate_sha256 : Sha256Digest
  proof_valid_until : UtcSecond
  deriving DecidableEq

/-- One promotion request. -/
structure PromotionCommandV2 where
  root_id : Identifier
  expected_root_sha256 : Sha256Digest
  expected_epoch : PositiveSafeInteger
  request_id : Identifier
  idempotency_key : Identifier
  /-- When the task is due. -/
  scheduled_at : UtcSecond
  verified_apply_receipt : VerifiedApplyReceiptLocatorV1
  health_chain_locator : PromotionHealthChainLocatorV1
  deriving DecidableEq

/-- The mutation of one promotion, with its authorization. -/
structure PromotionMutationIntentV2 where
  request_id : Identifier
  idempotency_key : Identifier
  target : TargetBinding
  root_id : Identifier
  root_sha256 : Sha256Digest
  epoch : PositiveSafeInteger
  stable_revision : CloudRunName
  candidate_revision : CloudRunName
  plan_sha256 : Sha256Digest
  provider_etag : OpaqueToken
  capability_id : Identifier
  promotion_authorization_sha256 : Sha256Digest
  expected_prestate_sha256 : Sha256Digest
  terminal_health_decision_sha256 : Sha256Digest
  health_chain_sha256 : Sha256Digest
  desired_poststate_sha256 : Sha256Digest
  proof_valid_until : UtcSecond
  authorization : PromotionAuthorizationV1
  deriving DecidableEq

/-- An addressed promotion task. -/
structure PromotionTaskRequestV2 where
  task_id : Identifier
  handler_audience : String
  scheduled_at : UtcSecond
  expires_at : UtcSecond
  capability : SignedCapability
  intent : PromotionMutationIntentV2
  deriving DecidableEq

/-- States around the only enqueue attempt. -/
inductive PromotionDispatchState
  | prepared | enqueueStarted | created | duplicate | ambiguous
  deriving DecidableEq,Repr

/-- Result of addressing one promotion task. -/
structure PromotionDispatchResultV2 where
  request_id : Identifier
  idempotency_key : Identifier
  target : TargetBinding
  root_id : Identifier
  root_sha256 : Sha256Digest
  epoch : PositiveSafeInteger
  stable_revision : CloudRunName
  candidate_revision : CloudRunName
  provider_etag : OpaqueToken
  verified_apply_receipt : VerifiedApplyReceiptLocatorV1
  source_receipt_sha256 : Sha256Digest
  expected_prestate_sha256 : Sha256Digest
  terminal_health_decision_sha256 : Sha256Digest
  health_chain_sha256 : Sha256Digest
  health_chain_locator : PromotionHealthChainLocatorV1
  healthy_promotion_proof_sha256 : Sha256Digest
  desired_poststate_sha256 : Sha256Digest
  proof_valid_until : UtcSecond
  promotion_authorization_sha256 : Sha256Digest
  capability_id : Identifier
  capability_sha256 : Sha256Digest
  task_id : Identifier
  task_name : BoundedText
  enqueue_disposition : PromotionDispatchState
  /-- When the task is due. -/
  scheduled_at : UtcSecond
  /-- When the task ends. -/
  expires_at : UtcSecond
  deriving DecidableEq

/-- Fields of a dispatch record. -/
structure PromotionDispatchRecordFields where
  dispatch_id : Identifier
  command_sha256 : Sha256Digest
  promotion_authorization_sha256 : Sha256Digest
  capability_id : Identifier
  request_id : Identifier
  idempotency_key : Identifier
  target : TargetBinding
  root_id : Identifier
  root_sha256 : Sha256Digest
  epoch : PositiveSafeInteger
  /-- When the task is due. -/
  scheduled_at : UtcSecond
  source_receipt_sha256 : Sha256Digest
  health_chain_sha256 : Sha256Digest
  task_sha256 : Sha256Digest
  task_name : BoundedText
  task : PromotionTaskRequestV2
  state : PromotionDispatchState
  prepared_at : UtcSecond
  enqueue_started_at : Option UtcSecond
  /-- When the outcome was recorded. -/
  terminal_at : Option UtcSecond
  result : Option PromotionDispatchResultV2
  deriving DecidableEq

/-- The digests of whole promotion contracts. -/
structure PromotionFunctions extends HealthProofFunctions where
  claims_sha256 : CapabilityClaims → Sha256Digest
  capability_sha256 : SignedCapability → Sha256Digest
  authorization_sha256 : PromotionAuthorizationV1 → Sha256Digest
  capability_id_sha256 : PromotionAuthorizationV1 → Sha256Digest
  /-- The identity of the capability is not among the fields that it is derived from. -/
  capability_id_other : ∀ authorization capability_id',
    capability_id_sha256 {authorization with capability_id := capability_id'}=
      capability_id_sha256 authorization
  command_sha256 : PromotionCommandV2 → Sha256Digest
  task_sha256 : PromotionTaskRequestV2 → Sha256Digest
  taskBytes : PromotionTaskRequestV2 → Bytes

variable (functions : PromotionFunctions)

def promotionCapabilityId (authorization : PromotionAuthorizationV1) : String :=
  "cgcap-"++(functions.capability_id_sha256 authorization).1

/-- Identity of the dispatch of a command. -/
def promotionDispatchV2Id (command_sha256 : Sha256Digest) : String :=
  "cgpromotev2:"++command_sha256.1

/-- Check where a chain is stored. -/
def validateChainLocator (locator : PromotionHealthChainLocatorV1) : Except Raised Unit := do
  require (1 ≤ locator.terminal_sequence ∧ locator.terminal_sequence≤20) .validationError
  require ("cghealthanchor:".toList.isPrefixOf locator.anchor_id.1.toList=true ∧
      locator.chain_id.1=chainIdentity locator.health_chain_sha256)
    (.valueError "promotion health-chain locator is invalid")

/-- Name of the capability key of a project, up to its version. -/
def capabilityKeyName (project_id : ProjectId) : String :=
  "projects/"++project_id.1++"/locations/us-central1/keyRings/controlgraph-signing/"++
    "cryptoKeys/capability-signing/cryptoKeyVersions/"

/-- Name of the capability key whose version is that of an evidence key. -/
def capabilityKeyOf (project_id : ProjectId) (evidence_key : KeyVersionResource) : String :=
  capabilityKeyName project_id++
    String.ofList (evidence_key.1.toList.drop (evidenceKeyName project_id).length)

/-- Mail address of a service account of a project. -/
def serviceAccount (name : String) (project_id : ProjectId) : String :=
  name++"@"++project_id.1++".iam.gserviceaccount.com"

/-- Whether a text is the audience of a service that is named by a project number. -/
def isServiceAudience (service : String) (audience : String) : Bool :=
  let front := ("https://"++service++"-").toList
  let back := ".us-central1.run.app".toList
  let number := (audience.toList.drop front.length).take
    (audience.length-front.length-back.length)
  audience.toList==front++number++back &&
    RootContracts.isGoogleSubject (String.ofList number)

/-- An authorization inside the boundary of its root. -/
@[mk_iff] structure AuthorizationRootBound (authorization : PromotionAuthorizationV1) : Prop where
  root_id : authorization.root_id.1="cgroot:"++authorization.root_sha256.1
  target : isServiceClaimTarget authorization.target=true
  different : authorization.stable_revision≠authorization.candidate_revision
  stable : isRevisionOf authorization.target.service_name authorization.stable_revision
  candidate : isRevisionOf authorization.target.service_name authorization.candidate_revision
  evidence_key : isEvidenceKey authorization.target.project_id
    authorization.evidence_signing_key_version=true
  capability_key : authorization.capability_signing_key_version.1=
    capabilityKeyOf authorization.target.project_id authorization.evidence_signing_key_version
  issuer : authorization.issuer_identity.1=
    serviceAccount "controlgraph-issuer" authorization.target.project_id
  executor : authorization.executor_identity.1=
    serviceAccount "controlgraph-executor" authorization.target.project_id
  audience : isServiceAudience "controlgraph-executor" authorization.executor_audience=true

instance (authorization : PromotionAuthorizationV1) :
    Decidable (AuthorizationRootBound authorization) :=
  decidable_of_iff _ (authorizationRootBound_iff authorization).symm

/-- An authorization that repeats its compact proof and its chain. -/
@[mk_iff] structure AuthorizationProofBound (authorization : PromotionAuthorizationV1) : Prop where
  anchor_id : authorization.healthy_promotion_proof.anchor_id=
    authorization.health_chain_locator.anchor_id
  anchor_sha256 : authorization.healthy_promotion_proof.anchor_sha256=
    authorization.health_chain_locator.anchor_sha256
  root_id : authorization.healthy_promotion_proof.root_id=authorization.root_id
  root_sha256 : authorization.healthy_promotion_proof.root_sha256=authorization.root_sha256
  target : authorization.healthy_promotion_proof.target=authorization.target
  epoch : authorization.healthy_promotion_proof.epoch=authorization.epoch
  policy_sha256 : authorization.healthy_promotion_proof.policy_sha256=authorization.policy_sha256
  candidate : authorization.healthy_promotion_proof.candidate_revision=
    authorization.candidate_revision
  terminal_sequence : authorization.healthy_promotion_proof.terminal_sequence=
    authorization.health_chain_locator.terminal_sequence
  receipt : authorization.healthy_promotion_proof.source_receipt_sha256=
    authorization.source_receipt_sha256
  prestate : authorization.healthy_promotion_proof.expected_prestate_sha256=
    authorization.expected_prestate_sha256
  decision : authorization.healthy_promotion_proof.terminal_health_decision_sha256=
    authorization.terminal_health_decision_sha256
  proofs : authorization.healthy_promotion_proof.signed_health_chain_sha256=
    authorization.health_chain_locator.ordered_proof_chain_sha256
  proof_sha256 : authorization.healthy_promotion_proof_sha256=
    functions.promotion_sha256 authorization.healthy_promotion_proof
  manifest : authorization.health_chain_locator.health_chain_sha256=
    healthChainManifestSha256 functions.toHealthProofFunctions
      authorization.health_chain_locator.anchor_sha256
      authorization.health_chain_locator.ordered_proof_chain_sha256
      authorization.health_chain_locator.chain_head_sha256
      (some authorization.healthy_promotion_proof_sha256)
  poststate : authorization.healthy_promotion_proof.desired_poststate_sha256=
    authorization.desired_poststate_sha256
  valid_until : authorization.healthy_promotion_proof.valid_until=authorization.proof_valid_until
  issued : authorization.healthy_promotion_proof.issued_at.1 ≤ authorization.scheduled_at.1
  window : authorization.scheduled_at.1<authorization.proof_valid_until.1

instance (authorization : PromotionAuthorizationV1) :
    Decidable (AuthorizationProofBound functions authorization) :=
  decidable_of_iff _ (authorizationProofBound_iff functions authorization).symm

def validateAuthorization (authorization : PromotionAuthorizationV1) : Except Raised Unit := do
  require (1 ≤ authorization.concurrency ∧ authorization.concurrency≤1000) .validationError
  validateChainLocator authorization.health_chain_locator
  authorization.healthy_promotion_proof.validatePromotion functions.toHealthProofFunctions
  require (AuthorizationRootBound authorization)
    (.valueError "promotion authorization root binding is invalid")
  require (authorization.verified_apply_receipt.expected_poststate_sha256=
        authorization.expected_prestate_sha256 ∧
      authorization.source_receipt_sha256=authorization.verified_apply_receipt.receipt_sha256)
    (.valueError "promotion authorization receipt binding is invalid")
  require (AuthorizationProofBound functions authorization)
    (.valueError "promotion authorization does not bind its healthy proof")
  require (authorization.capability_id.1=promotionCapabilityId functions authorization)
    (.valueError "promotion authorization capability identifier is not canonical")

/-- An intent that repeats its authorization. -/
@[mk_iff] structure IntentBound (intent : PromotionMutationIntentV2) : Prop where
  request_id : intent.request_id=intent.authorization.request_id
  idempotency_key : intent.idempotency_key=intent.authorization.idempotency_key
  target : intent.target=intent.authorization.target
  root_id : intent.root_id=intent.authorization.root_id
  root_sha256 : intent.root_sha256=intent.authorization.root_sha256
  epoch : intent.epoch=intent.authorization.epoch
  stable_revision : intent.stable_revision=intent.authorization.stable_revision
  candidate_revision : intent.candidate_revision=intent.authorization.candidate_revision
  plan_sha256 : intent.plan_sha256=intent.authorization.plan_sha256
  provider_etag : intent.provider_etag=intent.authorization.provider_etag
  capability_id : intent.capability_id.1=promotionCapabilityId functions intent.authorization
  authorization_sha256 : intent.promotion_authorization_sha256=
    functions.authorization_sha256 intent.authorization
  prestate : intent.expected_prestate_sha256=intent.authorization.expected_prestate_sha256
  decision : intent.terminal_health_decision_sha256=
    intent.authorization.terminal_health_decision_sha256
  chain : intent.health_chain_sha256=intent.authorization.health_chain_locator.health_chain_sha256
  poststate : intent.desired_poststate_sha256=intent.authorization.desired_poststate_sha256
  proof_valid_until : intent.proof_valid_until=intent.authorization.proof_valid_until

instance (intent : PromotionMutationIntentV2) : Decidable (IntentBound functions intent) :=
  decidable_of_iff _ (intentBound_iff functions intent).symm

def validateIntent (intent : PromotionMutationIntentV2) : Except Raised Unit := do
  validateAuthorization functions intent.authorization
  require (IntentBound functions intent)
    (.valueError "promotion mutation intent does not match its authorization")

def maxPromotionTaskCanonicalBytes : Nat := 64000

/-- A task that repeats its capability, its intent and its authorization. -/
@[mk_iff] structure TaskBound (task : PromotionTaskRequestV2) : Prop where
  action : task.capability.claims.action=.promoteCandidate
  derived : task.capability.claims.capability_id.1=
    promotionCapabilityId functions task.intent.authorization
  capability_id : task.capability.claims.capability_id=task.intent.capability_id
  task_id : task.task_id.1="task-"++task.capability.claims_sha256.1
  handler : task.handler_audience=task.capability.claims.audience
  issuer : task.capability.claims.issuer=task.intent.authorization.issuer_identity
  subject : task.capability.claims.subject=task.intent.authorization.executor_identity
  audience : task.capability.claims.audience=task.intent.authorization.executor_audience
  key : task.capability.claims.signing_key_version=
    task.intent.authorization.capability_signing_key_version
  parent : task.capability.claims.parent_capability_sha256=none
  target : task.capability.claims.target=task.intent.target
  root_id : task.capability.claims.root_id=task.intent.root_id
  root_sha256 : task.capability.claims.root_sha256=task.intent.root_sha256
  epoch : task.capability.claims.epoch=task.intent.epoch
  stable_revision : task.capability.claims.stable_revision=task.intent.stable_revision
  candidate_revision : task.capability.claims.candidate_revision=task.intent.candidate_revision
  traffic : task.capability.claims.stable_percent=0 ∧ task.capability.claims.candidate_percent=100
  concurrency : task.capability.claims.concurrency=none
  plan_sha256 : task.capability.claims.plan_sha256=task.intent.plan_sha256
  provider_etag : task.capability.claims.provider_etag=task.intent.provider_etag
  request_id : task.capability.claims.request_id=task.intent.request_id
  idempotency_key : task.capability.claims.idempotency_key=task.intent.idempotency_key
  not_before : task.capability.claims.not_before=task.intent.authorization.scheduled_at
  scheduled_at : task.scheduled_at=task.intent.authorization.scheduled_at
  proved : task.intent.authorization.healthy_promotion_proof.issued_at.1 ≤
    task.capability.claims.issued_at.1
  issued : task.capability.claims.issued_at.1 ≤ task.capability.claims.not_before.1
  opened : task.capability.claims.not_before.1 ≤ task.scheduled_at.1
  window : task.scheduled_at.1<task.expires_at.1
  capability_window : task.expires_at.1 ≤ task.capability.claims.expires_at.1
  proof_window : task.capability.claims.expires_at.1 ≤
    task.intent.authorization.proof_valid_until.1

instance (task : PromotionTaskRequestV2) : Decidable (TaskBound functions task) :=
  decidable_of_iff _ (taskBound_iff functions task).symm

def validateTask (task : PromotionTaskRequestV2) : Except Raised Unit := do
  validateCapability functions.claims_sha256 task.capability
  validateIntent functions task.intent
  require (TaskBound functions task)
    (.valueError "promotion task does not match its capability and authorization")
  require ((functions.taskBytes task).length ≤ maxPromotionTaskCanonicalBytes)
    (.valueError "promotion task exceeds the canonical byte bound")

/-- Name of the queue task with a digest. -/
def promotionTaskName (target : TargetBinding) (task_sha256 : String) : String :=
  "projects/"++target.project_id.1++"/locations/us-central1/queues/"++
    "controlgraph-execution/tasks/cg-"++task_sha256

/-- Whether a text names a queue task of a project. -/
def isPromotionTaskName (target : TargetBinding) (task_name : String) : Bool :=
  (promotionTaskName target "").toList.isPrefixOf task_name.toList &&
    isSha256 (String.ofList (task_name.toList.drop (promotionTaskName target "").length))

def validateDispatchResult (result : PromotionDispatchResultV2) : Except Raised Unit := do
  validateChainLocator result.health_chain_locator
  require (isServiceClaimTarget result.target=true ∧
      isPromotionTaskName result.target result.task_name.1=true ∧
      result.source_receipt_sha256=result.verified_apply_receipt.receipt_sha256 ∧
      result.health_chain_sha256=result.health_chain_locator.health_chain_sha256 ∧
      isDerivedCapabilityId result.capability_id.1=true ∧
      result.scheduled_at.1 < result.expires_at.1 ∧
      result.expires_at.1 ≤ result.proof_valid_until.1)
    (.valueError "V2 promotion dispatch result bindings are invalid")

/-- The command that an authorization answers. -/
def authorizedCommand (authorization : PromotionAuthorizationV1) : PromotionCommandV2 where
  root_id := authorization.root_id
  expected_root_sha256 := authorization.root_sha256
  expected_epoch := authorization.epoch
  request_id := authorization.request_id
  idempotency_key := authorization.idempotency_key
  scheduled_at := authorization.scheduled_at
  verified_apply_receipt := authorization.verified_apply_receipt
  health_chain_locator := authorization.health_chain_locator

/-- A dispatch record that repeats its task. -/
@[mk_iff] structure DispatchTaskBound (dispatch : PromotionDispatchRecordFields) : Prop where
  command_sha256 : dispatch.command_sha256=
    functions.command_sha256 (authorizedCommand dispatch.task.intent.authorization)
  dispatch_id : dispatch.dispatch_id.1=promotionDispatchV2Id dispatch.command_sha256
  authorization_sha256 : dispatch.promotion_authorization_sha256=
    functions.authorization_sha256 dispatch.task.intent.authorization
  capability_id : dispatch.capability_id.1=
    promotionCapabilityId functions dispatch.task.intent.authorization
  request_id : dispatch.request_id=dispatch.task.intent.authorization.request_id
  idempotency_key : dispatch.idempotency_key=dispatch.task.intent.authorization.idempotency_key
  target : dispatch.target=dispatch.task.intent.authorization.target
  root_id : dispatch.root_id=dispatch.task.intent.authorization.root_id
  root_sha256 : dispatch.root_sha256=dispatch.task.intent.authorization.root_sha256
  epoch : dispatch.epoch=dispatch.task.intent.authorization.epoch
  scheduled_at : dispatch.scheduled_at=dispatch.task.intent.authorization.scheduled_at
  source_receipt_sha256 : dispatch.source_receipt_sha256=
    dispatch.task.intent.authorization.source_receipt_sha256
  chain : dispatch.health_chain_sha256=
    dispatch.task.intent.authorization.health_chain_locator.health_chain_sha256
  task_sha256 : dispatch.task_sha256=functions.task_sha256 dispatch.task
  task_name : dispatch.task_name.1=promotionTaskName dispatch.target dispatch.task_sha256.1
  claimed : dispatch.task.capability.claims.capability_id=dispatch.capability_id

instance (dispatch : PromotionDispatchRecordFields) : Decidable (DispatchTaskBound functions dispatch) :=
  decidable_of_iff _ (dispatchTaskBound_iff functions dispatch).symm

/-- A result that repeats its dispatch record. -/
@[mk_iff] structure DispatchResultBound (dispatch : PromotionDispatchRecordFields)
    (result : PromotionDispatchResultV2) : Prop where
  enqueue_disposition : result.enqueue_disposition=dispatch.state
  request_id : result.request_id=dispatch.request_id
  idempotency_key : result.idempotency_key=dispatch.idempotency_key
  target : result.target=dispatch.target
  root_id : result.root_id=dispatch.root_id
  root_sha256 : result.root_sha256=dispatch.root_sha256
  epoch : result.epoch=dispatch.epoch
  stable_revision : result.stable_revision=dispatch.task.intent.authorization.stable_revision
  candidate_revision : result.candidate_revision=
    dispatch.task.intent.authorization.candidate_revision
  provider_etag : result.provider_etag=dispatch.task.intent.authorization.provider_etag
  verified_apply_receipt : result.verified_apply_receipt=
    dispatch.task.intent.authorization.verified_apply_receipt
  source_receipt_sha256 : result.source_receipt_sha256=
    dispatch.task.intent.authorization.source_receipt_sha256
  prestate : result.expected_prestate_sha256=
    dispatch.task.intent.authorization.expected_prestate_sha256
  decision : result.terminal_health_decision_sha256=
    dispatch.task.intent.authorization.terminal_health_decision_sha256
  chain_sha256 : result.health_chain_sha256=
    dispatch.task.intent.authorization.health_chain_locator.health_chain_sha256
  chain : result.health_chain_locator=dispatch.task.intent.authorization.health_chain_locator
  proof_sha256 : result.healthy_promotion_proof_sha256=
    dispatch.task.intent.authorization.healthy_promotion_proof_sha256
  poststate : result.desired_poststate_sha256=
    dispatch.task.intent.authorization.desired_poststate_sha256
  proof_valid_until : result.proof_valid_until=
    dispatch.task.intent.authorization.proof_valid_until
  authorization_sha256 : result.promotion_authorization_sha256=
    dispatch.promotion_authorization_sha256
  capability_id : result.capability_id=dispatch.capability_id
  capability_sha256 : result.capability_sha256=
    functions.capability_sha256 dispatch.task.capability
  task_id : result.task_id=dispatch.task.task_id
  task_name : result.task_name=dispatch.task_name
  scheduled_at : result.scheduled_at=dispatch.scheduled_at
  expires_at : result.expires_at=dispatch.task.expires_at

instance (dispatch : PromotionDispatchRecordFields) (result : PromotionDispatchResultV2) :
    Decidable (DispatchResultBound functions dispatch result) :=
  decidable_of_iff _ (dispatchResultBound_iff functions dispatch result).symm

/-- Check the start of an enqueue attempt. -/
def validateEnqueueStart (dispatch : PromotionDispatchRecordFields) : Except Raised Unit :=
  require (∃ enqueue_started_at∈dispatch.enqueue_started_at,
      dispatch.prepared_at.1 ≤ enqueue_started_at.1)
    (.valueError "V2 promotion enqueue start is invalid")

/-- Check the outcome of a dispatch record. -/
def validateTerminal (dispatch : PromotionDispatchRecordFields) : Except Raised Unit :=
  match dispatch.terminal_at,dispatch.result with
  | some terminal_at,some result => do
    validateDispatchResult result
    require ((∀ enqueue_started_at∈dispatch.enqueue_started_at,
          enqueue_started_at.1 ≤ terminal_at.1) ∧ DispatchResultBound functions dispatch result)
      (.valueError "terminal V2 promotion dispatch shape is invalid")
  | _,_ => .error (.valueError "terminal V2 promotion dispatch shape is invalid")

/-- Check the shape of a dispatch record in its state. -/
def validateShape (dispatch : PromotionDispatchRecordFields) : Except Raised Unit :=
  match dispatch.state with
  | .prepared =>
    require (dispatch.enqueue_started_at=none ∧ dispatch.terminal_at=none ∧ dispatch.result=none)
      (.valueError "prepared V2 promotion dispatch shape is invalid")
  | .enqueueStarted => do
    validateEnqueueStart dispatch
    require (dispatch.terminal_at=none ∧ dispatch.result=none)
      (.valueError "started V2 promotion dispatch shape is invalid")
  | .created | .duplicate | .ambiguous => do
    validateEnqueueStart dispatch
    validateTerminal functions dispatch

/-- Check a dispatch record. -/
def validateRecord (dispatch : PromotionDispatchRecordFields) : Except Raised Unit := do
  validateTask functions dispatch.task
  require (DispatchTaskBound functions dispatch)
    (.valueError "V2 promotion dispatch task binding is invalid")
  validateShape functions dispatch

/-- A dispatch record that was accepted. -/
structure PromotionDispatchRecordV2 extends fields : PromotionDispatchRecordFields where
  accepted : validateRecord functions fields=.ok ()

/-- Build a dispatch record, checking it. -/
def makeRecord (fields : PromotionDispatchRecordFields) :
    Except Raised (PromotionDispatchRecordV2 functions) :=
  if h : validateRecord functions fields=.ok () then .ok ⟨fields,h⟩
  else .error (.valueError "V2 promotion dispatch is invalid")

section

variable {functions}

theorem PromotionDispatchRecordV2.ext_fields {first second : PromotionDispatchRecordV2 functions}
    (h : first.fields=second.fields) : first=second := by
  cases first
  cases second
  cases h
  rfl

instance : DecidableEq (PromotionDispatchRecordV2 functions) := fun first second =>
  decidable_of_iff (first.fields=second.fields)
    ⟨PromotionDispatchRecordV2.ext_fields,fun h => congrArg PromotionDispatchRecordV2.fields h⟩

theorem makeRecord_eq_ok {fields : PromotionDispatchRecordFields}
    {record : PromotionDispatchRecordV2 functions} :
    makeRecord functions fields=.ok record ↔ record.fields=fields := by
  unfold makeRecord
  constructor
  · intro h
    split at h
    · rw [← Except.ok.inj h]
    · cases h
  · rintro rfl
    rw [dif_pos record.accepted]

/-- What the validators of a record have checked of its task. -/
structure RecordBound (functions : PromotionFunctions) (dispatch : PromotionDispatchRecordFields) :
    Prop where
  claims : validateClaims dispatch.task.capability.claims=.ok ()
  authorization : validateAuthorization functions dispatch.task.intent.authorization=.ok ()
  intent : IntentBound functions dispatch.task.intent
  task : TaskBound functions dispatch.task
  record : DispatchTaskBound functions dispatch
  shape : validateShape functions dispatch=.ok ()

theorem recordBound_of_accepted {dispatch : PromotionDispatchRecordFields}
    (h : validateRecord functions dispatch=.ok ()) : RecordBound functions dispatch := by
  rw [validateRecord,check_bind_eq_ok,check_bind_eq_ok,require_eq_ok] at h
  obtain ⟨htask,hrecord,hshape⟩ := h
  rw [validateTask,check_bind_eq_ok,check_bind_eq_ok,check_bind_eq_ok,require_eq_ok] at htask
  obtain ⟨hcapability,hintent,hbound,-⟩ := htask
  rw [validateCapability,check_bind_eq_ok] at hcapability
  rw [validateIntent,check_bind_eq_ok,require_eq_ok] at hintent
  exact ⟨hcapability.1,hintent.1,hintent.2,hbound,hrecord,hshape⟩

end

end ControlGraph.PromotionContracts
