import ControlGraph.ReleaseContracts
import ControlGraph.ExecutionRequests

/-!
# Contracts of a stable recovery

One command names the verified apply receipt and the source that triggers the
recovery of a root: a terminal unhealthy chain, or a revocation that an operator
confirmed. The intent of a root owns one command. The dispatch record carries
the exact recovery task and the outcome of its only enqueue attempt. The digests
of whole contracts are given by a record of pure functions, and the fields that
no modelled function reads are kept as canonical texts.
-/

namespace ControlGraph.RecoveryContracts

open Checks ContractText Utf8Text RootContracts RevocationContracts ReleaseContracts
  ExecutionRequests

open StorageIdentity (asciiBytes)

open ReceiptStore (isServiceClaimTarget)

open ReceiptContracts hiding ServiceClaimRecord

/-- Sources that may trigger a recovery. -/
inductive RecoveryTriggerBasis
  | terminalUnhealthyV3 | operatorConfirmedRevokedV2 | operatorConfirmedRevokedV3
  deriving DecidableEq,Repr

/-- Where the signed health chain of a terminal unhealthy decision is stored. -/
structure RecoveryHealthChainLocatorV1 where
  root_id : Identifier
  root_sha256 : Sha256Digest
  target : TargetBinding
  epoch : PositiveSafeInteger
  chain_id : Identifier
  health_chain_sha256 : Sha256Digest
  source_receipt_sha256 : Sha256Digest
  expected_prestate_sha256 : Sha256Digest
  terminal_decided_at : UtcSecond
  /-- Canonical text of the anchor, the proofs and the sequence. -/
  others : String
  deriving DecidableEq

/-- A trigger of a terminal unhealthy chain. -/
structure UnhealthyRecoverySourceV1 where
  root_id : Identifier
  root_sha256 : Sha256Digest
  target : TargetBinding
  epoch : PositiveSafeInteger
  health_chain_locator : RecoveryHealthChainLocatorV1
  triggered_at : UtcSecond
  deriving DecidableEq

/-- The durable records of one revocation. -/
structure EpochRevocationProofV1 where
  authority : EpochAuthorityRecord
  signed_evidence : SignedEvidenceEventV1
  result : EpochRevocationResultV1
  audit : String
  deriving DecidableEq

/-- A trigger that an operator confirmed after a revocation. -/
structure RevokedRecoverySourceV1 where
  root_id : Identifier
  root_sha256 : Sha256Digest
  target : TargetBinding
  epoch : PositiveSafeInteger
  revocation_proof : EpochRevocationProofV1
  revocation_proof_sha256 : Sha256Digest
  triggered_at : UtcSecond
  deriving DecidableEq

/-- The trigger of a recovery. -/
inductive RecoverySourceV1
  | unhealthy (source : UnhealthyRecoverySourceV1)
  | revokedV2 (source : RevokedRecoverySourceV1)
  | revokedV3 (source : RevokedRecoverySourceV1)
  deriving DecidableEq

namespace RecoverySourceV1

def basis : RecoverySourceV1 → RecoveryTriggerBasis
  | .unhealthy _ => .terminalUnhealthyV3
  | .revokedV2 _ => .operatorConfirmedRevokedV2
  | .revokedV3 _ => .operatorConfirmedRevokedV3

def root_id : RecoverySourceV1 → Identifier
  | .unhealthy source => source.root_id
  | .revokedV2 source => source.root_id
  | .revokedV3 source => source.root_id

/-- Digest of the root of a trigger. -/
def root_sha256 : RecoverySourceV1 → Sha256Digest
  | .unhealthy source => source.root_sha256
  | .revokedV2 source => source.root_sha256
  | .revokedV3 source => source.root_sha256

def target : RecoverySourceV1 → TargetBinding
  | .unhealthy source => source.target
  | .revokedV2 source => source.target
  | .revokedV3 source => source.target

def epoch : RecoverySourceV1 → PositiveSafeInteger
  | .unhealthy source => source.epoch
  | .revokedV2 source => source.epoch
  | .revokedV3 source => source.epoch

def triggered_at : RecoverySourceV1 → UtcSecond
  | .unhealthy source => source.triggered_at
  | .revokedV2 source => source.triggered_at
  | .revokedV3 source => source.triggered_at

end RecoverySourceV1

/-- One recovery request. -/
structure RecoveryCommandV2 where
  root_id : Identifier
  expected_root_sha256 : Sha256Digest
  expected_epoch : PositiveSafeInteger
  request_id : Identifier
  idempotency_key : Identifier
  /-- When the task is due. -/
  scheduled_at : UtcSecond
  verified_apply_receipt : RecoveryApplyReceiptLocatorV1
  source : RecoverySourceV1
  deriving DecidableEq

/-- Root-unique ownership of one command. -/
structure RecoveryIntentFields where
  intent_id : Identifier
  command : RecoveryCommandV2
  command_sha256 : Sha256Digest
  root_id : Identifier
  root_sha256 : Sha256Digest
  epoch : PositiveSafeInteger
  request_id : Identifier
  idempotency_key : Identifier
  source_receipt_sha256 : Sha256Digest
  trigger_basis : RecoveryTriggerBasis
  trigger_proof_sha256 : Sha256Digest
  created_at : UtcSecond
  deriving DecidableEq

/-- What a recovery authorization fixes for its task. -/
structure RecoveryAuthorizationV1 where
  command_sha256 : Sha256Digest
  request_id : Identifier
  idempotency_key : Identifier
  /-- When the task is due. -/
  scheduled_at : UtcSecond
  root_schema_version : RolloutRootVersion
  root_id : Identifier
  root_sha256 : Sha256Digest
  target : TargetBinding
  epoch : PositiveSafeInteger
  plan_sha256 : Sha256Digest
  stable_revision : CloudRunName
  stable_revision_configuration_sha256 : Sha256Digest
  candidate_revision : CloudRunName
  candidate_revision_configuration_sha256 : Sha256Digest
  concurrency : Nat
  recovery_audience : String
  verified_apply_receipt : RecoveryApplyReceiptLocatorV1
  source_receipt_sha256 : Sha256Digest
  source : RecoverySourceV1
  trigger_proof_sha256 : Sha256Digest
  prestate_attestation_sha256 : Sha256Digest
  expected_prestate_sha256 : Sha256Digest
  current_provider_etag : OpaqueToken
  desired_poststate_sha256 : Sha256Digest
  proof_valid_until : UtcSecond
  /-- Canonical text of the rest. -/
  others : String
  deriving DecidableEq

/-- An addressed recovery task. The executor receives its request. -/
structure RecoveryTaskRequestV2 where
  task_id : Identifier
  /-- What the executor receives. -/
  request : ProtectedMutationRequest
  capability_id : Identifier
  authorization : RecoveryAuthorizationV1
  recovery_authorization_sha256 : Sha256Digest
  deriving DecidableEq

def RecoveryTaskRequestV2.expires_at (task : RecoveryTaskRequestV2) : UtcSecond :=
  task.request.expires_at

/-- States around the only enqueue attempt. -/
inductive RecoveryDispatchState
  | prepared | enqueueStarted | created | duplicate | ambiguous
  deriving DecidableEq,Repr

/-- Result of addressing one recovery task. -/
structure RecoveryDispatchResultV2 where
  request_id : Identifier
  idempotency_key : Identifier
  target : TargetBinding
  root_schema_version : RolloutRootVersion
  root_id : Identifier
  root_sha256 : Sha256Digest
  epoch : PositiveSafeInteger
  stable_revision : CloudRunName
  stable_revision_configuration_sha256 : Sha256Digest
  candidate_revision : CloudRunName
  candidate_revision_configuration_sha256 : Sha256Digest
  concurrency : Nat
  provider_etag : OpaqueToken
  verified_apply_receipt : RecoveryApplyReceiptLocatorV1
  source_receipt_sha256 : Sha256Digest
  trigger_basis : RecoveryTriggerBasis
  trigger_proof_sha256 : Sha256Digest
  prestate_attestation_sha256 : Sha256Digest
  expected_prestate_sha256 : Sha256Digest
  desired_poststate_sha256 : Sha256Digest
  proof_valid_until : UtcSecond
  recovery_authorization_sha256 : Sha256Digest
  capability_id : Identifier
  capability_sha256 : Sha256Digest
  task_id : Identifier
  task_name : BoundedText
  enqueue_disposition : RecoveryDispatchState
  /-- When the task is due. -/
  scheduled_at : UtcSecond
  /-- When the task ends. -/
  expires_at : UtcSecond
  deriving DecidableEq

/-- Fields of a dispatch record. -/
structure RecoveryDispatchRecordFields where
  dispatch_id : Identifier
  command_sha256 : Sha256Digest
  recovery_authorization_sha256 : Sha256Digest
  capability_id : Identifier
  request_id : Identifier
  idempotency_key : Identifier
  target : TargetBinding
  root_id : Identifier
  root_sha256 : Sha256Digest
  epoch : PositiveSafeInteger
  /-- When the task is due. -/
  scheduled_at : UtcSecond
  source_receipt_sha256 : Sha256Digest
  trigger_proof_sha256 : Sha256Digest
  prestate_attestation_sha256 : Sha256Digest
  task_sha256 : Sha256Digest
  task_name : BoundedText
  task : RecoveryTaskRequestV2
  state : RecoveryDispatchState
  prepared_at : UtcSecond
  enqueue_started_at : Option UtcSecond
  /-- When the outcome was recorded. -/
  terminal_at : Option UtcSecond
  result : Option RecoveryDispatchResultV2
  deriving DecidableEq

/-- Recovery contracts that are hashed as a whole. -/
inductive RecoveryContract
  | revocationProof (proof : EpochRevocationProofV1)
  | source (source : RecoverySourceV1)
  | command (command : RecoveryCommandV2)
  | authorization (authorization : RecoveryAuthorizationV1)
  | capability (capability : SignedCapability)
  | task (task : RecoveryTaskRequestV2)
  | dispatch (dispatch : RecoveryDispatchRecordFields)

/-- The digest function and the digests of whole recovery contracts. -/
structure RecoveryFunctions where
  sha256 : Bytes → Sha256Digest
  contractSha256 : RecoveryContract → Sha256Digest
  taskBytes : RecoveryTaskRequestV2 → Bytes

variable (functions : RecoveryFunctions)

/-- Bytes that a digest is the text of. -/
def fromDigest (digest : Sha256Digest) : Bytes :=
  fromHex digest.1.toList

def recoveryIntentId (root_sha256 : Sha256Digest) : String :=
  "cgrecoveryintent:"++(functions.sha256
    (asciiBytes "controlgraph.recovery-intent-id/v1"++[0]++fromDigest root_sha256)).1

def recoveryDispatchId (command_sha256 : Sha256Digest) : String :=
  "cgrecover:"++(functions.sha256
    (asciiBytes "controlgraph.recovery-dispatch-id/v2"++[0]++fromDigest command_sha256)).1

def recoveryCommandSha256 (command : RecoveryCommandV2) : Sha256Digest :=
  functions.contractSha256 (.command command)

def recoveryTriggerProofSha256 (source : RecoverySourceV1) : Sha256Digest :=
  functions.contractSha256 (.source source)

def recoveryDispatchRecordSha256 (dispatch : RecoveryDispatchRecordFields) : Sha256Digest :=
  functions.contractSha256 (.dispatch dispatch)

/-- Check that a trigger belongs to its chain or to its revocation. -/
def validateSource (source : RecoverySourceV1) : Except Raised Unit :=
  match source with
  | .unhealthy source =>
    let locator := source.health_chain_locator
    require (source.root_id=locator.root_id ∧ source.root_sha256=locator.root_sha256 ∧
        source.target=locator.target ∧ source.epoch=locator.epoch ∧
        source.triggered_at=locator.terminal_decided_at)
      (.valueError "unhealthy recovery source is outside its terminal chain")
  | .revokedV2 source => revoked source "revoked V2 recovery source proof is invalid"
  | .revokedV3 source => revoked source "revoked V3 recovery source proof is invalid"
where
  /-- Check of both revoked triggers. -/
  revoked (source : RevokedRecoverySourceV1) (error : String) : Except Raised Unit :=
    let proof := source.revocation_proof
    let result := proof.result
    require (isServiceClaimTarget source.target=true ∧
        source.root_id.1="cgroot:"++source.root_sha256.1 ∧ result.root_id=source.root_id ∧
        result.root_sha256=source.root_sha256 ∧ result.target=source.target ∧
        result.new_epoch=source.epoch ∧ proof.authority.current_epoch=source.epoch ∧
        proof.authority.previous_epoch=some result.previous_epoch ∧
        source.revocation_proof_sha256=functions.contractSha256 (.revocationProof proof) ∧
        source.triggered_at=result.committed_at)
      (.valueError error)

/-- Digest of sixty-four zeros, which no plan has. -/
def zeroPlan : String := String.ofList (List.replicate 64 '0')

/-- Check the bindings of a command. -/
def validateCommand (command : RecoveryCommandV2) : Except Raised Unit := do
  let receipt := command.verified_apply_receipt
  let source := command.source
  validateSource functions source
  require (command.root_id.1="cgroot:"++command.expected_root_sha256.1 ∧
      command.root_id=source.root_id ∧ command.expected_root_sha256=source.root_sha256 ∧
      command.expected_epoch=source.epoch ∧ receipt.root_id=command.root_id ∧
      receipt.root_sha256=command.expected_root_sha256 ∧ receipt.target=source.target ∧
      receipt.plan_sha256.1≠zeroPlan ∧ source.triggered_at.1 ≤ command.scheduled_at.1)
    (.valueError "recovery command bindings are invalid")
  match source with
  | .unhealthy source =>
    require (receipt.epoch=command.expected_epoch ∧
        receipt.receipt_sha256=source.health_chain_locator.source_receipt_sha256 ∧
        receipt.expected_poststate_sha256=source.health_chain_locator.expected_prestate_sha256)
      (.valueError "unhealthy recovery command receipt is invalid")
  | .revokedV2 source =>
    require (receipt.epoch=source.revocation_proof.result.previous_epoch)
      (.valueError "revoked V2 recovery command receipt is invalid")
  | .revokedV3 source =>
    require (receipt.epoch=source.revocation_proof.result.previous_epoch)
      (.valueError "revoked V3 recovery command receipt is invalid")

/-- Check the bindings of an intent. -/
def validateIntent (intent : RecoveryIntentFields) : Except Raised Unit := do
  let command := intent.command
  validateCommand functions command
  require (intent.intent_id.1=recoveryIntentId functions intent.root_sha256 ∧
      intent.command_sha256=recoveryCommandSha256 functions command ∧
      intent.root_id=command.root_id ∧ intent.root_sha256=command.expected_root_sha256 ∧
      intent.epoch=command.expected_epoch ∧ intent.request_id=command.request_id ∧
      intent.idempotency_key=command.idempotency_key ∧
      intent.source_receipt_sha256=command.verified_apply_receipt.receipt_sha256 ∧
      intent.trigger_basis=command.source.basis ∧
      intent.trigger_proof_sha256=recoveryTriggerProofSha256 functions command.source ∧
      command.source.triggered_at.1 ≤ intent.created_at.1 ∧
      intent.created_at.1 ≤ command.scheduled_at.1)
    (.valueError "recovery intent bindings are invalid")

/-- An intent that was accepted. -/
structure RecoveryIntentV1 extends fields : RecoveryIntentFields where
  accepted : validateIntent functions fields=.ok ()

def isRecovery : RequestKind → Bool
  | .recovery _ _ => true
  | _ => false

def maxRecoveryTaskCanonicalBytes : Nat := 64000

/-- A task that repeats its authorization and its capability. -/
@[mk_iff] structure TaskBound (task : RecoveryTaskRequestV2) : Prop where
  recovery : isRecovery task.request.kind=true
  task_id : task.task_id.1="task-"++task.request.capability.claims_sha256.1
  handler : task.request.handler_audience=task.authorization.recovery_audience
  audience : task.request.handler_audience=task.request.capability.audience
  request_id : task.request.intent.request_id=task.authorization.request_id
  idempotency_key : task.request.intent.idempotency_key=task.authorization.idempotency_key
  target : task.request.intent.target=task.authorization.target
  root_id : task.request.intent.root_id=task.authorization.root_id
  root_sha256 : task.request.intent.root_sha256=task.authorization.root_sha256
  epoch : task.request.intent.epoch=task.authorization.epoch
  action : task.request.intent.action=.recoverStable
  stable_revision : task.request.intent.stable_revision=task.authorization.stable_revision
  candidate_revision : task.request.intent.candidate_revision=task.authorization.candidate_revision
  traffic : task.request.intent.stable_percent=100 ∧ task.request.intent.candidate_percent=0
  concurrency : task.request.intent.concurrency=some task.authorization.concurrency
  plan_sha256 : task.request.intent.plan_sha256=task.authorization.plan_sha256
  provider_etag : task.request.intent.provider_etag=task.authorization.current_provider_etag
  authorization_sha256 : task.recovery_authorization_sha256=
    functions.contractSha256 (.authorization task.authorization)
  not_before : task.request.capability.not_before=task.authorization.scheduled_at
  scheduled_at : task.request.scheduled_at=task.authorization.scheduled_at
  window : task.request.scheduled_at.1 < task.request.expires_at.1
  capability_window : task.request.expires_at.1 ≤ task.request.capability.expires_at.1
  proof_window : task.request.capability.expires_at.1 ≤ task.authorization.proof_valid_until.1

instance (task : RecoveryTaskRequestV2) : Decidable (TaskBound functions task) :=
  decidable_of_iff _ (taskBound_iff functions task).symm

def validateTask (task : RecoveryTaskRequestV2) : Except Raised Unit := do
  require (TaskBound functions task) (.valueError "recovery task bindings are invalid")
  require ((functions.taskBytes task).length ≤ maxRecoveryTaskCanonicalBytes)
    (.valueError "recovery task exceeds the canonical byte bound")

def isDerivedCapabilityId (capability_id : String) : Bool :=
  "cgcap-".toList.isPrefixOf capability_id.toList &&
    isSha256 (String.ofList (capability_id.toList.drop 6))

/-- Name of the queue task with a digest. -/
def recoveryTaskName (target : TargetBinding) (task_sha256 : String) : String :=
  "projects/"++target.project_id.1++"/locations/us-central1/queues/"++
    "controlgraph-recovery/tasks/cg-"++task_sha256

/-- Whether a text names a queue task of a project. -/
def isRecoveryTaskName (target : TargetBinding) (task_name : String) : Bool :=
  (recoveryTaskName target "").toList.isPrefixOf task_name.toList &&
    isSha256 (String.ofList (task_name.toList.drop (recoveryTaskName target "").length))

/-- Triggers that go with the version of a root. -/
def admittedBases : RolloutRootVersion → List RecoveryTriggerBasis
  | .v2 => [.operatorConfirmedRevokedV2]
  | .v3 => [.terminalUnhealthyV3,.operatorConfirmedRevokedV3]

def validateDispatchResult (result : RecoveryDispatchResultV2) : Except Raised Unit :=
  require (isServiceClaimTarget result.target=true ∧
      result.root_id.1="cgroot:"++result.root_sha256.1 ∧
      isRecoveryTaskName result.target result.task_name.1=true ∧
      result.source_receipt_sha256=result.verified_apply_receipt.receipt_sha256 ∧
      isDerivedCapabilityId result.capability_id.1=true ∧
      result.scheduled_at.1 < result.expires_at.1 ∧
      result.expires_at.1 ≤ result.proof_valid_until.1 ∧
      result.trigger_basis∈admittedBases result.root_schema_version)
    (.valueError "recovery dispatch result bindings are invalid")

/-- A dispatch record that repeats its task. -/
@[mk_iff] structure DispatchTaskBound (dispatch : RecoveryDispatchRecordFields) : Prop where
  command_sha256 : dispatch.command_sha256=dispatch.task.authorization.command_sha256
  dispatch_id : dispatch.dispatch_id.1=recoveryDispatchId functions dispatch.command_sha256
  authorization_sha256 : dispatch.recovery_authorization_sha256=
    dispatch.task.recovery_authorization_sha256
  capability_id : dispatch.capability_id=dispatch.task.capability_id
  request_id : dispatch.request_id=dispatch.task.authorization.request_id
  idempotency_key : dispatch.idempotency_key=dispatch.task.authorization.idempotency_key
  target : dispatch.target=dispatch.task.authorization.target
  root_id : dispatch.root_id=dispatch.task.authorization.root_id
  root_sha256 : dispatch.root_sha256=dispatch.task.authorization.root_sha256
  epoch : dispatch.epoch=dispatch.task.authorization.epoch
  scheduled_at : dispatch.scheduled_at=dispatch.task.authorization.scheduled_at
  source_receipt_sha256 : dispatch.source_receipt_sha256=
    dispatch.task.authorization.source_receipt_sha256
  trigger_proof_sha256 : dispatch.trigger_proof_sha256=
    dispatch.task.authorization.trigger_proof_sha256
  prestate_attestation_sha256 : dispatch.prestate_attestation_sha256=
    dispatch.task.authorization.prestate_attestation_sha256
  task_sha256 : dispatch.task_sha256=functions.contractSha256 (.task dispatch.task)
  task_name : dispatch.task_name.1=recoveryTaskName dispatch.target dispatch.task_sha256.1

instance (dispatch : RecoveryDispatchRecordFields) : Decidable (DispatchTaskBound functions dispatch) :=
  decidable_of_iff _ (dispatchTaskBound_iff functions dispatch).symm

/-- A result that repeats its dispatch record. -/
@[mk_iff] structure DispatchResultBound (dispatch : RecoveryDispatchRecordFields)
    (result : RecoveryDispatchResultV2) : Prop where
  enqueue_disposition : result.enqueue_disposition=dispatch.state
  request_id : result.request_id=dispatch.request_id
  idempotency_key : result.idempotency_key=dispatch.idempotency_key
  target : result.target=dispatch.target
  root_schema_version : result.root_schema_version=dispatch.task.authorization.root_schema_version
  root_id : result.root_id=dispatch.root_id
  root_sha256 : result.root_sha256=dispatch.root_sha256
  epoch : result.epoch=dispatch.epoch
  stable_revision : result.stable_revision=dispatch.task.authorization.stable_revision
  stable_configuration : result.stable_revision_configuration_sha256=
    dispatch.task.authorization.stable_revision_configuration_sha256
  candidate_revision : result.candidate_revision=dispatch.task.authorization.candidate_revision
  candidate_configuration : result.candidate_revision_configuration_sha256=
    dispatch.task.authorization.candidate_revision_configuration_sha256
  concurrency : result.concurrency=dispatch.task.authorization.concurrency
  provider_etag : result.provider_etag=dispatch.task.authorization.current_provider_etag
  verified_apply_receipt : result.verified_apply_receipt=
    dispatch.task.authorization.verified_apply_receipt
  source_receipt_sha256 : result.source_receipt_sha256=
    dispatch.task.authorization.source_receipt_sha256
  trigger_basis : result.trigger_basis=dispatch.task.authorization.source.basis
  trigger_proof_sha256 : result.trigger_proof_sha256=
    dispatch.task.authorization.trigger_proof_sha256
  prestate_attestation_sha256 : result.prestate_attestation_sha256=
    dispatch.task.authorization.prestate_attestation_sha256
  expected_prestate_sha256 : result.expected_prestate_sha256=
    dispatch.task.authorization.expected_prestate_sha256
  desired_poststate_sha256 : result.desired_poststate_sha256=
    dispatch.task.authorization.desired_poststate_sha256
  proof_valid_until : result.proof_valid_until=dispatch.task.authorization.proof_valid_until
  authorization_sha256 : result.recovery_authorization_sha256=
    dispatch.recovery_authorization_sha256
  capability_id : result.capability_id=dispatch.capability_id
  capability_sha256 : result.capability_sha256=
    functions.contractSha256 (.capability dispatch.task.request.capability)
  task_id : result.task_id=dispatch.task.task_id
  task_name : result.task_name=dispatch.task_name
  scheduled_at : result.scheduled_at=dispatch.scheduled_at
  expires_at : result.expires_at=dispatch.task.expires_at

instance (dispatch : RecoveryDispatchRecordFields) (result : RecoveryDispatchResultV2) :
    Decidable (DispatchResultBound functions dispatch result) :=
  decidable_of_iff _ (dispatchResultBound_iff functions dispatch result).symm

/-- Check that a start of the enqueue attempt is missing only after the task expired. -/
def validateEnqueueStart (dispatch : RecoveryDispatchRecordFields) : Except Raised Unit :=
  match dispatch.enqueue_started_at with
  | none =>
    require (dispatch.state=.ambiguous ∧
        (∃ terminal_at∈dispatch.terminal_at,dispatch.task.expires_at.1 ≤ terminal_at.1) ∧
        dispatch.result.isSome=true)
      (.valueError "recovery enqueue start is invalid")
  | some enqueue_started_at =>
    require (dispatch.prepared_at.1 ≤ enqueue_started_at.1)
      (.valueError "recovery enqueue start is invalid")

/-- Check the outcome of a dispatch record. -/
def validateTerminal (dispatch : RecoveryDispatchRecordFields) : Except Raised Unit :=
  match dispatch.terminal_at,dispatch.result with
  | some terminal_at,some result => do
    validateDispatchResult result
    require ((∀ enqueue_started_at∈dispatch.enqueue_started_at,
          enqueue_started_at.1 ≤ terminal_at.1) ∧ DispatchResultBound functions dispatch result)
      (.valueError "terminal recovery dispatch shape is invalid")
  | _,_ => .error (.valueError "terminal recovery dispatch shape is invalid")

/-- Check a dispatch record. -/
def validateRecord (dispatch : RecoveryDispatchRecordFields) : Except Raised Unit := do
  validateTask functions dispatch.task
  require (DispatchTaskBound functions dispatch)
    (.valueError "recovery dispatch task binding is invalid")
  if dispatch.state=.prepared then
    require (dispatch.enqueue_started_at=none ∧ dispatch.terminal_at=none ∧ dispatch.result=none)
      (.valueError "prepared recovery dispatch shape is invalid")
  else do
    validateEnqueueStart dispatch
    if dispatch.state=.enqueueStarted then
      require (dispatch.terminal_at=none ∧ dispatch.result=none)
        (.valueError "started recovery dispatch shape is invalid")
    else validateTerminal functions dispatch

/-- A dispatch record that was accepted. -/
structure RecoveryDispatchRecordV2 extends fields : RecoveryDispatchRecordFields where
  accepted : validateRecord functions fields=.ok ()

section

variable {functions}

instance : DecidableEq (RecoveryIntentV1 functions) := fun first second =>
  decidable_of_iff (first.fields=second.fields) ⟨fun h => by
    cases first
    cases second
    cases h
    rfl,fun h => congrArg RecoveryIntentV1.fields h⟩

instance : DecidableEq (RecoveryDispatchRecordV2 functions) := fun first second =>
  decidable_of_iff (first.fields=second.fields) ⟨fun h => by
    cases first
    cases second
    cases h
    rfl,fun h => congrArg RecoveryDispatchRecordV2.fields h⟩

/-- An accepted dispatch record repeats its task, and its task repeats the authorization. -/
theorem RecoveryDispatchRecordV2.bound (dispatch : RecoveryDispatchRecordV2 functions) :
    TaskBound functions dispatch.task ∧ DispatchTaskBound functions dispatch.fields := by
  have haccepted : validateRecord functions dispatch.fields=.ok () := dispatch.accepted
  rw [validateRecord,bind_eq_ok] at haccepted
  obtain ⟨_,htask,hrecord⟩ := haccepted
  rw [validateTask,check_bind_eq_ok,require_eq_ok] at htask
  rw [check_bind_eq_ok,require_eq_ok] at hrecord
  exact ⟨htask.1,hrecord.1⟩

/-- The task of an accepted dispatch record asks for the root, the epoch and the
idempotency key of the record. -/
theorem RecoveryDispatchRecordV2.intent (dispatch : RecoveryDispatchRecordV2 functions) :
    dispatch.task.request.intent.root_id=dispatch.root_id ∧
      dispatch.task.request.intent.epoch=dispatch.epoch ∧
      dispatch.task.request.intent.idempotency_key=dispatch.idempotency_key ∧
      dispatch.task.request.intent.target=dispatch.target := by
  obtain ⟨htask,hrecord⟩ := dispatch.bound
  refine ⟨?_,?_,?_,?_⟩
  · rw [htask.root_id,hrecord.root_id]
  · rw [htask.epoch,hrecord.epoch]
  · rw [htask.idempotency_key,hrecord.idempotency_key]
  · rw [htask.target,hrecord.target]

end

end ControlGraph.RecoveryContracts
