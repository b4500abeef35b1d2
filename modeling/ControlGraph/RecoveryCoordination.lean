import ControlGraph.RecoveryResolution

/-!
# Coordination of one recovery

The coordinator claims or adopts the one intent of the root, and only then
resolves the authorization, asks for a capability and seals the task in a dispatch.
A root that has an intent admits only its command. What the services answer is
given, so one call is a function of the stored documents.
-/

namespace ControlGraph.RecoveryCoordination

open Checks ContractText RecoveryContracts ExecutionRequests RecoveryDispatchStore
  RecoveryResolution

open ReceiptContracts hiding ServiceClaimRecord

open ReceiptStore (StoreError)

variable (functions : RecoveryServiceFunctions) (configuration : ResolverConfiguration)

abbrev Documents := Stores functions.toHealthStoreFunctions

def identifierOf (text : String) : Except Raised Identifier :=
  if h : isIdentifier text=true then .ok ⟨text,h⟩ else .error .validationError

def recoveryIntentFields (intent_id : Identifier) (command : RecoveryCommandV2)
    (created_at : UtcSecond) : RecoveryIntentFields where
  intent_id := intent_id
  command := command
  command_sha256 := recoveryCommandSha256 functions.recovery command
  root_id := command.root_id
  root_sha256 := command.expected_root_sha256
  epoch := command.expected_epoch
  request_id := command.request_id
  idempotency_key := command.idempotency_key
  source_receipt_sha256 := command.verified_apply_receipt.receipt_sha256
  trigger_basis := command.source.basis
  trigger_proof_sha256 := recoveryTriggerProofSha256 functions.recovery command.source
  created_at := created_at

def createRecoveryIntent (command : RecoveryCommandV2) (created_at : UtcSecond) :
    Except Raised (RecoveryIntentV1 functions.recovery) := do
  let intent_id ← identifierOf (recoveryIntentId functions.recovery command.expected_root_sha256)
  let fields := recoveryIntentFields functions intent_id command created_at
  if h : validateIntent functions.recovery fields=.ok () then return ⟨fields,h⟩
  else .error (.valueError "recovery intent bindings are invalid")

/-- What the store and the provider answer to the claim of an intent. -/
structure ClaimAnswers where
  failure : Option StoreError
  /-- What the provider does with the create. -/
  report : WriteReport functions.toHealthStoreFunctions
  /-- Failure of the read that follows a lost answer. -/
  uncertain : Option StoreError

/-- Check that a stored intent owns a command. -/
def validateOwnedIntent (command : RecoveryCommandV2)
    (stored : StoredIntent functions.toHealthStoreFunctions) :
    Except RecoveryExecutionErrorCode (StoredIntent functions.toHealthStoreFunctions) := do
  require (OwnsCommand stored command ∧ stored.value.root_sha256=command.expected_root_sha256 ∧
      stored.value.command.source.target=configuration.target)
    .identityConflict
  return stored

def storeFailure : StoreError → RecoveryExecutionErrorCode
  | .corruptRecord => .trustedStateInvalid
  | _ => .dispatchUnavailable

/-- A read of the intent of a root, that may fail. -/
def intentRead (failure : Option StoreError) (root_sha256 : Sha256Digest)
    (stores : Documents functions) :
    Except StoreError (Option (StoredIntent functions.toHealthStoreFunctions)) :=
  match failure with
  | some raised => .error raised
  | none => readRecoveryIntent configuration.target root_sha256 stores

/-- What the claim of an intent is found to be. -/
def claimedIntent (command : RecoveryCommandV2) (uncertain : Option StoreError)
    (after : Documents functions)
    (stored : Except StoreError (StoredIntent functions.toHealthStoreFunctions)) :
    Except RecoveryExecutionErrorCode (StoredIntent functions.toHealthStoreFunctions) :=
  match stored with
  | .ok stored => validateOwnedIntent functions configuration command stored
  | .error .conflict => .error .identityConflict
  | .error .outcomeUnknown =>
    match intentRead functions configuration uncertain command.expected_root_sha256 after with
    | .ok (some found) => validateOwnedIntent functions configuration command found
    | _ => .error .outcomeUnknown
  | .error (.invalid _) => .error .commandDenied
  | .error raised => .error (storeFailure raised)

/-- Claim or adopt the intent of the root of a command. -/
def ownedIntent (command : RecoveryCommandV2) (answers : ClaimAnswers functions)
    (stores : Documents functions) : Documents functions×
      Except RecoveryExecutionErrorCode (StoredIntent functions.toHealthStoreFunctions) :=
  match intentRead functions configuration answers.failure command.expected_root_sha256 stores with
  | .error raised => (stores,.error (storeFailure raised))
  | .ok (some current) => (stores,validateOwnedIntent functions configuration command current)
  | .ok none =>
    match command.source with
    | .unhealthy _ => (stores,.error .trustedStateInvalid)
    | _ =>
      match createRecoveryIntent functions command command.source.triggered_at with
      | .error _ => (stores,.error .commandDenied)
      | .ok proposed =>
        let (after,stored) := createOrAdoptRecoveryIntent configuration.target proposed
          answers.report stores
        (after,claimedIntent functions configuration command answers.uncertain after stored)

/-- A capability that was issued for an authorization. -/
structure RecoveryCapabilityIssuanceResultV2 where
  authorization : RecoveryAuthorizationV1
  root_id : Identifier
  expected_root_sha256 : Sha256Digest
  expected_epoch : PositiveSafeInteger
  request_id : Identifier
  idempotency_key : Identifier
  /-- When the task is due. -/
  scheduled_at : UtcSecond
  capability : SignedCapability
  deriving DecidableEq

/-- An issuance that repeats its command and its authorization. -/
@[mk_iff] structure IssuanceMatchesCommand (issuance : RecoveryCapabilityIssuanceResultV2)
    (command : RecoveryCommandV2) (authorization : RecoveryAuthorizationV1) : Prop where
  issued_for : issuance.authorization=authorization
  root_id : issuance.root_id=command.root_id
  root_sha256 : issuance.expected_root_sha256=command.expected_root_sha256
  epoch : issuance.expected_epoch=command.expected_epoch
  request_id : issuance.request_id=command.request_id
  idempotency_key : issuance.idempotency_key=command.idempotency_key
  scheduled_at : issuance.scheduled_at=command.scheduled_at
  source : authorization.source=command.source
  receipt : authorization.verified_apply_receipt=command.verified_apply_receipt
  project : authorization.target.project_id=configuration.target.project_id
  claims : functions.capabilityMatches authorization issuance.capability=true

instance (issuance : RecoveryCapabilityIssuanceResultV2) (command : RecoveryCommandV2)
    (authorization : RecoveryAuthorizationV1) :
    Decidable (IssuanceMatchesCommand functions configuration issuance command authorization) :=
  decidable_of_iff _
    (issuanceMatchesCommand_iff functions configuration issuance command authorization).symm

/-- Where a trigger comes from, as its task carries it. -/
def taskSource : RecoverySourceV1 → RecoverySource
  | .unhealthy _ => .unhealthy
  | .revokedV2 source => .revokedV2 source.revocation_proof.authority
  | .revokedV3 source => .revokedV3 source.revocation_proof.authority

/-- The task of an authorization and its capability. -/
def recoveryTask (task_id : Identifier) (authorization : RecoveryAuthorizationV1)
    (capability : SignedCapability) : RecoveryTaskRequestV2 where
  task_id := task_id
  capability_id := functions.recoveryCapabilityId authorization
  authorization := authorization
  recovery_authorization_sha256 := functions.recovery.contractSha256 (.authorization authorization)
  request := {
    kind := .recovery {
      expected_prestate_sha256 := authorization.expected_prestate_sha256
      desired_poststate_sha256 := authorization.desired_poststate_sha256
      proof_valid_until := authorization.proof_valid_until
      apply_idempotency_key := authorization.verified_apply_receipt.idempotency_key
      apply_epoch := authorization.verified_apply_receipt.epoch } (taskSource authorization.source)
    handler_audience := capability.audience
    scheduled_at := capability.not_before
    expires_at := capability.expires_at
    capability := capability
    others := functions.taskText authorization capability
    intent := {
      request_id := authorization.request_id
      idempotency_key := authorization.idempotency_key
      target := authorization.target
      root_id := authorization.root_id
      root_sha256 := authorization.root_sha256
      epoch := authorization.epoch
      action := .recoverStable
      stable_revision := authorization.stable_revision
      candidate_revision := authorization.candidate_revision
      stable_percent := 100
      candidate_percent := 0
      concurrency := some authorization.concurrency
      plan_sha256 := authorization.plan_sha256
      provider_etag := authorization.current_provider_etag } }

/-- What the services answer to one preparation. -/
structure PreparationAnswers where
  prepared_time : UtcSecond
  resolver : ResolverAnswers
  /-- The issued capability, or the failure that the client reports of itself. -/
  issuance : Except RecoveryExecutionErrorCode (Option RecoveryCapabilityIssuanceResultV2)
  recorded : Bool
  /-- Name of the addressed task. -/
  address : RecoveryTaskRequestV2 → UtcSecond → Option BoundedText
  /-- What the provider does with the documents of the dispatch. -/
  report : WriteReport functions.toHealthStoreFunctions

/-- Seal a task in a prepared dispatch record. -/
def sealDispatch (command : RecoveryCommandV2) (authorization : RecoveryAuthorizationV1)
    (capability : SignedCapability) (answers : PreparationAnswers functions) :
    Except Raised (RecoveryDispatchRecordV2 functions.recovery) := do
  let task_id ← identifierOf ("task-"++capability.claims_sha256.1)
  let task := recoveryTask functions task_id authorization capability
  validateTask functions.recovery task
  let task_name ← requireSome (answers.address task answers.prepared_time)
    (.valueError "recovery task cannot be addressed")
  let command_sha256 := recoveryCommandSha256 functions.recovery command
  let dispatch_id ← identifierOf (recoveryDispatchId functions.recovery command_sha256)
  let fields : RecoveryDispatchRecordFields := {
    dispatch_id := dispatch_id
    command_sha256 := command_sha256
    recovery_authorization_sha256 :=
      functions.recovery.contractSha256 (.authorization authorization)
    capability_id := functions.recoveryCapabilityId authorization
    request_id := authorization.request_id
    idempotency_key := authorization.idempotency_key
    target := authorization.target
    root_id := authorization.root_id
    root_sha256 := authorization.root_sha256
    epoch := authorization.epoch
    scheduled_at := authorization.scheduled_at
    source_receipt_sha256 := authorization.source_receipt_sha256
    trigger_proof_sha256 := authorization.trigger_proof_sha256
    prestate_attestation_sha256 := authorization.prestate_attestation_sha256
    task_sha256 := functions.recovery.contractSha256 (.task task)
    task_name := task_name
    task := task
    state := .prepared
    prepared_at := answers.prepared_time
    enqueue_started_at := none
    terminal_at := none
    result := none }
  if h : validateRecord functions.recovery fields=.ok () then return ⟨fields,h⟩
  else .error (.valueError "recovery dispatch task binding is invalid")

/-- Everything of a preparation before its documents are written. -/
def authorizeDispatch (command : RecoveryCommandV2) (answers : PreparationAnswers functions)
    (stores : Documents functions) :
    Except RecoveryExecutionErrorCode (RecoveryDispatchRecordV2 functions.recovery) := do
  let authorization ← resolve functions configuration command answers.prepared_time
    answers.resolver stores
  let issuance ← answers.issuance
  let issuance ← requireSome issuance .issuanceDenied
  require (IssuanceMatchesCommand functions configuration issuance command authorization)
    .issuanceDenied
  require (answers.recorded=true) .issuanceDenied
  (sealDispatch functions command authorization issuance.capability answers).mapError
    (fun _ => .issuanceDenied)

/-- Report of a failed preparation. -/
def prepareFailure : StoreError → RecoveryExecutionErrorCode
  | .conflict => .identityConflict
  | .corruptRecord => .trustedStateInvalid
  | .outcomeUnknown => .outcomeUnknown
  | _ => .dispatchUnavailable

/-- Prepare the dispatch of an owned command. -/
def prepare (intent : StoredIntent functions.toHealthStoreFunctions)
    (answers : PreparationAnswers functions) (stores : Documents functions) :
    Documents functions×
      Except RecoveryExecutionErrorCode (StoredDispatch functions.toHealthStoreFunctions) :=
  match authorizeDispatch functions configuration intent.value.command answers stores with
  | .error code => (stores,.error code)
  | .ok prepared =>
    let (after,stored) := prepareOrAdoptRecoveryDispatch configuration.target intent prepared
      answers.report stores
    (after,stored.mapError prepareFailure)

/-- A result that repeats its command. -/
@[mk_iff] structure ResultMatchesCommand (result : RecoveryDispatchResultV2)
    (command : RecoveryCommandV2) : Prop where
  request_id : result.request_id=command.request_id
  idempotency_key : result.idempotency_key=command.idempotency_key
  root_id : result.root_id=command.root_id
  root_sha256 : result.root_sha256=command.expected_root_sha256
  epoch : result.epoch=command.expected_epoch
  target : result.target=command.source.target
  project : result.target.project_id=configuration.target.project_id
  trigger_basis : result.trigger_basis=command.source.basis
  trigger_proof : result.trigger_proof_sha256=
    recoveryTriggerProofSha256 functions.recovery command.source
  receipt : result.verified_apply_receipt=command.verified_apply_receipt
  receipt_sha256 : result.source_receipt_sha256=command.verified_apply_receipt.receipt_sha256
  scheduled_at : result.scheduled_at=command.scheduled_at
  window : result.scheduled_at.1 < result.expires_at.1
  proof_window : result.expires_at.1 ≤ result.proof_valid_until.1

instance (result : RecoveryDispatchResultV2) (command : RecoveryCommandV2) :
    Decidable (ResultMatchesCommand functions configuration result command) :=
  decidable_of_iff _ (resultMatchesCommand_iff functions configuration result command).symm

/-- What an existing dispatch answers: nothing while it is prepared, else its result. -/
def adoptExisting (command : RecoveryCommandV2)
    (stored : StoredDispatch functions.toHealthStoreFunctions) :
    Except RecoveryExecutionErrorCode (Option RecoveryDispatchResultV2) := do
  require (stored.value.target=configuration.target ∧
      revisionMatches stored.value.fields stored.revision=true ∧
      stored.value.command_sha256=recoveryCommandSha256 functions.recovery command ∧
      stored.value.task.authorization.source=command.source)
    .trustedStateInvalid
  match stored.value.state with
  | .prepared => return none
  | .enqueueStarted => .error .outcomeUnknown
  | _ =>
    let result ← requireSome stored.value.result .trustedStateInvalid
    require (ResultMatchesCommand functions configuration result command) .trustedStateInvalid
    return some result

/-- What the queue answers to an enqueue attempt. -/
structure TaskEnqueueResult where
  task_name : BoundedText
  disposition : RecoveryDispatchState
  terminal : disposition∈[RecoveryDispatchState.created,.duplicate,.ambiguous]

/-- The result of an enqueue attempt. -/
def recoveryResult (dispatch : RecoveryDispatchRecordFields) (dispatched : TaskEnqueueResult) :
    RecoveryDispatchResultV2 where
  request_id := dispatch.task.authorization.request_id
  idempotency_key := dispatch.task.authorization.idempotency_key
  target := dispatch.task.authorization.target
  root_schema_version := dispatch.task.authorization.root_schema_version
  root_id := dispatch.task.authorization.root_id
  root_sha256 := dispatch.task.authorization.root_sha256
  epoch := dispatch.task.authorization.epoch
  stable_revision := dispatch.task.authorization.stable_revision
  stable_revision_configuration_sha256 :=
    dispatch.task.authorization.stable_revision_configuration_sha256
  candidate_revision := dispatch.task.authorization.candidate_revision
  candidate_revision_configuration_sha256 :=
    dispatch.task.authorization.candidate_revision_configuration_sha256
  concurrency := dispatch.task.authorization.concurrency
  provider_etag := dispatch.task.authorization.current_provider_etag
  verified_apply_receipt := dispatch.task.authorization.verified_apply_receipt
  source_receipt_sha256 := dispatch.task.authorization.source_receipt_sha256
  trigger_basis := dispatch.task.authorization.source.basis
  trigger_proof_sha256 := dispatch.task.authorization.trigger_proof_sha256
  prestate_attestation_sha256 := dispatch.task.authorization.prestate_attestation_sha256
  expected_prestate_sha256 := dispatch.task.authorization.expected_prestate_sha256
  desired_poststate_sha256 := dispatch.task.authorization.desired_poststate_sha256
  proof_valid_until := dispatch.task.authorization.proof_valid_until
  recovery_authorization_sha256 :=
    functions.recovery.contractSha256 (.authorization dispatch.task.authorization)
  capability_id := functions.recoveryCapabilityId dispatch.task.authorization
  capability_sha256 := functions.recovery.contractSha256 (.capability dispatch.task.request.capability)
  task_id := dispatch.task.task_id
  task_name := dispatched.task_name
  enqueue_disposition := dispatched.disposition
  scheduled_at := dispatch.task.request.scheduled_at
  expires_at := dispatch.task.request.expires_at

/-- Validate a record with other times and another outcome. -/
def revised (fields : RecoveryDispatchRecordFields) :
    Except Raised (RecoveryDispatchRecordV2 functions.recovery) :=
  if h : validateRecord functions.recovery fields=.ok () then .ok ⟨fields,h⟩
  else .error (.valueError "recovery dispatch record is invalid")

/-- What the clock, the store and the queue answer to the enqueue attempt of a dispatch. -/
structure EnqueueAnswers where
  dispatch_time : UtcSecond
  /-- Name of the addressed task. -/
  address : RecoveryTaskRequestV2 → UtcSecond → Option BoundedText
  start_report : WriteReport functions.toHealthStoreFunctions
  /-- What the queue answers. -/
  dispatched : Option TaskEnqueueResult
  terminal_time : UtcSecond
  /-- What the provider does with the outcome. -/
  terminal_report : WriteReport functions.toHealthStoreFunctions
  /-- Failure of the reads that follow a conflict or a lost answer. -/
  replay_failure : Option StoreError

/-- A read of the dispatch of a command, that may fail. -/
def dispatchRead (command : RecoveryCommandV2) (failure : Option StoreError)
    (stores : Documents functions) : Except RecoveryExecutionErrorCode
      (Option (StoredDispatch functions.toHealthStoreFunctions)) := do
  require (failure=none) (failure.elim .dispatchUnavailable prepareFailure)
  let command_sha256 := recoveryCommandSha256 functions.recovery command
  let dispatch_id ← (identifierOf (recoveryDispatchId functions.recovery command_sha256)).mapError
    (fun _ => .dispatchUnavailable)
  (readRecoveryDispatch configuration.target (commandKey dispatch_id command_sha256 command)
    stores).mapError prepareFailure

/-- Adopt what a transition that conflicts or whose answer was lost has left. -/
def replayTransition (command : RecoveryCommandV2) (failure : Option StoreError)
    (stores : Documents functions) :
    Except RecoveryExecutionErrorCode RecoveryDispatchResultV2 :=
  match dispatchRead functions configuration command failure stores with
  | .error .trustedStateInvalid => .error .trustedStateInvalid
  | .error .identityConflict => .error .identityConflict
  | .error _ => .error .outcomeUnknown
  | .ok none => .error .outcomeUnknown
  | .ok (some replay) => do
    let result ← adoptExisting functions configuration command replay
    requireSome result .outcomeUnknown

/-- The answer of the queue, which is ambiguous when it is not one for the task. -/
def settledDispatch (started : RecoveryDispatchRecordFields) (dispatched : Option TaskEnqueueResult) :
    TaskEnqueueResult :=
  match dispatched with
  | some dispatched =>
    if dispatched.task_name=started.task_name then dispatched
    else ⟨started.task_name,.ambiguous,by decide⟩
  | none => ⟨started.task_name,.ambiguous,by decide⟩

/-- Record the outcome of a started dispatch. -/
def recordOutcome (command : RecoveryCommandV2)
    (started : StoredDispatch functions.toHealthStoreFunctions) (answers : EnqueueAnswers functions)
    (stores : Documents functions) :
    Documents functions×Except RecoveryExecutionErrorCode RecoveryDispatchResultV2 :=
  let dispatched := settledDispatch started.value.fields answers.dispatched
  match revised functions {started.value.fields with
      state := dispatched.disposition,
      terminal_at := some answers.terminal_time,
      result := some (recoveryResult functions started.value.fields dispatched)} with
  | .error _ => (stores,.error .outcomeUnknown)
  | .ok terminal =>
    let (after,stored) := compareAndSetRecoveryDispatch configuration.target started terminal
      answers.terminal_report stores
    (after,match stored with
      | .ok terminal => do
        let result ← adoptExisting functions configuration command terminal
        requireSome result .trustedStateInvalid
      | .error .conflict | .error .outcomeUnknown =>
        replayTransition functions configuration command answers.replay_failure after
      | .error .corruptRecord => .error .trustedStateInvalid
      | .error _ => .error .outcomeUnknown)

/-- Start the enqueue attempt of a prepared dispatch and record its outcome. -/
def enqueue (command : RecoveryCommandV2)
    (prepared : StoredDispatch functions.toHealthStoreFunctions) (answers : EnqueueAnswers functions)
    (stores : Documents functions) :
    Documents functions×Except RecoveryExecutionErrorCode RecoveryDispatchResultV2 :=
  if answers.address prepared.value.task answers.dispatch_time=some prepared.value.task_name then
    match revised functions {prepared.value.fields with
        state := .enqueueStarted,
        enqueue_started_at := some answers.dispatch_time} with
    | .error _ => (stores,.error .trustedStateInvalid)
    | .ok started =>
      let (after,start) := beginRecoveryEnqueue configuration.target prepared started
        answers.start_report stores
      match start with
      | .ok start => recordOutcome functions configuration command start.dispatch answers after
      | .error .conflict | .error .outcomeUnknown =>
        (after,replayTransition functions configuration command answers.replay_failure after)
      | .error raised => (after,.error (storeFailure raised))
  else (stores,.error .trustedStateInvalid)

/-- What surrounds one call of the coordinator. -/
structure DispatchAnswers where
  claim : ClaimAnswers functions
  read_failure : Option StoreError
  preparation : PreparationAnswers functions
  attempt : EnqueueAnswers functions

/-- What a call does once the intent of the root owns its command. -/
def dispatchOwned (command : RecoveryCommandV2) (answers : DispatchAnswers functions)
    (intent : StoredIntent functions.toHealthStoreFunctions) (stores : Documents functions) :
    Documents functions×Except RecoveryExecutionErrorCode RecoveryDispatchResultV2 :=
  match dispatchRead functions configuration command answers.read_failure stores with
  | .error code => (stores,.error code)
  | .ok (some existing) => proceed existing stores
  | .ok none =>
    match prepare functions configuration intent answers.preparation stores with
    | (after,.error code) => (after,.error code)
    | (after,.ok prepared) => proceed prepared after
where
  /-- Adopt the result of a dispatch, or start its enqueue attempt. -/
  proceed (stored : StoredDispatch functions.toHealthStoreFunctions) (stores : Documents functions) :
      Documents functions×Except RecoveryExecutionErrorCode RecoveryDispatchResultV2 :=
    match adoptExisting functions configuration command stored with
    | .error code => (stores,.error code)
    | .ok (some result) => (stores,.ok result)
    | .ok none => enqueue functions configuration command stored answers.attempt stores

/-- Issue, seal and enqueue the single recovery attempt of a root. -/
def dispatch (command : RecoveryCommandV2) (answers : DispatchAnswers functions)
    (stores : Documents functions) :
    Documents functions×Except RecoveryExecutionErrorCode RecoveryDispatchResultV2 :=
  match ownedIntent functions configuration command answers.claim stores with
  | (after,.error code) => (after,.error code)
  | (after,.ok intent) => dispatchOwned functions configuration command answers intent after

end ControlGraph.RecoveryCoordination
