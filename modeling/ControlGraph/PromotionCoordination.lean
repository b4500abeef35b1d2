import ControlGraph.PromotionDispatchLifecycle
import ControlGraph.TaskAddressing

/-!
# Coordination of one promotion

A call reads the dispatch of its command. Without one it resolves the
authorization, asks for a capability, seals the task and stores a prepared
dispatch. It starts the enqueue attempt of a prepared dispatch, submits the task
under the permit of the start and records the outcome. Every await is a stage of
the call, a call that is never resumed has crashed, and any number of calls for
one command go through their stages in any order. What the services, the clock,
the provider and the queue answer is given with each step.
-/

namespace ControlGraph.PromotionCoordination

open Checks ContractText CapabilityContracts PromotionContracts PromotionDispatchStore TaskAddressing

open ReceiptContracts (TargetBinding StoredRecord)

open ReceiptStore (StoreError Commit TransactionCommitDisposition)

open HealthDecisions (identifierText)

/-- Failures of the coordinator. -/
inductive CanaryExecutionErrorCode
  | configurationInvalid | callerDenied | operatorDenied | commandDenied | issuanceDenied
  | transportUnavailable | responseInvalid | dispatchUnavailable | identityConflict
  | trustedStateInvalid | outcomeUnknown
  deriving DecidableEq,Repr

/-- What a deployment of the coordinator is bound to. -/
structure Configuration where
  target : TargetBinding
  settings : TaskDeliverySettings

variable (functions : PromotionFunctions) (configuration : Configuration)
  (command : PromotionCommandV2)

/-- A capability and an authorization that answer a command. -/
@[mk_iff] structure CapabilityMatchesCommand (capability : SignedCapability)
    (authorization : PromotionAuthorizationV1) (project_id : ProjectId) : Prop where
  project : capability.claims.target.project_id=project_id
  root_id : authorization.root_id=command.root_id
  root_sha256 : authorization.root_sha256=command.expected_root_sha256
  epoch : authorization.epoch=command.expected_epoch
  request_id : authorization.request_id=command.request_id
  idempotency_key : authorization.idempotency_key=command.idempotency_key
  scheduled_at : authorization.scheduled_at=command.scheduled_at
  receipt : authorization.verified_apply_receipt=command.verified_apply_receipt
  chain : authorization.health_chain_locator=command.health_chain_locator
  capability_id : capability.claims.capability_id.1=promotionCapabilityId functions authorization
  issuer : capability.claims.issuer=authorization.issuer_identity
  subject : capability.claims.subject=authorization.executor_identity
  audience : capability.claims.audience=authorization.executor_audience
  key : capability.claims.signing_key_version=authorization.capability_signing_key_version
  target : capability.claims.target=authorization.target
  claimed_root_id : capability.claims.root_id=authorization.root_id
  claimed_root_sha256 : capability.claims.root_sha256=authorization.root_sha256
  claimed_epoch : capability.claims.epoch=authorization.epoch
  claimed_request : capability.claims.request_id=authorization.request_id
  claimed_key : capability.claims.idempotency_key=authorization.idempotency_key
  not_before : capability.claims.not_before=authorization.scheduled_at
  proved : authorization.healthy_promotion_proof.issued_at.1 ≤ capability.claims.issued_at.1
  issued : capability.claims.issued_at.1 ≤ capability.claims.not_before.1
  window : capability.claims.not_before.1<capability.claims.expires_at.1
  proof_window : capability.claims.expires_at.1 ≤ authorization.proof_valid_until.1
  action : capability.claims.action=.promoteCandidate
  concurrency : capability.claims.concurrency=none
  stable : capability.claims.stable_revision=authorization.stable_revision
  candidate : capability.claims.candidate_revision=authorization.candidate_revision
  traffic : capability.claims.stable_percent=0 ∧ capability.claims.candidate_percent=100
  plan_sha256 : capability.claims.plan_sha256=authorization.plan_sha256
  provider_etag : capability.claims.provider_etag=authorization.provider_etag
  parent : capability.claims.parent_capability_sha256=none

instance (capability : SignedCapability) (authorization : PromotionAuthorizationV1)
    (project_id : ProjectId) :
    Decidable (CapabilityMatchesCommand functions command capability authorization project_id) :=
  decidable_of_iff _
    (capabilityMatchesCommand_iff functions command capability authorization project_id).symm

/-- A result that answers a command. -/
@[mk_iff] structure ResultMatchesCommand (result : PromotionDispatchResultV2)
    (project_id : ProjectId) : Prop where
  request_id : result.request_id=command.request_id
  idempotency_key : result.idempotency_key=command.idempotency_key
  root_id : result.root_id=command.root_id
  root_sha256 : result.root_sha256=command.expected_root_sha256
  epoch : result.epoch=command.expected_epoch
  scheduled_at : result.scheduled_at=command.scheduled_at
  project : result.target.project_id=project_id
  receipt : result.verified_apply_receipt=command.verified_apply_receipt
  receipt_sha256 : result.source_receipt_sha256=command.verified_apply_receipt.receipt_sha256
  chain_sha256 : result.health_chain_sha256=command.health_chain_locator.health_chain_sha256
  chain : result.health_chain_locator=command.health_chain_locator
  window : result.scheduled_at.1 < result.expires_at.1
  proof_window : result.expires_at.1 ≤ result.proof_valid_until.1

instance (result : PromotionDispatchResultV2) (project_id : ProjectId) :
    Decidable (ResultMatchesCommand command result project_id) :=
  decidable_of_iff _ (resultMatchesCommand_iff command result project_id).symm

/-- What the seal reads of a promotion task. -/
def promotionRequest (task : PromotionTaskRequestV2) : AddressableTaskRequest where
  action := .promoteCandidate
  target := task.intent.target
  handler_audience := task.handler_audience
  scheduled_at := task.scheduled_at
  expires_at := task.expires_at
  sha256 := functions.task_sha256 task

/-- What the services answer to a call that prepares a dispatch. -/
structure PreparationAnswers where
  now : UtcSecond
  authorization : Except CanaryExecutionErrorCode PromotionAuthorizationV1
  capability : Except CanaryExecutionErrorCode SignedCapability
  /-- Whether the signature is verified and its record is written. -/
  verification : Except CanaryExecutionErrorCode Unit

/-- The mutation of an authorization. -/
def intentOf (authorization : PromotionAuthorizationV1) (capability_id : Identifier) :
    PromotionMutationIntentV2 where
  request_id := authorization.request_id
  idempotency_key := authorization.idempotency_key
  target := authorization.target
  root_id := authorization.root_id
  root_sha256 := authorization.root_sha256
  epoch := authorization.epoch
  stable_revision := authorization.stable_revision
  candidate_revision := authorization.candidate_revision
  plan_sha256 := authorization.plan_sha256
  provider_etag := authorization.provider_etag
  capability_id := capability_id
  promotion_authorization_sha256 := functions.authorization_sha256 authorization
  expected_prestate_sha256 := authorization.expected_prestate_sha256
  terminal_health_decision_sha256 := authorization.terminal_health_decision_sha256
  health_chain_sha256 := authorization.health_chain_locator.health_chain_sha256
  desired_poststate_sha256 := authorization.desired_poststate_sha256
  proof_valid_until := authorization.proof_valid_until
  authorization := authorization

/-- The task of a capability and its mutation. -/
def taskOf (capability : SignedCapability) (task_id : Identifier)
    (intent : PromotionMutationIntentV2) : PromotionTaskRequestV2 where
  task_id := task_id
  handler_audience := capability.claims.audience
  scheduled_at := capability.claims.not_before
  expires_at := capability.claims.expires_at
  capability := capability
  intent := intent

/-- Fields of the prepared dispatch of a task. -/
def preparedFields (authorization : PromotionAuthorizationV1) (capability_id : Identifier)
    (task : PromotionTaskRequestV2) (task_name : BoundedText) (prepared_at : UtcSecond) :
    PromotionDispatchRecordFields where
  dispatch_id := commandDispatchId functions command
  command_sha256 := functions.command_sha256 command
  promotion_authorization_sha256 := functions.authorization_sha256 authorization
  capability_id := capability_id
  request_id := authorization.request_id
  idempotency_key := authorization.idempotency_key
  target := authorization.target
  root_id := authorization.root_id
  root_sha256 := authorization.root_sha256
  epoch := authorization.epoch
  scheduled_at := authorization.scheduled_at
  source_receipt_sha256 := authorization.source_receipt_sha256
  health_chain_sha256 := authorization.health_chain_locator.health_chain_sha256
  task_sha256 := functions.task_sha256 task
  task_name := task_name
  task := task
  state := .prepared
  prepared_at := prepared_at
  enqueue_started_at := none
  terminal_at := none
  result := none

def boundedText (text : String) : Except Raised BoundedText :=
  if h : 1 ≤ text.length ∧ text.length≤2048 then .ok ⟨text,h⟩ else .error .validationError

/-- Build the dispatch of a capability that answers the command. -/
def buildRecord (now : UtcSecond) (authorization : PromotionAuthorizationV1)
    (capability : SignedCapability) : Except Raised (PromotionDispatchRecordV2 functions) := do
  let capability_id ← identifierText (promotionCapabilityId functions authorization)
  let task_id ← identifierText ("task-"++capability.claims_sha256.1)
  let task := taskOf capability task_id (intentOf functions authorization capability_id)
  validateTask functions task
  let addressed ← sealTask configuration.settings (promotionRequest functions task) now
  let task_name ← boundedText addressed.name
  makeRecord functions (preparedFields functions command authorization capability_id task task_name now)

/-- The dispatch that a call prepares. -/
def preparedRecord (answers : PreparationAnswers) :
    Except CanaryExecutionErrorCode (PromotionDispatchRecordV2 functions) := do
  let authorization ← answers.authorization
  let capability ← answers.capability
  require (CapabilityMatchesCommand functions command capability authorization
      configuration.target.project_id ∧ capability.claims.target=configuration.target)
    .issuanceDenied
  answers.verification
  (buildRecord functions configuration command answers.now authorization capability).mapError
    (fun _ => .issuanceDenied)

/-- What a failed read is reported as. -/
def readFailure : StoreError → CanaryExecutionErrorCode
  | .conflict => .identityConflict
  | .corruptRecord => .trustedStateInvalid
  | .outcomeUnknown => .outcomeUnknown
  | .unavailable | .invalid _ => .dispatchUnavailable

/-- What a failed record of an outcome is reported as, when no other read follows. -/
def recordFailure : StoreError → CanaryExecutionErrorCode
  | .corruptRecord => .trustedStateInvalid
  | _ => .outcomeUnknown

variable {functions}

/-- What a stored dispatch means for a call: its result, or nothing when it may be started. -/
def adoptExisting (stored : StoredDispatch functions) :
    Except CanaryExecutionErrorCode (Option PromotionDispatchResultV2) := do
  require (stored.value.target=configuration.target ∧
      stored.revision=expectedRevision stored.value.state ∧
      stored.value.command_sha256=functions.command_sha256 command) .trustedStateInvalid
  match stored.value.state with
  | .prepared => return none
  | .enqueueStarted => .error .outcomeUnknown
  | .created | .duplicate | .ambiguous => do
    let result ← requireSome stored.value.result .trustedStateInvalid
    require (ResultMatchesCommand command result configuration.target.project_id)
      .trustedStateInvalid
    return some result

/-- Where a call stands. -/
inductive Stage (functions : PromotionFunctions)
  | idle
  | reading
  /-- The call has found no dispatch. -/
  | preparing
  /-- The call holds a prepared dispatch. -/
  | ready (prepared : StoredDispatch functions)
  /-- The call holds the permit of a start, and the task that it has sealed. -/
  | started (start : DirectPromotionEnqueueStartV2 functions) (addressed : AddressedTask)
      (dispatch_time : UtcSecond)
  | answered (answer : Except CanaryExecutionErrorCode PromotionDispatchResultV2)

/-- Where a call stands after it has found a dispatch. -/
def adopted (stored : StoredDispatch functions) : Stage functions :=
  match adoptExisting configuration command stored with
  | .error code => .answered (.error code)
  | .ok (some result) => .answered (.ok result)
  | .ok none => .ready stored

/-- Read the dispatch of a call. -/
def readStage (observed : Option (Stores functions)) : Stage functions :=
  match observed with
  | none => .answered (.error .dispatchUnavailable)
  | some stores =>
    match readPromotionDispatchV2 configuration.target command stores with
    | .error raised => .answered (.error (readFailure raised))
    | .ok none => .preparing
    | .ok (some existing) => adopted configuration command existing

/-- Prepare the dispatch of a call. -/
def prepareStage (answers : PreparationAnswers) (mutation_ids : MutationIds)
    (report : ProviderReport functions) (stores : Stores functions) :
    Stores functions×Stage functions :=
  match preparedRecord functions configuration command answers with
  | .error code => (stores,.answered (.error code))
  | .ok prepared =>
    let (after,result) := prepareOrAdoptPromotionDispatchV2 configuration.target command prepared
      mutation_ids report stores
    (after,match result with
      | .ok stored => adopted configuration command stored
      | .error raised => .answered (.error (readFailure raised)))

/-- What a call answers after a write that did not win or whose answer is open. -/
def rereadAnswer (observed : Option (Stores functions)) :
    Except CanaryExecutionErrorCode PromotionDispatchResultV2 :=
  match observed with
  | none => .error .outcomeUnknown
  | some stores =>
    match readPromotionDispatchV2 configuration.target command stores with
    | .error .conflict => .error .identityConflict
    | .error .corruptRecord => .error .trustedStateInvalid
    | .error _ => .error .outcomeUnknown
    | .ok none => .error .trustedStateInvalid
    | .ok (some raced) =>
      match adoptExisting configuration command raced with
      | .error code => .error code
      | .ok (some result) => .ok result
      | .ok none => .error .outcomeUnknown

/-- Fields of a dispatch whose attempt is started. -/
def startedFields (prepared : PromotionDispatchRecordFields) (dispatch_time : UtcSecond) :
    PromotionDispatchRecordFields :=
  {prepared with state := .enqueueStarted,enqueue_started_at := some dispatch_time}

/-- Seal the task of a prepared dispatch and build the started one. -/
def startRecord (prepared : StoredDispatch functions) (dispatch_time : UtcSecond) :
    Except Raised (AddressedTask×PromotionDispatchRecordV2 functions) := do
  let addressed ← sealTask configuration.settings (promotionRequest functions prepared.value.task)
    dispatch_time
  require (addressed.name=prepared.value.task_name.1)
    (.valueError "prepared promotion task address changed")
  let started ← makeRecord functions (startedFields prepared.value.fields dispatch_time)
  return (addressed,started)

/-- Start the enqueue attempt of a call. -/
def startStage (prepared : StoredDispatch functions) (dispatch_time : UtcSecond)
    (mutation_ids : MutationIds) (report : ProviderReport functions) (stores : Stores functions) :
    Stores functions×Stage functions :=
  match startRecord configuration prepared dispatch_time with
  | .error _ => (stores,.answered (.error .trustedStateInvalid))
  | .ok (addressed,started) =>
    let (after,result) := beginPromotionEnqueueV2 configuration.target prepared started
      mutation_ids report stores
    (after,match result with
      | .ok start => .started start addressed dispatch_time
      | .error .conflict | .error .outcomeUnknown =>
        .answered (rereadAnswer configuration command report.reread)
      | .error .corruptRecord => .answered (.error .trustedStateInvalid)
      | .error _ => .answered (.error .dispatchUnavailable))

/-- Submit a sealed task under its permit. Nothing is returned when a check or the queue
raises. -/
def dispatchPreparedV2 (settings : TaskDeliverySettings) (addressed : AddressedTask)
    (permit : PromotionEnqueuePermitV2) (dispatch_time : UtcSecond)
    (enqueued : Option TaskEnqueueResult) : Option TaskEnqueueResult :=
  match validateSeal settings addressed dispatch_time with
  | .error _ => none
  | .ok _ =>
    if addressed.request.action=.promoteCandidate ∧ permit.revision=1 ∧
      permit.task_name.1=addressed.name ∧ permit.task_sha256=addressed.request.sha256
    then enqueued else none

/-- State of a dispatch after an outcome of its attempt. -/
def stateOf : TaskEnqueueDisposition → PromotionDispatchState
  | .created => .created
  | .duplicate => .duplicate
  | .ambiguous => .ambiguous

/-- The outcome that is recorded. An answer for another task counts as none. -/
def dispositionOf (task_name : BoundedText) (dispatched : Option TaskEnqueueResult) :
    TaskEnqueueDisposition :=
  match dispatched with
  | none => .ambiguous
  | some result => if result.task_name=task_name.1 then result.disposition else .ambiguous

/-- Result of a started dispatch with an outcome. -/
def dispatchResult (record : PromotionDispatchRecordV2 functions)
    (disposition : TaskEnqueueDisposition) : PromotionDispatchResultV2 :=
  let task := record.task
  let claims := task.capability.claims
  let authorization := task.intent.authorization
  { request_id := claims.request_id
    idempotency_key := claims.idempotency_key
    target := claims.target
    root_id := claims.root_id
    root_sha256 := claims.root_sha256
    epoch := claims.epoch
    stable_revision := claims.stable_revision
    candidate_revision := claims.candidate_revision
    provider_etag := claims.provider_etag
    verified_apply_receipt := authorization.verified_apply_receipt
    source_receipt_sha256 := authorization.source_receipt_sha256
    expected_prestate_sha256 := authorization.expected_prestate_sha256
    terminal_health_decision_sha256 := authorization.terminal_health_decision_sha256
    health_chain_sha256 := authorization.health_chain_locator.health_chain_sha256
    health_chain_locator := authorization.health_chain_locator
    healthy_promotion_proof_sha256 := authorization.healthy_promotion_proof_sha256
    desired_poststate_sha256 := authorization.desired_poststate_sha256
    proof_valid_until := authorization.proof_valid_until
    promotion_authorization_sha256 := functions.authorization_sha256 authorization
    capability_id := claims.capability_id
    capability_sha256 := functions.capability_sha256 task.capability
    task_id := task.task_id
    task_name := record.task_name
    enqueue_disposition := stateOf disposition
    scheduled_at := task.scheduled_at
    expires_at := task.expires_at }

/-- Fields of a dispatch whose attempt has an outcome. -/
def terminalFields (started : PromotionDispatchRecordV2 functions)
    (disposition : TaskEnqueueDisposition) : PromotionDispatchRecordFields :=
  {started.fields with
    state := stateOf disposition,
    terminal_at := started.enqueue_started_at,
    result := some (dispatchResult started disposition)}

/-- Submit the task of a call and record the outcome. -/
def finishStage (start : DirectPromotionEnqueueStartV2 functions) (addressed : AddressedTask)
    (dispatch_time : UtcSecond) (enqueued : Option TaskEnqueueResult) (mutation_ids : MutationIds)
    (report : ProviderReport functions) (stores : Stores functions) :
    Stores functions×Stage functions :=
  let started := start.dispatch
  let disposition := dispositionOf started.value.task_name
    (dispatchPreparedV2 configuration.settings addressed start.permit dispatch_time enqueued)
  match makeRecord functions (terminalFields started.value disposition) with
  | .error _ => (stores,.answered (.error .outcomeUnknown))
  | .ok terminal =>
    let (after,result) := compareAndSetPromotionDispatchV2 configuration.target started terminal
      mutation_ids report stores
    (after,.answered (match result with
      | .ok stored =>
        match adoptExisting configuration command stored with
        | .error code => .error code
        | .ok (some replay) => .ok replay
        | .ok none => .error .trustedStateInvalid
      | .error .conflict | .error .outcomeUnknown =>
        rereadAnswer configuration command report.reread
      | .error raised => .error (recordFailure raised)))

/-- The stored documents and the calls. -/
structure System (functions : PromotionFunctions) where
  stores : Stores functions
  workers : Nat → Stage functions

/-- One step of one call, with what its surroundings answer. -/
inductive Action (functions : PromotionFunctions)
  /-- A worker receives the command. -/
  | call (worker : Nat)
  | read (worker : Nat) (succeeds : Bool)
  | prepare (worker : Nat) (answers : PreparationAnswers) (mutation_ids : MutationIds)
      (report : ProviderReport functions)
  | start (worker : Nat) (dispatch_time : UtcSecond) (mutation_ids : MutationIds)
      (report : ProviderReport functions)
  /-- The submission and the record of its outcome. -/
  | finish (worker : Nat) (enqueued : Option TaskEnqueueResult) (mutation_ids : MutationIds)
      (report : ProviderReport functions)

def System.moved (system : System functions) (worker : Nat) (moved : Stores functions×Stage functions) :
    System functions :=
  ⟨moved.1,Function.update system.workers worker moved.2⟩

/-- The system after one step. A step that its worker is not ready for does nothing. -/
def step (system : System functions) : Action functions → System functions
  | .call worker =>
    match system.workers worker with
    | .idle | .answered _ => system.moved worker (system.stores,.reading)
    | _ => system
  | .read worker succeeds =>
    match system.workers worker with
    | .reading =>
      system.moved worker (system.stores,readStage configuration command
        (if succeeds then some system.stores else none))
    | _ => system
  | .prepare worker answers mutation_ids report =>
    match system.workers worker with
    | .preparing =>
      system.moved worker
        (prepareStage configuration command answers mutation_ids report system.stores)
    | _ => system
  | .start worker dispatch_time mutation_ids report =>
    match system.workers worker with
    | .ready prepared =>
      system.moved worker
        (startStage configuration command prepared dispatch_time mutation_ids report system.stores)
    | _ => system
  | .finish worker enqueued mutation_ids report =>
    match system.workers worker with
    | .started start addressed dispatch_time =>
      system.moved worker (finishStage configuration command start addressed dispatch_time
        enqueued mutation_ids report system.stores)
    | _ => system

/-- Documents without a call. -/
def initial (stores : Stores functions) : System functions := ⟨stores,fun _ => .idle⟩

end ControlGraph.PromotionCoordination
