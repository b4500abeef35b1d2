import ControlGraph.ReadbackContracts
import ControlGraph.ReceiptLifecycle

/-!
# The resolver of ambiguous receipts

A call of the resolver reads the receipt that its command pins, and adopts it if it is
already resolved. Otherwise it validates the root, asks whether the pinned provider
operation has succeeded, reads the target back, validates the root again, and
sends one replacement that the store applies only over the same receipt,
authority and service claim. Whatever goes wrong with that transaction, the call
looks once more for what it would adopt. Any number of calls run while other
operations change the store; a transaction lands at any later step or never, and
a call that crashes is never resumed.
-/

namespace ControlGraph.ReadbackResolver

open Checks ContractText Utf8Text StorageIdentity ReceiptContracts ReceiptReplacement ReceiptStore
  ReceiptLifecycle ReadbackContracts TrustedRoots

open AuthorityDatabase (AuthorityFunctions)

open ExecutionGate (ReceiptReadbackResult)

open ExecutionRequests (TargetConfigurationProjection)

open ReceiptExecution (makeReceipt)

open RootContracts (RolloutRootV3)

open RootCreation (rootProjection targetConfigurationProjectionSha256)

/-- Failures of a call. -/
inductive AmbiguousReceiptReadbackErrorCode
  | receiptUnavailable | receiptMissing | receiptConflict | receiptStateDenied | rootUnavailable
  | rootBindingMismatch | authorityStale | operationUnverified | poststateUnverified
  | compareAndSetUnconfirmed
  deriving DecidableEq,Repr

/-- What a call raises. -/
inductive Failure
  | denied (code : AmbiguousReceiptReadbackErrorCode)
  /-- An error of a contract or of the clock. -/
  | raised (error : Raised)
  deriving DecidableEq

/-- Pure functions over whole contracts. -/
structure ReadbackFunctions extends AuthorityFunctions where
  /-- Canonical text of the fields of a claim that the store does not compare one by one. -/
  claimText : RootContracts.ServiceClaimRecord → String

/-- What a validated root says about a receipt. -/
structure ResolvedBoundary where
  /-- State of the target after the mutation. -/
  expected_poststate : TargetConfigurationProjection
  authority : StoredRecord EpochAuthorityRecord
  service_claim : StoredRecord ServiceClaimRecord
  deriving DecidableEq

section

variable (functions : ReadbackFunctions) (target : TargetBinding)

/-- A claim as the receipt operations of the store compare it. -/
def storeClaim (claim : RootContracts.ServiceClaimRecord) : ServiceClaimRecord where
  version := .v2
  target := claim.target
  root_id := claim.root_id
  root_sha256 := claim.root_sha256
  status := claim.status
  release_fence_epoch := claim.release_fence_epoch
  release_fence_authority_revision := claim.release_fence_authority_revision
  release_fenced_by := claim.release_fenced_by
  release_fence_request_id := claim.release_fence_request_id
  release_fence_evidence_id := claim.release_fence_evidence_id
  release_fenced_at := claim.release_fenced_at
  others := functions.claimText claim

/-- Whether a receipt is where and what a command says. -/
def receiptMatchesLocator (command : AmbiguousReceiptReadbackCommandV1)
    (receipt : ExecutionReceipt) : Prop :=
  receipt.receipt_id.1=
      (executionReceiptLogicalId functions.sha256 target command.idempotency_key).1 ∧
    receipt.target=target ∧ receipt.root_id=command.root_id ∧
    receipt.root_sha256=command.expected_root_sha256 ∧ receipt.epoch=command.expected_epoch ∧
    receipt.action=command.action.1 ∧ receipt.request_id=command.request_id ∧
    receipt.idempotency_key=command.idempotency_key ∧
    receipt.capability_sha256=command.capability_sha256

instance (command : AmbiguousReceiptReadbackCommandV1) (receipt : ExecutionReceipt) :
    Decidable (receiptMatchesLocator functions target command receipt) :=
  inferInstanceAs (Decidable (_ ∧ _))

/-- Whether a receipt may be one that a call of the command has resolved. -/
def adoptionCandidate (command : AmbiguousReceiptReadbackCommandV1)
    (stored : StoredRecord ExecutionReceipt) : Prop :=
  stored.value.outcome=.verified ∧ stored.revision=command.expected_storage_revision.1+1 ∧
    markedOnce (ambiguousReceiptResolutionEvidenceId functions.sha256 command)
      stored.value.evidence_ids

instance (command : AmbiguousReceiptReadbackCommandV1) (stored : StoredRecord ExecutionReceipt) :
    Decidable (adoptionCandidate functions command stored) :=
  inferInstanceAs (Decidable (_ ∧ _))

/-- Whether a receipt has the shape of a resolved one. -/
def adoptedShape (command : AmbiguousReceiptReadbackCommandV1)
    (stored : StoredRecord ExecutionReceipt) : Prop :=
  let receipt := stored.value
  stored.revision=command.expected_storage_revision.1+1 ∧ receipt.outcome=.verified ∧
    receipt.reason_code=none ∧ receipt.observed_etag≠none ∧ receipt.provider_operation≠none ∧
    receipt.observed_authority_epoch=some command.expected_epoch ∧
    markedOnce (ambiguousReceiptResolutionEvidenceId functions.sha256 command) receipt.evidence_ids ∧
    command.expected_ambiguous_updated_at.1 ≤ receipt.updated_at.1

instance (command : AmbiguousReceiptReadbackCommandV1) (stored : StoredRecord ExecutionReceipt) :
    Decidable (adoptedShape functions command stored) :=
  inferInstanceAs (Decidable (_ ∧ _))

/-- Whether a receipt is exactly what a call of the command has resolved. -/
def isExactAdoptedReceipt (command : AmbiguousReceiptReadbackCommandV1)
    (stored : StoredRecord ExecutionReceipt) : Bool :=
  if adoptedShape functions command stored then
    match reconstructAmbiguousReceiptPredecessor functions.sha256 command stored.value with
    | .error _ => false
    | .ok reconstructed =>
      functions.canonical_sha256 (.executionReceipt reconstructed)=command.expected_receipt_sha256
  else false

/-- Require the ambiguous receipt that a command pins. -/
def requireExactAmbiguous (command : AmbiguousReceiptReadbackCommandV1)
    (stored : StoredRecord ExecutionReceipt) : Except Failure Unit := do
  let receipt := stored.value
  require (receiptMatchesLocator functions target command receipt) (.denied .receiptConflict)
  require (stored.revision=command.expected_storage_revision.1 ∧
      functions.canonical_sha256 (.executionReceipt receipt)=command.expected_receipt_sha256)
    (.denied .receiptConflict)
  require (receipt.outcome=.ambiguous ∧ receipt.reason_code=some .providerOutcomeAmbiguous ∧
      receipt.provider_operation≠none ∧
      receipt.observed_etag=some command.expected_ambiguous_observed_etag ∧
      receipt.updated_at=command.expected_ambiguous_updated_at) (.denied .receiptStateDenied)

/-- State of the target after the mutation of a command, by the plan of a root. -/
def expectedPoststate (command : AmbiguousReceiptReadbackCommandV1) (root : RolloutRootV3) :
    TargetConfigurationProjection :=
  if command.action.1=.recoverStable then {rootProjection root 100 0 with target := target}
  else {rootProjection root 90 10 with target := target}

/-- Validate the root of a receipt. No answer is a root that is missing or cannot be read. -/
def readAndValidateBoundary (command : AmbiguousReceiptReadbackCommandV1)
    (stored : StoredRecord ExecutionReceipt) (answer : Option InspectedRecords) :
    Except Failure ResolvedBoundary := do
  let receipt := stored.value
  require (receiptMatchesLocator functions target command receipt) (.denied .receiptConflict)
  let bundle ← requireSome answer (.denied .rootUnavailable)
  require (inspectRootAuthorityBundle functions.toAuthorityFunctions target bundle=true)
    (.denied .rootBindingMismatch)
  let root := bundle.root.value
  match bundle.service_claim.value with
  | .third _ => .error (.denied .authorityStale)
  | .first claim =>
    let expected ← (expectedPoststate target command root).make.mapError .raised
    require (root.root_id=command.root_id ∧ root.root_sha256=command.expected_root_sha256 ∧
        receipt.root_id=root.root_id ∧ receipt.root_sha256=root.root_sha256 ∧
        receipt.target=root.content.target ∧ receipt.action=command.action.1 ∧
        receipt.plan_sha256=functions.canonical_sha256 (.rolloutPlan root.content.rollout_plan) ∧
        (command.action.1=.applyCanary →
          receipt.provider_etag=root.content.stable_snapshot.provider_etag) ∧
        receipt.expected_poststate_sha256=
          targetConfigurationProjectionSha256 functions.toAuthorityFunctions expected)
      (.denied .rootBindingMismatch)
    require (claim.status=.active ∧ bundle.authority.value.current_epoch=command.expected_epoch ∧
        receipt.epoch=bundle.authority.value.current_epoch ∧
        receipt.observed_authority_epoch=some bundle.authority.value.current_epoch)
      (.denied .authorityStale)
    return ⟨expected,bundle.authority,storeClaim functions claim,bundle.service_claim.revision,
      bundle.service_claim.revision_bound⟩

/-- Fields that a resolution changes. -/
def isExactResolutionReplacement (before after : ExecutionReceipt) (marker : Identifier)
    (observed_etag : OpaqueToken) : Prop :=
  after.fields={before.fields with
      outcome := after.outcome
      reason_code := after.reason_code
      observed_etag := after.observed_etag
      updated_at := after.updated_at
      evidence_ids := after.evidence_ids} ∧
    after.outcome=.verified ∧ after.reason_code=none ∧ after.observed_etag=some observed_etag ∧
    before.updated_at.1 ≤ after.updated_at.1 ∧ after.evidence_ids=before.evidence_ids++[marker]

instance (before after : ExecutionReceipt) (marker : Identifier) (observed_etag : OpaqueToken) :
    Decidable (isExactResolutionReplacement before after marker observed_etag) :=
  inferInstanceAs (Decidable (_ ∧ _))

/-- The replacement of a receipt, at the time of the clock. -/
def resolutionReplacement (command : AmbiguousReceiptReadbackCommandV1) (receipt : ExecutionReceipt)
    (observed_etag : OpaqueToken) (clock : Option UtcSecond) : Except Failure ExecutionReceipt := do
  let marker := ambiguousReceiptResolutionEvidenceId functions.sha256 command
  require (marker∉receipt.evidence_ids ∧ receipt.evidence_ids.length<64) (.denied .receiptConflict)
  let now ← requireSome clock (.raised (.valueError "readback-only resolver clock is invalid"))
  require (receipt.updated_at.1 ≤ now.1) (.denied .receiptConflict)
  let replacement ← (makeReceipt {receipt.fields with
    outcome := .verified
    reason_code := none
    observed_etag := some observed_etag
    updated_at := now
    evidence_ids := receipt.evidence_ids++[marker] }).mapError .raised
  require (isExactResolutionReplacement receipt replacement marker observed_etag)
    (.denied .receiptConflict)
  return replacement

end

/-- How a call ends. -/
inductive Outcome
  | returned (result : AmbiguousReceiptReadbackResultV1)
  | failed (failure : Failure)
  deriving DecidableEq

/-- Where a call is. -/
inductive Stage
  | reading
  | bounding
  /-- It asks about the provider operation. -/
  | confirming (boundary : ResolvedBoundary)
  /-- It reads the target back. -/
  | observing (boundary : ResolvedBoundary) (operation_name : BoundedText)
  /-- It reads the root again. -/
  | refreshing (boundary : ResolvedBoundary) (operation_name : BoundedText)
      (observed_etag : OpaqueToken)
  | submitting (boundary : ResolvedBoundary) (operation_name : BoundedText)
      (observed_etag : OpaqueToken)
  | committing
  /-- It reads what became of the transaction. -/
  | uncertain
  | ended (outcome : Outcome)

/-- A transaction that a call has sent. -/
structure Pending where
  prepared : PreparedReceipt
  expected_authority : StoredRecord EpochAuthorityRecord
  expected_service_claim : StoredRecord ServiceClaimRecord

/-- One call. -/
structure Call where
  command : AmbiguousReceiptReadbackCommandV1
  stage : Stage
  /-- The receipt that was read and is ambiguous. -/
  stored : Option (StoredRecord ExecutionReceipt)
  pending : Option Pending
  landed : Bool

/-- What a call is told about its transaction. -/
inductive Answer
  | confirmed
  /-- The answer is lost, and the document is read, or the read fails. -/
  | readBack (served : Bool)
  /-- Any other failure. -/
  | refused

/-- What one call does next. -/
inductive CallAction
  | readReceipt (served : Bool)
  | readRoot (answer : Option InspectedRecords)
  /-- It asks whether an operation has succeeded; the reader may raise. -/
  | confirmOperation (terminal_success : BoundedText → Option Bool)
  | readTarget (readback : TargetConfigurationProjection → Option ReceiptReadbackResult)
  /-- It builds its replacement, at the time of its clock, and sends it. -/
  | submit (clock : Option UtcSecond) (mutation_id : Identifier)
  /-- It is told about its transaction. -/
  | report (answer : Answer)
  | readAgain (served : Bool)

section

variable (functions : ReadbackFunctions) (target : TargetBinding)

/-- The end of a call with a receipt. -/
def finish (command : AmbiguousReceiptReadbackCommandV1)
    (disposition : AmbiguousReceiptReadbackDisposition) (stored : StoredRecord ExecutionReceipt) :
    Stage :=
  match ambiguousReceiptReadbackResult functions.toAuthorityFunctions disposition command stored with
  | .ok result => .ended (.returned result)
  | .error error => .ended (.failed (.raised error))

/-- What a call does with the receipt that it has read first. -/
def Call.locate (call : Call) (stored : StoredRecord ExecutionReceipt) : Call :=
  if adoptionCandidate functions call.command stored then
    if isExactAdoptedReceipt functions call.command stored=true then
      {call with stage := finish functions call.command .adopted stored}
    else {call with stage := .ended (.failed (.denied .receiptStateDenied))}
  else
    match requireExactAmbiguous functions target call.command stored with
    | .error failure => {call with stage := .ended (.failed failure)}
    | .ok () => {call with stage := .bounding,stored := some stored}

/-- What a call does with the receipt that it reads after its transaction. -/
def Call.settle (call : Call) (read : Except StoreError (Option (StoredRecord ExecutionReceipt))) :
    Call :=
  match read with
  | .ok (some stored) =>
    if isExactAdoptedReceipt functions call.command stored=true then
      {call with stage := finish functions call.command .adopted stored}
    else {call with stage := .ended (.failed (.denied .compareAndSetUnconfirmed))}
  | _ => {call with stage := .ended (.failed (.denied .compareAndSetUnconfirmed))}

/-- What a call does with its replacement. -/
def Call.send (call : Call) (stored : StoredRecord ExecutionReceipt) (boundary : ResolvedBoundary)
    (observed_etag : OpaqueToken) (clock : Option UtcSecond) (mutation_id : Identifier) : Call :=
  match resolutionReplacement functions call.command stored.value observed_etag clock with
  | .error failure => {call with stage := .ended (.failed failure)}
  | .ok replacement =>
    match prepareResolution functions.sha256 target stored replacement boundary.authority
        boundary.service_claim mutation_id with
    | .error _ => {call with stage := .uncertain}
    | .ok prepared => {call with
        stage := .committing
        pending := some ⟨prepared,boundary.authority,boundary.service_claim⟩ }

/-- What a call does with the answer about its transaction. -/
def Call.informed (call : Call) (pending : Pending) (database : Database) (answer : Answer) : Call :=
  match answer with
  | .confirmed =>
    if call.landed=true then
      {call with stage := finish functions call.command .resolved pending.prepared.document.stored}
    else call
  | .readBack served =>
    match resolveAmbiguous pending.prepared (if served=true then some database else none) with
    | .ok _ =>
      {call with stage := finish functions call.command .resolved pending.prepared.document.stored}
    | .error _ => {call with stage := .uncertain}
  | .refused => {call with stage := .uncertain}

/-- A call after its next action, which does nothing where it does not fit. -/
def Call.next (call : Call) (database : Database) (action : CallAction) : Call :=
  match call.stage,call.stored,call.pending,action with
  | .reading,_,_,.readReceipt served =>
    if served=true then
      match database.readReceipt functions.sha256 target call.command.idempotency_key with
      | .error _ => {call with stage := .ended (.failed (.denied .receiptUnavailable))}
      | .ok none => {call with stage := .ended (.failed (.denied .receiptMissing))}
      | .ok (some stored) => call.locate functions target stored
    else {call with stage := .ended (.failed (.denied .receiptUnavailable))}
  | .bounding,some stored,_,.readRoot answer =>
    match readAndValidateBoundary functions target call.command stored answer with
    | .error failure => {call with stage := .ended (.failed failure)}
    | .ok boundary => {call with stage := .confirming boundary}
  | .confirming boundary,some stored,_,.confirmOperation terminal_success =>
    match stored.value.provider_operation with
    | none => {call with stage := .ended (.failed (.denied .operationUnverified))}
    | some operation_name =>
      if terminal_success operation_name=some true then
        {call with stage := .observing boundary operation_name}
      else {call with stage := .ended (.failed (.denied .operationUnverified))}
  | .observing boundary operation_name,some _,_,.readTarget readback =>
    match readback boundary.expected_poststate with
    | some ⟨some state,some observed_etag⟩ =>
      if state=boundary.expected_poststate then
        {call with stage := .refreshing boundary operation_name observed_etag}
      else {call with stage := .ended (.failed (.denied .poststateUnverified))}
    | _ => {call with stage := .ended (.failed (.denied .poststateUnverified))}
  | .refreshing boundary operation_name observed_etag,some stored,_,.readRoot answer =>
    match readAndValidateBoundary functions target call.command stored answer with
    | .error failure => {call with stage := .ended (.failed failure)}
    | .ok refreshed =>
      if refreshed.expected_poststate=boundary.expected_poststate then
        {call with stage := .submitting refreshed operation_name observed_etag}
      else {call with stage := .ended (.failed (.denied .rootBindingMismatch))}
  | .submitting boundary _ observed_etag,some stored,none,.submit clock mutation_id =>
    call.send functions target stored boundary observed_etag clock mutation_id
  | .committing,_,some pending,.report answer => call.informed functions pending database answer
  | .uncertain,_,_,.readAgain served =>
    call.settle functions (if served=true then
      database.readReceipt functions.sha256 target call.command.idempotency_key
      else .error .unavailable)
  | _,_,_,_ => call

end

/-- An operation of the store that is no resolution. -/
def isOrdinary : StoreAction → Prop
  | .resolveAmbiguous _ _ _ _ _ _ _ => False
  | _ => True

/-- One atomic step. -/
inductive Action
  /-- Another operation of the store. -/
  | environment (action : {action : StoreAction // isOrdinary action})
  | start (index : Nat) (command : AmbiguousReceiptReadbackCommandV1)
  | call (index : Nat) (action : CallAction)
  /-- The transaction of a call is applied. -/
  | land (index : Nat)

/-- The store and the calls. -/
structure System where
  database : Database
  calls : Nat → Option Call

section

variable (functions : ReadbackFunctions) (target : TargetBinding)

/-- What the transaction of a call does where it is applied. -/
def Call.effect (call : Call) (database : Database) : Option Database :=
  match call.stored,call.pending,call.landed with
  | some stored,some pending,false =>
    match updateResolvedReceipt functions.sha256 target pending.prepared stored
        pending.expected_authority pending.expected_service_claim database with
    | .ok after => some after
    | .error _ => none
  | _,_,_ => none

/-- A call before anything is read. -/
def Call.fresh (command : AmbiguousReceiptReadbackCommandV1) : Call :=
  ⟨command,.reading,none,none,false⟩

def step (system : System) : Action → System
  | .environment action =>
    {system with database := ReceiptLifecycle.step functions.sha256 system.database action.1}
  | .start index command =>
    match system.calls index with
    | some _ => system
    | none => {system with calls := Function.update system.calls index (some (.fresh command))}
  | .call index action =>
    match system.calls index with
    | none => system
    | some call => {system with
        calls := Function.update system.calls index
          (some (call.next functions target system.database action)) }
  | .land index =>
    match system.calls index with
    | none => system
    | some call =>
      match call.effect functions target system.database with
      | none => system
      | some after => {
          database := after
          calls := Function.update system.calls index (some {call with landed := true}) }

/-- A store without calls. -/
def initial (database : Database) : System := ⟨database,fun _ => none⟩

/-- The system after some steps. -/
def after (database : Database) (actions : List Action) : System :=
  LabelledRuns.run (step functions target) (initial database) actions

end

end ControlGraph.ReadbackResolver
