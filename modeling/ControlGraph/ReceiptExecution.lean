import ControlGraph.ExecutionGate
import ControlGraph.ReceiptResolution

/-!
# The receipt execution coordinator

One delivery claims its idempotency key, or adopts the receipt that owns it.
Only the holder of a direct create passes the final gate. Every other delivery
waits for the holder until the orphan grace has passed, and then classifies
the receipt by reading the target back. Results are persisted by replacing
the expected receipt, or by accepting what another writer stored.
-/

namespace ControlGraph.ReceiptExecution

open Checks ContractText Utf8Text StorageIdentity ReceiptContracts ReceiptStore ReceiptResolution
  ExecutionRequests ExecutionGate WaitingPrograms

/-- Seconds after which a claim counts as orphaned. -/
def receiptOrphanGraceSeconds : Int := 60

/-- Seconds that a new claim needs before its task ends. -/
def receiptNewClaimRecoveryWindowSeconds : Int := receiptOrphanGraceSeconds+10

/-- Responses of a delivery. -/
inductive ReceiptExecutionResponse
  /-- A stored receipt and why it is not final or not successful. -/
  | stored (receipt : StoredRecord ExecutionReceipt) (reason_code : Option ReasonCode)
  /-- A refusal without a receipt. -/
  | denied (reason_code : ReasonCode)

def readClock : Executor UtcSecond := do
  match ← Program.lookOnce with
  | some now => return now
  | none => .raised (.valueError "receipt execution clock is invalid")

/-- Construct a receipt, or raise what its validator raises. -/
def makeReceipt (fields : ExecutionReceiptFields) : Except Raised ExecutionReceipt :=
  match h : validateOutcomeShape fields with
  | .ok () => .ok ⟨fields,h⟩
  | .error raised => .error raised

theorem makeReceipt_eq_ok {fields : ExecutionReceiptFields} {receipt : ExecutionReceipt}
    (h : makeReceipt fields=.ok receipt) : receipt.fields=fields := by
  unfold makeReceipt at h
  split at h
  · rw [← Except.ok.inj h]
  · cases h

/-- Outcomes that are answered without another look at the target. -/
def isSettled (outcome : ReceiptOutcome) : Bool :=
  outcome==.denied || outcome==.failedSafe || outcome==.verified

/-- When a claim counts as orphaned. -/
def orphanRecoveryAt (receipt : ExecutionReceipt) : Except Raised Int := do
  let last_second ← addSeconds receipt.dispatch_not_after (-1)
  let latest_reachable := max receipt.created_at.1 last_second.1
  let grace ← addSeconds receipt.created_at receiptOrphanGraceSeconds
  return min grace.1 latest_reachable

section

variable (functions : ContractFunctions)

/-- The claim of a verified mutation. -/
def claimedReceipt (verified : VerifiedMutation) (binding : MutationBinding)
    (created_at : UtcSecond) : Except Raised ExecutionReceipt :=
  let intent := verified.request.intent
  makeReceipt {
    receipt_id := ⟨(executionReceiptLogicalId functions.sha256 intent.target
      intent.idempotency_key).1,isIdentifier_digest _⟩
    request_id := intent.request_id
    idempotency_key := intent.idempotency_key
    capability_sha256 := verified.capability_sha256
    mutation_sha256 := mutationIdentity functions.sha256 binding
    plan_sha256 := intent.plan_sha256
    expected_poststate_sha256 := binding.expected_poststate_sha256
    target := intent.target
    root_id := intent.root_id
    root_sha256 := intent.root_sha256
    epoch := intent.epoch
    action := intent.action
    provider_etag := intent.provider_etag
    dispatch_not_after := verified.request.expires_at
    outcome := .claimed
    reason_code := none
    provider_operation := none
    observed_etag := none
    observed_authority_epoch := none
    created_at := created_at
    updated_at := created_at
    evidence_ids := [] }

/-- What the coordinator requires of a receipt of a verified mutation. -/
def validAdopted (binding : MutationBinding) (verified : VerifiedMutation)
    (stored : StoredRecord ExecutionReceipt) : Bool :=
  validAdoptedReceipt functions.sha256 verified.request.intent.target
    verified.request.intent.idempotency_key verified.request.expires_at binding stored

end

def deniedReceipt (denial : FinalAuthorityDenial) (updated_at : UtcSecond) :
    Except Raised ExecutionReceipt :=
  makeReceipt {denial.claimed_receipt.value.fields with
    outcome := .denied
    reason_code := some denial.reason_code
    observed_authority_epoch := denial.observed_authority_epoch
    updated_at := updated_at }

/-- Outcome of a result class. -/
def ReceiptMutationStatus.outcome : ReceiptMutationStatus → ReceiptOutcome
  | .applied => .applied
  | .failedSafe => .failedSafe
  | .ambiguous => .ambiguous

def providerResultReceipt (claimed : ExecutionReceipt) (result : ReceiptMutationResult)
    (observed_authority_epoch : Option PositiveSafeInteger) (updated_at : UtcSecond) :
    Except Raised ExecutionReceipt :=
  makeReceipt {claimed.fields with
    outcome := ReceiptMutationStatus.outcome result.status
    reason_code := result.reason_code
    provider_operation := result.provider_operation
    observed_authority_epoch := observed_authority_epoch
    updated_at := updated_at }

def verifiedReadbackReceipt (current : ExecutionReceipt) (observed_etag : OpaqueToken)
    (updated_at : UtcSecond) : Except Raised ExecutionReceipt :=
  makeReceipt {current.fields with
    outcome := .verified
    reason_code := none
    observed_etag := some observed_etag
    updated_at := updated_at }

def ambiguousReadbackReceipt (current : ExecutionReceipt) (observation : ReceiptReadbackResult)
    (updated_at : UtcSecond) : Except Raised ExecutionReceipt :=
  makeReceipt {current.fields with
    outcome := .ambiguous
    reason_code := some .providerOutcomeAmbiguous
    observed_etag := observation.observed_etag
    updated_at := updated_at }

/-- Result of a provider call that raised. -/
def raisedMutationResult : ReceiptMutationResult where
  status := .ambiguous
  provider_operation := none
  reason_code := some .providerOutcomeAmbiguous
  shaped := ⟨fun _ h => (Option.not_mem_none _ h).elim,rfl⟩

section

variable (functions : ContractFunctions) (expected_state : TargetConfigurationProjection)
  (binding : MutationBinding) (verified : VerifiedMutation)

/-- Write a record, or read what another writer stored, for some attempts. -/
def persistAttempts (expected : StoredRecord ExecutionReceipt)
    (replacement_record : StoredRecord ExecutionReceipt) :
    Nat → Executor (Option (StoredRecord ExecutionReceipt))
  | 0 => return none
  | attempts+1 => do
    match ← Program.call (Operation.compareAndSetReceipt expected replacement_record.value) with
    | .ok committed => if committed≠replacement_record then return none else return some committed
    | .error _ =>
      match ← Program.call (Operation.readReceipt expected.value.idempotency_key) with
      | .ok (some current) =>
        if validAdopted functions binding verified current=false ∨
            validMonotonicResolution expected current=false then return none
        else if current≠expected then return some current
        else persistAttempts expected replacement_record attempts
      | _ => return none

/-- Persist a replacement in two attempts, or return what another writer stored. -/
def persistOrRead (expected : StoredRecord ExecutionReceipt) (replacement : ExecutionReceipt) :
    Executor (Option (StoredRecord ExecutionReceipt)) := do
  let replacement_record ← Program.lift (StoredRecord.make replacement (expected.revision+1))
  if validAdopted functions binding verified expected=false ∨
      validAdopted functions binding verified replacement_record=false ∨
      validMonotonicResolution expected replacement_record=false then return none
  else persistAttempts functions binding verified expected replacement_record 2

/-- Etag of a readback that saw exactly the expected target state. -/
def exactReadback (current : ExecutionReceipt) (observation : ReceiptReadbackResult) :
    Except Raised (Option OpaqueToken) :=
  if observation.state≠some expected_state then return none
  else
    match observation.observed_etag with
    | none => return none
    | some observed_etag => do
      let poststate ← targetConfigurationSha256 functions verified.request.kind
        verified.request.intent expected_state.concurrency
      if poststate=current.expected_poststate_sha256 then return some observed_etag
      else return none

def storeReplacement (current : StoredRecord ExecutionReceipt) (replacement : ExecutionReceipt) :
    Executor ReceiptExecutionResponse := do
  match ← persistOrRead functions binding verified current replacement with
  | none => return .denied .authorityUnavailable
  | some persisted => return .stored persisted persisted.value.reason_code

/-- Classify an unsettled receipt by what a readback saw. -/
def classifyReadback (current : StoredRecord ExecutionReceipt)
    (observation : ReceiptReadbackResult) : Executor ReceiptExecutionResponse := do
  if isSettled current.value.outcome then
    return .stored current current.value.reason_code
  else if current.value.outcome≠.applied ∧ current.value.outcome≠.ambiguous then
    return .stored current (some .receiptInProgress)
  else
    let exact ← Program.lift
      (exactReadback functions expected_state verified current.value observation)
    let now ← readClock
    match exact with
    | some observed_etag =>
      let replacement ← Program.lift (verifiedReadbackReceipt current.value observed_etag now)
      storeReplacement functions binding verified current replacement
    | none =>
      let replacement ← Program.lift (ambiguousReadbackReceipt current.value observation now)
      if current.value.outcome=.ambiguous ∧
          observation.observed_etag=current.value.observed_etag then
        return .stored current current.value.reason_code
      else storeReplacement functions binding verified current replacement

/-- Classify a receipt by reading the target back. -/
def readbackOnly (stored : StoredRecord ExecutionReceipt) : Executor ReceiptExecutionResponse := do
  let observed ← Program.call (Operation.readback expected_state)
  let observation := observed.getD ⟨none,none⟩
  if stored.value.outcome=.claimed then
    let now ← readClock
    let ambiguous ← Program.lift (ambiguousReadbackReceipt stored.value observation now)
    match ← persistOrRead functions binding verified stored ambiguous with
    | none => return .denied .authorityUnavailable
    | some persisted => classifyReadback functions expected_state binding verified persisted observation
  else classifyReadback functions expected_state binding verified stored observation

/-- Answer with a settled receipt or one in progress, or classify it. -/
def handleExisting (stored : StoredRecord ExecutionReceipt) :
    Executor ReceiptExecutionResponse := do
  if isSettled stored.value.outcome then
    return .stored stored stored.value.reason_code
  else if stored.value.outcome=.claimed then
    let now ← readClock
    let orphan_recovery_at ← Program.lift (orphanRecoveryAt stored.value)
    if now.1 < orphan_recovery_at then return .stored stored (some .receiptInProgress)
    else readbackOnly functions expected_state binding verified stored
  else readbackOnly functions expected_state binding verified stored

/-- Go on after a provider attempt. -/
def handleAfterProvider (stored : StoredRecord ExecutionReceipt) :
    Executor ReceiptExecutionResponse :=
  if stored.value.outcome=.claimed then
    readbackOnly functions expected_state binding verified stored
  else handleExisting functions expected_state binding verified stored

/-- The receipt of what the gate returned or raised. -/
def gatedReceipt (receipt : StoredRecord ExecutionReceipt)
    (gated : Except Raised (FinalAuthorityDenial⊕FinalMutationResult)) (now : UtcSecond) :
    Except Raised ExecutionReceipt :=
  match gated with
  | .error _ => providerResultReceipt receipt.value raisedMutationResult none now
  | .ok (.inl denial) => deniedReceipt denial now
  | .ok (.inr mutated) =>
    providerResultReceipt receipt.value mutated.result (some mutated.observed_authority_epoch) now

/-- Persist the result of the gate over the claim and go on. -/
def persistGated (receipt : StoredRecord ExecutionReceipt)
    (gated : Except Raised (FinalAuthorityDenial⊕FinalMutationResult)) :
    Executor ReceiptExecutionResponse := do
  let now ← readClock
  let replacement ← Program.lift (gatedReceipt receipt gated now)
  match ← persistOrRead functions binding verified receipt replacement with
  | none => return .denied .authorityUnavailable
  | some persisted =>
    match gated with
    | .ok (.inl _) => handleExisting functions expected_state binding verified persisted
    | _ => handleAfterProvider functions expected_state binding verified persisted

/-- Pass the final gate with the proof of a direct create. -/
def dispatchClaim (gate : FinalMutationGate) (receipt : StoredRecord ExecutionReceipt)
    (direct_create : DirectReceiptCreate) : Executor ReceiptExecutionResponse := do
  let lease ← Program.lift (mint functions direct_create)
  let gated ← (gate.execute functions lease verified).attempt
  persistGated functions expected_state binding verified receipt gated

/-- Classify a receipt that is already stored. -/
def adoptStored (absent invalid : ReasonCode) : Executor ReceiptExecutionResponse := do
  match ← Program.call (Operation.readReceipt verified.request.intent.idempotency_key) with
  | .error _ => return .denied .authorityUnavailable
  | .ok none => return .denied absent
  | .ok (some stored) =>
    if validAdopted functions binding verified stored=false then return .denied invalid
    else handleExisting functions expected_state binding verified stored

/-- Adopt a receipt when too little time is left for a new claim. -/
def adoptWithoutNewClaim : Executor ReceiptExecutionResponse :=
  adoptStored functions expected_state binding verified .capabilityExpired .idempotencyConflict

/-- Claim the key and pass the gate, or adopt the receipt that owns the key. -/
def claimAndDispatch (gate : FinalMutationGate) (now : UtcSecond) :
    Executor ReceiptExecutionResponse := do
  let claimed ← Program.lift (claimedReceipt functions verified binding now)
  match ← Program.call (Operation.claimOrAdoptReceipt claimed binding) with
  | .error _ => return .denied .authorityUnavailable
  | .ok .conflict => return .denied .idempotencyConflict
  | .ok (.adopted receipt) =>
    if validAdopted functions binding verified receipt=false then
      return .denied .authorityUnavailable
    else handleExisting functions expected_state binding verified receipt
  | .ok (.created receipt direct_create) =>
    if validAdopted functions binding verified receipt=false then
      return .denied .authorityUnavailable
    else dispatchClaim functions expected_state binding verified gate receipt direct_create

end

section

variable (functions : ContractFunctions)

/-- The target state and the binding of a verified mutation. -/
def expectedWork (verified : VerifiedMutation) :
    Except Raised (TargetConfigurationProjection×MutationBinding) := do
  let expected_state ← expectedTargetState functions verified
  let binding ← mutationBinding functions verified expected_state
  return (expected_state,binding)

/-- Execute one verified mutation. -/
def execute (gate : FinalMutationGate) (verified : VerifiedMutation) :
    Executor ReceiptExecutionResponse :=
  match expectedWork functions verified with
  | .error _ => return .denied .targetBindingMismatch
  | .ok (expected_state,binding) => do
    let now ← readClock
    let window_end ← Program.lift (addSeconds now receiptNewClaimRecoveryWindowSeconds)
    if verified.request.expires_at.1 ≤ window_end.1 then
      adoptWithoutNewClaim functions expected_state binding verified
    else claimAndDispatch functions expected_state binding verified gate now

/-- Classify work that was claimed before, and never dispatch it. -/
def recoverOrphaned (verified : VerifiedMutation) : Executor ReceiptExecutionResponse :=
  match expectedWork functions verified with
  | .error _ => return .denied .targetBindingMismatch
  | .ok (expected_state,binding) =>
    adoptStored functions expected_state binding verified .authorityUnavailable
      .idempotencyConflict

end

end ControlGraph.ReceiptExecution
