import ControlGraph.ClaimFence
import ControlGraph.ExecutionGate
import ControlGraph.RecoveryDispatchStore

/-!
# Resolution of a recovery authorization

The resolver reads the authority of the root, the apply receipt and the intent of
the root, replays the trigger, and asks the verifier for a fresh prestate. It then
reads all its inputs again and derives the authorization only from equal ones. It
requires the intent of the root to own the exact command, and writes nothing. Its
readers and verifiers are given by what they answer.
-/

namespace ControlGraph.RecoveryResolution

open Checks ContractText RecoveryContracts ReleaseContracts ExecutionRequests ExecutionGate
  RecoveryDispatchStore

open ReceiptContracts hiding ServiceClaimRecord

open ReceiptStore (StoreError isServiceClaimTarget)

/-- Failures of the orchestration of a recovery. -/
inductive RecoveryExecutionErrorCode
  | configurationInvalid | callerDenied | operatorDenied | commandDenied
  | trustedStateUnavailable | trustedStateInvalid | sourceReceiptInvalid | triggerInvalid
  | prestateUnavailable | prestateMismatch | attestationInvalid | issuanceDenied
  | transportUnavailable | responseInvalid | dispatchUnavailable | identityConflict
  | outcomeUnknown | resultInvalid
  deriving DecidableEq,Repr

/-- What a recovery takes from the content of its root. -/
structure RecoveryRootBindings where
  plan_sha256 : Sha256Digest
  snapshot_etag : OpaqueToken
  stable_revision : CloudRunName
  stable_revision_configuration_sha256 : Sha256Digest
  candidate_revision : CloudRunName
  candidate_revision_configuration_sha256 : Sha256Digest
  evidence_signing_key_version : String
  recovery_audience : String

/-- Request for a fresh prestate. What the root and the command fix is derived from them. -/
structure RecoveryPrestateRequestV1 where
  command : RecoveryCommandV2
  root : RolloutRoot
  requested_at : UtcSecond
  valid_until : UtcSecond
  deriving DecidableEq

/-- A signed prestate. -/
structure RecoveryPrestateAttestationV1 where
  request : RecoveryPrestateRequestV1
  signing_key_version : String
  current_provider_etag : OpaqueToken
  retrieved_at : UtcSecond
  /-- Canonical text of the rest. -/
  others : String
  deriving DecidableEq

/-- A signed health chain. -/
structure RecoveryHealthChain where
  locator : Option RecoveryHealthChainLocatorV1
  apply_receipt : ExecutionReceipt
  text : String
  deriving DecidableEq

/-- Pure functions over the contracts of the recovery services. -/
structure RecoveryServiceFunctions extends HealthStoreFunctions where
  executor : ContractFunctions
  rootBindings : RolloutRoot → RecoveryRootBindings
  /-- Whether the keys, identities and audience of a root are those of its project. -/
  authorizationAdmitted : RolloutRoot → Bool
  attestationSha256 : RecoveryPrestateAttestationV1 → Sha256Digest
  authorizationText : RecoveryPrestateAttestationV1 → String
  recoveryCapabilityId : RecoveryAuthorizationV1 → Identifier
  capabilityMatches : RecoveryAuthorizationV1 → SignedCapability → Bool
  taskText : RecoveryAuthorizationV1 → SignedCapability → String

/-- What the readers and the verifiers answer to one read of the inputs. -/
structure InputReads where
  failure : Option StoreError
  bundle : Option RootAuthorityBundle
  receipt : Option (StoredRecord ExecutionReceipt)
  chain : Except StoreError (Option RecoveryHealthChain)
  chain_verified : Bool
  revocation_verified : Bool

/-- What the resolver is configured with. -/
structure ResolverConfiguration where
  target : TargetBinding
  evidence_key_version : String
  prestate_key_version : String

/-- The inputs that were read and trusted. -/
structure TrustedRecoveryInputs (functions : RecoveryServiceFunctions) where
  authority : TrustedRootAuthority
  receipt : StoredRecord ExecutionReceipt
  intent : StoredIntent functions.toHealthStoreFunctions
  health_chain : Option RecoveryHealthChain
  deriving DecidableEq

/-- Report of a failed read. -/
def readFailure : StoreError → RecoveryExecutionErrorCode
  | .corruptRecord => .trustedStateInvalid
  | _ => .trustedStateUnavailable

/-- Report of a failed read of the health chain. -/
def chainFailure : StoreError → RecoveryExecutionErrorCode
  | .corruptRecord => .triggerInvalid
  | _ => .trustedStateUnavailable

variable (functions : RecoveryServiceFunctions) (configuration : ResolverConfiguration)

/-- Epoch of the apply receipt that a trigger goes with. -/
def expectedReceiptEpoch (command : RecoveryCommandV2) : Nat :=
  match command.source with
  | .unhealthy _ => command.expected_epoch.1
  | .revokedV2 _ => 1
  | .revokedV3 source => source.revocation_proof.result.previous_epoch.1

/-- An apply receipt of the root and the plan at the epoch of the trigger. -/
@[mk_iff] structure ApplyReceiptBound (root : RolloutRoot) (command : RecoveryCommandV2)
    (receipt : ExecutionReceipt) (now : UtcSecond) : Prop where
  target : receipt.target=configuration.target
  root_id : receipt.root_id=command.root_id
  root_sha256 : receipt.root_sha256=command.expected_root_sha256
  epoch : receipt.epoch.1=expectedReceiptEpoch command
  action : receipt.action=.applyCanary
  outcome : receipt.outcome=.verified
  reason_code : receipt.reason_code=none
  poststate : receipt.expected_poststate_sha256=
    functions.executor.rootConfigurationSha256 root 90 10
  plan_sha256 : receipt.plan_sha256=(functions.rootBindings root).plan_sha256
  provider_etag : receipt.provider_etag=(functions.rootBindings root).snapshot_etag
  observed_etag : receipt.observed_etag.isSome=true
  observed_epoch : receipt.observed_authority_epoch.map Subtype.val=
    some (expectedReceiptEpoch command)
  updated_at : receipt.updated_at.1 ≤ now.1

instance (root : RolloutRoot) (command : RecoveryCommandV2) (receipt : ExecutionReceipt)
    (now : UtcSecond) : Decidable (ApplyReceiptBound functions configuration root command receipt now) :=
  decidable_of_iff _ (applyReceiptBound_iff functions configuration root command receipt now).symm

/-- Check the apply receipt of a command. -/
def validateApplyReceipt (root : RolloutRoot) (command : RecoveryCommandV2)
    (stored : Option (StoredRecord ExecutionReceipt)) (now : UtcSecond) :
    Except RecoveryExecutionErrorCode (StoredRecord ExecutionReceipt) := do
  let stored ← requireSome stored .sourceReceiptInvalid
  require (2 ≤ stored.revision) .sourceReceiptInvalid
  let locator ← (ClaimFence.createRecoveryApplyReceiptLocator functions.authority stored.value
    stored.revision).mapError (fun _ => .sourceReceiptInvalid)
  require (locator=command.verified_apply_receipt ∧
      ApplyReceiptBound functions configuration root command stored.value now)
    .sourceReceiptInvalid
  return stored

/-- Replay the trigger of a command. -/
def validateTrigger (trusted : TrustedRootAuthority) (command : RecoveryCommandV2)
    (receipt : StoredRecord ExecutionReceipt) (reads : InputReads) :
    Except RecoveryExecutionErrorCode (Option RecoveryHealthChain) := do
  let evidence_key := (functions.rootBindings trusted.root).evidence_signing_key_version
  match command.source with
  | .unhealthy source =>
    require (trusted.root.version=.v3) .triggerInvalid
    let chain ← reads.chain.mapError chainFailure
    let chain ← requireSome chain .triggerInvalid
    require (reads.chain_verified=true) .triggerInvalid
    require (chain.locator=some source.health_chain_locator ∧ chain.apply_receipt=receipt.value)
      .triggerInvalid
    return some chain
  | .revokedV2 source =>
    require (trusted.root.version=.v2) .triggerInvalid
    let proof := source.revocation_proof
    let authority := trusted.authority
    require (trusted.authority_revision=1 ∧ authority.revision=1 ∧ authority.current_epoch.1=2 ∧
        authority.previous_epoch.map Subtype.val=some 1 ∧ authority.cause=.operatorRevocation ∧
        proof.authority=authority ∧ proof.result.previous_epoch.1=1 ∧
        proof.result.new_epoch.1=2 ∧ proof.signed_evidence.signing_key_version=evidence_key ∧
        configuration.evidence_key_version=evidence_key)
      .triggerInvalid
    require (reads.revocation_verified=true) .triggerInvalid
    return none
  | .revokedV3 source =>
    require (trusted.root.version=.v3) .triggerInvalid
    let proof := source.revocation_proof
    let authority := trusted.authority
    require (trusted.authority_revision=authority.revision ∧ 1 ≤ authority.revision ∧
        authority.current_epoch=source.epoch ∧
        authority.previous_epoch=some receipt.value.epoch ∧
        authority.cause=.operatorRevocation ∧ proof.authority=authority ∧
        proof.result.previous_epoch=receipt.value.epoch ∧ proof.result.new_epoch=source.epoch ∧
        receipt.value.updated_at.1 ≤ proof.result.committed_at.1 ∧
        proof.signed_evidence.signing_key_version=evidence_key ∧
        configuration.evidence_key_version=evidence_key)
      .triggerInvalid
    require (reads.revocation_verified=true) .triggerInvalid
    return none

def OwnsCommand {functions : RecoveryServiceFunctions}
    (stored : StoredIntent functions.toHealthStoreFunctions) (command : RecoveryCommandV2) : Prop :=
  stored.revision=0 ∧ stored.value.command=command ∧
    stored.value.command_sha256=recoveryCommandSha256 functions.recovery command

instance {functions : RecoveryServiceFunctions}
    (stored : StoredIntent functions.toHealthStoreFunctions) (command : RecoveryCommandV2) :
    Decidable (OwnsCommand stored command) :=
  inferInstanceAs (Decidable (_ ∧ _))

/-- Read and check all inputs of a command. -/
def readInputs (command : RecoveryCommandV2) (now : UtcSecond) (reads : InputReads)
    (stores : Stores functions.toHealthStoreFunctions) :
    Except RecoveryExecutionErrorCode (TrustedRecoveryInputs functions) := do
  require (reads.failure=none) (reads.failure.elim .trustedStateUnavailable readFailure)
  let intent ← (readRecoveryIntent configuration.target command.expected_root_sha256
    stores).mapError readFailure
  let trusted ← requireSome
    (reads.bundle.bind (inspectRootAuthorityBundle functions.executor configuration.target))
    .trustedStateInvalid
  let intent ← requireSome intent .trustedStateInvalid
  require (trusted.root.root_id=command.root_id ∧
      trusted.root.root_sha256=command.expected_root_sha256 ∧
      trusted.root.target=configuration.target ∧ trusted.service_claim.status=.active ∧
      trusted.authority.current_epoch=command.expected_epoch ∧ OwnsCommand intent command)
    .trustedStateInvalid
  let receipt ← validateApplyReceipt functions configuration trusted.root command reads.receipt now
  let chain ← validateTrigger functions configuration trusted command receipt reads
  return ⟨trusted,receipt,intent,chain⟩

/-- How long a prestate is valid. -/
def recoveryPrestateValiditySeconds : Int := 300

/-- Whether the version of a root admits a trigger. -/
def rootAdmitsSource (root : RolloutRoot) (source : RecoverySourceV1) : Bool :=
  (admittedBases root.version).contains source.basis

def createRecoveryPrestateRequest (command : RecoveryCommandV2) (root : RolloutRoot)
    (requested_at valid_until : UtcSecond) : Except Raised RecoveryPrestateRequestV1 := do
  require (command.source.triggered_at.1 ≤ requested_at.1 ∧
      requested_at.1 ≤ command.scheduled_at.1 ∧ requested_at.1 < valid_until.1 ∧
      command.scheduled_at.1 < valid_until.1 ∧
      valid_until.1-requested_at.1 ≤ recoveryPrestateValiditySeconds)
    (.valueError "recovery prestate request bindings are invalid")
  require (rootAdmitsSource root command.source=true)
    (.valueError "recovery prestate request root mode is invalid")
  return ⟨command,root,requested_at,valid_until⟩

/-- Derive the authorization of a command from its trusted inputs. -/
def createRecoveryAuthorization (root : RolloutRoot) (command : RecoveryCommandV2)
    (attestation : RecoveryPrestateAttestationV1) : Except Raised RecoveryAuthorizationV1 := do
  let bindings := functions.rootBindings root
  let authorization : RecoveryAuthorizationV1 := {
    command_sha256 := recoveryCommandSha256 functions.recovery command
    request_id := command.request_id
    idempotency_key := command.idempotency_key
    scheduled_at := command.scheduled_at
    root_schema_version := root.version
    root_id := root.root_id
    root_sha256 := root.root_sha256
    target := root.target
    epoch := command.expected_epoch
    plan_sha256 := bindings.plan_sha256
    stable_revision := bindings.stable_revision
    stable_revision_configuration_sha256 := bindings.stable_revision_configuration_sha256
    candidate_revision := bindings.candidate_revision
    candidate_revision_configuration_sha256 := bindings.candidate_revision_configuration_sha256
    concurrency := root.concurrency
    recovery_audience := bindings.recovery_audience
    verified_apply_receipt := command.verified_apply_receipt
    source_receipt_sha256 := command.verified_apply_receipt.receipt_sha256
    source := command.source
    trigger_proof_sha256 := recoveryTriggerProofSha256 functions.recovery command.source
    prestate_attestation_sha256 := functions.attestationSha256 attestation
    expected_prestate_sha256 := functions.executor.rootConfigurationSha256 root 90 10
    current_provider_etag := attestation.current_provider_etag
    desired_poststate_sha256 := functions.executor.rootConfigurationSha256 root 100 0
    proof_valid_until := attestation.request.valid_until
    others := functions.authorizationText attestation }
  require (isServiceClaimTarget root.target=true ∧ functions.authorizationAdmitted root=true)
    (.valueError "recovery authorization root binding is invalid")
  require (attestation.retrieved_at.1 ≤ command.scheduled_at.1 ∧
      command.scheduled_at.1 < attestation.request.valid_until.1)
    (.valueError "recovery authorization proof binding is invalid")
  return authorization

/-- What the services answer to one resolution. -/
structure ResolverAnswers where
  /-- First read of the inputs. -/
  initial : InputReads
  /-- Second read of the inputs. -/
  confirmed : InputReads
  /-- The signed prestate, or the failure that the evaluator reports of itself. -/
  attestation : Except RecoveryExecutionErrorCode (Option RecoveryPrestateAttestationV1)
  attestation_verified : Bool

/-- Obtain a fresh prestate for trusted inputs. -/
def freshPrestate (command : RecoveryCommandV2) (root : RolloutRoot) (now : UtcSecond)
    (answers : ResolverAnswers) :
    Except RecoveryExecutionErrorCode RecoveryPrestateAttestationV1 := do
  let valid_until ← (addSeconds now recoveryPrestateValiditySeconds).mapError
    (fun _ => .attestationInvalid)
  let request ← (createRecoveryPrestateRequest command root now valid_until).mapError
    (fun _ => .attestationInvalid)
  let attestation ← answers.attestation
  let attestation ← requireSome attestation .attestationInvalid
  require (attestation.request=request ∧ attestation.signing_key_version=
      (functions.rootBindings root).evidence_signing_key_version ∧
      configuration.prestate_key_version=attestation.signing_key_version ∧
      answers.attestation_verified=true)
    .attestationInvalid
  return attestation

/-- Resolve the authorization of a command. -/
def resolve (command : RecoveryCommandV2) (now : UtcSecond) (answers : ResolverAnswers)
    (stores : Stores functions.toHealthStoreFunctions) :
    Except RecoveryExecutionErrorCode RecoveryAuthorizationV1 := do
  let initial ← readInputs functions configuration command now answers.initial stores
  let attestation ← freshPrestate functions configuration command initial.authority.root now answers
  let confirmed ← readInputs functions configuration command now answers.confirmed stores
  require (confirmed=initial) .trustedStateInvalid
  let authorization ← (createRecoveryAuthorization functions initial.authority.root command
    attestation).mapError (fun _ => .trustedStateInvalid)
  require (authorization.target=configuration.target ∧ authorization.source=command.source ∧
      authorization.verified_apply_receipt=command.verified_apply_receipt)
    .trustedStateInvalid
  return authorization

end ControlGraph.RecoveryResolution
