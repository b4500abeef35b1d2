import ControlGraph.ExecutionRequests
import ControlGraph.ReceiptStore
import ControlGraph.WaitingPrograms

/-!
# The final gate before a provider mutation

A lease is minted from the proof of a direct receipt create and can be entered
once. The gate prepares the provider call, reads the authority of the root as
its last wait, reads the clock, and dispatches only when every check holds.
Between that read and the dispatch nothing else is waited for. The checks are
one chain, so that a dispatch gives all of them at once.
-/

namespace ControlGraph.ExecutionGate

open Checks ContractText Utf8Text StorageIdentity ReceiptContracts ReceiptStore ExecutionRequests
  WaitingPrograms

/-- Private services with a protected route. -/
inductive ServiceRole
  | api | coordinator | issuer | executor | recovery | verifier | evidenceWriter | advisor
  deriving DecidableEq,Repr

/-- Purposes of a mutation adapter. -/
inductive CloudRunMutationPurpose
  | standardExecution | stableRecovery
  deriving DecidableEq,Repr

/-- Caller that the route of a purpose admits. -/
def expectedCallerRole : CloudRunMutationPurpose → CallerRole
  | .stableRecovery => .recovery
  | .standardExecution => .executionTaskCaller

/-- The final gate of an executor. Its reader and its adapter share the target. -/
structure FinalMutationGate where
  target : TargetBinding
  service_role : ServiceRole
  route_policy : RouteAuthenticationPolicy
  mutation_purpose : CloudRunMutationPurpose
  has_source_receipt_reader : Bool
  executor : service_role=.executor
  /-- The route matches the purpose. -/
  caller : route_policy.role=expectedCallerRole mutation_purpose

/-- A prepared provider call that waits for its permit. -/
structure PreparedTargetMutation where
  target : TargetBinding
  /-- Identity that makes the call. -/
  service_role : ServiceRole
  kind : RequestKind
  intent : MutationIntent
  deriving DecidableEq

/-- Permission for one mutation. -/
structure MutationPermit where
  target : TargetBinding
  /-- Identity that may use it. -/
  service_role : ServiceRole
  kind : RequestKind
  intent : MutationIntent
  receipt_id : Identifier
  binding : MutationBinding
  deriving DecidableEq

/-- Result classes of the adapter. -/
inductive ReceiptMutationStatus
  | applied | failedSafe | ambiguous
  deriving DecidableEq,Repr

def mutationResultShape (status : ReceiptMutationStatus) (provider_operation : Option BoundedText)
    (reason_code : Option ReasonCode) : Prop :=
  (∀ operation∈provider_operation,operation.1.length≤512) ∧
  match status with
  | .applied => reason_code=none ∧ provider_operation≠none
  | .failedSafe => provider_operation=none ∧ ∃ reason∈failedSafeReasons,reason_code=some reason
  | .ambiguous => reason_code=some .providerOutcomeAmbiguous

/-- Provider result ready for the receipt. -/
structure ReceiptMutationResult where
  status : ReceiptMutationStatus
  provider_operation : Option BoundedText
  reason_code : Option ReasonCode
  /-- The fields fit the class. -/
  shaped : mutationResultShape status provider_operation reason_code

/-- What a readback of the target saw. -/
structure ReceiptReadbackResult where
  state : Option TargetConfigurationProjection
  observed_etag : Option OpaqueToken
  deriving DecidableEq

/-- Operations that an executor waits for. -/
inductive Operation
  | claimOrAdoptReceipt (receipt : ExecutionReceipt) (binding : MutationBinding)
  | readReceipt (idempotency_key : Identifier)
  | compareAndSetReceipt (expected : StoredRecord ExecutionReceipt) (replacement : ExecutionReceipt)
  | prepare (kind : RequestKind) (intent : MutationIntent)
  | readSourceReceipt (idempotency_key : Identifier)
  | readRootCreationBundle (root_id : Identifier)
  | mutate (permit : MutationPermit)
  /-- Read the target back. -/
  | readback (expected_state : TargetConfigurationProjection)

/-- Result of an operation. A provider call that raises has none. -/
@[reducible] def Operation.Result : Operation → Type
  | .claimOrAdoptReceipt _ _ => Except StoreError ReceiptClaimResult
  | .readReceipt _ => Except StoreError (Option (StoredRecord ExecutionReceipt))
  | .compareAndSetReceipt _ _ => Except StoreError (StoredRecord ExecutionReceipt)
  | .prepare _ _ => Option PreparedTargetMutation
  | .readSourceReceipt _ => Except StoreError (Option (StoredRecord ExecutionReceipt))
  | .readRootCreationBundle _ => Except StoreError (Option RootAuthorityBundle)
  | .mutate _ => Option ReceiptMutationResult
  | .readback _ => Option ReceiptReadbackResult

/-- Programs of an executor. A look reads the clock, which may fail. -/
abbrev Executor : Type → Type := Program Operation Operation.Result (Option UtcSecond) Raised

/-- Whether the storage revision of a claim fits its status. -/
def claimLifecycleRevisionMatches (claim : ServiceClaimRecord) (revision : Nat) : Prop :=
  match claim.status with
  | .active => claim.version=.v2 ∧ revision%3=0
  | .releasing => revision%3=1
  | .released => revision%3=2

instance (claim : ServiceClaimRecord) (revision : Nat) :
    Decidable (claimLifecycleRevisionMatches claim revision) := by
  unfold claimLifecycleRevisionMatches
  split <;> infer_instance

variable (functions : ContractFunctions)

/-- What makes a bundle the authority of a root of the target. -/
def rootAuthorityCoherent (target : TargetBinding) (bundle : RootAuthorityBundle) : Prop :=
  let root := bundle.root.value
  let claim := bundle.service_claim.value
  let authority := bundle.authority.value
  (claim.version=.v3 → root.version=.v3) ∧
  bundle.root.revision=0 ∧ bundle.lineage_anchor.revision=0 ∧ root.target=target ∧
  functions.contentSha256 root=some root.root_sha256 ∧
  root.root_id.1="cgroot:"++root.root_sha256.1 ∧
  functions.capabilityLineageAnchor root=some bundle.lineage_anchor.value ∧
  functions.serviceClaimMatchesRoot claim root=true ∧
  claimLifecycleRevisionMatches claim bundle.service_claim.revision ∧
  authority.target=target ∧ authority.root_id=root.root_id ∧
  authority.root_sha256=root.root_sha256 ∧ bundle.authority.revision=authority.revision ∧
  authority.current_epoch.1=authority.revision+1

instance (target : TargetBinding) (bundle : RootAuthorityBundle) :
    Decidable (rootAuthorityCoherent functions target bundle) :=
  inferInstanceAs (Decidable (_ ∧ _))

/-- Validate the immutable boundary of a root and its claim and epoch. -/
def inspectRootAuthorityBundle (target : TargetBinding) (bundle : RootAuthorityBundle) :
    Option TrustedRootAuthority :=
  if rootAuthorityCoherent functions target bundle then
    some {
      root := bundle.root.value
      service_claim := bundle.service_claim.value
      authority := bundle.authority.value
      lineage_anchor := bundle.lineage_anchor.value
      service_claim_revision := bundle.service_claim.revision
      authority_revision := bundle.authority.revision }
  else none

/-- Whether the release fence of a claim is the last change of the authority. -/
def claimFenceMatches (claim : ServiceClaimRecord) (authority : EpochAuthorityRecord) : Prop :=
  1 ≤ authority.revision ∧ authority.cause=.operatorRevocation ∧
  claim.release_fence_epoch=some authority.current_epoch ∧
  claim.release_fence_authority_revision=some authority.revision ∧
  claim.release_fenced_by=some authority.changed_by ∧
  claim.release_fence_request_id=some authority.request_id ∧
  claim.release_fence_evidence_id=some authority.evidence_id ∧
  claim.release_fenced_at=some authority.changed_at

instance (claim : ServiceClaimRecord) (authority : EpochAuthorityRecord) :
    Decidable (claimFenceMatches claim authority) :=
  inferInstanceAs (Decidable (_ ∧ _))

def claimRevisionMatches (status : ServiceClaimStatus) (revision : Nat) : Prop :=
  match status with
  | .active => revision%3=0
  | .releasing => revision%3=1
  | .released => revision%3=2

instance (status : ServiceClaimStatus) (revision : Nat) :
    Decidable (claimRevisionMatches status revision) := by
  unfold claimRevisionMatches
  split <;> infer_instance

/-- What makes the authority of a root the one that a mutation was verified with. -/
def coherentAuthority (target : TargetBinding) (verified : VerifiedMutation)
    (state : TrustedRootAuthority) : Prop :=
  let intent := verified.request.intent
  state.root=verified.root ∧ state.lineage_anchor=verified.lineage_anchor ∧
  state.root.target=target ∧ intent.target=target ∧ state.root.root_id=intent.root_id ∧
  state.root.root_sha256=intent.root_sha256 ∧ state.service_claim.target=target ∧
  state.service_claim.root_id=intent.root_id ∧
  state.service_claim.root_sha256=intent.root_sha256 ∧
  claimRevisionMatches state.service_claim.status state.service_claim_revision ∧
  (state.service_claim.status≠.active → claimFenceMatches state.service_claim state.authority) ∧
  state.authority.target=target ∧ state.authority.root_id=intent.root_id ∧
  state.authority.root_sha256=intent.root_sha256 ∧
  state.authority_revision=state.authority.revision ∧
  state.authority.current_epoch.1=state.authority.revision+1

instance (target : TargetBinding) (verified : VerifiedMutation) (state : TrustedRootAuthority) :
    Decidable (coherentAuthority target verified state) :=
  inferInstanceAs (Decidable (_ ∧ _))

/-- The epoch of a bundle that agrees with a verified mutation. -/
def coherentAuthorityEpoch (target : TargetBinding) (verified : VerifiedMutation)
    (snapshot : Option RootAuthorityBundle) : Option PositiveSafeInteger := do
  let bundle ← snapshot
  let state ← inspectRootAuthorityBundle functions target bundle
  if coherentAuthority target verified state then some state.authority.current_epoch else none

def acceptedIssuers : List String := ["accounts.google.com","https://accounts.google.com"]

/-- Check the caller again at dispatch. -/
def finalCallerDenial (route_policy : RouteAuthenticationPolicy) (verified : VerifiedMutation)
    (now_second : Int) : Except ReasonCode Unit :=
  let caller := verified.caller
  require (caller.role=route_policy.role ∧ caller.email=route_policy.email ∧
      caller.subject=route_policy.subject ∧ caller.audience=route_policy.audience ∧
      verified.request.handler_audience=verified.request.capability.audience ∧
      caller.issuer∈acceptedIssuers ∧ caller.issued_at ≤ now_second ∧
      now_second < caller.expires_at ∧ caller.expires_at-caller.issued_at ≤ 3660)
    .callerUnauthorized

/-- Check the authority of a revoked or an unhealthy source. -/
def recoverySourceDenial (source : RecoverySource) (apply_epoch : PositiveSafeInteger)
    (authority : EpochAuthorityRecord) : Except ReasonCode Unit := do
  require (∀ revoked∈source.revokedAuthority,authority=revoked ∧
      authority.cause=.operatorRevocation ∧ authority.previous_epoch=some apply_epoch)
    .epochMismatch
  require (source=.unhealthy → apply_epoch=authority.current_epoch) .epochMismatch

/-- Check what derived work is bound to. -/
def derivedWorkDenial (verified : VerifiedMutation) (authority : EpochAuthorityRecord)
    (now_second : Int) : Except ReasonCode Unit :=
  match verified.request.kind with
  | .task => .ok ()
  | .promotion work => do
    require (verified.root.version=.v3 ∧
        functions.promotionRequestMatchesRoot verified.request verified.root=true)
      .claimBindingMismatch
    require (now_second < work.proof_valid_until.1) .capabilityExpired
  | .recovery work source => do
    require (functions.recoveryRequestMatchesRoot verified.request verified.root=true)
      .claimBindingMismatch
    recoverySourceDenial source work.apply_epoch authority
    require (now_second < work.proof_valid_until.1) .capabilityExpired

/-- Whether an adapter of a purpose admits an action. -/
def roleAdmits (service_role : ServiceRole) (mutation_purpose : CloudRunMutationPurpose)
    (action : CapabilityAction) : Bool :=
  if service_role≠.executor then false
  else match mutation_purpose with
    | .stableRecovery => action==.recoverStable
    | .standardExecution => action==.applyCanary || action==.promoteCandidate

/-- The last check before a dispatch. It succeeds where the source finds no denial. -/
def finalAuthorityDenial (gate : FinalMutationGate) (verified : VerifiedMutation)
    (snapshot : Option RootAuthorityBundle) (now_second : Int) : Except ReasonCode Unit := do
  let bundle ← requireSome snapshot .authorityUnavailable
  let state ← requireSome (inspectRootAuthorityBundle functions gate.target bundle)
    .authorityUnavailable
  finalCallerDenial gate.route_policy verified now_second
  let request := verified.request
  let observed_authority_epoch ← requireSome
    (coherentAuthorityEpoch functions gate.target verified snapshot) .authorityUnavailable
  require (observed_authority_epoch=request.intent.epoch) .epochMismatch
  require (state.service_claim_revision%3=0 ∧ state.service_claim.status=.active ∧
      state.authority.changed_at.1 ≤ verified.earliest_lineage_issued_at) .authorityUnavailable
  require (request.capability.not_before.1 ≤ now_second ∧ request.scheduled_at.1 ≤ now_second)
    .capabilityNotYetValid
  require (now_second < request.capability.expires_at.1 ∧ now_second < request.expires_at.1)
    .capabilityExpired
  derivedWorkDenial functions verified state.authority now_second
  require (roleAdmits gate.service_role gate.mutation_purpose request.intent.action=true)
    .claimBindingMismatch

/-- Whether a prepared call is the one that was asked for. -/
def preparedMutationMatches (gate : FinalMutationGate) (verified : VerifiedMutation)
    (prepared : PreparedTargetMutation) : Prop :=
  prepared.target=gate.target ∧ prepared.service_role=gate.service_role ∧
  prepared.kind=verified.request.kind ∧ prepared.intent=verified.request.intent

instance (gate : FinalMutationGate) (verified : VerifiedMutation)
    (prepared : PreparedTargetMutation) :
    Decidable (preparedMutationMatches gate verified prepared) :=
  inferInstanceAs (Decidable (_ ∧ _))

/-- Whether a binding fits the kind of a request. -/
def bindingMatchesKind (binding : MutationBinding) (verified : VerifiedMutation) : Prop :=
  match verified.request.kind with
  | .task => verified.request.intent.action≠.recoverStable
  | .promotion work => verified.root.version=.v3 ∧
    binding.expected_poststate_sha256=work.desired_poststate_sha256 ∧
    functions.promotionRequestMatchesRoot verified.request verified.root=true
  | .recovery work _ => binding.expected_poststate_sha256=work.desired_poststate_sha256 ∧
    functions.recoveryRequestMatchesRoot verified.request verified.root=true

instance (binding : MutationBinding) (verified : VerifiedMutation) :
    Decidable (bindingMatchesKind functions binding verified) := by
  unfold bindingMatchesKind
  split <;> infer_instance

def bindingMatchesVerified (binding : MutationBinding) (verified : VerifiedMutation) : Prop :=
  let request := verified.request
  let intent := request.intent
  binding.idempotency_key=intent.idempotency_key.1 ∧ binding.request_id=intent.request_id.1 ∧
  binding.root_id=intent.root_id.1 ∧ binding.root_sha256=intent.root_sha256 ∧
  binding.epoch=intent.epoch.1 ∧ binding.action=intent.action ∧
  binding.target=intent.target.key ∧ binding.provider_precondition=intent.provider_etag.1 ∧
  binding.plan_sha256=intent.plan_sha256 ∧
  binding.capability_sha256=verified.capability_sha256 ∧
  binding.payload_sha256=functions.requestSha256 request ∧
  verified.capability_sha256=functions.capabilitySha256 request.capability ∧
  verified.claims_sha256=request.capability.claims_sha256 ∧
  bindingMatchesKind functions binding verified

instance (binding : MutationBinding) (verified : VerifiedMutation) :
    Decidable (bindingMatchesVerified functions binding verified) :=
  inferInstanceAs (Decidable (_ ∧ _))

/-- States of a lease. -/
inductive LeaseState
  | fresh | entered | closed
  deriving DecidableEq,Repr

/-- One-use ownership of a fresh receipt claim. -/
structure ReceiptDispatchLease where
  claimed_receipt : StoredRecord ExecutionReceipt
  binding : MutationBinding
  state : LeaseState
  initial : validateInitialReceiptClaim functions.sha256 claimed_receipt=.ok ()
  /-- The receipt matches the binding. -/
  bound : receiptMatchesBinding functions.sha256 claimed_receipt.value binding

/-- Mint a lease from the proof of a direct create. -/
def mint (created : DirectReceiptCreate) : Except Raised (ReceiptDispatchLease functions) :=
  if hinitial : validateInitialReceiptClaim functions.sha256 created.claimed_receipt=.ok () then
    if hbound : receiptMatchesBinding functions.sha256 created.claimed_receipt.value
        created.binding then
      .ok ⟨created.claimed_receipt,created.binding,.fresh,hinitial,hbound⟩
    else .error (.valueError "receipt dispatch lease binding is invalid")
  else .error (.valueError "receipt is not one initial claim")

/-- Denial before any dispatch. -/
structure FinalAuthorityDenial where
  reason_code : ReasonCode
  claimed_receipt : StoredRecord ExecutionReceipt
  observed_authority_epoch : Option PositiveSafeInteger

/-- Result of a dispatch. -/
structure FinalMutationResult where
  result : ReceiptMutationResult
  observed_authority_epoch : PositiveSafeInteger

variable {functions}

/-- Enter a lease, or say why not. -/
def ReceiptDispatchLease.enter (lease : ReceiptDispatchLease functions)
    (verified : VerifiedMutation) : ReceiptDispatchLease functions×Option ReasonCode :=
  if lease.state≠.fresh then (lease,some .receiptInProgress)
  else if ¬bindingMatchesVerified functions lease.binding verified then
    ({lease with state := .closed},some .idempotencyConflict)
  else ({lease with state := .entered},none)

/-- Denial of an entered lease, which is closed with it. -/
def ReceiptDispatchLease.denial (lease : ReceiptDispatchLease functions) (reason_code : ReasonCode)
    (observed_authority_epoch : Option PositiveSafeInteger) :
    FinalAuthorityDenial⊕FinalMutationResult :=
  .inl ⟨reason_code,lease.claimed_receipt,observed_authority_epoch⟩

/-- Turn an entered lease into a permit. -/
def ReceiptDispatchLease.authorize (lease : ReceiptDispatchLease functions)
    (verified : VerifiedMutation) (target : TargetBinding) (service_role : ServiceRole) :
    Except Raised MutationPermit := do
  require (lease.state=.entered) (.runtimeError "receipt dispatch lease is not active")
  require (verified.request.intent.target=target)
    (.valueError "mutation permit binding is invalid")
  return {
    target := target
    service_role := service_role
    kind := verified.request.kind
    intent := verified.request.intent
    receipt_id := lease.claimed_receipt.value.receipt_id
    binding := lease.binding }

variable (functions)

/-- Read again the receipt that derived work comes from. -/
def revalidatePromotionSourceReceipt (gate : FinalMutationGate) (verified : VerifiedMutation) :
    Executor (Option ReasonCode) :=
  match verified.request.kind.work with
  | none => return none
  | some work =>
    if gate.has_source_receipt_reader=false then return some .authorityUnavailable
    else do
      match ← Program.call (Operation.readSourceReceipt work.apply_idempotency_key) with
      | .ok (some stored) =>
        if stored.revision < 2 then return some .authorityUnavailable
        else return functions.sourceReceiptDenial verified.request stored
      | _ => return some .authorityUnavailable

/-- Dispatch with a permit, and keep the epoch that was read last. -/
def dispatchPermit (observed_authority_epoch : PositiveSafeInteger) (permit : MutationPermit) :
    Executor (FinalAuthorityDenial⊕FinalMutationResult) := do
  match ← Program.call (Operation.mutate permit) with
  | some result => return .inr ⟨result,observed_authority_epoch⟩
  | none => .raised (.runtimeError "mutation adapter failed")

/-- Check the authority that was read last and dispatch without another wait. -/
def checkAndDispatch (gate : FinalMutationGate) (lease : ReceiptDispatchLease functions)
    (verified : VerifiedMutation) (snapshot : Option RootAuthorityBundle) :
    Executor (FinalAuthorityDenial⊕FinalMutationResult) := do
  match ← Program.lookOnce with
  | none => return lease.denial .authorityUnavailable none
  | some now =>
    let observed_authority_epoch := coherentAuthorityEpoch functions gate.target verified snapshot
    match finalAuthorityDenial functions gate verified snapshot now.1 with
    | .error denial => return lease.denial denial observed_authority_epoch
    | .ok () =>
      match observed_authority_epoch with
      | none => return lease.denial .authorityUnavailable none
      | some epoch =>
        let permit ← Program.lift (lease.authorize verified gate.target gate.service_role)
        dispatchPermit epoch permit

/-- Read the authority of the root as the last wait before the dispatch. -/
def readAuthorityAndDispatch (gate : FinalMutationGate) (lease : ReceiptDispatchLease functions)
    (verified : VerifiedMutation) : Executor (FinalAuthorityDenial⊕FinalMutationResult) := do
  match ← Program.call (Operation.readRootCreationBundle verified.request.intent.root_id) with
  | .error _ => return lease.denial .authorityUnavailable none
  | .ok snapshot => checkAndDispatch functions gate lease verified snapshot

/-- Prepare the provider call, then read the sources and the authority. -/
def prepareAndDispatch (gate : FinalMutationGate) (lease : ReceiptDispatchLease functions)
    (verified : VerifiedMutation) : Executor (FinalAuthorityDenial⊕FinalMutationResult) := do
  match ← Program.call (Operation.prepare verified.request.kind verified.request.intent) with
  | none => return lease.denial .authorityUnavailable none
  | some prepared =>
    if ¬preparedMutationMatches gate verified prepared then
      return lease.denial .claimBindingMismatch none
    else
      match ← revalidatePromotionSourceReceipt functions gate verified with
      | some receipt_denial => return lease.denial receipt_denial none
      | none => readAuthorityAndDispatch functions gate lease verified

def RequestKind.isRecovery : RequestKind → Bool
  | .recovery _ _ => true
  | _ => false

/-- Consume one lease, check the authority again and dispatch. -/
def FinalMutationGate.execute (gate : FinalMutationGate) (lease : ReceiptDispatchLease functions)
    (verified : VerifiedMutation) : Executor (FinalAuthorityDenial⊕FinalMutationResult) :=
  match lease.enter verified with
  | (entered,some entry_denial) => return entered.denial entry_denial none
  | (entered,none) =>
    if RequestKind.isRecovery verified.request.kind≠
        (gate.mutation_purpose==.stableRecovery) then
      return entered.denial .claimBindingMismatch none
    else prepareAndDispatch functions gate entered verified

/-- What a dispatch needs of the authority that was read last and of the clock. -/
structure DispatchConditions (verified : VerifiedMutation) (bundle : RootAuthorityBundle)
    (now : UtcSecond) : Prop where
  epoch : bundle.authority.value.current_epoch=verified.request.intent.epoch
  active : bundle.service_claim.value.status=.active
  capability_begun : verified.request.capability.not_before.1 ≤ now.1
  capability_open : now.1 < verified.request.capability.expires_at.1
  task_begun : verified.request.scheduled_at.1 ≤ now.1
  task_open : now.1 < verified.request.expires_at.1

section

variable {functions} {gate : FinalMutationGate} {verified : VerifiedMutation}

theorem inspectRootAuthorityBundle_eq_some {target : TargetBinding} {bundle : RootAuthorityBundle}
    {state : TrustedRootAuthority}
    (h : inspectRootAuthorityBundle functions target bundle=some state) :
    state.service_claim=bundle.service_claim.value ∧ state.authority=bundle.authority.value := by
  unfold inspectRootAuthorityBundle at h
  split at h
  · rw [← Option.some.inj h]
    exact ⟨rfl,rfl⟩
  · cases h

theorem coherentAuthorityEpoch_eq_some {target : TargetBinding} {bundle : RootAuthorityBundle}
    {epoch : PositiveSafeInteger}
    (h : coherentAuthorityEpoch functions target verified (some bundle)=some epoch) :
    epoch=bundle.authority.value.current_epoch := by
  have hcoherent : (inspectRootAuthorityBundle functions target bundle>>=fun state =>
      if coherentAuthority target verified state then some state.authority.current_epoch
      else none)=some epoch := h
  obtain ⟨state,hstate,hepoch⟩ := Option.bind_eq_some_iff.mp hcoherent
  split at hepoch
  · rw [← Option.some.inj hepoch,(inspectRootAuthorityBundle_eq_some hstate).2]
  · cases hepoch

/-- The last check finds no denial only under the conditions of a dispatch. -/
theorem conditions_of_finalAuthorityDenial {snapshot : Option RootAuthorityBundle}
    {now : UtcSecond} (h : finalAuthorityDenial functions gate verified snapshot now.1=.ok ()) :
    ∃ bundle,snapshot=some bundle ∧ DispatchConditions verified bundle now := by
  rw [finalAuthorityDenial,bind_eq_ok] at h
  obtain ⟨bundle,hbundle,h⟩ := h
  have hsnapshot := requireSome_eq_ok.mp hbundle
  rw [bind_eq_ok] at h
  obtain ⟨state,hinspect,h⟩ := h
  obtain ⟨hclaim,hauthority⟩ := inspectRootAuthorityBundle_eq_some (requireSome_eq_ok.mp hinspect)
  rw [check_bind_eq_ok,bind_eq_ok] at h
  obtain ⟨-,epoch,hepoch,h⟩ := h
  rw [requireSome_eq_ok,hsnapshot] at hepoch
  have hread := coherentAuthorityEpoch_eq_some hepoch
  simp only [check_bind_eq_ok,require_eq_ok] at h
  obtain ⟨hintent,⟨-,hactive,-⟩,⟨hbegun,hscheduled⟩,⟨hopen,htask⟩,-,-⟩ := h
  rw [hclaim] at hactive
  rw [hread] at hintent
  exact ⟨bundle,hsnapshot,⟨hintent,hactive,hbegun,hopen,hscheduled,htask⟩⟩

end

end ControlGraph.ExecutionGate
