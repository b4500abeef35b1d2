import ControlGraph.CapabilityContracts
import ControlGraph.OrphanGrace
import ControlGraph.RevocationContracts

/-!
# One mutation of the Cloud Run service

An adapter is sealed to one service, two revisions and one purpose. It admits an
intent or rejects it, and a recovery is also rejected unless the service is read in
the state that was attested. An admitted intent is one update request. The provider
may answer the request in any way, and the answer is classified: as safely failed, as
applied, or as ambiguous. The reader of operation names admits a name with a control
character inside, which the contract of the result refuses; this raises after
the request was sent. The decoder of the provider's messages is a parameter.
-/

namespace ControlGraph.CloudRunMutations

open CapabilityContracts Checks ContractText ExecutionGate ExecutionRequests ReceiptContracts

open RevocationContracts (isStripped)

/-- Declared service and its two revisions. -/
structure CloudRunTargetConfiguration where
  target : TargetBinding
  stable_revision : CloudRunName
  candidate_revision : CloudRunName
  concurrency : Nat
  distinct : stable_revision≠candidate_revision
  bounded : 1 ≤ concurrency ∧ concurrency ≤ 1000

/-- Traffic of one revision. -/
structure CloudRunTrafficAllocation where
  revision : CloudRunName
  percent : Nat
  tag : Option String
  deriving DecidableEq

/-- State of a service in one message of the provider. -/
structure CloudRunServiceState where
  etag : OpaqueToken
  generation : Nat
  observed_generation : Nat
  reconciling : Bool
  ready : Bool
  template_concurrency : Nat
  traffic : List CloudRunTrafficAllocation
  traffic_statuses : List CloudRunTrafficAllocation
  deriving DecidableEq

/-- Classes of a mutation. -/
inductive CloudRunMutationOutcome
  | applied | failedSafe | ambiguous
  deriving DecidableEq,Repr

/-- Reasons of a mutation that was not applied. -/
inductive CloudRunMutationReason
  | preconditionFailed | declarationMismatch | providerRejected | outcomeUnknown
  deriving DecidableEq,Repr

/-- A character that no bounded text contains. -/
def isControl (character : Char) : Bool := character.toNat < 32 || character.toNat == 127

def requireBoundedText (name : String) (maximum : Nat) (value : String) : Except Raised Unit :=
  require (value≠"" ∧ isStripped value=true ∧ value.length ≤ maximum ∧
      ∀ character∈value.toList,isControl character=false)
    (.valueError (name++" is not bounded text"))

/-- Check a requested traffic. -/
def validateRequested (requested : List CloudRunTrafficAllocation) : Except Raised Unit := do
  match requested with
  | [stable] =>
    require (stable.percent=100 ∧ stable.tag=some "stable")
      (.valueError "single-target mutation traffic must be stable-only")
  | [first,second] =>
    require (first.revision≠second.revision)
      (.valueError "mutation traffic revisions must be distinct")
  | _ => .error (.valueError "a mutation must bind one or both declared revisions")
  require ((requested.map CloudRunTrafficAllocation.percent).sum=100)
    (.valueError "mutation traffic does not total one hundred percent")

/-- One mutation attempt. -/
structure MutationResultFields where
  outcome : CloudRunMutationOutcome
  requested_traffic : List CloudRunTrafficAllocation
  expected_concurrency : Nat
  operation_name : Option String
  service : Option CloudRunServiceState
  reason : Option CloudRunMutationReason
  deriving DecidableEq

/-- Check a mutation attempt. -/
def validateMutationResult (result : MutationResultFields) : Except Raised Unit := do
  validateRequested result.requested_traffic
  require (1 ≤ result.expected_concurrency ∧ result.expected_concurrency ≤ 1000)
    (.valueError "mutation concurrency is outside the approved bound")
  result.operation_name.toList.forM (requireBoundedText "operation name" 512)
  match result.outcome with
  | .applied =>
    require (result.operation_name≠none ∧ result.service≠none ∧ result.reason=none)
      (.valueError "applied mutation result shape is invalid")
  | outcome =>
    require (result.service=none ∧ result.reason≠none)
      (.valueError "non-applied mutation result shape is invalid")
    require (outcome=.ambiguous → result.reason=some .outcomeUnknown)
      (.valueError "ambiguous mutation requires an unknown-outcome reason")
    require (outcome=.failedSafe → result.reason≠some .outcomeUnknown ∧ result.operation_name=none)
      (.valueError "failed-safe mutation result shape is invalid")

/-- A mutation attempt that was accepted. -/
structure CloudRunMutationResult extends fields : MutationResultFields where
  accepted : validateMutationResult fields=.ok ()

def makeResult (fields : MutationResultFields) : Except Raised CloudRunMutationResult :=
  match h : validateMutationResult fields with
  | .ok () => .ok ⟨fields,h⟩
  | .error raised => .error raised

/-- An intent of one kind, as its contract gives it. -/
structure CloudRunMutationIntent where
  kind : RequestKind
  intent : MutationIntent
  distinct : intent.stable_revision≠intent.candidate_revision
  traffic : (intent.stable_percent,intent.candidate_percent)=expectedTraffic intent.action
  sealed : match kind with
    | .task => True
    | .promotion _ => intent.action=.promoteCandidate ∧ intent.concurrency=none
    | .recovery _ _ => intent.action=.recoverStable ∧ intent.concurrency≠none

/-- An adapter of the executor. -/
structure CloudRunV2Adapter where
  configuration : CloudRunTargetConfiguration
  mutation_purpose : CloudRunMutationPurpose

/-- Traffic of a revision under its own tag. -/
def CloudRunTargetConfiguration.split (configuration : CloudRunTargetConfiguration)
    (stable_percent candidate_percent : Nat) : List CloudRunTrafficAllocation :=
  [⟨configuration.stable_revision,stable_percent,some "stable"⟩,
    ⟨configuration.candidate_revision,candidate_percent,some "candidate"⟩]

/-- Traffic that an intent asks for. -/
def CloudRunV2Adapter.requested (adapter : CloudRunV2Adapter) (intent : CloudRunMutationIntent) :
    List CloudRunTrafficAllocation :=
  match intent.kind with
  | .recovery _ _ => [⟨adapter.configuration.stable_revision,100,some "stable"⟩]
  | _ => adapter.configuration.split intent.intent.stable_percent intent.intent.candidate_percent

/-- The declared target at a traffic split. -/
def CloudRunTargetConfiguration.projection (configuration : CloudRunTargetConfiguration)
    (stable_percent candidate_percent : Nat) : TargetConfigurationProjection where
  target := configuration.target
  stable_revision := configuration.stable_revision
  candidate_revision := configuration.candidate_revision
  stable_percent := stable_percent
  candidate_percent := candidate_percent
  concurrency := configuration.concurrency

variable (functions : ContractFunctions)

/-- Whether a purpose admits the kind and the action of an intent. -/
def roleAdmitsIntent (mutation_purpose : CloudRunMutationPurpose) (intent : CloudRunMutationIntent) :
    Bool :=
  match mutation_purpose with
  | .standardExecution =>
    intent.intent.action==.applyCanary || intent.intent.action==.promoteCandidate
  | .stableRecovery => RequestKind.isRecovery intent.kind && intent.intent.action==.recoverStable

/-- Whether the sealed part of an intent is that of the declared target. -/
def sealedExact (adapter : CloudRunV2Adapter) (intent : CloudRunMutationIntent) : Prop :=
  let configuration := adapter.configuration
  match intent.kind with
  | .task => True
  | .promotion work => intent.intent.action=.promoteCandidate ∧ intent.intent.stable_percent=0 ∧
      intent.intent.candidate_percent=100 ∧ intent.intent.concurrency=none ∧
      work.desired_poststate_sha256=functions.projectionSha256 (configuration.projection 0 100)
  | .recovery work _ => adapter.mutation_purpose=.stableRecovery ∧
      intent.intent.stable_percent=100 ∧ intent.intent.candidate_percent=0 ∧
      intent.intent.concurrency=some configuration.concurrency ∧
      work.expected_prestate_sha256=functions.projectionSha256 (configuration.projection 90 10) ∧
      work.desired_poststate_sha256=functions.projectionSha256 (configuration.projection 100 0)

instance (adapter : CloudRunV2Adapter) (intent : CloudRunMutationIntent) :
    Decidable (sealedExact functions adapter intent) := by
  unfold sealedExact
  split <;> infer_instance

/-- Reject an intent that is outside the declaration of the adapter. -/
def admitIntent (adapter : CloudRunV2Adapter) (intent : CloudRunMutationIntent) :
    Except CloudRunMutationReason Unit :=
  let configuration := adapter.configuration
  require ((intent.intent.target=configuration.target ∧
        intent.intent.stable_revision=configuration.stable_revision ∧
        intent.intent.candidate_revision=configuration.candidate_revision) ∧
      roleAdmitsIntent adapter.mutation_purpose intent=true ∧
      intent.intent.concurrency=(if intent.intent.action=.recoverStable
        then some configuration.concurrency else none) ∧
      sealedExact functions adapter intent) .declarationMismatch

/-- What the attestation of a recovery has seen. -/
structure AttestedPrestate where
  current_provider_etag : OpaqueToken
  service_generation : Nat

/-- Reject a recovery whose service is not in the attested state. -/
def recoveryPrestateRejection (adapter : CloudRunV2Adapter) (intent : CloudRunMutationIntent)
    (attested : AttestedPrestate) (service : CloudRunServiceState) :
    Except CloudRunMutationReason Unit :=
  require (service.etag=intent.intent.provider_etag ∧
      service.etag=attested.current_provider_etag ∧
      service.generation=attested.service_generation ∧ service.reconciling=false ∧
      service.ready=true ∧ service.generation=service.observed_generation ∧
      service.template_concurrency=adapter.configuration.concurrency ∧
      service.traffic=adapter.configuration.split 90 10 ∧
      service.traffic_statuses=adapter.configuration.split 90 10) .preconditionFailed

/-- The one request of a mutation. -/
structure UpdateServiceRequest where
  name : String
  etag : OpaqueToken
  traffic : List CloudRunTrafficAllocation
  update_mask : List String
  validate_only : Bool
  allow_missing : Bool
  deriving DecidableEq

def serviceResource (target : TargetBinding) : String :=
  "projects/"++target.project_id.1++"/locations/"++target.region.1++"/services/"++
    target.service_name.1

/-- Request of an intent, on the condition of its etag. -/
def updateRequest (adapter : CloudRunV2Adapter) (intent : CloudRunMutationIntent) :
    UpdateServiceRequest where
  name := serviceResource adapter.configuration.target
  etag := intent.intent.provider_etag
  traffic := adapter.requested intent
  update_mask := ["traffic"]
  validate_only := false
  allow_missing := false

/-- A mutation that waits for its permit: rejected, or with its request. -/
structure PreparedCloudRunV2Mutation where
  adapter : CloudRunV2Adapter
  intent : CloudRunMutationIntent
  rejection : Option CloudRunMutationReason
  known : rejection≠some .outcomeUnknown

/-- What the read before a recovery comes to. -/
inductive ReadAnswer
  | service (state : CloudRunServiceState)
  /-- A known rejection. -/
  | rejected
  /-- Any other error, of the client, of the decoder, or a cancellation. -/
  | raised

/-- Prepare a mutation. It has no value when it raises. -/
def prepare (adapter : CloudRunV2Adapter) (intent : CloudRunMutationIntent)
    (attested : AttestedPrestate) (client : Bool) (read : ReadAnswer) :
    Option PreparedCloudRunV2Mutation :=
  match admitIntent functions adapter intent with
  | .error _ => some ⟨adapter,intent,some .declarationMismatch,by decide⟩
  | .ok () =>
    if client=false then none
    else if RequestKind.isRecovery intent.kind=false then some ⟨adapter,intent,none,by decide⟩
    else match read with
      | .raised => none
      | .rejected => some ⟨adapter,intent,some .providerRejected,by decide⟩
      | .service state =>
        match recoveryPrestateRejection adapter intent attested state with
        | .error _ => some ⟨adapter,intent,some .preconditionFailed,by decide⟩
        | .ok () => some ⟨adapter,intent,none,by decide⟩

/-- What waiting for an operation comes to. -/
inductive OperationResult (Response : Type)
  | response (response : Response)
  | raised
  | cancelled

/-- An operation of the provider. Its name may fail to be a text. -/
structure ProviderOperation (Response : Type) where
  name : Option String
  result : OperationResult Response

/-- How the provider answers a request. -/
inductive UpdateAnswer (Response : Type)
  | precondition
  | rejected
  | raised
  | cancelled
  | operation (operation : ProviderOperation Response)

/-- What a mutation raises. -/
inductive MutationRaised
  | cancelledError
  | contract (raised : Raised)
  deriving DecidableEq

def operationName {Response : Type} (operation : ProviderOperation Response) : Option String :=
  operation.name.filter fun name =>
    decide (name≠"") && decide (name.length ≤ 512) && isStripped name

/-- Result fields of a prepared mutation. -/
def PreparedCloudRunV2Mutation.fields (prepared : PreparedCloudRunV2Mutation)
    (outcome : CloudRunMutationOutcome) (operation_name : Option String)
    (service : Option CloudRunServiceState) (reason : Option CloudRunMutationReason) :
    MutationResultFields where
  outcome := outcome
  requested_traffic := prepared.adapter.requested prepared.intent
  expected_concurrency := prepared.adapter.configuration.concurrency
  operation_name := operation_name
  service := service
  reason := reason

/-- Fields of a mutation whose outcome is not known. -/
def PreparedCloudRunV2Mutation.unknown (prepared : PreparedCloudRunV2Mutation)
    (operation_name : Option String) : MutationResultFields :=
  prepared.fields .ambiguous operation_name none (some .outcomeUnknown)

/-- Fields of an operation that was waited for. -/
def PreparedCloudRunV2Mutation.settle {Response : Type}
    (decodeService : Response → Option CloudRunServiceState)
    (prepared : PreparedCloudRunV2Mutation) (name : String) :
    OperationResult Response → Except MutationRaised MutationResultFields
  | .cancelled => .error .cancelledError
  | .raised => .ok (prepared.unknown (some name))
  | .response response =>
    match (decodeService response).filter
        (fun service => service.traffic=prepared.adapter.requested prepared.intent) with
    | none => .ok (prepared.unknown (some name))
    | some service => .ok (prepared.fields .applied (some name) (some service) none)

/-- Fields of an answer, unless the call was cancelled. -/
def PreparedCloudRunV2Mutation.classify {Response : Type}
    (decodeService : Response → Option CloudRunServiceState)
    (prepared : PreparedCloudRunV2Mutation) :
    UpdateAnswer Response → Except MutationRaised MutationResultFields
  | .precondition => .ok (prepared.fields .failedSafe none none (some .preconditionFailed))
  | .rejected => .ok (prepared.fields .failedSafe none none (some .providerRejected))
  | .raised => .ok (prepared.unknown none)
  | .cancelled => .error .cancelledError
  | .operation operation =>
    match operationName operation with
    | none => .ok (prepared.unknown none)
    | some name => prepared.settle decodeService name operation.result

/-- Make the result of some fields, unless the call was cancelled. -/
def finishMutation (result : Except MutationRaised MutationResultFields) :
    Except MutationRaised CloudRunMutationResult := do
  let fields ← result
  (makeResult fields).mapError .contract

/-- Issue the prepared request under a permit. The requests that were sent are kept. -/
def PreparedCloudRunV2Mutation.mutate {Response : Type}
    (decodeService : Response → Option CloudRunServiceState)
    (prepared : PreparedCloudRunV2Mutation) (permit : MutationPermit)
    (provider : UpdateServiceRequest → UpdateAnswer Response) :
    List UpdateServiceRequest×Except MutationRaised CloudRunMutationResult :=
  let rejected (reason : CloudRunMutationReason) :=
    ([],finishMutation (.ok (prepared.fields .failedSafe none none (some reason))))
  if ¬(permit.kind=prepared.intent.kind ∧ permit.intent=prepared.intent.intent) then
    rejected .declarationMismatch
  else match prepared.rejection with
    | some reason => rejected reason
    | none =>
      let request := updateRequest prepared.adapter prepared.intent
      ([request],finishMutation (prepared.classify decodeService (provider request)))

/-- Reason of a receipt for a safely failed mutation. -/
def failedSafeReason : CloudRunMutationReason → Option ReasonCode
  | .preconditionFailed => some .providerPreconditionFailed
  | .declarationMismatch => some .targetBindingMismatch
  | .providerRejected => some .providerRequestRejected
  | .outcomeUnknown => none

instance (status : ReceiptMutationStatus) (provider_operation : Option BoundedText)
    (reason_code : Option ReasonCode) :
    Decidable (mutationResultShape status provider_operation reason_code) := by
  unfold mutationResultShape
  cases status <;> infer_instance

def makeReceiptResult (status : ReceiptMutationStatus) (provider_operation : Option String)
    (reason_code : Option ReasonCode) : Except Raised ReceiptMutationResult := do
  require (∀ operation∈provider_operation,operation≠"" ∧ isStripped operation=true ∧
      operation.length ≤ 512) (.valueError "provider operation is invalid")
  let operation := provider_operation.bind fun text =>
    if h : 1 ≤ text.length ∧ text.length≤2048 then some (⟨text,h⟩ : BoundedText) else none
  if h : mutationResultShape status operation reason_code then .ok ⟨status,operation,reason_code,h⟩
  else .error (.valueError "mutation result shape is invalid")

def mapCloudRunMutationResult (result : CloudRunMutationResult) :
    Except Raised ReceiptMutationResult :=
  match result.outcome with
  | .applied => makeReceiptResult .applied result.operation_name none
  | .ambiguous => makeReceiptResult .ambiguous result.operation_name (some .providerOutcomeAmbiguous)
  | .failedSafe => do
    let reason_code ← requireSome (result.reason.bind failedSafeReason)
      (.valueError "failed-safe Cloud Run mutation reason is invalid")
    makeReceiptResult .failedSafe none (some reason_code)

/-- What a name of an operation is checked for before the result is made. -/
theorem operationName_eq_some {Response : Type} {operation : ProviderOperation Response}
    {name : String} : operationName operation=some name ↔
      operation.name=some name ∧ name≠"" ∧ name.length ≤ 512 ∧ isStripped name=true := by
  rw [operationName,Option.filter_eq_some_iff]
  simp only [Bool.and_eq_true,decide_eq_true_eq,and_assoc]

/-- The requested traffic of a contracted intent is valid. -/
theorem validateRequested_requested (adapter : CloudRunV2Adapter) (intent : CloudRunMutationIntent) :
    validateRequested (adapter.requested intent)=.ok () := by
  have htotal : intent.intent.stable_percent+intent.intent.candidate_percent=100 := by
    have htraffic := intent.traffic
    cases haction : intent.intent.action <;> rw [haction] at htraffic <;>
      obtain ⟨hstable,hcandidate⟩ := Prod.mk.inj htraffic <;> omega
  have hsplit : validateRequested (adapter.configuration.split intent.intent.stable_percent
      intent.intent.candidate_percent)=.ok () := by
    refine check_bind_eq_ok.mpr ⟨require_of adapter.configuration.distinct,require_of ?_⟩
    simp only [CloudRunTargetConfiguration.split,List.map_cons,List.map_nil,List.sum_cons,
      List.sum_nil]
    omega
  cases hkind : intent.kind with
  | recovery work source =>
    rw [CloudRunV2Adapter.requested,hkind]
    rfl
  | task =>
    rw [CloudRunV2Adapter.requested,hkind]
    exact hsplit
  | promotion work =>
    rw [CloudRunV2Adapter.requested,hkind]
    exact hsplit

/-- Fields that fit their class. -/
def Shaped (outcome : CloudRunMutationOutcome) (operation_name : Option String)
    (service : Option CloudRunServiceState) (reason : Option CloudRunMutationReason) : Prop :=
  match outcome with
  | .applied => operation_name≠none ∧ service≠none ∧ reason=none
  | .failedSafe => service=none ∧ reason≠none ∧ reason≠some .outcomeUnknown ∧ operation_name=none
  | .ambiguous => service=none ∧ reason=some .outcomeUnknown

/-- A result is accepted when its name is bounded and its fields fit its class. -/
theorem validateMutationResult_eq_ok {result : MutationResultFields} :
    validateMutationResult result=.ok () ↔ validateRequested result.requested_traffic=.ok () ∧
      (1 ≤ result.expected_concurrency ∧ result.expected_concurrency ≤ 1000) ∧
      (∀ name∈result.operation_name,requireBoundedText "operation name" 512 name=.ok ()) ∧
      Shaped result.outcome result.operation_name result.service result.reason := by
  obtain ⟨outcome,requested,concurrency,name,service,reason⟩ := result
  rw [validateMutationResult,check_bind_eq_ok,check_bind_eq_ok,require_eq_ok,check_bind_eq_ok,
    forM_eq_ok]
  simp only [Option.mem_toList]
  refine and_congr_right fun _ => and_congr_right fun _ => and_congr_right fun _ => ?_
  cases outcome with
  | applied => exact require_eq_ok
  | failedSafe =>
    simp only [check_bind_eq_ok,require_eq_ok,Shaped,reduceCtorEq,false_implies,forall_const,
      true_and,and_assoc]
  | ambiguous =>
    simp only [check_bind_eq_ok,require_eq_ok,Shaped,reduceCtorEq,false_implies,forall_const,
      and_true,and_assoc]
    refine and_congr_right fun _ => ⟨fun h => h.2,fun h => ⟨?_,h⟩⟩
    rw [h]
    exact Option.some_ne_none _

theorem makeResult_eq_ok {fields : MutationResultFields} {result : CloudRunMutationResult} :
    makeResult fields=.ok result ↔ result.fields=fields := by
  unfold makeResult
  split
  · rename_i haccepted
    rw [Except.ok.injEq]
    constructor
    · rintro rfl
      rfl
    · rintro rfl
      rfl
  · rename_i raised hraised
    constructor
    · intro h
      cases h
    · rintro rfl
      rw [result.accepted] at hraised
      cases hraised

/-- Fields of a prepared mutation are a result unless the name has a control character. -/
theorem make_fields {prepared : PreparedCloudRunV2Mutation} {outcome : CloudRunMutationOutcome}
    {name : Option String} {service : Option CloudRunServiceState}
    {reason : Option CloudRunMutationReason} (hshaped : Shaped outcome name service reason)
    (hname : ∀ text∈name,text≠"" ∧ text.length ≤ 512 ∧ isStripped text=true) :
    (∃ result,makeResult (prepared.fields outcome name service reason)=.ok result) ↔
      ∀ text∈name,∀ character∈text.toList,isControl character=false := by
  have haccepted := @validateMutationResult_eq_ok (prepared.fields outcome name service reason)
  constructor
  · rintro ⟨result,hresult⟩ text htext
    have hfields := makeResult_eq_ok.mp hresult
    have hbounded := (haccepted.mp (hfields ▸ result.accepted)).2.2.1 text htext
    exact (require_eq_ok.mp hbounded).2.2.2
  · intro hplain
    refine ⟨⟨_,haccepted.mpr ⟨validateRequested_requested _ _,prepared.adapter.configuration.bounded,
      fun text htext => ?_,hshaped⟩⟩,makeResult_eq_ok.mpr rfl⟩
    obtain ⟨hnonempty,hlength,hstripped⟩ := hname text htext
    exact require_of ⟨hnonempty,hstripped,hlength,hplain text htext⟩

/-- Every accepted result is mapped to one for the receipt. -/
theorem mapCloudRunMutationResult_total (result : CloudRunMutationResult) :
    ∃ mapped,mapCloudRunMutationResult result=.ok mapped := by
  obtain ⟨⟨outcome,requested,concurrency,name,service,reason⟩,haccepted⟩ := result
  obtain ⟨-,-,hname,hshaped⟩ := validateMutationResult_eq_ok.mp haccepted
  have hmake : ∀ {status : ReceiptMutationStatus} {reason_code : Option ReasonCode},
      (∀ operation : Option BoundedText,(operation=none ↔ name=none) →
        (∀ text∈operation,text.1.length ≤ 512) → mutationResultShape status operation reason_code) →
      ∃ mapped,makeReceiptResult status name reason_code=.ok mapped := by
    intro status reason_code hshape
    have hchecked : ∀ operation∈name,operation≠"" ∧ isStripped operation=true ∧
        operation.length ≤ 512 := by
      intro operation hoperation
      obtain ⟨hnonempty,hstripped,hlength,-⟩ := require_eq_ok.mp (hname operation hoperation)
      exact ⟨hnonempty,hstripped,hlength⟩
    unfold makeReceiptResult
    rw [require_of hchecked]
    have hkept : mutationResultShape status (name.bind fun text =>
        if h : 1 ≤ text.length ∧ text.length≤2048 then some (⟨text,h⟩ : BoundedText) else none)
        reason_code := by
      refine hshape _ ?_ ?_
      · cases name with
        | none => exact ⟨fun _ => rfl,fun _ => rfl⟩
        | some text =>
          obtain ⟨hnonempty,-,hlength⟩ := hchecked text rfl
          have hpositive := Nat.pos_of_ne_zero fun hzero => hnonempty (String.length_eq_zero_iff.mp hzero)
          rw [Option.bind_some,dif_pos ⟨hpositive,by omega⟩]
          exact ⟨fun h => absurd h (Option.some_ne_none _),fun h => absurd h (Option.some_ne_none _)⟩
      · intro text htext
        obtain ⟨whole,hwhole,hsome⟩ := Option.bind_eq_some_iff.mp htext
        split at hsome
        · cases hsome
          exact (hchecked whole hwhole).2.2
        · cases hsome
    exact ⟨_,dif_pos hkept⟩
  cases outcome with
  | applied =>
    refine hmake fun operation hsame hlength => ⟨hlength,rfl,?_⟩
    exact fun hnone => hshaped.1 (hsame.mp hnone)
  | ambiguous => exact hmake fun operation _ hlength => ⟨hlength,rfl⟩
  | failedSafe =>
    obtain ⟨-,hsome,hknown,hnone⟩ := hshaped
    obtain ⟨cause,rfl⟩ := Option.ne_none_iff_exists'.mp hsome
    have hreason : ∃ reason_code∈failedSafeReasons,failedSafeReason cause=some reason_code := by
      cases cause with
      | outcomeUnknown => exact absurd rfl hknown
      | _ => exact ⟨_,by decide,rfl⟩
    obtain ⟨reason_code,hmem,hcode⟩ := hreason
    have hmapped := @hmake .failedSafe (some reason_code) fun operation hsame hlength =>
      ⟨hlength,hsame.mpr hnone,reason_code,hmem,rfl⟩
    rw [show name=none from hnone] at hmapped
    obtain ⟨mapped,hmapped⟩ := hmapped
    refine ⟨mapped,bind_eq_ok.mpr ⟨reason_code,?_,hmapped⟩⟩
    rw [Option.bind_some,hcode]
    rfl

/-- What a result says about the call and its answer. -/
structure Told {Response : Type} (decodeService : Response → Option CloudRunServiceState)
    (prepared : PreparedCloudRunV2Mutation) (sent : Prop) (answer : UpdateAnswer Response)
    (result : MutationResultFields) : Prop where
  failed : result.outcome=.failedSafe → ¬sent ∨ answer=.precondition ∨ answer=.rejected
  applied : result.outcome=.applied → sent ∧ ∃ operation name response service,
    answer=.operation operation ∧ operationName operation=some name ∧
    operation.result=.response response ∧ decodeService response=some service ∧
    service.traffic=prepared.adapter.requested prepared.intent ∧
    result.operation_name=some name ∧ result.service=some service
  ambiguous : result.outcome=.ambiguous → sent ∧
    ∀ operation,answer=.operation operation → result.operation_name=operationName operation

/-- Answers after which nothing is returned: a cancellation, and a usable name with a
control character inside. -/
def Unreturned {Response : Type} (answer : UpdateAnswer Response) : Prop :=
  answer=.cancelled ∨ ∃ operation name,answer=.operation operation ∧
    operationName operation=some name ∧
      (operation.result=.cancelled ∨ ∃ character∈name.toList,isControl character=true)

/-- Fields that fit their class are returned unless the name has a control character. -/
theorem finish_fields {prepared : PreparedCloudRunV2Mutation} {outcome : CloudRunMutationOutcome}
    {name : Option String} {service : Option CloudRunServiceState}
    {reason : Option CloudRunMutationReason} (hshaped : Shaped outcome name service reason)
    (hname : ∀ text∈name,text≠"" ∧ text.length ≤ 512 ∧ isStripped text=true) :
    (∀ result,finishMutation (.ok (prepared.fields outcome name service reason))=.ok result →
      result.fields=prepared.fields outcome name service reason) ∧
    ((∃ raised,finishMutation (.ok (prepared.fields outcome name service reason))=.error raised) ↔
      ∃ text∈name,∃ character∈text.toList,isControl character=true) := by
  have hmake := @make_fields prepared _ _ _ _ hshaped hname
  have hfinish : ∀ fields,finishMutation (.ok fields)=(makeResult fields).mapError .contract :=
    fun _ => rfl
  rw [hfinish]
  refine ⟨fun result h => makeResult_eq_ok.mp (mapError_eq_ok.mp h),?_⟩
  rw [← not_iff_not]
  push Not
  simp only [ne_eq,Bool.not_eq_true]
  rw [← hmake]
  cases makeResult (prepared.fields outcome name service reason) with
  | ok result => exact ⟨fun _ => ⟨result,rfl⟩,fun _ _ h => (by cases h)⟩
  | error raised =>
    refine ⟨fun h => absurd rfl (h (.contract raised)),?_⟩
    rintro ⟨result,hresult⟩
    cases hresult

/-- The fields of an unknown outcome fit their class. -/
theorem ambiguous_shaped {name : Option String} :
    Shaped .ambiguous name none (some .outcomeUnknown) := ⟨rfl,rfl⟩

/-- A classified answer is told by the result of its fields. -/
theorem finish_of_classify {Response : Type} {decodeService : Response → Option CloudRunServiceState}
    {prepared : PreparedCloudRunV2Mutation} {answer : UpdateAnswer Response}
    {outcome : CloudRunMutationOutcome} {name : Option String}
    {service : Option CloudRunServiceState} {reason : Option CloudRunMutationReason}
    (hclass : prepared.classify decodeService answer=
      .ok (prepared.fields outcome name service reason))
    (hshaped : Shaped outcome name service reason)
    (hname : ∀ text∈name,text≠"" ∧ text.length ≤ 512 ∧ isStripped text=true)
    (htold : Told decodeService prepared True answer (prepared.fields outcome name service reason))
    (hraised : (∃ text∈name,∃ character∈text.toList,isControl character=true) ↔ Unreturned answer) :
    (∀ result,finishMutation (prepared.classify decodeService answer)=.ok result →
      Told decodeService prepared True answer result.fields) ∧
    ((∃ raised,finishMutation (prepared.classify decodeService answer)=.error raised) ↔
      Unreturned answer) := by
  have hfinish := @finish_fields prepared _ _ _ _ hshaped hname
  rw [hclass]
  refine ⟨fun result hresult => ?_,hfinish.2.trans hraised⟩
  rw [hfinish.1 result hresult]
  exact htold

/-- The result of a request that was sent tells what its answer was. -/
theorem finish_classify {Response : Type} {decodeService : Response → Option CloudRunServiceState}
    {prepared : PreparedCloudRunV2Mutation} {answer : UpdateAnswer Response} :
    (∀ result,finishMutation (prepared.classify decodeService answer)=.ok result →
      Told decodeService prepared True answer result.fields) ∧
    ((∃ raised,finishMutation (prepared.classify decodeService answer)=.error raised) ↔
      Unreturned answer) := by
  have hnone : ∀ text∈(none : Option String),text≠"" ∧ text.length ≤ 512 ∧ isStripped text=true := by
    intro text h
    cases h
  have hsome : ∀ {operation : ProviderOperation Response} {name},operationName operation=some name →
      ∀ text∈some name,text≠"" ∧ text.length ≤ 512 ∧ isStripped text=true := by
    intro operation name h text htext
    cases htext
    exact (operationName_eq_some.mp h).2
  have hplain : ∀ {answer : UpdateAnswer Response},¬Unreturned answer →
      ((∃ text∈(none : Option String),∃ character∈text.toList,isControl character=true) ↔
        Unreturned answer) := by
    intro answer hreturned
    refine ⟨?_,fun h => absurd h hreturned⟩
    rintro ⟨text,htext,-⟩
    cases htext
  cases answer with
  | precondition =>
    refine finish_of_classify rfl ⟨rfl,Option.some_ne_none _,by decide,rfl⟩ hnone
      ⟨fun _ => .inr (.inl rfl),fun h => (by cases h),fun h => (by cases h)⟩ (hplain ?_)
    rintro (h | ⟨_,_,h,-⟩) <;> cases h
  | rejected =>
    refine finish_of_classify rfl ⟨rfl,Option.some_ne_none _,by decide,rfl⟩ hnone
      ⟨fun _ => .inr (.inr rfl),fun h => (by cases h),fun h => (by cases h)⟩ (hplain ?_)
    rintro (h | ⟨_,_,h,-⟩) <;> cases h
  | raised =>
    refine finish_of_classify rfl ambiguous_shaped hnone
      ⟨fun h => (by cases h),fun h => (by cases h),fun _ => ⟨trivial,fun _ h => (by cases h)⟩⟩ (hplain ?_)
    rintro (h | ⟨_,_,h,-⟩) <;> cases h
  | cancelled =>
    exact ⟨fun result h => (by cases h),fun _ => .inl rfl,fun _ => ⟨.cancelledError,rfl⟩⟩
  | operation operation =>
    have htold : ∀ {name : Option String},operationName operation=name →
        Told decodeService prepared True (.operation operation)
          (prepared.fields .ambiguous name none (some .outcomeUnknown)) := by
      intro name hname
      refine ⟨fun h => (by cases h),fun h => (by cases h),fun _ => ⟨trivial,?_⟩⟩
      intro other hsame
      cases hsame
      exact hname.symm
    cases hname : operationName operation with
    | none =>
      refine finish_of_classify ?_ ambiguous_shaped hnone (htold hname) (hplain ?_)
      · rw [PreparedCloudRunV2Mutation.classify,hname]
        rfl
      · rintro (h | ⟨_,_,hsame,h,-⟩)
        · cases h
        · cases hsame
          rw [hname] at h
          cases h
    | some name =>
      have hraised : operation.result≠.cancelled →
          ((∃ text∈some name,∃ character∈text.toList,isControl character=true) ↔
            Unreturned (.operation operation)) := by
        intro hresult
        constructor
        · rintro ⟨text,htext,hcontrol⟩
          cases htext
          exact .inr ⟨operation,name,rfl,hname,.inr hcontrol⟩
        · rintro (h | ⟨_,_,hsame,hother,hcancelled | hcontrol⟩)
          · cases h
          · cases hsame
            exact absurd hcancelled hresult
          · cases hsame
            rw [hname] at hother
            cases hother
            exact ⟨name,rfl,hcontrol⟩
      have hclass : prepared.classify decodeService (.operation operation)=
          prepared.settle decodeService name operation.result := by
        rw [PreparedCloudRunV2Mutation.classify,hname]
      cases hresult : operation.result with
      | cancelled =>
        rw [hclass,hresult]
        exact ⟨fun result h => (by cases h),
          fun _ => .inr ⟨operation,name,rfl,hname,.inl hresult⟩,fun _ => ⟨.cancelledError,rfl⟩⟩
      | raised =>
        rw [hresult] at hclass hraised
        exact finish_of_classify hclass ambiguous_shaped (hsome hname) (htold hname)
          (hraised (by rintro ⟨⟩))
      | response response =>
        rw [hresult,PreparedCloudRunV2Mutation.settle] at hclass
        have hraised := hraised (by rw [hresult]; rintro ⟨⟩)
        split at hclass
        · exact finish_of_classify hclass ambiguous_shaped (hsome hname) (htold hname) hraised
        · rename_i service hservice
          obtain ⟨hdecoded,htraffic⟩ := Option.filter_eq_some_iff.mp hservice
          have htraffic : service.traffic=_ := of_decide_eq_true htraffic
          exact finish_of_classify hclass ⟨Option.some_ne_none _,Option.some_ne_none _,rfl⟩
            (hsome hname) ⟨fun h => (by cases h),fun _ => ⟨trivial,operation,name,response,service,
              rfl,hname,hresult,hdecoded,htraffic,rfl,rfl⟩,fun h => (by cases h)⟩ hraised

/-- Percent of the traffic that goes to a revision. -/
def percentOf (traffic : List CloudRunTrafficAllocation) (revision : CloudRunName) : Nat :=
  ((traffic.filter fun item => item.revision=revision).map CloudRunTrafficAllocation.percent).sum

/-- A prepared mutation without a rejection was admitted, and a recovery was read in its
attested state. -/
theorem prepare_spec {adapter : CloudRunV2Adapter} {intent : CloudRunMutationIntent}
    {attested : AttestedPrestate} {client : Bool} {read : ReadAnswer}
    {prepared : PreparedCloudRunV2Mutation}
    (h : prepare functions adapter intent attested client read=some prepared) :
    prepared.adapter=adapter ∧ prepared.intent=intent ∧ (prepared.rejection=none →
      admitIntent functions adapter intent=.ok () ∧ (RequestKind.isRecovery intent.kind=true →
        ∃ state,read=.service state ∧
          recoveryPrestateRejection adapter intent attested state=.ok ())) := by
  unfold prepare at h
  split at h
  · cases h
    exact ⟨rfl,rfl,fun h => (by cases h)⟩
  · rename_i hadmitted
    split_ifs at h with hclient hkind
    · cases h
      exact ⟨rfl,rfl,fun _ => ⟨hadmitted,fun h => absurd (hkind.symm.trans h) Bool.false_ne_true⟩⟩
    · split at h
      · cases h
      · cases h
        exact ⟨rfl,rfl,fun h => (by cases h)⟩
      · rename_i state
        split at h
        · cases h
          exact ⟨rfl,rfl,fun h => (by cases h)⟩
        · rename_i hstate
          cases h
          exact ⟨rfl,rfl,fun _ => ⟨hadmitted,fun _ => ⟨state,rfl,hstate⟩⟩⟩

/-- The two revisions of the sample. -/
theorem canary_distinct : OrphanGrace.sampleIntent.stable_revision≠
    OrphanGrace.sampleIntent.candidate_revision := by decide

theorem canary_bounded : 1 ≤ 80 ∧ 80 ≤ 1000 := by decide

/-- An adapter for the canary. -/
def canaryAdapter : CloudRunV2Adapter where
  configuration := {
    target := OrphanGrace.sampleIntent.target
    stable_revision := OrphanGrace.sampleIntent.stable_revision
    candidate_revision := OrphanGrace.sampleIntent.candidate_revision
    concurrency := 80
    distinct := canary_distinct
    bounded := canary_bounded }
  mutation_purpose := .standardExecution

/-- The intent of the canary. -/
def canaryIntent : CloudRunMutationIntent :=
  ⟨.task,OrphanGrace.sampleIntent,canary_distinct,rfl,trivial⟩

/-- A permit for the canary. -/
def canaryPermit : MutationPermit where
  target := OrphanGrace.sampleIntent.target
  service_role := .executor
  kind := .task
  intent := OrphanGrace.sampleIntent
  receipt_id := OrphanGrace.sampleIntent.request_id
  binding := {
    idempotency_key := "canary-apply"
    request_id := "canary-request"
    root_id := OrphanGrace.sampleRoot.root_id.1
    root_sha256 := StorageIdentity.zeroSha256
    epoch := 1
    action := .applyCanary
    target := OrphanGrace.sampleIntent.target.key
    provider_precondition := "canary-etag"
    plan_sha256 := StorageIdentity.zeroSha256
    capability_sha256 := StorageIdentity.zeroSha256
    payload_sha256 := StorageIdentity.zeroSha256
    expected_poststate_sha256 := StorageIdentity.zeroSha256 }

end ControlGraph.CloudRunMutations
