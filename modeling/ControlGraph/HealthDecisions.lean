import ControlGraph.HealthEvaluator
import ControlGraph.MonitoringContracts

/-!
# Health decisions at the boundary of the evaluator

The state between two evaluations and the decision of one evaluation are contracts
that check the evaluator's rules a second time. The boundary turns the contracts
into the values of the pure evaluator, evaluates one observation, and turns the
record of the evaluator back into a decision. The policy is one frozen value, so
its bounds are constants. Digests of whole contracts are given by functions.
-/

namespace ControlGraph.HealthDecisions

open Checks ContractText HealthWindows HealthEvaluator MonitoringContracts

open ReceiptContracts (TargetBinding)

/-- Windows in a row that end a rollout. -/
def consecutiveWindows : Int := 2

/-- Fewest requests of a window that is judged. -/
def minimumRequestCount : Int := 100

/-- Fields of the state between two evaluations. -/
structure HealthEvaluationStateV1Fields where
  policy_sha256 : Sha256Digest
  target : TargetBinding
  root_id : Identifier
  root_sha256 : Sha256Digest
  epoch : PositiveSafeInteger
  candidate_revision : CloudRunName
  observation_started_at : UtcSecond
  last_window_ended_at : Option UtcSecond
  consecutive_healthy_windows : Int
  consecutive_unhealthy_windows : Int
  evaluated_windows : Int
  last_observation_sha256 : Option Sha256Digest
  consumed_sample_set_sha256s : List Sha256Digest
  prior_decision_sha256 : Option Sha256Digest
  deriving DecidableEq

/-- Check that a state stands where its windows end. -/
def validateContinuity (state : HealthEvaluationStateV1Fields) : Except Raised Unit :=
  if state.evaluated_windows=0 then
    require (state.last_window_ended_at=none ∧ state.last_observation_sha256=none ∧
        state.consumed_sample_set_sha256s=[])
      (.valueError "initial health state cannot cite a prior evaluation")
  else do
    require (state.last_window_ended_at≠none ∧ state.last_observation_sha256≠none)
      (.valueError "evaluated health state requires its last window and observation")
    let expected ← addHealthSeconds state.observation_started_at
      (state.evaluated_windows*windowSeconds)
    require (state.last_window_ended_at=some expected)
      (.valueError "evaluated health state is not contiguous with its root interval")

def validateState (state : HealthEvaluationStateV1Fields) : Except Raised Unit := do
  require ((0 ≤ state.consecutive_healthy_windows ∧ state.consecutive_healthy_windows≤10) ∧
      (0 ≤ state.consecutive_unhealthy_windows ∧ state.consecutive_unhealthy_windows≤10) ∧
      (0 ≤ state.evaluated_windows ∧ state.evaluated_windows≤10) ∧
      state.consumed_sample_set_sha256s.length≤10)
    .validationError
  validateRootBinding state.root_id state.root_sha256
  require (¬(state.consecutive_healthy_windows≠0 ∧ state.consecutive_unhealthy_windows≠0))
    (.valueError "healthy and unhealthy streaks cannot both be active")
  require state.consumed_sample_set_sha256s.Nodup
    (.valueError "consumed sample-set digests must be unique")
  require ((state.consumed_sample_set_sha256s.length : Int) ≤ state.evaluated_windows)
    (.valueError "consumed sample-set digests cannot exceed evaluated windows")
  require (max state.consecutive_healthy_windows state.consecutive_unhealthy_windows ≤
      state.evaluated_windows)
    (.valueError "health streak cannot exceed evaluated windows")
  validateContinuity state

/-- The state between two evaluations. -/
structure HealthEvaluationStateV1 extends fields : HealthEvaluationStateV1Fields where
  accepted : validateState fields=.ok ()
  deriving DecidableEq

/-- Build a state, checking it. -/
def makeState (fields : HealthEvaluationStateV1Fields) : Except Raised HealthEvaluationStateV1 :=
  if h : validateState fields=.ok () then .ok ⟨fields,h⟩
  else .error (.valueError "health evaluation state is invalid")

/-- Fields of a decision. -/
structure HealthDecisionV1Fields where
  decision_id : Identifier
  status : HealthDecisionKind
  reason_codes : List HealthReason
  policy_sha256 : Sha256Digest
  target : TargetBinding
  root_id : Identifier
  root_sha256 : Sha256Digest
  epoch : PositiveSafeInteger
  candidate_revision : CloudRunName
  prior_state_sha256 : Sha256Digest
  next_state : HealthEvaluationStateV1
  observation_sha256 : Option Sha256Digest
  /-- Digests of the cited queries. -/
  query_sha256s : List Sha256Digest
  /-- Digests of the cited samples. -/
  sample_sha256s : List Sha256Digest
  window_started_at : Option UtcSecond
  window_ended_at : Option UtcSecond
  request_count : Option Int
  successful_request_count : Option Int
  server_error_count : Option Int
  error_rate_basis_points : Option Int
  availability_basis_points : Option Int
  p95_latency_ms : Option Int
  evaluated_at : UtcSecond
  next_evaluation_at : Option UtcSecond
  deriving DecidableEq

/-- The aggregates of a decision that has all of them. -/
structure DecisionAggregates where
  request_count : Int
  successful_request_count : Int
  server_error_count : Int
  error_rate_basis_points : Int
  availability_basis_points : Int
  p95_latency_ms : Int
  deriving DecidableEq

/-- The aggregates meet every healthy threshold. -/
def DecisionAggregates.healthyThresholdsMet (aggregates : DecisionAggregates) : Prop :=
  aggregates.server_error_count*basisPoints≤100*aggregates.request_count ∧
    aggregates.p95_latency_ms≤500 ∧
    9900*aggregates.request_count ≤ aggregates.successful_request_count*basisPoints

instance (aggregates : DecisionAggregates) : Decidable aggregates.healthyThresholdsMet :=
  inferInstanceAs (Decidable (_ ∧ _))

/-- Unhealthy thresholds that the aggregates reach. -/
def DecisionAggregates.derivedUnhealthyReasons (aggregates : DecisionAggregates) :
    List HealthReason :=
  (if 500*aggregates.request_count ≤ aggregates.server_error_count*basisPoints then
    [.unhealthyErrorRate] else [])++
  (if 1000 ≤ aggregates.p95_latency_ms then [.unhealthyLatency] else [])++
  (if aggregates.successful_request_count*basisPoints≤9500*aggregates.request_count then
    [.unhealthyAvailability] else [])

namespace HealthDecisionV1Fields

variable (sha256 : Utf8Text.Bytes → Sha256Digest) (decision : HealthDecisionV1Fields)

/-- Whether an optional number lies in a range. -/
def inRange (value : Option Int) (maximum : Int) : Bool :=
  value.all (fun value => 0 ≤ value && value ≤ maximum)

/-- The optional aggregates in their order. -/
def aggregateValues : List (Option Int) :=
  [decision.request_count,decision.successful_request_count,decision.server_error_count,
    decision.error_rate_basis_points,decision.availability_basis_points,decision.p95_latency_ms]

/-- The aggregates, when all of them are present. -/
def aggregates : Option DecisionAggregates := do
  let request_count ← decision.request_count
  let successful_request_count ← decision.successful_request_count
  let server_error_count ← decision.server_error_count
  let error_rate_basis_points ← decision.error_rate_basis_points
  let availability_basis_points ← decision.availability_basis_points
  let p95_latency_ms ← decision.p95_latency_ms
  return ⟨request_count,successful_request_count,server_error_count,error_rate_basis_points,
    availability_basis_points,p95_latency_ms⟩

def validateBounds : Except Raised Unit :=
  require ((1 ≤ decision.reason_codes.length ∧ decision.reason_codes.length≤16) ∧
      decision.query_sha256s.length≤2 ∧ decision.sample_sha256s.length≤64 ∧
      inRange decision.request_count maxSafeInteger=true ∧
      inRange decision.successful_request_count maxSafeInteger=true ∧
      inRange decision.server_error_count maxSafeInteger=true ∧
      inRange decision.error_rate_basis_points basisPoints=true ∧
      inRange decision.availability_basis_points basisPoints=true ∧
      inRange decision.p95_latency_ms maxSafeInteger=true)
    .validationError

/-- Check the rates of a decision. -/
def validateAggregates : Except Raised Unit := do
  require (¬((∃ value∈decision.aggregateValues,value≠none) ∧
      ∃ value∈decision.aggregateValues,value=none))
    (.valueError "health decision aggregates must be present together")
  match decision.aggregates with
  | none => return ()
  | some aggregates => do
    require (aggregates.request_count≠0)
      (.valueError "health decision rates require at least one request")
    require (aggregates.successful_request_count+aggregates.server_error_count ≤
        aggregates.request_count)
      (.valueError "health decision request classes cannot overlap")
    require (aggregates.availability_basis_points=
        floorBasisPoints aggregates.successful_request_count aggregates.request_count)
      (.valueError "health decision availability aggregate is not canonical")
    require (aggregates.error_rate_basis_points=
        ceilingBasisPoints aggregates.server_error_count aggregates.request_count)
      (.valueError "health decision error-rate aggregate is not canonical")

/-- Check what a decision cites. -/
def validateCitation : Except Raised Unit :=
  match decision.observation_sha256 with
  | none =>
    require (decision.query_sha256s=[] ∧ decision.sample_sha256s=[] ∧
        (∀ value∈decision.aggregateValues,value=none) ∧ decision.window_started_at=none ∧
        decision.window_ended_at=none)
      (.valueError "uncited health decision cannot contain observation data")
  | some observation_sha256 => do
    require (decision.query_sha256s.length=MonitoringQueryKind.all.length)
      (.valueError "cited health decision requires all query digests")
    require (decision.window_started_at≠none ∧ decision.window_ended_at≠none)
      (.valueError "cited health decision requires its observation window")
    require (¬(decision.next_state.last_observation_sha256=some observation_sha256 ∧
        decision.next_state.last_window_ended_at≠decision.window_ended_at))
      (.valueError "health decision state cites an inconsistent observation window")

/-- The state after has consumed the cited observation. -/
def consumed : Prop :=
  decision.observation_sha256≠none ∧
    decision.next_state.last_observation_sha256=decision.observation_sha256 ∧
    decision.next_state.last_window_ended_at=decision.window_ended_at

instance : Decidable decision.consumed := inferInstanceAs (Decidable (_ ∧ _))

/-- Check the evidence of a decision that judges its window. -/
def validateThresholdEvidence (aggregates : DecisionAggregates) : Except Raised Unit := do
  let window_started_at ← requireSome decision.window_started_at (.assertionError "")
  let window_ended_at ← requireSome decision.window_ended_at (.assertionError "")
  require (minimumRequestCount ≤ aggregates.request_count)
    (.valueError "threshold decision requires the policy minimum request count")
  require (2 ≤ decision.sample_sha256s.length)
    (.valueError "threshold decision requires request and latency sample citations")
  require (secondsBetween window_started_at window_ended_at=windowSeconds)
    (.valueError "threshold decision requires one exact 60-second window")

/-- Unhealthy thresholds that a decision reaches. -/
def derivedUnhealthy : List HealthReason :=
  (decision.aggregates.map DecisionAggregates.derivedUnhealthyReasons).getD []

/-- Check a healthy decision. -/
def validateHealthy : Except Raised Unit := do
  require (decision.reason_codes=[.healthyThresholdsMet,.healthyStreakMet])
    (.valueError "healthy decision requires canonical healthy terminal reasons")
  let aggregates ← requireSome decision.aggregates
    (.valueError "healthy decision requires consumed cited aggregates")
  require decision.consumed (.valueError "healthy decision requires consumed cited aggregates")
  validateThresholdEvidence decision aggregates
  require aggregates.healthyThresholdsMet
    (.valueError "healthy decision aggregates do not meet healthy thresholds")
  require (2 ≤ decision.next_state.consecutive_healthy_windows ∧
      decision.next_state.consecutive_unhealthy_windows=0)
    (.valueError "healthy decision requires its healthy streak")
  require (decision.next_evaluation_at=none)
    (.valueError "terminal health decision cannot schedule another evaluation")

/-- Check an unhealthy decision. -/
def validateUnhealthy : Except Raised Unit := do
  require (decision.derivedUnhealthy≠[] ∧
      decision.reason_codes=decision.derivedUnhealthy++[.unhealthyStreakMet])
    (.valueError "unhealthy decision requires canonical unhealthy terminal reasons")
  let aggregates ← requireSome decision.aggregates
    (.valueError "unhealthy decision requires consumed cited aggregates")
  require decision.consumed (.valueError "unhealthy decision requires consumed cited aggregates")
  validateThresholdEvidence decision aggregates
  require (2 ≤ decision.next_state.consecutive_unhealthy_windows ∧
      decision.next_state.consecutive_healthy_windows=0)
    (.valueError "unhealthy decision requires its unhealthy streak")
  require (decision.next_evaluation_at=none)
    (.valueError "terminal health decision cannot schedule another evaluation")

/-- Check a decision that repeats a window. -/
def validateDuplicate : Except Raised Unit :=
  require (decision.observation_sha256≠none ∧ (decision.consumed ∨
      ∃ digest∈sampleSetSha256 sha256 (decision.sample_sha256s.map Subtype.val),
        digest∈decision.next_state.consumed_sample_set_sha256s.map Subtype.val))
    (.valueError "duplicate-window decision requires its prior observation citation")

/-- Check a decision with a healthy streak that is not met. -/
def validateHealthyPending : Except Raised Unit := do
  let error := Raised.valueError "healthy pending decision requires consumed healthy aggregates"
  let aggregates ← requireSome decision.aggregates error
  require (decision.consumed ∧ aggregates.healthyThresholdsMet) error
  validateThresholdEvidence decision aggregates
  require (decision.next_state.consecutive_healthy_windows=1 ∧
      decision.next_state.consecutive_unhealthy_windows=0)
    (.valueError "healthy pending decision requires its pending streak")

/-- Check a decision with an unhealthy streak that is not met. -/
def validateUnhealthyPending : Except Raised Unit := do
  let error := Raised.valueError "unhealthy pending decision requires consumed aggregates"
  let aggregates ← requireSome decision.aggregates error
  require decision.consumed error
  validateThresholdEvidence decision aggregates
  require (decision.next_state.consecutive_unhealthy_windows=1 ∧
      decision.next_state.consecutive_healthy_windows=0)
    (.valueError "unhealthy pending decision requires its pending streak")

/-- Check a decision between the thresholds. -/
def validateInconclusive : Except Raised Unit := do
  let error := Raised.valueError "inconclusive decision requires consumed wait-band aggregates"
  let aggregates ← requireSome decision.aggregates error
  require (decision.consumed ∧ ¬aggregates.healthyThresholdsMet ∧ decision.derivedUnhealthy=[])
    error
  validateThresholdEvidence decision aggregates
  require (decision.next_state.consecutive_healthy_windows=0 ∧
      decision.next_state.consecutive_unhealthy_windows=0)
    (.valueError "inconclusive decision must reset health streaks")

/-- Check a decision to wait. -/
def validateWait : Except Raised Unit := do
  require (decision.next_evaluation_at≠none)
    (.valueError "wait decision must schedule another evaluation")
  if decision.reason_codes=[.windowNotReady] ∨ decision.reason_codes=[.sampleEarly] then
    return ()
  else if decision.reason_codes=[.windowDuplicate] then validateDuplicate sha256 decision
  else if decision.reason_codes=[.healthyThresholdsMet,.healthyStreakPending] then
    validateHealthyPending decision
  else if decision.derivedUnhealthy≠[] ∧
      decision.reason_codes=decision.derivedUnhealthy++[.unhealthyStreakPending] then
    validateUnhealthyPending decision
  else if decision.reason_codes=[.thresholdInconclusive] then validateInconclusive decision
  else .error (.valueError "wait decision reasons are not canonical")

/-- Reasons of a decision without enough evidence that have no other condition. -/
def insufficientReasons : List HealthReason :=
  [.noSamples,.tooManyWindows,.stateTerminal,.stateScopeMismatch,.sampleScopeMismatch,
    .windowBoundaryInvalid,.windowOutOfOrder,.windowGap,.sampleLate,.sampleMissing,.samplePartial,
    .sampleConflictingDuplicate,.minimumRequestsNotMet]

/-- Threshold reasons that go with the aggregates of a decision. -/
def thresholdReasons : List HealthReason :=
  match decision.aggregates with
  | none => []
  | some aggregates =>
    if aggregates.healthyThresholdsMet then [.healthyThresholdsMet]
    else if decision.derivedUnhealthy≠[] then decision.derivedUnhealthy
    else [.thresholdInconclusive]

/-- Check a decision whose windows are exhausted. -/
def validateExhausted : Except Raised Unit := do
  require (decision.next_evaluation_at=none)
    (.valueError "maximum-windows decision cannot schedule another evaluation")
  require (decision.next_state.evaluated_windows=maxWindows)
    (.valueError "maximum-windows decision requires an exhausted state")
  let threshold_reasons := decision.reason_codes.dropLast
  require (threshold_reasons=[] ∨ threshold_reasons=decision.thresholdReasons)
    (.valueError "maximum-windows threshold reasons are not canonical")
  if threshold_reasons=[] then return ()
  else do
    require decision.consumed
      (.valueError "maximum-windows threshold decision must consume its observation")
    let aggregates ← requireSome decision.aggregates (.assertionError "")
    validateThresholdEvidence decision aggregates

/-- Check a decision without enough evidence. -/
def validateInsufficient : Except Raised Unit :=
  if decision.reason_codes=[.stateTerminal] then do
    require (2 ≤ decision.next_state.consecutive_healthy_windows ∨
        2 ≤ decision.next_state.consecutive_unhealthy_windows)
      (.valueError "terminal-state decision requires a terminal streak")
    require (decision.observation_sha256=none)
      (.valueError "terminal-state decision cannot cite a current observation")
    require (decision.next_evaluation_at=none)
      (.valueError "terminal-state decision cannot schedule another evaluation")
  else if decision.reason_codes.getLast?=some .maximumWindowsExhausted then
    validateExhausted decision
  else
    require (∃ reason∈insufficientReasons,decision.reason_codes=[reason])
      (.valueError "insufficient-evidence decision reasons are not canonical")

/-- Check that the status, the reasons, the figures and the state of a decision agree. -/
def validateStatusSemantics : Except Raised Unit :=
  match decision.status with
  | .healthy => validateHealthy decision
  | .unhealthy => validateUnhealthy decision
  | status => do
    require (¬(.healthyStreakMet∈decision.reason_codes ∨ .unhealthyStreakMet∈decision.reason_codes))
      (.valueError "non-terminal decision cannot cite a terminal streak reason")
    if status=.wait then validateWait sha256 decision else validateInsufficient decision

def validateDecision : Except Raised Unit := do
  validateBounds decision
  validateRootBinding decision.root_id decision.root_sha256
  require decision.reason_codes.Nodup (.valueError "health decision reason codes must be unique")
  require decision.query_sha256s.Nodup (.valueError "health decision query digests must be unique")
  require decision.sample_sha256s.Nodup
    (.valueError "health decision sample digests must be unique")
  require (∀ next_evaluation_at∈decision.next_evaluation_at,
      0 ≤ secondsBetween decision.evaluated_at next_evaluation_at)
    (.valueError "next health evaluation cannot precede this decision")
  let state := decision.next_state
  require (state.policy_sha256=decision.policy_sha256 ∧ state.target=decision.target ∧
      state.root_id=decision.root_id ∧ state.root_sha256=decision.root_sha256 ∧
      state.epoch=decision.epoch ∧ state.candidate_revision=decision.candidate_revision)
    (.valueError "health decision state is outside its exact scope")
  require (decision.window_started_at=none ↔ decision.window_ended_at=none)
    (.valueError "health decision window bounds must be present together")
  validateAggregates decision
  validateCitation decision
  validateStatusSemantics sha256 decision

end HealthDecisionV1Fields

/-- The decision of one evaluation. -/
structure HealthDecisionV1 (sha256 : Utf8Text.Bytes → Sha256Digest) extends
    fields : HealthDecisionV1Fields where
  accepted : fields.validateDecision sha256=.ok ()
  deriving DecidableEq

/-- Build a decision, checking it. -/
def makeDecision (sha256 : Utf8Text.Bytes → Sha256Digest) (fields : HealthDecisionV1Fields) :
    Except Raised (HealthDecisionV1 sha256) :=
  if h : fields.validateDecision sha256=.ok () then .ok ⟨fields,h⟩
  else .error (.valueError "health decision is invalid")

/-- Functions that are not looked into. -/
structure HealthFunctions extends MonitoringFunctions where
  observation_sha256 : MonitoringObservationFields → Sha256Digest
  state_sha256 : HealthEvaluationStateV1Fields → Sha256Digest
  decision_sha256 : HealthDecisionV1Fields → Sha256Digest
  decision_id : HealthDecisionV1Fields → Identifier
  /-- The identity of a decision is not among the fields that it is derived from. -/
  decision_id_other : ∀ decision decision_id',
    decision_id {decision with decision_id := decision_id'}=decision_id decision

variable (functions : HealthFunctions)

abbrev Decision := HealthDecisionV1 functions.sha256

abbrev Observation := MonitoringWindowObservationV1 functions.toMonitoringFunctions

/-- A timestamp in seconds, which must not precede the year 1970. -/
def epochSeconds (value : UtcSecond) : Except Raised Int := do
  require (0 ≤ value.1) (.valueError "health timestamps must not precede the Unix epoch")
  return value.1

/-- The timestamp of a number of seconds. -/
def utcSecond (value : Int) : Except Raised UtcSecond :=
  if h : 0 ≤ value ∧ value≤253402300799 then .ok ⟨value,by omega⟩
  else .error (.valueError "health timestamp exceeds the UTC calendar range")

/-- The timestamp of an optional number of seconds. -/
def optionalUtcSecond (value : Option Int) : Except Raised (Option UtcSecond) :=
  match value with
  | none => .ok none
  | some value => (utcSecond value).map some

def digestOf (text : String) : Except Raised Sha256Digest :=
  if h : isSha256 text=true then .ok ⟨text,h⟩ else .error .validationError

def optionalDigestOf (text : Option String) : Except Raised (Option Sha256Digest) :=
  match text with
  | none => .ok none
  | some text => (digestOf text).map some

def identifierText (text : String) : Except Raised Identifier :=
  if h : isIdentifier text=true then .ok ⟨text,h⟩ else .error .validationError

/-- A text as the name of a revision. -/
def cloudRunNameOf (text : String) : Except Raised CloudRunName :=
  if h : isHyphenatedName text.toList=true ∧ text.length≤63 then .ok ⟨text,h⟩
  else .error .validationError

/-- A number as an epoch. -/
def positiveOf (value : Int) : Except Raised PositiveSafeInteger :=
  if h : 1 ≤ value.toNat ∧ value.toNat≤9007199254740991 then .ok ⟨value.toNat,h⟩
  else .error .validationError

/-- The empty state of a rollout. -/
def initialStateFields (target : TargetBinding) (root_id : Identifier) (root_sha256 : Sha256Digest)
    (epoch : PositiveSafeInteger) (candidate_revision : CloudRunName)
    (observation_started_at : UtcSecond) : HealthEvaluationStateV1Fields where
  policy_sha256 := functions.policy_sha256
  target := target
  root_id := root_id
  root_sha256 := root_sha256
  epoch := epoch
  candidate_revision := candidate_revision
  observation_started_at := observation_started_at
  last_window_ended_at := none
  consecutive_healthy_windows := 0
  consecutive_unhealthy_windows := 0
  evaluated_windows := 0
  last_observation_sha256 := none
  consumed_sample_set_sha256s := []
  prior_decision_sha256 := none

/-- Create the only valid empty state of a rollout. -/
def initialHealthEvaluationState (target : TargetBinding) (root_id : Identifier)
    (root_sha256 : Sha256Digest) (epoch : PositiveSafeInteger) (candidate_revision : CloudRunName)
    (observation_started_at : UtcSecond) : Except Raised HealthEvaluationStateV1 :=
  makeState (initialStateFields functions target root_id root_sha256 epoch candidate_revision
    observation_started_at)

def policyVersion : String := "controlgraph.rollout-health-policy/v2"

/-- The policy of the evaluator, bound to the scope of a state. -/
def policyFields (state : HealthEvaluationStateV1Fields) (observation_started_at : Int) :
    HealthPolicyFields where
  policyVersion := policyVersion
  policySha256 := functions.policy_sha256.1
  projectId := state.target.project_id.1
  region := state.target.region.1
  environment := state.target.environment.1
  serviceName := state.target.service_name.1
  rootId := state.root_id.1
  rootSha256 := state.root_sha256.1
  epoch := state.epoch.1
  candidateRevision := state.candidate_revision.1
  observationStartedAt := observation_started_at
  windowSeconds := windowSeconds
  observationDelaySeconds := observationDelaySeconds
  maximumObservationDelaySeconds := maximumObservationDelaySeconds
  minimumRequestCount := minimumRequestCount
  healthyMaximumErrorRateBasisPoints := 100
  unhealthyMinimumErrorRateBasisPoints := 500
  healthyMaximumP95LatencyMs := 500
  unhealthyMinimumP95LatencyMs := 1000
  healthyMinimumAvailabilityBasisPoints := 9900
  unhealthyMaximumAvailabilityBasisPoints := 9500
  healthyConsecutiveWindows := consecutiveWindows
  unhealthyConsecutiveWindows := consecutiveWindows
  maximumWindows := maxWindows

/-- Bind the policy to the scope of a state. -/
def authorityPolicy (state : HealthEvaluationStateV1Fields) : Except Raised HealthPolicy := do
  require (state.policy_sha256=functions.policy_sha256)
    (.valueError "health state policy digest does not match the supplied policy")
  let observation_started_at ← epochSeconds state.observation_started_at
  require (observation_started_at+maxWindows*windowSeconds+maximumObservationDelaySeconds ≤
      253402300799)
    (.valueError "health policy horizon exceeds the UTC calendar range")
  let fields := policyFields functions state observation_started_at
  if h : fields.postInit=.ok () then return ⟨fields,h⟩
  else .error (.valueError "health policy is invalid")

def optionalEpochSeconds (value : Option UtcSecond) : Except Raised (Option Int) :=
  match value with
  | none => .ok none
  | some value => (epochSeconds value).map some

def authorityState (state : HealthEvaluationStateV1Fields) :
    Except Raised HealthEvaluationState := do
  let observation_started_at ← epochSeconds state.observation_started_at
  let last_window_ended_at ← optionalEpochSeconds state.last_window_ended_at
  HealthEvaluationStateFields.make {
    policyVersion := policyVersion
    policySha256 := state.policy_sha256.1
    projectId := state.target.project_id.1
    region := state.target.region.1
    environment := state.target.environment.1
    serviceName := state.target.service_name.1
    rootId := state.root_id.1
    rootSha256 := state.root_sha256.1
    epoch := state.epoch.1
    candidateRevision := state.candidate_revision.1
    observationStartedAt := observation_started_at
    lastWindowEndedAt := last_window_ended_at
    consecutiveHealthyWindows := state.consecutive_healthy_windows
    consecutiveUnhealthyWindows := state.consecutive_unhealthy_windows
    evaluatedWindows := state.evaluated_windows
    lastObservationSha256 := state.last_observation_sha256.map Subtype.val
    consumedSampleSetSha256s := state.consumed_sample_set_sha256s.map Subtype.val
    priorDecisionSha256 := state.prior_decision_sha256.map Subtype.val }

def sampleFields (observation : MonitoringObservationFields)
    (observation_started_at window_started_at window_ended_at observed_at : Int) :
    HealthWindowSampleFields where
  observationSha256 := (functions.observation_sha256 observation).1
  querySha256s := observation.query_sha256s.map Subtype.val
  sampleSha256s := observation.sample_sha256s.map Subtype.val
  policySha256 := observation.policy_sha256.1
  projectId := observation.target.project_id.1
  region := observation.target.region.1
  environment := observation.target.environment.1
  serviceName := observation.target.service_name.1
  rootId := observation.root_id.1
  rootSha256 := observation.root_sha256.1
  epoch := observation.epoch.1
  candidateRevision := observation.candidate_revision.1
  observationStartedAt := observation_started_at
  windowIndex := observation.window_index
  windowStartedAt := window_started_at
  windowEndedAt := window_ended_at
  observedAt := observed_at
  requestCount := observation.request_count.getD 0
  response1xxCount := observation.response_1xx_count.getD 0
  successfulRequestCount := observation.successful_request_count.getD 0
  response3xxCount := observation.response_3xx_count.getD 0
  response4xxCount := observation.response_4xx_count.getD 0
  serverErrorCount := observation.server_error_count.getD 0
  p95LatencyMs := (observation.latency_distribution.map (fun distribution =>
    (distribution.p95_latency_ms.1 : Int))).getD 0
  complete := observation.completeness=.complete
  missing := observation.completeness=.missing
  duplicateCount := observation.duplicate_count
  conflictingDuplicate := observation.conflicting_duplicate

def authoritySample (observation : MonitoringObservationFields) :
    Except Raised HealthWindowSample := do
  let observation_started_at ← epochSeconds observation.observation_started_at
  let window_started_at ← epochSeconds observation.window_started_at
  let window_ended_at ← epochSeconds observation.window_ended_at
  let observed_at ← epochSeconds observation.observed_at
  let fields := sampleFields functions observation observation_started_at window_started_at
    window_ended_at observed_at
  if h : fields.postInit=.ok () then return ⟨fields,h⟩
  else .error (.valueError "health window sample is invalid")

/-- The state of a record of the evaluator. -/
def contractState (state : HealthEvaluationState) (target : TargetBinding) :
    Except Raised HealthEvaluationStateV1 := do
  let policy_sha256 ← digestOf state.policySha256
  let root_id ← identifierText state.rootId
  let root_sha256 ← digestOf state.rootSha256
  let epoch ← positiveOf state.epoch
  let candidate_revision ← cloudRunNameOf state.candidateRevision
  let observation_started_at ← utcSecond state.observationStartedAt
  let last_window_ended_at ← optionalUtcSecond state.lastWindowEndedAt
  let last_observation_sha256 ← optionalDigestOf state.lastObservationSha256
  let consumed_sample_set_sha256s ← state.consumedSampleSetSha256s.mapM digestOf
  let prior_decision_sha256 ← optionalDigestOf state.priorDecisionSha256
  makeState {
    policy_sha256 := policy_sha256
    target := target
    root_id := root_id
    root_sha256 := root_sha256
    epoch := epoch
    candidate_revision := candidate_revision
    observation_started_at := observation_started_at
    last_window_ended_at := last_window_ended_at
    consecutive_healthy_windows := state.consecutiveHealthyWindows
    consecutive_unhealthy_windows := state.consecutiveUnhealthyWindows
    evaluated_windows := state.evaluatedWindows
    last_observation_sha256 := last_observation_sha256
    consumed_sample_set_sha256s := consumed_sample_set_sha256s
    prior_decision_sha256 := prior_decision_sha256 }

/-- Fields of the state that may follow a decision. -/
def nextStateFields (decision : HealthDecisionV1Fields) : HealthEvaluationStateV1Fields :=
  {decision.next_state.fields with
    prior_decision_sha256 := some (functions.decision_sha256 decision)}

/-- Derive the only state that may follow a decision. -/
def deriveNextHealthEvaluationState (decision : Decision functions) :
    Except Raised HealthEvaluationStateV1 := do
  require (decision.policy_sha256=functions.policy_sha256)
    (.valueError "predecessor decision does not match the supplied policy")
  require (decision.decision_id=functions.decision_id decision.fields)
    (.valueError "predecessor decision id is not canonical")
  require (decision.next_evaluation_at≠none)
    (.valueError "terminal health decision cannot be used as a predecessor")
  makeState (nextStateFields functions decision.fields)

/-- The only state that an evaluation after a decision may start from. -/
def expectedState (state : HealthEvaluationStateV1Fields) (predecessor : Option (Decision functions)) :
    Except Raised HealthEvaluationStateV1 :=
  match predecessor with
  | none => initialHealthEvaluationState functions state.target state.root_id state.root_sha256
      state.epoch state.candidate_revision state.observation_started_at
  | some decision => deriveNextHealthEvaluationState functions decision

/-- Check that a state is the one that its predecessor decision leads to. -/
def validatePredecessorState (state : HealthEvaluationStateV1)
    (predecessor : Option (Decision functions)) : Except Raised Unit := do
  let expected ← expectedState functions state.fields predecessor
  require (state=expected)
    (.valueError (if predecessor.isNone then
      "predecessor decision is required for a non-initial health state"
      else "health state does not match its exact predecessor decision"))

/-- Identity of a decision before its own is computed. -/
def pendingIdentity : Identifier := ⟨"health-decision-pending",by decide⟩

/-- Fields of the decision of a record of the evaluator. -/
def decisionFields (prior_state : HealthEvaluationStateV1) (record : HealthEvaluationResult)
    (evaluated_at : UtcSecond) : Except Raised HealthDecisionV1Fields := do
  let next_state ← contractState record.state prior_state.target
  let observation_sha256 ← optionalDigestOf record.observationSha256
  let query_sha256s ← record.querySha256s.mapM digestOf
  let sample_sha256s ← record.sampleSha256s.mapM digestOf
  let window_started_at ← optionalUtcSecond record.windowStartedAt
  let window_ended_at ← optionalUtcSecond record.windowEndedAt
  let next_evaluation_at ← optionalUtcSecond record.nextEvaluationAt
  return {
    decision_id := pendingIdentity
    status := record.decision
    reason_codes := record.reasons
    policy_sha256 := functions.policy_sha256
    target := prior_state.target
    root_id := prior_state.root_id
    root_sha256 := prior_state.root_sha256
    epoch := prior_state.epoch
    candidate_revision := prior_state.candidate_revision
    prior_state_sha256 := functions.state_sha256 prior_state.fields
    next_state := next_state
    observation_sha256 := observation_sha256
    query_sha256s := query_sha256s
    sample_sha256s := sample_sha256s
    window_started_at := window_started_at
    window_ended_at := window_ended_at
    request_count := record.requestCount
    successful_request_count := record.successfulRequestCount
    server_error_count := record.serverErrorCount
    error_rate_basis_points := record.errorRateBasisPoints
    availability_basis_points := record.availabilityBasisPoints
    p95_latency_ms := record.p95LatencyMs
    evaluated_at := evaluated_at
    next_evaluation_at := next_evaluation_at }

/-- Evaluate one observation after a predecessor decision. -/
def evaluateHealthObservation (prior_state : HealthEvaluationStateV1)
    (predecessor : Option (Decision functions)) (observation : Option (Observation functions))
    (evaluated_at : UtcSecond) : Except Raised (Decision functions) := do
  let policy ← authorityPolicy functions prior_state.fields
  validatePredecessorState functions prior_state predecessor
  let state ← authorityState prior_state.fields
  let samples ← observation.toList.mapM (fun observation =>
    authoritySample functions observation.toMonitoringObservationFields)
  let evaluated ← epochSeconds evaluated_at
  let record ← evaluateHealth functions.sha256 policy samples state evaluated
  let pending ← decisionFields functions prior_state record evaluated_at
  let _ ← makeDecision functions.sha256 pending
  makeDecision functions.sha256 {pending with decision_id := functions.decision_id pending}

end ControlGraph.HealthDecisions
