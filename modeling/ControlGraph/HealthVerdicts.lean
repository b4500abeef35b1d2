import Mathlib.Tactic.MkIffOfInductiveProp
import ControlGraph.HealthBatches
import ControlGraph.HealthDecisions
import ControlGraph.MonitoringIngestion

/-!
# What one evaluation of one observation decides

The evaluation of a single observation counts windows upwards, and it decides
that a rollout is healthy exactly when the observation qualifies for a streak,
meets every healthy threshold and completes the streak. Both facts hold first of
the pure evaluator and then of the contracts around it, where the condition is
one about the state before, the observation and its time.
-/

namespace ControlGraph.HealthVerdicts

open Checks ContractText HealthWindows HealthEvaluator HealthPasses HealthStreaks HealthClosure

open HealthFinality HealthBatches MonitoringContracts HealthDecisions

section evaluator

variable {sha256 : List UInt8 → Sha256Digest} {policy : HealthPolicy}
  {priorState : HealthEvaluationState} {evaluatedAt : Int}

/-- A window with requests that meets the healthy thresholds reaches no unhealthy one. -/
theorem unhealthyReasons_of_healthy {sample : HealthWindowSampleFields}
    (hrequests : 1 ≤ sample.requestCount) (hmeets : MeetsHealthy policy.fields sample) :
    unhealthyReasons policy.fields sample=[] := by
  have haccepted := policy.accepted
  unfold HealthPolicyFields.postInit at haccepted
  simp only [check_bind_eq_ok,forM_eq_ok,requireInt_eq_ok,require_eq_ok,List.forall_mem_cons]
    at haccepted
  obtain ⟨herror,hlatency,havailability⟩ := hmeets
  have herrors : policy.healthyMaximumErrorRateBasisPoints*sample.requestCount<
      policy.unhealthyMinimumErrorRateBasisPoints*sample.requestCount :=
    Int.mul_lt_mul_of_pos_right (by omega) (by omega)
  have havailable : policy.unhealthyMaximumAvailabilityBasisPoints*sample.requestCount<
      policy.healthyMinimumAvailabilityBasisPoints*sample.requestCount :=
    Int.mul_lt_mul_of_pos_right (by omega) (by omega)
  unfold unhealthyReasons
  rw [if_neg (by omega),if_neg (by omega),if_neg (by omega)]
  rfl

theorem acceptedPass_qualified {loop : LoopState} {sample : HealthWindowSample}
    (hqualified : Qualified sha256 policy.fields evaluatedAt loop.state.fields sample.fields) :
    ∃ advanced,advanced.fields=consumeFields sha256 policy.fields loop.state.fields sample.fields ∧
      acceptedPass sha256 policy priorState evaluatedAt loop sample=
        classifiedPass policy priorState evaluatedAt loop advanced sample := by
  have hremaining := hqualified.remaining
  have hlimit := (policyBounds policy).windows
  have hstart := hqualified.consecutive
  have hready := hqualified.ready
  have hobserved := hqualified.observedBy
  have hsettled := hqualified.settled
  have htimely := hqualified.timely
  have hrequests := hqualified.sufficient
  obtain ⟨advanced,hadvance,hadvanced⟩ :=
    advance_ok sha256 loop.state sample hqualified.elapsed (by omega)
  refine ⟨advanced,hadvanced,?_⟩
  unfold acceptedPass
  dsimp only
  rw [if_neg (by omega),if_neg (by rw [hqualified.inScope]; decide),
    if_neg (not_not.mpr hqualified.onGrid),if_neg hqualified.fresh,if_neg hqualified.unseen]
  unfold orderedPass
  dsimp only
  rw [if_neg (by omega),if_neg (by omega),if_neg (by omega),if_neg (by omega)]
  unfold collectedPass
  have hgap : decide (expectedStart policy.fields loop.state.fields<sample.windowStartedAt)=false :=
    decide_eq_false (by omega)
  rw [bind_of_ok hadvance,if_neg (by omega),hgap,hqualified.present,hqualified.whole,
    hqualified.unanimous]
  rw [if_neg (by decide),if_neg (by decide),if_neg (by decide),if_neg (by omega)]

/-- A classified healthy sample that completes the streak is decided to be healthy. -/
theorem classifiedPass_healthy {loop : LoopState} {advanced : HealthEvaluationState}
    {sample : HealthWindowSample}
    (hadvanced : advanced.fields=consumeFields sha256 policy.fields loop.state.fields sample.fields)
    (hqualified : Qualified sha256 policy.fields evaluatedAt loop.state.fields sample.fields)
    (hmeets : MeetsHealthy policy.fields sample.fields)
    (hstreak : policy.healthyConsecutiveWindows ≤ loop.state.consecutiveHealthyWindows+1) :
    ∃ record,classifiedPass policy priorState evaluatedAt loop advanced sample=
        .ok (.returned record) ∧ record.decision=.healthy := by
  have hhealthy := (policyBounds policy).healthy
  have hrequests := (policyBounds policy).requests
  have hsufficient := hqualified.sufficient
  have hcounts := hqualified.toCollected.counts
  have hcounters := (loop.state.fields.postInit_eq_ok.mp loop.state.accepted).2
  have hbound := hcounters.streakBound
  have hranges := And.intro hcounters.healthyRange hcounters.unhealthyRange
  rw [← hadvanced] at hcounts
  have hnone := @unhealthyReasons_of_healthy policy sample.fields (by omega) hmeets
  have haccepted := @streaks_accepted advanced (min (loop.state.consecutiveHealthyWindows+1)
    policy.healthyConsecutiveWindows) 0 (by omega) (by omega) (.inr rfl) (by omega)
  obtain ⟨state,hstate,hfields⟩ := HealthEvaluationStateFields.exists_make haccepted
  have hmet : policy.healthyConsecutiveWindows ≤ state.consecutiveHealthyWindows := by
    rw [hfields]
    change _ ≤ min _ _
    omega
  unfold classifiedPass classifyWindow
  simp only [hnone,ne_eq,not_true_eq_false,if_false,if_pos hmeets]
  rw [hstate]
  refine ⟨result policy priorState evaluatedAt .healthy
    ([.healthyThresholdsMet]++[.healthyStreakMet]) state loop.accepted (some sample),
    (bind_of_ok rfl).trans ?_,rfl⟩
  unfold streakPass
  exact if_pos (decide_eq_true hmet)

/-- On a ready state one sample is decided to be healthy exactly when it qualifies, meets
the healthy thresholds and completes the streak. -/
theorem evaluateHealth_healthy_iff (hready : Ready policy priorState)
    (htime : 0 ≤ evaluatedAt ∧ evaluatedAt ≤ maxSafeInteger) {sample : HealthWindowSample}
    {record : HealthEvaluationResult}
    (hrun : evaluateHealth sha256 policy [sample] priorState evaluatedAt=.ok record) :
    record.decision=.healthy ↔
      Qualified sha256 policy.fields evaluatedAt priorState.fields sample.fields ∧
        MeetsHealthy policy.fields sample.fields ∧
        policy.healthyConsecutiveWindows ≤ priorState.consecutiveHealthyWindows+1 := by
  have hhealthy := (policyBounds policy).healthy
  rw [evaluateHealth_single hready htime] at hrun
  unfold evaluateSamples at hrun
  rw [samplePass_new (seenFrom_initial priorState) (fun _ hprior => by cases hprior)] at hrun
  have hspec : ∃ outcome,acceptedPass sha256 policy priorState evaluatedAt
      (LoopState.record sha256 {state := priorState} sample) sample=.ok outcome ∧
      EffectSpec sha256 policy.fields evaluatedAt priorState.fields sample.fields outcome :=
    acceptedPass_spec sha256 policy priorState evaluatedAt _ sample
  obtain ⟨outcome,hpass,hspec⟩ := hspec
  constructor
  · intro hdecision
    rw [hpass] at hrun
    cases hspec with
    | returned heffect hsupported =>
      cases hrun
      have hstreak := (hsupported.healthy hdecision).1
      have hundecided := hready.undecided
      generalize record.state.fields=after at heffect hstreak
      unfold streakTerminal at hundecided
      cases heffect with
      | kept => exact absurd (.inl hstreak) hundecided
      | reset =>
        have hzero : (resetFields priorState.fields).consecutiveHealthyWindows=0 := rfl
        omega
      | consumed hcollected =>
        have hzero : (resetFields (consumeFields sha256 policy.fields priorState.fields
          sample.fields)).consecutiveHealthyWindows=0 := rfl
        omega
      | healthy hqualified hmeets =>
        have hraised : (healthyFields sha256 policy.fields priorState.fields
          sample.fields).consecutiveHealthyWindows=
            min (priorState.consecutiveHealthyWindows+1) policy.healthyConsecutiveWindows := rfl
        exact ⟨hqualified,hmeets,by omega⟩
      | unhealthy hqualified hreasons =>
        have hzero : (unhealthyFields sha256 policy.fields priorState.fields
          sample.fields).consecutiveHealthyWindows=0 := rfl
        omega
    | continued heffect hpending hlast hstate hwait =>
      rename_i next pending
      unfold evaluateSamples at hrun
      simp only [hlast] at hrun
      cases hrun
      rw [hwait] at hdecision
      cases hdecision
  · rintro ⟨hqualified,hmeets,hstreak⟩
    obtain ⟨advanced,hadvanced,haccepted⟩ := @acceptedPass_qualified sha256 policy priorState
      evaluatedAt (LoopState.record sha256 {state := priorState} sample) sample hqualified
    obtain ⟨decided,hclassified,hdecided⟩ := @classifiedPass_healthy sha256 policy priorState
      evaluatedAt (LoopState.record sha256 {state := priorState} sample) advanced sample hadvanced
      hqualified hmeets hstreak
    rw [haccepted,hclassified] at hrun
    cases hrun
    exact hdecided

end evaluator

/-- Number of requests of an observation. -/
def requests (observation : MonitoringObservationFields) : Int := observation.request_count.getD 0

def latency (observation : MonitoringObservationFields) : Int :=
  (observation.latency_distribution.map (fun distribution =>
    (distribution.p95_latency_ms.1 : Int))).getD 0

/-- An observation is complete, undisputed, large enough and within every healthy threshold. -/
@[mk_iff] structure HealthyObservation (observation : MonitoringObservationFields) : Prop where
  /-- Every signal is present. -/
  complete : observation.completeness=.complete
  /-- No two samples of one series differ. -/
  undisputed : observation.conflicting_duplicate=false
  /-- The window has enough requests. -/
  large : minimumRequestCount ≤ requests observation
  errors : (observation.server_error_count.getD 0 : Int)*basisPoints≤100*requests observation
  fast : latency observation≤500
  available : 9900*requests observation ≤
    (observation.successful_request_count.getD 0 : Int)*basisPoints

instance (observation : MonitoringObservationFields) : Decidable (HealthyObservation observation) :=
  decidable_of_iff _ (healthyObservation_iff observation).symm

section contracts

variable {functions : HealthFunctions}

/-- A number of seconds since 1970 is the timestamp itself. -/
theorem epochSeconds_eq_ok {value : UtcSecond} {seconds : Int}
    (h : epochSeconds value=.ok seconds) : 0 ≤ value.1 ∧ seconds=value.1 := by
  unfold epochSeconds at h
  obtain ⟨hnonneg,h⟩ := check_bind_eq_ok.mp h
  exact ⟨require_eq_ok.mp hnonneg,(Except.ok.inj h).symm⟩

theorem optionalEpochSeconds_eq_ok {value : Option UtcSecond} {seconds : Option Int}
    (h : optionalEpochSeconds value=.ok seconds) : seconds=value.map Subtype.val := by
  cases value with
  | none => exact (Except.ok.inj h).symm
  | some value =>
    have h : (epochSeconds value).map some=.ok seconds := h
    cases hvalue : epochSeconds value with
    | error raised =>
      rw [hvalue] at h
      cases h
    | ok found =>
      rw [hvalue] at h
      rw [← Except.ok.inj h,(epochSeconds_eq_ok hvalue).2]
      rfl

theorem makeState_eq_ok {fields : HealthEvaluationStateV1Fields} {state : HealthEvaluationStateV1}
    (h : makeState fields=.ok state) : state.fields=fields := by
  unfold makeState at h
  split at h
  · rw [← Except.ok.inj h]
  · cases h

theorem makeDecision_eq_ok {sha256 : Utf8Text.Bytes → Sha256Digest} {fields : HealthDecisionV1Fields}
    {decision : HealthDecisionV1 sha256} (h : makeDecision sha256 fields=.ok decision) :
    decision.fields=fields := by
  unfold makeDecision at h
  split at h
  · rw [← Except.ok.inj h]
  · cases h

/-- Facts that every state satisfies. -/
structure StateShape (state : HealthEvaluationStateV1Fields) : Prop where
  windows : 0 ≤ state.evaluated_windows
  /-- At most one streak is active. -/
  single : state.consecutive_healthy_windows=0 ∨ state.consecutive_unhealthy_windows=0
  ended : state.last_window_ended_at.map Subtype.val=
    if state.evaluated_windows=0 then none
    else some (state.observation_started_at.1+state.evaluated_windows*windowSeconds)

theorem stateShape (state : HealthEvaluationStateV1) : StateShape state.fields := by
  have haccepted := state.accepted
  unfold validateState at haccepted
  simp only [check_bind_eq_ok,require_eq_ok] at haccepted
  obtain ⟨hbounds,-,hsingle,-,-,-,hcontinuity⟩ := haccepted
  refine ⟨by omega,by omega,?_⟩
  unfold validateContinuity at hcontinuity
  by_cases hzero : state.evaluated_windows=0
  · rw [if_pos hzero] at hcontinuity ⊢
    rw [(require_eq_ok.mp hcontinuity).1]
    rfl
  · rw [if_neg hzero] at hcontinuity ⊢
    obtain ⟨-,hcontinuity⟩ := check_bind_eq_ok.mp hcontinuity
    obtain ⟨expected,hexpected,hlast⟩ := bind_eq_ok.mp hcontinuity
    rw [require_eq_ok.mp hlast,Option.map_some,
      MonitoringIngestion.addSeconds_eq_ok (mapError_eq_ok.mp hexpected)]

/-- Where an observation stands. -/
structure ObservationShape (observation : MonitoringObservationFields) : Prop where
  index : 1 ≤ observation.window_index
  /-- The window follows the windows before it. -/
  started : observation.window_started_at.1=
    observation.observation_started_at.1+((observation.window_index : Int)-1)*windowSeconds
  /-- The window lasts one minute. -/
  ended : observation.window_ended_at.1=observation.window_started_at.1+windowSeconds
  deadline : observation.window_ended_at.1+maximumObservationDelaySeconds≤253402300799
  /-- An observation that is not early was made when the window was ready. -/
  settled : observation.timing≠.early →
    observation.window_ended_at.1+observationDelaySeconds ≤ observation.observed_at.1

/-- An observation stands where its contract says. -/
theorem observationShape (observation : Observation functions) :
    ObservationShape observation.toMonitoringObservationFields := by
  have hbounded := observation.bounded
  have haccepted := observation.accepted
  unfold MonitoringObservationFields.validateFields at hbounded
  unfold MonitoringObservationFields.validateObservation at haccepted
  obtain ⟨hindex,-⟩ := require_eq_ok.mp hbounded
  simp only [check_bind_eq_ok,require_eq_ok] at haccepted
  obtain ⟨-,hlength,-,haccepted⟩ := haccepted
  obtain ⟨expected,hexpected,haccepted⟩ := bind_eq_ok.mp haccepted
  simp only [check_bind_eq_ok,require_eq_ok] at haccepted
  obtain ⟨hstart,-,-,-,-,haccepted⟩ := haccepted
  obtain ⟨timing,htiming,haccepted⟩ := bind_eq_ok.mp haccepted
  obtain ⟨hsame,-⟩ := check_bind_eq_ok.mp haccepted
  have hstarted := MonitoringIngestion.addSeconds_eq_ok (mapError_eq_ok.mp hexpected)
  unfold secondsBetween at hlength
  unfold observationTiming addHealthSeconds at htiming
  obtain ⟨ready_at,hready,htiming⟩ := bind_eq_ok.mp htiming
  obtain ⟨late_after,hlate,htiming⟩ := bind_eq_ok.mp htiming
  have hready := MonitoringIngestion.addSeconds_eq_ok (mapError_eq_ok.mp hready)
  have hlate := MonitoringIngestion.addSeconds_eq_ok (mapError_eq_ok.mp hlate)
  have hbound := late_after.2.2
  refine ⟨hindex.1,?_,by omega,by omega,?_⟩
  · rw [hstart,hstarted]
  · intro hnotEarly
    by_cases hearly : observation.observed_at.1 < ready_at.1
    · rw [if_pos hearly] at htiming
      rw [require_eq_ok.mp hsame,← Except.ok.inj htiming] at hnotEarly
      exact absurd rfl hnotEarly
    · omega

/-- What an evaluation of one observation went through. -/
structure Evaluation (functions : HealthFunctions) (prior_state : HealthEvaluationStateV1)
    (observation : MonitoringObservationFields) (evaluated_at : UtcSecond)
    (decision : HealthDecisionV1Fields) where
  policy : HealthPolicy
  state : HealthEvaluationState
  sample : HealthWindowSample
  record : HealthEvaluationResult
  policy_fields : policy.fields=policyFields functions prior_state.fields
    prior_state.observation_started_at.1
  /-- The state belongs to the policy. -/
  known : stateMatches policy.fields state.fields=true
  counters : state.evaluatedWindows=prior_state.evaluated_windows ∧
    state.consecutiveHealthyWindows=prior_state.consecutive_healthy_windows ∧
    state.consecutiveUnhealthyWindows=prior_state.consecutive_unhealthy_windows
  sample_fields : sample.fields=HealthDecisions.sampleFields functions observation
    observation.observation_started_at.1 observation.window_started_at.1
    observation.window_ended_at.1 observation.observed_at.1
  run : evaluateHealth functions.sha256 policy [sample] state evaluated_at.1=.ok record
  time : 0 ≤ evaluated_at.1
  outcome : decision.status=record.decision ∧ decision.reason_codes=record.reasons ∧
    decision.evaluated_at=evaluated_at ∧ decision.policy_sha256=functions.policy_sha256 ∧
    decision.next_state.evaluated_windows=record.state.evaluatedWindows ∧
    decision.next_state.observation_started_at.1=record.state.observationStartedAt

theorem authorityPolicy_eq_ok {state : HealthEvaluationStateV1Fields} {policy : HealthPolicy}
    (h : authorityPolicy functions state=.ok policy) :
    state.policy_sha256=functions.policy_sha256 ∧
      policy.fields=policyFields functions state state.observation_started_at.1 := by
  unfold authorityPolicy at h
  obtain ⟨hdigest,h⟩ := check_bind_eq_ok.mp h
  obtain ⟨started,hstarted,h⟩ := bind_eq_ok.mp h
  obtain ⟨-,h⟩ := check_bind_eq_ok.mp h
  obtain ⟨-,rfl⟩ := epochSeconds_eq_ok hstarted
  refine ⟨require_eq_ok.mp hdigest,?_⟩
  simp only at h
  split at h
  · rw [← Except.ok.inj h]
  · cases h

theorem authoritySample_eq_ok {observation : MonitoringObservationFields}
    {sample : HealthWindowSample} (h : authoritySample functions observation=.ok sample) :
    sample.fields=HealthDecisions.sampleFields functions observation
      observation.observation_started_at.1 observation.window_started_at.1
      observation.window_ended_at.1 observation.observed_at.1 := by
  unfold authoritySample at h
  obtain ⟨started,hstarted,h⟩ := bind_eq_ok.mp h
  obtain ⟨window_started,hwindow_started,h⟩ := bind_eq_ok.mp h
  obtain ⟨window_ended,hwindow_ended,h⟩ := bind_eq_ok.mp h
  obtain ⟨observed,hobserved,h⟩ := bind_eq_ok.mp h
  obtain ⟨-,rfl⟩ := epochSeconds_eq_ok hstarted
  obtain ⟨-,rfl⟩ := epochSeconds_eq_ok hwindow_started
  obtain ⟨-,rfl⟩ := epochSeconds_eq_ok hwindow_ended
  obtain ⟨-,rfl⟩ := epochSeconds_eq_ok hobserved
  simp only at h
  split at h
  · rw [← Except.ok.inj h]
  · cases h

/-- A state of the evaluator has the counters of its contract and belongs to the policy. -/
theorem authorityState_eq_ok {prior_state : HealthEvaluationStateV1} {state : HealthEvaluationState}
    {policy : HealthPolicy} (hdigest : prior_state.policy_sha256=functions.policy_sha256)
    (hpolicy : policy.fields=policyFields functions prior_state.fields
      prior_state.observation_started_at.1)
    (h : authorityState prior_state.fields=.ok state) :
    stateMatches policy.fields state.fields=true ∧
      state.evaluatedWindows=prior_state.evaluated_windows ∧
      state.consecutiveHealthyWindows=prior_state.consecutive_healthy_windows ∧
      state.consecutiveUnhealthyWindows=prior_state.consecutive_unhealthy_windows := by
  unfold authorityState at h
  obtain ⟨started,hstarted,h⟩ := bind_eq_ok.mp h
  obtain ⟨last,hlast,h⟩ := bind_eq_ok.mp h
  obtain ⟨-,rfl⟩ := epochSeconds_eq_ok hstarted
  have hended := (stateShape prior_state).ended
  have hfields := HealthEvaluationStateFields.make_eq_ok.mp h
  rw [optionalEpochSeconds_eq_ok hlast] at hfields
  rw [← hfields]
  refine ⟨?_,rfl,rfl,rfl⟩
  rw [hpolicy]
  simp only [stateMatches,expectedLastWindowEndedAt,HealthPolicyFields.scope,
    HealthEvaluationStateFields.scope,policyFields,hdigest,hended,decide_true,Bool.and_self]

/-- A timestamp has the number of seconds that it was made from. -/
theorem utcSecond_eq_ok {seconds : Int} {value : UtcSecond} (h : utcSecond seconds=.ok value) :
    value.1=seconds := by
  unfold utcSecond at h
  split at h
  · rw [← Except.ok.inj h]
  · cases h

theorem decisionFields_eq_ok {prior_state : HealthEvaluationStateV1} {record : HealthEvaluationResult}
    {evaluated_at : UtcSecond} {pending : HealthDecisionV1Fields}
    (h : decisionFields functions prior_state record evaluated_at=.ok pending) :
    pending.status=record.decision ∧ pending.reason_codes=record.reasons ∧
      pending.evaluated_at=evaluated_at ∧ pending.policy_sha256=functions.policy_sha256 ∧
      pending.next_state.evaluated_windows=record.state.evaluatedWindows ∧
      pending.next_state.observation_started_at.1=record.state.observationStartedAt := by
  unfold decisionFields at h
  obtain ⟨next_state,hnext,h⟩ := bind_eq_ok.mp h
  obtain ⟨observation_sha256,-,h⟩ := bind_eq_ok.mp h
  obtain ⟨query_sha256s,-,h⟩ := bind_eq_ok.mp h
  obtain ⟨sample_sha256s,-,h⟩ := bind_eq_ok.mp h
  obtain ⟨window_started_at,-,h⟩ := bind_eq_ok.mp h
  obtain ⟨window_ended_at,-,h⟩ := bind_eq_ok.mp h
  obtain ⟨next_evaluation_at,-,h⟩ := bind_eq_ok.mp h
  cases h
  unfold contractState at hnext
  obtain ⟨policy_sha256,-,hnext⟩ := bind_eq_ok.mp hnext
  obtain ⟨root_id,-,hnext⟩ := bind_eq_ok.mp hnext
  obtain ⟨root_sha256,-,hnext⟩ := bind_eq_ok.mp hnext
  obtain ⟨epoch,-,hnext⟩ := bind_eq_ok.mp hnext
  obtain ⟨candidate_revision,-,hnext⟩ := bind_eq_ok.mp hnext
  obtain ⟨observation_started_at,hstarted,hnext⟩ := bind_eq_ok.mp hnext
  obtain ⟨last_window_ended_at,-,hnext⟩ := bind_eq_ok.mp hnext
  obtain ⟨last_observation_sha256,-,hnext⟩ := bind_eq_ok.mp hnext
  obtain ⟨consumed,-,hnext⟩ := bind_eq_ok.mp hnext
  obtain ⟨prior_decision_sha256,-,hnext⟩ := bind_eq_ok.mp hnext
  have hfields := makeState_eq_ok hnext
  have hwindows : next_state.evaluated_windows=record.state.evaluatedWindows := by rw [hfields]
  have horigin : next_state.observation_started_at=observation_started_at := by rw [hfields]
  exact ⟨rfl,rfl,rfl,rfl,hwindows,(congrArg Subtype.val horigin).trans (utcSecond_eq_ok hstarted)⟩

/-- An evaluation that returns went through the evaluator. -/
theorem evaluateHealthObservation_spec {prior_state : HealthEvaluationStateV1}
    {predecessor : Option (Decision functions)} {observation : Observation functions}
    {evaluated_at : UtcSecond} {decision : Decision functions}
    (h : evaluateHealthObservation functions prior_state predecessor (some observation)
      evaluated_at=.ok decision) :
    Nonempty (Evaluation functions prior_state observation.toMonitoringObservationFields
      evaluated_at decision.fields) := by
  unfold evaluateHealthObservation at h
  obtain ⟨policy,hpolicy,h⟩ := bind_eq_ok.mp h
  obtain ⟨-,h⟩ := check_bind_eq_ok.mp h
  obtain ⟨state,hstate,h⟩ := bind_eq_ok.mp h
  obtain ⟨samples,hsamples,h⟩ := bind_eq_ok.mp h
  obtain ⟨evaluated,hevaluated,h⟩ := bind_eq_ok.mp h
  obtain ⟨record,hrecord,h⟩ := bind_eq_ok.mp h
  obtain ⟨pending,hpending,h⟩ := bind_eq_ok.mp h
  obtain ⟨-,-,hmade⟩ := bind_eq_ok.mp h
  obtain ⟨hdigest,hfields⟩ := authorityPolicy_eq_ok hpolicy
  obtain ⟨hknown,hcounters⟩ := authorityState_eq_ok hdigest hfields hstate
  obtain ⟨hnonneg,rfl⟩ := epochSeconds_eq_ok hevaluated
  rw [Option.toList_some,List.mapM_cons] at hsamples
  obtain ⟨sample,hsample,hsamples⟩ := bind_eq_ok.mp hsamples
  cases hsamples
  have hdecision := makeDecision_eq_ok hmade
  have houtcome := decisionFields_eq_ok hpending
  refine ⟨⟨policy,state,sample,record,hfields,hknown,hcounters,authoritySample_eq_ok hsample,hrecord,
    hnonneg,?_⟩⟩
  rw [hdecision]
  exact houtcome

/-- An evaluation never takes a window back. -/
theorem evaluated_windows_le {prior_state : HealthEvaluationStateV1}
    {observation : MonitoringObservationFields} {evaluated_at : UtcSecond}
    {decision : HealthDecisionV1Fields}
    (h : Evaluation functions prior_state observation evaluated_at decision) :
    prior_state.evaluated_windows ≤ decision.next_state.evaluated_windows := by
  have hchain := @callPasses_chain functions.sha256 h.policy h.state
    ⟨[h.sample],evaluated_at.1⟩ h.record h.run
  have hgrows := hchain.grows.windows
  have hcounters := h.counters.1
  have houtcome := h.outcome.2.2.2.2.1
  omega

/-- No effect of a pass moves the start of the windows. -/
theorem origin_effect {sha256 : List UInt8 → Sha256Digest} {policy : HealthPolicyFields}
    {evaluatedAt : Int} {before after : HealthEvaluationStateFields}
    {sample : HealthWindowSampleFields}
    (h : StateEffect sha256 policy evaluatedAt before sample after) :
    after.observationStartedAt=before.observationStartedAt := by
  cases h with
  | kept => rfl
  | reset => rfl
  | consumed _ => rfl
  | healthy _ _ => rfl
  | unhealthy _ _ => rfl

/-- Along a chain of passes the start of the windows is not moved. -/
theorem origin_chain {sha256 : List UInt8 → Sha256Digest} {policy : HealthPolicy}
    {start finish : HealthEvaluationStateFields} {passes : List HealthPass}
    (h : PassChain sha256 policy start passes finish) :
    finish.observationStartedAt=start.observationStartedAt := by
  have huntouched : ∀ {before after : HealthEvaluationStateFields},Untouched before after →
      after.observationStartedAt=before.observationStartedAt := by
    rintro before after (rfl | rfl)
    · rfl
    · rfl
  induction passes generalizing start with
  | nil => exact huntouched h
  | cons pass passes ih =>
    obtain ⟨hfirst,⟨evaluatedAt,heffect⟩,hrest⟩ := h
    exact (ih hrest).trans ((origin_effect heffect).trans (huntouched hfirst))

/-- An evaluation does not move the start of the windows. -/
theorem observation_started_at_eq {prior_state : HealthEvaluationStateV1}
    {observation : MonitoringObservationFields} {evaluated_at : UtcSecond}
    {decision : HealthDecisionV1Fields}
    (h : Evaluation functions prior_state observation evaluated_at decision) :
    decision.next_state.observation_started_at=prior_state.observation_started_at := by
  have hchain := @callPasses_chain functions.sha256 h.policy h.state
    ⟨[h.sample],evaluated_at.1⟩ h.record h.run
  have hknown := h.known
  simp only [stateMatches,Bool.and_eq_true,decide_eq_true_eq] at hknown
  have hpolicy : h.policy.observationStartedAt=prior_state.observation_started_at.1 := by
    rw [h.policy_fields]
    rfl
  exact Subtype.ext (h.outcome.2.2.2.2.2.trans
    ((origin_chain hchain).trans (hknown.1.1.2.trans hpolicy)))

/-- The observation of an evaluation is one of the scope and the next window of its state. -/
structure NextWindow (functions : HealthFunctions) (prior_state : HealthEvaluationStateV1Fields)
    (observation : MonitoringObservationFields) : Prop where
  policy : observation.policy_sha256=functions.policy_sha256
  /-- The target and the root are those of the state. -/
  scope : prior_state.target=observation.target ∧ prior_state.root_id=observation.root_id ∧
    prior_state.root_sha256=observation.root_sha256 ∧ prior_state.epoch=observation.epoch ∧
    prior_state.candidate_revision=observation.candidate_revision
  /-- The windows are counted from the same time. -/
  origin : observation.observation_started_at=prior_state.observation_started_at
  index : (observation.window_index : Int)=prior_state.evaluated_windows+1
  /-- The windows are not exhausted. -/
  remaining : observation.window_index≤ maximumWindows
  /-- The observation is not early. -/
  timing : observation.timing≠.early

/-- What the evaluator sees of the next window. -/
structure Placed (functions : HealthFunctions) (prior_state : HealthEvaluationStateV1)
    (observation : MonitoringObservationFields) (evaluated_at : UtcSecond) (policy : HealthPolicy)
    (state : HealthEvaluationState) (sample : HealthWindowSample) : Prop where
  bounds : policy.windowSeconds=60 ∧ policy.observationDelaySeconds=180 ∧
    policy.maximumObservationDelaySeconds=360 ∧ policy.maximumWindows=10 ∧
    policy.minimumRequestCount=100 ∧ policy.healthyConsecutiveWindows=2 ∧
    policy.unhealthyConsecutiveWindows=2
  /-- The sample belongs to the policy. -/
  inScope : sampleMatches policy.fields sample.fields=true
  onGrid : boundaryValid policy.fields sample.fields
  remaining : state.evaluatedWindows<10
  consecutive : sample.windowStartedAt=expectedStart policy.fields state.fields
  ended : sample.windowEndedAt=observation.window_ended_at.1 ∧
    sample.windowEndedAt=sample.windowStartedAt+60
  /-- The window is not the last one. -/
  unseen : some sample.windowEndedAt≠state.lastWindowEndedAt
  settled : sample.windowEndedAt+180 ≤ sample.observedAt
  /-- The evaluation happens at the time of the observation. -/
  now : sample.observedAt=evaluated_at.1

/-- The next window stands where the evaluator expects it. -/
theorem placed_of_next {prior_state : HealthEvaluationStateV1} {observation : Observation functions}
    {evaluated_at : UtcSecond} {decision : HealthDecisionV1Fields}
    (h : Evaluation functions prior_state observation.toMonitoringObservationFields evaluated_at
      decision)
    (hnext : NextWindow functions prior_state.fields observation.toMonitoringObservationFields)
    (hobserved : observation.observed_at=evaluated_at) :
    Placed functions prior_state observation.toMonitoringObservationFields evaluated_at h.policy
      h.state h.sample := by
  have hshape := observationShape observation
  have hpositive := hshape.index
  have hstarted := hshape.started
  have hended := hshape.ended
  have hsettled := hshape.settled hnext.timing
  have hindex := hnext.index
  have hbound := hnext.remaining
  have hexpected := expectedStart_of_matches h.known
  have hwindows := h.counters.1
  have horigin := congrArg Subtype.val hnext.origin
  have hseconds := congrArg Subtype.val hobserved
  unfold windowSeconds at hstarted hended
  unfold observationDelaySeconds at hsettled
  unfold maximumWindows at hbound
  have hpolicy := h.policy_fields
  have hsample := h.sample_fields
  have hlength : h.policy.windowSeconds=60 := by rw [hpolicy]; rfl
  have hgrid : h.policy.observationStartedAt=prior_state.observation_started_at.1 := by
    rw [hpolicy]; rfl
  have hfrom : h.sample.windowStartedAt=observation.window_started_at.1 := by rw [hsample]; rfl
  have huntil : h.sample.windowEndedAt=observation.window_ended_at.1 := by rw [hsample]; rfl
  have hplace : h.sample.windowIndex=observation.window_index := by rw [hsample]; rfl
  have hat : h.sample.observedAt=observation.observed_at.1 := by rw [hsample]; rfl
  rw [hwindows,hlength,hgrid] at hexpected
  have hlast := h.known
  simp only [stateMatches,Bool.and_eq_true,decide_eq_true_eq] at hlast
  obtain ⟨⟨⟨-,hstateStart⟩,hlast⟩,-⟩ := hlast
  constructor
  · rw [hpolicy]
    exact ⟨rfl,rfl,rfl,rfl,rfl,rfl,rfl⟩
  · obtain ⟨htarget,hroot,hrootSha,hepoch,hrevision⟩ := hnext.scope
    rw [hpolicy,hsample]
    simp only [sampleMatches,HealthPolicyFields.scope,HealthWindowSampleFields.scope,policyFields,
      HealthDecisions.sampleFields,hnext.policy,htarget,hroot,hrootSha,hepoch,hrevision,horigin,
      decide_true,Bool.and_self]
  · unfold boundaryValid
    rw [hlength,hgrid]
    omega
  · omega
  · omega
  · omega
  · rw [hlast,expectedLastWindowEndedAt]
    by_cases hzero : h.state.evaluatedWindows=0
    · rw [if_pos hzero]
      exact Option.some_ne_none _
    · rw [if_neg hzero,hlength,hstateStart]
      intro heq
      have hsame := Option.some.inj heq
      omega
  · omega
  · omega

/-- A window whose evidence was consumed before is decided to be a duplicate. -/
theorem duplicate_of_replay {prior_state : HealthEvaluationStateV1}
    {observation : Observation functions} {evaluated_at : UtcSecond}
    {decision : HealthDecisionV1Fields}
    (h : Evaluation functions prior_state observation.toMonitoringObservationFields evaluated_at
      decision)
    (hready : Ready h.policy h.state)
    (hscope : sampleMatches h.policy.fields h.sample.fields=true)
    (hgrid : boundaryValid h.policy.fields h.sample.fields)
    (hreplay : identicalReplay functions.sha256 h.state.fields h.sample.fields) :
    .windowDuplicate∈decision.reason_codes := by
  have hrun := h.run
  have htime : 0 ≤ evaluated_at.1 ∧ evaluated_at.1 ≤ maxSafeInteger := by
    have hbound := evaluated_at.2.2
    unfold maxSafeInteger
    exact ⟨h.time,by omega⟩
  have hremaining := hready.remaining
  obtain ⟨base,hbase⟩ :=
    Option.ne_none_iff_exists'.mp (identicalReplay_lastWindow functions.sha256 hreplay)
  rw [evaluateHealth_single hready htime] at hrun
  unfold evaluateSamples at hrun
  rw [samplePass_new (seenFrom_initial h.state) (fun _ hprior => by cases hprior)] at hrun
  have hpass : acceptedPass functions.sha256 h.policy h.state evaluated_at.1
      (LoopState.record functions.sha256 {state := h.state} h.sample) h.sample=
      .ok (.returned (result h.policy h.state evaluated_at.1 .wait [.windowDuplicate] h.state
        [h.sample] (some h.sample)
        (nextAfterConsumed h.policy.fields h.state.fields evaluated_at.1 base))) := by
    have hexhausted : ¬h.policy.maximumWindows ≤ h.state.evaluatedWindows := by omega
    unfold acceptedPass
    dsimp only [LoopState.record,LoopState.cite]
    rw [if_neg hexhausted,if_neg (by rw [hscope]; decide),if_neg (not_not.mpr hgrid),
      if_pos hreplay,hbase]
    rfl
  rw [hpass] at hrun
  rw [h.outcome.2.1,← Except.ok.inj hrun]
  exact List.mem_singleton_self _

/-- The next window is decided to be healthy exactly when one healthy window came before,
the observation is healthy, and it was made by the deadline of the window. -/
theorem healthy_iff {prior_state : HealthEvaluationStateV1} {observation : Observation functions}
    {evaluated_at : UtcSecond} {decision : HealthDecisionV1Fields}
    (h : Evaluation functions prior_state observation.toMonitoringObservationFields evaluated_at
      decision)
    (hnext : NextWindow functions prior_state.fields observation.toMonitoringObservationFields)
    (hobserved : observation.observed_at=evaluated_at)
    (hfresh : .windowDuplicate∉decision.reason_codes) :
    decision.status=.healthy ↔ prior_state.consecutive_healthy_windows=1 ∧
      HealthyObservation observation.toMonitoringObservationFields ∧
      evaluated_at.1 ≤ observation.window_ended_at.1+maximumObservationDelaySeconds := by
  have hplaced := placed_of_next h hnext hobserved
  obtain ⟨hwindow,hdelay,hmaximum,hlimit,hminimum,hhealthy,hunhealthy⟩ := hplaced.bounds
  obtain ⟨-,hcounted,hcountedOther⟩ := h.counters
  have hsingle := (stateShape prior_state).single
  have hsample := h.sample_fields
  have hpolicy := h.policy_fields
  have hremaining := hplaced.remaining
  have hended := hplaced.ended
  have hsettled := hplaced.settled
  have hnow := hplaced.now
  have hconsecutive := hplaced.consecutive
  have htime : 0 ≤ evaluated_at.1 ∧ evaluated_at.1 ≤ maxSafeInteger := by
    have hbound := evaluated_at.2.2
    unfold maxSafeInteger
    exact ⟨h.time,by omega⟩
  have hrequests : h.sample.requestCount=requests observation.toMonitoringObservationFields := by
    rw [hsample]; rfl
  have hmeets : MeetsHealthy h.policy.fields h.sample.fields ↔
      (observation.server_error_count.getD 0 : Int)*basisPoints≤
          100*requests observation.toMonitoringObservationFields ∧
        latency observation.toMonitoringObservationFields≤500 ∧
        9900*requests observation.toMonitoringObservationFields ≤
          (observation.successful_request_count.getD 0 : Int)*basisPoints := by
    rw [hpolicy,hsample]
    exact Iff.rfl
  have hmissing : h.sample.missing=decide (observation.completeness=.missing) := by
    rw [hsample]; rfl
  have hcomplete : h.sample.complete=decide (observation.completeness=.complete) := by
    rw [hsample]; rfl
  have hconflict : h.sample.conflictingDuplicate=observation.conflicting_duplicate := by
    rw [hsample]; rfl
  rw [h.outcome.1]
  unfold maximumObservationDelaySeconds
  by_cases hterminal : streakTerminal h.policy.fields h.state.fields
  · have hundecided : h.record.decision≠.healthy := by
      rcases evaluateHealth_cases functions.sha256 h.policy h.state evaluated_at.1 [h.sample] with
        ⟨henters,-⟩ | ⟨-,hnot,-⟩ | ⟨-,-,record,hrecord,hundecided⟩
      · exact absurd hterminal henters.undecided
      · exact absurd htime hnot
      · rw [← Except.ok.inj (hrecord.symm.trans h.run)]
        exact hundecided.2.1
    refine ⟨fun hdecision => absurd hdecision hundecided,?_⟩
    rintro ⟨hone,-,-⟩
    unfold streakTerminal at hterminal
    omega
  · have hready : Ready h.policy h.state := ⟨h.known,hterminal,by omega⟩
    rw [evaluateHealth_healthy_iff hready htime h.run]
    unfold streakTerminal at hterminal
    constructor
    · rintro ⟨hqualified,hthresholds,hstreak⟩
      have htimely := hqualified.timely
      have hlarge := hqualified.sufficient
      have hwhole := hqualified.whole
      rw [hcomplete] at hwhole
      obtain ⟨herrors,hfast,havailable⟩ := hmeets.mp hthresholds
      refine ⟨by omega,⟨of_decide_eq_true hwhole,hconflict.symm.trans hqualified.unanimous,?_,herrors,
        hfast,havailable⟩,by omega⟩
      unfold minimumRequestCount
      omega
    · rintro ⟨hone,hobservation,htimely⟩
      have hlarge := hobservation.large
      unfold minimumRequestCount at hlarge
      have hreplay : ¬identicalReplay functions.sha256 h.state.fields h.sample.fields := fun hreplay =>
        hfresh (duplicate_of_replay h hready hplaced.inScope hplaced.onGrid hreplay)
      have hcollected : Collected functions.sha256 h.policy.fields evaluated_at.1 h.state.fields
          h.sample.fields :=
        ⟨by omega,hplaced.inScope,hplaced.onGrid,hreplay,hplaced.unseen,by omega,by omega,by omega,
          by omega⟩
      refine ⟨⟨hcollected,by omega,hconsecutive,?_,?_,hconflict.trans hobservation.undisputed,
        by omega⟩,hmeets.mpr ⟨hobservation.errors,hobservation.fast,hobservation.available⟩,by omega⟩
      · rw [hmissing,hobservation.complete]
        rfl
      · rw [hcomplete,hobservation.complete]
        rfl

end contracts

end ControlGraph.HealthVerdicts
