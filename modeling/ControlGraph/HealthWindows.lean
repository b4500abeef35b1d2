import ControlGraph.Checks
import ControlGraph.ContractText
import Mathlib.Tactic.Ring
import Mathlib.Tactic.Linarith

/-!
# Canonical health windows: policy, samples and anti-flap state

The frozen data of the pure health evaluator. Every structure keeps the
fields of its source and carries, as a proof, that its checks after
construction succeeded; a rejected value cannot be built. Scopes compare the
eight target fields that a policy, a sample and a state share. The digest of
a sample set is taken under one domain separator and its length.
-/

namespace ControlGraph.HealthWindows

open Checks ContractText

/-- Scale of error rates and availabilities. -/
def basisPoints : Int := 10000

/-- Greatest number of windows that any state may count. -/
def maxWindows : Int := 10

/-- Closed outcomes emitted by the health evaluator. -/
inductive HealthDecisionKind
  | healthy | unhealthy | wait | insufficientEvidence
  deriving DecidableEq,Repr

/-- Stable reasons for one deterministic health decision. -/
inductive HealthReason
  | noSamples | tooManyWindows | stateScopeMismatch | stateTerminal | sampleScopeMismatch
  | windowBoundaryInvalid | windowOutOfOrder | windowDuplicate | windowGap | windowNotReady
  | sampleEarly | sampleLate | sampleMissing | samplePartial | sampleConflictingDuplicate
  | minimumRequestsNotMet | healthyThresholdsMet | unhealthyErrorRate | unhealthyLatency
  | unhealthyAvailability | thresholdInconclusive | healthyStreakPending
  | unhealthyStreakPending | healthyStreakMet | unhealthyStreakMet | maximumWindowsExhausted
  deriving DecidableEq,Repr

/-- Reject blank text and wildcards. -/
def requireIdentifier (name value : String) : Except Raised Unit := do
  require (isBlank value=false) (.valueError s!"{name} must not be blank")
  require (hasWildcard value=false) (.valueError s!"{name} must not contain wildcards")

/-- Reject everything but a lowercase digest. -/
def requireDigest (name value : String) : Except Raised Unit :=
  require (isSha256 value=true) (.valueError s!"{name} must be a lowercase SHA-256 digest")

/-- Reject an integer outside an inclusive range. -/
def requireInt (name : String) (value minimum maximum : Int) : Except Raised Unit :=
  require (minimum ≤ value ∧ value ≤ maximum)
    (.valueError s!"{name} must be an integer from {minimum} through {maximum}")

/-- The root identifier is the prefixed root digest. -/
def requireRootBinding (rootId rootSha256 : String) : Except Raised Unit :=
  require (rootId="cgroot:"++rootSha256) (.valueError "root_id must bind root_sha256")

@[simp] theorem requireInt_eq_ok {name : String} {value minimum maximum : Int} {result : Unit} :
    requireInt name value minimum maximum=.ok result ↔ minimum ≤ value ∧ value ≤ maximum :=
  require_eq_ok

@[simp] theorem requireDigest_eq_ok {name value : String} {result : Unit} :
    requireDigest name value=.ok result ↔ isSha256 value=true :=
  require_eq_ok

@[simp] theorem requireRootBinding_eq_ok {rootId rootSha256 : String} {result : Unit} :
    requireRootBinding rootId rootSha256=.ok result ↔ rootId="cgroot:"++rootSha256 :=
  require_eq_ok

def sampleSetDigestDomain : List UInt8 :=
  ("controlgraph.monitoring-sample-set/v1".toList.map (fun character =>
    UInt8.ofNat character.toNat))++[0]

def sampleSetSha256 (sha256 : List UInt8 → Sha256Digest) (sampleSha256s : List String) :
    Option String :=
  if sampleSha256s=[] then none
  else
    let count := sampleSha256s.length
    some (sha256 (sampleSetDigestDomain++[UInt8.ofNat (count/256),UInt8.ofNat count]++
      sampleSha256s.flatMap (fun sample => fromHex sample.toList))).1

/-- Fields of a policy: target binding, window rules, thresholds and hysteresis. -/
structure HealthPolicyFields where
  policyVersion : String
  policySha256 : String
  projectId : String
  region : String
  environment : String
  serviceName : String
  rootId : String
  rootSha256 : String
  epoch : Int
  candidateRevision : String
  /-- Origin of the window grid. -/
  observationStartedAt : Int
  windowSeconds : Int
  observationDelaySeconds : Int
  maximumObservationDelaySeconds : Int
  minimumRequestCount : Int
  healthyMaximumErrorRateBasisPoints : Int
  unhealthyMinimumErrorRateBasisPoints : Int
  healthyMaximumP95LatencyMs : Int
  unhealthyMinimumP95LatencyMs : Int
  healthyMinimumAvailabilityBasisPoints : Int
  unhealthyMaximumAvailabilityBasisPoints : Int
  healthyConsecutiveWindows : Int
  unhealthyConsecutiveWindows : Int
  maximumWindows : Int := maxWindows
  deriving DecidableEq,Repr

/-- The checks made after a policy is assembled, in source order. -/
def HealthPolicyFields.postInit (p : HealthPolicyFields) : Except Raised Unit := do
  [("policy_version",p.policyVersion),("project_id",p.projectId),("region",p.region),
    ("environment",p.environment),("service_name",p.serviceName),("root_id",p.rootId),
    ("candidate_revision",p.candidateRevision)].forM (fun entry =>
      requireIdentifier entry.1 entry.2)
  requireDigest "policy_sha256" p.policySha256
  requireDigest "root_sha256" p.rootSha256
  requireRootBinding p.rootId p.rootSha256
  requireInt "epoch" p.epoch 1 maxSafeInteger
  requireInt "observation_started_at" p.observationStartedAt 0 maxSafeInteger
  requireInt "window_seconds" p.windowSeconds 1 86400
  requireInt "observation_delay_seconds" p.observationDelaySeconds 0 86400
  requireInt "maximum_observation_delay_seconds" p.maximumObservationDelaySeconds 0 86400
  require (p.observationDelaySeconds ≤ p.maximumObservationDelaySeconds)
    (.valueError "maximum observation delay cannot precede the earliest observation")
  requireInt "minimum_request_count" p.minimumRequestCount 1 maxSafeInteger
  [("healthy_maximum_error_rate_basis_points",p.healthyMaximumErrorRateBasisPoints),
    ("unhealthy_minimum_error_rate_basis_points",p.unhealthyMinimumErrorRateBasisPoints),
    ("healthy_minimum_availability_basis_points",p.healthyMinimumAvailabilityBasisPoints),
    ("unhealthy_maximum_availability_basis_points",
      p.unhealthyMaximumAvailabilityBasisPoints)].forM (fun entry =>
      requireInt entry.1 entry.2 0 basisPoints)
  requireInt "healthy_maximum_p95_latency_ms" p.healthyMaximumP95LatencyMs 0 maxSafeInteger
  requireInt "unhealthy_minimum_p95_latency_ms" p.unhealthyMinimumP95LatencyMs 0 maxSafeInteger
  [("healthy_consecutive_windows",p.healthyConsecutiveWindows),
    ("unhealthy_consecutive_windows",p.unhealthyConsecutiveWindows)].forM (fun entry =>
      requireInt entry.1 entry.2 1 64)
  requireInt "maximum_windows" p.maximumWindows 1 maxWindows
  require (p.observationStartedAt+p.maximumWindows*p.windowSeconds+
      p.maximumObservationDelaySeconds ≤ maxSafeInteger)
    (.valueError "health policy window horizon exceeds the safe timestamp range")
  require (p.healthyConsecutiveWindows ≤ p.maximumWindows ∧
      p.unhealthyConsecutiveWindows ≤ p.maximumWindows)
    (.valueError "health streak requirements cannot exceed maximum windows")
  require (p.healthyMaximumErrorRateBasisPoints < p.unhealthyMinimumErrorRateBasisPoints)
    (.valueError "healthy and unhealthy error thresholds must leave a wait band")
  require (p.healthyMaximumP95LatencyMs < p.unhealthyMinimumP95LatencyMs)
    (.valueError "healthy and unhealthy latency thresholds must leave a wait band")
  require (p.unhealthyMaximumAvailabilityBasisPoints < p.healthyMinimumAvailabilityBasisPoints)
    (.valueError "healthy and unhealthy availability thresholds must leave a wait band")

/-- Frozen policy that passed its checks. -/
structure HealthPolicy extends fields : HealthPolicyFields where
  /-- Every check after construction succeeded. -/
  accepted : fields.postInit=.ok ()
  deriving DecidableEq

/-- Fields of one canonical aggregate for a target-bound half-open window. -/
structure HealthWindowSampleFields where
  observationSha256 : String
  /-- Digests of the two policy queries. -/
  querySha256s : List String
  /-- Digests of the source samples. -/
  sampleSha256s : List String
  policySha256 : String
  projectId : String
  region : String
  environment : String
  serviceName : String
  rootId : String
  rootSha256 : String
  epoch : Int
  candidateRevision : String
  /-- Origin of the window grid. -/
  observationStartedAt : Int
  windowIndex : Int
  windowStartedAt : Int
  windowEndedAt : Int
  observedAt : Int
  requestCount : Int
  response1xxCount : Int
  successfulRequestCount : Int
  response3xxCount : Int
  response4xxCount : Int
  serverErrorCount : Int
  p95LatencyMs : Int
  /-- Whether the window was completely collected. -/
  complete : Bool
  /-- Whether the window carries no data. -/
  missing : Bool
  duplicateCount : Int
  conflictingDuplicate : Bool
  deriving DecidableEq,Repr

/-- Sum of the five known response classes. -/
def HealthWindowSampleFields.responseTotal (s : HealthWindowSampleFields) : Int :=
  s.response1xxCount+s.successfulRequestCount+s.response3xxCount+s.response4xxCount+
    s.serverErrorCount

/-- The checks made after a sample is assembled, in source order. -/
def HealthWindowSampleFields.postInit (s : HealthWindowSampleFields) : Except Raised Unit := do
  requireDigest "observation_sha256" s.observationSha256
  require (s.querySha256s.length=2)
    (.valueError "query_sha256s must contain the two policy query digests")
  require (s.sampleSha256s.length≤64)
    (.valueError "sample_sha256s must contain at most 64 source digests")
  s.querySha256s.forM (fun digest => requireDigest "query_sha256s" digest)
  s.sampleSha256s.forM (fun digest => requireDigest "sample_sha256s" digest)
  require s.querySha256s.Nodup (.valueError "query digests must be unique")
  require s.sampleSha256s.Nodup (.valueError "sample digests must be unique")
  requireDigest "policy_sha256" s.policySha256
  [("project_id",s.projectId),("region",s.region),("environment",s.environment),
    ("service_name",s.serviceName),("root_id",s.rootId),
    ("candidate_revision",s.candidateRevision)].forM (fun entry =>
      requireIdentifier entry.1 entry.2)
  requireDigest "root_sha256" s.rootSha256
  requireRootBinding s.rootId s.rootSha256
  requireInt "epoch" s.epoch 1 maxSafeInteger
  [("observation_started_at",s.observationStartedAt),("window_started_at",s.windowStartedAt),
    ("window_ended_at",s.windowEndedAt),("observed_at",s.observedAt)].forM (fun entry =>
      requireInt entry.1 entry.2 0 maxSafeInteger)
  requireInt "window_index" s.windowIndex 1 maxSafeInteger
  [("request_count",s.requestCount),("response_1xx_count",s.response1xxCount),
    ("successful_request_count",s.successfulRequestCount),
    ("response_3xx_count",s.response3xxCount),("response_4xx_count",s.response4xxCount),
    ("server_error_count",s.serverErrorCount),("p95_latency_ms",s.p95LatencyMs),
    ("duplicate_count",s.duplicateCount)].forM (fun entry =>
      requireInt entry.1 entry.2 0 maxSafeInteger)
  require (¬(s.complete=true ∧ s.missing=true))
    (.valueError "a complete health sample cannot be missing")
  require (¬(s.complete=true ∧ s.sampleSha256s.length<2))
    (.valueError "complete health sample requires request and latency sample digests")
  require (¬(s.conflictingDuplicate=true ∧ s.duplicateCount=0))
    (.valueError "a conflicting duplicate requires a positive duplicate count")
  require (¬(s.missing=true ∧ (s.sampleSha256s≠[] ∨ s.requestCount≠0 ∨ s.response1xxCount≠0 ∨
      s.successfulRequestCount≠0 ∨ s.response3xxCount≠0 ∨ s.response4xxCount≠0 ∨
      s.serverErrorCount≠0 ∨ s.p95LatencyMs≠0)))
    (.valueError "a missing health sample cannot contain aggregates")
  require (s.windowStartedAt < s.windowEndedAt)
    (.valueError "health window must have positive duration")
  require (s.windowEndedAt ≤ s.observedAt)
    (.valueError "health sample cannot be observed before its window ends")
  require (¬(s.complete=true ∧ s.responseTotal≠s.requestCount))
    (.valueError "total requests must equal the five known response-code classes")
  require (s.responseTotal ≤ s.requestCount)
    (.valueError "known response-code classes cannot exceed total requests")

/-- Canonical aggregate that passed its checks. -/
structure HealthWindowSample extends fields : HealthWindowSampleFields where
  /-- Every check after construction succeeded. -/
  accepted : fields.postInit=.ok ()
  deriving DecidableEq

/-- Fields of the anti-flap state carried between pure evaluations. -/
structure HealthEvaluationStateFields where
  policyVersion : String
  policySha256 : String
  projectId : String
  region : String
  environment : String
  serviceName : String
  rootId : String
  rootSha256 : String
  epoch : Int
  candidateRevision : String
  /-- Origin of the window grid. -/
  observationStartedAt : Int
  lastWindowEndedAt : Option Int := none
  consecutiveHealthyWindows : Int := 0
  consecutiveUnhealthyWindows : Int := 0
  evaluatedWindows : Int := 0
  lastObservationSha256 : Option String := none
  consumedSampleSetSha256s : List String := []
  priorDecisionSha256 : Option String := none
  deriving DecidableEq,Repr

/-- The checks made after a state is assembled, in source order. -/
def HealthEvaluationStateFields.postInit (s : HealthEvaluationStateFields) :
    Except Raised Unit := do
  [("policy_version",s.policyVersion),("project_id",s.projectId),("region",s.region),
    ("environment",s.environment),("service_name",s.serviceName),("root_id",s.rootId),
    ("candidate_revision",s.candidateRevision)].forM (fun entry =>
      requireIdentifier entry.1 entry.2)
  requireDigest "policy_sha256" s.policySha256
  requireDigest "root_sha256" s.rootSha256
  requireRootBinding s.rootId s.rootSha256
  requireInt "epoch" s.epoch 1 maxSafeInteger
  requireInt "observation_started_at" s.observationStartedAt 0 maxSafeInteger
  s.lastWindowEndedAt.toList.forM (fun ended =>
    requireInt "last_window_ended_at" ended 0 maxSafeInteger)
  s.lastObservationSha256.toList.forM (fun digest =>
    requireDigest "last_observation_sha256" digest)
  require ((s.consumedSampleSetSha256s.length : Int) ≤ maxWindows)
    (.valueError "consumed_sample_set_sha256s must contain at most 10 digests")
  s.consumedSampleSetSha256s.forM (fun digest =>
    requireDigest "consumed_sample_set_sha256s" digest)
  require s.consumedSampleSetSha256s.Nodup
    (.valueError "consumed sample-set digests must be unique")
  s.priorDecisionSha256.toList.forM (fun digest => requireDigest "prior_decision_sha256" digest)
  [("consecutive_healthy_windows",s.consecutiveHealthyWindows),
    ("consecutive_unhealthy_windows",s.consecutiveUnhealthyWindows)].forM (fun entry =>
      requireInt entry.1 entry.2 0 64)
  requireInt "evaluated_windows" s.evaluatedWindows 0 maxWindows
  require (¬(s.consecutiveHealthyWindows≠0 ∧ s.consecutiveUnhealthyWindows≠0))
    (.valueError "healthy and unhealthy streaks cannot both be active")
  require (¬(s.lastWindowEndedAt=none ∧ (s.consecutiveHealthyWindows≠0 ∨
      s.consecutiveUnhealthyWindows≠0 ∨ s.evaluatedWindows≠0 ∨ s.lastObservationSha256≠none ∨
      s.consumedSampleSetSha256s≠[])))
    (.valueError "evaluated health state requires a prior window")
  require (¬(s.evaluatedWindows=0 ∧ s.lastWindowEndedAt≠none))
    (.valueError "initial health state cannot cite a prior window")
  require (max s.consecutiveHealthyWindows s.consecutiveUnhealthyWindows ≤ s.evaluatedWindows)
    (.valueError "a health streak cannot exceed evaluated windows")
  require (¬(s.evaluatedWindows≠0 ∧ s.lastObservationSha256=none))
    (.valueError "evaluated health state requires its last observation digest")
  require ((s.consumedSampleSetSha256s.length : Int) ≤ s.evaluatedWindows)
    (.valueError "consumed sample-set digests cannot exceed evaluated windows")

/-- Root-bound anti-flap state that passed its checks. -/
structure HealthEvaluationState extends fields : HealthEvaluationStateFields where
  /-- Every check after construction succeeded. -/
  accepted : fields.postInit=.ok ()
  deriving DecidableEq

/-- The checks of the fields that no evaluation changes. -/
structure HealthEvaluationStateFields.IdentityAccepted (s : HealthEvaluationStateFields) :
    Prop where
  /-- Identifiers are not blank and contain no wildcard. -/
  identifiers : ∀ entry∈[("policy_version",s.policyVersion),("project_id",s.projectId),
    ("region",s.region),("environment",s.environment),("service_name",s.serviceName),
    ("root_id",s.rootId),("candidate_revision",s.candidateRevision)],
      requireIdentifier entry.1 entry.2=.ok ()
  policyDigest : isSha256 s.policySha256=true
  rootDigest : isSha256 s.rootSha256=true
  rootBinding : s.rootId="cgroot:"++s.rootSha256
  epochRange : 1 ≤ s.epoch ∧ s.epoch ≤ maxSafeInteger
  /-- The grid origin is a safe timestamp. -/
  startRange : 0 ≤ s.observationStartedAt ∧ s.observationStartedAt ≤ maxSafeInteger
  decisionDigest : ∀ digest∈s.priorDecisionSha256.toList,isSha256 digest=true

/-- The checks of the fields that an evaluation may change. -/
structure HealthEvaluationStateFields.CountersAccepted (s : HealthEvaluationStateFields) :
    Prop where
  endRange : ∀ ended∈s.lastWindowEndedAt.toList,0 ≤ ended ∧ ended ≤ maxSafeInteger
  observationDigest : ∀ digest∈s.lastObservationSha256.toList,isSha256 digest=true
  consumedBound : (s.consumedSampleSetSha256s.length : Int) ≤ maxWindows
  consumedDigests : ∀ digest∈s.consumedSampleSetSha256s,isSha256 digest=true
  consumedNodup : s.consumedSampleSetSha256s.Nodup
  healthyRange : 0 ≤ s.consecutiveHealthyWindows ∧ s.consecutiveHealthyWindows≤64
  unhealthyRange : 0 ≤ s.consecutiveUnhealthyWindows ∧ s.consecutiveUnhealthyWindows≤64
  /-- At most ten windows are counted. -/
  evaluatedRange : 0 ≤ s.evaluatedWindows ∧ s.evaluatedWindows ≤ maxWindows
  oneStreak : ¬(s.consecutiveHealthyWindows≠0 ∧ s.consecutiveUnhealthyWindows≠0)
  priorWindow : ¬(s.lastWindowEndedAt=none ∧ (s.consecutiveHealthyWindows≠0 ∨
    s.consecutiveUnhealthyWindows≠0 ∨ s.evaluatedWindows≠0 ∨ s.lastObservationSha256≠none ∨
    s.consumedSampleSetSha256s≠[]))
  initialWindow : ¬(s.evaluatedWindows=0 ∧ s.lastWindowEndedAt≠none)
  streakBound :
    max s.consecutiveHealthyWindows s.consecutiveUnhealthyWindows ≤ s.evaluatedWindows
  lastObservation : ¬(s.evaluatedWindows≠0 ∧ s.lastObservationSha256=none)
  /-- No more sample sets than windows are consumed. -/
  consumedEvaluated : (s.consumedSampleSetSha256s.length : Int) ≤ s.evaluatedWindows

/-- The checks of a state split into those of its identity and its counters. -/
theorem HealthEvaluationStateFields.postInit_eq_ok (s : HealthEvaluationStateFields) :
    s.postInit=.ok () ↔ s.IdentityAccepted ∧ s.CountersAccepted := by
  unfold postInit
  simp only [check_bind_eq_ok,forM_eq_ok,requireInt_eq_ok,requireDigest_eq_ok,
    requireRootBinding_eq_ok,require_eq_ok]
  constructor
  · rintro ⟨h1,h2,h3,h4,h5,h6,h7,h8,h9,h10,h11,h12,h13,h14,h15,h16,h17,h18,h19,h20⟩
    exact ⟨⟨h1,h2,h3,h4,h5,h6,h12⟩,⟨h7,h8,h9,h10,h11,h13 _ List.mem_cons_self,
      h13 _ (List.mem_cons_of_mem _ List.mem_cons_self),h14,h15,h16,h17,h18,h19,h20⟩⟩
  · rintro ⟨⟨h1,h2,h3,h4,h5,h6,h12⟩,⟨h7,h8,h9,h10,h11,h13,h13',h14,h15,h16,h17,h18,h19,h20⟩⟩
    have hstreaks : ∀ entry∈[("consecutive_healthy_windows",s.consecutiveHealthyWindows),
        ("consecutive_unhealthy_windows",s.consecutiveUnhealthyWindows)],
        0 ≤ entry.2 ∧ entry.2≤64 :=
      List.forall_mem_cons.mpr ⟨h13,List.forall_mem_cons.mpr ⟨h13',by simp⟩⟩
    exact ⟨h1,h2,h3,h4,h5,h6,h7,h8,h9,h10,h11,h12,hstreaks,h14,h15,h16,h17,h18,h19,h20⟩

/-- Assemble a state; a failed check raises its error. -/
def HealthEvaluationStateFields.make (fields : HealthEvaluationStateFields) :
    Except Raised HealthEvaluationState :=
  match h : fields.postInit with
  | .ok () => .ok ⟨fields,h⟩
  | .error raised => .error raised

/-- A state is assembled exactly when its checks succeed, with its own fields. -/
theorem HealthEvaluationStateFields.make_eq_ok {fields : HealthEvaluationStateFields}
    {state : HealthEvaluationState} :
    fields.make=.ok state ↔ fields=state.fields := by
  unfold make
  constructor
  · intro h
    split at h
    · cases h
      rfl
    · cases h
  · rintro rfl
    split
    · rfl
    · rename_i raised h
      rw [state.accepted] at h
      cases h

/-- A state is assembled whenever its checks succeed. -/
theorem HealthEvaluationStateFields.exists_make {fields : HealthEvaluationStateFields}
    (h : fields.postInit=.ok ()) :
    ∃ state : HealthEvaluationState,
      fields.make=.ok state ∧ state.fields=fields :=
  ⟨⟨fields,h⟩,HealthEvaluationStateFields.make_eq_ok.mpr rfl,rfl⟩

/-- The eight target fields shared by a policy, a sample and a state. -/
structure Scope where
  projectId : String
  region : String
  environment : String
  serviceName : String
  rootId : String
  rootSha256 : String
  epoch : Int
  candidateRevision : String
  deriving DecidableEq,Repr

def HealthPolicyFields.scope (p : HealthPolicyFields) : Scope :=
  ⟨p.projectId,p.region,p.environment,p.serviceName,p.rootId,p.rootSha256,p.epoch,
    p.candidateRevision⟩

def HealthWindowSampleFields.scope (s : HealthWindowSampleFields) : Scope :=
  ⟨s.projectId,s.region,s.environment,s.serviceName,s.rootId,s.rootSha256,s.epoch,
    s.candidateRevision⟩

def HealthEvaluationStateFields.scope (s : HealthEvaluationStateFields) : Scope :=
  ⟨s.projectId,s.region,s.environment,s.serviceName,s.rootId,s.rootSha256,s.epoch,
    s.candidateRevision⟩

/-- End of the last window that a state with this many windows must cite. -/
def expectedLastWindowEndedAt (policy : HealthPolicyFields) (state : HealthEvaluationStateFields) :
    Option Int :=
  if state.evaluatedWindows=0 then none
  else some (state.observationStartedAt+state.evaluatedWindows*policy.windowSeconds)

/-- Whether a state belongs to a policy and stands on its window grid. -/
def stateMatches (policy : HealthPolicyFields) (state : HealthEvaluationStateFields) : Bool :=
  state.policyVersion=policy.policyVersion && state.policySha256=policy.policySha256 &&
    state.observationStartedAt=policy.observationStartedAt &&
    state.lastWindowEndedAt=expectedLastWindowEndedAt policy state &&
    state.scope=policy.scope

def sampleMatches (policy : HealthPolicyFields) (sample : HealthWindowSampleFields) : Bool :=
  sample.policySha256=policy.policySha256 &&
    sample.observationStartedAt=policy.observationStartedAt && sample.scope=policy.scope

/-- The empty state of a policy's scope. -/
def emptyStateFields (policy : HealthPolicyFields) : HealthEvaluationStateFields :=
  {policyVersion := policy.policyVersion,policySha256 := policy.policySha256,
   projectId := policy.projectId,region := policy.region,environment := policy.environment,
   serviceName := policy.serviceName,rootId := policy.rootId,rootSha256 := policy.rootSha256,
   epoch := policy.epoch,candidateRevision := policy.candidateRevision,
   observationStartedAt := policy.observationStartedAt}

end ControlGraph.HealthWindows
