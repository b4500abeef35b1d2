import ControlGraph.HealthWindows

/-!
# Deterministic evaluation of canonical health windows

The evaluator deduplicates the presented samples, applies its guards in
source order and then runs one pass for every sample. A pass skips a repeated
sample, returns a result, or continues with the next loop state. Replacing
the fields of a state runs the checks of a state again, so every function
that changes a state may raise. The SHA-256 function is a parameter.
-/

namespace ControlGraph.HealthEvaluator

open ContractText HealthWindows

/-- Complete deterministic decision record returned by the evaluator. -/
structure HealthEvaluationResult where
  decision : HealthDecisionKind
  reasons : List HealthReason
  policyVersion : String
  policySha256 : String
  priorState : HealthEvaluationState
  state : HealthEvaluationState
  windowStartedAt : Option Int
  windowEndedAt : Option Int
  requestCount : Option Int
  successfulRequestCount : Option Int
  serverErrorCount : Option Int
  errorRateBasisPoints : Option Int
  availabilityBasisPoints : Option Int
  /-- Latency of a complete window. -/
  p95LatencyMs : Option Int
  observationDigests : List String
  observationSha256 : Option String
  /-- Queries of the cited sample. -/
  querySha256s : List String
  sampleSha256s : List String
  /-- Duplicates of the cited sample. -/
  duplicateCount : Option Int
  evaluatedAt : Int
  nextEvaluationAt : Option Int
  deriving DecidableEq

/-- Fields of a state whose streaks are reset. -/
def resetFields (state : HealthEvaluationStateFields) (lastWindowEndedAt : Option Int := none) :
    HealthEvaluationStateFields :=
  {state with
    lastWindowEndedAt := match lastWindowEndedAt with
      | none => state.lastWindowEndedAt
      | some ended => some ended
    consecutiveHealthyWindows := 0
    consecutiveUnhealthyWindows := 0}

/-- Reset both streaks. -/
def reset (state : HealthEvaluationState) (lastWindowEndedAt : Option Int := none) :
    Except Raised HealthEvaluationState :=
  (resetFields state.fields lastWindowEndedAt).make

/-- Fields of a state that consumes one sample over some elapsed windows. -/
def advanceFields (sha256 : List UInt8 → Sha256Digest) (state : HealthEvaluationStateFields)
    (lastWindowEndedAt : Int) (lastObservationSha256 : Option String)
    (sampleSha256s : List String) (windows : Int := 1) : HealthEvaluationStateFields :=
  {state with
    lastWindowEndedAt := some lastWindowEndedAt
    evaluatedWindows := min (state.evaluatedWindows+windows) maxWindows
    lastObservationSha256 := lastObservationSha256
    consumedSampleSetSha256s := match sampleSetSha256 sha256 sampleSha256s with
      | none => state.consumedSampleSetSha256s
      | some digest =>
        if digest∈state.consumedSampleSetSha256s then state.consumedSampleSetSha256s
        else state.consumedSampleSetSha256s++[digest]}

/-- Consume one sample; the streaks are left as they are. -/
def advance (sha256 : List UInt8 → Sha256Digest) (state : HealthEvaluationState)
    (lastWindowEndedAt : Int) (lastObservationSha256 : Option String)
    (sampleSha256s : List String) (windows : Int := 1) : Except Raised HealthEvaluationState :=
  (advanceFields sha256 state.fields lastWindowEndedAt
    lastObservationSha256 sampleSha256s windows).make

/-- Rounded-down ratio in basis points. -/
def floorBasisPoints (numerator denominator : Int) : Int := numerator*basisPoints/denominator

/-- Rounded-up ratio in basis points. -/
def ceilingBasisPoints (numerator denominator : Int) : Int :=
  (numerator*basisPoints+denominator-1)/denominator

/-- Earliest evaluation of the window after a given end. -/
def nextWindowReady (policy : HealthPolicyFields) (windowEndedAt : Int) : Int :=
  windowEndedAt+policy.windowSeconds+policy.observationDelaySeconds

/-- Next evaluation after a consumed window; an exhausted policy has none. -/
def nextAfterConsumed (policy : HealthPolicyFields) (state : HealthEvaluationStateFields)
    (evaluatedAt windowEndedAt : Int) : Option Int :=
  if policy.maximumWindows ≤ state.evaluatedWindows then none
  else some (max evaluatedAt (nextWindowReady policy windowEndedAt))

/-- Classification of one complete window. -/
inductive WindowClass
  | healthy | unhealthy | wait
  deriving DecidableEq,Repr

/-- Unhealthy thresholds that a window reaches, in source order. -/
def unhealthyReasons (policy : HealthPolicyFields) (sample : HealthWindowSampleFields) :
    List HealthReason :=
  (if policy.unhealthyMinimumErrorRateBasisPoints*sample.requestCount≤
      sample.serverErrorCount*basisPoints then [.unhealthyErrorRate] else [])++
  (if policy.unhealthyMinimumP95LatencyMs ≤ sample.p95LatencyMs then [.unhealthyLatency]
    else [])++
  (if sample.successfulRequestCount*basisPoints≤
      policy.unhealthyMaximumAvailabilityBasisPoints*sample.requestCount then
      [.unhealthyAvailability] else [])

/-- All healthy thresholds of a window hold. -/
def MeetsHealthy (policy : HealthPolicyFields) (sample : HealthWindowSampleFields) : Prop :=
  sample.serverErrorCount*basisPoints≤
      policy.healthyMaximumErrorRateBasisPoints*sample.requestCount ∧
    sample.p95LatencyMs ≤ policy.healthyMaximumP95LatencyMs ∧
    policy.healthyMinimumAvailabilityBasisPoints*sample.requestCount≤
      sample.successfulRequestCount*basisPoints

instance (policy : HealthPolicyFields) (sample : HealthWindowSampleFields) :
    Decidable (MeetsHealthy policy sample) :=
  inferInstanceAs (Decidable (_ ∧ _ ∧ _))

/-- Classify a window; unhealthy evidence wins over healthy evidence. -/
def classifyWindow (policy : HealthPolicyFields) (sample : HealthWindowSampleFields) :
    WindowClass×List HealthReason :=
  if unhealthyReasons policy sample≠[] then (.unhealthy,unhealthyReasons policy sample)
  else if MeetsHealthy policy sample then (.healthy,[.healthyThresholdsMet])
  else (.wait,[.thresholdInconclusive])

/-- Whether a sample stands on the window grid of a policy. -/
def boundaryValid (policy : HealthPolicyFields) (sample : HealthWindowSampleFields) : Prop :=
  sample.windowEndedAt-sample.windowStartedAt=policy.windowSeconds ∧
    sample.windowIndex=
      (sample.windowStartedAt-policy.observationStartedAt)/policy.windowSeconds+1 ∧
    policy.observationStartedAt ≤ sample.windowStartedAt ∧
    (sample.windowStartedAt-policy.observationStartedAt)%policy.windowSeconds=0

instance (policy : HealthPolicyFields) (sample : HealthWindowSampleFields) :
    Decidable (boundaryValid policy sample) :=
  inferInstanceAs (Decidable (_ ∧ _ ∧ _ ∧ _))

/-- Start of the window that a state expects next. -/
def expectedStart (policy : HealthPolicyFields) (state : HealthEvaluationStateFields) : Int :=
  state.lastWindowEndedAt.getD policy.observationStartedAt

/-- A streak of the state already meets its requirement. -/
def streakTerminal (policy : HealthPolicyFields) (state : HealthEvaluationStateFields) : Prop :=
  policy.healthyConsecutiveWindows ≤ state.consecutiveHealthyWindows ∨
    policy.unhealthyConsecutiveWindows ≤ state.consecutiveUnhealthyWindows

instance (policy : HealthPolicyFields) (state : HealthEvaluationStateFields) :
    Decidable (streakTerminal policy state) :=
  inferInstanceAs (Decidable (_ ∨ _))

/-- Local variables of the loop over the samples. -/
structure LoopState where
  state : HealthEvaluationState
  seenWindows : List ((Int×Int)×HealthWindowSample) := []
  /-- First accepted sample of every observation digest. -/
  seenDigests : List (String×HealthWindowSample) := []
  seenSampleSets : List (String×HealthWindowSample) := []
  accepted : List HealthWindowSample := []
  lastResult : Option HealthEvaluationResult := none

/-- Outcome of one pass: a returned result or the next loop state. -/
inductive PassOutcome
  | returned (result : HealthEvaluationResult)
  | continued (loop : LoopState)

section

variable (sha256 : List UInt8 → Sha256Digest) (policy : HealthPolicy)
  (priorState : HealthEvaluationState) (evaluatedAt : Int)

/-- The sample whose figures a result reports. -/
def reportedSample (sample : Option HealthWindowSample) : Option HealthWindowSample :=
  sample.filter (fun cited => cited.complete && decide (cited.requestCount≠0))

/-- Assemble one decision record. -/
def result (decision : HealthDecisionKind) (reasons : List HealthReason)
    (state : HealthEvaluationState) (samples : List HealthWindowSample := [])
    (sample : Option HealthWindowSample := none) (nextEvaluationAt : Option Int := none) :
    HealthEvaluationResult :=
  let reported := reportedSample sample
  {decision := decision,reasons := reasons,policyVersion := policy.policyVersion,
   policySha256 := policy.policySha256,priorState := priorState,state := state,
   windowStartedAt := sample.map (·.windowStartedAt),
   windowEndedAt := sample.map (·.windowEndedAt),
   requestCount := reported.map (·.requestCount),
   successfulRequestCount := reported.map (·.successfulRequestCount),
   serverErrorCount := reported.map (·.serverErrorCount),
   errorRateBasisPoints := reported.bind (fun cited =>
     if 0 < cited.requestCount then
       some (ceilingBasisPoints cited.serverErrorCount cited.requestCount)
     else none),
   availabilityBasisPoints := reported.bind (fun cited =>
     if 0 < cited.requestCount then
       some (floorBasisPoints cited.successfulRequestCount cited.requestCount)
     else none),
   p95LatencyMs := reported.map (·.p95LatencyMs),
   observationDigests := samples.map (·.observationSha256),
   observationSha256 := sample.map (·.observationSha256),
   querySha256s := (sample.map (·.querySha256s)).getD [],
   sampleSha256s := (sample.map (·.sampleSha256s)).getD [],
   duplicateCount := sample.map (·.duplicateCount),
   evaluatedAt := evaluatedAt,
   nextEvaluationAt := nextEvaluationAt.map (fun next => max evaluatedAt next)}

/-- Assemble an insufficient-evidence record, by default with reset streaks. -/
def insufficient (reason : HealthReason) (state : HealthEvaluationState)
    (samples : List HealthWindowSample) (sample : Option HealthWindowSample := none)
    (resetStreaks : Bool := true) (nextEvaluationAt : Option Int := none) :
    Except Raised HealthEvaluationResult := do
  let nextState ← if resetStreaks then reset state else pure state
  return result policy priorState evaluatedAt .insufficientEvidence [reason] nextState samples
    sample nextEvaluationAt

/-- An insufficient-evidence record that ends the evaluation. -/
def giveUp (reason : HealthReason) (state : HealthEvaluationState)
    (cited : List HealthWindowSample) (sample : HealthWindowSample)
    (resetStreaks : Bool := true) (nextEvaluationAt : Option Int := none) :
    Except Raised PassOutcome := do
  let record ← insufficient policy priorState evaluatedAt reason state cited (some sample)
    resetStreaks nextEvaluationAt
  return .returned record

/-- The part of a pass after one streak is updated: the streak is met, the
windows are exhausted, or the streak is pending. -/
def streakPass (loop : LoopState) (state : HealthEvaluationState)
    (decision : HealthDecisionKind) (met : Bool) (metReason pendingReason : HealthReason)
    (thresholdReasons : List HealthReason) (sample : HealthWindowSample) :
    Except Raised PassOutcome := do
  if met then
    return .returned (result policy priorState evaluatedAt decision
      (thresholdReasons++[metReason]) state loop.accepted (some sample))
  else if policy.maximumWindows ≤ state.evaluatedWindows then
    let exhausted ← reset state
    return .returned (result policy priorState evaluatedAt .insufficientEvidence
      (thresholdReasons++[.maximumWindowsExhausted]) exhausted loop.accepted (some sample))
  else
    return .continued {loop with
      state := state
      lastResult := some (result policy priorState evaluatedAt .wait
        (thresholdReasons++[pendingReason]) state loop.accepted (some sample)
        (nextAfterConsumed policy.fields state.fields
          evaluatedAt sample.windowEndedAt))}

/-- The part of a pass after a window is known to be complete and large enough. -/
def classifiedPass (loop : LoopState) (advanced : HealthEvaluationState)
    (sample : HealthWindowSample) : Except Raised PassOutcome := do
  let (windowClass,thresholdReasons) :=
    classifyWindow policy.fields sample.fields
  match windowClass with
  | .healthy =>
    let state ← {advanced.fields with
      consecutiveHealthyWindows := min (loop.state.consecutiveHealthyWindows+1)
        policy.healthyConsecutiveWindows
      consecutiveUnhealthyWindows := 0}.make
    streakPass policy priorState evaluatedAt loop state .healthy
      (decide (policy.healthyConsecutiveWindows ≤ state.consecutiveHealthyWindows))
      .healthyStreakMet .healthyStreakPending thresholdReasons sample
  | .unhealthy =>
    let state ← {advanced.fields with
      consecutiveHealthyWindows := 0
      consecutiveUnhealthyWindows := min (loop.state.consecutiveUnhealthyWindows+1)
        policy.unhealthyConsecutiveWindows}.make
    streakPass policy priorState evaluatedAt loop state .unhealthy
      (decide (policy.unhealthyConsecutiveWindows ≤ state.consecutiveUnhealthyWindows))
      .unhealthyStreakMet .unhealthyStreakPending thresholdReasons sample
  | .wait =>
    let state ← reset advanced
    if policy.maximumWindows ≤ state.evaluatedWindows then
      return .returned (result policy priorState evaluatedAt .insufficientEvidence
        (thresholdReasons++[.maximumWindowsExhausted]) state loop.accepted (some sample))
    else
      return .continued {loop with
        state := state
        lastResult := some (result policy priorState evaluatedAt .wait thresholdReasons state
          loop.accepted (some sample)
          (nextAfterConsumed policy.fields state.fields
            evaluatedAt sample.windowEndedAt))}

/-- The part of a pass after a sample is collected in time or late. -/
def collectedPass (loop : LoopState) (sample : HealthWindowSample) (elapsedWindows : Int)
    (hasGap : Bool) : Except Raised PassOutcome := do
  let collectionDeadline := sample.windowEndedAt+policy.maximumObservationDelaySeconds
  let advanced ← advance sha256 loop.state sample.windowEndedAt (some sample.observationSha256)
    sample.sampleSha256s elapsedWindows
  let next := nextAfterConsumed policy.fields advanced.fields
    evaluatedAt sample.windowEndedAt
  if collectionDeadline < sample.observedAt then
    giveUp policy priorState evaluatedAt .sampleLate advanced loop.accepted sample true next
  else if hasGap then
    giveUp policy priorState evaluatedAt .windowGap advanced loop.accepted sample true next
  else if sample.missing || !sample.complete then
    let reason : HealthReason := if sample.missing then .sampleMissing else .samplePartial
    if evaluatedAt < collectionDeadline then
      giveUp policy priorState evaluatedAt reason loop.state loop.accepted sample false
        (some collectionDeadline)
    else giveUp policy priorState evaluatedAt reason advanced loop.accepted sample true next
  else if sample.conflictingDuplicate then
    giveUp policy priorState evaluatedAt .sampleConflictingDuplicate advanced loop.accepted
      sample true next
  else if sample.requestCount < policy.minimumRequestCount then
    if evaluatedAt < collectionDeadline then
      giveUp policy priorState evaluatedAt .minimumRequestsNotMet loop.state loop.accepted sample
        false (some collectionDeadline)
    else
      giveUp policy priorState evaluatedAt .minimumRequestsNotMet advanced loop.accepted sample
        true next
  else classifiedPass policy priorState evaluatedAt loop advanced sample

/-- The part of a pass after a sample is known to be new and on the grid. -/
def orderedPass (loop : LoopState) (sample : HealthWindowSample) : Except Raised PassOutcome :=
  let start := expectedStart policy.fields loop.state.fields
  let readyAt := sample.windowEndedAt+policy.observationDelaySeconds
  let collectionDeadline := sample.windowEndedAt+policy.maximumObservationDelaySeconds
  if sample.windowStartedAt < start then
    giveUp policy priorState evaluatedAt .windowOutOfOrder loop.state loop.accepted sample
  else if evaluatedAt < readyAt then
    .ok (.returned (result policy priorState evaluatedAt .wait [.windowNotReady] loop.state
      loop.accepted (some sample) (some readyAt)))
  else if evaluatedAt < sample.observedAt then
    giveUp policy priorState evaluatedAt .sampleLate loop.state loop.accepted sample false
      (some (min sample.observedAt collectionDeadline))
  else if sample.observedAt < readyAt then
    .ok (.returned (result policy priorState evaluatedAt .wait [.sampleEarly] loop.state
      loop.accepted (some sample) (some (max evaluatedAt readyAt))))
  else
    collectedPass sha256 policy priorState evaluatedAt loop sample
      ((sample.windowEndedAt-start)/policy.windowSeconds) (decide (start < sample.windowStartedAt))

/-- Whether the state has already consumed this observation or sample set. -/
def identicalReplay (state : HealthEvaluationStateFields) (sample : HealthWindowSampleFields) :
    Prop :=
  sample.conflictingDuplicate=false ∧
    (some sample.observationSha256=state.lastObservationSha256 ∨
      ∃ digest∈sampleSetSha256 sha256 sample.sampleSha256s,
        digest∈state.consumedSampleSetSha256s)

instance (state : HealthEvaluationStateFields) (sample : HealthWindowSampleFields) :
    Decidable (identicalReplay sha256 state sample) :=
  inferInstanceAs (Decidable (_ ∧ (_ ∨ ∃ digest∈sampleSetSha256 sha256 sample.sampleSha256s,
    digest∈state.consumedSampleSetSha256s)))

/-- The part of a pass after a sample is accepted for citation. -/
def acceptedPass (loop : LoopState) (sample : HealthWindowSample) : Except Raised PassOutcome :=
  let state := loop.state
  let fields := state.fields
  if policy.maximumWindows ≤ state.evaluatedWindows then
    giveUp policy priorState evaluatedAt .maximumWindowsExhausted state loop.accepted sample
  else if sampleMatches policy.fields sample.fields=false then
    giveUp policy priorState evaluatedAt .sampleScopeMismatch state loop.accepted sample
  else if ¬boundaryValid policy.fields sample.fields then
    giveUp policy priorState evaluatedAt .windowBoundaryInvalid state loop.accepted sample
  else if identicalReplay sha256 fields sample.fields then
    match state.lastWindowEndedAt with
    | none => .error (.assertionError "next_window_base")
    | some nextWindowBase =>
      .ok (.returned (result policy priorState evaluatedAt .wait [.windowDuplicate] state
        loop.accepted (some sample)
        (nextAfterConsumed policy.fields fields evaluatedAt nextWindowBase)))
  else if some sample.windowEndedAt=state.lastWindowEndedAt then do
    let conflictState ← reset state
    giveUp policy priorState evaluatedAt .sampleConflictingDuplicate conflictState loop.accepted
      sample true
      (nextAfterConsumed policy.fields
        conflictState.fields evaluatedAt sample.windowEndedAt)
  else orderedPass sha256 policy priorState evaluatedAt loop sample

/-- Whether an accepted sample of the same window carries the same evidence. -/
def repeatsWindow (loop : LoopState) (sample : HealthWindowSample) : Prop :=
  ∃ prior∈loop.seenWindows.lookup (sample.windowStartedAt,sample.windowEndedAt),
    prior.conflictingDuplicate=false ∧ sample.conflictingDuplicate=false ∧
      (prior.observationSha256=sample.observationSha256 ∨
        (sampleSetSha256 sha256 sample.sampleSha256s≠none ∧
          sampleSetSha256 sha256 prior.sampleSha256s=
            sampleSetSha256 sha256 sample.sampleSha256s))

instance (loop : LoopState) (sample : HealthWindowSample) :
    Decidable (repeatsWindow sha256 loop sample) :=
  inferInstanceAs (Decidable (∃ prior∈_,_ ∧ _ ∧ (_ ∨ (_ ∧ _))))

/-- Whether an accepted sample shares the window, the digest or the sample set. -/
def conflictsSeen (loop : LoopState) (sample : HealthWindowSample) : Prop :=
  (loop.seenWindows.lookup (sample.windowStartedAt,sample.windowEndedAt)).isSome=true ∨
    (loop.seenDigests.lookup sample.observationSha256).isSome=true ∨
    ((sampleSetSha256 sha256 sample.sampleSha256s).bind
      (fun digest => loop.seenSampleSets.lookup digest)).isSome=true

instance (loop : LoopState) (sample : HealthWindowSample) :
    Decidable (conflictsSeen sha256 loop sample) :=
  inferInstanceAs (Decidable (_ ∨ _ ∨ _))

/-- The loop state after a sample is cited. -/
def LoopState.cite (loop : LoopState) (sample : HealthWindowSample) : LoopState :=
  {loop with accepted := loop.accepted++[sample]}

/-- The loop state after a sample is recorded as the first of its kind. -/
def LoopState.record (loop : LoopState) (sample : HealthWindowSample) : LoopState :=
  {loop.cite sample with
    seenWindows := ((sample.windowStartedAt,sample.windowEndedAt),sample)::loop.seenWindows
    seenDigests := (sample.observationSha256,sample)::loop.seenDigests
    seenSampleSets := match sampleSetSha256 sha256 sample.sampleSha256s with
      | none => loop.seenSampleSets
      | some digest => (digest,sample)::loop.seenSampleSets}

def samplePass (loop : LoopState) (sample : HealthWindowSample) : Except Raised PassOutcome :=
  if repeatsWindow sha256 loop sample then .ok (.continued loop)
  else if conflictsSeen sha256 loop sample then do
    let conflictState ← reset loop.state
    giveUp policy priorState evaluatedAt .sampleConflictingDuplicate conflictState
      (loop.cite sample).accepted sample true
      (nextAfterConsumed policy.fields
        conflictState.fields evaluatedAt sample.windowEndedAt)
  else acceptedPass sha256 policy priorState evaluatedAt (loop.record sha256 sample) sample

/-- The loop over the deduplicated samples. -/
def evaluateSamples : LoopState → List HealthWindowSample → Except Raised HealthEvaluationResult
  | loop,[] =>
    match loop.lastResult with
    | none => .error (.assertionError "health evaluation produced no result")
    | some record => .ok record
  | loop,sample::samples =>
    match samplePass sha256 policy priorState evaluatedAt loop sample with
    | .error raised => .error raised
    | .ok (.returned record) => .ok record
    | .ok (.continued next) => evaluateSamples next samples

/-- The evaluation of an empty presentation. -/
def evaluateAbsence : Except Raised HealthEvaluationResult := do
  let expectedEnd :=
    expectedStart policy.fields priorState.fields+policy.windowSeconds
  let readyAt := expectedEnd+policy.observationDelaySeconds
  let collectionDeadline := expectedEnd+policy.maximumObservationDelaySeconds
  if evaluatedAt < readyAt then
    return result policy priorState evaluatedAt .wait [.windowNotReady] priorState [] none
      (some readyAt)
  else if evaluatedAt < collectionDeadline then
    insufficient policy priorState evaluatedAt .noSamples priorState [] none false
      (some collectionDeadline)
  else
    let resetState ← reset priorState
    insufficient policy priorState evaluatedAt .noSamples resetState []

end

/-- Evaluate ordered canonical windows without clock, network or storage access. -/
def evaluateHealth (sha256 : List UInt8 → Sha256Digest) (policy : HealthPolicy)
    (samples : List HealthWindowSample) (priorState : HealthEvaluationState)
    (evaluatedAt : Int) : Except Raised HealthEvaluationResult := do
  let samples := samples.eraseDups
  requireInt "evaluated_at" evaluatedAt 0 maxSafeInteger
  if stateMatches policy.fields priorState.fields=false then
    insufficient policy priorState evaluatedAt .stateScopeMismatch priorState samples
  else if streakTerminal policy.fields priorState.fields then
    insufficient policy priorState evaluatedAt .stateTerminal priorState samples none false
  else if policy.maximumWindows ≤ priorState.evaluatedWindows then
    insufficient policy priorState evaluatedAt .maximumWindowsExhausted priorState samples
  else if samples=[] then evaluateAbsence policy priorState evaluatedAt
  else if policy.maximumWindows < samples.length then
    insufficient policy priorState evaluatedAt .tooManyWindows priorState samples
  else evaluateSamples sha256 policy priorState evaluatedAt {state := priorState} samples

end ControlGraph.HealthEvaluator
