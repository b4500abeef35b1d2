import ControlGraph.HealthEvaluator

/-!
# What one pass of the health evaluator can do

Resetting, consuming and extending a streak always produce a state that
passes its checks, so no pass raises. One pass leaves the state as it is,
resets it, consumes a collected sample and resets it, or extends one streak
by a qualified sample. Every later result about runs uses these effects and
never unfolds a pass.
-/

namespace ControlGraph.HealthPasses

open Checks ContractText HealthWindows HealthEvaluator

/-- Bounds that every accepted policy satisfies. -/
structure PolicyBounds (policy : HealthPolicyFields) : Prop where
  window : 1 ≤ policy.windowSeconds
  /-- The earliest observation does not precede the end of its window. -/
  delay : 0 ≤ policy.observationDelaySeconds
  /-- The collection deadline does not precede the earliest observation. -/
  deadline : policy.observationDelaySeconds ≤ policy.maximumObservationDelaySeconds
  requests : 1 ≤ policy.minimumRequestCount
  start : 0 ≤ policy.observationStartedAt
  windows : 1 ≤ policy.maximumWindows ∧ policy.maximumWindows ≤ maxWindows
  /-- The healthy streak is positive and fits the window count. -/
  healthy : 1 ≤ policy.healthyConsecutiveWindows ∧
    policy.healthyConsecutiveWindows ≤ policy.maximumWindows
  /-- The unhealthy streak is positive and fits the window count. -/
  unhealthy : 1 ≤ policy.unhealthyConsecutiveWindows ∧
    policy.unhealthyConsecutiveWindows ≤ policy.maximumWindows

theorem policyBounds (policy : HealthPolicy) : PolicyBounds policy.fields := by
  have h := policy.accepted
  unfold HealthPolicyFields.postInit at h
  simp only [check_bind_eq_ok,forM_eq_ok,requireInt_eq_ok,require_eq_ok,List.forall_mem_cons] at h
  exact ⟨by omega,by omega,by omega,by omega,by omega,by omega,by omega,by omega⟩

/-- Facts that every accepted sample satisfies. -/
structure SampleBounds (sample : HealthWindowSampleFields) : Prop where
  digest : isSha256 sample.observationSha256=true
  ended : 0 ≤ sample.windowEndedAt ∧ sample.windowEndedAt ≤ maxSafeInteger

theorem sampleBounds (sample : HealthWindowSample) : SampleBounds sample.fields := by
  have h := sample.accepted
  unfold HealthWindowSampleFields.postInit at h
  simp only [check_bind_eq_ok,forM_eq_ok,requireInt_eq_ok,requireDigest_eq_ok,require_eq_ok,
    List.forall_mem_cons] at h
  exact ⟨h.1,by omega⟩

/-- Replacing the streaks keeps the checks when at most one of them is active
and neither exceeds the counted windows. -/
theorem streaks_accepted (state : HealthEvaluationState) {healthy unhealthy : Int}
    (hh : 0 ≤ healthy) (hu : 0 ≤ unhealthy) (hone : healthy=0 ∨ unhealthy=0)
    (hle : max healthy unhealthy ≤ state.evaluatedWindows) :
    HealthEvaluationStateFields.postInit {state.fields with
      consecutiveHealthyWindows := healthy
      consecutiveUnhealthyWindows := unhealthy}=.ok () := by
  obtain ⟨hidentity,hcounters⟩ := state.fields.postInit_eq_ok.mp state.accepted
  have hrange := hcounters.evaluatedRange
  have hlimit : maxWindows=10 := rfl
  rw [HealthEvaluationStateFields.postInit_eq_ok]
  constructor
  · exact ⟨hidentity.identifiers,hidentity.policyDigest,hidentity.rootDigest,
      hidentity.rootBinding,hidentity.epochRange,hidentity.startRange,hidentity.decisionDigest⟩
  · constructor
    · exact hcounters.endRange
    · exact hcounters.observationDigest
    · exact hcounters.consumedBound
    · exact hcounters.consumedDigests
    · exact hcounters.consumedNodup
    · dsimp only
      omega
    · dsimp only
      omega
    · exact hcounters.evaluatedRange
    · dsimp only
      omega
    · rintro ⟨hnone,h⟩
      have hprior : ¬(state.evaluatedWindows≠0 ∨ state.lastObservationSha256≠none ∨
          state.consumedSampleSetSha256s≠[]) := by
        intro hsome
        exact hcounters.priorWindow ⟨hnone,.inr (.inr hsome)⟩
      dsimp only at h
      rcases h with h | h | h
      · exact hprior (.inl (by omega))
      · exact hprior (.inl (by omega))
      · exact hprior h
    · exact hcounters.initialWindow
    · exact hle
    · exact hcounters.lastObservation
    · exact hcounters.consumedEvaluated

theorem reset_ok (state : HealthEvaluationState) :
    ∃ next,reset state=.ok next ∧ next.fields=resetFields state.fields := by
  have hcounters := (state.fields.postInit_eq_ok.mp state.accepted).2
  have hrange := hcounters.evaluatedRange
  apply HealthEvaluationStateFields.exists_make
  exact streaks_accepted state (by omega) (by omega) (.inl rfl) (by omega)

theorem resetFields_resetFields (state : HealthEvaluationStateFields) :
    resetFields (resetFields state)=resetFields state := rfl

section

variable (sha256 : List UInt8 → Sha256Digest)

/-- The consumed sample sets after one more sample. -/
theorem advanceFields_consumed (state : HealthEvaluationStateFields) (ended : Int)
    (observation : Option String) (samples : List String) (windows : Int) :
    (advanceFields sha256 state ended observation samples windows).consumedSampleSetSha256s=
        state.consumedSampleSetSha256s ∨
      ∃ digest,digest∉state.consumedSampleSetSha256s ∧ isSha256 digest=true ∧
        (advanceFields sha256 state ended observation samples windows).consumedSampleSetSha256s=
          state.consumedSampleSetSha256s++[digest] := by
  unfold advanceFields
  dsimp only
  by_cases hs : samples=[]
  · left
    simp only [sampleSetSha256,if_pos hs]
  · simp only [sampleSetSha256,if_neg hs]
    split
    · exact .inl rfl
    · rename_i hm
      exact .inr ⟨_,hm,(sha256 _).2,rfl⟩

/-- Consuming a sample over at least one elapsed window never raises while
fewer windows than the limit are counted. -/
theorem advance_ok (state : HealthEvaluationState) (sample : HealthWindowSample) {windows : Int}
    (hw : 1 ≤ windows) (he : state.evaluatedWindows < maxWindows) :
    ∃ next,advance sha256 state sample.windowEndedAt (some sample.observationSha256)
        sample.sampleSha256s windows=.ok next ∧
      next.fields=advanceFields sha256 state.fields sample.windowEndedAt
        (some sample.observationSha256) sample.sampleSha256s windows := by
  apply HealthEvaluationStateFields.exists_make
  obtain ⟨hidentity,hcounters⟩ := state.fields.postInit_eq_ok.mp state.accepted
  have hsample := sampleBounds sample
  have hrange := hcounters.evaluatedRange
  have hstreak := hcounters.streakBound
  have hbound := hcounters.consumedBound
  have hcount := hcounters.consumedEvaluated
  have hwindows : state.evaluatedWindows+1 ≤ min (state.evaluatedWindows+windows) maxWindows := by
    omega
  have hconsumed := advanceFields_consumed sha256 state.fields sample.windowEndedAt
    (some sample.observationSha256) sample.sampleSha256s windows
  rw [HealthEvaluationStateFields.postInit_eq_ok]
  constructor
  · exact ⟨hidentity.identifiers,hidentity.policyDigest,hidentity.rootDigest,
      hidentity.rootBinding,hidentity.epochRange,hidentity.startRange,hidentity.decisionDigest⟩
  · generalize hfields : advanceFields sha256 state.fields sample.windowEndedAt
      (some sample.observationSha256) sample.sampleSha256s windows=fields at hconsumed ⊢
    have hlength : (fields.consumedSampleSetSha256s.length : Int) ≤ state.evaluatedWindows+1 := by
      rcases hconsumed with h | ⟨digest,-,-,h⟩
      · rw [h]
        omega
      · rw [h,List.length_append]
        push_cast
        simp only [List.length_singleton]
        omega
    have hevaluated :
        fields.evaluatedWindows=min (state.evaluatedWindows+windows) maxWindows := by
      rw [← hfields]
      rfl
    have hended : fields.lastWindowEndedAt=some sample.windowEndedAt := by
      rw [← hfields]
      rfl
    have hobserved : fields.lastObservationSha256=some sample.observationSha256 := by
      rw [← hfields]
      rfl
    have hhealthy : fields.consecutiveHealthyWindows=state.consecutiveHealthyWindows := by
      rw [← hfields]
      rfl
    have hunhealthy : fields.consecutiveUnhealthyWindows=state.consecutiveUnhealthyWindows := by
      rw [← hfields]
      rfl
    constructor
    · rw [hended]
      simp only [Option.toList_some,List.mem_singleton,forall_eq]
      exact hsample.ended
    · rw [hobserved]
      simp only [Option.toList_some,List.mem_singleton,forall_eq]
      exact hsample.digest
    · omega
    · rcases hconsumed with h | ⟨digest,-,hdigest,h⟩
      · rw [h]
        exact hcounters.consumedDigests
      · rw [h]
        intro item hitem
        rcases List.mem_append.mp hitem with hitem | hitem
        · exact hcounters.consumedDigests item hitem
        · rw [List.mem_singleton.mp hitem]
          exact hdigest
    · rcases hconsumed with h | ⟨digest,hnew,-,h⟩
      · rw [h]
        exact hcounters.consumedNodup
      · rw [h,List.nodup_append]
        refine ⟨hcounters.consumedNodup,List.nodup_cons.mpr ⟨List.not_mem_nil,List.nodup_nil⟩,?_⟩
        intro item hitem other hother hsame
        rw [hsame,List.mem_singleton.mp hother] at hitem
        exact hnew hitem
    · rw [hhealthy]
      exact hcounters.healthyRange
    · rw [hunhealthy]
      exact hcounters.unhealthyRange
    · rw [hevaluated]
      omega
    · rw [hhealthy,hunhealthy]
      exact hcounters.oneStreak
    · rw [hended]
      simp only [reduceCtorEq,false_and,not_false_eq_true]
    · omega
    · omega
    · rw [hobserved]
      simp only [reduceCtorEq,and_false,not_false_eq_true]
    · omega

/-- Fields of a state that consumed a sample over the windows since its last one. -/
def consumeFields (policy : HealthPolicyFields) (before : HealthEvaluationStateFields)
    (sample : HealthWindowSampleFields) : HealthEvaluationStateFields :=
  advanceFields sha256 before sample.windowEndedAt (some sample.observationSha256)
    sample.sampleSha256s ((sample.windowEndedAt-expectedStart policy before)/policy.windowSeconds)

/-- Fields of a state whose healthy streak was extended by a sample. -/
def healthyFields (policy : HealthPolicyFields) (before : HealthEvaluationStateFields)
    (sample : HealthWindowSampleFields) : HealthEvaluationStateFields :=
  {consumeFields sha256 policy before sample with
    consecutiveHealthyWindows :=
      min (before.consecutiveHealthyWindows+1) policy.healthyConsecutiveWindows
    consecutiveUnhealthyWindows := 0}

/-- Fields of a state whose unhealthy streak was extended by a sample. -/
def unhealthyFields (policy : HealthPolicyFields) (before : HealthEvaluationStateFields)
    (sample : HealthWindowSampleFields) : HealthEvaluationStateFields :=
  {consumeFields sha256 policy before sample with
    consecutiveHealthyWindows := 0
    consecutiveUnhealthyWindows :=
      min (before.consecutiveUnhealthyWindows+1) policy.unhealthyConsecutiveWindows}

/-- A sample that reaches the collecting part of a pass. -/
structure Collected (policy : HealthPolicyFields) (evaluatedAt : Int)
    (before : HealthEvaluationStateFields) (sample : HealthWindowSampleFields) : Prop where
  /-- The windows of the policy are not exhausted. -/
  remaining : before.evaluatedWindows < policy.maximumWindows
  /-- The sample belongs to the policy. -/
  inScope : sampleMatches policy sample=true
  onGrid : boundaryValid policy sample
  /-- The evidence was not consumed before. -/
  fresh : ¬identicalReplay sha256 before sample
  /-- The window is not the last evaluated one. -/
  unseen : some sample.windowEndedAt≠before.lastWindowEndedAt
  /-- The window does not precede the expected one. -/
  ordered : expectedStart policy before ≤ sample.windowStartedAt
  /-- The window may be observed already. -/
  ready : sample.windowEndedAt+policy.observationDelaySeconds ≤ evaluatedAt
  /-- The observation is not later than the evaluation. -/
  observedBy : sample.observedAt ≤ evaluatedAt
  /-- The observation is not earlier than allowed. -/
  settled : sample.windowEndedAt+policy.observationDelaySeconds ≤ sample.observedAt

/-- A collected sample whose window counts for a streak. -/
structure Qualified (policy : HealthPolicyFields) (evaluatedAt : Int)
    (before : HealthEvaluationStateFields) (sample : HealthWindowSampleFields) : Prop
    extends Collected sha256 policy evaluatedAt before sample where
  /-- The observation keeps the collection deadline. -/
  timely : sample.observedAt ≤ sample.windowEndedAt+policy.maximumObservationDelaySeconds
  consecutive : sample.windowStartedAt=expectedStart policy before
  /-- The window carries data. -/
  present : sample.missing=false
  /-- The window was completely collected. -/
  whole : sample.complete=true
  /-- No duplicates disagreed. -/
  unanimous : sample.conflictingDuplicate=false
  /-- Enough requests were served. -/
  sufficient : policy.minimumRequestCount ≤ sample.requestCount

/-- The change of a state by one pass. -/
inductive StateEffect (policy : HealthPolicyFields) (evaluatedAt : Int)
    (before : HealthEvaluationStateFields) (sample : HealthWindowSampleFields) :
    HealthEvaluationStateFields → Prop
  | kept : StateEffect policy evaluatedAt before sample before
  | reset : StateEffect policy evaluatedAt before sample (resetFields before)
  | consumed : Collected sha256 policy evaluatedAt before sample →
      StateEffect policy evaluatedAt before sample
        (resetFields (consumeFields sha256 policy before sample))
  | healthy : Qualified sha256 policy evaluatedAt before sample → MeetsHealthy policy sample →
      StateEffect policy evaluatedAt before sample (healthyFields sha256 policy before sample)
  | unhealthy : Qualified sha256 policy evaluatedAt before sample →
      unhealthyReasons policy sample≠[] →
      StateEffect policy evaluatedAt before sample (unhealthyFields sha256 policy before sample)

/-- What a decision record says about the state that it carries. -/
structure Supported (policy : HealthPolicyFields) (record : HealthEvaluationResult) : Prop where
  /-- A healthy decision carries a met streak that ends at its window. -/
  healthy : record.decision=.healthy →
    policy.healthyConsecutiveWindows ≤ record.state.consecutiveHealthyWindows ∧
      record.windowEndedAt=record.state.lastWindowEndedAt
  /-- An unhealthy decision carries a met streak that ends at its window. -/
  unhealthy : record.decision=.unhealthy →
    policy.unhealthyConsecutiveWindows ≤ record.state.consecutiveUnhealthyWindows ∧
      record.windowEndedAt=record.state.lastWindowEndedAt

/-- A record that neither promotes nor recovers makes no statement. -/
theorem supported_of_undecided {policy : HealthPolicyFields} {record : HealthEvaluationResult}
    (hh : record.decision≠.healthy) (hu : record.decision≠.unhealthy) :
    Supported policy record :=
  ⟨fun h => absurd h hh,fun h => absurd h hu⟩

/-- The possible outcomes of a pass over a sample that is accepted as new. -/
inductive EffectSpec (policy : HealthPolicyFields) (evaluatedAt : Int)
    (before : HealthEvaluationStateFields) (sample : HealthWindowSampleFields) :
    PassOutcome → Prop
  | returned {record : HealthEvaluationResult} :
      StateEffect sha256 policy evaluatedAt before sample record.state.fields →
      Supported policy record → EffectSpec policy evaluatedAt before sample (.returned record)
  | continued {next : LoopState} {record : HealthEvaluationResult} :
      StateEffect sha256 policy evaluatedAt before sample next.state.fields →
      ¬streakTerminal policy next.state.fields → next.lastResult=some record →
      record.state=next.state → record.decision=.wait →
      EffectSpec policy evaluatedAt before sample (.continued next)

/-- The possible outcomes of one pass. -/
inductive PassSpec (policy : HealthPolicyFields) (evaluatedAt : Int) (loop : LoopState)
    (sample : HealthWindowSample) : PassOutcome → Prop
  | skipped : repeatsWindow sha256 loop sample →
      PassSpec policy evaluatedAt loop sample (.continued loop)
  | conflicted {record : HealthEvaluationResult} : ¬repeatsWindow sha256 loop sample →
      conflictsSeen sha256 loop sample → record.state.fields=resetFields loop.state.fields →
      record.decision=.insufficientEvidence →
      PassSpec policy evaluatedAt loop sample (.returned record)
  /-- A new sample has one of the effects on the state. -/
  | accepted {outcome : PassOutcome} : ¬repeatsWindow sha256 loop sample →
      ¬conflictsSeen sha256 loop sample →
      EffectSpec sha256 policy evaluatedAt loop.state.fields sample.fields outcome →
      PassSpec policy evaluatedAt loop sample outcome

variable {sha256} in
/-- A collected sample lies at least one window after the last one. -/
theorem Collected.elapsed {policy : HealthPolicy} {evaluatedAt : Int}
    {before : HealthEvaluationStateFields} {sample : HealthWindowSampleFields}
    (h : Collected sha256 policy.fields evaluatedAt before sample) :
    1≤(sample.windowEndedAt-expectedStart policy.fields before)/policy.windowSeconds := by
  have hwindow := (policyBounds policy).window
  have hlength := h.onGrid.1
  have hordered := h.ordered
  apply Int.le_ediv_of_mul_le (by omega)
  omega

variable {sha256} in
/-- Consuming a collected sample counts at least one more window. -/
theorem Collected.counts {policy : HealthPolicy} {evaluatedAt : Int}
    {before : HealthEvaluationStateFields} {sample : HealthWindowSampleFields}
    (h : Collected sha256 policy.fields evaluatedAt before sample) :
    before.evaluatedWindows+1≤
      (consumeFields sha256 policy.fields before sample).evaluatedWindows := by
  have helapsed := h.elapsed
  have hremaining := h.remaining
  have hwindows := (policyBounds policy).windows
  simp only [consumeFields,advanceFields]
  omega

variable (policy : HealthPolicy) (priorState : HealthEvaluationState) (evaluatedAt : Int)

/-- Giving up returns an insufficient-evidence record and never raises. -/
theorem giveUp_ok (reason : HealthReason) (state : HealthEvaluationState)
    (cited : List HealthWindowSample) (sample : HealthWindowSample) (resetStreaks : Bool)
    (next : Option Int) :
    ∃ after,giveUp policy priorState evaluatedAt reason state cited sample resetStreaks next=
        .ok (.returned (result policy priorState evaluatedAt .insufficientEvidence [reason] after
          cited (some sample) next)) ∧
      after.fields=if resetStreaks then resetFields state.fields else state.fields := by
  cases resetStreaks with
  | false => exact ⟨state,rfl,rfl⟩
  | true =>
    obtain ⟨after,hreset,hfields⟩ := reset_ok state
    refine ⟨after,?_,hfields⟩
    unfold giveUp insufficient
    simp only [if_true,hreset]
    rfl

/-- Giving up leaves the effect of the given state with reset streaks. -/
theorem giveUp_spec {before : HealthEvaluationStateFields} {sample : HealthWindowSample}
    (reason : HealthReason) (state : HealthEvaluationState) (cited : List HealthWindowSample)
    (resetStreaks : Bool) (next : Option Int)
    (heffect : StateEffect sha256 policy.fields evaluatedAt before sample.fields
      (if resetStreaks then resetFields state.fields else state.fields)) :
    ∃ outcome,giveUp policy priorState evaluatedAt reason state cited sample resetStreaks next=
        .ok outcome ∧ EffectSpec sha256 policy.fields evaluatedAt before sample.fields outcome := by
  obtain ⟨after,hgive,hfields⟩ :=
    giveUp_ok policy priorState evaluatedAt reason state cited sample resetStreaks next
  refine ⟨_,hgive,.returned ?_ (supported_of_undecided ?_ ?_)⟩
  · change StateEffect _ _ _ _ _ after.fields
    rw [hfields]
    exact heffect
  · intro h
    cases h
  · intro h
    cases h

theorem wait_spec {state : HealthEvaluationState} {sample : HealthWindowSample}
    (reasons : List HealthReason) (cited : List HealthWindowSample) (next : Option Int) :
    EffectSpec sha256 policy.fields evaluatedAt state.fields sample.fields
      (.returned (result policy priorState evaluatedAt .wait reasons state cited (some sample)
        next)) := by
  refine .returned .kept (supported_of_undecided ?_ ?_)
  · intro h
    cases h
  · intro h
    cases h

/-- The part after a streak update keeps the effect of that update; the
updated state is reset when the windows are exhausted. -/
theorem streakPass_spec {before : HealthEvaluationStateFields} (loop : LoopState)
    {state : HealthEvaluationState} {decision : HealthDecisionKind} {met : Bool}
    (metReason pendingReason : HealthReason) (thresholdReasons : List HealthReason)
    {sample : HealthWindowSample}
    (heffect : StateEffect sha256 policy.fields evaluatedAt before sample.fields state.fields)
    (hreset : StateEffect sha256 policy.fields evaluatedAt before sample.fields
      (resetFields state.fields))
    (hended : state.lastWindowEndedAt=some sample.windowEndedAt)
    (hhealthy : decision=.healthy → met=true →
      policy.healthyConsecutiveWindows ≤ state.consecutiveHealthyWindows)
    (hunhealthy : decision=.unhealthy → met=true →
      policy.unhealthyConsecutiveWindows ≤ state.consecutiveUnhealthyWindows)
    (hpending : met=false → ¬streakTerminal policy.fields state.fields) :
    ∃ outcome,streakPass policy priorState evaluatedAt loop state decision met metReason
        pendingReason thresholdReasons sample=.ok outcome ∧
      EffectSpec sha256 policy.fields evaluatedAt before sample.fields outcome := by
  unfold streakPass
  by_cases hmet : met=true
  · rw [if_pos hmet]
    refine ⟨_,rfl,.returned heffect ⟨?_,?_⟩⟩
    · intro h
      exact ⟨hhealthy h hmet,hended.symm⟩
    · intro h
      exact ⟨hunhealthy h hmet,hended.symm⟩
  · rw [if_neg hmet]
    by_cases hexhausted : policy.maximumWindows ≤ state.evaluatedWindows
    · rw [if_pos hexhausted]
      obtain ⟨after,hafter,hfields⟩ := reset_ok state
      rw [hafter]
      refine ⟨_,rfl,.returned ?_ (supported_of_undecided ?_ ?_)⟩
      · change StateEffect _ _ _ _ _ after.fields
        rw [hfields]
        exact hreset
      · intro h
        cases h
      · intro h
        cases h
    · rw [if_neg hexhausted]
      exact ⟨_,rfl,.continued heffect (hpending (Bool.eq_false_of_not_eq_true hmet)) rfl rfl rfl⟩

/-- The classified part extends the streak of the sample's class or resets both. -/
theorem classifiedPass_spec {loop : LoopState} {advanced : HealthEvaluationState}
    {sample : HealthWindowSample}
    (hadvanced : advanced.fields=consumeFields sha256 policy.fields loop.state.fields sample.fields)
    (hqualified : Qualified sha256 policy.fields evaluatedAt loop.state.fields sample.fields) :
    ∃ outcome,classifiedPass policy priorState evaluatedAt loop advanced sample=.ok outcome ∧
      EffectSpec sha256 policy.fields evaluatedAt loop.state.fields sample.fields outcome := by
  have hbounds := policyBounds policy
  have hhealthy := hbounds.healthy
  have hunhealthy := hbounds.unhealthy
  have hcounts := hqualified.toCollected.counts
  have hcounters := (loop.state.fields.postInit_eq_ok.mp loop.state.accepted).2
  have hstreak := hcounters.streakBound
  have hranges := And.intro hcounters.healthyRange hcounters.unhealthyRange
  have hended : advanced.lastWindowEndedAt=some sample.windowEndedAt := by
    rw [hadvanced]
    rfl
  rw [← hadvanced] at hcounts
  have hconsumed : StateEffect sha256 policy.fields evaluatedAt loop.state.fields sample.fields
      (resetFields advanced.fields) := by
    rw [hadvanced]
    exact .consumed hqualified.toCollected
  unfold classifiedPass classifyWindow
  by_cases hreasons : unhealthyReasons policy.fields sample.fields≠[]
  · simp only [if_pos hreasons]
    have haccepted := @streaks_accepted advanced 0 (min (loop.state.consecutiveUnhealthyWindows+1)
      policy.unhealthyConsecutiveWindows) (by omega) (by omega) (.inl rfl) (by omega)
    obtain ⟨state,hstate,hfields⟩ := HealthEvaluationStateFields.exists_make haccepted
    rw [hstate]
    apply streakPass_spec
    · rw [hfields,hadvanced]
      exact .unhealthy hqualified hreasons
    · rw [hfields]
      exact hconsumed
    · rw [hfields]
      exact hended
    · intro h
      cases h
    · intro _ hmet
      exact of_decide_eq_true hmet
    · intro hmet
      have hbelow := of_decide_eq_false hmet
      have hzero : state.consecutiveHealthyWindows=0 := by rw [hfields]
      simp only [streakTerminal]
      omega
  · simp only [if_neg hreasons]
    by_cases hmeets : MeetsHealthy policy.fields sample.fields
    · simp only [if_pos hmeets]
      have haccepted := @streaks_accepted advanced (min (loop.state.consecutiveHealthyWindows+1)
        policy.healthyConsecutiveWindows) 0 (by omega) (by omega) (.inr rfl) (by omega)
      obtain ⟨state,hstate,hfields⟩ := HealthEvaluationStateFields.exists_make haccepted
      rw [hstate]
      apply streakPass_spec
      · rw [hfields,hadvanced]
        exact .healthy hqualified hmeets
      · rw [hfields]
        exact hconsumed
      · rw [hfields]
        exact hended
      · intro _ hmet
        exact of_decide_eq_true hmet
      · intro h
        cases h
      · intro hmet
        have hbelow := of_decide_eq_false hmet
        have hzero : state.consecutiveUnhealthyWindows=0 := by rw [hfields]
        simp only [streakTerminal]
        omega
    · simp only [if_neg hmeets]
      obtain ⟨state,hstate,hfields⟩ := reset_ok advanced
      rw [hstate]
      have hpending : ¬streakTerminal policy.fields state.fields := by
        rw [hfields]
        simp only [streakTerminal,resetFields]
        omega
      rw [← hfields] at hconsumed
      by_cases hexhausted : policy.maximumWindows ≤ state.evaluatedWindows
      · refine ⟨_,if_pos hexhausted,.returned hconsumed (supported_of_undecided ?_ ?_)⟩
        · intro h
          cases h
        · intro h
          cases h
      · exact ⟨_,if_neg hexhausted,.continued hconsumed hpending rfl rfl rfl⟩

/-- The collecting part keeps or resets the state before the deadline,
consumes the sample after it, and classifies a qualified sample. -/
theorem collectedPass_spec {loop : LoopState} {sample : HealthWindowSample}
    (hcollected : Collected sha256 policy.fields evaluatedAt loop.state.fields sample.fields) :
    ∃ outcome,collectedPass sha256 policy priorState evaluatedAt loop sample
        ((sample.windowEndedAt-expectedStart policy.fields loop.state.fields)/policy.windowSeconds)
        (decide (expectedStart policy.fields loop.state.fields < sample.windowStartedAt))=
          .ok outcome ∧
      EffectSpec sha256 policy.fields evaluatedAt loop.state.fields sample.fields outcome := by
  have hwindows := (policyBounds policy).windows
  have hremaining := hcollected.remaining
  obtain ⟨advanced,hadvance,hadvanced⟩ :=
    advance_ok sha256 loop.state sample hcollected.elapsed (by omega)
  have hconsumed : StateEffect sha256 policy.fields evaluatedAt loop.state.fields sample.fields
      (if true then resetFields advanced.fields else advanced.fields) := by
    rw [hadvanced]
    exact .consumed hcollected
  have hkept : StateEffect sha256 policy.fields evaluatedAt loop.state.fields sample.fields
      (if false then resetFields loop.state.fields else loop.state.fields) := .kept
  unfold collectedPass
  rw [hadvance]
  simp only [bind,Except.bind]
  by_cases hlate : sample.windowEndedAt+policy.maximumObservationDelaySeconds < sample.observedAt
  · rw [if_pos hlate]
    exact giveUp_spec sha256 policy priorState evaluatedAt _ advanced _ true _ hconsumed
  rw [if_neg hlate]
  by_cases hgap : expectedStart policy.fields loop.state.fields < sample.windowStartedAt
  · rw [if_pos (decide_eq_true hgap)]
    exact giveUp_spec sha256 policy priorState evaluatedAt _ advanced _ true _ hconsumed
  rw [if_neg (by simpa using hgap)]
  by_cases hincomplete : (sample.missing || !sample.complete)=true
  · rw [if_pos hincomplete]
    split
    · exact giveUp_spec sha256 policy priorState evaluatedAt _ loop.state _ false _ hkept
    · exact giveUp_spec sha256 policy priorState evaluatedAt _ advanced _ true _ hconsumed
  rw [if_neg hincomplete]
  by_cases hconflict : sample.conflictingDuplicate=true
  · rw [if_pos hconflict]
    exact giveUp_spec sha256 policy priorState evaluatedAt _ advanced _ true _ hconsumed
  rw [if_neg hconflict]
  by_cases hfew : sample.requestCount < policy.minimumRequestCount
  · rw [if_pos hfew]
    split
    · exact giveUp_spec sha256 policy priorState evaluatedAt _ loop.state _ false _ hkept
    · exact giveUp_spec sha256 policy priorState evaluatedAt _ advanced _ true _ hconsumed
  rw [if_neg hfew]
  have hordered := hcollected.ordered
  simp only [Bool.or_eq_true,Bool.not_eq_true',not_or,Bool.not_eq_true,Bool.not_eq_false]
    at hincomplete
  apply classifiedPass_spec sha256 policy priorState evaluatedAt hadvanced
  exact ⟨hcollected,by omega,by omega,hincomplete.1,hincomplete.2,
    Bool.eq_false_of_not_eq_true hconflict,by omega⟩

/-- The ordered part keeps the state, resets it or collects the sample. -/
theorem orderedPass_spec {loop : LoopState} {sample : HealthWindowSample}
    (hremaining : loop.state.evaluatedWindows < policy.maximumWindows)
    (hscope : sampleMatches policy.fields sample.fields=true)
    (hgrid : boundaryValid policy.fields sample.fields)
    (hfresh : ¬identicalReplay sha256 loop.state.fields sample.fields)
    (hunseen : some sample.windowEndedAt≠loop.state.lastWindowEndedAt) :
    ∃ outcome,orderedPass sha256 policy priorState evaluatedAt loop sample=.ok outcome ∧
      EffectSpec sha256 policy.fields evaluatedAt loop.state.fields sample.fields outcome := by
  unfold orderedPass
  dsimp only
  by_cases horder : sample.windowStartedAt < expectedStart policy.fields loop.state.fields
  · rw [if_pos horder]
    exact giveUp_spec sha256 policy priorState evaluatedAt _ loop.state _ true _ .reset
  rw [if_neg horder]
  by_cases hready : evaluatedAt < sample.windowEndedAt+policy.observationDelaySeconds
  · rw [if_pos hready]
    exact ⟨_,rfl,wait_spec sha256 policy priorState evaluatedAt _ _ _⟩
  rw [if_neg hready]
  by_cases hfuture : evaluatedAt < sample.observedAt
  · rw [if_pos hfuture]
    exact giveUp_spec sha256 policy priorState evaluatedAt _ loop.state _ false _ .kept
  rw [if_neg hfuture]
  by_cases hearly : sample.observedAt < sample.windowEndedAt+policy.observationDelaySeconds
  · rw [if_pos hearly]
    exact ⟨_,rfl,wait_spec sha256 policy priorState evaluatedAt _ _ _⟩
  rw [if_neg hearly]
  apply collectedPass_spec
  exact ⟨hremaining,hscope,hgrid,hfresh,hunseen,by omega,by omega,by omega,by omega⟩

/-- A state that replays consumed evidence cites a prior window. -/
theorem identicalReplay_lastWindow {state : HealthEvaluationState}
    {sample : HealthWindowSampleFields} (h : identicalReplay sha256 state.fields sample) :
    state.lastWindowEndedAt≠none := by
  have hcounters := (state.fields.postInit_eq_ok.mp state.accepted).2
  intro hnone
  apply hcounters.priorWindow
  refine ⟨hnone,.inr (.inr (.inr ?_))⟩
  rcases h.2 with hlast | ⟨digest,-,hmem⟩
  · left
    rw [← hlast]
    exact Option.some_ne_none _
  · right
    exact List.ne_nil_of_mem hmem

/-- The accepted part keeps the state, resets it or collects the sample. -/
theorem acceptedPass_spec (loop : LoopState) (sample : HealthWindowSample) :
    ∃ outcome,acceptedPass sha256 policy priorState evaluatedAt loop sample=.ok outcome ∧
      EffectSpec sha256 policy.fields evaluatedAt loop.state.fields sample.fields outcome := by
  unfold acceptedPass
  dsimp only
  by_cases hexhausted : policy.maximumWindows ≤ loop.state.evaluatedWindows
  · rw [if_pos hexhausted]
    exact giveUp_spec sha256 policy priorState evaluatedAt _ loop.state _ true _ .reset
  rw [if_neg hexhausted]
  by_cases hscope : sampleMatches policy.fields sample.fields=false
  · rw [if_pos hscope]
    exact giveUp_spec sha256 policy priorState evaluatedAt _ loop.state _ true _ .reset
  rw [if_neg hscope]
  by_cases hgrid : boundaryValid policy.fields sample.fields
  · rw [if_neg (not_not.mpr hgrid)]
    by_cases hreplay : identicalReplay sha256 loop.state.fields sample.fields
    · rw [if_pos hreplay]
      obtain ⟨base,hbase⟩ :=
        Option.ne_none_iff_exists'.mp (identicalReplay_lastWindow sha256 hreplay)
      rw [hbase]
      exact ⟨_,rfl,wait_spec sha256 policy priorState evaluatedAt _ _ _⟩
    rw [if_neg hreplay]
    by_cases hseen : some sample.windowEndedAt=loop.state.lastWindowEndedAt
    · rw [if_pos hseen]
      obtain ⟨conflict,hreset,hfields⟩ := reset_ok loop.state
      rw [hreset]
      apply giveUp_spec sha256 policy priorState evaluatedAt _ conflict _ true
      rw [hfields]
      exact .reset
    rw [if_neg hseen]
    exact orderedPass_spec sha256 policy priorState evaluatedAt (by omega)
      (Bool.eq_true_of_not_eq_false hscope) hgrid hreplay hseen
  · rw [if_pos hgrid]
    exact giveUp_spec sha256 policy priorState evaluatedAt _ loop.state _ true _ .reset

/-- One pass never raises and has one of the listed outcomes. -/
theorem samplePass_spec (loop : LoopState) (sample : HealthWindowSample) :
    ∃ outcome,samplePass sha256 policy priorState evaluatedAt loop sample=.ok outcome ∧
      PassSpec sha256 policy.fields evaluatedAt loop sample outcome := by
  unfold samplePass
  by_cases hrepeat : repeatsWindow sha256 loop sample
  · rw [if_pos hrepeat]
    exact ⟨_,rfl,.skipped hrepeat⟩
  rw [if_neg hrepeat]
  by_cases hconflict : conflictsSeen sha256 loop sample
  · rw [if_pos hconflict]
    obtain ⟨conflict,hreset,hfields⟩ := reset_ok loop.state
    rw [hreset]
    obtain ⟨after,hgive,hafter⟩ := giveUp_ok policy priorState evaluatedAt
      .sampleConflictingDuplicate conflict (loop.cite sample).accepted sample true
      (nextAfterConsumed policy.fields conflict.fields evaluatedAt sample.windowEndedAt)
    refine ⟨_,hgive,.conflicted hrepeat hconflict ?_ rfl⟩
    change after.fields=_
    rw [hafter,hfields]
    rfl
  rw [if_neg hconflict]
  obtain ⟨outcome,hpass,hspec⟩ :=
    acceptedPass_spec sha256 policy priorState evaluatedAt (loop.record sha256 sample) sample
  exact ⟨outcome,hpass,.accepted hrepeat hconflict hspec⟩

/-- A loop state that remembers the same first samples. -/
structure SameSeen (before after : LoopState) : Prop where
  windows : after.seenWindows=before.seenWindows
  digests : after.seenDigests=before.seenDigests
  sampleSets : after.seenSampleSets=before.seenSampleSets

theorem giveUp_ne_continued {reason : HealthReason} {state : HealthEvaluationState}
    {cited : List HealthWindowSample} {sample : HealthWindowSample} {resetStreaks : Bool}
    {nextAt : Option Int} {next : LoopState} :
    giveUp policy priorState evaluatedAt reason state cited sample resetStreaks nextAt≠
      .ok (.continued next) := by
  obtain ⟨after,hgive,-⟩ :=
    giveUp_ok policy priorState evaluatedAt reason state cited sample resetStreaks nextAt
  rw [hgive]
  simp

/-- The part after a streak update remembers what it met. -/
theorem streakPass_seen {loop next : LoopState} {state : HealthEvaluationState}
    {decision : HealthDecisionKind} {met : Bool} {metReason pendingReason : HealthReason}
    {reasons : List HealthReason} {sample : HealthWindowSample}
    (h : streakPass policy priorState evaluatedAt loop state decision met metReason pendingReason
      reasons sample=.ok (.continued next)) : SameSeen loop next := by
  unfold streakPass at h
  split at h
  · cases h
  · split at h
    · obtain ⟨after,hafter,-⟩ := reset_ok state
      rw [hafter] at h
      cases h
    · cases h
      exact ⟨rfl,rfl,rfl⟩

/-- The classified part remembers what it met. -/
theorem classifiedPass_seen {loop next : LoopState} {advanced : HealthEvaluationState}
    {sample : HealthWindowSample}
    (h : classifiedPass policy priorState evaluatedAt loop advanced sample=.ok (.continued next)) :
    SameSeen loop next := by
  unfold classifiedPass at h
  dsimp only at h
  split at h
  · obtain ⟨state,-,hstreak⟩ := bind_eq_ok.mp h
    exact streakPass_seen policy priorState evaluatedAt hstreak
  · obtain ⟨state,-,hstreak⟩ := bind_eq_ok.mp h
    exact streakPass_seen policy priorState evaluatedAt hstreak
  · obtain ⟨state,-,hwait⟩ := bind_eq_ok.mp h
    split at hwait
    · cases hwait
    · cases hwait
      exact ⟨rfl,rfl,rfl⟩

/-- A pass that continues remembers what it met. -/
theorem acceptedPass_seen {loop next : LoopState} {sample : HealthWindowSample}
    (h : acceptedPass sha256 policy priorState evaluatedAt loop sample=.ok (.continued next)) :
    SameSeen loop next := by
  have hnever : ∀ {reason state cited resetStreaks nextAt},
      giveUp policy priorState evaluatedAt reason state cited sample resetStreaks nextAt≠
        .ok (.continued next) := giveUp_ne_continued policy priorState evaluatedAt
  have hcollected : ∀ {windows gap},collectedPass sha256 policy priorState evaluatedAt loop sample
      windows gap=.ok (.continued next) → SameSeen loop next := by
    intro windows gap hpass
    unfold collectedPass at hpass
    obtain ⟨advanced,-,hrest⟩ := bind_eq_ok.mp hpass
    dsimp only at hrest
    split_ifs at hrest
    all_goals first
      | exact absurd hrest hnever
      | exact classifiedPass_seen policy priorState evaluatedAt hrest
  unfold acceptedPass at h
  dsimp only at h
  split_ifs at h
  · exact absurd h hnever
  · exact absurd h hnever
  · split at h
    · cases h
    · cases h
  · obtain ⟨state,-,hgive⟩ := bind_eq_ok.mp h
    exact absurd hgive hnever
  · unfold orderedPass at h
    dsimp only at h
    split_ifs at h
    · exact absurd h hnever
    · cases h
    · exact absurd h hnever
    · cases h
    · exact hcollected h
  · exact absurd h hnever

/-- A call passes every guard and runs the loop over its samples. -/
structure EntersLoop (samples : List HealthWindowSample) : Prop where
  time : 0 ≤ evaluatedAt ∧ evaluatedAt ≤ maxSafeInteger
  /-- The state belongs to the policy. -/
  known : stateMatches policy.fields priorState.fields=true
  /-- No streak is met yet. -/
  undecided : ¬streakTerminal policy.fields priorState.fields
  /-- The windows are not exhausted. -/
  remaining : priorState.evaluatedWindows < policy.maximumWindows
  presented : samples.eraseDups≠[]
  /-- At most as many samples as windows are presented. -/
  bounded : (samples.eraseDups.length : Int) ≤ policy.maximumWindows

instance (samples : List HealthWindowSample) :
    Decidable (EntersLoop policy priorState evaluatedAt samples) :=
  decidable_of_iff
    ((0 ≤ evaluatedAt ∧ evaluatedAt ≤ maxSafeInteger) ∧
      stateMatches policy.fields priorState.fields=true ∧
      ¬streakTerminal policy.fields priorState.fields ∧
      priorState.evaluatedWindows < policy.maximumWindows ∧ samples.eraseDups≠[] ∧
      (samples.eraseDups.length : Int) ≤ policy.maximumWindows)
    ⟨fun ⟨h1,h2,h3,h4,h5,h6⟩ => ⟨h1,h2,h3,h4,h5,h6⟩,
      fun ⟨h1,h2,h3,h4,h5,h6⟩ => ⟨h1,h2,h3,h4,h5,h6⟩⟩

/-- An evaluation that stops at a guard keeps or resets the state and decides nothing. -/
def Undecided (record : HealthEvaluationResult) : Prop :=
  (record.state.fields=priorState.fields ∨ record.state.fields=resetFields priorState.fields) ∧
    record.decision≠.healthy ∧ record.decision≠.unhealthy

/-- An insufficient-evidence record never raises and decides nothing. -/
theorem insufficient_undecided (reason : HealthReason) (samples : List HealthWindowSample)
    (sample : Option HealthWindowSample) (resetStreaks : Bool) (next : Option Int) :
    ∃ record,insufficient policy priorState evaluatedAt reason priorState samples sample
      resetStreaks next=.ok record ∧ Undecided priorState record := by
  cases resetStreaks with
  | false => exact ⟨_,rfl,.inl rfl,by simp [result],by simp [result]⟩
  | true =>
    obtain ⟨after,hreset,hfields⟩ := reset_ok priorState
    unfold insufficient
    simp only [if_true,hreset]
    exact ⟨_,rfl,.inr hfields,by simp [result],by simp [result]⟩

/-- An empty presentation never raises and decides nothing. -/
theorem evaluateAbsence_undecided :
    ∃ record,evaluateAbsence policy priorState evaluatedAt=.ok record ∧
      Undecided priorState record := by
  unfold evaluateAbsence
  dsimp only
  split
  · exact ⟨_,rfl,.inl rfl,by simp [result],by simp [result]⟩
  · split
    · exact insufficient_undecided policy priorState evaluatedAt _ _ _ _ _
    · obtain ⟨resetState,hreset,hfields⟩ := reset_ok priorState
      obtain ⟨after,hagain,hafter⟩ := reset_ok resetState
      rw [hreset]
      simp only [bind,Except.bind,insufficient,if_true,hagain]
      refine ⟨_,rfl,.inr ?_,by simp [result],by simp [result]⟩
      change after.fields=_
      rw [hafter,hfields]
      rfl

/-- A call either runs the loop, raises on its evaluation time, or stops at a guard. -/
theorem evaluateHealth_cases (samples : List HealthWindowSample) :
    (EntersLoop policy priorState evaluatedAt samples ∧
      evaluateHealth sha256 policy samples priorState evaluatedAt=
        evaluateSamples sha256 policy priorState evaluatedAt {state := priorState}
          samples.eraseDups) ∨
    (¬EntersLoop policy priorState evaluatedAt samples ∧
      ¬(0 ≤ evaluatedAt ∧ evaluatedAt ≤ maxSafeInteger) ∧
      ∃ raised,evaluateHealth sha256 policy samples priorState evaluatedAt=.error raised) ∨
    (¬EntersLoop policy priorState evaluatedAt samples ∧
      (0 ≤ evaluatedAt ∧ evaluatedAt ≤ maxSafeInteger) ∧
      ∃ record,evaluateHealth sha256 policy samples priorState evaluatedAt=.ok record ∧
        Undecided priorState record) := by
  unfold evaluateHealth
  dsimp only
  by_cases htime : 0 ≤ evaluatedAt ∧ evaluatedAt ≤ maxSafeInteger
  swap
  · right
    left
    refine ⟨fun h => htime h.time,htime,?_⟩
    simp only [requireInt,require,if_neg htime]
    exact ⟨_,rfl⟩
  have hrange : requireInt "evaluated_at" evaluatedAt 0 maxSafeInteger=.ok () :=
    requireInt_eq_ok.mpr htime
  rw [bind_of_ok hrange]
  by_cases hknown : stateMatches policy.fields priorState.fields=false
  · right
    right
    rw [if_pos hknown]
    refine ⟨fun h => ?_,htime,insufficient_undecided policy priorState evaluatedAt _ _ _ _ _⟩
    rw [h.known] at hknown
    cases hknown
  rw [if_neg hknown]
  by_cases hterminal : streakTerminal policy.fields priorState.fields
  · right
    right
    rw [if_pos hterminal]
    exact ⟨fun h => h.undecided hterminal,htime,
      insufficient_undecided policy priorState evaluatedAt _ _ _ _ _⟩
  rw [if_neg hterminal]
  by_cases hexhausted : policy.maximumWindows ≤ priorState.evaluatedWindows
  · right
    right
    rw [if_pos hexhausted]
    refine ⟨fun h => ?_,htime,insufficient_undecided policy priorState evaluatedAt _ _ _ _ _⟩
    have hremaining := h.remaining
    omega
  rw [if_neg hexhausted]
  by_cases hempty : samples.eraseDups=[]
  · right
    right
    rw [if_pos hempty]
    exact ⟨fun h => h.presented hempty,htime,
      evaluateAbsence_undecided policy priorState evaluatedAt⟩
  rw [if_neg hempty]
  by_cases hmany : policy.maximumWindows<(samples.eraseDups.length : Int)
  · right
    right
    rw [if_pos hmany]
    refine ⟨fun h => ?_,htime,insufficient_undecided policy priorState evaluatedAt _ _ _ _ _⟩
    have hbounded := h.bounded
    omega
  rw [if_neg hmany]
  left
  exact ⟨⟨htime,Bool.eq_true_of_not_eq_false hknown,hterminal,by omega,hempty,by omega⟩,rfl⟩

end

end ControlGraph.HealthPasses
