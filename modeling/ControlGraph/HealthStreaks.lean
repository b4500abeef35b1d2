import ControlGraph.HealthPasses

/-!
# Soundness of the health gate over whole runs

A run starts from the empty state of a policy and feeds the state of every
result into the next call. A ghost log records the samples that a run
consumes. While a streak is active, the end of the log is that many
qualified windows, back to back on the grid of the policy and ending at the
last evaluated window; a healthy or unhealthy decision carries a met streak.
-/

namespace ControlGraph.HealthStreaks

open Checks ContractText HealthWindows HealthEvaluator HealthPasses

/-- One call of the evaluator: the presented samples and the time. -/
structure HealthCall where
  samples : List HealthWindowSample
  evaluatedAt : Int

/-- One consumed sample, with the call that consumed it. -/
structure Consumption where
  call : HealthCall
  sample : HealthWindowSample

/-- The empty state of a policy's scope passes its checks. -/
theorem emptyStateFields_accepted (policy : HealthPolicy) :
    (emptyStateFields policy.fields).postInit=.ok () := by
  have h := policy.accepted
  unfold HealthPolicyFields.postInit at h
  simp only [check_bind_eq_ok,requireInt_eq_ok,requireDigest_eq_ok,
    requireRootBinding_eq_ok] at h
  obtain ⟨hidentifiers,hpolicy,hroot,hbinding,hepoch,hstart,-⟩ := h
  rw [HealthEvaluationStateFields.postInit_eq_ok]
  constructor
  · exact ⟨forM_eq_ok.mp hidentifiers,hpolicy,hroot,hbinding,hepoch,hstart,by
      simp [emptyStateFields]⟩
  · constructor <;> simp [emptyStateFields,maxWindows]

/-- The empty state of a policy's scope. -/
def emptyState (policy : HealthPolicy) : HealthEvaluationState :=
  ⟨emptyStateFields policy.fields,emptyStateFields_accepted policy⟩

section

variable (sha256 : List UInt8 → Sha256Digest) (policy : HealthPolicy)

/-- Samples that one pass consumes, seen from the counted windows. -/
def passConsumed (before after : HealthEvaluationStateFields) (sample : HealthWindowSample) :
    List HealthWindowSample :=
  if before.evaluatedWindows < after.evaluatedWindows then [sample] else []

/-- Samples consumed by the loop of one call, oldest first. -/
def loopConsumed (priorState : HealthEvaluationState) (evaluatedAt : Int) :
    LoopState → List HealthWindowSample → List HealthWindowSample
  | _,[] => []
  | loop,sample::samples =>
    match samplePass sha256 policy priorState evaluatedAt loop sample with
    | .error _ => []
    | .ok (.returned record) => passConsumed loop.state.fields record.state.fields sample
    | .ok (.continued next) =>
      passConsumed loop.state.fields next.state.fields sample++
        loopConsumed priorState evaluatedAt next samples

/-- Samples consumed by one call; a call that stops at a guard consumes none. -/
def callConsumed (priorState : HealthEvaluationState) (call : HealthCall) :
    List HealthWindowSample :=
  if EntersLoop policy priorState call.evaluatedAt call.samples then
    loopConsumed sha256 policy priorState call.evaluatedAt {state := priorState}
      call.samples.eraseDups
  else []

/-- A run so far: the reached state and the consumed samples. -/
structure HealthRun where
  state : HealthEvaluationState
  consumed : List Consumption

/-- One call of a run; a call that raises leaves the run as it is. -/
def HealthRun.step (run : HealthRun) (call : HealthCall) : HealthRun :=
  match evaluateHealth sha256 policy call.samples run.state call.evaluatedAt with
  | .error _ => run
  | .ok record =>
    ⟨record.state,run.consumed++
      (callConsumed sha256 policy run.state call).map (fun sample => ⟨call,sample⟩)⟩

def HealthRun.calls (run : HealthRun) : List HealthCall → HealthRun
  | [] => run
  | call::rest => (run.step sha256 policy call).calls rest

end

/-- Windows back to back from one time to another. -/
def WindowChain (policy : HealthPolicyFields) : Int → List Consumption → Int → Prop
  | start,[],ended => start=ended
  | start,entry::rest,ended =>
    entry.sample.windowStartedAt=start ∧
      entry.sample.windowEndedAt=start+policy.windowSeconds ∧
      WindowChain policy entry.sample.windowEndedAt rest ended

/-- A chain grows at its end by the window that starts there. -/
theorem windowChain_concat {policy : HealthPolicyFields} {start ended : Int}
    {evidence : List Consumption} (h : WindowChain policy start evidence ended)
    {entry : Consumption} (hs : entry.sample.windowStartedAt=ended)
    (he : entry.sample.windowEndedAt=ended+policy.windowSeconds) :
    WindowChain policy start (evidence++[entry]) entry.sample.windowEndedAt := by
  induction evidence generalizing start with
  | nil =>
    have hstart : start=ended := h
    exact ⟨hs.trans hstart.symm,by rw [he,hstart],rfl⟩
  | cons head tail ih => exact ⟨h.1,h.2.1,ih h.2.2⟩

/-- Every window of a chain starts between its ends. -/
theorem windowChain_range {policy : HealthPolicyFields} (hw : 1 ≤ policy.windowSeconds)
    {start ended : Int} {evidence : List Consumption}
    (h : WindowChain policy start evidence ended) :
    start ≤ ended ∧ ∀ entry∈evidence,start ≤ entry.sample.windowStartedAt := by
  induction evidence generalizing start with
  | nil => exact ⟨le_of_eq h,fun entry hentry => absurd hentry List.not_mem_nil⟩
  | cons head tail ih =>
    obtain ⟨hs,he,hrest⟩ := h
    obtain ⟨hle,hall⟩ := ih hrest
    refine ⟨by omega,?_⟩
    intro entry hentry
    rcases List.mem_cons.mp hentry with rfl | hentry
    · omega
    · have htail := hall entry hentry
      omega

theorem windowChain_nodup {policy : HealthPolicyFields} (hw : 1 ≤ policy.windowSeconds)
    {start ended : Int} {evidence : List Consumption}
    (h : WindowChain policy start evidence ended) : (evidence.map (·.sample)).Nodup := by
  induction evidence generalizing start with
  | nil => exact List.nodup_nil
  | cons head tail ih =>
    obtain ⟨hs,he,hrest⟩ := h
    rw [List.map_cons,List.nodup_cons]
    refine ⟨?_,ih hrest⟩
    intro hmem
    obtain ⟨entry,hentry,hsame⟩ := List.mem_map.mp hmem
    have hlater := (windowChain_range hw hrest).2 entry hentry
    rw [hsame] at hlater
    omega

/-- A sample that may count for a streak of the policy. -/
structure Evidence (policy : HealthPolicyFields) (entry : Consumption) : Prop where
  inScope : sampleMatches policy entry.sample.fields=true
  onGrid : boundaryValid policy entry.sample.fields
  /-- The window was completely collected. -/
  whole : entry.sample.complete=true
  /-- The window carries data. -/
  present : entry.sample.missing=false
  /-- No duplicates disagreed. -/
  unanimous : entry.sample.conflictingDuplicate=false
  /-- Enough requests were served. -/
  sufficient : policy.minimumRequestCount ≤ entry.sample.requestCount
  /-- The observation is not earlier than allowed. -/
  settled : entry.sample.windowEndedAt+policy.observationDelaySeconds ≤ entry.sample.observedAt
  /-- The observation keeps the collection deadline. -/
  timely : entry.sample.observedAt≤
    entry.sample.windowEndedAt+policy.maximumObservationDelaySeconds
  /-- The observation is not later than the call that consumed it. -/
  observedBy : entry.sample.observedAt ≤ entry.call.evaluatedAt

/-- The end of a log carries the evidence of an active streak. -/
def StreakEvidence (policy : HealthPolicyFields) (meets : HealthWindowSampleFields → Prop)
    (streak : Int) (ended : Option Int) (log : List Consumption) : Prop :=
  streak=0 ∨ ∃ evidence start finish,evidence <:+ log ∧ (evidence.length : Int)=streak ∧
    ended=some finish ∧ WindowChain policy start evidence finish ∧
    ∀ entry∈evidence,Evidence policy entry ∧ meets entry.sample.fields

theorem streakEvidence_zero {policy : HealthPolicyFields} {meets : HealthWindowSampleFields → Prop}
    {ended : Option Int} {log : List Consumption} : StreakEvidence policy meets 0 ended log :=
  .inl rfl

/-- A qualified sample extends the evidence of its streak by one window. -/
theorem streakEvidence_extend {sha256 : List UInt8 → Sha256Digest} {policy : HealthPolicyFields}
    {meets : HealthWindowSampleFields → Prop} {before : HealthEvaluationStateFields}
    {streak : Int} {log : List Consumption} {entry : Consumption}
    (h : StreakEvidence policy meets streak before.lastWindowEndedAt log)
    (hq : Qualified sha256 policy entry.call.evaluatedAt before entry.sample.fields)
    (hm : meets entry.sample.fields) :
    StreakEvidence policy meets (streak+1) (some entry.sample.windowEndedAt) (log++[entry]) := by
  have hentry : Evidence policy entry :=
    ⟨hq.inScope,hq.onGrid,hq.whole,hq.present,hq.unanimous,hq.sufficient,hq.settled,hq.timely,
      hq.observedBy⟩
  have hlength := hq.onGrid.1
  right
  rcases h with rfl | ⟨evidence,start,finish,hsuffix,hcount,hended,hchain,hall⟩
  · refine ⟨[entry],entry.sample.windowStartedAt,_,List.suffix_append log [entry],by simp,rfl,
      ⟨rfl,by omega,rfl⟩,?_⟩
    intro other hother
    rw [List.mem_singleton.mp hother]
    exact ⟨hentry,hm⟩
  · have hnext : entry.sample.windowStartedAt=finish := by
      have hconsecutive := hq.consecutive
      rw [expectedStart,hended] at hconsecutive
      exact hconsecutive
    refine ⟨evidence++[entry],start,_,List.suffix_append_self_iff.mpr hsuffix,?_,rfl,
      windowChain_concat hchain hnext (by omega),?_⟩
    · rw [List.length_append]
      push_cast
      simp only [List.length_singleton]
      omega
    · intro other hother
      rcases List.mem_append.mp hother with hother | hother
      · exact hall other hother
      · rw [List.mem_singleton.mp hother]
        exact ⟨hentry,hm⟩

/-- At least one unhealthy threshold of a window is reached. -/
def MeetsUnhealthy (policy : HealthPolicyFields) (sample : HealthWindowSampleFields) : Prop :=
  policy.unhealthyMinimumErrorRateBasisPoints*sample.requestCount≤
      sample.serverErrorCount*basisPoints ∨
    policy.unhealthyMinimumP95LatencyMs ≤ sample.p95LatencyMs ∨
    sample.successfulRequestCount*basisPoints≤
      policy.unhealthyMaximumAvailabilityBasisPoints*sample.requestCount

/-- A window has an unhealthy reason exactly when it reaches such a threshold. -/
theorem unhealthyReasons_ne_nil {policy : HealthPolicyFields}
    {sample : HealthWindowSampleFields} :
    unhealthyReasons policy sample≠[] ↔ MeetsUnhealthy policy sample := by
  unfold unhealthyReasons MeetsUnhealthy
  split <;> split <;> split <;> simp_all

/-- Both streaks of a state are carried by the end of the log. -/
structure StreakInvariant (policy : HealthPolicyFields) (state : HealthEvaluationStateFields)
    (log : List Consumption) : Prop where
  healthy : StreakEvidence policy (MeetsHealthy policy) state.consecutiveHealthyWindows
    state.lastWindowEndedAt log
  unhealthy : StreakEvidence policy (MeetsUnhealthy policy)
    state.consecutiveUnhealthyWindows state.lastWindowEndedAt log
  /-- No streak exceeds its requirement. -/
  bounded : state.consecutiveHealthyWindows ≤ policy.healthyConsecutiveWindows ∧
    state.consecutiveUnhealthyWindows ≤ policy.unhealthyConsecutiveWindows

/-- A reset state satisfies the invariant with any log. -/
theorem streakInvariant_reset (policy : HealthPolicy) (state : HealthEvaluationStateFields)
    (log : List Consumption) : StreakInvariant policy.fields (resetFields state) log := by
  have hhealthy := (policyBounds policy).healthy
  have hunhealthy := (policyBounds policy).unhealthy
  refine ⟨streakEvidence_zero,streakEvidence_zero,?_⟩
  simp only [resetFields]
  omega

theorem passConsumed_of_collected {sha256 : List UInt8 → Sha256Digest} {policy : HealthPolicy}
    {evaluatedAt : Int} {before after : HealthEvaluationStateFields} {sample : HealthWindowSample}
    (h : Collected sha256 policy.fields evaluatedAt before sample.fields)
    (hafter : after.evaluatedWindows=
      (consumeFields sha256 policy.fields before sample.fields).evaluatedWindows) :
    passConsumed before after sample=[sample] := by
  have hcounts := h.counts
  unfold passConsumed
  rw [if_pos (by omega)]

/-- Every effect of one pass keeps the invariant, with its sample logged when consumed. -/
theorem streakInvariant_effect {sha256 : List UInt8 → Sha256Digest} {policy : HealthPolicy}
    {call : HealthCall} {before after : HealthEvaluationStateFields} {sample : HealthWindowSample}
    {log : List Consumption} (h : StreakInvariant policy.fields before log)
    (hlive : ¬streakTerminal policy.fields before)
    (heffect : StateEffect sha256 policy.fields call.evaluatedAt before sample.fields after) :
    StreakInvariant policy.fields after
      (log++(passConsumed before after sample).map (fun sample => ⟨call,sample⟩)) := by
  simp only [streakTerminal,not_or,not_le] at hlive
  have hhealthy := (policyBounds policy).healthy
  have hunhealthy := (policyBounds policy).unhealthy
  cases heffect with
  | kept =>
    unfold passConsumed
    rw [if_neg (lt_irrefl _),List.map_nil,List.append_nil]
    exact h
  | reset => exact streakInvariant_reset _ _ _
  | consumed hcollected => exact streakInvariant_reset _ _ _
  | healthy hqualified hmeets =>
    have hlogged : passConsumed before (healthyFields sha256 policy.fields before sample.fields)
        sample=[sample] := passConsumed_of_collected hqualified.toCollected rfl
    rw [hlogged]
    constructor
    · have hmin : min (before.consecutiveHealthyWindows+1) policy.healthyConsecutiveWindows=
          before.consecutiveHealthyWindows+1 := by omega
      simp only [healthyFields,hmin]
      exact @streakEvidence_extend _ _ _ _ _ _ ⟨call,sample⟩ h.healthy hqualified hmeets
    · exact streakEvidence_zero
    · simp only [healthyFields]
      omega
  | unhealthy hqualified hreasons =>
    have hlogged : passConsumed before (unhealthyFields sha256 policy.fields before sample.fields)
        sample=[sample] := passConsumed_of_collected hqualified.toCollected rfl
    rw [hlogged]
    constructor
    · exact streakEvidence_zero
    · have hmin : min (before.consecutiveUnhealthyWindows+1)
          policy.unhealthyConsecutiveWindows=before.consecutiveUnhealthyWindows+1 := by omega
      simp only [unhealthyFields,hmin]
      exact @streakEvidence_extend _ _ _ _ _ _ ⟨call,sample⟩ h.unhealthy hqualified
        (unhealthyReasons_ne_nil.mp hreasons)
    · simp only [unhealthyFields]
      omega

/-- The last result of a loop is a pending record of its state. -/
def PendingResult (loop : LoopState) : Prop :=
  ∀ record,loop.lastResult=some record → record.state=loop.state ∧ record.decision=.wait

/-- The loop keeps the invariant, logs what it consumes and supports its record. -/
theorem evaluateSamples_streaks (sha256 : List UInt8 → Sha256Digest) (policy : HealthPolicy)
    (priorState : HealthEvaluationState) (call : HealthCall) {samples : List HealthWindowSample}
    {loop : LoopState} {log : List Consumption} {record : HealthEvaluationResult}
    (h : StreakInvariant policy.fields loop.state.fields log)
    (hlive : ¬streakTerminal policy.fields loop.state.fields) (hpending : PendingResult loop)
    (hrun : evaluateSamples sha256 policy priorState call.evaluatedAt loop samples=.ok record) :
    StreakInvariant policy.fields record.state.fields
        (log++(loopConsumed sha256 policy priorState call.evaluatedAt loop samples).map
          (fun sample => ⟨call,sample⟩)) ∧
      Supported policy.fields record := by
  induction samples generalizing loop log with
  | nil =>
    unfold evaluateSamples at hrun
    cases hlast : loop.lastResult with
    | none =>
      rw [hlast] at hrun
      cases hrun
    | some last =>
      rw [hlast] at hrun
      cases hrun
      obtain ⟨hstate,hwait⟩ := hpending record hlast
      refine ⟨?_,supported_of_undecided (by simp [hwait]) (by simp [hwait])⟩
      rw [hstate,loopConsumed,List.map_nil,List.append_nil]
      exact h
  | cons sample samples ih =>
    obtain ⟨outcome,hpass,hspec⟩ :=
      samplePass_spec sha256 policy priorState call.evaluatedAt loop sample
    unfold evaluateSamples at hrun
    unfold loopConsumed
    rw [hpass] at hrun ⊢
    cases hspec with
    | skipped =>
      have hskip : passConsumed loop.state.fields loop.state.fields sample=[] :=
        if_neg (lt_irrefl _)
      dsimp only
      rw [hskip,List.nil_append]
      exact ih h hlive hpending hrun
    | conflicted _ _ hfields hdecision =>
      cases hrun
      refine ⟨?_,supported_of_undecided (by simp [hdecision]) (by simp [hdecision])⟩
      rw [hfields]
      exact streakInvariant_reset _ _ _
    | accepted _ _ heffect =>
      cases heffect with
      | returned heffect hsupported =>
        cases hrun
        exact ⟨streakInvariant_effect h hlive heffect,hsupported⟩
      | continued heffect hlater hlast hstate hwait =>
        have hnext := streakInvariant_effect h hlive heffect
        dsimp only
        rw [List.map_append,← List.append_assoc]
        apply ih hnext hlater _ hrun
        intro other hother
        rw [hlast] at hother
        cases hother
        exact ⟨hstate,hwait⟩

/-- One call keeps the invariant and supports its record. -/
theorem evaluateHealth_streaks (sha256 : List UInt8 → Sha256Digest) (policy : HealthPolicy)
    {state : HealthEvaluationState} {call : HealthCall} {log : List Consumption}
    {record : HealthEvaluationResult} (h : StreakInvariant policy.fields state.fields log)
    (hrun : evaluateHealth sha256 policy call.samples state call.evaluatedAt=.ok record) :
    StreakInvariant policy.fields record.state.fields
        (log++(callConsumed sha256 policy state call).map (fun sample => ⟨call,sample⟩)) ∧
      Supported policy.fields record := by
  unfold callConsumed
  rcases evaluateHealth_cases sha256 policy state call.evaluatedAt call.samples with
    ⟨henters,hloop⟩ | ⟨-,-,raised,hraised⟩ | ⟨henters,-,other,hother,hundecided⟩
  · rw [if_pos henters]
    rw [hloop] at hrun
    exact evaluateSamples_streaks sha256 policy state call h henters.undecided
      (fun _ hnone => by cases hnone) hrun
  · rw [hraised] at hrun
    cases hrun
  · rw [hother] at hrun
    cases hrun
    rw [if_neg henters,List.map_nil,List.append_nil]
    refine ⟨?_,supported_of_undecided hundecided.2.1 hundecided.2.2⟩
    rcases hundecided.1 with hfields | hfields
    · rw [hfields]
      exact h
    · rw [hfields]
      exact streakInvariant_reset _ _ _

theorem mem_of_loopConsumed {sha256 : List UInt8 → Sha256Digest} {policy : HealthPolicy}
    {priorState : HealthEvaluationState} {evaluatedAt : Int} {samples : List HealthWindowSample}
    {loop : LoopState} {sample : HealthWindowSample}
    (h : sample∈loopConsumed sha256 policy priorState evaluatedAt loop samples) :
    sample∈samples := by
  have hpass : ∀ {before after : HealthEvaluationStateFields} {first : HealthWindowSample},
      sample∈passConsumed before after first → sample=first := by
    intro before after first hmem
    unfold passConsumed at hmem
    split at hmem
    · exact List.mem_singleton.mp hmem
    · exact absurd hmem List.not_mem_nil
  induction samples generalizing loop with
  | nil => exact h
  | cons first samples ih =>
    unfold loopConsumed at h
    split at h
    · exact absurd h List.not_mem_nil
    · rw [hpass h]
      exact List.mem_cons_self
    · rcases List.mem_append.mp h with h | h
      · rw [hpass h]
        exact List.mem_cons_self
      · exact List.mem_cons_of_mem _ (ih h)

/-- What holds of a run after any number of calls. -/
structure RunInvariant (policy : HealthPolicyFields) (calls : List HealthCall)
    (run : HealthRun) : Prop where
  streaks : StreakInvariant policy run.state.fields run.consumed
  presented : ∀ entry∈run.consumed,entry.call∈calls ∧ entry.sample∈entry.call.samples

theorem runInvariant_step (sha256 : List UInt8 → Sha256Digest) (policy : HealthPolicy)
    {calls : List HealthCall} {run : HealthRun} (h : RunInvariant policy.fields calls run)
    (call : HealthCall) :
    RunInvariant policy.fields (calls++[call]) (run.step sha256 policy call) := by
  have holder : ∀ entry∈run.consumed,
      entry.call∈calls++[call] ∧ entry.sample∈entry.call.samples := by
    intro entry hentry
    obtain ⟨hcall,hsample⟩ := h.presented entry hentry
    exact ⟨List.mem_append_left _ hcall,hsample⟩
  unfold HealthRun.step
  split
  · exact ⟨h.streaks,holder⟩
  · rename_i record hrun
    refine ⟨(evaluateHealth_streaks sha256 policy h.streaks hrun).1,?_⟩
    intro entry hentry
    rcases List.mem_append.mp hentry with hentry | hentry
    · exact holder entry hentry
    · obtain ⟨sample,hsample,rfl⟩ := List.mem_map.mp hentry
      refine ⟨List.mem_append_right _ List.mem_cons_self,?_⟩
      unfold callConsumed at hsample
      split at hsample
      · exact List.mem_eraseDups.mp (mem_of_loopConsumed hsample)
      · exact absurd hsample List.not_mem_nil

theorem runInvariant_calls (sha256 : List UInt8 → Sha256Digest) (policy : HealthPolicy)
    {earlier later : List HealthCall} {run : HealthRun}
    (h : RunInvariant policy.fields earlier run) :
    RunInvariant policy.fields (earlier++later) (run.calls sha256 policy later) := by
  induction later generalizing earlier run with
  | nil =>
    rw [List.append_nil]
    exact h
  | cons call later ih =>
    have hnext := ih (runInvariant_step sha256 policy h call)
    rw [List.append_assoc] at hnext
    exact hnext

/-- The run that starts from the empty state of a policy's scope. -/
def healthRun (sha256 : List UInt8 → Sha256Digest) (policy : HealthPolicy)
    (calls : List HealthCall) : HealthRun :=
  HealthRun.calls sha256 policy ⟨emptyState policy,[]⟩ calls

theorem healthRun_invariant (sha256 : List UInt8 → Sha256Digest) (policy : HealthPolicy)
    (calls : List HealthCall) :
    RunInvariant policy.fields calls (healthRun sha256 policy calls) := by
  have hinit : RunInvariant policy.fields [] ⟨emptyState policy,[]⟩ :=
    ⟨streakInvariant_reset policy (emptyStateFields policy.fields) [],
      fun entry hentry => absurd hentry List.not_mem_nil⟩
  exact runInvariant_calls sha256 policy hinit

theorem healthRun_concat (sha256 : List UInt8 → Sha256Digest) (policy : HealthPolicy)
    (run : HealthRun) (calls : List HealthCall) (call : HealthCall) :
    run.calls sha256 policy (calls++[call])=
      (run.calls sha256 policy calls).step sha256 policy call := by
  induction calls generalizing run with
  | nil => rfl
  | cons first calls ih => exact ih _

/-- The evidence that a decision of a run rests on: a number of distinct
consumed samples in back-to-back grid windows that end at the decided window. -/
def GateEvidence (policy : HealthPolicyFields) (meets : HealthWindowSampleFields → Prop)
    (streak : Int) (decided : Option Int) (calls : List HealthCall) (log : List Consumption) :
    Prop :=
  ∃ evidence start finish,evidence <:+ log ∧ (evidence.length : Int)=streak ∧
    decided=some finish ∧ WindowChain policy start evidence finish ∧
    (evidence.map (·.sample)).Nodup ∧
    ∀ entry∈evidence,entry.call∈calls ∧ entry.sample∈entry.call.samples ∧
      Evidence policy entry ∧ meets entry.sample.fields

theorem gateEvidence_of_streak {policy : HealthPolicy}
    {meets : HealthWindowSampleFields → Prop} {streak requirement : Int}
    {decided : Option Int} {calls : List HealthCall} {log : List Consumption}
    (h : StreakEvidence policy.fields meets streak decided log) (hpositive : 1 ≤ requirement)
    (hmet : streak=requirement)
    (hpresented : ∀ entry∈log,entry.call∈calls ∧ entry.sample∈entry.call.samples) :
    GateEvidence policy.fields meets requirement decided calls log := by
  rcases h with hzero | ⟨evidence,start,finish,hsuffix,hcount,hended,hchain,hall⟩
  · omega
  · refine ⟨evidence,start,finish,hsuffix,hcount.trans hmet,hended,hchain,
      windowChain_nodup (policyBounds policy).window hchain,?_⟩
    intro entry hentry
    obtain ⟨hcall,hsample⟩ := hpresented entry (hsuffix.subset hentry)
    exact ⟨hcall,hsample,hall entry hentry⟩

/-- Whenever a call of any run decides healthy or unhealthy, the run consumed
the required number of distinct samples in back-to-back windows that end at
the decided window, each in scope, complete, in time and on its side of the
thresholds. -/
theorem health_gate_sound (sha256 : List UInt8 → Sha256Digest) (policy : HealthPolicy)
    (calls : List HealthCall) (call : HealthCall) {record : HealthEvaluationResult}
    (hrun : evaluateHealth sha256 policy call.samples (healthRun sha256 policy calls).state
      call.evaluatedAt=.ok record) :
    (record.decision=.healthy →
      GateEvidence policy.fields (MeetsHealthy policy.fields) policy.healthyConsecutiveWindows
        record.windowEndedAt (calls++[call])
        (healthRun sha256 policy (calls++[call])).consumed) ∧
    (record.decision=.unhealthy →
      GateEvidence policy.fields (MeetsUnhealthy policy.fields)
        policy.unhealthyConsecutiveWindows record.windowEndedAt (calls++[call])
        (healthRun sha256 policy (calls++[call])).consumed) := by
  have hbefore := healthRun_invariant sha256 policy calls
  have hafter := healthRun_invariant sha256 policy (calls++[call])
  have hsupported := (evaluateHealth_streaks sha256 policy hbefore.streaks hrun).2
  have hstate : (healthRun sha256 policy (calls++[call])).state=record.state := by
    unfold healthRun
    rw [healthRun_concat,HealthRun.step]
    unfold healthRun at hrun
    rw [hrun]
  have hstreaks := hafter.streaks
  rw [hstate] at hstreaks
  have hbounded := hstreaks.bounded
  constructor
  · intro hdecision
    obtain ⟨hmet,hended⟩ := hsupported.healthy hdecision
    rw [hended]
    exact gateEvidence_of_streak hstreaks.healthy (policyBounds policy).healthy.1 (by omega)
      hafter.presented
  · intro hdecision
    obtain ⟨hmet,hended⟩ := hsupported.unhealthy hdecision
    rw [hended]
    exact gateEvidence_of_streak hstreaks.unhealthy (policyBounds policy).unhealthy.1 (by omega)
      hafter.presented

/-- A digest that repeats one hexadecimal digit. -/
def repeatedDigest (digit : Char) : String := String.ofList (List.replicate 64 digit)

/-- Fields of a policy with one-minute windows and streaks of one window. -/
def minutePolicyFields : HealthPolicyFields :=
  {policyVersion := "v2",policySha256 := repeatedDigest '1',projectId := "project",
   region := "region",environment := "canary",serviceName := "service",
   rootId := "cgroot:"++repeatedDigest '2',rootSha256 := repeatedDigest '2',epoch := 1,
   candidateRevision := "candidate",observationStartedAt := 1000,windowSeconds := 60,
   observationDelaySeconds := 10,maximumObservationDelaySeconds := 30,
   minimumRequestCount := 10,healthyMaximumErrorRateBasisPoints := 100,
   unhealthyMinimumErrorRateBasisPoints := 500,healthyMaximumP95LatencyMs := 500,
   unhealthyMinimumP95LatencyMs := 1000,healthyMinimumAvailabilityBasisPoints := 9900,
   unhealthyMaximumAvailabilityBasisPoints := 9500,healthyConsecutiveWindows := 1,
   unhealthyConsecutiveWindows := 1}

def minutePolicy : HealthPolicy := ⟨minutePolicyFields,rfl⟩

/-- Fields of a complete sample of a given window with a hundred successful requests. -/
def minuteSampleFields (windowIndex : Int) : HealthWindowSampleFields :=
  {observationSha256 := repeatedDigest '3',
   querySha256s := [repeatedDigest '4',repeatedDigest '5'],
   sampleSha256s := [repeatedDigest 'a',repeatedDigest 'b'],policySha256 := repeatedDigest '1',
   projectId := "project",region := "region",environment := "canary",
   serviceName := "service",rootId := "cgroot:"++repeatedDigest '2',
   rootSha256 := repeatedDigest '2',epoch := 1,candidateRevision := "candidate",
   observationStartedAt := 1000,windowIndex := windowIndex,
   windowStartedAt := 940+60*windowIndex,windowEndedAt := 1000+60*windowIndex,
   observedAt := 1015+60*windowIndex,requestCount := 100,response1xxCount := 0,
   successfulRequestCount := 100,response3xxCount := 0,response4xxCount := 0,
   serverErrorCount := 0,p95LatencyMs := 200,complete := true,missing := false,
   duplicateCount := 0,conflictingDuplicate := false}

/-- The complete sample of the first window. -/
def firstMinute : HealthWindowSample := ⟨minuteSampleFields 1,rfl⟩

/-- The SHA-256 function on the only sample set of the complete samples. -/
def minuteSha256 : List UInt8 → Sha256Digest := fun _ =>
  ⟨"5e198dd611d40dca9bd98c9e7faa58f780789f4e3e146295fe396f1ccae2e6d7",rfl⟩

/-- The first complete minute promotes under the one-minute policy. -/
theorem health_gate_sound_minute :
    ∃ record,evaluateHealth minuteSha256 minutePolicy [firstMinute]
        (healthRun minuteSha256 minutePolicy []).state 1080=.ok record ∧
      record.decision=.healthy ∧
      GateEvidence minutePolicy.fields (MeetsHealthy minutePolicy.fields) 1 record.windowEndedAt
        [⟨[firstMinute],1080⟩]
        (healthRun minuteSha256 minutePolicy [⟨[firstMinute],1080⟩]).consumed :=
  ⟨_,rfl,rfl,(health_gate_sound minuteSha256 minutePolicy [] ⟨[firstMinute],1080⟩ rfl).1 rfl⟩

end ControlGraph.HealthStreaks
