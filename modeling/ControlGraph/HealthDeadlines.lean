import ControlGraph.HealthClosure

/-!
# How late the next evaluation may be

A policy is accepted only when the end of its last window and the collection of
that window are safe timestamps. A record that names a next evaluation takes the
time from the end of some window. Where the window was counted it is one of the
policy, and the next evaluation falls before the end of the collection. Two parts
of a pass take the time of a window that may lie beyond the last one: a conflict
with an accepted sample, which is looked at before the grid is, and a sample of a
later window that is not ready or not yet observed.
-/

namespace ControlGraph.HealthDeadlines

open Checks ContractText HealthWindows HealthEvaluator HealthPasses HealthStreaks HealthClosure

/-- End of the collection of the last window of a policy. -/
def safeHorizon (policy : HealthPolicyFields) : Int :=
  policy.observationStartedAt+policy.maximumWindows*policy.windowSeconds+
    policy.maximumObservationDelaySeconds

variable (sha256 : List UInt8 → Sha256Digest) (policy : HealthPolicy)
  (priorState : HealthEvaluationState) (evaluatedAt : Int)

/-- The next evaluation of a record is not before this one, and not after the collection
of the last window unless this one is. -/
def Within (record : HealthEvaluationResult) : Prop :=
  ∀ next∈record.nextEvaluationAt,
    evaluatedAt ≤ next ∧ next ≤ max evaluatedAt (safeHorizon policy.fields)

/-- The records of an outcome keep to the horizon. -/
def OutcomeWithin : PassOutcome → Prop
  | .returned record => Within policy evaluatedAt record
  | .continued loop => ∀ record∈loop.lastResult,Within policy evaluatedAt record

/-- A new sample of the grid whose window is the expected one or a later one. -/
structure Pending (before : HealthEvaluationStateFields) (sample : HealthWindowSampleFields) :
    Prop where
  remaining : before.evaluatedWindows < policy.maximumWindows
  inScope : sampleMatches policy.fields sample=true
  onGrid : boundaryValid policy.fields sample
  fresh : ¬identicalReplay sha256 before sample
  unseen : some sample.windowEndedAt≠before.lastWindowEndedAt
  ordered : expectedStart policy.fields before ≤ sample.windowStartedAt

/-- The window of a sample is not ready, or its observation lies ahead, until after the
horizon. -/
def AwaitsBeyond (sample : HealthWindowSampleFields) : Prop :=
  (evaluatedAt < sample.windowEndedAt+policy.observationDelaySeconds ∧
    safeHorizon policy.fields < sample.windowEndedAt+policy.observationDelaySeconds) ∨
  (sample.windowEndedAt+policy.observationDelaySeconds ≤ evaluatedAt ∧
    evaluatedAt < sample.observedAt ∧
    max evaluatedAt (safeHorizon policy.fields) <
      min sample.observedAt (sample.windowEndedAt+policy.maximumObservationDelaySeconds))

/-- A sample whose window lies so late that the next evaluation follows the horizon. -/
inductive Overreaches (loop : LoopState) (sample : HealthWindowSample) : Prop
  | conflict (single : ¬repeatsWindow sha256 loop sample) (seen : conflictsSeen sha256 loop sample)
      (remaining : loop.state.evaluatedWindows < policy.maximumWindows)
      (beyond : max evaluatedAt (safeHorizon policy.fields) <
        nextWindowReady policy.fields sample.windowEndedAt)
  | awaited (single : ¬repeatsWindow sha256 loop sample)
      (compatible : ¬conflictsSeen sha256 loop sample)
      (pending : Pending sha256 policy loop.state.fields sample.fields)
      (beyond : AwaitsBeyond policy evaluatedAt sample.fields)

/-- No sample that the loop reaches overreaches the horizon. -/
def WithinReach : LoopState → List HealthWindowSample → Prop
  | _,[] => True
  | loop,sample::samples =>
    ¬Overreaches sha256 policy evaluatedAt loop sample ∧
      ∀ next,samplePass sha256 policy priorState evaluatedAt loop sample=.ok (.continued next) →
        WithinReach next samples

section

variable {policy} {priorState} {evaluatedAt}

/-- A record keeps to the horizon exactly when the time that it was given does. -/
theorem result_within {decision : HealthDecisionKind} {reasons : List HealthReason}
    {state : HealthEvaluationState} {samples : List HealthWindowSample}
    {sample : Option HealthWindowSample} {next : Option Int} :
    Within policy evaluatedAt (result policy priorState evaluatedAt decision reasons state samples
        sample next) ↔ ∀ time∈next,time ≤ max evaluatedAt (safeHorizon policy.fields) := by
  have hnext : (result policy priorState evaluatedAt decision reasons state samples sample
      next).nextEvaluationAt=next.map (fun time => max evaluatedAt time) := rfl
  unfold Within
  rw [hnext]
  cases next with
  | none => simp only [Option.map_none,Option.mem_def,reduceCtorEq,false_implies,implies_true]
  | some time =>
    simp only [Option.map_some,Option.mem_def,Option.some.injEq,forall_eq']
    omega

/-- Giving up keeps to the horizon exactly when its time does. -/
theorem giveUp_within {reason : HealthReason} {state : HealthEvaluationState}
    {cited : List HealthWindowSample} {sample : HealthWindowSample} {resetStreaks : Bool}
    {next : Option Int} {outcome : PassOutcome}
    (h : giveUp policy priorState evaluatedAt reason state cited sample resetStreaks next=
      .ok outcome) :
    OutcomeWithin policy evaluatedAt outcome ↔
      ∀ time∈next,time ≤ max evaluatedAt (safeHorizon policy.fields) := by
  obtain ⟨after,hgive,-⟩ :=
    giveUp_ok policy priorState evaluatedAt reason state cited sample resetStreaks next
  rw [hgive] at h
  rw [← Except.ok.inj h]
  exact result_within

theorem lastWindow_of_matches {state : HealthEvaluationStateFields} {ended : Int}
    (h : stateMatches policy.fields state=true) (hended : state.lastWindowEndedAt=some ended) :
    ended=policy.observationStartedAt+state.evaluatedWindows*policy.windowSeconds := by
  have hstart := expectedStart_of_matches h
  rw [expectedStart,hended] at hstart
  exact hstart

/-- Behind a counted window of the grid the next evaluation keeps to the horizon. -/
theorem nextAfterConsumed_within {state : HealthEvaluationStateFields} {ended : Int}
    (h : state.evaluatedWindows < policy.maximumWindows →
      ended ≤ policy.observationStartedAt+state.evaluatedWindows*policy.windowSeconds) :
    ∀ time∈nextAfterConsumed policy.fields state evaluatedAt ended,
      time ≤ max evaluatedAt (safeHorizon policy.fields) := by
  intro time htime
  have hbounds := policyBounds policy
  have hwindow := hbounds.window
  have hdelay := hbounds.deadline
  unfold nextAfterConsumed at htime
  split at htime
  · cases htime
  · rename_i hremaining
    have hended := h (by omega)
    have hcount : state.evaluatedWindows+1 ≤ policy.maximumWindows := by omega
    have hmul := Int.mul_le_mul_of_nonneg_right hcount (show 0 ≤ policy.windowSeconds by omega)
    rw [add_mul,one_mul] at hmul
    rw [← Option.some.inj htime]
    unfold nextWindowReady safeHorizon
    omega

theorem streakPass_within {loop : LoopState} {state : HealthEvaluationState}
    {decision : HealthDecisionKind} {met : Bool} {metReason pendingReason : HealthReason}
    {thresholdReasons : List HealthReason} {sample : HealthWindowSample} {outcome : PassOutcome}
    (h : streakPass policy priorState evaluatedAt loop state decision met metReason pendingReason
      thresholdReasons sample=.ok outcome)
    (hend : state.evaluatedWindows < policy.maximumWindows → sample.windowEndedAt ≤
      policy.observationStartedAt+state.evaluatedWindows*policy.windowSeconds) :
    OutcomeWithin policy evaluatedAt outcome := by
  unfold streakPass at h
  split at h
  · rw [← Except.ok.inj h]
    exact result_within.mpr (fun _ hnone => by cases hnone)
  · split at h
    · obtain ⟨exhausted,-,hdone⟩ := bind_eq_ok.mp h
      rw [← Except.ok.inj hdone]
      exact result_within.mpr (fun _ hnone => by cases hnone)
    · rw [← Except.ok.inj h]
      intro record hrecord
      rw [← Option.some.inj hrecord]
      exact result_within.mpr (nextAfterConsumed_within hend)

/-- A pass that classifies a counted window keeps to the horizon. -/
theorem classifiedPass_within {loop : LoopState} {advanced : HealthEvaluationState}
    {sample : HealthWindowSample} {outcome : PassOutcome}
    (h : classifiedPass policy priorState evaluatedAt loop advanced sample=.ok outcome)
    (hend : advanced.evaluatedWindows < policy.maximumWindows → sample.windowEndedAt ≤
      policy.observationStartedAt+advanced.evaluatedWindows*policy.windowSeconds) :
    OutcomeWithin policy evaluatedAt outcome := by
  unfold classifiedPass at h
  generalize classifyWindow policy.fields sample.fields=classified at h
  obtain ⟨windowClass,thresholdReasons⟩ := classified
  cases windowClass with
  | healthy =>
    obtain ⟨state,hstate,hpass⟩ := bind_eq_ok.mp h
    have hfields := HealthEvaluationStateFields.make_eq_ok.mp hstate
    have hcount : state.evaluatedWindows=advanced.evaluatedWindows := by
      have hsame := congrArg HealthEvaluationStateFields.evaluatedWindows hfields
      exact hsame.symm
    exact streakPass_within hpass (by rw [hcount]; exact hend)
  | unhealthy =>
    obtain ⟨state,hstate,hpass⟩ := bind_eq_ok.mp h
    have hfields := HealthEvaluationStateFields.make_eq_ok.mp hstate
    have hcount : state.evaluatedWindows=advanced.evaluatedWindows := by
      have hsame := congrArg HealthEvaluationStateFields.evaluatedWindows hfields
      exact hsame.symm
    exact streakPass_within hpass (by rw [hcount]; exact hend)
  | wait =>
    obtain ⟨state,hstate,hpass⟩ := bind_eq_ok.mp h
    obtain ⟨next,hreset,hfields⟩ := reset_ok advanced
    rw [hreset] at hstate
    obtain rfl := Except.ok.inj hstate
    have hcount : next.evaluatedWindows=advanced.evaluatedWindows := by
      have hsame := congrArg HealthEvaluationStateFields.evaluatedWindows hfields
      exact hsame
    split at hpass
    · rw [← Except.ok.inj hpass]
      exact result_within.mpr (fun _ hnone => by cases hnone)
    · rw [← Except.ok.inj hpass]
      intro record hrecord
      rw [← Option.some.inj hrecord]
      exact result_within.mpr (nextAfterConsumed_within (by rw [hcount]; exact hend))

/-- A window that a matching state expects ends by the last window of the policy. -/
theorem expected_ends {before : HealthEvaluationStateFields} {sample : HealthWindowSampleFields}
    (hknown : stateMatches policy.fields before=true) (h : Pending sha256 policy before sample)
    (hexpected : sample.windowStartedAt ≤ expectedStart policy.fields before) :
    sample.windowEndedAt ≤ policy.observationStartedAt+policy.maximumWindows*policy.windowSeconds := by
  have hwindow := (policyBounds policy).window
  have hstart := expectedStart_of_matches hknown
  have hlength := h.onGrid.1
  have hremaining := h.remaining
  have hcount : before.evaluatedWindows+1 ≤ policy.maximumWindows := by omega
  have hmul := Int.mul_le_mul_of_nonneg_right hcount (show 0 ≤ policy.windowSeconds by omega)
  rw [add_mul,one_mul] at hmul
  omega

/-- A state that consumed a window of the grid counts the windows up to its end, unless
the windows are exhausted. -/
theorem consumed_ends {before : HealthEvaluationStateFields} {sample : HealthWindowSampleFields}
    (hknown : stateMatches policy.fields before=true) (h : Pending sha256 policy before sample)
    (hremaining : (consumeFields sha256 policy.fields before sample).evaluatedWindows <
      policy.maximumWindows) :
    sample.windowEndedAt ≤ policy.observationStartedAt+
      (consumeFields sha256 policy.fields before sample).evaluatedWindows*policy.windowSeconds := by
  have hbounds := policyBounds policy
  have hwindows := hbounds.windows
  have hstart := expectedStart_of_matches hknown
  have helapsed := @elapsed_mul policy.observationStartedAt policy.windowSeconds
    before.evaluatedWindows sample.windowStartedAt sample.windowEndedAt hbounds.window
    h.onGrid.1 h.onGrid.2.2.2
  rw [← hstart] at helapsed
  generalize hcount : before.evaluatedWindows+
    (sample.windowEndedAt-expectedStart policy.fields before)/policy.windowSeconds=count
    at helapsed
  have hevaluated : (consumeFields sha256 policy.fields before sample).evaluatedWindows=
      min count maxWindows := by
    rw [← hcount]
    rfl
  rw [hevaluated] at hremaining ⊢
  have hsame : min count maxWindows=count := by omega
  rw [hsame]
  exact helapsed.ge

theorem collectedPass_within {loop : LoopState} {sample : HealthWindowSample} {outcome : PassOutcome}
    (hknown : stateMatches policy.fields loop.state.fields=true)
    (hpending : Pending sha256 policy loop.state.fields sample.fields)
    (h : collectedPass sha256 policy priorState evaluatedAt loop sample
      ((sample.windowEndedAt-expectedStart policy.fields loop.state.fields)/policy.windowSeconds)
      (decide (expectedStart policy.fields loop.state.fields < sample.windowStartedAt))=
        .ok outcome) : OutcomeWithin policy evaluatedAt outcome := by
  obtain ⟨advanced,hadvance,hafter⟩ := bind_eq_ok.mp h
  have hfields := HealthEvaluationStateFields.make_eq_ok.mp hadvance
  have hcount : advanced.evaluatedWindows=
      (consumeFields sha256 policy.fields loop.state.fields sample.fields).evaluatedWindows := by
    have hsame := congrArg HealthEvaluationStateFields.evaluatedWindows hfields
    exact hsame.symm
  have hend : advanced.evaluatedWindows < policy.maximumWindows → sample.windowEndedAt ≤
      policy.observationStartedAt+advanced.evaluatedWindows*policy.windowSeconds := by
    rw [hcount]
    exact consumed_ends sha256 hknown hpending
  have hnext := @nextAfterConsumed_within policy evaluatedAt advanced.fields sample.windowEndedAt hend
  dsimp only at hafter
  split at hafter
  · exact (giveUp_within hafter).mpr hnext
  split at hafter
  · exact (giveUp_within hafter).mpr hnext
  rename_i hgap
  have hends := expected_ends sha256 hknown hpending (by
    simpa using hgap)
  have hdeadline : ∀ time∈some (sample.windowEndedAt+policy.maximumObservationDelaySeconds),
      time ≤ max evaluatedAt (safeHorizon policy.fields) := by
    intro time htime
    rw [← Option.some.inj htime]
    unfold safeHorizon
    omega
  split at hafter
  · split at hafter
    · exact (giveUp_within hafter).mpr hdeadline
    · exact (giveUp_within hafter).mpr hnext
  split at hafter
  · exact (giveUp_within hafter).mpr hnext
  split at hafter
  · split at hafter
    · exact (giveUp_within hafter).mpr hdeadline
    · exact (giveUp_within hafter).mpr hnext
  · exact classifiedPass_within hafter hend

/-- A pass over a sample of the grid keeps to the horizon exactly when the sample is not
awaited beyond it. -/
theorem orderedPass_within {loop : LoopState} {sample : HealthWindowSample} {outcome : PassOutcome}
    (hknown : stateMatches policy.fields loop.state.fields=true)
    (hpending : expectedStart policy.fields loop.state.fields ≤ sample.windowStartedAt →
      Pending sha256 policy loop.state.fields sample.fields)
    (h : orderedPass sha256 policy priorState evaluatedAt loop sample=.ok outcome) :
    OutcomeWithin policy evaluatedAt outcome ↔
      ¬(expectedStart policy.fields loop.state.fields ≤ sample.windowStartedAt ∧
        AwaitsBeyond policy evaluatedAt sample.fields) := by
  have hdelay := (policyBounds policy).deadline
  unfold orderedPass at h
  dsimp only at h
  unfold AwaitsBeyond
  split at h
  · rename_i hearly
    rw [giveUp_within h]
    simp only [Option.mem_def,reduceCtorEq,false_implies,implies_true,true_iff]
    omega
  rename_i hordered
  split at h
  · rw [← Except.ok.inj h]
    refine result_within.trans ?_
    simp only [Option.mem_def,Option.some.injEq,forall_eq']
    omega
  rename_i hready
  split at h
  · rw [giveUp_within h]
    simp only [Option.mem_def,Option.some.injEq,forall_eq']
    omega
  rename_i hobserved
  have hnever : ¬(expectedStart policy.fields loop.state.fields ≤ sample.windowStartedAt ∧
      ((evaluatedAt < sample.windowEndedAt+policy.observationDelaySeconds ∧
          safeHorizon policy.fields < sample.windowEndedAt+policy.observationDelaySeconds) ∨
        (sample.windowEndedAt+policy.observationDelaySeconds ≤ evaluatedAt ∧
          evaluatedAt < sample.observedAt ∧ max evaluatedAt (safeHorizon policy.fields) <
            min sample.observedAt
              (sample.windowEndedAt+policy.maximumObservationDelaySeconds)))) := by
    omega
  rw [iff_true_right hnever]
  split at h
  · rw [← Except.ok.inj h]
    refine result_within.mpr ?_
    intro time htime
    rw [← Option.some.inj htime]
    omega
  · exact collectedPass_within sha256 hknown (hpending (by omega)) h

/-- A pass over a new sample keeps to the horizon exactly when the sample is not awaited
beyond it. -/
theorem acceptedPass_within {loop : LoopState} {sample : HealthWindowSample} {outcome : PassOutcome}
    (hknown : stateMatches policy.fields loop.state.fields=true)
    (h : acceptedPass sha256 policy priorState evaluatedAt loop sample=.ok outcome) :
    OutcomeWithin policy evaluatedAt outcome ↔
      ¬(Pending sha256 policy loop.state.fields sample.fields ∧
        AwaitsBeyond policy evaluatedAt sample.fields) := by
  unfold acceptedPass at h
  dsimp only at h
  split at h
  · rename_i hexhausted
    rw [giveUp_within h]
    simp only [Option.mem_def,reduceCtorEq,false_implies,implies_true,true_iff]
    exact fun hbeyond => absurd hbeyond.1.remaining (by omega)
  rename_i hremaining
  split at h
  · rename_i hforeign
    rw [giveUp_within h]
    simp only [Option.mem_def,reduceCtorEq,false_implies,implies_true,true_iff]
    intro hbeyond
    have hscope := hbeyond.1.inScope
    rw [hforeign] at hscope
    cases hscope
  rename_i hscope
  split at h
  · rename_i hoff
    rw [giveUp_within h]
    simp only [Option.mem_def,reduceCtorEq,false_implies,implies_true,true_iff]
    exact fun hbeyond => hoff hbeyond.1.onGrid
  rename_i hgrid
  have hcounted : ∀ ended,loop.state.lastWindowEndedAt=some ended →
      ended ≤ policy.observationStartedAt+loop.state.evaluatedWindows*policy.windowSeconds :=
    fun ended hended => (lastWindow_of_matches hknown hended).le
  split at h
  · rename_i hreplayed
    rw [iff_true_right (fun hbeyond => hbeyond.1.fresh hreplayed)]
    split at h
    · cases h
    · rename_i ended hended
      rw [← Except.ok.inj h]
      exact result_within.mpr (nextAfterConsumed_within (fun _ => hcounted ended hended))
  rename_i hfresh
  split at h
  · rename_i hlast
    rw [iff_true_right (fun hbeyond => hbeyond.1.unseen hlast)]
    obtain ⟨conflictState,hreset,hgive⟩ := bind_eq_ok.mp h
    obtain ⟨after,hafter,hfields⟩ := reset_ok loop.state
    rw [hafter] at hreset
    obtain rfl := Except.ok.inj hreset
    have hcount : after.evaluatedWindows=loop.state.evaluatedWindows := by
      have hsame := congrArg HealthEvaluationStateFields.evaluatedWindows hfields
      exact hsame
    exact (giveUp_within hgive).mpr (nextAfterConsumed_within
      (fun _ => by rw [hcount]; exact hcounted _ hlast.symm))
  rename_i hunseen
  have hpending : expectedStart policy.fields loop.state.fields ≤ sample.windowStartedAt →
      Pending sha256 policy loop.state.fields sample.fields := fun hordered =>
    ⟨by omega,by simpa using hscope,not_not.mp hgrid,hfresh,hunseen,hordered⟩
  rw [orderedPass_within sha256 hknown hpending h]
  exact not_congr (and_congr_left' ⟨hpending,Pending.ordered⟩)

/-- A pass keeps to the horizon exactly when its sample does not overreach it. -/
theorem samplePass_within {loop : LoopState} {sample : HealthWindowSample} {outcome : PassOutcome}
    (hknown : stateMatches policy.fields loop.state.fields=true)
    (hpending : ∀ record∈loop.lastResult,Within policy evaluatedAt record)
    (h : samplePass sha256 policy priorState evaluatedAt loop sample=.ok outcome) :
    OutcomeWithin policy evaluatedAt outcome ↔
      ¬Overreaches sha256 policy evaluatedAt loop sample := by
  unfold samplePass at h
  split at h
  · rename_i hrepeats
    rw [← Except.ok.inj h]
    refine iff_of_true hpending ?_
    rintro (⟨hsingle,-,-,-⟩ | ⟨hsingle,-,-,-⟩)
    · exact hsingle hrepeats
    · exact hsingle hrepeats
  rename_i hsingle
  split at h
  · rename_i hseen
    obtain ⟨conflictState,hreset,hgive⟩ := bind_eq_ok.mp h
    obtain ⟨after,hafter,hfields⟩ := reset_ok loop.state
    rw [hafter] at hreset
    obtain rfl := Except.ok.inj hreset
    have hcount : after.evaluatedWindows=loop.state.evaluatedWindows := by
      have hsame := congrArg HealthEvaluationStateFields.evaluatedWindows hfields
      exact hsame
    rw [giveUp_within hgive,nextAfterConsumed,hcount]
    constructor
    · rintro hwithin (⟨-,-,hremaining,hbeyond⟩ | ⟨-,hcompatible,-,-⟩)
      · rw [if_neg (by omega)] at hwithin
        have hnext := hwithin _ rfl
        omega
      · exact hcompatible hseen
    · intro hreaches time htime
      split at htime
      · cases htime
      · rename_i hremaining
        rw [← Option.some.inj htime]
        by_contra hbeyond
        exact hreaches (.conflict hsingle hseen (by omega) (by omega))
  · rename_i hcompatible
    have hrecorded : stateMatches policy.fields (loop.record sha256 sample).state.fields=true :=
      hknown
    rw [acceptedPass_within sha256 hrecorded h]
    constructor
    · rintro hwithin (⟨-,hseen,-,-⟩ | ⟨-,-,hawaits,hbeyond⟩)
      · exact hcompatible hseen
      · exact hwithin ⟨hawaits,hbeyond⟩
    · rintro hreaches ⟨hawaits,hbeyond⟩
      exact hreaches (.awaited hsingle hcompatible hawaits hbeyond)

theorem giveUp_returned {reason : HealthReason} {state : HealthEvaluationState}
    {cited : List HealthWindowSample} {sample : HealthWindowSample} {resetStreaks : Bool}
    {next : Option Int} {outcome : PassOutcome}
    (h : giveUp policy priorState evaluatedAt reason state cited sample resetStreaks next=
      .ok outcome) : ∃ record,outcome=.returned record := by
  obtain ⟨after,hgive,-⟩ :=
    giveUp_ok policy priorState evaluatedAt reason state cited sample resetStreaks next
  rw [hgive] at h
  exact ⟨_,(Except.ok.inj h).symm⟩

/-- A sample that overreaches the horizon ends the evaluation. -/
theorem overreaches_returned {loop : LoopState} {sample : HealthWindowSample}
    {outcome : PassOutcome} (hreaches : Overreaches sha256 policy evaluatedAt loop sample)
    (h : samplePass sha256 policy priorState evaluatedAt loop sample=.ok outcome) :
    ∃ record,outcome=.returned record := by
  unfold samplePass at h
  cases hreaches with
  | conflict hsingle hseen _ _ =>
    rw [if_neg hsingle,if_pos hseen] at h
    obtain ⟨conflictState,-,hgive⟩ := bind_eq_ok.mp h
    exact giveUp_returned hgive
  | awaited hsingle hcompatible hpending hbeyond =>
    have hremaining := hpending.remaining
    have hordered := hpending.ordered
    have hstate : (loop.record sha256 sample).state=loop.state := rfl
    rw [if_neg hsingle,if_neg hcompatible] at h
    unfold acceptedPass at h
    dsimp only at h
    rw [hstate,if_neg (by omega),if_neg (by simp [hpending.inScope]),
      if_neg (not_not.mpr hpending.onGrid),if_neg hpending.fresh,if_neg hpending.unseen] at h
    unfold orderedPass at h
    dsimp only at h
    rw [hstate,if_neg (by omega)] at h
    rcases hbeyond with ⟨hearly,-⟩ | ⟨hready,hahead,-⟩
    · rw [if_pos hearly] at h
      exact ⟨_,(Except.ok.inj h).symm⟩
    · rw [if_neg (by omega),if_pos hahead] at h
      exact giveUp_returned h

/-- A sample behind a gap ends the evaluation. -/
theorem collectedPass_gap {loop : LoopState} {sample : HealthWindowSample} {elapsed : Int}
    {outcome : PassOutcome}
    (h : collectedPass sha256 policy priorState evaluatedAt loop sample elapsed true=.ok outcome) :
    ∃ record,outcome=.returned record := by
  obtain ⟨advanced,-,hafter⟩ := bind_eq_ok.mp h
  dsimp only at hafter
  split at hafter
  · exact giveUp_returned hafter
  · rw [if_pos rfl] at hafter
    exact giveUp_returned hafter

/-- A pass that continues keeps a matching state on the grid. -/
theorem samplePass_continued {loop next : LoopState} {sample : HealthWindowSample}
    (hknown : stateMatches policy.fields loop.state.fields=true)
    (h : samplePass sha256 policy priorState evaluatedAt loop sample=.ok (.continued next)) :
    stateMatches policy.fields next.state.fields=true := by
  obtain ⟨outcome,hpass,hspec⟩ := samplePass_spec sha256 policy priorState evaluatedAt loop sample
  rw [h] at hpass
  obtain rfl := Except.ok.inj hpass
  cases hspec with
  | skipped _ => exact hknown
  | accepted hsingle hcompatible heffect =>
    cases heffect with
    | continued heffect _ _ _ _ =>
      refine stateMatches_effect hknown ?_ heffect
      intro hcollected
      have hpending : Pending sha256 policy loop.state.fields sample.fields :=
        ⟨hcollected.remaining,hcollected.inScope,hcollected.onGrid,hcollected.fresh,
          hcollected.unseen,hcollected.ordered⟩
      have hexpected : sample.windowStartedAt ≤ expectedStart policy.fields loop.state.fields := by
        by_contra hgap
        rw [samplePass_collected sha256 policy priorState evaluatedAt hsingle hcompatible
          hcollected,decide_eq_true (by omega)] at h
        obtain ⟨record,hreturned⟩ := collectedPass_gap sha256 h
        cases hreturned
      have hends := expected_ends sha256 hknown hpending hexpected
      have hbounds := policyBounds policy
      have hmul := Int.mul_le_mul_of_nonneg_right hbounds.windows.2
        (show 0 ≤ policy.windowSeconds by have := hbounds.window; omega)
      unfold horizon
      omega

/-- From a matching state the loop keeps to the horizon exactly when no sample that it
reaches overreaches it. -/
theorem evaluateSamples_within {samples : List HealthWindowSample} {loop : LoopState}
    {record : HealthEvaluationResult}
    (hknown : stateMatches policy.fields loop.state.fields=true)
    (hpending : ∀ record∈loop.lastResult,Within policy evaluatedAt record)
    (hrun : evaluateSamples sha256 policy priorState evaluatedAt loop samples=.ok record) :
    Within policy evaluatedAt record ↔
      WithinReach sha256 policy priorState evaluatedAt loop samples := by
  induction samples generalizing loop with
  | nil =>
    unfold evaluateSamples at hrun
    split at hrun
    · cases hrun
    · rename_i last hlast
      rw [← Except.ok.inj hrun]
      exact iff_of_true (hpending last hlast) trivial
  | cons sample samples ih =>
    unfold WithinReach
    unfold evaluateSamples at hrun
    split at hrun
    · cases hrun
    · rename_i other hpass
      rw [← Except.ok.inj hrun,← samplePass_within sha256 hknown hpending hpass,hpass]
      simp only [OutcomeWithin,Except.ok.injEq,reduceCtorEq,false_implies,implies_true,and_true]
    · rename_i next hpass
      have hstays := samplePass_continued sha256 hknown hpass
      have hreaches : ¬Overreaches sha256 policy evaluatedAt loop sample := by
        intro hreaches
        obtain ⟨other,hreturned⟩ := overreaches_returned sha256 hreaches hpass
        cases hreturned
      have hlater := (samplePass_within sha256 hknown hpending hpass).mpr hreaches
      rw [ih hstays hlater hrun,hpass]
      simp only [hreaches,not_false_eq_true,true_and,Except.ok.injEq,PassOutcome.continued.injEq,
        forall_eq']

/-- A record of insufficient evidence that names no time keeps to the horizon. -/
theorem insufficient_within {reason : HealthReason} {state : HealthEvaluationState}
    {samples : List HealthWindowSample} {resetStreaks : Bool} {record : HealthEvaluationResult}
    (h : insufficient policy priorState evaluatedAt reason state samples none resetStreaks none=
      .ok record) : Within policy evaluatedAt record := by
  have hnone : ∀ time∈(none : Option Int),time ≤ max evaluatedAt (safeHorizon policy.fields) :=
    fun _ hnone => by cases hnone
  unfold insufficient at h
  cases resetStreaks with
  | false =>
    rw [← Except.ok.inj h]
    exact result_within.mpr hnone
  | true =>
    obtain ⟨after,-,hdone⟩ := bind_eq_ok.mp h
    rw [← Except.ok.inj hdone]
    exact result_within.mpr hnone

/-- Without samples the time is one of the window that is expected. -/
theorem evaluateAbsence_within {record : HealthEvaluationResult}
    (hknown : stateMatches policy.fields priorState.fields=true)
    (hremaining : priorState.evaluatedWindows < policy.maximumWindows)
    (hrun : evaluateAbsence policy priorState evaluatedAt=.ok record) :
    Within policy evaluatedAt record := by
  have hbounds := policyBounds policy
  have hdelay := hbounds.deadline
  have hstart := expectedStart_of_matches hknown
  have hcount : priorState.evaluatedWindows+1 ≤ policy.maximumWindows := by omega
  have hmul := Int.mul_le_mul_of_nonneg_right hcount
    (show 0 ≤ policy.windowSeconds by have := hbounds.window; omega)
  rw [add_mul,one_mul] at hmul
  unfold evaluateAbsence at hrun
  dsimp only at hrun
  split at hrun
  · rw [← Except.ok.inj hrun]
    refine result_within.mpr ?_
    intro time htime
    rw [← Option.some.inj htime]
    unfold safeHorizon
    omega
  split at hrun
  · rw [← Except.ok.inj hrun]
    refine result_within.mpr ?_
    intro time htime
    rw [← Option.some.inj htime]
    unfold safeHorizon
    omega
  · obtain ⟨resetState,-,hdone⟩ := bind_eq_ok.mp hrun
    exact insufficient_within hdone

end

/-- From a matching state the next evaluation of a call is bounded by the horizon exactly
when no sample that its loop reaches overreaches the horizon. -/
theorem next_evaluation_bounded (samples : List HealthWindowSample)
    {record : HealthEvaluationResult} (hknown : stateMatches policy.fields priorState.fields=true)
    (hrun : evaluateHealth sha256 policy samples priorState evaluatedAt=.ok record) :
    (∀ next∈record.nextEvaluationAt,
        evaluatedAt ≤ next ∧ next ≤ max evaluatedAt (safeHorizon policy.fields)) ↔
      (EntersLoop policy priorState evaluatedAt samples →
        WithinReach sha256 policy priorState evaluatedAt {state := priorState}
          samples.eraseDups) := by
  rcases evaluateHealth_cases sha256 policy priorState evaluatedAt samples with
    ⟨henters,hloop⟩ | ⟨-,-,raised,hraised⟩ | ⟨henters,-,-⟩
  · rw [hloop] at hrun
    simp only [henters,true_implies]
    exact evaluateSamples_within sha256 hknown (fun _ hnone => by cases hnone) hrun
  · rw [hraised] at hrun
    cases hrun
  · refine iff_of_true ?_ (fun h => absurd h henters)
    change Within policy evaluatedAt record
    unfold evaluateHealth at hrun
    obtain ⟨_,htime,hrun⟩ := bind_eq_ok.mp hrun
    have hsafe := requireInt_eq_ok.mp htime
    rw [if_neg (by simp [hknown])] at hrun
    split at hrun
    · exact insufficient_within hrun
    rename_i hundecided
    split at hrun
    · exact insufficient_within hrun
    rename_i hremaining
    split at hrun
    · exact evaluateAbsence_within hknown (by omega) hrun
    rename_i hpresented
    split at hrun
    · exact insufficient_within hrun
    · rename_i hcount
      exact absurd ⟨hsafe,hknown,hundecided,by omega,hpresented,by omega⟩ henters

/-- A sample of the fifteenth window is awaited beyond the horizon of ten windows. -/
theorem next_evaluation_refuted : ¬∀ (sha256 : List UInt8 → Sha256Digest) (policy : HealthPolicy)
    (priorState : HealthEvaluationState) (evaluatedAt : Int) (samples : List HealthWindowSample)
    (record : HealthEvaluationResult),stateMatches policy.fields priorState.fields=true →
    0 ≤ evaluatedAt ∧ evaluatedAt ≤ maxSafeInteger →
    evaluateHealth sha256 policy samples priorState evaluatedAt=.ok record →
    ∀ next∈record.nextEvaluationAt,
      evaluatedAt ≤ next ∧ next ≤ max evaluatedAt (safeHorizon policy.fields) := by
  intro h
  have hbound := h minuteSha256 minutePolicy (emptyState minutePolicy) 1080 [fifteenthMinute] _ rfl
    (by decide) rfl 1910 rfl
  have hhorizon : safeHorizon minutePolicy.fields=1630 := rfl
  rw [hhorizon] at hbound
  omega

/-- The first minute is evaluated within the horizon. -/
theorem next_evaluation_minute :
    ∃ record,evaluateHealth minuteSha256 minutePolicy [firstMinute] (emptyState minutePolicy)
        1080=.ok record ∧
      ((∀ next∈record.nextEvaluationAt,
          1080 ≤ next ∧ next ≤ max 1080 (safeHorizon minutePolicy.fields)) ↔
        (EntersLoop minutePolicy (emptyState minutePolicy) 1080 [firstMinute] →
          WithinReach minuteSha256 minutePolicy (emptyState minutePolicy) 1080
            {state := emptyState minutePolicy} [firstMinute].eraseDups)) :=
  ⟨_,rfl,next_evaluation_bounded minuteSha256 minutePolicy (emptyState minutePolicy) 1080
    [firstMinute] rfl rfl⟩

end ControlGraph.HealthDeadlines
