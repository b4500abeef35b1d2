import ControlGraph.HealthStreaks

/-!
# When the health state stays on its window grid

A state matches a policy when its last window ends exactly as many windows
after the grid origin as the state counts. Consuming a sample takes the end
from the sample and caps the count at ten windows, so the two agree exactly
up to the end of the tenth window. The loop leaves the grid exactly when it
collects a sample whose window ends later.
-/

namespace ControlGraph.HealthClosure

open Checks ContractText HealthWindows HealthEvaluator HealthPasses HealthStreaks

/-- End of the tenth window of the grid. -/
def horizon (policy : HealthPolicyFields) : Int :=
  policy.observationStartedAt+maxWindows*policy.windowSeconds

/-- The window expected by a matching state starts after its counted windows. -/
theorem expectedStart_of_matches {policy : HealthPolicyFields}
    {state : HealthEvaluationStateFields} (h : stateMatches policy state=true) :
    expectedStart policy state=
      policy.observationStartedAt+state.evaluatedWindows*policy.windowSeconds := by
  simp only [stateMatches,Bool.and_eq_true,decide_eq_true_eq] at h
  obtain ⟨⟨⟨-,hstart⟩,hended⟩,-⟩ := h
  unfold expectedStart
  rw [hended,expectedLastWindowEndedAt]
  by_cases hzero : state.evaluatedWindows=0
  · rw [if_pos hzero,hzero,zero_mul,add_zero]
    rfl
  · rw [if_neg hzero,hstart]
    rfl

/-- Whole windows elapse between two points of the grid. -/
theorem elapsed_mul {origin window counted started ended : Int} (hw : 1 ≤ window)
    (hlength : ended-started=window) (hgrid : (started-origin)%window=0) :
    origin+(counted+(ended-(origin+counted*window))/window)*window=ended := by
  obtain ⟨position,hposition⟩ := Int.dvd_of_emod_eq_zero hgrid
  have hdifference : ended-(origin+counted*window)=window*(position+1-counted) := by
    have hended : ended=origin+window*position+window := by omega
    rw [hended]
    ring
  rw [hdifference,Int.mul_ediv_cancel_left _ (by omega)]
  have hended : ended=origin+window*position+window := by omega
  rw [hended]
  ring

/-- Resetting the streaks does not change whether a state matches. -/
theorem stateMatches_resetFields (policy : HealthPolicyFields)
    (state : HealthEvaluationStateFields) :
    stateMatches policy (resetFields state)=stateMatches policy state := rfl

/-- Between states of one identity, matching is decided by the end of the last window. -/
theorem stateMatches_of_identity {policy : HealthPolicyFields}
    {before after : HealthEvaluationStateFields} (hbefore : stateMatches policy before=true)
    (hversion : after.policyVersion=before.policyVersion)
    (hdigest : after.policySha256=before.policySha256)
    (horigin : after.observationStartedAt=before.observationStartedAt)
    (hscope : after.scope=before.scope) :
    stateMatches policy after=true ↔
      after.lastWindowEndedAt=expectedLastWindowEndedAt policy after := by
  simp only [stateMatches,Bool.and_eq_true,decide_eq_true_eq] at hbefore ⊢
  obtain ⟨⟨⟨⟨hversion',hdigest'⟩,horigin'⟩,-⟩,hscope'⟩ := hbefore
  rw [hversion,hdigest,horigin,hscope]
  simp only [hversion',hdigest',horigin',hscope',true_and,and_true]

/-- Capping a window count keeps its end exactly up to the cap. -/
theorem capped_end_iff {origin window count ended : Int} (hw : 1 ≤ window)
    (hended : origin+count*window=ended) :
    ended=origin+min count maxWindows*window ↔ ended ≤ origin+maxWindows*window := by
  rcases le_total count maxWindows with hle | hle
  · rw [min_eq_left hle]
    have hmul := Int.mul_le_mul_of_nonneg_right hle (by omega : 0 ≤ window)
    constructor <;> intro _ <;> omega
  · rw [min_eq_right hle]
    constructor
    · intro h
      omega
    · intro h
      have hmul := Int.mul_le_mul_of_nonneg_right hle (by omega : 0 ≤ window)
      omega

/-- A state that consumed a collected sample matches exactly when the window
of the sample ends within the first ten windows. -/
theorem stateMatches_consumeFields {sha256 : List UInt8 → Sha256Digest} {policy : HealthPolicy}
    {evaluatedAt : Int} {before : HealthEvaluationStateFields} {sample : HealthWindowSampleFields}
    (hbefore : stateMatches policy.fields before=true)
    (hcollected : Collected sha256 policy.fields evaluatedAt before sample) :
    stateMatches policy.fields (consumeFields sha256 policy.fields before sample)=true ↔
      sample.windowEndedAt ≤ horizon policy.fields := by
  have hwindow := (policyBounds policy).window
  have hlength := hcollected.onGrid.1
  have horder := hcollected.onGrid.2.2.1
  have hstart := expectedStart_of_matches hbefore
  have helapsed := @elapsed_mul policy.observationStartedAt policy.windowSeconds
    before.evaluatedWindows sample.windowStartedAt sample.windowEndedAt hwindow
    hlength hcollected.onGrid.2.2.2
  rw [← hstart] at helapsed
  have horigin : before.observationStartedAt=policy.observationStartedAt := by
    simp only [stateMatches,Bool.and_eq_true,decide_eq_true_eq] at hbefore
    exact hbefore.1.1.2
  have hsame : stateMatches policy.fields (consumeFields sha256 policy.fields before sample)=true ↔
      some sample.windowEndedAt=expectedLastWindowEndedAt policy.fields
        (consumeFields sha256 policy.fields before sample) :=
    stateMatches_of_identity hbefore rfl rfl rfl rfl
  rw [hsame]
  generalize hcount : before.evaluatedWindows+
    (sample.windowEndedAt-expectedStart policy.fields before)/policy.windowSeconds=count
    at helapsed
  have hevaluated : (consumeFields sha256 policy.fields before sample).evaluatedWindows=
      min count maxWindows := by
    rw [← hcount]
    rfl
  have hpositive : 1 ≤ count := by
    by_contra hnot
    have hmul := Int.mul_le_mul_of_nonneg_right (show count≤0 by omega)
      (show 0 ≤ policy.windowSeconds by omega)
    omega
  have hcap : maxWindows=10 := rfl
  have hexpected : expectedLastWindowEndedAt policy.fields
      (consumeFields sha256 policy.fields before sample)=
        some (policy.observationStartedAt+min count maxWindows*policy.windowSeconds) := by
    unfold expectedLastWindowEndedAt
    rw [hevaluated,if_neg (by omega)]
    exact congrArg some (congrArg (·+_) horigin)
  rw [hexpected,horizon,← capped_end_iff hwindow helapsed]
  exact Option.some_inj

/-- Extending a streak does not change whether a state matches. -/
theorem stateMatches_effect {sha256 : List UInt8 → Sha256Digest} {policy : HealthPolicy}
    {evaluatedAt : Int} {before after : HealthEvaluationStateFields}
    {sample : HealthWindowSampleFields} (hbefore : stateMatches policy.fields before=true)
    (hwithin : Collected sha256 policy.fields evaluatedAt before sample →
      sample.windowEndedAt ≤ horizon policy.fields)
    (heffect : StateEffect sha256 policy.fields evaluatedAt before sample after) :
    stateMatches policy.fields after=true := by
  cases heffect with
  | kept => exact hbefore
  | reset => exact hbefore
  | consumed hcollected =>
    exact (stateMatches_consumeFields hbefore hcollected).mpr (hwithin hcollected)
  | healthy hqualified _ =>
    exact (stateMatches_consumeFields hbefore hqualified.toCollected).mpr
      (hwithin hqualified.toCollected)
  | unhealthy hqualified _ =>
    exact (stateMatches_consumeFields hbefore hqualified.toCollected).mpr
      (hwithin hqualified.toCollected)

section

variable (sha256 : List UInt8 → Sha256Digest) (policy : HealthPolicy)
  (priorState : HealthEvaluationState) (evaluatedAt : Int)

/-- A sample that is collected although its window ends after the tenth one. -/
structure Overruns (loop : LoopState) (sample : HealthWindowSample) : Prop where
  /-- The sample repeats no accepted sample of its window. -/
  single : ¬repeatsWindow sha256 loop sample
  /-- The sample conflicts with no accepted sample. -/
  compatible : ¬conflictsSeen sha256 loop sample
  collected : Collected sha256 policy.fields evaluatedAt loop.state.fields sample.fields
  /-- The window of the sample ends after the tenth window. -/
  beyond : horizon policy.fields < sample.windowEndedAt

/-- No sample that the loop reaches overruns the tenth window. -/
def WithinHorizon : LoopState → List HealthWindowSample → Prop
  | _,[] => True
  | loop,sample::samples =>
    ¬Overruns sha256 policy evaluatedAt loop sample ∧
      ∀ next,samplePass sha256 policy priorState evaluatedAt loop sample=.ok (.continued next) →
        WithinHorizon next samples

/-- A new sample that satisfies the guards reaches the collecting part. -/
theorem samplePass_collected {loop : LoopState} {sample : HealthWindowSample}
    (hsingle : ¬repeatsWindow sha256 loop sample)
    (hcompatible : ¬conflictsSeen sha256 loop sample)
    (hcollected : Collected sha256 policy.fields evaluatedAt loop.state.fields sample.fields) :
    samplePass sha256 policy priorState evaluatedAt loop sample=
      collectedPass sha256 policy priorState evaluatedAt (loop.record sha256 sample) sample
        ((sample.windowEndedAt-expectedStart policy.fields loop.state.fields)/policy.windowSeconds)
        (decide (expectedStart policy.fields loop.state.fields < sample.windowStartedAt)) := by
  have hremaining := hcollected.remaining
  have hordered := hcollected.ordered
  have hready := hcollected.ready
  have hobserved := hcollected.observedBy
  have hsettled := hcollected.settled
  have hstate : (loop.record sha256 sample).state=loop.state := rfl
  unfold samplePass
  rw [if_neg hsingle,if_neg hcompatible]
  unfold acceptedPass
  dsimp only
  rw [hstate,if_neg (by omega),if_neg (by simp [hcollected.inScope]),
    if_neg (not_not.mpr hcollected.onGrid),if_neg hcollected.fresh,if_neg hcollected.unseen]
  unfold orderedPass
  dsimp only
  rw [hstate,if_neg (by omega),if_neg (by omega),if_neg (by omega),if_neg (by omega)]

/-- An overrunning sample ends the evaluation with a state off the grid. -/
theorem samplePass_overruns {loop : LoopState} {sample : HealthWindowSample}
    (hknown : stateMatches policy.fields loop.state.fields=true)
    (h : Overruns sha256 policy evaluatedAt loop sample) :
    ∃ record,samplePass sha256 policy priorState evaluatedAt loop sample=
        .ok (.returned record) ∧ stateMatches policy.fields record.state.fields=false := by
  have hwindow := (policyBounds policy).window
  have hwindows := (policyBounds policy).windows
  have hremaining := h.collected.remaining
  have hbeyond := h.beyond
  have hlength := h.collected.onGrid.1
  have hstart := expectedStart_of_matches hknown
  -- a matching state expects one of the first ten windows, so the sample leaves a gap
  have hgap : expectedStart policy.fields loop.state.fields < sample.windowStartedAt := by
    have hcount : loop.state.evaluatedWindows+1 ≤ maxWindows := by omega
    have hmul := Int.mul_le_mul_of_nonneg_right hcount (show 0 ≤ policy.windowSeconds by omega)
    rw [add_mul,one_mul] at hmul
    unfold horizon at hbeyond
    omega
  obtain ⟨advanced,hadvance,hadvanced⟩ :=
    advance_ok sha256 loop.state sample h.collected.elapsed (by omega)
  have hoff : stateMatches policy.fields (resetFields advanced.fields)=false := by
    rw [stateMatches_resetFields,hadvanced]
    apply Bool.eq_false_of_not_eq_true
    intro hmatches
    have hwithin := (stateMatches_consumeFields hknown h.collected).mp hmatches
    omega
  rw [samplePass_collected sha256 policy priorState evaluatedAt h.single h.compatible h.collected]
  unfold collectedPass
  have hstate : (loop.record sha256 sample).state=loop.state := rfl
  rw [hstate,hadvance]
  simp only [bind,Except.bind]
  split
  · obtain ⟨after,hgive,hfields⟩ := giveUp_ok policy priorState evaluatedAt .sampleLate advanced
      (loop.record sha256 sample).accepted sample true _
    refine ⟨_,hgive,?_⟩
    change stateMatches policy.fields after.fields=false
    rw [hfields]
    exact hoff
  · rw [if_pos (decide_eq_true hgap)]
    obtain ⟨after,hgive,hfields⟩ := giveUp_ok policy priorState evaluatedAt .windowGap advanced
      (loop.record sha256 sample).accepted sample true _
    refine ⟨_,hgive,?_⟩
    change stateMatches policy.fields after.fields=false
    rw [hfields]
    exact hoff

/-- From a matching state the loop ends in a matching state exactly when no
sample that it reaches overruns the tenth window. -/
theorem evaluateSamples_matches {samples : List HealthWindowSample} {loop : LoopState}
    {record : HealthEvaluationResult}
    (hknown : stateMatches policy.fields loop.state.fields=true) (hpending : PendingResult loop)
    (hrun : evaluateSamples sha256 policy priorState evaluatedAt loop samples=.ok record) :
    stateMatches policy.fields record.state.fields=true ↔
      WithinHorizon sha256 policy priorState evaluatedAt loop samples := by
  induction samples generalizing loop with
  | nil =>
    unfold evaluateSamples at hrun
    cases hlast : loop.lastResult with
    | none =>
      rw [hlast] at hrun
      cases hrun
    | some last =>
      rw [hlast] at hrun
      cases hrun
      rw [(hpending record hlast).1]
      exact ⟨fun _ => trivial,fun _ => hknown⟩
  | cons sample samples ih =>
    unfold WithinHorizon
    by_cases hoverruns : Overruns sha256 policy evaluatedAt loop sample
    · obtain ⟨other,hpass,hoff⟩ :=
        samplePass_overruns sha256 policy priorState evaluatedAt hknown hoverruns
      unfold evaluateSamples at hrun
      rw [hpass] at hrun
      cases hrun
      simp only [hoff,hoverruns,Bool.false_eq_true,not_true_eq_false,false_and]
    · obtain ⟨outcome,hpass,hspec⟩ :=
        samplePass_spec sha256 policy priorState evaluatedAt loop sample
      unfold evaluateSamples at hrun
      rw [hpass] at hrun ⊢
      simp only [hoverruns,not_false_eq_true,true_and,Except.ok.injEq]
      cases hspec with
      | skipped =>
        simp only [PassOutcome.continued.injEq,forall_eq']
        exact ih hknown hpending hrun
      | conflicted _ _ hfields _ =>
        cases hrun
        simp only [reduceCtorEq,false_implies,implies_true,iff_true]
        rw [hfields]
        exact hknown
      | accepted hsingle hcompatible heffect =>
        have hwithin : Collected sha256 policy.fields evaluatedAt loop.state.fields
            sample.fields → sample.windowEndedAt ≤ horizon policy.fields := by
          intro hcollected
          by_contra hbeyond
          exact hoverruns ⟨hsingle,hcompatible,hcollected,by omega⟩
        cases heffect with
        | returned heffect _ =>
          cases hrun
          simp only [reduceCtorEq,false_implies,implies_true,iff_true]
          exact stateMatches_effect hknown hwithin heffect
        | continued heffect _ hlast hstate hwait =>
          simp only [PassOutcome.continued.injEq,forall_eq']
          apply ih (stateMatches_effect hknown hwithin heffect) _ hrun
          intro other hother
          rw [hlast] at hother
          cases hother
          exact ⟨hstate,hwait⟩

/-- Once a record is pending, the loop always returns one. -/
theorem evaluateSamples_ok (samples : List HealthWindowSample) {loop : LoopState}
    (h : samples≠[] ∧ loop.seenWindows=[] ∨ loop.lastResult≠none) :
    ∃ record,evaluateSamples sha256 policy priorState evaluatedAt loop samples=.ok record := by
  induction samples generalizing loop with
  | nil =>
    rcases h with ⟨hne,-⟩ | hlast
    · exact absurd rfl hne
    · obtain ⟨record,hrecord⟩ := Option.ne_none_iff_exists'.mp hlast
      refine ⟨record,?_⟩
      unfold evaluateSamples
      rw [hrecord]
  | cons sample samples ih =>
    obtain ⟨outcome,hpass,hspec⟩ :=
      samplePass_spec sha256 policy priorState evaluatedAt loop sample
    unfold evaluateSamples
    rw [hpass]
    cases hspec with
    | skipped hrepeat =>
      rcases h with ⟨-,hnew⟩ | hlast
      · obtain ⟨prior,hprior,-⟩ := hrepeat
        rw [hnew] at hprior
        cases hprior
      · exact ih (.inr hlast)
    | conflicted => exact ⟨_,rfl⟩
    | accepted _ _ heffect =>
      cases heffect with
      | returned => exact ⟨_,rfl⟩
      | continued _ _ hlast _ _ => exact ih (.inr (by rw [hlast]; exact Option.some_ne_none _))

/-- A call with a safe evaluation time always returns a record. -/
theorem evaluateHealth_ok (samples : List HealthWindowSample)
    (htime : 0 ≤ evaluatedAt ∧ evaluatedAt ≤ maxSafeInteger) :
    ∃ record,evaluateHealth sha256 policy samples priorState evaluatedAt=.ok record := by
  rcases evaluateHealth_cases sha256 policy priorState evaluatedAt samples with
    ⟨henters,hloop⟩ | ⟨-,hnot,-⟩ | ⟨-,-,record,hrecord,-⟩
  · rw [hloop]
    exact evaluateSamples_ok sha256 policy priorState evaluatedAt _ (.inl ⟨henters.presented,rfl⟩)
  · exact absurd htime hnot
  · exact ⟨record,hrecord⟩

/-- From a matching state every call with a safe evaluation time returns a
constructible state, and the returned state matches the policy exactly when
the call does not run its loop into a collected sample whose window ends
after the tenth one. -/
theorem state_closure (samples : List HealthWindowSample)
    (hknown : stateMatches policy.fields priorState.fields=true) :
    (0 ≤ evaluatedAt ∧ evaluatedAt ≤ maxSafeInteger →
      ∃ record,evaluateHealth sha256 policy samples priorState evaluatedAt=.ok record) ∧
    ∀ record,evaluateHealth sha256 policy samples priorState evaluatedAt=.ok record →
      (record.state.fields.postInit=.ok () ∧
          stateMatches policy.fields record.state.fields=true ↔
        (EntersLoop policy priorState evaluatedAt samples →
          WithinHorizon sha256 policy priorState evaluatedAt {state := priorState}
            samples.eraseDups)) := by
  refine ⟨evaluateHealth_ok sha256 policy priorState evaluatedAt samples,?_⟩
  intro record hrun
  rw [and_iff_right record.state.accepted]
  rcases evaluateHealth_cases sha256 policy priorState evaluatedAt samples with
    ⟨henters,hloop⟩ | ⟨-,-,raised,hraised⟩ | ⟨henters,-,other,hother,hundecided⟩
  · rw [hloop] at hrun
    rw [evaluateSamples_matches sha256 policy priorState evaluatedAt hknown
      (fun _ hnone => by cases hnone) hrun]
    simp only [henters,true_implies]
  · rw [hraised] at hrun
    cases hrun
  · rw [hother] at hrun
    cases hrun
    simp only [henters,false_implies,iff_true]
    rcases hundecided.1 with hfields | hfields
    · rw [hfields]
      exact hknown
    · rw [hfields]
      exact hknown

end

/-- The complete sample of the fifteenth window. -/
def fifteenthMinute : HealthWindowSample := ⟨minuteSampleFields 15,rfl⟩

/-- A call on the empty state that presents the fifteenth window first returns
a state that the same policy rejects as foreign in the next call. -/
theorem state_closure_refuted :
    ∃ record next,stateMatches minutePolicy.fields (emptyState minutePolicy).fields=true ∧
      evaluateHealth minuteSha256 minutePolicy [fifteenthMinute] (emptyState minutePolicy) 1920=
        .ok record ∧
      stateMatches minutePolicy.fields record.state.fields=false ∧
      evaluateHealth minuteSha256 minutePolicy [] record.state 1980=.ok next ∧
      next.reasons=[.stateScopeMismatch] :=
  ⟨_,_,rfl,rfl,rfl,rfl,rfl⟩

/-- The first minute keeps the empty state of its policy on the grid. -/
theorem state_closure_minute :
    ∃ record,evaluateHealth minuteSha256 minutePolicy [firstMinute] (emptyState minutePolicy)
        1080=.ok record ∧
      (record.state.fields.postInit=.ok () ∧
          stateMatches minutePolicy.fields record.state.fields=true ↔
        (EntersLoop minutePolicy (emptyState minutePolicy) 1080 [firstMinute] →
          WithinHorizon minuteSha256 minutePolicy (emptyState minutePolicy) 1080
            {state := emptyState minutePolicy} [firstMinute].eraseDups)) :=
  ⟨_,rfl,(state_closure minuteSha256 minutePolicy (emptyState minutePolicy) 1080 [firstMinute]
    rfl).2 _ rfl⟩

end ControlGraph.HealthClosure
