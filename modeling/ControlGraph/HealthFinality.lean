import ControlGraph.HealthClosure

/-!
# Progress and finality of the health evaluation

Every pass of every call of a run is recorded with the state before and after
it. Between two passes a state is at most reset, so the windows and the end of
the last window never go back and every sample set stays consumed. A pass that
raises a streak consumes a window after all earlier ones. Once a call decides
healthy or unhealthy, its state still belongs to the policy and carries the met
streak, and no later call moves it.
-/

namespace ControlGraph.HealthFinality

open Checks ContractText HealthWindows HealthEvaluator HealthPasses HealthStreaks HealthClosure

/-- One pass of the loop, with the state before and after it. -/
structure HealthPass where
  before : HealthEvaluationState
  sample : HealthWindowSample
  after : HealthEvaluationState

/-- A pass counts when it raises a streak. -/
def HealthPass.Counts (pass : HealthPass) : Prop :=
  pass.before.consecutiveHealthyWindows < pass.after.consecutiveHealthyWindows ∨
    pass.before.consecutiveUnhealthyWindows < pass.after.consecutiveUnhealthyWindows

instance : DecidablePred HealthPass.Counts := fun pass =>
  inferInstanceAs (Decidable (pass.before.consecutiveHealthyWindows<
    pass.after.consecutiveHealthyWindows ∨ _))

/-- A state is left alone or its streaks are reset. -/
def Untouched (before after : HealthEvaluationStateFields) : Prop :=
  after=before ∨ after=resetFields before

/-- Windows, the end of the last window and the consumed sample sets only grow. -/
structure Grows (before after : HealthEvaluationStateFields) : Prop where
  windows : before.evaluatedWindows ≤ after.evaluatedWindows
  /-- The last window does not move back. -/
  ended : ∀ ended∈before.lastWindowEndedAt,∃ later∈after.lastWindowEndedAt,ended ≤ later
  sampleSets : ∀ digest∈before.consumedSampleSetSha256s,digest∈after.consumedSampleSetSha256s

section

variable (sha256 : List UInt8 → Sha256Digest) (policy : HealthPolicy)

/-- What a pass that raises a streak has consumed. -/
structure Counted (before : HealthEvaluationStateFields) (sample : HealthWindowSampleFields)
    (after : HealthEvaluationStateFields) : Prop where
  /-- The window ends after the last one. -/
  later : ∀ ended∈before.lastWindowEndedAt,ended < sample.windowEndedAt
  /-- The window is the last one from here on. -/
  consumed : after.lastWindowEndedAt=some sample.windowEndedAt ∧
    before.evaluatedWindows < after.evaluatedWindows
  raised : after.consecutiveHealthyWindows ≤ before.consecutiveHealthyWindows+1 ∧
    after.consecutiveUnhealthyWindows ≤ before.consecutiveUnhealthyWindows+1
  observation : before.lastObservationSha256≠some sample.observationSha256
  sampleSet : ∃ digest,sampleSetSha256 sha256 sample.sampleSha256s=some digest ∧
    digest∉before.consumedSampleSetSha256s ∧ digest∈after.consumedSampleSetSha256s

def loopPasses (priorState : HealthEvaluationState) (evaluatedAt : Int) :
    LoopState → List HealthWindowSample → List HealthPass
  | _,[] => []
  | loop,sample::samples =>
    match samplePass sha256 policy priorState evaluatedAt loop sample with
    | .error _ => []
    | .ok (.returned record) => [⟨loop.state,sample,record.state⟩]
    | .ok (.continued next) =>
      ⟨loop.state,sample,next.state⟩::
        loopPasses priorState evaluatedAt next samples

/-- Passes of one call; a call that stops at a guard has none. -/
def callPasses (priorState : HealthEvaluationState) (call : HealthCall) : List HealthPass :=
  if EntersLoop policy priorState call.evaluatedAt call.samples then
    loopPasses sha256 policy priorState call.evaluatedAt {state := priorState}
      call.samples.eraseDups
  else []

/-- Passes of a sequence of calls. -/
def runPasses (state : HealthEvaluationState) : List HealthCall → List HealthPass
  | [] => []
  | call::calls =>
    match evaluateHealth sha256 policy call.samples state call.evaluatedAt with
    | .error _ => runPasses state calls
    | .ok record => callPasses sha256 policy state call++runPasses record.state calls

/-- Records that a sequence of calls returns. -/
def runRecords (state : HealthEvaluationState) : List HealthCall → List HealthEvaluationResult
  | [] => []
  | call::calls =>
    match evaluateHealth sha256 policy call.samples state call.evaluatedAt with
    | .error _ => runRecords state calls
    | .ok record => record::runRecords record.state calls

/-- Passes from one state to another, with nothing but resets between them. -/
def PassChain (start : HealthEvaluationStateFields) :
    List HealthPass → HealthEvaluationStateFields → Prop
  | [],finish => Untouched start finish
  | pass::passes,finish =>
    Untouched start pass.before.fields ∧
      (∃ evaluatedAt,StateEffect sha256 policy.fields evaluatedAt pass.before.fields
        pass.sample.fields pass.after.fields) ∧
      PassChain pass.after.fields passes finish

end

/-- A record that promotes or recovers. -/
def Decided (record : HealthEvaluationResult) : Prop :=
  record.decision=.healthy ∨ record.decision=.unhealthy

instance : DecidablePred Decided := fun record =>
  inferInstanceAs (Decidable (record.decision=.healthy ∨ record.decision=.unhealthy))

/-- Leaving alone and resetting compose. -/
theorem Untouched.trans {first second third : HealthEvaluationStateFields}
    (h : Untouched first second) (hnext : Untouched second third) : Untouched first third := by
  rcases h with rfl | rfl
  · exact hnext
  · rcases hnext with rfl | rfl
    · exact .inr rfl
    · exact .inr (resetFields_resetFields first)

/-- Nothing is taken back by doing nothing. -/
theorem Grows.refl (state : HealthEvaluationStateFields) : Grows state state :=
  ⟨le_refl _,fun ended hended => ⟨ended,hended,le_refl _⟩,fun _ hdigest => hdigest⟩

/-- Growth composes. -/
theorem Grows.trans {first second third : HealthEvaluationStateFields} (h : Grows first second)
    (hnext : Grows second third) : Grows first third := by
  refine ⟨le_trans h.windows hnext.windows,?_,fun digest hdigest =>
    hnext.sampleSets digest (h.sampleSets digest hdigest)⟩
  intro ended hended
  obtain ⟨middle,hmiddle,hle⟩ := h.ended ended hended
  obtain ⟨later,hlater,hle'⟩ := hnext.ended middle hmiddle
  exact ⟨later,hlater,le_trans hle hle'⟩

/-- A reset takes nothing back. -/
theorem Untouched.grows {before after : HealthEvaluationStateFields} (h : Untouched before after) :
    Grows before after := by
  have hrefl := Grows.refl before
  rcases h with rfl | rfl
  · exact hrefl
  · exact ⟨hrefl.windows,hrefl.ended,hrefl.sampleSets⟩

section

variable {sha256 : List UInt8 → Sha256Digest} {policy : HealthPolicy}

/-- Consuming a collected sample takes nothing back. -/
theorem grows_consumed {evaluatedAt : Int} {before : HealthEvaluationStateFields}
    {sample : HealthWindowSampleFields}
    (h : Collected sha256 policy.fields evaluatedAt before sample) :
    Grows before (consumeFields sha256 policy.fields before sample) := by
  have hcounts := h.counts
  have hlength := h.onGrid.1
  have hwindow := (policyBounds policy).window
  refine ⟨by omega,?_,?_⟩
  · intro ended hended
    have hordered := h.ordered
    rw [expectedStart,Option.mem_def.mp hended] at hordered
    have hstart : ended ≤ sample.windowStartedAt := hordered
    exact ⟨sample.windowEndedAt,rfl,by omega⟩
  · intro digest hdigest
    rcases advanceFields_consumed sha256 before sample.windowEndedAt
        (some sample.observationSha256) sample.sampleSha256s
        ((sample.windowEndedAt-expectedStart policy.fields before)/policy.windowSeconds) with
      hsame | ⟨other,-,-,hmore⟩
    · rw [consumeFields,hsame]
      exact hdigest
    · rw [consumeFields,hmore]
      exact List.mem_append_left _ hdigest

/-- No effect of a pass takes anything back. -/
theorem grows_effect {evaluatedAt : Int} {before after : HealthEvaluationStateFields}
    {sample : HealthWindowSampleFields}
    (h : StateEffect sha256 policy.fields evaluatedAt before sample after) :
    Grows before after := by
  cases h with
  | kept => exact Grows.refl before
  | reset => exact Untouched.grows (.inr rfl)
  | consumed hcollected => exact (grows_consumed hcollected).trans (Untouched.grows (.inr rfl))
  | healthy hqualified _ =>
    have hgrows := grows_consumed hqualified.toCollected
    exact ⟨hgrows.windows,hgrows.ended,hgrows.sampleSets⟩
  | unhealthy hqualified _ =>
    have hgrows := grows_consumed hqualified.toCollected
    exact ⟨hgrows.windows,hgrows.ended,hgrows.sampleSets⟩

theorem consumed_sampleSet {evaluatedAt : Int} {before : HealthEvaluationStateFields}
    {sample : HealthWindowSample}
    (h : Qualified sha256 policy.fields evaluatedAt before sample.fields) :
    ∃ digest,sampleSetSha256 sha256 sample.sampleSha256s=some digest ∧
      digest∉before.consumedSampleSetSha256s ∧
      digest∈(consumeFields sha256 policy.fields before sample.fields).consumedSampleSetSha256s := by
  have hsamples : sample.sampleSha256s≠[] := by
    have haccepted := sample.accepted
    unfold HealthWindowSampleFields.postInit at haccepted
    simp only [check_bind_eq_ok,require_eq_ok,forM_eq_ok] at haccepted
    have htwo : ¬(sample.complete=true ∧ sample.sampleSha256s.length<2) := by tauto
    intro hnone
    exact htwo ⟨h.whole,by rw [hnone]; simp⟩
  cases hset : sampleSetSha256 sha256 sample.sampleSha256s with
  | none =>
    rw [sampleSetSha256,if_neg hsamples] at hset
    cases hset
  | some digest =>
    have hfresh : digest∉before.consumedSampleSetSha256s := by
      intro hmem
      exact h.fresh ⟨h.unanimous,.inr ⟨digest,hset,hmem⟩⟩
    refine ⟨digest,rfl,hfresh,?_⟩
    unfold consumeFields advanceFields
    dsimp only
    rw [hset]
    dsimp only
    rw [if_neg hfresh]
    exact List.mem_append_right _ List.mem_cons_self

/-- A qualified sample that is consumed ends after the last window. -/
theorem counted_qualified {evaluatedAt : Int} {before after : HealthEvaluationStateFields}
    {sample : HealthWindowSample}
    (h : Qualified sha256 policy.fields evaluatedAt before sample.fields)
    (hended : after.lastWindowEndedAt=some sample.windowEndedAt)
    (hwindows : after.evaluatedWindows=
      (consumeFields sha256 policy.fields before sample.fields).evaluatedWindows)
    (hraised : after.consecutiveHealthyWindows ≤ before.consecutiveHealthyWindows+1 ∧
      after.consecutiveUnhealthyWindows ≤ before.consecutiveUnhealthyWindows+1)
    (hsets : after.consumedSampleSetSha256s=
      (consumeFields sha256 policy.fields before sample.fields).consumedSampleSetSha256s) :
    Counted sha256 before sample.fields after := by
  have hcounts := h.toCollected.counts
  have hlength := h.onGrid.1
  have hwindow := (policyBounds policy).window
  constructor
  · intro ended hlast
    have hordered := h.ordered
    rw [expectedStart,Option.mem_def.mp hlast] at hordered
    have hstart : ended ≤ sample.windowStartedAt := hordered
    omega
  · exact ⟨hended,by omega⟩
  · exact hraised
  · intro hsame
    exact h.fresh ⟨h.unanimous,.inl hsame.symm⟩
  · rw [hsets]
    exact consumed_sampleSet h

theorem streaks_nonneg (state : HealthEvaluationState) :
    0 ≤ state.consecutiveHealthyWindows ∧ 0 ≤ state.consecutiveUnhealthyWindows := by
  have hcounters := (state.fields.postInit_eq_ok.mp state.accepted).2
  have hhealthy := hcounters.healthyRange
  have hunhealthy := hcounters.unhealthyRange
  omega

/-- An effect raises no streak, or it is the consumption of a counted window. -/
theorem counted_effect {evaluatedAt : Int} {before after : HealthEvaluationStateFields}
    {sample : HealthWindowSample}
    (hbefore : 0 ≤ before.consecutiveHealthyWindows ∧ 0 ≤ before.consecutiveUnhealthyWindows)
    (h : StateEffect sha256 policy.fields evaluatedAt before sample.fields after) :
    (after.consecutiveHealthyWindows ≤ before.consecutiveHealthyWindows ∧
      after.consecutiveUnhealthyWindows ≤ before.consecutiveUnhealthyWindows) ∨
    Counted sha256 before sample.fields after := by
  cases h with
  | kept => exact .inl ⟨le_refl _,le_refl _⟩
  | reset => exact .inl hbefore
  | consumed hcollected => exact .inl hbefore
  | healthy hqualified _ =>
    refine .inr (counted_qualified hqualified rfl rfl ?_ rfl)
    simp only [healthyFields]
    omega
  | unhealthy hqualified _ =>
    refine .inr (counted_qualified hqualified rfl rfl ?_ rfl)
    simp only [unhealthyFields]
    omega

theorem PassChain.untouched {start next finish : HealthEvaluationStateFields}
    {passes : List HealthPass} (h : Untouched start next)
    (hchain : PassChain sha256 policy next passes finish) :
    PassChain sha256 policy start passes finish := by
  cases passes with
  | nil => exact Untouched.trans h hchain
  | cons pass passes => exact ⟨Untouched.trans h hchain.1,hchain.2⟩

theorem PassChain.append {start middle finish : HealthEvaluationStateFields}
    {passes later : List HealthPass} (h : PassChain sha256 policy start passes middle)
    (hlater : PassChain sha256 policy middle later finish) :
    PassChain sha256 policy start (passes++later) finish := by
  induction passes generalizing start with
  | nil => exact PassChain.untouched h hlater
  | cons pass passes ih => exact ⟨h.1,h.2.1,ih h.2.2⟩

theorem loopPasses_chain {priorState : HealthEvaluationState} {evaluatedAt : Int}
    {samples : List HealthWindowSample} {loop : LoopState} {record : HealthEvaluationResult}
    (hpending : PendingResult loop)
    (hrun : evaluateSamples sha256 policy priorState evaluatedAt loop samples=.ok record) :
    PassChain sha256 policy loop.state.fields
      (loopPasses sha256 policy priorState evaluatedAt loop samples) record.state.fields := by
  induction samples generalizing loop with
  | nil =>
    unfold evaluateSamples at hrun
    cases hlast : loop.lastResult with
    | none =>
      rw [hlast] at hrun
      cases hrun
    | some last =>
      rw [hlast] at hrun
      cases hrun
      exact .inl (congrArg (·.fields) (hpending record hlast).1)
  | cons sample samples ih =>
    obtain ⟨outcome,hpass,hspec⟩ :=
      samplePass_spec sha256 policy priorState evaluatedAt loop sample
    unfold evaluateSamples at hrun
    unfold loopPasses
    rw [hpass] at hrun ⊢
    cases hspec with
    | skipped => exact ⟨.inl rfl,⟨evaluatedAt,.kept⟩,ih hpending hrun⟩
    | conflicted _ _ hfields _ =>
      cases hrun
      refine ⟨.inl rfl,⟨evaluatedAt,?_⟩,.inl rfl⟩
      rw [hfields]
      exact .reset
    | accepted _ _ heffect =>
      cases heffect with
      | returned heffect _ =>
        cases hrun
        exact ⟨.inl rfl,⟨evaluatedAt,heffect⟩,.inl rfl⟩
      | continued heffect _ hlast hstate hwait =>
        refine ⟨.inl rfl,⟨evaluatedAt,heffect⟩,ih ?_ hrun⟩
        intro other hother
        rw [hlast] at hother
        cases hother
        exact ⟨hstate,hwait⟩

theorem callPasses_chain {state : HealthEvaluationState} {call : HealthCall}
    {record : HealthEvaluationResult}
    (hrun : evaluateHealth sha256 policy call.samples state call.evaluatedAt=.ok record) :
    PassChain sha256 policy state.fields (callPasses sha256 policy state call)
      record.state.fields := by
  unfold callPasses
  rcases evaluateHealth_cases sha256 policy state call.evaluatedAt call.samples with
    ⟨henters,hloop⟩ | ⟨-,-,raised,hraised⟩ | ⟨henters,-,other,hother,hundecided⟩
  · rw [if_pos henters]
    rw [hloop] at hrun
    exact @loopPasses_chain _ _ _ _ _ {state := state} _ (fun _ hnone => by cases hnone) hrun
  · rw [hraised] at hrun
    cases hrun
  · rw [hother] at hrun
    cases hrun
    rw [if_neg henters]
    exact hundecided.1

theorem runPasses_chain (run : HealthRun) (calls : List HealthCall) :
    PassChain sha256 policy run.state.fields (runPasses sha256 policy run.state calls)
      (run.calls sha256 policy calls).state.fields := by
  induction calls generalizing run with
  | nil => exact .inl rfl
  | cons call calls ih =>
    have hnext := ih (run.step sha256 policy call)
    unfold HealthRun.calls runPasses
    cases hcall : evaluateHealth sha256 policy call.samples run.state call.evaluatedAt with
    | error raised =>
      have hstep : run.step sha256 policy call=run := by
        unfold HealthRun.step
        rw [hcall]
      rw [hstep] at hnext ⊢
      exact hnext
    | ok record =>
      have hstep : (run.step sha256 policy call).state=record.state := by
        unfold HealthRun.step
        rw [hcall]
      rw [hstep] at hnext
      exact (callPasses_chain hcall).append hnext

/-- Along a chain nothing is taken back. -/
theorem PassChain.grows {start finish : HealthEvaluationStateFields} {passes : List HealthPass}
    (h : PassChain sha256 policy start passes finish) : Grows start finish := by
  induction passes generalizing start with
  | nil => exact Untouched.grows h
  | cons pass passes ih =>
    obtain ⟨huntouched,⟨evaluatedAt,heffect⟩,hrest⟩ := h
    exact huntouched.grows.trans ((grows_effect heffect).trans (ih hrest))

/-- Every pass of a chain comes after its start. -/
theorem PassChain.before {start finish : HealthEvaluationStateFields} {passes : List HealthPass}
    (h : PassChain sha256 policy start passes finish) {pass : HealthPass} (hpass : pass∈passes) :
    Grows start pass.before.fields := by
  induction passes generalizing start with
  | nil => cases hpass
  | cons first passes ih =>
    obtain ⟨huntouched,⟨evaluatedAt,heffect⟩,hrest⟩ := h
    rcases List.mem_cons.mp hpass with rfl | hpass
    · exact huntouched.grows
    · exact huntouched.grows.trans ((grows_effect heffect).trans (ih hrest hpass))

theorem PassChain.counted {start finish : HealthEvaluationStateFields} {passes : List HealthPass}
    (h : PassChain sha256 policy start passes finish) {pass : HealthPass} (hpass : pass∈passes)
    (hcounts : pass.Counts) :
    Counted sha256 pass.before.fields pass.sample.fields pass.after.fields := by
  induction passes generalizing start with
  | nil => cases hpass
  | cons first passes ih =>
    obtain ⟨-,⟨evaluatedAt,heffect⟩,hrest⟩ := h
    rcases List.mem_cons.mp hpass with rfl | hpass
    · rcases counted_effect (streaks_nonneg pass.before) heffect with ⟨hhealthy,hunhealthy⟩ | hcounted
      · unfold HealthPass.Counts at hcounts
        omega
      · exact hcounted
    · exact ih hrest hpass

/-- Windows that count end in order and have their own sample sets. -/
def Distinct (sha256 : List UInt8 → Sha256Digest) (earlier later : HealthPass) : Prop :=
  earlier.sample.windowEndedAt < later.sample.windowEndedAt ∧
    sampleSetSha256 sha256 earlier.sample.sampleSha256s≠
      sampleSetSha256 sha256 later.sample.sampleSha256s

theorem PassChain.distinct {start finish : HealthEvaluationStateFields} {passes : List HealthPass}
    (h : PassChain sha256 policy start passes finish) :
    (passes.filter (·.Counts)).Pairwise (Distinct sha256) := by
  induction passes generalizing start with
  | nil => exact List.Pairwise.nil
  | cons first passes ih =>
    have hfirst := fun hcounts => @PassChain.counted _ _ _ _ _ h first List.mem_cons_self hcounts
    obtain ⟨-,-,hrest⟩ := h
    by_cases hcounts : first.Counts
    · rw [List.filter_cons_of_pos (by simpa using hcounts),List.pairwise_cons]
      refine ⟨?_,ih hrest⟩
      intro later hlater
      obtain ⟨hmem,hlaterCounts⟩ := List.mem_filter.mp hlater
      have hcounted := PassChain.counted hrest hmem (of_decide_eq_true hlaterCounts)
      have hgrows := PassChain.before hrest hmem
      have hfirst := hfirst hcounts
      constructor
      · obtain ⟨last,hlast,hle⟩ := hgrows.ended _ (Option.mem_def.mpr hfirst.consumed.1)
        have hlt := hcounted.later last hlast
        exact lt_of_le_of_lt hle hlt
      · obtain ⟨digest,hset,-,hconsumed⟩ := hfirst.sampleSet
        obtain ⟨other,hother,hnew,-⟩ := hcounted.sampleSet
        intro hsame
        rw [hset,hother] at hsame
        cases hsame
        exact hnew (hgrows.sampleSets digest hconsumed)
    · rw [List.filter_cons_of_neg (by simpa using hcounts)]
      exact ih hrest

/-- Streaks exceed those at the start by at most the windows that count. -/
theorem PassChain.raised {start finish : HealthEvaluationStateFields} {passes : List HealthPass}
    (hstart : 0 ≤ start.consecutiveHealthyWindows ∧ 0 ≤ start.consecutiveUnhealthyWindows)
    (h : PassChain sha256 policy start passes finish) :
    finish.consecutiveHealthyWindows≤
        start.consecutiveHealthyWindows+(passes.filter (·.Counts)).length ∧
      finish.consecutiveUnhealthyWindows≤
        start.consecutiveUnhealthyWindows+(passes.filter (·.Counts)).length := by
  have huntouched : ∀ {before after : HealthEvaluationStateFields},Untouched before after →
      0 ≤ before.consecutiveHealthyWindows ∧ 0 ≤ before.consecutiveUnhealthyWindows →
      after.consecutiveHealthyWindows ≤ before.consecutiveHealthyWindows ∧
        after.consecutiveUnhealthyWindows ≤ before.consecutiveUnhealthyWindows := by
    intro before after hsame hbefore
    rcases hsame with rfl | rfl
    · exact ⟨le_refl _,le_refl _⟩
    · exact hbefore
  induction passes generalizing start with
  | nil =>
    have hsame := huntouched h hstart
    simpa using hsame
  | cons pass passes ih =>
    have hcounted := fun hcounts => @PassChain.counted _ _ _ _ _ h pass List.mem_cons_self hcounts
    obtain ⟨hsame,⟨evaluatedAt,heffect⟩,hrest⟩ := h
    have hbefore := huntouched hsame hstart
    have hafter := ih (streaks_nonneg pass.after) hrest
    by_cases hcounts : pass.Counts
    · have hraised := (hcounted hcounts).raised
      rw [List.filter_cons_of_pos (by simpa using hcounts),List.length_cons]
      push_cast
      omega
    · rw [List.filter_cons_of_neg (by simpa using hcounts)]
      unfold HealthPass.Counts at hcounts
      omega

/-- Observations of one loop that count are new to it and differ from each other. -/
theorem loopPasses_observations {priorState : HealthEvaluationState} {evaluatedAt : Int}
    {samples : List HealthWindowSample} {loop : LoopState} :
    let counted := (loopPasses sha256 policy priorState evaluatedAt loop samples).filter (·.Counts)
    (∀ pass∈counted,loop.seenDigests.lookup pass.sample.observationSha256=none) ∧
      counted.Pairwise (fun earlier later =>
        earlier.sample.observationSha256≠later.sample.observationSha256) := by
  induction samples generalizing loop with
  | nil => exact ⟨List.forall_mem_nil _,List.Pairwise.nil⟩
  | cons sample samples ih =>
    obtain ⟨outcome,hpass,hspec⟩ :=
      samplePass_spec sha256 policy priorState evaluatedAt loop sample
    unfold loopPasses
    rw [hpass]
    cases hspec with
    | skipped =>
      have hsame : ¬HealthPass.Counts ⟨loop.state,sample,loop.state⟩ := by
        simp [HealthPass.Counts]
      dsimp only
      rw [List.filter_cons_of_neg (by simpa using hsame)]
      exact ih
    | @conflicted record _ _ hfields _ =>
      have hsame : ¬HealthPass.Counts ⟨loop.state,sample,record.state⟩ := by
        have hnonneg := streaks_nonneg loop.state
        unfold HealthPass.Counts
        rw [hfields]
        simp only [resetFields]
        omega
      dsimp only
      rw [List.filter_cons_of_neg (by simpa using hsame)]
      exact ⟨List.forall_mem_nil _,List.Pairwise.nil⟩
    | accepted hsingle hcompatible heffect =>
      have hnew : loop.seenDigests.lookup sample.observationSha256=none := by
        by_contra hseen
        exact hcompatible (.inr (.inl (Option.isSome_iff_ne_none.mpr hseen)))
      cases heffect with
      | returned heffect _ =>
        dsimp only
        refine ⟨?_,(List.pairwise_singleton _ _).sublist List.filter_sublist⟩
        intro pass hmem
        rw [List.mem_singleton.mp (List.mem_of_mem_filter hmem)]
        exact hnew
      | @continued next record heffect _ hlast hstate hwait =>
        have hseen : next.seenDigests=(sample.observationSha256,sample)::loop.seenDigests := by
          unfold samplePass at hpass
          rw [if_neg hsingle,if_neg hcompatible] at hpass
          exact (acceptedPass_seen sha256 policy priorState evaluatedAt hpass).digests
        obtain ⟨hlater,hpairs⟩ := @ih next
        rw [hseen] at hlater
        have hdiffer : ∀ pass∈(loopPasses sha256 policy priorState evaluatedAt next
            samples).filter (·.Counts),
            pass.sample.observationSha256≠sample.observationSha256 ∧
              loop.seenDigests.lookup pass.sample.observationSha256=none := by
          intro pass hmem
          have hlookup := hlater pass hmem
          rw [List.lookup_cons] at hlookup
          split at hlookup
          · cases hlookup
          · rename_i hother
            exact ⟨by simpa using hother,hlookup⟩
        dsimp only
        by_cases hcounts : HealthPass.Counts ⟨loop.state,sample,next.state⟩
        · rw [List.filter_cons_of_pos (by simpa using hcounts)]
          refine ⟨?_,List.pairwise_cons.mpr ⟨fun pass hmem => (hdiffer pass hmem).1.symm,hpairs⟩⟩
          intro pass hmem
          rcases List.mem_cons.mp hmem with rfl | hmem
          · exact hnew
          · exact (hdiffer pass hmem).2
        · rw [List.filter_cons_of_neg (by simpa using hcounts)]
          exact ⟨fun pass hmem => (hdiffer pass hmem).2,hpairs⟩

theorem callPasses_observations (state : HealthEvaluationState) (call : HealthCall) :
    ((callPasses sha256 policy state call).filter (·.Counts)).Pairwise (fun earlier later =>
      earlier.sample.observationSha256≠later.sample.observationSha256) := by
  unfold callPasses
  split
  · exact loopPasses_observations.2
  · exact List.Pairwise.nil

/-- A qualified sample keeps a matching state on the grid. -/
theorem matches_qualified {evaluatedAt : Int} {before after : HealthEvaluationStateFields}
    {sample : HealthWindowSampleFields} (hbefore : stateMatches policy.fields before=true)
    (hqualified : Qualified sha256 policy.fields evaluatedAt before sample)
    (heffect : StateEffect sha256 policy.fields evaluatedAt before sample after) :
    stateMatches policy.fields after=true := by
  refine stateMatches_effect hbefore (fun _ => ?_) heffect
  have hlimit := (policyBounds policy).windows
  have hwindow := (policyBounds policy).window
  have hremaining := hqualified.remaining
  have hlength := hqualified.onGrid.1
  have hstart := hqualified.consecutive
  rw [expectedStart_of_matches hbefore] at hstart
  have hmul := Int.mul_le_mul_of_nonneg_right
    (show before.evaluatedWindows+1 ≤ maxWindows by omega) (show 0 ≤ policy.windowSeconds by omega)
  rw [add_mul,one_mul] at hmul
  unfold horizon
  omega

/-- A record that decides carries a met streak of a state on the grid. -/
theorem decided_effect {evaluatedAt : Int} {before : HealthEvaluationStateFields}
    {sample : HealthWindowSampleFields} {record : HealthEvaluationResult}
    (hbefore : stateMatches policy.fields before=true)
    (heffect : StateEffect sha256 policy.fields evaluatedAt before sample record.state.fields)
    (hsupported : Supported policy.fields record) (hdecided : Decided record) :
    stateMatches policy.fields record.state.fields=true ∧
      streakTerminal policy.fields record.state.fields := by
  have hterminal : streakTerminal policy.fields record.state.fields := by
    rcases hdecided with hhealthy | hunhealthy
    · exact .inl (hsupported.healthy hhealthy).1
    · exact .inr (hsupported.unhealthy hunhealthy).1
  refine ⟨?_,hterminal⟩
  have hhealthy := (policyBounds policy).healthy
  have hunhealthy := (policyBounds policy).unhealthy
  generalize hafter : record.state.fields=after at heffect hterminal ⊢
  cases heffect with
  | kept => exact hbefore
  | reset => exact hbefore
  | consumed hcollected =>
    simp only [streakTerminal,resetFields] at hterminal
    omega
  | healthy hqualified hmeets => exact matches_qualified hbefore hqualified (.healthy hqualified hmeets)
  | unhealthy hqualified hreasons =>
    exact matches_qualified hbefore hqualified (.unhealthy hqualified hreasons)

/-- A loop on a matching state that decides ends on the grid with a met streak. -/
theorem evaluateSamples_decided {priorState : HealthEvaluationState} {evaluatedAt : Int}
    {samples : List HealthWindowSample} {loop : LoopState} {record : HealthEvaluationResult}
    (hknown : stateMatches policy.fields loop.state.fields=true)
    (hlive : ¬streakTerminal policy.fields loop.state.fields) (hpending : PendingResult loop)
    (hrun : evaluateSamples sha256 policy priorState evaluatedAt loop samples=.ok record)
    (hdecided : Decided record) :
    stateMatches policy.fields record.state.fields=true ∧
      streakTerminal policy.fields record.state.fields := by
  induction samples generalizing loop with
  | nil =>
    unfold evaluateSamples at hrun
    cases hlast : loop.lastResult with
    | none =>
      rw [hlast] at hrun
      cases hrun
    | some last =>
      rw [hlast] at hrun
      cases hrun
      have hwait := (hpending record hlast).2
      simp [Decided,hwait] at hdecided
  | cons sample samples ih =>
    obtain ⟨outcome,hpass,hspec⟩ :=
      samplePass_spec sha256 policy priorState evaluatedAt loop sample
    unfold evaluateSamples at hrun
    rw [hpass] at hrun
    cases hspec with
    | skipped => exact ih hknown hlive hpending hrun
    | conflicted _ _ _ hinsufficient =>
      cases hrun
      simp [Decided,hinsufficient] at hdecided
    | accepted hsingle hcompatible heffect =>
      cases heffect with
      | returned heffect hsupported =>
        cases hrun
        exact decided_effect hknown heffect hsupported hdecided
      | continued heffect hlater hlast hstate hwait =>
        -- An overrunning sample would have ended the evaluation.
        have hwithin : Collected sha256 policy.fields evaluatedAt loop.state.fields
            sample.fields → sample.windowEndedAt ≤ horizon policy.fields := by
          intro hcollected
          by_contra hbeyond
          obtain ⟨other,hreturned,-⟩ := samplePass_overruns sha256 policy priorState evaluatedAt
            hknown ⟨hsingle,hcompatible,hcollected,by omega⟩
          rw [hreturned] at hpass
          cases hpass
        refine ih (stateMatches_effect hknown hwithin heffect) hlater ?_ hrun
        intro other hother
        rw [hlast] at hother
        cases hother
        exact ⟨hstate,hwait⟩

/-- A call that decides leaves a matching state with a met streak. -/
theorem evaluateHealth_decided {state : HealthEvaluationState} {samples : List HealthWindowSample}
    {evaluatedAt : Int} {record : HealthEvaluationResult}
    (hrun : evaluateHealth sha256 policy samples state evaluatedAt=.ok record)
    (hdecided : Decided record) :
    stateMatches policy.fields record.state.fields=true ∧
      streakTerminal policy.fields record.state.fields := by
  rcases evaluateHealth_cases sha256 policy state evaluatedAt samples with
    ⟨henters,hloop⟩ | ⟨-,-,raised,hraised⟩ | ⟨-,-,other,hother,hundecided⟩
  · rw [hloop] at hrun
    exact evaluateSamples_decided henters.known henters.undecided
      (fun _ hnone => by cases hnone) hrun hdecided
  · rw [hraised] at hrun
    cases hrun
  · rw [hother] at hrun
    cases hrun
    rcases hdecided with hhealthy | hunhealthy
    · exact absurd hhealthy hundecided.2.1
    · exact absurd hunhealthy hundecided.2.2

theorem healthRun_append (run : HealthRun) (earlier later : List HealthCall) :
    run.calls sha256 policy (earlier++later)=
      (run.calls sha256 policy earlier).calls sha256 policy later := by
  induction earlier generalizing run with
  | nil => rfl
  | cons call earlier ih => exact ih _

variable (sha256) in
/-- A call on a matching state with a met streak reports it as terminal. -/
theorem evaluateHealth_terminal {state : HealthEvaluationState}
    (hknown : stateMatches policy.fields state.fields=true)
    (hterminal : streakTerminal policy.fields state.fields) (samples : List HealthWindowSample)
    (evaluatedAt : Int) :
    evaluateHealth sha256 policy samples state evaluatedAt=
      (requireInt "evaluated_at" evaluatedAt 0 maxSafeInteger).map (fun _ =>
        result policy state evaluatedAt .insufficientEvidence [.stateTerminal] state
          samples.eraseDups) := by
  unfold evaluateHealth
  dsimp only
  rw [if_neg (by simp [hknown]),if_pos hterminal]
  cases requireInt "evaluated_at" evaluatedAt 0 maxSafeInteger with
  | ok checked => rfl
  | error raised => rfl

/-- From a matching state with a met streak a run goes nowhere. -/
theorem terminal_calls {run : HealthRun}
    (hknown : stateMatches policy.fields run.state.fields=true)
    (hterminal : streakTerminal policy.fields run.state.fields) (calls : List HealthCall) :
    (run.calls sha256 policy calls).state=run.state ∧
      ∀ record∈runRecords sha256 policy run.state calls,¬Decided record := by
  induction calls generalizing run with
  | nil => exact ⟨rfl,fun _ hrecord => (nomatch hrecord)⟩
  | cons call calls ih =>
    have hcall := evaluateHealth_terminal sha256 hknown hterminal call.samples call.evaluatedAt
    unfold HealthRun.calls runRecords HealthRun.step
    rw [hcall]
    cases requireInt "evaluated_at" call.evaluatedAt 0 maxSafeInteger with
    | error raised => exact ih hknown hterminal
    | ok checked =>
      dsimp only [Except.map]
      obtain ⟨hsame,hrecords⟩ := @ih ⟨run.state,run.consumed++
        (callConsumed sha256 policy run.state call).map (fun sample => ⟨call,sample⟩)⟩
        hknown hterminal
      refine ⟨hsame,?_⟩
      intro record hrecord
      rcases List.mem_cons.mp hrecord with rfl | hrecord
      · simp [Decided,result]
      · exact hrecords record hrecord

/-- A run makes at most one decision. -/
theorem decided_once (state : HealthEvaluationState) (calls : List HealthCall) :
    ((runRecords sha256 policy state calls).filter (Decided ·)).length ≤ 1 := by
  induction calls generalizing state with
  | nil => simp [runRecords]
  | cons call calls ih =>
    unfold runRecords
    cases hcall : evaluateHealth sha256 policy call.samples state call.evaluatedAt with
    | error raised => exact ih state
    | ok record =>
      by_cases hdecided : Decided record
      · obtain ⟨hknown,hterminal⟩ := evaluateHealth_decided hcall hdecided
        have hnone := (@terminal_calls sha256 policy ⟨record.state,[]⟩ hknown hterminal calls).2
        have hlater : (runRecords sha256 policy record.state calls).filter (Decided ·)=[] := by
          rw [List.filter_eq_nil_iff]
          intro other hother
          simpa using hnone other hother
        rw [List.filter_cons_of_pos (by simpa using hdecided),hlater]
        simp
      · rw [List.filter_cons_of_neg (by simpa using hdecided)]
        exact ih record.state

end

/-- Progress and finality of a run from the empty state. No call takes a window
or the end of the last window back, and a streak is raised only by consuming a
window after the last one, whose sample set is new and whose observation is
neither the last consumed one nor counted before in the call. Over the whole
run the counted windows end in order and have their own sample sets. A decision
is final: every later call reports a terminal state and leaves it alone. -/
theorem health_run_finality (sha256 : List UInt8 → Sha256Digest) (policy : HealthPolicy)
    (calls : List HealthCall) :
    let state := (healthRun sha256 policy calls).state
    (∀ (call : HealthCall) record,
      evaluateHealth sha256 policy call.samples state call.evaluatedAt=.ok record →
      let counted := (callPasses sha256 policy state call).filter (·.Counts)
      Grows state.fields record.state.fields ∧
      record.state.consecutiveHealthyWindows ≤ state.consecutiveHealthyWindows+counted.length ∧
      record.state.consecutiveUnhealthyWindows≤
        state.consecutiveUnhealthyWindows+counted.length ∧
      (∀ pass∈counted,Counted sha256 pass.before.fields pass.sample.fields pass.after.fields) ∧
      counted.Pairwise (fun earlier later =>
        earlier.sample.observationSha256≠later.sample.observationSha256) ∧
      (Decided record → ∀ (later : List HealthCall) (next : HealthCall),
        let final := (healthRun sha256 policy (calls++call::later)).state
        final=record.state ∧
        (0 ≤ next.evaluatedAt ∧ next.evaluatedAt ≤ maxSafeInteger → ∃ other,
          evaluateHealth sha256 policy next.samples final next.evaluatedAt=.ok other ∧
            other.decision=.insufficientEvidence ∧ other.reasons=[.stateTerminal] ∧
            other.state=final) ∧
        (¬(0 ≤ next.evaluatedAt ∧ next.evaluatedAt ≤ maxSafeInteger) → ∃ raised,
          evaluateHealth sha256 policy next.samples final next.evaluatedAt=.error raised))) ∧
    ((runPasses sha256 policy (emptyState policy) calls).filter (·.Counts)).Pairwise
      (Distinct sha256) ∧
    ((runRecords sha256 policy (emptyState policy) calls).filter (Decided ·)).length ≤ 1 := by
  intro state
  refine ⟨?_,(runPasses_chain ⟨emptyState policy,[]⟩ calls).distinct,decided_once _ calls⟩
  intro call record hcall counted
  have hchain := callPasses_chain hcall
  have hraised := hchain.raised (streaks_nonneg state)
  refine ⟨hchain.grows,hraised.1,hraised.2,?_,callPasses_observations state call,?_⟩
  · intro pass hpass
    obtain ⟨hmem,hcounts⟩ := List.mem_filter.mp hpass
    exact hchain.counted hmem (of_decide_eq_true hcounts)
  · intro hdecided later next final
    obtain ⟨hknown,hterminal⟩ := evaluateHealth_decided hcall hdecided
    have hstep : ((healthRun sha256 policy calls).step sha256 policy call).state=record.state := by
      unfold HealthRun.step
      rw [hcall]
    have hfinal : final=record.state := by
      have hsplit : healthRun sha256 policy (calls++call::later)=
          ((healthRun sha256 policy calls).step sha256 policy call).calls sha256 policy later := by
        unfold healthRun
        rw [healthRun_append]
        rfl
      have hstay := (@terminal_calls sha256 policy
        ((healthRun sha256 policy calls).step sha256 policy call) (hstep ▸ hknown)
        (hstep ▸ hterminal) later).1
      rw [← hstep,← hstay,← hsplit]
    have hnext := evaluateHealth_terminal sha256 hknown hterminal next.samples next.evaluatedAt
    refine ⟨hfinal,?_,?_⟩
    · intro htime
      have hrange : requireInt "evaluated_at" next.evaluatedAt 0 maxSafeInteger=.ok () :=
        requireInt_eq_ok.mpr htime
      rw [hrange] at hnext
      rw [hfinal]
      exact ⟨_,hnext,rfl,rfl,rfl⟩
    · intro htime
      rw [hfinal,hnext]
      cases hrange : requireInt "evaluated_at" next.evaluatedAt 0 maxSafeInteger with
      | ok checked => exact absurd (requireInt_eq_ok.mp hrange) htime
      | error raised => exact ⟨raised,rfl⟩

/-- A policy whose healthy streak takes three windows. -/
def threeMinutePolicy : HealthPolicy :=
  ⟨{minutePolicyFields with healthyConsecutiveWindows := 3},rfl⟩

/-- Sample of a window with a given observation and a sample set that ends in a
given digest. -/
def observedMinuteFields (windowIndex : Int) (observation sample : Char) :
    HealthWindowSampleFields :=
  {minuteSampleFields windowIndex with
    observationSha256 := repeatedDigest observation
    sampleSha256s := [repeatedDigest 'a',repeatedDigest sample]}

/-- A digest that tells sample sets apart by their last byte. -/
def lastByteSha256 : List UInt8 → Sha256Digest := fun bytes =>
  match bytes.getLast? with
  | some 0x11 => ⟨repeatedDigest '1',rfl⟩
  | some 0x22 => ⟨repeatedDigest '2',rfl⟩
  | _ => ⟨repeatedDigest '3',rfl⟩

/-- Samples of the first three windows; the third cites the first observation. -/
def observedMinutes : List HealthWindowSample :=
  [⟨observedMinuteFields 1 'd' '1',by decide +kernel⟩,
   ⟨observedMinuteFields 2 'e' '2',by decide +kernel⟩,
   ⟨observedMinuteFields 3 'd' '3',by decide +kernel⟩]

/-- One call for each of the three samples. -/
def repeatedObservation : List HealthCall :=
  observedMinutes.map (fun sample => ⟨[sample],sample.observedAt⟩)

/-- An observation digest that returns after another one is counted again. -/
theorem observation_counted_twice :
    ¬∀ sha256 policy calls,((runPasses sha256 policy (emptyState policy) calls).filter
      (·.Counts)).Pairwise (fun earlier later =>
        earlier.sample.observationSha256≠later.sample.observationSha256) := by
  intro h
  have hrun := h lastByteSha256 threeMinutePolicy repeatedObservation
  have hcited : ((runPasses lastByteSha256 threeMinutePolicy (emptyState threeMinutePolicy)
      repeatedObservation).filter (·.Counts)).map (·.sample.observationSha256)=
        [repeatedDigest 'd',repeatedDigest 'e',repeatedDigest 'd'] := by decide +kernel
  have hcited' := List.pairwise_map.mpr hrun
  rw [hcited] at hcited'
  revert hcited'
  decide

end ControlGraph.HealthFinality
