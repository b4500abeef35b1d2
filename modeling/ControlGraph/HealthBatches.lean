import ControlGraph.HealthFinality

/-!
# A batch of samples and the samples one by one

The loop keeps maps of the windows, digests and sample sets that it has met,
while single evaluations start with none and check the state at their entry.
Samples that are distinct in all three never meet an entry of the maps, a pass
that goes on leaves a state that passes every guard, and apart from the cited
samples and the prior state a pass depends on the reached state alone.
-/

namespace ControlGraph.HealthBatches

open Checks ContractText HealthWindows HealthEvaluator HealthPasses HealthStreaks HealthClosure
  HealthFinality

/-- A record without the samples that it cites and the state it started from. -/
def withoutCitations (record : HealthEvaluationResult) : HealthEvaluationResult :=
  {record with
    priorState := record.state
    observationDigests := []}

/-- What a pass leaves behind for the passes after it. -/
inductive PassView
  | returned (record : HealthEvaluationResult)
  /-- The evaluation goes on from a state, with a record should it end there. -/
  | continued (state : HealthEvaluationState) (lastResult : Option HealthEvaluationResult)

def viewOf : PassOutcome → PassView
  | .returned record => .returned (withoutCitations record)
  | .continued loop => .continued loop.state (loop.lastResult.map withoutCitations)

/-- Samples whose windows, observations and sample sets differ. -/
structure Differ (sha256 : List UInt8 → Sha256Digest) (first second : HealthWindowSample) :
    Prop where
  windows : (first.windowStartedAt,first.windowEndedAt)≠
    (second.windowStartedAt,second.windowEndedAt)
  observations : first.observationSha256≠second.observationSha256
  /-- The digests of the sample sets differ, where there are any. -/
  sampleSets : ∀ digest∈sampleSetSha256 sha256 first.sampleSha256s,
    sampleSetSha256 sha256 second.sampleSha256s≠some digest

def ConsumedWait (before : HealthEvaluationState) (record : HealthEvaluationResult) : Prop :=
  record.decision=.wait ∧ before.evaluatedWindows < record.state.evaluatedWindows

instance (before : HealthEvaluationState) (record : HealthEvaluationResult) :
    Decidable (ConsumedWait before record) :=
  inferInstanceAs (Decidable (_ ∧ _))

section

variable (sha256 : List UInt8 → Sha256Digest) (policy : HealthPolicy)

/-- Evaluate the samples one by one, up to the first record that is not a wait
whose window was consumed. -/
def oneByOne (evaluatedAt : Int) (state : HealthEvaluationState) :
    List HealthWindowSample → Except Raised HealthEvaluationResult
  | [] => evaluateHealth sha256 policy [] state evaluatedAt
  | [sample] => evaluateHealth sha256 policy [sample] state evaluatedAt
  | sample::next::samples => do
    let record ← evaluateHealth sha256 policy [sample] state evaluatedAt
    if ConsumedWait state record then oneByOne evaluatedAt record.state (next::samples)
    else return record

variable (priorState otherState : HealthEvaluationState) (evaluatedAt : Int)

/-- Mapping commutes with the computation before it. -/
theorem map_bind {α β γ : Type} (f : β → γ) (first : Except Raised α)
    (rest : α → Except Raised β) :
    (first >>= rest).map f=first >>= fun value => (rest value).map f := by
  cases first <;> rfl

theorem giveUp_view (reason : HealthReason) (state : HealthEvaluationState)
    (cited otherCited : List HealthWindowSample) (sample : HealthWindowSample)
    (resetStreaks : Bool) (next : Option Int) :
    (giveUp policy priorState evaluatedAt reason state cited sample resetStreaks next).map viewOf=
      (giveUp policy otherState evaluatedAt reason state otherCited sample resetStreaks
        next).map viewOf := by
  unfold giveUp insufficient
  cases resetStreaks with
  | false => rfl
  | true =>
    simp only [if_true]
    cases reset state with
    | error raised => rfl
    | ok nextState => rfl

/-- The part after a streak update looks the same. -/
theorem streakPass_view (loop other : LoopState) (state : HealthEvaluationState)
    (decision : HealthDecisionKind) (met : Bool) (metReason pendingReason : HealthReason)
    (reasons : List HealthReason) (sample : HealthWindowSample) :
    (streakPass policy priorState evaluatedAt loop state decision met metReason pendingReason
      reasons sample).map viewOf=
    (streakPass policy otherState evaluatedAt other state decision met metReason pendingReason
      reasons sample).map viewOf := by
  unfold streakPass
  split
  · rfl
  · split
    · simp only [map_bind]
      rfl
    · rfl

theorem classifiedPass_view {loop other : LoopState} (hstate : loop.state=other.state)
    (advanced : HealthEvaluationState) (sample : HealthWindowSample) :
    (classifiedPass policy priorState evaluatedAt loop advanced sample).map viewOf=
      (classifiedPass policy otherState evaluatedAt other advanced sample).map viewOf := by
  unfold classifiedPass
  rw [hstate]
  dsimp only
  split
  · simp only [map_bind]
    exact congrArg _ (funext fun state => streakPass_view ..)
  · simp only [map_bind]
    exact congrArg _ (funext fun state => streakPass_view ..)
  · simp only [map_bind]
    refine congrArg _ (funext fun state => ?_)
    split
    · rfl
    · rfl

theorem collectedPass_view {loop other : LoopState} (hstate : loop.state=other.state)
    (sample : HealthWindowSample) (elapsedWindows : Int) (hasGap : Bool) :
    (collectedPass sha256 policy priorState evaluatedAt loop sample elapsedWindows
      hasGap).map viewOf=
    (collectedPass sha256 policy otherState evaluatedAt other sample elapsedWindows
      hasGap).map viewOf := by
  unfold collectedPass
  rw [hstate]
  simp only [map_bind]
  refine congrArg _ (funext fun advanced => ?_)
  split_ifs
  all_goals first
    | exact giveUp_view ..
    | exact classifiedPass_view _ _ _ _ hstate _ _

/-- A pass over a new sample looks the same from the same state. -/
theorem acceptedPass_view {loop other : LoopState} (hstate : loop.state=other.state)
    (sample : HealthWindowSample) :
    (acceptedPass sha256 policy priorState evaluatedAt loop sample).map viewOf=
      (acceptedPass sha256 policy otherState evaluatedAt other sample).map viewOf := by
  unfold acceptedPass
  dsimp only
  rw [hstate]
  split
  · exact giveUp_view ..
  split
  · exact giveUp_view ..
  split
  · exact giveUp_view ..
  split
  · cases other.state.lastWindowEndedAt with
    | none => rfl
    | some ended => rfl
  split
  · simp only [map_bind]
    exact congrArg _ (funext fun conflictState => giveUp_view ..)
  unfold orderedPass
  dsimp only
  rw [hstate]
  split
  · exact giveUp_view ..
  split
  · rfl
  split
  · exact giveUp_view ..
  split
  · rfl
  exact collectedPass_view _ _ _ _ _ hstate _ _ _

variable {sha256 policy priorState evaluatedAt}

theorem giveUp_decision {reason : HealthReason} {state : HealthEvaluationState}
    {cited : List HealthWindowSample} {sample : HealthWindowSample} {resetStreaks : Bool}
    {next : Option Int} {record : HealthEvaluationResult}
    (h : giveUp policy priorState evaluatedAt reason state cited sample resetStreaks next=
      .ok (.returned record)) : record.decision≠.wait := by
  obtain ⟨after,hgive,-⟩ :=
    giveUp_ok policy priorState evaluatedAt reason state cited sample resetStreaks next
  rw [hgive] at h
  cases h
  simp [result]

/-- The part after a streak update waits only by going on, before the windows
are exhausted. -/
theorem streakPass_wait {loop : LoopState} {state : HealthEvaluationState}
    {decision : HealthDecisionKind} {met : Bool} {metReason pendingReason : HealthReason}
    {reasons : List HealthReason} {sample : HealthWindowSample} (hdecision : decision≠.wait) :
    (∀ {record},streakPass policy priorState evaluatedAt loop state decision met metReason
      pendingReason reasons sample=.ok (.returned record) → record.decision≠.wait) ∧
    ∀ {next},streakPass policy priorState evaluatedAt loop state decision met metReason
      pendingReason reasons sample=.ok (.continued next) →
        next.state=state ∧ state.evaluatedWindows < policy.maximumWindows := by
  unfold streakPass
  by_cases hmet : met=true
  · rw [if_pos hmet]
    exact ⟨fun h => (by cases h; exact hdecision),fun h => (by cases h)⟩
  rw [if_neg hmet]
  by_cases hexhausted : policy.maximumWindows ≤ state.evaluatedWindows
  · rw [if_pos hexhausted]
    obtain ⟨after,hafter,-⟩ := reset_ok state
    rw [hafter]
    exact ⟨fun h => (by cases h; simp [result]),fun h => (by cases h)⟩
  · rw [if_neg hexhausted]
    exact ⟨fun h => (by cases h),fun h => (by cases h; exact ⟨rfl,by omega⟩)⟩

/-- The classified part waits only by going on with the windows of the advanced
state, before they are exhausted. -/
theorem classifiedPass_wait {loop : LoopState} {advanced : HealthEvaluationState}
    {sample : HealthWindowSample} :
    (∀ {record},classifiedPass policy priorState evaluatedAt loop advanced sample=
      .ok (.returned record) → record.decision≠.wait) ∧
    ∀ {next},classifiedPass policy priorState evaluatedAt loop advanced sample=
      .ok (.continued next) →
        next.state.evaluatedWindows=advanced.evaluatedWindows ∧
          next.state.evaluatedWindows < policy.maximumWindows := by
  unfold classifiedPass
  dsimp only
  split
  · constructor
    · intro record h
      obtain ⟨state,-,hstreak⟩ := bind_eq_ok.mp h
      exact (streakPass_wait (by decide)).1 hstreak
    · intro next h
      obtain ⟨state,hmake,hstreak⟩ := bind_eq_ok.mp h
      obtain ⟨hstate,hbelow⟩ := (streakPass_wait (by decide)).2 hstreak
      have hfields := HealthEvaluationStateFields.make_eq_ok.mp hmake
      rw [hstate]
      exact ⟨by rw [← hfields],hbelow⟩
  · constructor
    · intro record h
      obtain ⟨state,-,hstreak⟩ := bind_eq_ok.mp h
      exact (streakPass_wait (by decide)).1 hstreak
    · intro next h
      obtain ⟨state,hmake,hstreak⟩ := bind_eq_ok.mp h
      obtain ⟨hstate,hbelow⟩ := (streakPass_wait (by decide)).2 hstreak
      have hfields := HealthEvaluationStateFields.make_eq_ok.mp hmake
      rw [hstate]
      exact ⟨by rw [← hfields],hbelow⟩
  · constructor
    · intro record h
      obtain ⟨state,-,hwait⟩ := bind_eq_ok.mp h
      split at hwait
      · cases hwait
        simp [result]
      · cases hwait
    · intro next h
      obtain ⟨state,hmake,hwait⟩ := bind_eq_ok.mp h
      have hfields := HealthEvaluationStateFields.make_eq_ok.mp hmake
      split at hwait
      · cases hwait
      · rename_i hbelow
        cases hwait
        exact ⟨(congrArg (·.evaluatedWindows) hfields).symm,lt_of_not_ge hbelow⟩

/-- A pass over a new sample either returns, and a returned wait leaves the state
alone, or it goes on with more windows, which are not exhausted. -/
theorem acceptedPass_wait {loop : LoopState} {sample : HealthWindowSample} :
    (∀ {record},acceptedPass sha256 policy priorState evaluatedAt loop sample=
      .ok (.returned record) → record.decision=.wait → record.state=loop.state) ∧
    ∀ {next},acceptedPass sha256 policy priorState evaluatedAt loop sample=
      .ok (.continued next) →
        loop.state.evaluatedWindows < next.state.evaluatedWindows ∧
          next.state.evaluatedWindows < policy.maximumWindows := by
  have hnever : ∀ {reason state cited resetStreaks nextAt next},
      giveUp policy priorState evaluatedAt reason state cited sample resetStreaks nextAt≠
        .ok (.continued next) := giveUp_ne_continued policy priorState evaluatedAt
  have hgivesUp : ∀ {reason state cited resetStreaks nextAt} {record : HealthEvaluationResult},
      giveUp policy priorState evaluatedAt reason state cited sample resetStreaks nextAt=
        .ok (.returned record) → record.decision=.wait → record.state=loop.state :=
    fun h hwait => absurd hwait (giveUp_decision h)
  have hlimit := (policyBounds policy).windows
  have hwindow := (policyBounds policy).window
  unfold acceptedPass
  dsimp only
  split
  · exact ⟨hgivesUp,fun h => absurd h hnever⟩
  split
  · exact ⟨hgivesUp,fun h => absurd h hnever⟩
  split
  · exact ⟨hgivesUp,fun h => absurd h hnever⟩
  rename_i hremaining _ hgrid
  split
  · cases loop.state.lastWindowEndedAt with
    | none => exact ⟨fun h => (by cases h),fun h => (by cases h)⟩
    | some ended => exact ⟨fun h => (by cases h; intro _; rfl),fun h => (by cases h)⟩
  split
  · obtain ⟨conflict,hreset,-⟩ := reset_ok loop.state
    rw [hreset]
    exact ⟨hgivesUp,fun h => absurd h hnever⟩
  unfold orderedPass
  dsimp only
  split
  · exact ⟨hgivesUp,fun h => absurd h hnever⟩
  split
  · exact ⟨fun h => (by cases h; intro _; rfl),fun h => (by cases h)⟩
  split
  · exact ⟨hgivesUp,fun h => absurd h hnever⟩
  split
  · exact ⟨fun h => (by cases h; intro _; rfl),fun h => (by cases h)⟩
  rename_i hordered _ _ _
  -- The collecting part advances over at least one window.
  have hlength : sample.windowEndedAt-sample.windowStartedAt=policy.windowSeconds :=
    (not_not.mp hgrid).1
  have helapsed : 1≤(sample.windowEndedAt-expectedStart policy.fields loop.state.fields)/
      policy.windowSeconds := by
    apply Int.le_ediv_of_mul_le (by omega)
    omega
  unfold collectedPass
  dsimp only
  constructor
  · intro record h
    obtain ⟨advanced,-,hrest⟩ := bind_eq_ok.mp h
    split_ifs at hrest
    all_goals first
      | exact hgivesUp hrest
      | exact fun hwait => absurd hwait (classifiedPass_wait.1 hrest)
  · intro next h
    obtain ⟨advanced,hadvance,hrest⟩ := bind_eq_ok.mp h
    have hadvanced := congrArg (·.evaluatedWindows)
      (HealthEvaluationStateFields.make_eq_ok.mp hadvance)
    simp only [advanceFields] at hadvanced
    split_ifs at hrest
    all_goals first
      | exact absurd hrest hnever
      | obtain ⟨hsame,hbelow⟩ := classifiedPass_wait.2 hrest
        omega

/-- The maps of a loop hold nothing but some earlier samples. -/
structure SeenFrom (sha256 : List UInt8 → Sha256Digest) (loop : LoopState)
    (earlier : List HealthWindowSample) : Prop where
  windows : ∀ window prior,loop.seenWindows.lookup window=some prior →
    ∃ sample∈earlier,(sample.windowStartedAt,sample.windowEndedAt)=window
  /-- Observations of earlier samples. -/
  digests : ∀ digest prior,loop.seenDigests.lookup digest=some prior →
    ∃ sample∈earlier,sample.observationSha256=digest
  sampleSets : ∀ digest prior,loop.seenSampleSets.lookup digest=some prior →
    ∃ sample∈earlier,sampleSetSha256 sha256 sample.sampleSha256s=some digest

theorem samplePass_new {loop : LoopState} {earlier : List HealthWindowSample}
    {sample : HealthWindowSample} (hseen : SeenFrom sha256 loop earlier)
    (hdiffer : ∀ prior∈earlier,Differ sha256 prior sample) :
    samplePass sha256 policy priorState evaluatedAt loop sample=
      acceptedPass sha256 policy priorState evaluatedAt (loop.record sha256 sample) sample := by
  have hwindow : loop.seenWindows.lookup (sample.windowStartedAt,sample.windowEndedAt)=none := by
    rw [Option.eq_none_iff_forall_ne_some]
    intro prior hprior
    obtain ⟨other,hother,hsame⟩ := hseen.windows _ _ hprior
    exact (hdiffer other hother).windows hsame
  have hdigest : loop.seenDigests.lookup sample.observationSha256=none := by
    rw [Option.eq_none_iff_forall_ne_some]
    intro prior hprior
    obtain ⟨other,hother,hsame⟩ := hseen.digests _ _ hprior
    exact (hdiffer other hother).observations hsame
  have hset : (sampleSetSha256 sha256 sample.sampleSha256s).bind
      (fun digest => loop.seenSampleSets.lookup digest)=none := by
    rw [Option.eq_none_iff_forall_ne_some]
    intro prior hprior
    obtain ⟨digest,hset,hlookup⟩ := Option.bind_eq_some_iff.mp hprior
    obtain ⟨other,hother,hsame⟩ := hseen.sampleSets _ _ hlookup
    exact (hdiffer other hother).sampleSets digest hsame hset
  have hsingle : ¬repeatsWindow sha256 loop sample := by
    rintro ⟨prior,hprior,-⟩
    rw [hwindow] at hprior
    cases hprior
  have hcompatible : ¬conflictsSeen sha256 loop sample := by
    simp [conflictsSeen,hwindow,hdigest,hset]
  unfold samplePass
  rw [if_neg hsingle,if_neg hcompatible]

/-- A new loop has met nothing. -/
theorem seenFrom_initial (state : HealthEvaluationState) :
    SeenFrom sha256 {state := state} [] :=
  ⟨fun _ _ h => (nomatch h),fun _ _ h => (nomatch h),fun _ _ h => (nomatch h)⟩

/-- A pass that goes on has met its sample as well. -/
theorem seenFrom_next {loop next : LoopState} {earlier : List HealthWindowSample}
    {sample : HealthWindowSample} (hseen : SeenFrom sha256 loop earlier)
    (hsame : SameSeen (loop.record sha256 sample) next) :
    SeenFrom sha256 next (sample::earlier) := by
  constructor
  · intro window prior h
    rw [hsame.windows,LoopState.record,List.lookup_cons] at h
    split at h
    · rename_i hkey
      exact ⟨sample,List.mem_cons_self,(eq_of_beq hkey).symm⟩
    · obtain ⟨other,hother,hwindow⟩ := hseen.windows _ _ h
      exact ⟨other,List.mem_cons_of_mem _ hother,hwindow⟩
  · intro digest prior h
    rw [hsame.digests,LoopState.record,List.lookup_cons] at h
    split at h
    · rename_i hkey
      exact ⟨sample,List.mem_cons_self,(eq_of_beq hkey).symm⟩
    · obtain ⟨other,hother,hdigest⟩ := hseen.digests _ _ h
      exact ⟨other,List.mem_cons_of_mem _ hother,hdigest⟩
  · intro digest prior h
    rw [hsame.sampleSets,LoopState.record] at h
    dsimp only at h
    split at h
    · obtain ⟨other,hother,hset⟩ := hseen.sampleSets _ _ h
      exact ⟨other,List.mem_cons_of_mem _ hother,hset⟩
    · rename_i found hfound
      rw [List.lookup_cons] at h
      split at h
      · rename_i hkey
        rw [eq_of_beq hkey]
        exact ⟨sample,List.mem_cons_self,hfound⟩
      · obtain ⟨other,hother,hset⟩ := hseen.sampleSets _ _ h
        exact ⟨other,List.mem_cons_of_mem _ hother,hset⟩

/-- A state on which an evaluation runs its loop. -/
structure Ready (policy : HealthPolicy) (state : HealthEvaluationState) : Prop where
  /-- The state belongs to the policy. -/
  known : stateMatches policy.fields state.fields=true
  /-- No streak is met. -/
  undecided : ¬streakTerminal policy.fields state.fields
  /-- The windows are not exhausted. -/
  remaining : state.evaluatedWindows < policy.maximumWindows

/-- One sample on a ready state is one pass. -/
theorem evaluateHealth_single {state : HealthEvaluationState} (hready : Ready policy state)
    (htime : 0 ≤ evaluatedAt ∧ evaluatedAt ≤ maxSafeInteger) (sample : HealthWindowSample) :
    evaluateHealth sha256 policy [sample] state evaluatedAt=
      evaluateSamples sha256 policy state evaluatedAt {state := state} [sample] := by
  have hlimit := (policyBounds policy).windows
  have hdedupe : [sample].eraseDups=[sample] := rfl
  rcases evaluateHealth_cases sha256 policy state evaluatedAt [sample] with
    ⟨-,hloop⟩ | ⟨-,hnot,-⟩ | ⟨hnot,-,-⟩
  · rw [hloop,hdedupe]
  · exact absurd htime hnot
  · refine absurd ⟨htime,hready.known,hready.undecided,hready.remaining,?_,?_⟩ hnot
    · rw [hdedupe]
      exact List.cons_ne_nil _ _
    · rw [hdedupe]
      exact_mod_cast hlimit.1

/-- A pass that goes on from a ready state leaves one, with a pending record of it. -/
theorem ready_next {loop next : LoopState} {earlier : List HealthWindowSample}
    {sample : HealthWindowSample} (hready : Ready policy loop.state)
    (hseen : SeenFrom sha256 loop earlier) (hdiffer : ∀ prior∈earlier,Differ sha256 prior sample)
    (hpass : acceptedPass sha256 policy priorState evaluatedAt (loop.record sha256 sample) sample=
      .ok (.continued next)) :
    Ready policy next.state ∧ ∃ record,next.lastResult=some record ∧ record.state=next.state ∧
      record.decision=.wait := by
  obtain ⟨-,hremaining⟩ := acceptedPass_wait.2 hpass
  have hnew := @samplePass_new sha256 policy priorState evaluatedAt _ _ _ hseen hdiffer
  obtain ⟨outcome,houtcome,hspec⟩ :=
    samplePass_spec sha256 policy priorState evaluatedAt loop sample
  have hsample : samplePass sha256 policy priorState evaluatedAt loop sample=
      .ok (.continued next) := hnew.trans hpass
  rw [hsample] at houtcome
  cases houtcome
  cases hspec with
  | skipped hrepeat =>
    obtain ⟨prior,hprior,-⟩ := hrepeat
    obtain ⟨other,hother,hsame⟩ := hseen.windows _ _ hprior
    exact absurd hsame (hdiffer other hother).windows
  | accepted hsingle hcompatible heffect =>
    cases heffect with
    | continued heffect hlater hlast hstate hwait =>
      have hwithin : Collected sha256 policy.fields evaluatedAt loop.state.fields
          sample.fields → sample.windowEndedAt ≤ horizon policy.fields := by
        intro hcollected
        by_contra hbeyond
        obtain ⟨other,hreturned,-⟩ := samplePass_overruns sha256 policy priorState evaluatedAt
          hready.known ⟨hsingle,hcompatible,hcollected,by omega⟩
        rw [hreturned] at hsample
        cases hsample
      exact ⟨⟨stateMatches_effect hready.known hwithin heffect,hlater,hremaining⟩,
        _,hlast,hstate,hwait⟩

/-- On a ready state the loop over distinct samples returns what the samples
return one by one. -/
theorem evaluateSamples_oneByOne (htime : 0 ≤ evaluatedAt ∧ evaluatedAt ≤ maxSafeInteger)
    {samples : List HealthWindowSample} {loop : LoopState} {earlier : List HealthWindowSample}
    (hready : Ready policy loop.state) (hseen : SeenFrom sha256 loop earlier)
    (hdiffer : ∀ prior∈earlier,∀ sample∈samples,Differ sha256 prior sample)
    (hpairs : samples.Pairwise (Differ sha256)) (hne : samples≠[]) :
    (evaluateSamples sha256 policy priorState evaluatedAt loop samples).map withoutCitations=
      (oneByOne sha256 policy evaluatedAt loop.state samples).map withoutCitations := by
  induction samples generalizing loop earlier with
  | nil => exact absurd rfl hne
  | cons sample samples ih =>
    obtain ⟨hfirst,hpairs⟩ := List.pairwise_cons.mp hpairs
    have hnew : ∀ prior∈earlier,Differ sha256 prior sample :=
      fun prior hprior => hdiffer prior hprior sample List.mem_cons_self
    have hbatch := @samplePass_new sha256 policy priorState evaluatedAt _ _ _ hseen hnew
    have hsingle := @samplePass_new sha256 policy loop.state evaluatedAt _ _ sample
      (seenFrom_initial loop.state) (fun _ hprior => (nomatch hprior))
    have hcall := @evaluateHealth_single sha256 policy evaluatedAt _ hready htime sample
    have hview := acceptedPass_view sha256 policy priorState loop.state evaluatedAt
      (show (loop.record sha256 sample).state=
        (LoopState.record sha256 {state := loop.state} sample).state from rfl) sample
    obtain ⟨outcome,hbatchPass,-⟩ :=
      acceptedPass_spec sha256 policy priorState evaluatedAt (loop.record sha256 sample) sample
    obtain ⟨other,hsinglePass,-⟩ := acceptedPass_spec sha256 policy loop.state evaluatedAt
      (LoopState.record sha256 {state := loop.state} sample) sample
    rw [hbatchPass,hsinglePass] at hview
    have hview : viewOf outcome=viewOf other := by
      simpa [Except.map] using hview
    unfold evaluateSamples at hcall
    rw [hsingle,hsinglePass] at hcall
    unfold evaluateSamples
    rw [hbatch,hbatchPass]
    cases outcome with
    | returned record =>
      cases other with
      | continued next => simp [viewOf] at hview
      | returned alone =>
        simp only [viewOf,PassView.returned.injEq] at hview
        dsimp only at hcall ⊢
        have hstops : ¬ConsumedWait loop.state alone := by
          rintro ⟨hwait,hmore⟩
          rw [acceptedPass_wait.1 hsinglePass hwait] at hmore
          exact lt_irrefl _ hmore
        cases samples with
        | nil =>
          rw [oneByOne,hcall]
          exact congrArg Except.ok hview
        | cons next samples =>
          rw [oneByOne,hcall]
          simp only [bind,Except.bind,if_neg hstops]
          exact congrArg Except.ok hview
    | continued next =>
      cases other with
      | returned alone => simp [viewOf] at hview
      | continued alone =>
        simp only [viewOf,PassView.continued.injEq] at hview
        dsimp only at hcall ⊢
        obtain ⟨hstate,hrecords⟩ := hview
        obtain ⟨hnext,record,hlast,-,-⟩ := ready_next hready hseen hnew hbatchPass
        obtain ⟨-,other,hother,halone,hwait⟩ := ready_next
          (show Ready policy (LoopState.mk loop.state [] [] [] [] none).state from hready)
          (seenFrom_initial loop.state) (fun _ hprior => (nomatch hprior)) hsinglePass
        rw [hlast,hother,Option.map_some,Option.map_some,Option.some_inj] at hrecords
        unfold evaluateSamples at hcall
        rw [hother] at hcall
        have hgoes : ConsumedWait loop.state other := by
          refine ⟨hwait,?_⟩
          rw [halone]
          exact (acceptedPass_wait.2 hsinglePass).1
        cases samples with
        | nil =>
          unfold evaluateSamples
          rw [hlast,oneByOne,hcall]
          exact congrArg Except.ok hrecords
        | cons following samples =>
          rw [oneByOne,hcall]
          simp only [bind,Except.bind,if_pos hgoes]
          rw [halone,← hstate]
          have hsame := acceptedPass_seen sha256 policy priorState evaluatedAt hbatchPass
          refine ih hnext (seenFrom_next hseen hsame) ?_ hpairs (List.cons_ne_nil _ _)
          intro prior hprior second hsecond
          rcases List.mem_cons.mp hprior with rfl | hprior
          · exact hfirst second hsecond
          · exact hdiffer prior hprior second (List.mem_cons_of_mem _ hsecond)

/-- Removing duplicates changes nothing where there are none. -/
theorem eraseDups_of_nodup {samples : List HealthWindowSample} (h : samples.Nodup) :
    samples.eraseDups=samples := by
  induction samples with
  | nil => rfl
  | cons sample samples ih =>
    obtain ⟨hnew,hrest⟩ := List.nodup_cons.mp h
    have hkeep : samples.filter (fun other => !other==sample)=samples := by
      rw [List.filter_eq_self]
      intro other hother
      have hne : other≠sample := fun hsame => hnew (hsame ▸ hother)
      simpa using hne
    rw [List.eraseDups_cons,hkeep,ih hrest]

theorem nodup_of_differ {samples : List HealthWindowSample}
    (h : samples.Pairwise (Differ sha256)) : samples.Nodup := by
  refine h.imp ?_
  rintro first second hdiffer rfl
  exact hdiffer.observations rfl

/-- A state that is not ready answers every presentation alike, and its answer
is not a wait. -/
theorem evaluateHealth_unready {state : HealthEvaluationState}
    (hknown : stateMatches policy.fields state.fields=true) (hready : ¬Ready policy state)
    (htime : 0 ≤ evaluatedAt ∧ evaluatedAt ≤ maxSafeInteger)
    (samples others : List HealthWindowSample) :
    ∃ record other,evaluateHealth sha256 policy samples state evaluatedAt=.ok record ∧
      evaluateHealth sha256 policy others state evaluatedAt=.ok other ∧
      withoutCitations record=withoutCitations other ∧ other.decision≠.wait := by
  have hrange : requireInt "evaluated_at" evaluatedAt 0 maxSafeInteger=.ok () :=
    requireInt_eq_ok.mpr htime
  have hmatches : ¬stateMatches policy.fields state.fields=false := by simp [hknown]
  unfold evaluateHealth
  dsimp only
  rw [bind_of_ok hrange,bind_of_ok hrange,if_neg hmatches,if_neg hmatches]
  by_cases hterminal : streakTerminal policy.fields state.fields
  · rw [if_pos hterminal,if_pos hterminal]
    exact ⟨_,_,rfl,rfl,rfl,by simp [result]⟩
  · rw [if_neg hterminal,if_neg hterminal]
    have hexhausted : policy.maximumWindows ≤ state.evaluatedWindows := by
      by_contra hremaining
      exact hready ⟨hknown,hterminal,by omega⟩
    obtain ⟨after,hafter,-⟩ := reset_ok state
    rw [if_pos hexhausted,if_pos hexhausted]
    unfold insufficient
    simp only [if_true,hafter]
    exact ⟨_,_,rfl,rfl,rfl,by simp [result]⟩

/-- A call at a time out of range raises whatever it presents. -/
theorem evaluateHealth_untimely {state : HealthEvaluationState}
    (htime : ¬(0 ≤ evaluatedAt ∧ evaluatedAt ≤ maxSafeInteger)) :
    ∃ raised,∀ samples,evaluateHealth sha256 policy samples state evaluatedAt=.error raised := by
  cases hrange : requireInt "evaluated_at" evaluatedAt 0 maxSafeInteger with
  | ok checked => exact absurd (requireInt_eq_ok.mp hrange) htime
  | error raised =>
    refine ⟨raised,fun samples => ?_⟩
    unfold evaluateHealth
    dsimp only
    rw [hrange]
    rfl

end

/-- On a matching state a batch of samples that differ in window, observation
and sample set has the result of its samples one by one, up to the first that is
not a wait whose window was consumed. Only the cited samples and the prior state
of the record may differ. -/
theorem batch_eq_oneByOne (sha256 : List UInt8 → Sha256Digest) (policy : HealthPolicy)
    (state : HealthEvaluationState) (evaluatedAt : Int) (samples : List HealthWindowSample)
    (hknown : stateMatches policy.fields state.fields=true)
    (hcount : (samples.length : Int) ≤ policy.maximumWindows)
    (hpairs : samples.Pairwise (Differ sha256)) :
    (evaluateHealth sha256 policy samples state evaluatedAt).map withoutCitations=
      (oneByOne sha256 policy evaluatedAt state samples).map withoutCitations := by
  cases samples with
  | nil => rfl
  | cons sample samples =>
    by_cases htime : 0 ≤ evaluatedAt ∧ evaluatedAt ≤ maxSafeInteger
    swap
    · obtain ⟨raised,hraised⟩ := @evaluateHealth_untimely sha256 policy evaluatedAt state htime
      rw [hraised]
      cases samples with
      | nil => rw [oneByOne,hraised]
      | cons next samples =>
        rw [oneByOne,hraised]
        rfl
    by_cases hready : Ready policy state
    · have hdedupe := eraseDups_of_nodup (nodup_of_differ hpairs)
      have hbatch : evaluateHealth sha256 policy (sample::samples) state evaluatedAt=
          evaluateSamples sha256 policy state evaluatedAt {state := state} (sample::samples) := by
        rcases evaluateHealth_cases sha256 policy state evaluatedAt (sample::samples) with
          ⟨-,hloop⟩ | ⟨-,hnot,-⟩ | ⟨hnot,-,-⟩
        · rw [hloop,hdedupe]
        · exact absurd htime hnot
        · refine absurd ⟨htime,hready.known,hready.undecided,hready.remaining,?_,?_⟩ hnot
          · rw [hdedupe]
            exact List.cons_ne_nil _ _
          · rw [hdedupe]
            exact hcount
      rw [hbatch]
      exact evaluateSamples_oneByOne htime hready (seenFrom_initial state)
        (fun _ hprior => (nomatch hprior)) hpairs (List.cons_ne_nil _ _)
    · obtain ⟨record,other,hrecord,hother,hview,hstops⟩ :=
        evaluateHealth_unready hknown hready htime (sample::samples) [sample]
      rw [hrecord]
      cases samples with
      | nil =>
        rw [oneByOne,hother]
        exact congrArg Except.ok hview
      | cons next samples =>
        rw [oneByOne,hother]
        simp only [bind,Except.bind,ConsumedWait,hstops,false_and,if_false]
        exact congrArg Except.ok hview

/-- The first two windows of a three-minute streak are pending either way. -/
theorem batch_eq_oneByOne_minutes :
    (evaluateHealth lastByteSha256 threeMinutePolicy (observedMinutes.take 2)
        (emptyState threeMinutePolicy) 1140).map withoutCitations=
      (oneByOne lastByteSha256 threeMinutePolicy 1140 (emptyState threeMinutePolicy)
        (observedMinutes.take 2)).map withoutCitations :=
  batch_eq_oneByOne lastByteSha256 threeMinutePolicy (emptyState threeMinutePolicy) 1140 _ rfl
    (by decide) (List.pairwise_pair.mpr ⟨by decide,by decide +kernel,by decide +kernel⟩)

end ControlGraph.HealthBatches
