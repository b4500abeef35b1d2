import ControlGraph.RolloutReducer

/-!
# Commands of a rollout that change traffic

Three commands of the reducer move traffic: the canary, the promotion and the
recovery. A run that begins with a pending root is always at some place of the
main path, reached directly or remembered as the origin of an ambiguity, and
the place determines which of the three commands were emitted so far. Every
detour that re-enters the path arrives at a place with the same commands, so
no command is emitted a second time.
-/

namespace ControlGraph.TrafficCommands

open KeyedTables RolloutReducer

def trafficCommands : List RolloutCommand := [.applyCanary,.promoteCandidate,.recoverStable]

/-- The traffic commands of a list, in order. -/
def traffic (commands : List RolloutCommand) : List RolloutCommand :=
  commands.filter (·∈trafficCommands)

/-- Commands of all outputs of a run, in order. -/
def emitted (outputs : List ReducerOutput) : List RolloutCommand :=
  outputs.flatMap (·.commands)

/-- Places of the main path. -/
def places : List RolloutState :=
  [.rootPending,.rootActive,.canaryPending,.canaryObserving,.promotionPending,.recoveryPending,
    .promoted,.recovered]

/-- Traffic commands that lead to a place. -/
def trafficBefore : RolloutState → List RolloutCommand
  | .canaryPending | .canaryObserving => [.applyCanary]
  | .promotionPending | .promoted => [.applyCanary,.promoteCandidate]
  | .recoveryPending | .recovered => [.applyCanary,.recoverStable]
  | _ => []

/-- What a run may have reached, with the traffic commands that it emitted. -/
inductive Reached : RolloutState → Option RolloutState → List RolloutCommand → Prop
  /-- On the main path, with no ambiguity origin left over. -/
  | path {place : RolloutState} (h : place∈places) : Reached place none (trafficBefore place)
  /-- In an ambiguity that remembers its place. -/
  | detour {place : RolloutState} (h : place∈places) :
      Reached .ambiguous (some place) (trafficBefore place)
  | settled {state place : RolloutState} {origin : Option RolloutState}
      (hstate : state∈absorbingStates) (h : place∈places) :
      Reached state origin (trafficBefore place)

/-- Every entry at a place goes on along the path, into an ambiguity, or into a
settled state, with the traffic commands of where it leads. -/
theorem transitions_path : ∀ entry∈transitions,entry.1.1∈places →
    entry.2.ambiguityOrigin=none ∧
      (entry.2.state∈places ∧
          trafficBefore entry.2.state=trafficBefore entry.1.1++traffic entry.2.commands ∨
        (entry.2.state=.ambiguous ∨ entry.2.state∈absorbingStates) ∧
          traffic entry.2.commands=[]) := by decide

/-- Every entry of the ambiguous state stays there, or resolves the place that
it names without a traffic command. -/
theorem transitions_detour : ∀ entry∈transitions,entry.1.1=.ambiguous →
    traffic entry.2.commands=[] ∧
      (entry.2.state=.ambiguous ∨
        entry.2.state∈places ∧
          ∃ place∈places,entry.2.ambiguityOrigin=some place ∧
            trafficBefore entry.2.state=trafficBefore place) := by decide

/-- A traffic command needs authorization, authority and time. -/
theorem transitions_traffic : ∀ entry∈transitions,traffic entry.2.commands≠[] →
    entry.2.requiresAuthorization=true ∧ entry.2.requiresAuthority=true ∧
      entry.2.requiresTime=true := by decide

/-- A missing fact emits nothing and leads to a settled state or to an
ambiguity with its first place. -/
theorem checkRequiredFacts_detour {request : ReducerInput} {transition : Transition}
    {output : ReducerOutput} (h : checkRequiredFacts request transition=some output) :
    output.commands=[] ∧
      (output.state∈absorbingStates ∨
        output.state=.ambiguous ∧
          output.ambiguityOrigin=some (request.ambiguityOrigin.getD request.state)) := by
  have hdenied : RolloutState.denied∈absorbingStates := by decide
  have hfailed : RolloutState.failedSafe∈absorbingStates := by decide
  unfold checkRequiredFacts at h
  dsimp only at h
  by_cases hauthorization :
      transition.requiresAuthorization=true ∧ request.facts.authorization≠.confirmed
  · rw [if_pos hauthorization] at h
    cases h
    exact ⟨rfl,.inl hdenied⟩
  rw [if_neg hauthorization] at h
  by_cases hauthority : transition.requiresAuthority=true ∧ request.facts.authority≠.confirmed
  · rw [if_pos hauthority] at h
    cases h
    exact ⟨rfl,.inl hdenied⟩
  rw [if_neg hauthority] at h
  by_cases htime : transition.requiresTime=true ∧ request.facts.timeWindow≠.confirmed
  · rw [if_pos htime] at h
    cases h
    exact ⟨rfl,.inl hdenied⟩
  rw [if_neg htime] at h
  by_cases hobservation :
      transition.requiresObservation=true ∧ request.facts.observation≠.confirmed
  · rw [if_pos hobservation] at h
    cases h
    exact ⟨rfl,.inr ⟨rfl,rfl⟩⟩
  rw [if_neg hobservation] at h
  cases houtcome : transition.providerOutcome with
  | none =>
    rw [houtcome] at h
    cases h
  | some outcome =>
    rw [houtcome] at h
    dsimp only at h
    split_ifs at h
    · cases h
      exact ⟨rfl,.inl hfailed⟩
    · cases h
      exact ⟨rfl,.inr ⟨rfl,rfl⟩⟩

/-- Facts that passed are confirmed where the entry requires them. -/
theorem checkRequiredFacts_passed {request : ReducerInput} {transition : Transition}
    (h : checkRequiredFacts request transition=none) :
    (transition.requiresAuthorization=true → request.facts.authorization=.confirmed) ∧
      (transition.requiresAuthority=true → request.facts.authority=.confirmed) ∧
      (transition.requiresTime=true → request.facts.timeWindow=.confirmed) := by
  unfold checkRequiredFacts at h
  dsimp only at h
  split_ifs at h with hauthorization hauthority htime
  all_goals
    refine ⟨fun hr => ?_,fun hr => ?_,fun hr => ?_⟩
    · by_contra hc
      exact hauthorization ⟨hr,hc⟩
    · by_contra hc
      exact hauthority ⟨hr,hc⟩
    · by_contra hc
      exact htime ⟨hr,hc⟩

/-- What one step can do: refuse the event, take a detour, or follow an entry
whose origin and facts are met. -/
theorem stepOutput_cases (state : RolloutState) (origin : Option RolloutState)
    (step : ReducerStep) :
    let output := stepOutput state origin step
    (output.commands=[] ∧ output.state=state ∧ output.ambiguityOrigin=origin) ∨
    ∃ entry∈transitions,entry.1.1=state ∧
      ((output.commands=[] ∧
          (output.state∈absorbingStates ∨
            output.state=.ambiguous ∧ output.ambiguityOrigin=some (origin.getD state))) ∨
        ((entry.2.ambiguityOrigin=none ∨ origin=entry.2.ambiguityOrigin) ∧
          checkRequiredFacts ⟨state,step.event,step.facts,step.denialReason,origin⟩ entry.2=none ∧
          output.commands=entry.2.commands ∧ output.state=entry.2.state ∧
          output.ambiguityOrigin=
            (if entry.2.state=.ambiguous ∧ state≠.ambiguous then some state
              else if state=.ambiguous ∧ entry.2.state≠.ambiguous then none
              else origin))) := by
  dsimp only
  unfold stepOutput reduceRollout
  dsimp only
  cases hentry : transitions.lookup (state,step.event) with
  | none => exact .inl ⟨rfl,rfl,rfl⟩
  | some transition =>
    dsimp only
    have hmem : ((state,step.event),transition)∈transitions := mem_of_lookup hentry
    by_cases horigin : transition.ambiguityOrigin≠none ∧ origin≠transition.ambiguityOrigin
    · rw [if_pos horigin]
      exact .inl ⟨rfl,rfl,rfl⟩
    · rw [if_neg horigin]
      refine .inr ⟨_,hmem,rfl,?_⟩
      cases hfacts : checkRequiredFacts
          ⟨state,step.event,step.facts,step.denialReason,origin⟩ transition with
      | some output => exact .inl (checkRequiredFacts_detour hfacts)
      | none =>
        refine .inr ⟨?_,rfl,rfl,rfl,rfl⟩
        by_cases hnone : transition.ambiguityOrigin=none
        · exact .inl hnone
        · exact .inr (by_contra fun hother => horigin ⟨hnone,hother⟩)

theorem places_ne_ambiguous {place : RolloutState} (h : place∈places) : place≠.ambiguous := by
  rintro rfl
  simp [places] at h

theorem places_ne_absorbing {place : RolloutState} (h : place∈places) : place∉absorbingStates := by
  simp only [places,List.mem_cons,List.not_mem_nil,or_false] at h
  rcases h with rfl | rfl | rfl | rfl | rfl | rfl | rfl | rfl <;> decide

/-- Commands without traffic do not change the traffic so far. -/
theorem traffic_nil : traffic []=[] := rfl

theorem path_step {place : RolloutState} (h : place∈places) (step : ReducerStep) :
    let output := stepOutput place none step
    Reached output.state output.ambiguityOrigin (trafficBefore place++traffic output.commands) := by
  intro output
  rcases stepOutput_cases place none step with ⟨hcommands,hstate,horigin⟩ | ⟨entry,hentry,hkey,hcase⟩
  · rw [hcommands,hstate,horigin,traffic_nil,List.append_nil]
    exact .path h
  rcases hcase with ⟨hcommands,hdetour⟩ | ⟨-,-,hcommands,hstate,horigin⟩
  · rw [hcommands,traffic_nil,List.append_nil]
    rcases hdetour with hsettled | ⟨hstate,horigin⟩
    · exact .settled hsettled h
    · rw [hstate,horigin]
      exact .detour h
  · have hplace : entry.1.1∈places := hkey ▸ h
    have hne : place≠.ambiguous := places_ne_ambiguous h
    have hpath := (transitions_path entry hentry hplace).2
    rw [hkey] at hpath
    rw [hcommands,hstate,horigin]
    rcases hpath with ⟨hnext,htraffic⟩ | ⟨hnext | hnext,htraffic⟩
    · rw [← htraffic,if_neg (fun hboth => places_ne_ambiguous hnext hboth.1),
        if_neg (fun hboth => hne hboth.1)]
      exact .path hnext
    · rw [htraffic,List.append_nil,if_pos ⟨hnext,hne⟩,hnext]
      exact .detour h
    · rw [htraffic,List.append_nil]
      exact .settled hnext h

theorem detour_step {place : RolloutState} (h : place∈places) (step : ReducerStep) :
    let output := stepOutput .ambiguous (some place) step
    Reached output.state output.ambiguityOrigin (trafficBefore place++traffic output.commands) := by
  intro output
  rcases stepOutput_cases .ambiguous (some place) step with
    ⟨hcommands,hstate,horigin⟩ | ⟨entry,hentry,hkey,hcase⟩
  · rw [hcommands,hstate,horigin,traffic_nil,List.append_nil]
    exact .detour h
  rcases hcase with ⟨hcommands,hdetour⟩ | ⟨hresolves,-,hcommands,hstate,horigin⟩
  · rw [hcommands,traffic_nil,List.append_nil]
    rcases hdetour with hsettled | ⟨hstate,horigin⟩
    · exact .settled hsettled h
    · rw [hstate,horigin]
      exact .detour h
  · obtain ⟨htraffic,hnext⟩ := transitions_detour entry hentry hkey
    rw [hcommands,hstate,horigin,htraffic,List.append_nil]
    rcases hnext with hnext | ⟨hnext,origin,-,hnamed,hsame⟩
    · rw [hnext]
      exact .detour h
    · -- Only the place that the entry names is resolved.
      have hplace : place=origin := by
        rw [hnamed] at hresolves
        rcases hresolves with hnone | hsome
        · cases hnone
        · exact Option.some.inj hsome
      have hne := places_ne_ambiguous hnext
      rw [if_neg (fun hboth => hne hboth.1),if_pos ⟨rfl,hne⟩,hplace,← hsame]
      exact .path hnext

/-- Every step keeps a run at what its traffic commands lead to. -/
theorem reached_step {state : RolloutState} {origin : Option RolloutState}
    {commands : List RolloutCommand} (h : Reached state origin commands) (step : ReducerStep) :
    let output := stepOutput state origin step
    Reached output.state output.ambiguityOrigin (commands++traffic output.commands) := by
  cases h with
  | path hplace => exact path_step hplace step
  | detour hplace => exact detour_step hplace step
  | settled hstate hplace =>
    have hstep := @absorbing_step ⟨state,step.event,step.facts,step.denialReason,origin⟩ hstate
    intro output
    have hcommands : output.commands=[] := hstep.1
    have hsame : output.state=state := hstep.2
    rw [hcommands,hsame,traffic_nil,List.append_nil]
    exact .settled hstate hplace

theorem traffic_append (first second : List RolloutCommand) :
    traffic (first++second)=traffic first++traffic second := List.filter_append ..

/-- A run from anything reached ends at what all its traffic commands lead to. -/
theorem reached_history {state : RolloutState} {origin : Option RolloutState}
    {commands : List RolloutCommand} (h : Reached state origin commands)
    (steps : List ReducerStep) :
    Reached (historyEnd state origin steps).1 (historyEnd state origin steps).2
      (commands++traffic (emitted (reduceHistory state origin steps))) := by
  induction steps generalizing state origin commands with
  | nil =>
    have hnone : traffic (emitted (reduceHistory state origin []))=[] := rfl
    rw [hnone,List.append_nil]
    exact h
  | cons step steps ih =>
    have hnext := ih (reached_step h step)
    have hemitted : emitted (reduceHistory state origin (step::steps))=
        (stepOutput state origin step).commands++
          emitted (reduceHistory (stepOutput state origin step).state
            (stepOutput state origin step).ambiguityOrigin steps) := rfl
    rw [hemitted,traffic_append,← List.append_assoc]
    exact hnext

/-- The traffic commands of a run that begins with a pending root. -/
theorem reached_run (steps : List ReducerStep) :
    Reached (historyEnd .rootPending none steps).1 (historyEnd .rootPending none steps).2
      (traffic (emitted (reduceHistory .rootPending none steps))) := by
  have hroot : Reached .rootPending none [] := Reached.path (by decide)
  exact reached_history hroot steps

theorem Reached.place {state : RolloutState} {origin : Option RolloutState}
    {commands : List RolloutCommand} (h : Reached state origin commands) :
    ∃ place∈places,commands=trafficBefore place ∧ (state∈places → state=place) := by
  cases h with
  | path hplace => exact ⟨_,hplace,rfl,fun _ => rfl⟩
  | detour hplace => exact ⟨_,hplace,rfl,fun hstate => absurd rfl (places_ne_ambiguous hstate)⟩
  | settled hstate hplace =>
    exact ⟨_,hplace,rfl,fun hstate' => absurd hstate (places_ne_absorbing hstate')⟩

/-- Facts about the commands of each place. -/
theorem trafficBefore_facts : ∀ place∈places,
    (∀ command∈trafficCommands,(trafficBefore place).count command ≤ 1) ∧
    ¬(.promoteCandidate∈trafficBefore place ∧ .recoverStable∈trafficBefore place) ∧
    ((trafficBefore place).head?=none ∨ (trafficBefore place).head?=some .applyCanary) ∧
    (place=.promoted → .promoteCandidate∈trafficBefore place) ∧
    (place=.recovered → .recoverStable∈trafficBefore place) := by decide

/-- A command of the traffic kind is emitted as often as the traffic has it. -/
theorem count_traffic {command : RolloutCommand} (h : command∈trafficCommands)
    (commands : List RolloutCommand) : (traffic commands).count command=commands.count command :=
  List.count_filter (by simpa using h)

theorem mem_traffic {command : RolloutCommand} (h : command∈trafficCommands)
    {commands : List RolloutCommand} : command∈traffic commands ↔ command∈commands := by
  simp [traffic,h]

/-- A step that emits a traffic command had its authority confirmed. -/
theorem traffic_confirmed {state : RolloutState} {origin : Option RolloutState}
    {step : ReducerStep} {command : RolloutCommand} (hcommand : command∈trafficCommands)
    (h : command∈(stepOutput state origin step).commands) :
    step.facts.authorization=.confirmed ∧ step.facts.authority=.confirmed ∧
      step.facts.timeWindow=.confirmed := by
  rcases stepOutput_cases state origin step with ⟨hnone,-,-⟩ | ⟨entry,hentry,-,hcase⟩
  · rw [hnone] at h
    cases h
  rcases hcase with ⟨hnone,-⟩ | ⟨-,hpassed,hcommands,-,-⟩
  · rw [hnone] at h
    cases h
  · rw [hcommands] at h
    have htraffic : traffic entry.2.commands≠[] :=
      List.ne_nil_of_mem ((mem_traffic hcommand).mpr h)
    obtain ⟨hauthorization,hauthority,htime⟩ := transitions_traffic entry hentry htraffic
    obtain ⟨hfirst,hsecond,hthird⟩ := checkRequiredFacts_passed hpassed
    exact ⟨hfirst hauthorization,hsecond hauthority,hthird htime⟩

/-- Along every run from a pending root each traffic command is emitted at most
once, promotion and recovery exclude each other and follow the canary, and each
needs confirmed authority at its step. A promoted or recovered rollout emitted
the command that it ends with. -/
theorem traffic_commands (steps : List ReducerStep) :
    let commands := emitted (reduceHistory .rootPending none steps)
    (∀ command∈trafficCommands,commands.count command ≤ 1) ∧
    ¬(.promoteCandidate∈commands ∧ .recoverStable∈commands) ∧
    (∀ earlier command later,commands=earlier++command::later →
      command=.promoteCandidate ∨ command=.recoverStable → .applyCanary∈earlier) ∧
    (∀ before step after,steps=before++step::after → ∀ command∈trafficCommands,
      command∈(stepOutput (historyEnd .rootPending none before).1
          (historyEnd .rootPending none before).2 step).commands →
        step.facts.authorization=.confirmed ∧ step.facts.authority=.confirmed ∧
          step.facts.timeWindow=.confirmed) ∧
    ((historyEnd .rootPending none steps).1=.promoted → .promoteCandidate∈commands) ∧
    ((historyEnd .rootPending none steps).1=.recovered → .recoverStable∈commands) := by
  intro commands
  have hpromote : RolloutCommand.promoteCandidate∈trafficCommands := by decide
  have hrecover : RolloutCommand.recoverStable∈trafficCommands := by decide
  have hcanary : RolloutCommand.applyCanary∈trafficCommands := by decide
  obtain ⟨place,hplace,htraffic,hstate⟩ := (reached_run steps).place
  have htraffic : traffic commands=trafficBefore place := htraffic
  obtain ⟨honce,hexclude,hfirst,hpromoted,hrecovered⟩ := trafficBefore_facts place hplace
  refine ⟨?_,?_,?_,fun before step after _ command hcommand => traffic_confirmed hcommand,?_,?_⟩
  · intro command hcommand
    rw [← count_traffic hcommand,htraffic]
    exact honce command hcommand
  · rw [← mem_traffic hpromote,← mem_traffic hrecover,htraffic]
    exact hexclude
  · intro earlier command later hcommands hkind
    have hmem : command∈trafficCommands := by
      rcases hkind with rfl | rfl
      · exact hpromote
      · exact hrecover
    rw [hcommands,traffic_append] at htraffic
    rw [← htraffic] at hfirst
    have hcommand : traffic (command::later)=command::traffic later := by
      simp [traffic,hmem]
    rw [hcommand] at hfirst
    rw [← mem_traffic hcanary]
    cases hearlier : traffic earlier with
    | nil =>
      rw [hearlier] at hfirst
      rcases hkind with rfl | rfl <;> simp at hfirst
    | cons head rest =>
      rw [hearlier] at hfirst
      have hhead : head=.applyCanary := by simpa using hfirst
      rw [hhead]
      exact List.mem_cons_self
  · intro hend
    have hpromotedPlace : place=.promoted := by rw [← hstate (by rw [hend]; decide),hend]
    rw [← mem_traffic hpromote,htraffic]
    exact hpromoted hpromotedPlace
  · intro hend
    have hrecoveredPlace : place=.recovered := by rw [← hstate (by rw [hend]; decide),hend]
    rw [← mem_traffic hrecover,htraffic]
    exact hrecovered hrecoveredPlace

end ControlGraph.TrafficCommands
