import ControlGraph.KeyedTables

/-!
# The pure rollout reducer and its terminal outputs

States, events, facts and the closed transition table follow the reducer of
the authority package. A history threads the state and the ambiguity origin
of each output into the next input. The terminal flag belongs to one output;
what later inputs may still do in a settled state is derived from the table
and from the detours taken when a required fact is missing.
-/

namespace ControlGraph.RolloutReducer

open KeyedTables

/-- Version-one rollout states. -/
inductive RolloutState
  | rootPending | rootActive | canaryPending | canaryObserving | promotionPending
  | recoveryPending | promoted | recovered | revoked | denied | failedSafe | ambiguous
  deriving DecidableEq,Repr

/-- Closed commands that the reducer may emit. -/
inductive RolloutCommand
  | captureStable | createRolloutRoot | applyCanary | evaluateHealth | promoteCandidate
  | recoverStable | revokeEpoch | verifyTarget
  deriving DecidableEq,Repr

/-- Closed facts that may be supplied to the reducer. -/
inductive RolloutEvent
  | stableCaptureRequested | stableCaptured | rootCreated | canaryRequested | canaryApplied
  | canaryVerified | healthy | unhealthy | promotionApplied | promotionVerified
  | recoveryApplied | recoveryVerified | revocationRequested | epochRevoked
  | completionConfirmed | authorityDenied | operationFailedSafe | providerOutcomeAmbiguous
  | ambiguityResolvedCanary | ambiguityResolvedPromotion | ambiguityResolvedRecovery
  | ambiguityUnresolved
  deriving DecidableEq,Repr

/-- Stable public reason codes, shared by the reducer and the authority policy. -/
inductive DenialReason
  | contractInvalid | contractVersionUnsupported | callerUnauthenticated | callerUnauthorized
  | signatureInvalid | keyVersionUntrusted | capabilityExpired | capabilityNotYetValid
  | claimBindingMismatch | targetBindingMismatch | lineageInvalid | scopeAmplification
  | authorityUnavailable | epochMismatch | idempotencyConflict | receiptInProgress
  | transportUnavailable | providerPreconditionFailed | providerRequestRejected
  | providerOutcomeAmbiguous | transitionInvalid | policyUnhealthy
  deriving DecidableEq,Repr

/-- Status of a fact supplied by a boundary outside the reducer. -/
inductive FactStatus
  | confirmed | rejected | unknown | notApplicable
  deriving DecidableEq,Repr

/-- Known classification of a provider or authority-store operation. -/
inductive ProviderOutcome
  | applied | failedSafe | ambiguous | notApplicable
  deriving DecidableEq,Repr

/-- Explicit facts, consumed without performing side effects. -/
structure ReducerFacts where
  authorization : FactStatus := .notApplicable
  authority : FactStatus := .notApplicable
  timeWindow : FactStatus := .notApplicable
  observation : FactStatus := .notApplicable
  providerOutcome : ProviderOutcome := .notApplicable
  deriving DecidableEq,Repr

/-- One state and ordered event presented to the reducer. -/
structure ReducerInput where
  state : RolloutState
  event : RolloutEvent
  facts : ReducerFacts := {}
  denialReason : Option DenialReason := none
  ambiguityOrigin : Option RolloutState := none
  deriving DecidableEq,Repr

/-- Deterministic result of reducing one event. -/
structure ReducerOutput where
  previousState : RolloutState
  state : RolloutState
  event : RolloutEvent
  commands : List RolloutCommand
  reason : Option DenialReason
  /-- False when the table or the ambiguity origin refuses the event. -/
  transitionValid : Bool
  terminal : Bool
  ambiguityOrigin : Option RolloutState
  deriving DecidableEq,Repr

/-- One entry of the transition table. -/
structure Transition where
  state : RolloutState
  /-- Commands emitted when every requirement holds. -/
  commands : List RolloutCommand := []
  requiresAuthorization : Bool := false
  requiresAuthority : Bool := false
  requiresTime : Bool := false
  requiresObservation : Bool := false
  providerOutcome : Option ProviderOutcome := none
  ambiguityOrigin : Option RolloutState := none
  terminal : Bool := false
  deriving DecidableEq,Repr

/-- The literal part of the transition table. -/
def literalTransitions : List ((RolloutState×RolloutEvent)×Transition) :=
  [((.rootPending,.stableCaptureRequested),
      {state := .rootPending,commands := [.captureStable],
       requiresAuthorization := true,requiresTime := true}),
   ((.rootPending,.stableCaptured),
      {state := .rootPending,commands := [.createRolloutRoot],
       requiresAuthorization := true,requiresTime := true,requiresObservation := true}),
   ((.rootPending,.rootCreated),{state := .rootActive,providerOutcome := some .applied}),
   ((.rootActive,.canaryRequested),
      {state := .canaryPending,commands := [.applyCanary],
       requiresAuthorization := true,requiresAuthority := true,requiresTime := true}),
   ((.canaryPending,.canaryApplied),
      {state := .canaryPending,commands := [.verifyTarget],providerOutcome := some .applied}),
   ((.canaryPending,.canaryVerified),
      {state := .canaryObserving,commands := [.evaluateHealth],requiresObservation := true}),
   ((.canaryObserving,.healthy),
      {state := .promotionPending,commands := [.promoteCandidate],
       requiresAuthorization := true,requiresAuthority := true,requiresTime := true,
       requiresObservation := true}),
   ((.canaryObserving,.unhealthy),
      {state := .recoveryPending,commands := [.recoverStable],
       requiresAuthorization := true,requiresAuthority := true,requiresTime := true,
       requiresObservation := true}),
   ((.promotionPending,.promotionApplied),
      {state := .promotionPending,commands := [.verifyTarget],providerOutcome := some .applied}),
   ((.promotionPending,.promotionVerified),{state := .promoted,requiresObservation := true}),
   ((.recoveryPending,.recoveryApplied),
      {state := .recoveryPending,commands := [.verifyTarget],providerOutcome := some .applied}),
   ((.recoveryPending,.recoveryVerified),{state := .recovered,requiresObservation := true}),
   ((.promoted,.completionConfirmed),
      {state := .promoted,requiresObservation := true,terminal := true}),
   ((.recovered,.completionConfirmed),
      {state := .recovered,requiresObservation := true,terminal := true}),
   ((.ambiguous,.ambiguityResolvedCanary),
      {state := .canaryObserving,commands := [.evaluateHealth],requiresObservation := true,
       ambiguityOrigin := some .canaryPending}),
   ((.ambiguous,.ambiguityResolvedPromotion),
      {state := .promoted,requiresObservation := true,ambiguityOrigin := some .promotionPending}),
   ((.ambiguous,.ambiguityResolvedRecovery),
      {state := .recovered,requiresObservation := true,ambiguityOrigin := some .recoveryPending}),
   ((.ambiguous,.ambiguityUnresolved),{state := .ambiguous,terminal := true})]

/-- States from which the epoch may be revoked. -/
def revocableStates : List RolloutState :=
  [.rootActive,.canaryPending,.canaryObserving,.promotionPending,.recoveryPending]

/-- States in which a command may be denied or fail safe. -/
def commandStates : List RolloutState :=
  [.rootPending,.canaryPending,.promotionPending,.recoveryPending]

/-- States in which a provider mutation may be ambiguous. -/
def mutationStates : List RolloutState := [.canaryPending,.promotionPending,.recoveryPending]

/-- The complete table: the literal entries followed by the three loops. -/
def transitions : List ((RolloutState×RolloutEvent)×Transition) :=
  literalTransitions
    ++ revocableStates.flatMap (fun state =>
      [((state,.revocationRequested),
          {state := state,commands := [.revokeEpoch],
           requiresAuthorization := true,requiresAuthority := true,requiresTime := true}),
       ((state,.epochRevoked),
          {state := .revoked,providerOutcome := some .applied,terminal := true})])
    ++ commandStates.flatMap (fun state =>
      [((state,.authorityDenied),{state := .denied,terminal := true}),
       ((state,.operationFailedSafe),
          {state := .failedSafe,providerOutcome := some .failedSafe,terminal := true})])
    ++ mutationStates.map (fun state =>
      ((state,.providerOutcomeAmbiguous),
        {state := .ambiguous,providerOutcome := some .ambiguous}))

/-- Assemble an output from the request and the chosen result. -/
def result (request : ReducerInput) (state : RolloutState) (commands : List RolloutCommand := [])
    (reason : Option DenialReason := none) (transitionValid : Bool := true)
    (terminal : Bool := false) (ambiguityOrigin : Option RolloutState := none) : ReducerOutput :=
  ⟨request.state,state,request.event,commands,reason,transitionValid,terminal,ambiguityOrigin⟩

/-- Deny with the supplied reason, or with the derived one in its absence. -/
def deny (request : ReducerInput) (reason : DenialReason) : ReducerOutput :=
  result request .denied [] (some (request.denialReason.getD reason)) true true

/-- Retain the first pending state as the origin of the ambiguity. -/
def ambiguity (request : ReducerInput) : ReducerOutput :=
  result request .ambiguous [] (some .providerOutcomeAmbiguous) true false
    (some (request.ambiguityOrigin.getD request.state))

/-- The detours taken, in source order, when a required fact is missing. -/
def checkRequiredFacts (request : ReducerInput) (transition : Transition) : Option ReducerOutput :=
  let facts := request.facts
  if transition.requiresAuthorization=true ∧ facts.authorization≠.confirmed then
    some (deny request
      (if facts.authorization=.rejected then .callerUnauthorized else .callerUnauthenticated))
  else if transition.requiresAuthority=true ∧ facts.authority≠.confirmed then
    some (deny request
      (if facts.authority=.rejected then .epochMismatch else .authorityUnavailable))
  else if transition.requiresTime=true ∧ facts.timeWindow≠.confirmed then
    some (deny request
      (if facts.timeWindow=.rejected then .capabilityExpired else .contractInvalid))
  else if transition.requiresObservation=true ∧ facts.observation≠.confirmed then
    some (ambiguity request)
  else match transition.providerOutcome with
    | none => none
    | some outcome =>
      if facts.providerOutcome=.failedSafe then
        some (result request .failedSafe []
          (some (request.denialReason.getD .providerPreconditionFailed)) true true)
      else if facts.providerOutcome≠outcome then some (ambiguity request)
      else none

/-- States whose refused events are reported as terminal. -/
def absorbingStates : List RolloutState := [.revoked,.denied,.failedSafe]

/-- Reduce one explicit event without consulting any external state. -/
def reduceRollout (request : ReducerInput) : ReducerOutput :=
  match transitions.lookup (request.state,request.event) with
  | none =>
    result request request.state [] (some .transitionInvalid) false
      (decide (request.state∈absorbingStates)) request.ambiguityOrigin
  | some transition =>
    if transition.ambiguityOrigin≠none ∧ request.ambiguityOrigin≠transition.ambiguityOrigin then
      result request request.state [] (some .transitionInvalid) false false
        request.ambiguityOrigin
    else match checkRequiredFacts request transition with
      | some factResult => factResult
      | none =>
        let reason := match transition.state with
          | .denied => some (request.denialReason.getD .authorityUnavailable)
          | .failedSafe => some (request.denialReason.getD .providerPreconditionFailed)
          | .ambiguous => some .providerOutcomeAmbiguous
          | _ => none
        let origin :=
          if transition.state=.ambiguous ∧ request.state≠.ambiguous then some request.state
          else if request.state=.ambiguous ∧ transition.state≠.ambiguous then none
          else request.ambiguityOrigin
        result request transition.state transition.commands reason true transition.terminal origin

/-- One step of a history: an event with its facts and denial reason. -/
structure ReducerStep where
  event : RolloutEvent
  facts : ReducerFacts
  denialReason : Option DenialReason
  deriving DecidableEq,Repr

/-- The output of one step taken in a given state with a given origin. -/
def stepOutput (state : RolloutState) (origin : Option RolloutState) (step : ReducerStep) :
    ReducerOutput :=
  reduceRollout ⟨state,step.event,step.facts,step.denialReason,origin⟩

/-- All outputs of a history, each threading its state and origin onwards. -/
def reduceHistory (state : RolloutState) (origin : Option RolloutState) :
    List ReducerStep → List ReducerOutput
  | [] => []
  | step::steps =>
    let output := stepOutput state origin step
    output::reduceHistory output.state output.ambiguityOrigin steps

/-- A terminal output is never followed by a command or by another state. -/
def TerminalAbsorbing (outputs : List ReducerOutput) : Prop :=
  outputs.Pairwise (fun earlier later =>
    earlier.terminal=true → later.commands=[] ∧ later.state=earlier.state)

instance (outputs : List ReducerOutput) : Decidable (TerminalAbsorbing outputs) :=
  inferInstanceAs (Decidable (List.Pairwise _ _))

/-- Facts in which every boundary confirms and the provider is ambiguous. -/
def confirmedAmbiguous : ReducerFacts :=
  ⟨.confirmed,.confirmed,.confirmed,.confirmed,.ambiguous⟩

/-- An unresolved ambiguity is classified terminal and is still resolved by a
later readback, which emits a health evaluation command. -/
theorem terminal_absorbing_refuted :
    ¬∀ state origin steps,TerminalAbsorbing (reduceHistory state origin steps) := by
  intro h
  have hc := h .canaryPending none
    [⟨.providerOutcomeAmbiguous,confirmedAmbiguous,none⟩,
     ⟨.ambiguityUnresolved,confirmedAmbiguous,none⟩,
     ⟨.ambiguityResolvedCanary,confirmedAmbiguous,none⟩]
  revert hc
  decide

/-- The pending state whose ambiguity a resolution event settles. -/
def resolvedOrigin : RolloutEvent → Option RolloutState
  | .ambiguityResolvedCanary => some .canaryPending
  | .ambiguityResolvedPromotion => some .promotionPending
  | .ambiguityResolvedRecovery => some .recoveryPending
  | _ => none

/-- The inputs that leave a settled state: a repeated completion whose
observation is not confirmed, and a confirmed readback of the exact origin. -/
def Reopens (state : RolloutState) (origin : Option RolloutState) (step : ReducerStep) : Prop :=
  match state with
  | .promoted | .recovered => step.event=.completionConfirmed ∧ step.facts.observation≠.confirmed
  | .ambiguous => resolvedOrigin step.event≠none ∧ resolvedOrigin step.event=origin ∧
      step.facts.observation=.confirmed
  | _ => False

/-- States in which an output may be terminal. -/
def settledStates : List RolloutState :=
  [.promoted,.recovered,.ambiguous,.revoked,.denied,.failedSafe]

/-- No table entry leaves an absorbing state. -/
theorem transitions_absorbing {state : RolloutState} (hs : state∈absorbingStates)
    (event : RolloutEvent) : transitions.lookup (state,event)=none := by
  simp only [absorbingStates,List.mem_cons,List.not_mem_nil,or_false] at hs
  rcases hs with rfl | rfl | rfl <;> cases event <;> rfl

/-- Every entry flagged terminal leads to a settled state. -/
theorem transitions_terminal_settled :
    ∀ entry∈transitions,entry.2.terminal=true → entry.2.state∈settledStates := by decide

/-- Every detour for a missing fact ends in a settled state. -/
theorem checkRequiredFacts_settled {request : ReducerInput} {transition : Transition}
    {output : ReducerOutput} (h : checkRequiredFacts request transition=some output) :
    output.state∈settledStates := by
  have hdenied : ∀ reason,(deny request reason).state∈settledStates := by
    intro reason
    simp [deny,result,settledStates]
  have hambiguous : (ambiguity request).state∈settledStates := by
    simp [ambiguity,result,settledStates]
  unfold checkRequiredFacts at h
  dsimp only at h
  split at h
  · cases h
    exact hdenied _
  split at h
  · cases h
    exact hdenied _
  split at h
  · cases h
    exact hdenied _
  split at h
  · cases h
    exact hambiguous
  split at h
  · cases h
  · split at h
    · cases h
      simp [result,settledStates]
    · split at h
      · cases h
        exact hambiguous
      · cases h

/-- A terminal output always reports a settled state. -/
theorem terminal_settled {request : ReducerInput} (h : (reduceRollout request).terminal=true) :
    (reduceRollout request).state∈settledStates := by
  unfold reduceRollout at h ⊢
  cases hl : transitions.lookup (request.state,request.event) with
  | none =>
    simp only [hl,result,decide_eq_true_eq] at h ⊢
    simp only [absorbingStates,settledStates,List.mem_cons,List.not_mem_nil,or_false] at h ⊢
    tauto
  | some transition =>
    simp only [hl] at h ⊢
    by_cases ho :
        transition.ambiguityOrigin≠none ∧ request.ambiguityOrigin≠transition.ambiguityOrigin
    · rw [if_pos ho] at h
      cases h
    · rw [if_neg ho] at h ⊢
      cases hc : checkRequiredFacts request transition with
      | some output => exact checkRequiredFacts_settled hc
      | none =>
        rw [hc] at h
        exact transitions_terminal_settled _ (mem_of_lookup hl) h

/-- In an absorbing state every event is refused and nothing changes. -/
theorem absorbing_step {request : ReducerInput} (hs : request.state∈absorbingStates) :
    (reduceRollout request).commands=[] ∧ (reduceRollout request).state=request.state := by
  unfold reduceRollout
  rw [transitions_absorbing hs]
  exact ⟨rfl,rfl⟩

/-- The single entry of a completed rollout is its completion. -/
theorem transitions_completed {state : RolloutState} (hs : state=.promoted ∨ state=.recovered)
    (event : RolloutEvent) :
    transitions.lookup (state,event)=
      if event=.completionConfirmed then
        some {state := state,requiresObservation := true,terminal := true}
      else none := by
  rcases hs with rfl | rfl <;> cases event <;> rfl

/-- A completed rollout changes only on a completion that lacks a confirmed
observation. -/
theorem completed_step {state : RolloutState} (hs : state=.promoted ∨ state=.recovered)
    {origin : Option RolloutState} {step : ReducerStep} (hr : ¬Reopens state origin step) :
    (stepOutput state origin step).commands=[] ∧ (stepOutput state origin step).state=state := by
  have hentry := transitions_completed hs step.event
  unfold stepOutput reduceRollout
  dsimp only
  rw [hentry]
  by_cases he : step.event=.completionConfirmed
  · have hobs : step.facts.observation=.confirmed := by
      by_contra hn
      apply hr
      rcases hs with rfl | rfl <;> exact ⟨he,hn⟩
    simp [he,checkRequiredFacts,hobs,result]
  · simp [he,result]

/-- The entry of a resolution event requires exactly its own origin and a
confirmed observation, and leaves the ambiguous state. -/
theorem transitions_resolution {event : RolloutEvent} {pending : RolloutState}
    (h : resolvedOrigin event=some pending) :
    ∃ transition,transitions.lookup (.ambiguous,event)=some transition ∧
      transition.ambiguityOrigin=some pending ∧ transition.requiresAuthorization=false ∧
      transition.requiresAuthority=false ∧ transition.requiresTime=false ∧
      transition.requiresObservation=true ∧ transition.providerOutcome=none ∧
      transition.state≠.ambiguous := by
  cases event with
  | ambiguityResolvedCanary =>
    cases h
    exact ⟨_,rfl,rfl,rfl,rfl,rfl,rfl,rfl,by decide⟩
  | ambiguityResolvedPromotion =>
    cases h
    exact ⟨_,rfl,rfl,rfl,rfl,rfl,rfl,rfl,by decide⟩
  | ambiguityResolvedRecovery =>
    cases h
    exact ⟨_,rfl,rfl,rfl,rfl,rfl,rfl,rfl,by decide⟩
  | _ => cases h

/-- An event that resolves nothing leaves the ambiguous state unchanged. -/
theorem unresolved_step {origin : Option RolloutState} {step : ReducerStep}
    (h : resolvedOrigin step.event=none) :
    (stepOutput .ambiguous origin step).commands=[] ∧
      (stepOutput .ambiguous origin step).state=.ambiguous := by
  obtain ⟨event,facts,denialReason⟩ := step
  cases event with
  | ambiguityResolvedCanary => cases h
  | ambiguityResolvedPromotion => cases h
  | ambiguityResolvedRecovery => cases h
  | _ => exact ⟨rfl,rfl⟩

/-- An ambiguous rollout changes only on a confirmed readback that matches
its origin. -/
theorem ambiguous_step {origin : Option RolloutState} {step : ReducerStep}
    (hr : ¬Reopens .ambiguous origin step) :
    (stepOutput .ambiguous origin step).commands=[] ∧
      (stepOutput .ambiguous origin step).state=.ambiguous := by
  cases hp : resolvedOrigin step.event with
  | none => exact unresolved_step hp
  | some pending =>
    obtain ⟨transition,hl,ha,h1,h2,h3,h4,-,-⟩ := transitions_resolution hp
    unfold stepOutput reduceRollout
    simp only [hl,ha]
    by_cases ho : origin=some pending
    · have hobs : step.facts.observation≠.confirmed := by
        intro hc
        exact hr ⟨by simp [hp],by rw [hp,ho],hc⟩
      simp [ho,checkRequiredFacts,h1,h2,h3,h4,hobs,ambiguity,result]
    · simp [ho,result]

/-- A reopening input always leaves the state that it meets. -/
theorem reopens_step {state : RolloutState} {origin : Option RolloutState} {step : ReducerStep}
    (hr : Reopens state origin step) : (stepOutput state origin step).state≠state := by
  have hcompleted : ∀ {state : RolloutState},state=.promoted ∨ state=.recovered →
      step.event=.completionConfirmed → step.facts.observation≠.confirmed →
      (stepOutput state origin step).state≠state := by
    intro state hs he hobs
    have hentry := transitions_completed hs step.event
    unfold stepOutput reduceRollout
    dsimp only
    rw [hentry,if_pos he]
    rcases hs with rfl | rfl <;> simp [checkRequiredFacts,hobs,ambiguity,result]
  cases state with
  | promoted => exact hcompleted (.inl rfl) hr.1 hr.2
  | recovered => exact hcompleted (.inr rfl) hr.1 hr.2
  | ambiguous =>
    obtain ⟨hne,ho,hobs⟩ := hr
    obtain ⟨pending,hp⟩ := Option.ne_none_iff_exists'.mp hne
    obtain ⟨transition,hl,ha,h1,h2,h3,h4,h5,hs⟩ := transitions_resolution hp
    unfold stepOutput reduceRollout
    simp only [hl,ha,← ho,hp]
    simpa [checkRequiredFacts,h1,h2,h3,h4,h5,hobs,result] using hs
  | _ => cases hr

/-- Outside the reopening inputs, a settled state emits nothing and stays. -/
theorem settled_step {state : RolloutState} (hs : state∈settledStates)
    {origin : Option RolloutState} {step : ReducerStep} (hr : ¬Reopens state origin step) :
    (stepOutput state origin step).commands=[] ∧ (stepOutput state origin step).state=state := by
  by_cases ha : state∈absorbingStates
  · exact @absorbing_step ⟨state,step.event,step.facts,step.denialReason,origin⟩ ha
  · simp only [settledStates,absorbingStates,List.mem_cons,List.not_mem_nil,or_false] at hs ha
    rcases hs with rfl | rfl | rfl | hs
    · exact completed_step (.inl rfl) hr
    · exact completed_step (.inr rfl) hr
    · exact ambiguous_step hr
    · exact absurd hs ha

/-- No step of a history is a reopening input in the state that it meets. -/
def Unopened (state : RolloutState) (origin : Option RolloutState) : List ReducerStep → Prop
  | [] => True
  | step::steps =>
    ¬Reopens state origin step ∧
      Unopened (stepOutput state origin step).state
        (stepOutput state origin step).ambiguityOrigin steps

/-- A settled state emits nothing and stays through a whole history exactly
when the history never reopens it. -/
theorem settled_history {state : RolloutState} (hs : state∈settledStates)
    {origin : Option RolloutState} {steps : List ReducerStep} :
    (∀ output∈reduceHistory state origin steps,output.commands=[] ∧ output.state=state) ↔
      Unopened state origin steps := by
  induction steps generalizing origin with
  | nil => simp [reduceHistory,Unopened]
  | cons step steps ih =>
    simp only [reduceHistory,List.forall_mem_cons,Unopened]
    by_cases hr : Reopens state origin step
    · constructor
      · intro h
        exact absurd h.1.2 (reopens_step hr)
      · intro h
        exact absurd hr h.1
    · have hstep := settled_step hs hr
      rw [hstep.2,ih]
      simp only [hr,hstep.1,not_false_eq_true,true_and,and_self]

/-- An absorbing state admits no reopening input at all. -/
theorem unopened_of_absorbing {state : RolloutState} (hs : state∈absorbingStates)
    (origin : Option RolloutState) (steps : List ReducerStep) : Unopened state origin steps := by
  induction steps generalizing origin with
  | nil => trivial
  | cons step steps ih =>
    have hstep : (stepOutput state origin step).state=state :=
      (@absorbing_step ⟨state,step.event,step.facts,step.denialReason,origin⟩ hs).2
    refine ⟨?_,?_⟩
    · simp only [absorbingStates,List.mem_cons,List.not_mem_nil,or_false] at hs
      rcases hs with rfl | rfl | rfl <;> exact id
    · rw [hstep]
      exact ih _

/-- State and ambiguity origin at the end of a history. -/
def historyEnd (state : RolloutState) (origin : Option RolloutState) :
    List ReducerStep → RolloutState×Option RolloutState
  | [] => (state,origin)
  | step::steps =>
    historyEnd (stepOutput state origin step).state (stepOutput state origin step).ambiguityOrigin
      steps

theorem reduceHistory_append (state : RolloutState) (origin : Option RolloutState)
    (before after : List ReducerStep) :
    reduceHistory state origin (before++after)=
      reduceHistory state origin before++
        reduceHistory (historyEnd state origin before).1 (historyEnd state origin before).2
          after := by
  induction before generalizing state origin with
  | nil => rfl
  | cons step before ih =>
    simp only [List.cons_append,reduceHistory,historyEnd,ih]

/-- After a terminal output at any place of any run, the later outputs emit
nothing and keep its state exactly as long as no reopening input is presented;
a revoked, denied or failed-safe output admits no such input at all. -/
theorem terminal_history (state : RolloutState) (origin : Option RolloutState)
    (before : List ReducerStep) (step : ReducerStep) (after : List ReducerStep) :
    let met := historyEnd state origin before
    let output := stepOutput met.1 met.2 step
    let later := reduceHistory output.state output.ambiguityOrigin after
    reduceHistory state origin (before++step::after)=
        reduceHistory state origin before++output::later ∧
      (output.terminal=true →
        ((∀ next∈later,next.commands=[] ∧ next.state=output.state) ↔
          Unopened output.state output.ambiguityOrigin after) ∧
        (output.state∈absorbingStates →
          ∀ next∈later,next.commands=[] ∧ next.state=output.state)) := by
  intro met output later
  refine ⟨reduceHistory_append state origin before (step::after),?_⟩
  intro ht
  have hsettled : output.state∈settledStates := terminal_settled ht
  refine ⟨settled_history hsettled,?_⟩
  intro ha
  exact (settled_history hsettled).mpr (unopened_of_absorbing ha _ _)

/-- A denied canary stays denied when its verification is reported later. -/
theorem terminal_history_denied :
    let output := stepOutput .canaryPending none ⟨.authorityDenied,{},none⟩
    ∀ next∈reduceHistory output.state output.ambiguityOrigin
        [⟨.canaryVerified,confirmedAmbiguous,none⟩],
      next.commands=[] ∧ next.state=.denied :=
  ((terminal_history .canaryPending none [] ⟨.authorityDenied,{},none⟩
    [⟨.canaryVerified,confirmedAmbiguous,none⟩]).2 rfl).2 (by decide)

end ControlGraph.RolloutReducer
