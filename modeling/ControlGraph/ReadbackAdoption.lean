import ControlGraph.EvidenceIntegrity
import ControlGraph.ReadbackFinality

/-!
# Resolutions are exact and adopted

Once the resolution of a command is committed, a call ends at the first read of the
receipt: a call of that command adopts the committed receipt, and a call of another
command is refused, because the receipt is no longer ambiguous and does
not carry its mark. Neither sends anything. A run has at most one landing for a
receipt, made while the authority and the claim that the command needs were stored.
A sample run resolves a receipt once and adopts it afterwards.
-/

namespace ControlGraph.ReadbackAdoption

open Checks ContractText Utf8Text StorageIdentity ReceiptContracts ReceiptReplacement ReceiptStore
  ReadbackContracts ReadbackResolver ReadbackRuns ReadbackFinality LabelledRuns

open EvidenceIntegrity (sampleFunctions sampleTarget sampleTime sampleOperator sampleRequest
  sampleRoot sampleClaim sampleAuthority)

open RootCreation (capabilityLineageAnchor)

open TrustedRoots (InspectedRecords)

/-- A call that ends at its first read. -/
structure EndsAtRead (expected : Outcome → Prop) (command : AmbiguousReceiptReadbackCommandV1)
    (call : Call) : Prop where
  command : call.command=command
  unsent : call.pending=none
  /-- It has not read the receipt, or it has ended. -/
  place : call.stage=.reading ∨ ∃ outcome,call.stage=.ended outcome ∧ expected outcome

/-- The receipt has been adopted, or could not be read. -/
def Adopts (command : AmbiguousReceiptReadbackCommandV1) (stored : StoredRecord ExecutionReceipt)
    (outcome : Outcome) : Prop :=
  outcome=.failed (.denied .receiptUnavailable) ∨ ∃ result,outcome=.returned result ∧
    result.disposition=.adopted ∧ result.command=command ∧ result.stored_receipt=stored

/-- The call was refused, or the receipt could not be read. -/
def Refuses (outcome : Outcome) : Prop :=
  outcome=.failed (.denied .receiptUnavailable) ∨ outcome=.failed (.denied .receiptConflict) ∨
    outcome=.failed (.denied .receiptStateDenied)

section

variable {functions : ReadbackFunctions} {target : TargetBinding} {database : Database}
  {command : AmbiguousReceiptReadbackCommandV1} {stored : StoredRecord ExecutionReceipt}
  {call : Call}

theorem requireExactAmbiguous_verified (hverified : stored.value.outcome=.verified) :
    requireExactAmbiguous functions target command stored=.error (.denied .receiptConflict) ∨
      requireExactAmbiguous functions target command stored=
        .error (.denied .receiptStateDenied) := by
  unfold requireExactAmbiguous
  by_cases hlocator : receiptMatchesLocator functions target command stored.value
  · rw [bind_of_ok (require_of hlocator)]
    by_cases hpinned : stored.revision=command.expected_storage_revision.1 ∧
        functions.canonical_sha256 (.executionReceipt stored.value)=command.expected_receipt_sha256
    · rw [bind_of_ok (require_of hpinned)]
      refine .inr ?_
      have hclosed : ¬(stored.value.outcome=.ambiguous ∧
          stored.value.reason_code=some .providerOutcomeAmbiguous ∧
          stored.value.provider_operation≠none ∧
          stored.value.observed_etag=some command.expected_ambiguous_observed_etag ∧
          stored.value.updated_at=command.expected_ambiguous_updated_at) := by
        rintro ⟨hambiguous,-⟩
        rw [hverified] at hambiguous
        cases hambiguous
      exact require_eq_error.mpr ⟨hclosed,rfl⟩
    · exact .inl (bind_eq_error.mpr (.inl (require_eq_error.mpr ⟨hpinned,rfl⟩)))
  · exact .inl (bind_eq_error.mpr (.inl (require_eq_error.mpr ⟨hlocator,rfl⟩)))

/-- A committed receipt is no candidate of a command with another mark. -/
theorem refused_by_mark {other : AmbiguousReceiptReadbackCommandV1}
    (hcommitted : Committed functions target database command stored)
    (hmark : ambiguousReceiptResolutionEvidenceId functions.sha256 other≠
      ambiguousReceiptResolutionEvidenceId functions.sha256 command) :
    ¬adoptionCandidate functions other stored := by
  rintro ⟨-,-,hmarked⟩
  have hlast := hmarked.1
  rw [hcommitted.marked] at hlast
  exact hmark (Option.some.inj hlast).symm

/-- A call that ends at its first read goes on in that way. -/
theorem EndsAtRead.next {expected : Outcome → Prop} (h : EndsAtRead expected command call)
    (hread : database.readReceipt functions.sha256 target command.idempotency_key=.ok (some stored))
    (hunavailable : expected (.failed (.denied .receiptUnavailable)))
    (hlocate : ∃ outcome,
      call.locate functions target stored={call with stage := .ended outcome} ∧ expected outcome)
    (action : CallAction) :
    EndsAtRead expected command (call.next functions target database action) := by
  rcases h.place with hplace | ⟨outcome,hplace,hexpected⟩
  · unfold Call.next
    simp only [hplace]
    cases action with
    | readReceipt served =>
      dsimp only
      split
      · rw [h.command,hread]
        obtain ⟨outcome,hlocated,hexpected⟩ := hlocate
        simp only [hlocated]
        exact ⟨h.command,h.unsent,.inr ⟨outcome,rfl,hexpected⟩⟩
      · exact ⟨h.command,h.unsent,.inr ⟨_,rfl,hunavailable⟩⟩
    | readRoot => exact h
    | confirmOperation => exact h
    | readTarget => exact h
    | submit => exact h
    | report => exact h
    | readAgain => exact h
  · have hstay : call.next functions target database action=call := by
      unfold Call.next
      simp only [hplace]
    rw [hstay]
    exact h

variable {expected : Outcome → Prop} {index : Nat} {system : System}

/-- A call that ends at its first read stays so while the system goes on. -/
theorem EndsAtRead.step (h : EndsAtRead expected command call) (hcall : system.calls index=some call)
    (hread : system.database.readReceipt functions.sha256 target command.idempotency_key=
      .ok (some stored))
    (hunavailable : expected (.failed (.denied .receiptUnavailable)))
    (hlocate : ∃ outcome,
      call.locate functions target stored={call with stage := .ended outcome} ∧ expected outcome)
    (action : Action) :
    ∃ next,(ReadbackResolver.step functions target system action).calls index=some next ∧
      EndsAtRead expected command next := by
  cases action with
  | environment action => exact ⟨call,hcall,h⟩
  | start other command =>
    simp only [ReadbackResolver.step]
    cases hother : system.calls other with
    | some found => exact ⟨call,hcall,h⟩
    | none =>
      have hne : index≠other := by
        rintro rfl
        rw [hother] at hcall
        cases hcall
      exact ⟨call,(Function.update_of_ne hne _ _).trans hcall,h⟩
  | call other action =>
    simp only [ReadbackResolver.step]
    cases hother : system.calls other with
    | none => exact ⟨call,hcall,h⟩
    | some found =>
      by_cases hsame : index=other
      · rw [← hsame,hcall] at hother
        cases Option.some.inj hother
        refine ⟨_,?_,h.next hread hunavailable hlocate action⟩
        rw [← hsame]
        exact Function.update_self _ _ _
      · exact ⟨call,(Function.update_of_ne hsame _ _).trans hcall,h⟩
  | land other =>
    simp only [ReadbackResolver.step]
    cases hother : system.calls other with
    | none => exact ⟨call,hcall,h⟩
    | some found =>
      dsimp only
      cases heffect : found.effect functions target system.database with
      | none => exact ⟨call,hcall,h⟩
      | some after =>
        have hne : index≠other := by
          rintro rfl
          rw [hcall] at hother
          cases Option.some.inj hother
          obtain ⟨_,pending,-,hpending,-⟩ := effect_eq_some heffect
          rw [h.unsent] at hpending
          cases hpending
        exact ⟨call,(Function.update_of_ne hne _ _).trans hcall,h⟩

/-- What a call with the command of a committed resolution does with its receipt. -/
theorem locate_adopts {actions : List Action} {pending : Pending}
    (hpins : Pins functions target command stored)
    (hsent : SentBy functions target actions index command stored pending)
    (hcommand : call.command=command) :
    ∃ result,call.locate functions target pending.prepared.document.stored=
        {call with stage := .ended (.returned result)} ∧ result.disposition=.adopted ∧
      result.command=command ∧ result.stored_receipt=pending.prepared.document.stored := by
  have hdocument := hsent.document hpins
  obtain ⟨observed_etag,hresolves⟩ := hdocument.resolves
  obtain ⟨boundary,-,-,-,-,-,hbounded,-⟩ := hsent
  obtain ⟨hcandidate,hexact,result,hresult,hdisposition,hresultCommand,hstored⟩ :=
    adopted_of_resolves hpins hbounded hresolves hdocument.revision .adopted
  refine ⟨result,?_,hdisposition,hresultCommand,hstored⟩
  rw [Call.locate,hcommand,if_pos hcandidate,if_pos hexact,finish,hresult]

/-- What a call with another command does with a committed receipt. -/
theorem locate_refuses {other : AmbiguousReceiptReadbackCommandV1}
    (hcommitted : Committed functions target database command stored)
    (hmark : ambiguousReceiptResolutionEvidenceId functions.sha256 other≠
      ambiguousReceiptResolutionEvidenceId functions.sha256 command)
    (hcommand : call.command=other) :
    ∃ code,call.locate functions target stored=
        {call with stage := .ended (.failed (.denied code))} ∧
      (code=.receiptConflict ∨ code=.receiptStateDenied) := by
  have hcandidate := refused_by_mark hcommitted hmark
  rw [Call.locate,hcommand,if_neg hcandidate]
  have hrequire := @requireExactAmbiguous_verified functions target other stored hcommitted.verified
  rcases hrequire with hconflict | hdenied
  · rw [hconflict]
    exact ⟨_,rfl,.inl rfl⟩
  · rw [hdenied]
    exact ⟨_,rfl,.inr rfl⟩

/-- A call that starts while a resolution is committed ends at its first read. -/
theorem ends_after {earlier : List Action} {other : AmbiguousReceiptReadbackCommandV1}
    (hnone : (after functions target database earlier).calls index=none) (later : List Action)
    (hcommitted : ∀ middle,middle<+:later → Committed functions target
      (after functions target database (earlier++.start index other::middle)).database command stored)
    (hkey : other.idempotency_key=command.idempotency_key)
    (hunavailable : expected (.failed (.denied .receiptUnavailable)))
    (hlocate : ∀ call : Call,call.command=other → ∃ outcome,
      call.locate functions target stored={call with stage := .ended outcome} ∧ expected outcome) :
    ∃ call,(after functions target database (earlier++.start index other::later)).calls index=
        some call ∧ EndsAtRead expected other call := by
  induction later using List.reverseRecOn with
  | nil =>
    refine ⟨.fresh other,?_,rfl,rfl,.inl rfl⟩
    unfold after at hnone ⊢
    rw [run_concat]
    simp only [ReadbackResolver.step,hnone]
    exact Function.update_self _ _ _
  | append_singleton later action ih =>
    obtain ⟨call,hcall,hends⟩ :=
      ih fun middle hbegins => hcommitted middle (hbegins.trans (List.prefix_append later _))
    have hread := (hcommitted later (List.prefix_append later _)).readable
    rw [← hkey] at hread
    have hstep := hends.step hcall hread hunavailable (hlocate call hends.command) action
    have hsplit : earlier++.start index other::(later++[action])=
        (earlier++.start index other::later)++[action] := by
      simp only [List.append_assoc,List.cons_append]
    unfold after at hstep ⊢
    rw [hsplit,run_concat]
    exact hstep

/-- What a call has landed in a part of a run is committed wherever the run goes on. -/
theorem committed_after {actions earlier : List Action} {owner : Identifier → Nat}
    (howner : ∀ index clock mutation_id,.call index (.submit clock mutation_id)∈actions →
      owner mutation_id=index)
    (hcall : (after functions target database earlier).calls index=some call)
    (hlanded : call.landed=true) {pending : Pending} (hpending : call.pending=some pending)
    {middle : List Action} (hbegins : earlier++middle<+:actions) :
    Committed functions target (after functions target database (earlier++middle)).database
      call.command pending.prepared.document.stored := by
  have hearlier : SystemHolds functions target earlier (after functions target database earlier) :=
    holds_after (fun index clock mutation_id hmem => howner index clock mutation_id
      (hbegins.subset (List.mem_append_left _ hmem))) database
  have hmiddle : SystemHolds functions target (earlier++middle)
      (after functions target database (earlier++middle)) :=
    holds_after (fun index clock mutation_id hmem => howner index clock mutation_id
      (hbegins.subset hmem)) database
  obtain ⟨stored,-,-,-,hresolved⟩ := hearlier.document hcall hpending
  have hstored : Landed (after functions target database earlier) index pending.prepared.document_id
      pending.prepared.document := ⟨call,pending,hcall,hlanded,hpending,rfl,rfl⟩
  exact committed_of_document hresolved (hmiddle.landed (landed_after middle hstored))

end

section

variable (functions : ReadbackFunctions) (target : TargetBinding) (database : Database)
  (actions : List Action)

/-- Whatever a call changes in the store is the first landing over the receipt that its
command pins, and stays. -/
def LandsOnce : Prop :=
  ∀ earlier action later,actions=earlier++action::later →
    (∀ other,action≠.environment other) →
    (after functions target database (earlier++[action])).database≠
      (after functions target database earlier).database →
    ∃ index call stored pending,action=.land index ∧
      (after functions target database earlier).calls index=some call ∧
      Landing functions target earlier index call (after functions target database earlier).database
        (after functions target database (earlier++[action])).database stored pending ∧
      (∀ other document,¬Landed (after functions target database earlier) other
        pending.prepared.document_id document) ∧
      (after functions target database actions).database.receipts pending.prepared.document_id=
        some pending.prepared.document

/-- One call at most returns a receipt as resolved. -/
def ResolvesForOne : Prop :=
  ∀ first second firstCall secondCall firstResult secondResult,
    (after functions target database actions).calls first=some firstCall →
    (after functions target database actions).calls second=some secondCall →
    firstCall.stage=.ended (.returned firstResult) →
    secondCall.stage=.ended (.returned secondResult) →
    firstResult.disposition=.resolved → secondResult.disposition=.resolved →
    firstCall.command.idempotency_key=secondCall.command.idempotency_key → first=second

/-- A call that starts after the landing of its command adopts what has landed. -/
def LaterCallsAdopt : Prop :=
  ∀ earlier index call pending other later,
    actions=earlier++.start other call.command::later →
    (after functions target database earlier).calls index=some call → call.landed=true →
    call.pending=some pending → (after functions target database earlier).calls other=none →
    ∃ found,(after functions target database actions).calls other=some found ∧
      EndsAtRead (Adopts call.command pending.prepared.document.stored) call.command found ∧
      (found.stage=.reading → ∃ result,
        (found.next functions target (after functions target database actions).database
          (.readReceipt true)).stage=.ended (.returned result) ∧
        result.disposition=.adopted ∧ result.command=call.command ∧
        result.stored_receipt=pending.prepared.document.stored)

/-- A call of another command for a receipt that has landed changes nothing and returns
nothing, and is refused where it reads the receipt after the landing. -/
def OthersRefused : Prop :=
  (∀ index call pending other found,
    (after functions target database actions).calls index=some call → call.landed=true →
    call.pending=some pending → (after functions target database actions).calls other=some found →
    found.command.idempotency_key=call.command.idempotency_key → found.command≠call.command →
    MarksApart functions.sha256 found.command call.command →
    found.landed=false ∧ ∀ result,found.stage≠.ended (.returned result)) ∧
  ∀ earlier index call pending other command later,actions=earlier++.start other command::later →
    (after functions target database earlier).calls index=some call → call.landed=true →
    call.pending=some pending → (after functions target database earlier).calls other=none →
    command.idempotency_key=call.command.idempotency_key → command≠call.command →
    MarksApart functions.sha256 command call.command →
    ∃ found,(after functions target database actions).calls other=some found ∧
      EndsAtRead Refuses command found ∧
      (found.stage=.reading → ∃ code,
        (found.next functions target (after functions target database actions).database
          (.readReceipt true)).stage=.ended (.failed (.denied code)) ∧
        (code=.receiptConflict ∨ code=.receiptStateDenied))

end

section

variable {functions : ReadbackFunctions} {target : TargetBinding} {database : Database}
  {actions : List Action} {owner : Identifier → Nat}

theorem landsOnce (howner : ∀ index clock mutation_id,
      .call index (.submit clock mutation_id)∈actions → owner mutation_id=index) :
    LandsOnce functions target database actions := by
  intro earlier action later hsplit hcall hchange
  have hearlier : SystemHolds functions target earlier (after functions target database earlier) :=
    holds_after (fun index clock mutation_id hmem => howner index clock mutation_id
      (hsplit ▸ List.mem_append_left _ hmem)) database
  have hactions : SystemHolds functions target actions (after functions target database actions) :=
    holds_after howner database
  have hnext : after functions target database (earlier++[action])=
      step functions target (after functions target database earlier) action := run_concat
  rw [hnext] at hchange ⊢
  cases action with
  | environment other => exact absurd rfl (hcall other)
  | start index command =>
    refine absurd ?_ hchange
    simp only [step]
    cases (after functions target database earlier).calls index <;> rfl
  | call index action =>
    refine absurd ?_ hchange
    simp only [step]
    cases (after functions target database earlier).calls index <;> rfl
  | land index =>
    simp only [step] at hchange ⊢
    cases hfound : (after functions target database earlier).calls index with
    | none =>
      rw [hfound] at hchange
      exact absurd rfl hchange
    | some call =>
      rw [hfound] at hchange
      dsimp only at hchange ⊢
      cases heffect : call.effect functions target (after functions target database earlier).database with
      | none =>
        rw [heffect] at hchange
        exact absurd rfl hchange
      | some written =>
        obtain ⟨stored,pending,hlanding⟩ := landing_of_effect (hearlier.calls hfound) heffect
        refine ⟨index,call,stored,pending,rfl,hfound,hlanding,?_,?_⟩
        · intro other document hlanded
          obtain ⟨current,hcurrent,hstored⟩ := hlanding.replaced
          have hsame := Option.some.inj (hcurrent.symm.trans (hearlier.landed hlanded))
          have hambiguous := hlanding.pins.outcome
          rw [← hstored,hsame,(hearlier.resolved hlanded).1] at hambiguous
          cases hambiguous
        · have hafter : Landed (after functions target database (earlier++[.land index])) index
              pending.prepared.document_id pending.prepared.document := by
            rw [hnext]
            simp only [step,hfound,heffect]
            exact ⟨{call with landed := true},pending,Function.update_self _ _ _,rfl,
              hlanding.submitted,rfl,rfl⟩
          have hstays := landed_after later hafter
          rw [List.append_assoc,List.singleton_append,← hsplit] at hstays
          exact hactions.landed hstays

/-- Two landings for one key are of one call. -/
theorem landed_unique (howner : ∀ index clock mutation_id,
      .call index (.submit clock mutation_id)∈actions → owner mutation_id=index)
    {first second : Nat} {firstCall secondCall : Call}
    (hfirst : (after functions target database actions).calls first=some firstCall)
    (hsecond : (after functions target database actions).calls second=some secondCall)
    (hfirstLanded : firstCall.landed=true) (hsecondLanded : secondCall.landed=true)
    (hkey : firstCall.command.idempotency_key=secondCall.command.idempotency_key) :
    first=second := by
  have hactions : SystemHolds functions target actions (after functions target database actions) :=
    holds_after howner database
  obtain ⟨firstPending,hfirstPending⟩ := (hactions.calls hfirst).landed hfirstLanded
  obtain ⟨secondPending,hsecondPending⟩ := (hactions.calls hsecond).landed hsecondLanded
  obtain ⟨_,-,-,hfirstSent,hfirstDocument⟩ := hactions.document hfirst hfirstPending
  obtain ⟨_,-,-,hsecondSent,hsecondDocument⟩ := hactions.document hsecond hsecondPending
  have hid : firstPending.prepared.document_id=secondPending.prepared.document_id := by
    have hfirstId := hfirstDocument.document_id
    rw [hkey,hsecondDocument.document_id] at hfirstId
    exact (Except.ok.inj hfirstId).symm
  have hfirstStored := hactions.landed
    ⟨firstCall,firstPending,hfirst,hfirstLanded,hfirstPending,rfl,rfl⟩
  have hsecondStored := hactions.landed
    ⟨secondCall,secondPending,hsecond,hsecondLanded,hsecondPending,rfl,rfl⟩
  rw [hid,hsecondStored] at hfirstStored
  have hsame := Option.some.inj hfirstStored
  rw [← owner_of_sent howner hfirstSent,← hsame]
  exact owner_of_sent howner hsecondSent

/-- A receipt is returned as resolved by the call that has landed it. -/
theorem resolvesForOne (howner : ∀ index clock mutation_id,
      .call index (.submit clock mutation_id)∈actions → owner mutation_id=index) :
    ResolvesForOne functions target database actions := by
  intro first second firstCall secondCall firstResult secondResult hfirst hsecond hfirstEnded
    hsecondEnded hfirstResolved hsecondResolved hkey
  have hactions : SystemHolds functions target actions (after functions target database actions) :=
    holds_after howner database
  have hfirstLanded := (((hactions.calls hfirst).returned _ hfirstEnded).2 hfirstResolved).1
  have hsecondLanded := (((hactions.calls hsecond).returned _ hsecondEnded).2 hsecondResolved).1
  exact landed_unique howner hfirst hsecond hfirstLanded hsecondLanded hkey

/-- What a call that reads a committed receipt does. -/
theorem next_read {call : Call} {stored : StoredRecord ExecutionReceipt} {outcome : Outcome}
    (hplace : call.stage=.reading)
    (hread : database.readReceipt functions.sha256 target call.command.idempotency_key=
      .ok (some stored))
    (hlocate : call.locate functions target stored={call with stage := .ended outcome}) :
    (call.next functions target database (.readReceipt true)).stage=.ended outcome := by
  unfold Call.next
  simp only [hplace,hread,hlocate,if_pos]

theorem laterCallsAdopt (howner : ∀ index clock mutation_id,
      .call index (.submit clock mutation_id)∈actions → owner mutation_id=index) :
    LaterCallsAdopt functions target database actions := by
  rintro earlier index call pending other later hsplit hcall hlanded hpending hnone
  have hearlier : SystemHolds functions target earlier (after functions target database earlier) :=
    holds_after (fun index clock mutation_id hmem => howner index clock mutation_id
      (hsplit ▸ List.mem_append_left _ hmem)) database
  obtain ⟨stored,-,hpins,hsent,-⟩ := hearlier.document hcall hpending
  have hcommitted : ∀ middle,middle<+:later → Committed functions target
      (after functions target database (earlier++.start other call.command::middle)).database
        call.command pending.prepared.document.stored := by
    intro middle hbegins
    refine committed_after howner hcall hlanded hpending ?_
    rw [hsplit]
    exact (List.prefix_append_right_inj earlier).mpr ((List.prefix_cons_inj _).mpr hbegins)
  have hlocate : ∀ found : Call,found.command=call.command → ∃ outcome,
      found.locate functions target pending.prepared.document.stored=
        {found with stage := .ended outcome} ∧
      Adopts call.command pending.prepared.document.stored outcome := by
    intro found hcommand
    obtain ⟨result,hlocated,hresult⟩ := locate_adopts hpins hsent hcommand
    exact ⟨.returned result,hlocated,.inr ⟨result,rfl,hresult⟩⟩
  obtain ⟨found,hfound,hends⟩ := ends_after hnone later hcommitted rfl (.inl rfl) hlocate
  have hread := (hcommitted later List.prefix_rfl).readable
  rw [← hsplit] at hfound hread
  refine ⟨found,hfound,hends,fun hplace => ?_⟩
  obtain ⟨result,hlocated,hresult⟩ := locate_adopts hpins hsent hends.command
  rw [← hends.command] at hread
  exact ⟨result,next_read hplace hread hlocated,hresult⟩

theorem othersRefused (howner : ∀ index clock mutation_id,
      .call index (.submit clock mutation_id)∈actions → owner mutation_id=index) :
    OthersRefused functions target database actions := by
  have hactions : SystemHolds functions target actions (after functions target database actions) :=
    holds_after howner database
  constructor
  · intro index call pending other found hcall hlanded hpending hfound hkey hcommand hapart
    constructor
    · by_contra hother
      have hsame := landed_unique howner hfound hcall (Bool.eq_true_of_not_eq_false hother) hlanded hkey
      rw [hsame,hcall] at hfound
      exact hcommand (congrArg Call.command (Option.some.inj hfound)).symm
    · intro result hresult
      have hcommitted := (hactions.returned hfound hresult).2
      have hmark := (hcommitted.unique (hactions.committed hcall hlanded hpending) hkey).2
      exact hcommand (command_of_mark hapart hmark)
  · intro earlier index call pending other command later hsplit hcall hlanded hpending hnone hkey
      hcommand hapart
    have hmark : ambiguousReceiptResolutionEvidenceId functions.sha256 command≠
        ambiguousReceiptResolutionEvidenceId functions.sha256 call.command :=
      fun hsame => hcommand (command_of_mark hapart hsame)
    have hcommitted : ∀ middle,middle<+:later → Committed functions target
        (after functions target database (earlier++.start other command::middle)).database
          call.command pending.prepared.document.stored := by
      intro middle hbegins
      refine committed_after howner hcall hlanded hpending ?_
      rw [hsplit]
      exact (List.prefix_append_right_inj earlier).mpr ((List.prefix_cons_inj _).mpr hbegins)
    have hlast := hcommitted later List.prefix_rfl
    have hlocate : ∀ found : Call,found.command=command → ∃ outcome,
        found.locate functions target pending.prepared.document.stored=
          {found with stage := .ended outcome} ∧ Refuses outcome := by
      intro found hfoundCommand
      obtain ⟨code,hlocated,hcode⟩ := locate_refuses hlast hmark hfoundCommand
      refine ⟨.failed (.denied code),hlocated,?_⟩
      rcases hcode with rfl | rfl
      · exact .inr (.inl rfl)
      · exact .inr (.inr rfl)
    obtain ⟨found,hfound,hends⟩ := ends_after hnone later hcommitted hkey (.inl rfl) hlocate
    have hread := hlast.readable
    rw [← hsplit] at hfound hread
    refine ⟨found,hfound,hends,fun hplace => ?_⟩
    obtain ⟨code,hlocated,hcode⟩ := locate_refuses hlast hmark hends.command
    rw [← hkey,← hends.command] at hread
    exact ⟨code,next_read hplace hread hlocated,hcode⟩

/-- An ambiguous receipt is resolved once, and the resolution is adopted by later calls of its
command and refused to all others. -/
theorem readback_resolves_once (functions : ReadbackFunctions) (target : TargetBinding)
    (database : Database) (actions : List Action) (owner : Identifier → Nat)
    (howner : ∀ index clock mutation_id,
      .call index (.submit clock mutation_id)∈actions → owner mutation_id=index) :
    LandsOnce functions target database actions ∧ ResolvesForOne functions target database actions ∧
      LaterCallsAdopt functions target database actions ∧
      OthersRefused functions target database actions :=
  ⟨landsOnce howner,resolvesForOne howner,laterCallsAdopt howner,othersRefused howner⟩

end

/-- Functions of the sample run, with one digest for everything. -/
def readbackFunctions : ReadbackFunctions := ⟨sampleFunctions,fun _ => ""⟩

/-- The ambiguous receipt of the sample run. -/
def ambiguousFields : ExecutionReceiptFields where
  receipt_id := ⟨zeroSha256.1,isIdentifier_digest _⟩
  request_id := sampleRequest
  idempotency_key := sampleRequest
  capability_sha256 := zeroSha256
  mutation_sha256 := zeroSha256
  plan_sha256 := zeroSha256
  expected_poststate_sha256 := zeroSha256
  target := sampleTarget
  root_id := sampleRoot.root_id
  root_sha256 := zeroSha256
  epoch := firstEpoch
  action := .applyCanary
  provider_etag := sampleRoot.content.stable_snapshot.provider_etag
  dispatch_not_after := sampleTime
  outcome := .ambiguous
  reason_code := some .providerOutcomeAmbiguous
  provider_operation := some sampleOperator
  observed_etag := some sampleRoot.content.stable_snapshot.provider_etag
  observed_authority_epoch := some firstEpoch
  created_at := sampleTime
  updated_at := sampleTime
  evidence_ids := []

def ambiguousStored : StoredRecord ExecutionReceipt :=
  ⟨⟨ambiguousFields,by decide +kernel⟩,1,one_revision⟩

/-- The command that pins the receipt. -/
def readbackCommand : AmbiguousReceiptReadbackCommandV1 where
  root_id := sampleRoot.root_id
  expected_root_sha256 := zeroSha256
  expected_epoch := firstEpoch
  action := ⟨.applyCanary,by decide⟩
  request_id := sampleRequest
  idempotency_key := sampleRequest
  capability_sha256 := zeroSha256
  expected_receipt_sha256 := zeroSha256
  expected_storage_revision := ⟨1,by decide +kernel⟩
  expected_ambiguous_observed_etag := sampleRoot.content.stable_snapshot.provider_etag
  expected_ambiguous_updated_at := sampleTime

def readbackRecords : InspectedRecords where
  root := ⟨sampleRoot,0,Nat.zero_le _⟩
  service_claim := ⟨.first sampleClaim,0,Nat.zero_le _⟩
  authority := ⟨sampleAuthority,0,Nat.zero_le _⟩
  lineage_anchor := ⟨capabilityLineageAnchor sampleFunctions sampleRoot,0,Nat.zero_le _⟩

/-- The store before the sample run. -/
def readbackDatabase : Database where
  receipts := fun _ => some ⟨sampleRequest,zeroSha256.1,ambiguousStored⟩
  authorities := fun _ => some ⟨sampleRequest,sampleRoot.root_id.1,⟨sampleAuthority,0,Nat.zero_le _⟩⟩
  service_claims := fun _ => some ⟨sampleRequest,zeroSha256.1,
    ⟨storeClaim readbackFunctions sampleClaim,0,Nat.zero_le _⟩⟩

/-- One call resolves the receipt, and a later one adopts it. -/
def readbackRun : List Action :=
  [.start 0 readbackCommand,.call 0 (.readReceipt true),.call 0 (.readRoot (some readbackRecords)),
    .call 0 (.confirmOperation fun _ => some true),
    .call 0 (.readTarget fun expected =>
      some ⟨some expected,some sampleRoot.content.stable_snapshot.provider_etag⟩),
    .call 0 (.readRoot (some readbackRecords)),.call 0 (.submit (some sampleTime) sampleRequest),
    .land 0,.call 0 (.report .confirmed),.start 1 readbackCommand,.call 1 (.readReceipt true)]

/-- How a call has ended. -/
def dispositionOf (call : Call) : Option AmbiguousReceiptReadbackDisposition :=
  match call.stage with
  | .ended (.returned result) => some result.disposition
  | _ => none

/-- The first call of the sample run resolves and the second one adopts. -/
theorem readbackRun_ends :
    ((after readbackFunctions sampleTarget readbackDatabase readbackRun).calls 0).bind
      dispositionOf=some .resolved ∧
    ((after readbackFunctions sampleTarget readbackDatabase readbackRun).calls 1).bind
      dispositionOf=some .adopted := by
  decide +kernel

/-- The sample run lands once. -/
theorem readback_resolves_sample :
    (((after readbackFunctions sampleTarget readbackDatabase readbackRun).calls 0).bind
        dispositionOf=some .resolved ∧
      ((after readbackFunctions sampleTarget readbackDatabase readbackRun).calls 1).bind
        dispositionOf=some .adopted) ∧
    LandsOnce readbackFunctions sampleTarget readbackDatabase readbackRun ∧
    ResolvesForOne readbackFunctions sampleTarget readbackDatabase readbackRun ∧
    LaterCallsAdopt readbackFunctions sampleTarget readbackDatabase readbackRun ∧
    OthersRefused readbackFunctions sampleTarget readbackDatabase readbackRun := by
  refine ⟨readbackRun_ends,readback_resolves_once readbackFunctions sampleTarget readbackDatabase
    readbackRun (fun _ => 0) ?_⟩
  intro index clock mutation_id hmem
  simp only [readbackRun,List.mem_cons,List.not_mem_nil,reduceCtorEq,Action.call.injEq,false_or,
    or_false,and_false,CallAction.submit.injEq] at hmem
  exact hmem.1.symm

end ControlGraph.ReadbackAdoption
