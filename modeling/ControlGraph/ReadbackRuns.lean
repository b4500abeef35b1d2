import ControlGraph.ReadbackResolver

/-!
# Runs of the resolver

A resolution is committed at most once for a receipt: a verified receipt is final,
and nothing but a resolution writes a marked one. What a call has sent was built on
the receipt that its command pins, after the pinned operation was reported as
successful and the target was then seen in the state of the root's plan. A call
that starts after the commit of its command adopts the committed receipt, whatever
happened to the root in between, and a call of any other command for that receipt
is refused.
-/

namespace ControlGraph.ReadbackRuns

open Checks ContractText Utf8Text StorageIdentity ReceiptContracts ReceiptReplacement ReceiptStore
  ReadbackContracts ReadbackResolver LabelledRuns

open ReceiptLifecycle (StoreAction ReceiptChange step_change)

open ExecutionRequests (TargetConfigurationProjection)

open ReceiptExecution (makeReceipt makeReceipt_eq_ok)

open TrustedRoots (TrustedRootAuthority InspectedRecords inspectRootAuthorityBundle_eq_true)

open RootCreation (targetConfigurationProjectionSha256)

section

variable (functions : ReadbackFunctions) (target : TargetBinding)

/-- The receipt is the ambiguous one that a command pins. -/
structure Pins (command : AmbiguousReceiptReadbackCommandV1)
    (stored : StoredRecord ExecutionReceipt) : Prop where
  /-- The receipt is where and what the command says. -/
  locator : receiptMatchesLocator functions target command stored.value
  revision : stored.revision=command.expected_storage_revision.1
  digest : functions.canonical_sha256 (.executionReceipt stored.value)=command.expected_receipt_sha256
  outcome : stored.value.outcome=.ambiguous
  reason : stored.value.reason_code=some .providerOutcomeAmbiguous
  operation : stored.value.provider_operation≠none
  etag : stored.value.observed_etag=some command.expected_ambiguous_observed_etag
  /-- The last change is the pinned one. -/
  updated_at : stored.value.updated_at=command.expected_ambiguous_updated_at

/-- A trusted root admits a receipt at the epoch of a command. -/
structure BoundaryOf (command : AmbiguousReceiptReadbackCommandV1)
    (stored : StoredRecord ExecutionReceipt) (bundle : InspectedRecords)
    (boundary : ResolvedBoundary) : Prop where
  trusted : TrustedRootAuthority functions.toAuthorityFunctions target bundle
  root : bundle.root.value.root_id=command.root_id ∧
    bundle.root.value.root_sha256=command.expected_root_sha256
  /-- The state is the one of the plan of the root. -/
  poststate : boundary.expected_poststate=expectedPoststate target command bundle.root.value
  plan : stored.value.plan_sha256=
      functions.canonical_sha256 (.rolloutPlan bundle.root.value.content.rollout_plan) ∧
    stored.value.expected_poststate_sha256=
      targetConfigurationProjectionSha256 functions.toAuthorityFunctions boundary.expected_poststate
  /-- The receipt was executed at the epoch of the command. -/
  observed : stored.value.observed_authority_epoch=some command.expected_epoch

/-- Some trusted root admits a receipt. -/
def Bounded (command : AmbiguousReceiptReadbackCommandV1) (stored : StoredRecord ExecutionReceipt)
    (boundary : ResolvedBoundary) : Prop :=
  ∃ bundle,BoundaryOf functions target command stored bundle boundary

/-- A receipt with its resolution. -/
structure Resolves (command : AmbiguousReceiptReadbackCommandV1) (receipt : ExecutionReceipt)
    (observed_etag : OpaqueToken) (replacement : ExecutionReceipt) : Prop where
  /-- Nothing but the outcome, the etag, the time and the mark changes. -/
  fields : replacement.fields={receipt.fields with
    outcome := .verified
    reason_code := none
    observed_etag := some observed_etag
    updated_at := replacement.updated_at
    evidence_ids := receipt.evidence_ids++
      [ambiguousReceiptResolutionEvidenceId functions.sha256 command] }
  /-- The receipt has no mark of the command. -/
  unmarked : ambiguousReceiptResolutionEvidenceId functions.sha256 command∉receipt.evidence_ids
  /-- Time does not go backwards. -/
  ordered : receipt.updated_at.1 ≤ replacement.updated_at.1

end

section

variable {functions : ReadbackFunctions} {target : TargetBinding}
  {command : AmbiguousReceiptReadbackCommandV1} {stored : StoredRecord ExecutionReceipt}

theorem requireExactAmbiguous_eq_ok :
    requireExactAmbiguous functions target command stored=.ok () ↔
      Pins functions target command stored := by
  simp only [requireExactAmbiguous,check_bind_eq_ok,require_eq_ok]
  constructor
  · rintro ⟨hlocator,⟨hrevision,hdigest⟩,houtcome,hreason,hoperation,hetag,hupdated⟩
    exact ⟨hlocator,hrevision,hdigest,houtcome,hreason,hoperation,hetag,hupdated⟩
  · intro h
    exact ⟨h.locator,⟨h.revision,h.digest⟩,h.outcome,h.reason,h.operation,h.etag,h.updated_at⟩

/-- A state that is made is the given one. -/
theorem projection_of_make {projection made : TargetConfigurationProjection}
    (h : projection.make=.ok made) : made=projection := by
  simp only [TargetConfigurationProjection.make,check_bind_eq_ok] at h
  exact (Except.ok.inj h.2.2.2.2).symm

/-- A validated root admits the receipt. -/
theorem bounded_of_ok {answer : Option InspectedRecords} {boundary : ResolvedBoundary}
    (h : readAndValidateBoundary functions target command stored answer=.ok boundary) :
    Bounded functions target command stored boundary := by
  unfold readAndValidateBoundary at h
  obtain ⟨-,h⟩ := check_bind_eq_ok.mp h
  obtain ⟨bundle,-,h⟩ := bind_eq_ok.mp h
  obtain ⟨htrusted,h⟩ := check_bind_eq_ok.mp h
  rw [require_eq_ok,inspectRootAuthorityBundle_eq_true] at htrusted
  dsimp only at h
  split at h
  · cases h
  · obtain ⟨expected,hexpected,h⟩ := bind_eq_ok.mp h
    obtain ⟨hbinding,h⟩ := check_bind_eq_ok.mp h
    obtain ⟨hcurrent,h⟩ := check_bind_eq_ok.mp h
    rw [require_eq_ok] at hbinding hcurrent
    obtain ⟨hroot,hrootSha,-,-,-,-,hplan,-,hpoststate⟩ := hbinding
    obtain ⟨-,hepoch,-,hobserved⟩ := hcurrent
    have hmade := projection_of_make (mapError_eq_ok.mp hexpected)
    cases Except.ok.inj h
    exact ⟨bundle,htrusted,⟨hroot,hrootSha⟩,hmade,⟨hplan,hpoststate⟩,hepoch ▸ hobserved⟩

theorem resolves_of_ok {receipt replacement : ExecutionReceipt} {observed_etag : OpaqueToken}
    {clock : Option UtcSecond}
    (h : resolutionReplacement functions command receipt observed_etag clock=.ok replacement) :
    Resolves functions command receipt observed_etag replacement := by
  unfold resolutionReplacement at h
  obtain ⟨hfresh,h⟩ := check_bind_eq_ok.mp h
  obtain ⟨now,-,h⟩ := bind_eq_ok.mp h
  obtain ⟨hordered,h⟩ := check_bind_eq_ok.mp h
  obtain ⟨made,hmade,h⟩ := bind_eq_ok.mp h
  obtain ⟨-,h⟩ := check_bind_eq_ok.mp h
  cases Except.ok.inj h
  rw [require_eq_ok] at hfresh hordered
  have hfields := makeReceipt_eq_ok (mapError_eq_ok.mp hmade)
  have htime : replacement.updated_at=now := congrArg ExecutionReceiptFields.updated_at hfields
  refine ⟨?_,hfresh.1,?_⟩
  · rw [hfields]
  · rw [htime]
    exact hordered

theorem makeReceipt_fields (receipt : ExecutionReceipt) : makeReceipt receipt.fields=.ok receipt := by
  unfold makeReceipt
  split
  · rfl
  · rename_i raised hraised
    rw [receipt.accepted] at hraised
    cases hraised

/-- A verified receipt that resolves the pinned one is recognized by its command. -/
theorem adopted_of_resolves {observed_etag : OpaqueToken} {boundary : ResolvedBoundary}
    {resolved : StoredRecord ExecutionReceipt} (hpins : Pins functions target command stored)
    (hbounded : Bounded functions target command stored boundary)
    (hresolves : Resolves functions command stored.value observed_etag resolved.value)
    (hrevision : resolved.revision=stored.revision+1)
    (disposition : AmbiguousReceiptReadbackDisposition) :
    adoptionCandidate functions command resolved ∧
      isExactAdoptedReceipt functions command resolved=true ∧ ∃ result,
        ambiguousReceiptReadbackResult functions.toAuthorityFunctions disposition command resolved=
          .ok result ∧ result.disposition=disposition ∧ result.command=command ∧
        result.stored_receipt=resolved := by
  obtain ⟨bundle,hboundary⟩ := hbounded
  have hfields := hresolves.fields
  have houtcome : resolved.value.outcome=.verified := congrArg ExecutionReceiptFields.outcome hfields
  have hreason : resolved.value.reason_code=none := congrArg ExecutionReceiptFields.reason_code hfields
  have hetag : resolved.value.observed_etag=some observed_etag :=
    congrArg ExecutionReceiptFields.observed_etag hfields
  have hoperation : resolved.value.provider_operation=stored.value.provider_operation :=
    (congrArg ExecutionReceiptFields.provider_operation hfields).trans rfl
  have hobserved : resolved.value.observed_authority_epoch=some command.expected_epoch :=
    (congrArg ExecutionReceiptFields.observed_authority_epoch hfields).trans hboundary.observed
  have hevidence : resolved.value.evidence_ids=stored.value.evidence_ids++
      [ambiguousReceiptResolutionEvidenceId functions.sha256 command] :=
    congrArg ExecutionReceiptFields.evidence_ids hfields
  have hmarked : markedOnce (ambiguousReceiptResolutionEvidenceId functions.sha256 command)
      resolved.value.evidence_ids := by
    rw [hevidence,markedOnce,List.getLast?_concat,List.count_append,
      List.count_eq_zero_of_not_mem hresolves.unmarked]
    exact ⟨rfl,by simp⟩
  have hstored : resolved.revision=command.expected_storage_revision.1+1 := by
    rw [hrevision,hpins.revision]
  have hordered : command.expected_ambiguous_updated_at.1 ≤ resolved.value.updated_at.1 := by
    rw [← hpins.updated_at]
    exact hresolves.ordered
  have hetagSome : resolved.value.observed_etag≠none := by
    rw [hetag]
    exact Option.some_ne_none _
  have hoperationSome : resolved.value.provider_operation≠none := hoperation ▸ hpins.operation
  have hdrop : resolved.value.evidence_ids.dropLast=stored.value.evidence_ids := by
    rw [hevidence,List.dropLast_concat]
  have hback : ({resolved.value.fields with
      outcome := .ambiguous
      reason_code := some .providerOutcomeAmbiguous
      observed_etag := some command.expected_ambiguous_observed_etag
      updated_at := command.expected_ambiguous_updated_at
      evidence_ids := resolved.value.evidence_ids.dropLast } : ExecutionReceiptFields)=
        stored.value.fields := by
    rw [hdrop,hfields,← hpins.outcome,← hpins.reason,← hpins.etag,← hpins.updated_at]
  have hreconstructed : reconstructAmbiguousReceiptPredecessor functions.sha256 command
      resolved.value=.ok stored.value := by
    rw [reconstructAmbiguousReceiptPredecessor,bind_of_ok (require_of ⟨houtcome,hmarked⟩),hback]
    exact makeReceipt_fields stored.value
  have hshape : adoptedShape functions command resolved :=
    ⟨hstored,houtcome,hreason,hetagSome,hoperationSome,hobserved,hmarked,hordered⟩
  refine ⟨⟨houtcome,hstored,hmarked⟩,?_,?_⟩
  · rw [isExactAdoptedReceipt,if_pos hshape,hreconstructed]
    exact decide_eq_true hpins.digest
  · obtain ⟨-,-,hrootId,hrootSha,hepoch,haction,hrequest,hkey,hcapability⟩ := hpins.locator
    have hsame : ∀ {Value : Type} (field : ExecutionReceiptFields → Value),
        field resolved.value.fields=field ({stored.value.fields with
          outcome := .verified
          reason_code := none
          observed_etag := some observed_etag
          updated_at := resolved.value.updated_at
          evidence_ids := stored.value.evidence_ids++
            [ambiguousReceiptResolutionEvidenceId functions.sha256 command] }) :=
      fun field => congrArg field hfields
    refine ⟨_,check_bind_eq_ok.mpr ⟨?_,rfl⟩,rfl,rfl,rfl⟩
    rw [validateResultBindings,bind_of_ok (mapError_eq_ok.mpr hreconstructed)]
    exact require_of ⟨rfl,rfl,hstored,(hsame (·.root_id)).trans hrootId,
      (hsame (·.root_sha256)).trans hrootSha,(hsame (·.epoch)).trans hepoch,
      (hsame (·.action)).trans haction,(hsame (·.request_id)).trans hrequest,
      (hsame (·.idempotency_key)).trans hkey,(hsame (·.capability_sha256)).trans hcapability,
      houtcome,hreason,hetagSome,hoperationSome,hobserved,hordered,hmarked,hpins.digest⟩

end

/-- The provider has reported the success of an operation to a call. -/
def Confirmed (actions : List Action) (index : Nat) (operation_name : BoundedText) : Prop :=
  ∃ earlier later terminal_success,
    actions=earlier++.call index (.confirmOperation terminal_success)::later ∧
      terminal_success operation_name=some true

/-- The target was seen in a state after the provider had reported the success of an
operation. -/
def Observed (actions : List Action) (index : Nat) (operation_name : BoundedText)
    (expected : TargetConfigurationProjection) (observed_etag : OpaqueToken) : Prop :=
  ∃ earlier between later terminal_success readback,
    actions=earlier++.call index (.confirmOperation terminal_success)::
      (between++.call index (.readTarget readback)::later) ∧
    terminal_success operation_name=some true ∧
    readback expected=some ⟨some expected,some observed_etag⟩

/-- A report stays in the history. -/
theorem Confirmed.append {actions : List Action} {index : Nat} {operation_name : BoundedText}
    (h : Confirmed actions index operation_name) (last : List Action) :
    Confirmed (actions++last) index operation_name := by
  obtain ⟨earlier,later,terminal_success,hsplit,hanswer⟩ := h
  refine ⟨earlier,later++last,terminal_success,?_,hanswer⟩
  rw [hsplit,List.append_assoc,List.cons_append]

/-- A sight of the target stays in the history. -/
theorem Observed.append {actions : List Action} {index : Nat} {operation_name : BoundedText}
    {expected : TargetConfigurationProjection} {observed_etag : OpaqueToken}
    (h : Observed actions index operation_name expected observed_etag) (last : List Action) :
    Observed (actions++last) index operation_name expected observed_etag := by
  obtain ⟨earlier,between,later,terminal_success,readback,hsplit,hanswer⟩ := h
  refine ⟨earlier,between,later++last,terminal_success,readback,?_,hanswer⟩
  rw [hsplit]
  simp only [List.append_assoc,List.cons_append]

section

variable (functions : ReadbackFunctions) (target : TargetBinding)

/-- A call has sent a transaction over a receipt. -/
def SentBy (actions : List Action) (index : Nat) (command : AmbiguousReceiptReadbackCommandV1)
    (stored : StoredRecord ExecutionReceipt) (pending : Pending) : Prop :=
  ∃ boundary operation_name observed_etag replacement clock mutation_id,
    Bounded functions target command stored boundary ∧
    stored.value.provider_operation=some operation_name ∧
    Observed actions index operation_name boundary.expected_poststate observed_etag ∧
    Resolves functions command stored.value observed_etag replacement ∧
    prepareResolution functions.sha256 target stored replacement pending.expected_authority
      pending.expected_service_claim mutation_id=.ok pending.prepared ∧
    .call index (.submit clock mutation_id)∈actions

/-- What a call has established where it is. -/
def StageHolds (actions : List Action) (index : Nat) (call : Call) : Prop :=
  match call.stage with
  | .reading => call.stored=none ∧ call.pending=none
  | .bounding => call.pending=none
  | .confirming boundary => call.pending=none ∧ ∀ stored,call.stored=some stored →
      Bounded functions target call.command stored boundary
  | .observing boundary operation_name => call.pending=none ∧ ∀ stored,call.stored=some stored →
      Bounded functions target call.command stored boundary ∧
      stored.value.provider_operation=some operation_name ∧ Confirmed actions index operation_name
  | .refreshing boundary operation_name observed_etag => call.pending=none ∧
      ∀ stored,call.stored=some stored → stored.value.provider_operation=some operation_name ∧
        Observed actions index operation_name boundary.expected_poststate observed_etag
  | .submitting boundary operation_name observed_etag => call.pending=none ∧
      ∀ stored,call.stored=some stored →
        Bounded functions target call.command stored boundary ∧
        stored.value.provider_operation=some operation_name ∧
        Observed actions index operation_name boundary.expected_poststate observed_etag
  | _ => True

/-- What holds of a call. -/
structure CallHolds (actions : List Action) (index : Nat) (call : Call) : Prop where
  /-- The receipt that it has read is the pinned one. -/
  pins : ∀ stored,call.stored=some stored → Pins functions target call.command stored
  /-- It has done what its place needs. -/
  stage : StageHolds functions target actions index call
  sent : ∀ pending,call.pending=some pending → ∃ stored,call.stored=some stored ∧
    SentBy functions target actions index call.command stored pending
  landed : call.landed=true → ∃ pending,call.pending=some pending
  returned : ∀ result,call.stage=.ended (.returned result) → result.command=call.command ∧
    (result.disposition=.resolved → call.landed=true ∧ ∃ pending,call.pending=some pending ∧
      result.stored_receipt=pending.prepared.document.stored)

end

section

variable {functions : ReadbackFunctions} {target : TargetBinding} {actions : List Action}
  {index : Nat} {call : Call}

theorem SentBy.append {command : AmbiguousReceiptReadbackCommandV1}
    {stored : StoredRecord ExecutionReceipt} {pending : Pending}
    (h : SentBy functions target actions index command stored pending) (last : List Action) :
    SentBy functions target (actions++last) index command stored pending := by
  obtain ⟨boundary,operation_name,observed_etag,replacement,clock,mutation_id,hbounded,hoperation,
    hobserved,hresolves,hprepared,hsubmit⟩ := h
  exact ⟨boundary,operation_name,observed_etag,replacement,clock,mutation_id,hbounded,hoperation,
    hobserved.append last,hresolves,hprepared,List.mem_append_left _ hsubmit⟩

theorem CallHolds.append (h : CallHolds functions target actions index call) (last : List Action) :
    CallHolds functions target (actions++last) index call := by
  refine ⟨h.pins,?_,?_,h.landed,h.returned⟩
  · have hstage := h.stage
    unfold StageHolds at hstage ⊢
    cases hplace : call.stage with
    | observing boundary operation_name =>
      rw [hplace] at hstage
      refine ⟨hstage.1,fun stored hstored => ?_⟩
      obtain ⟨hbounded,hoperation,hconfirmed⟩ := hstage.2 stored hstored
      exact ⟨hbounded,hoperation,hconfirmed.append last⟩
    | refreshing boundary operation_name observed_etag =>
      rw [hplace] at hstage
      refine ⟨hstage.1,fun stored hstored => ?_⟩
      obtain ⟨hoperation,hobserved⟩ := hstage.2 stored hstored
      exact ⟨hoperation,hobserved.append last⟩
    | submitting boundary operation_name observed_etag =>
      rw [hplace] at hstage
      refine ⟨hstage.1,fun stored hstored => ?_⟩
      obtain ⟨hbounded,hoperation,hobserved⟩ := hstage.2 stored hstored
      exact ⟨hbounded,hoperation,hobserved.append last⟩
    | reading => rw [hplace] at hstage; exact hstage
    | bounding => rw [hplace] at hstage; exact hstage
    | confirming boundary => rw [hplace] at hstage; exact hstage
    | committing => trivial
    | uncertain => trivial
    | ended outcome => trivial
  · intro pending hpending
    obtain ⟨stored,hstored,hsent⟩ := h.sent pending hpending
    exact ⟨stored,hstored,hsent.append last⟩

/-- A call that ends keeps what it has sent. -/
theorem CallHolds.finish (h : CallHolds functions target actions index call) {outcome : Outcome}
    (hreturned : ∀ result,outcome=.returned result → result.command=call.command ∧
      (result.disposition=.resolved → call.landed=true ∧ ∃ pending,call.pending=some pending ∧
        result.stored_receipt=pending.prepared.document.stored)) :
    CallHolds functions target actions index {call with stage := .ended outcome} := by
  refine ⟨h.pins,trivial,h.sent,h.landed,?_⟩
  intro result hresult
  exact hreturned result (Stage.ended.inj hresult)

/-- A call that raises keeps what it has sent. -/
theorem CallHolds.fail (h : CallHolds functions target actions index call) (failure : Failure) :
    CallHolds functions target actions index {call with stage := .ended (.failed failure)} :=
  h.finish fun _ hresult => by cases hresult

/-- How a call ends with a receipt. -/
theorem finish_cases (command : AmbiguousReceiptReadbackCommandV1)
    (disposition : AmbiguousReceiptReadbackDisposition) (stored : StoredRecord ExecutionReceipt) :
    (∃ result,finish functions command disposition stored=.ended (.returned result) ∧
      result.disposition=disposition ∧ result.command=command ∧ result.stored_receipt=stored) ∨
    ∃ error,finish functions command disposition stored=.ended (.failed (.raised error)) := by
  unfold finish
  cases hresult : ambiguousReceiptReadbackResult functions.toAuthorityFunctions disposition command
      stored with
  | error error => exact .inr ⟨error,rfl⟩
  | ok result =>
    refine .inl ⟨result,rfl,?_⟩
    unfold ambiguousReceiptReadbackResult at hresult
    obtain ⟨-,hresult⟩ := check_bind_eq_ok.mp hresult
    cases Except.ok.inj hresult
    exact ⟨rfl,rfl,rfl⟩

/-- A call that ends with a receipt keeps what it has sent. -/
theorem CallHolds.finishWith (h : CallHolds functions target actions index call)
    (disposition : AmbiguousReceiptReadbackDisposition) (stored : StoredRecord ExecutionReceipt)
    (hresolved : disposition=.resolved → call.landed=true ∧ ∃ pending,call.pending=some pending ∧
      stored=pending.prepared.document.stored) :
    CallHolds functions target actions index
      {call with stage := ReadbackResolver.finish functions call.command disposition stored} := by
  rcases finish_cases call.command disposition stored with
    ⟨result,hfinish,hdisposition,hcommand,hstored⟩ | ⟨error,hfinish⟩
  · rw [hfinish]
    refine h.finish fun other hother => ?_
    cases Outcome.returned.inj hother
    rw [hdisposition,hstored]
    exact ⟨hcommand,hresolved⟩
  · rw [hfinish]
    exact h.fail _

/-- A call at another place keeps what it has sent. -/
theorem CallHolds.goto (h : CallHolds functions target actions index call) {stage : Stage}
    (hstage : StageHolds functions target actions index {call with stage := stage})
    (hopen : ∀ outcome,stage≠.ended outcome) :
    CallHolds functions target actions index {call with stage := stage} :=
  ⟨h.pins,hstage,h.sent,h.landed,fun _ hresult => absurd hresult (hopen _)⟩

theorem CallHolds.locate (h : CallHolds functions target actions index call)
    (hplace : call.stage=.reading) (stored : StoredRecord ExecutionReceipt) :
    CallHolds functions target actions index (call.locate functions target stored) := by
  have hstage := h.stage
  unfold StageHolds at hstage
  rw [hplace] at hstage
  obtain ⟨-,hpending⟩ := hstage
  unfold Call.locate
  split
  · split
    · exact h.finishWith .adopted stored fun hsame => by cases hsame
    · exact h.fail _
  · split
    · exact h.fail _
    · rename_i hexact
      have hpins := requireExactAmbiguous_eq_ok.mp hexact
      refine ⟨?_,hpending,?_,?_,fun _ hresult => by cases hresult⟩
      · intro other hother
        cases Option.some.inj hother
        exact hpins
      · intro pending hsent
        rw [show call.pending=some pending from hsent] at hpending
        cases hpending
      · intro hlanded
        obtain ⟨pending,hsent⟩ := h.landed hlanded
        rw [hsent] at hpending
        cases hpending

theorem CallHolds.send (h : CallHolds functions target actions index call)
    {boundary : ResolvedBoundary} {operation_name : BoundedText} {observed_etag : OpaqueToken}
    (hplace : call.stage=.submitting boundary operation_name observed_etag)
    {stored : StoredRecord ExecutionReceipt} (hstored : call.stored=some stored)
    {clock : Option UtcSecond} {mutation_id : Identifier}
    (hsubmit : .call index (.submit clock mutation_id)∈actions) :
    CallHolds functions target actions index
      (call.send functions target stored boundary observed_etag clock mutation_id) := by
  have hstage := h.stage
  unfold StageHolds at hstage
  rw [hplace] at hstage
  obtain ⟨hpending,hheld⟩ := hstage
  obtain ⟨hbounded,hoperation,hobserved⟩ := hheld stored hstored
  unfold Call.send
  split
  · exact h.fail _
  · rename_i replacement hreplacement
    have hresolves := resolves_of_ok hreplacement
    split
    · exact h.goto trivial fun _ hended => by cases hended
    · rename_i prepared hprepared
      refine ⟨h.pins,trivial,?_,fun _ => ⟨_,rfl⟩,fun _ hresult => by cases hresult⟩
      intro pending hsent
      cases Option.some.inj hsent
      exact ⟨stored,hstored,boundary,operation_name,observed_etag,replacement,clock,mutation_id,
        hbounded,hoperation,hobserved,hresolves,hprepared,hsubmit⟩

theorem CallHolds.informed (h : CallHolds functions target actions index call) {pending : Pending}
    (hpending : call.pending=some pending) {database : Database}
    (hback : ∀ disposition,resolveAmbiguous pending.prepared (some database)=.ok disposition →
      call.landed=true) (answer : Answer) :
    CallHolds functions target actions index
      (call.informed functions pending database answer) := by
  unfold Call.informed
  cases answer with
  | confirmed =>
    dsimp only
    split
    · rename_i hlanded
      exact h.finishWith .resolved _ fun _ => ⟨hlanded,pending,hpending,rfl⟩
    · exact h
  | readBack served =>
    dsimp only
    split
    · rename_i disposition hresolve
      cases served with
      | false => cases hresolve
      | true =>
        exact h.finishWith .resolved _ fun _ => ⟨hback disposition hresolve,pending,hpending,rfl⟩
    · exact h.goto trivial fun _ hended => by cases hended
  | refused => exact h.goto trivial fun _ hended => by cases hended

/-- A call that reads what became of its transaction. -/
theorem CallHolds.settle (h : CallHolds functions target actions index call)
    (read : Except StoreError (Option (StoredRecord ExecutionReceipt))) :
    CallHolds functions target actions index (call.settle functions read) := by
  unfold Call.settle
  split
  · split
    · exact h.finishWith .adopted _ fun hsame => by cases hsame
    · exact h.fail _
  · exact h.fail _

theorem CallHolds.next (h : CallHolds functions target actions index call) {database : Database}
    (hback : ∀ pending,call.pending=some pending → ∀ disposition,
      resolveAmbiguous pending.prepared (some database)=.ok disposition → call.landed=true)
    (action : CallAction) :
    CallHolds functions target (actions++[.call index action]) index
      (call.next functions target database action) := by
  have hlast : Action.call index action∈actions++[.call index action] :=
    List.mem_append_right _ List.mem_cons_self
  have hnext := h.append [.call index action]
  have hstage := h.stage
  unfold StageHolds at hstage
  unfold Call.next
  split
  · rename_i served hplace
    split
    · split
      · exact hnext.fail _
      · exact hnext.fail _
      · exact hnext.locate hplace _
    · exact hnext.fail _
  · rename_i stored answer hplace hstored
    rw [hplace] at hstage
    split
    · exact hnext.fail _
    · rename_i boundary hboundary
      refine hnext.goto ⟨hstage,?_⟩ fun _ hended => by cases hended
      intro other hother
      have hsame : stored=other := Option.some.inj (hstored.symm.trans hother)
      exact hsame ▸ bounded_of_ok hboundary
  · rename_i boundary stored terminal_success hplace hstored
    rw [hplace] at hstage
    split
    · exact hnext.fail _
    · rename_i operation_name hoperation
      split
      · rename_i hsuccess
        refine hnext.goto ⟨hstage.1,?_⟩ fun _ hended => by cases hended
        intro other hother
        have hsame : stored=other := Option.some.inj (hstored.symm.trans hother)
        refine ⟨hstage.2 other hother,hsame ▸ hoperation,actions,[],terminal_success,rfl,hsuccess⟩
      · exact hnext.fail _
  · rename_i boundary operation_name stored readback hplace hstored
    rw [hplace] at hstage
    split
    · rename_i state observed_etag hread
      split
      · rename_i hstate
        refine hnext.goto ⟨hstage.1,?_⟩ fun _ hended => by cases hended
        intro other hother
        obtain ⟨-,hoperation,earlier,later,terminal_success,hsplit,hsuccess⟩ :=
          hstage.2 other hother
        refine ⟨hoperation,earlier,later,[],terminal_success,readback,?_,hsuccess,?_⟩
        · rw [hsplit]
          simp only [List.append_assoc,List.cons_append]
        · rw [hread,hstate]
      · exact hnext.fail _
    · exact hnext.fail _
  · rename_i boundary operation_name observed_etag stored answer hplace hstored
    rw [hplace] at hstage
    split
    · exact hnext.fail _
    · rename_i refreshed hrefreshed
      split
      · rename_i hsame
        refine hnext.goto ⟨hstage.1,?_⟩ fun _ hended => by cases hended
        intro other hother
        obtain ⟨hoperation,hobserved⟩ := hstage.2 other hother
        have hreceipt : stored=other := Option.some.inj (hstored.symm.trans hother)
        refine ⟨hreceipt ▸ bounded_of_ok hrefreshed,hoperation,?_⟩
        rw [hsame]
        exact hobserved.append _
      · exact hnext.fail _
  · rename_i boundary operation_name observed_etag stored clock mutation_id hplace hstored hpending
    exact hnext.send hplace hstored hlast
  · rename_i stored pending answer hplace hpending
    exact hnext.informed hpending (hback pending hpending) answer
  · exact hnext.settle _
  · exact hnext

end

section

variable {functions : ReadbackFunctions} {target : TargetBinding} {actions : List Action}
  {index : Nat} {command : AmbiguousReceiptReadbackCommandV1}
  {stored : StoredRecord ExecutionReceipt} {pending : Pending}

theorem startsWithMarker_mark (sha256 : Bytes → Sha256Digest)
    (command : AmbiguousReceiptReadbackCommandV1) :
    startsWithMarker (ambiguousReceiptResolutionEvidenceId sha256 command)=true := by
  rw [startsWithMarker,ambiguousReceiptResolutionEvidenceId,List.isPrefixOf_iff_prefix]
  simp only [String.toList_append]
  exact List.prefix_append _ _

/-- A document that is prepared carries the identity of its write. -/
theorem mutation_of_prepared {sha256 : Bytes → Sha256Digest} {receipt : ExecutionReceipt}
    {revision : Nat} {mutation_id : Identifier} {prepared : PreparedReceipt}
    (h : preparedReceipt sha256 target receipt revision mutation_id=.ok prepared) :
    prepared.document.mutation_id=mutation_id := by
  unfold preparedReceipt at h
  obtain ⟨document_id,-,h⟩ := bind_eq_ok.mp h
  obtain ⟨record,-,h⟩ := bind_eq_ok.mp h
  rw [← Except.ok.inj h]

/-- The document of a resolution. -/
structure ResolvedDocument (functions : ReadbackFunctions) (target : TargetBinding)
    (command : AmbiguousReceiptReadbackCommandV1) (stored : StoredRecord ExecutionReceipt)
    (prepared : PreparedReceipt) : Prop where
  /-- It is written over the receipt of the command. -/
  document_id : executionReceiptDocumentId functions.sha256 target command.idempotency_key=
    .ok prepared.document_id
  logical_id : prepared.document.logical_id=
    (executionReceiptLogicalId functions.sha256 target command.idempotency_key).1
  identity : ∃ logical_id,validateReceiptIdentity functions.sha256 target
    prepared.document.stored.value=.ok logical_id
  resolves : ∃ observed_etag,Resolves functions command stored.value observed_etag
    prepared.document.stored.value
  revision : prepared.document.stored.revision=stored.revision+1

/-- What a call sends is the document of its resolution. -/
theorem SentBy.document (hpins : Pins functions target command stored)
    (h : SentBy functions target actions index command stored pending) :
    ResolvedDocument functions target command stored pending.prepared := by
  obtain ⟨boundary,operation_name,observed_etag,replacement,clock,mutation_id,-,-,-,hresolves,
    hprepared,-⟩ := h
  obtain ⟨⟨hvalid,-⟩,hdocument⟩ := prepareResolution_eq_ok.mp hprepared
  obtain ⟨hid,hlogical,hvalue,hrevision⟩ := preparedReceipt_eq_ok hdocument
  obtain ⟨-,hidentity,-⟩ := validateReceiptReplacement_eq_ok.mp hvalid
  have hsame : replacement.idempotency_key=stored.value.idempotency_key :=
    (congrArg ExecutionReceiptFields.idempotency_key hresolves.fields).trans rfl
  have hkey : replacement.idempotency_key=command.idempotency_key :=
    hsame.trans hpins.locator.2.2.2.2.2.2.2.1
  rw [hkey] at hid hlogical
  refine ⟨hid,hlogical,?_,⟨observed_etag,?_⟩,hrevision⟩
  · rw [hvalue]
    exact hidentity
  · rw [hvalue]
    exact hresolves

theorem ResolvedDocument.verified {prepared : PreparedReceipt}
    (h : ResolvedDocument functions target command stored prepared) :
    prepared.document.stored.value.outcome=.verified := by
  obtain ⟨observed_etag,hresolves⟩ := h.resolves
  exact congrArg ExecutionReceiptFields.outcome hresolves.fields

theorem ResolvedDocument.marked {prepared : PreparedReceipt}
    (h : ResolvedDocument functions target command stored prepared) :
    ∃ evidence_id∈prepared.document.stored.value.evidence_ids,startsWithMarker evidence_id=true := by
  obtain ⟨observed_etag,hresolves⟩ := h.resolves
  have hevidence : prepared.document.stored.value.evidence_ids=stored.value.evidence_ids++
      [ambiguousReceiptResolutionEvidenceId functions.sha256 command] :=
    congrArg ExecutionReceiptFields.evidence_ids hresolves.fields
  refine ⟨_,?_,startsWithMarker_mark functions.sha256 command⟩
  rw [hevidence]
  exact List.mem_append_right _ List.mem_cons_self

theorem not_replaced_verified {current replacement : ExecutionReceipt}
    (hverified : current.outcome=.verified) : ¬Replaces current replacement := by
  intro h
  have hmem := h.transition
  rw [hverified] at hmem
  cases hmem

/-- Other operations leave a verified receipt alone. -/
theorem ordinary_keeps {sha256 : Bytes → Sha256Digest} {database : Database} {action : StoreAction}
    {document_id : Sha256Digest} {document : Document ExecutionReceipt}
    (hstored : database.receipts document_id=some document)
    (hverified : document.stored.value.outcome=.verified) :
    (ReceiptLifecycle.step sha256 database action).receipts document_id=some document := by
  have hchange : ReceiptChange sha256 database action (database.receipts document_id)
      ((ReceiptLifecycle.step sha256 database action).receipts document_id) :=
    step_change action document_id
  rw [hstored] at hchange
  generalize (ReceiptLifecycle.step sha256 database action).receipts document_id=later at hchange ⊢
  cases hchange with
  | unchanged => rfl
  | replaced haccepts => exact absurd haccepts.replaces (not_replaced_verified hverified)

/-- Other operations write no verified receipt with a marker. -/
theorem ordinary_writes {sha256 : Bytes → Sha256Digest} {database : Database} {action : StoreAction}
    (hordinary : isOrdinary action) {document_id : Sha256Digest}
    {document : Document ExecutionReceipt}
    (hstored : (ReceiptLifecycle.step sha256 database action).receipts document_id=some document)
    (hverified : document.stored.value.outcome=.verified)
    (hmarked : ∃ evidence_id∈document.stored.value.evidence_ids,startsWithMarker evidence_id=true) :
    database.receipts document_id=some document := by
  have hchange : ReceiptChange sha256 database action (database.receipts document_id)
      ((ReceiptLifecycle.step sha256 database action).receipts document_id) :=
    step_change action document_id
  rw [hstored] at hchange
  generalize database.receipts document_id=earlier at hchange ⊢
  cases hchange with
  | unchanged => rfl
  | created hrevision hclaimed hunmarked =>
    rw [hverified] at hclaimed
    cases hclaimed
  | replaced haccepts hlogical hclean =>
    obtain ⟨evidence_id,hmem,hmarker⟩ := hmarked
    rcases hclean with hclean | hresolves
    · exact absurd hmarker (hclean evidence_id hmem)
    · cases action with
      | resolveAmbiguous => exact hordinary.elim
      | claimOrAdopt => exact hresolves.elim
      | compareAndSet => exact hresolves.elim
      | others => exact hresolves.elim

end

end ControlGraph.ReadbackRuns
