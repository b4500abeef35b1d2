import ControlGraph.PromotionCoordination

/-!
# Adoption of a stored promotion dispatch

What the calls of a command read, start and record. A dispatch keeps where it
comes from: it answers its command, and its task was admitted when it was
prepared. A read finds a dispatch that is at its place, and what a call does next
depends on its state only. The outcome of a started dispatch is always accepted,
and a confirmed write of the next step is done.
-/

namespace ControlGraph.PromotionAdoption

open Checks ContractText CapabilityContracts PromotionContracts PromotionDispatchStore
  PromotionCoordination TaskAddressing

open PromotionDispatchLifecycle hiding step

open ReceiptContracts (TargetBinding StoredRecord)

open ReceiptStore (StoreError Commit TransactionCommitDisposition isServiceClaimTarget)

open RecoveryContracts (isDerivedCapabilityId)

variable {functions : PromotionFunctions} {configuration : Configuration}
  {command : PromotionCommandV2}

section

variable {dispatch : PromotionDispatchRecordFields}

theorem isDerivedCapabilityId_promotion {authorization : PromotionAuthorizationV1} :
    isDerivedCapabilityId (promotionCapabilityId functions authorization)=true := by
  have hlength : "cgcap-".toList.length=6 := by decide
  have hdrop : (promotionCapabilityId functions authorization).toList.drop 6=
      (functions.capability_id_sha256 authorization).1.toList := by
    rw [promotionCapabilityId,String.toList_append,← hlength,List.drop_left]
  rw [isDerivedCapabilityId,hdrop,String.ofList_toList,Bool.and_eq_true]
  refine ⟨?_,(functions.capability_id_sha256 authorization).2⟩
  rw [promotionCapabilityId,String.toList_append]
  exact List.isPrefixOf_iff_prefix.mpr (List.prefix_append _ _)

theorem isPromotionTaskName_self {target : TargetBinding} {digest : Sha256Digest} :
    isPromotionTaskName target (promotionTaskName target digest.1)=true := by
  have hname : (promotionTaskName target digest.1).toList=
      (promotionTaskName target "").toList++digest.1.toList := by
    unfold promotionTaskName
    simp only [String.toList_append,String.toList_empty,List.append_nil]
  have hlength : (promotionTaskName target "").length=(promotionTaskName target "").toList.length :=
    String.length_toList.symm
  rw [isPromotionTaskName,hname,hlength,List.drop_left,String.ofList_toList,Bool.and_eq_true]
  exact ⟨List.isPrefixOf_iff_prefix.mpr (List.prefix_append _ _),digest.2⟩

/-- What a check of an authorization says of its chain, its target and its receipt. -/
theorem authorization_checks {authorization : PromotionAuthorizationV1}
    (h : validateAuthorization functions authorization=.ok ()) :
    validateChainLocator authorization.health_chain_locator=.ok () ∧
      AuthorizationRootBound authorization ∧
      authorization.source_receipt_sha256=authorization.verified_apply_receipt.receipt_sha256 := by
  rw [validateAuthorization] at h
  simp only [check_bind_eq_ok,require_eq_ok] at h
  have hroot := h.2.2.2.1
  have hreceipt := h.2.2.2.2.1
  exact ⟨h.2.1,hroot,hreceipt.2⟩

theorem dispatchResult_bound {record : PromotionDispatchRecordV2 functions}
    {disposition : TaskEnqueueDisposition} {fields : PromotionDispatchRecordFields}
    (hbound : RecordBound functions record.fields) (hstate : fields.state=stateOf disposition)
    (hsame : SameDispatch record.fields fields) :
    DispatchResultBound functions fields (dispatchResult record disposition) := by
  have htask := hbound.task
  have hintent := hbound.intent
  have hrecord := hbound.record
  unfold SameDispatch at hsame
  rw [hsame]
  exact {
    enqueue_disposition := hstate.symm
    request_id := (htask.request_id.trans hintent.request_id).trans hrecord.request_id.symm
    idempotency_key := (htask.idempotency_key.trans hintent.idempotency_key).trans
      hrecord.idempotency_key.symm
    target := (htask.target.trans hintent.target).trans hrecord.target.symm
    root_id := (htask.root_id.trans hintent.root_id).trans hrecord.root_id.symm
    root_sha256 := (htask.root_sha256.trans hintent.root_sha256).trans hrecord.root_sha256.symm
    epoch := (htask.epoch.trans hintent.epoch).trans hrecord.epoch.symm
    stable_revision := htask.stable_revision.trans hintent.stable_revision
    candidate_revision := htask.candidate_revision.trans hintent.candidate_revision
    provider_etag := htask.provider_etag.trans hintent.provider_etag
    verified_apply_receipt := rfl
    source_receipt_sha256 := rfl
    prestate := rfl
    decision := rfl
    chain_sha256 := rfl
    chain := rfl
    proof_sha256 := rfl
    poststate := rfl
    proof_valid_until := rfl
    authorization_sha256 := hrecord.authorization_sha256.symm
    capability_id := hrecord.claimed
    capability_sha256 := rfl
    task_id := rfl
    task_name := rfl
    scheduled_at := htask.scheduled_at.trans hrecord.scheduled_at.symm
    expires_at := rfl }

theorem dispatchResult_valid {record : PromotionDispatchRecordV2 functions}
    {disposition : TaskEnqueueDisposition} (hbound : RecordBound functions record.fields) :
    validateDispatchResult (dispatchResult record disposition)=.ok () := by
  have htask := hbound.task
  have hintent := hbound.intent
  have hrecord := hbound.record
  obtain ⟨hlocator,hroot,hreceipt⟩ := authorization_checks hbound.authorization
  have htarget : record.task.capability.claims.target=record.task.intent.authorization.target :=
    htask.target.trans hintent.target
  have hservice : isServiceClaimTarget record.task.capability.claims.target=true := by
    rw [htarget]
    exact hroot.target
  have hname : isPromotionTaskName record.task.capability.claims.target record.task_name.1=true := by
    have hnamed := hrecord.task_name
    rw [hnamed,htarget,← hrecord.target]
    exact isPromotionTaskName_self
  have hderived : isDerivedCapabilityId record.task.capability.claims.capability_id.1=true := by
    rw [htask.derived]
    exact isDerivedCapabilityId_promotion
  have hwindow := htask.window
  have hproof : record.task.expires_at.1 ≤
      record.task.intent.authorization.proof_valid_until.1 := by
    have hfirst := htask.capability_window
    have hsecond := htask.proof_window
    omega
  exact (bind_of_ok hlocator).trans
    (require_of ⟨hservice,hname,hreceipt,rfl,hderived,hwindow,hproof⟩)

theorem terminal_accepted {started : PromotionDispatchRecordV2 functions}
    {disposition : TaskEnqueueDisposition} (hstate : started.state=.enqueueStarted) :
    validateRecord functions (terminalFields started disposition)=.ok () := by
  have hbound := recordBound_of_accepted started.accepted
  have haccepted := started.accepted
  rw [validateRecord,check_bind_eq_ok,check_bind_eq_ok,require_eq_ok] at haccepted
  obtain ⟨htask,hrecord,hshape⟩ := haccepted
  have hfirst : validateEnqueueStart started.fields=.ok () := by
    rw [validateShape,hstate] at hshape
    simp only [check_bind_eq_ok] at hshape
    exact hshape.1
  have hstarted : validateEnqueueStart (terminalFields started disposition)=.ok () := hfirst
  have hended : validateTerminal functions (terminalFields started disposition)=.ok () := by
    have htimed := hfirst
    rw [validateEnqueueStart,require_eq_ok] at htimed
    obtain ⟨enqueue_started_at,hmem,-⟩ := htimed
    rw [Option.mem_def] at hmem
    have hterminal : (terminalFields started disposition).terminal_at=some enqueue_started_at :=
      hmem
    have hresult : (terminalFields started disposition).result=
        some (dispatchResult started disposition) := rfl
    rw [validateTerminal,hterminal,hresult]
    refine (bind_of_ok (dispatchResult_valid hbound)).trans (require_of ⟨?_,?_⟩)
    · intro other hother
      have hsame : some enqueue_started_at=some other := hmem.symm.trans hother
      rw [Option.some.inj hsame]
    · exact dispatchResult_bound hbound rfl rfl
  have hbounded : DispatchTaskBound functions (terminalFields started disposition) := by
    have hkept := hrecord
    rw [dispatchTaskBound_iff] at hkept ⊢
    exact hkept
  refine (bind_of_ok htask).trans ((bind_of_ok (require_of hbounded)).trans ?_)
  unfold validateShape
  cases disposition with
  | created => exact (bind_of_ok hstarted).trans hended
  | duplicate => exact (bind_of_ok hstarted).trans hended
  | ambiguous => exact (bind_of_ok hstarted).trans hended

end

/-- What a dispatch keeps of the call that prepared it. -/
structure Origin (configuration : Configuration) (command : PromotionCommandV2)
    (functions : PromotionFunctions) (dispatch : PromotionDispatchRecordFields) : Prop where
  answers : RecordMatches functions configuration.target command dispatch
  /-- Its authorization answers the command. -/
  authorized : authorizedCommand dispatch.task.intent.authorization=command
  admitted : Admitted configuration.settings (promotionRequest functions dispatch.task)
    dispatch.prepared_at
  task_name : dispatch.task_name.1=
    (addressedTask configuration.settings (promotionRequest functions dispatch.task)).name

/-- The moves of a dispatch keep where it comes from. -/
theorem Origin.same {first second : PromotionDispatchRecordFields}
    (h : Origin configuration command functions first) (hsame : SameDispatch first second) :
    Origin configuration command functions second := by
  have hanswers := h.answers
  unfold SameDispatch at hsame
  rw [recordMatches_iff] at hanswers
  refine ⟨?_,?_,?_,?_⟩
  · rw [recordMatches_iff,hsame]
    exact hanswers
  · rw [hsame]
    exact h.authorized
  · rw [hsame]
    exact h.admitted
  · rw [hsame]
    exact h.task_name

section

variable {stores : Stores functions} {dispatch : StoredDispatch functions}

theorem readIdentity_of_placed {target : TargetBinding} {dispatch_id value : Identifier}
    {kind : PromotionDispatchIdentityKind} (h : Placed target stores dispatch_id dispatch)
    (hvalue : (promotionDispatchIdentityV2 dispatch.value.fields kind).identity_value=value) :
    ∃ document,transactionReadIdentity kind value stores=.ok (some document) ∧
      document.stored.value=promotionDispatchIdentityV2 dispatch.value.fields kind := by
  obtain ⟨document,hdocument,howned⟩ := h.owned kind
  rw [hvalue] at hdocument
  refine ⟨document,?_,howned.value⟩
  unfold transactionReadIdentity
  rw [hdocument]
  have hkind : document.stored.value.identity_kind=kind := by
    rw [howned.value]
    rfl
  have hsame : document.stored.value.identity_value=value := by
    rw [howned.value]
    exact hvalue
  have hvalid : validateIdentity document.stored.value=.ok () := by
    rw [howned.value]
    exact howned.valid
  exact if_pos ⟨howned.revision,hkind,hsame,hvalid⟩

theorem readDispatch_of_placed {target : TargetBinding} {dispatch_id : Identifier}
    (h : Placed target stores dispatch_id dispatch) (hfound : dispatchAt stores dispatch_id=some dispatch) :
    ∃ document,transactionReadDispatch dispatch_id stores=.ok (some document) ∧
      document.stored=dispatch := by
  unfold dispatchAt at hfound
  rw [Option.map_eq_some_iff] at hfound
  obtain ⟨document,hdocument,hstored⟩ := hfound
  refine ⟨document,?_,hstored⟩
  unfold transactionReadDispatch
  rw [hdocument]
  exact if_pos ⟨by rw [hstored]; exact h.revision,by rw [hstored]; exact h.place⟩

/-- The identities of a dispatch that answers a command are those of the command. -/
theorem identityMatches_of_answers {target : TargetBinding} {kind : PromotionDispatchIdentityKind}
    {value : Identifier} {record : PromotionDispatchRecordFields}
    (h : RecordMatches functions target command record)
    (hvalue : (promotionDispatchIdentityV2 record kind).identity_value=value) :
    IdentityMatches functions command kind value (promotionDispatchIdentityV2 record kind) :=
  { kind := rfl
    value := hvalue
    dispatch_id := h.dispatch_id
    command_sha256 := h.command_sha256
    root_id := h.root_id
    root_sha256 := h.root_sha256
    epoch := h.epoch
    scheduled_at := h.scheduled_at
    source_receipt_sha256 := h.source_receipt_sha256
    chain := h.chain }

theorem read_of_placed
    (hfound : dispatchAt stores (commandDispatchId functions command)=some dispatch)
    (hplaced : Placed configuration.target stores (commandDispatchId functions command) dispatch)
    (hanswers : RecordMatches functions configuration.target command dispatch.value.fields) :
    readPromotionDispatchV2 configuration.target command stores=.ok (some dispatch) := by
  obtain ⟨request,hrequest,hrequested⟩ := @readIdentity_of_placed functions stores dispatch
    configuration.target _ command.request_id .request hplaced hanswers.request_id
  obtain ⟨key,hkey,hkeyed⟩ := @readIdentity_of_placed functions stores dispatch
    configuration.target _ command.idempotency_key .idempotency hplaced hanswers.idempotency_key
  obtain ⟨document,hdocument,hstored⟩ := readDispatch_of_placed hplaced hfound
  have hfirst : ∀ document∈some request,IdentityMatches functions command .request
      command.request_id document.stored.value := by
    intro other hother
    rw [← Option.some.inj hother,hrequested]
    exact identityMatches_of_answers hanswers hanswers.request_id
  have hsecond : ∀ document∈some key,IdentityMatches functions command .idempotency
      command.idempotency_key document.stored.value := by
    intro other hother
    rw [← Option.some.inj hother,hkeyed]
    exact identityMatches_of_answers hanswers hanswers.idempotency_key
  unfold readPromotionDispatchV2
  rw [bind_of_ok (mapError_eq_ok.mpr hrequest),bind_of_ok (mapError_eq_ok.mpr hkey),
    bind_of_ok (mapError_eq_ok.mpr hdocument)]
  refine (bind_of_ok (require_of ⟨hfirst,hsecond⟩)).trans ?_
  simp only [hstored,hrequested,hkeyed]
  exact bind_of_ok (require_of ⟨hanswers,trivial,trivial⟩)

/-- The three documents of a command are absent. -/
structure Absent (command : PromotionCommandV2) (stores : Stores functions) : Prop where
  request : stores.identities .request command.request_id=none
  idempotency : stores.identities .idempotency command.idempotency_key=none
  dispatch : stores.dispatches (commandDispatchId functions command)=none

/-- The transaction of a preparation finds absent documents. -/
theorem Absent.reads (h : Absent command stores) :
    transactionReadIdentity .request command.request_id stores=.ok none ∧
      transactionReadIdentity .idempotency command.idempotency_key stores=.ok none ∧
      transactionReadDispatch (commandDispatchId functions command) stores=.ok none := by
  unfold transactionReadIdentity transactionReadDispatch
  rw [h.request,h.idempotency,h.dispatch]
  exact ⟨rfl,rfl,rfl⟩

/-- A read of a command without documents finds none. -/
theorem read_of_absent {target : TargetBinding} (h : Absent command stores) :
    readPromotionDispatchV2 target command stores=.ok none := by
  obtain ⟨hrequest,hkey,hdispatch⟩ := h.reads
  unfold readPromotionDispatchV2
  rw [bind_of_ok (mapError_eq_ok.mpr hrequest),bind_of_ok (mapError_eq_ok.mpr hkey),
    bind_of_ok (mapError_eq_ok.mpr hdispatch)]
  refine (bind_of_ok (require_of ⟨?_,?_⟩)).trans rfl
  · intro document hdocument
    cases hdocument
  · intro document hdocument
    cases hdocument

theorem preparedDispatchDocuments_ok {target : TargetBinding}
    {prepared : PromotionDispatchRecordV2 functions} {mutation_ids : MutationIds}
    (hanswers : RecordMatches functions target command prepared.fields)
    (hstate : prepared.state=.prepared) :
    ∃ documents,preparedDispatchDocuments target command prepared mutation_ids=.ok documents := by
  have hrecord := (recordBound_of_accepted prepared.accepted).record
  have hderived : isDerivedCapabilityId prepared.capability_id.1=true := by
    rw [hrecord.capability_id]
    exact isDerivedCapabilityId_promotion
  have hidentity : ∀ (mutation_id : Identifier) (kind : PromotionDispatchIdentityKind),
      ∃ document,preparedIdentity mutation_id prepared.fields kind=.ok document := by
    intro mutation_id kind
    have hvalid : validateIdentity (promotionDispatchIdentityV2 prepared.fields kind)=.ok () :=
      require_of ⟨hrecord.dispatch_id,hderived⟩
    exact ⟨_,(bind_of_ok hvalid).trans rfl⟩
  obtain ⟨request,hrequest⟩ := hidentity (mutation_ids 0) .request
  obtain ⟨key,hkey⟩ := hidentity (mutation_ids 1) .idempotency
  have hrevision : (0 : Nat)=expectedRevision prepared.state := by
    rw [hstate]
    rfl
  have hdispatch : ∃ document,preparedDispatch (mutation_ids 2) prepared 0=.ok document :=
    ⟨_,(bind_of_ok (require_of hrevision)).trans rfl⟩
  obtain ⟨dispatch,hdispatch⟩ := hdispatch
  refine ⟨⟨request,key,dispatch⟩,?_⟩
  unfold preparedDispatchDocuments
  rw [bind_of_ok (require_of hanswers),bind_of_ok (require_of hstate),bind_of_ok hrequest,
    bind_of_ok hkey,bind_of_ok hdispatch]
  rfl

/-- The documents of a dispatch are created where the ones of its command are absent. -/
theorem createDispatch_of_absent {target : TargetBinding}
    {prepared : PromotionDispatchRecordV2 functions} {documents : DispatchDocuments functions}
    (h : Absent command stores) (hof : DocumentsOf target command prepared documents) :
    createDispatch documents stores=.ok (stores.putDispatchDocuments documents) := by
  obtain ⟨hrequest,hkey,hdispatch⟩ := h.reads
  have hanswers := hof.answers
  have hvalue := hof.value
  have hfirst : documents.dispatch.stored.value.request_id=command.request_id := by
    rw [hvalue]
    exact hanswers.request_id
  have hsecond : documents.dispatch.stored.value.idempotency_key=command.idempotency_key := by
    rw [hvalue]
    exact hanswers.idempotency_key
  have hthird : documents.dispatch.stored.value.dispatch_id=commandDispatchId functions command := by
    rw [hvalue]
    exact hanswers.dispatch_id
  unfold createDispatch
  simp only [hfirst,hsecond,hthird]
  rw [bind_of_ok hrequest,bind_of_ok hkey,bind_of_ok hdispatch]
  exact bind_of_ok (require_of ⟨rfl,rfl,rfl⟩)

/-- A dispatch that a read of a command finds is the stored one and answers the command. -/
theorem read_eq_ok {target : TargetBinding}
    (h : readPromotionDispatchV2 target command stores=.ok (some dispatch)) :
    dispatchAt stores (commandDispatchId functions command)=some dispatch ∧
      RecordMatches functions target command dispatch.value.fields := by
  unfold readPromotionDispatchV2 at h
  simp only [bind_eq_ok,mapError_eq_ok] at h
  obtain ⟨request,-,key,-,found,hfound,-,-,h⟩ := h
  unfold dispatchAt
  rw [transactionReadDispatch_eq_ok hfound]
  cases request with
  | none =>
    cases key with
    | none =>
      cases found with
      | none => cases h
      | some document => cases h
    | some identity => cases h
  | some owner =>
    cases key with
    | none => cases h
    | some identity =>
      cases found with
      | none => cases h
      | some document =>
        simp only [bind_eq_ok,require_eq_ok] at h
        obtain ⟨-,⟨hmatches,-⟩,hstored⟩ := h
        have hsame : document.stored=dispatch := Option.some.inj (Except.ok.inj hstored)
        rw [hsame] at hmatches
        exact ⟨congrArg some hsame,hmatches⟩

/-- A prepared dispatch of a command may be started. -/
theorem adoptExisting_prepared (hanswers : RecordMatches functions configuration.target command
      dispatch.value.fields) (hrevision : dispatch.revision=expectedRevision dispatch.value.state)
    (hstate : dispatch.value.state=.prepared) :
    adoptExisting configuration command dispatch=.ok none := by
  unfold adoptExisting
  rw [bind_of_ok (require_of ⟨hanswers.target,hrevision,hanswers.command_sha256⟩),hstate]
  rfl

/-- A started dispatch of a command has an open outcome. -/
theorem adoptExisting_started (hanswers : RecordMatches functions configuration.target command
      dispatch.value.fields) (hrevision : dispatch.revision=expectedRevision dispatch.value.state)
    (hstate : dispatch.value.state=.enqueueStarted) :
    adoptExisting configuration command dispatch=.error .outcomeUnknown := by
  unfold adoptExisting
  rw [bind_of_ok (require_of ⟨hanswers.target,hrevision,hanswers.command_sha256⟩),hstate]

theorem prepared_of_ready {prepared : StoredDispatch functions}
    (h : adopted configuration command dispatch=.ready prepared) :
    prepared=dispatch ∧ dispatch.value.state=.prepared := by
  unfold adopted at h
  cases hadopt : adoptExisting configuration command dispatch with
  | error code =>
    rw [hadopt] at h
    cases h
  | ok outcome =>
    rw [hadopt] at h
    cases outcome with
    | some result => cases h
    | none =>
      refine ⟨(Stage.ready.inj h).symm,?_⟩
      unfold adoptExisting at hadopt
      rw [check_bind_eq_ok] at hadopt
      have hmatch := hadopt.2
      cases hstate : dispatch.value.state with
      | prepared => rfl
      | enqueueStarted =>
        rw [hstate] at hmatch
        cases hmatch
      | created | duplicate | ambiguous =>
        rw [hstate] at hmatch
        simp only [bind_eq_ok] at hmatch
        obtain ⟨result,-,-,-,hsome⟩ := hmatch
        cases hsome

/-- States whose attempt has an outcome. -/
def Terminal (state : PromotionDispatchState) : Prop :=
  state=.created ∨ state=.duplicate ∨ state=.ambiguous

theorem outcome_of_terminal (record : PromotionDispatchRecordV2 functions)
    (h : Terminal record.state) : ∃ result,record.result=some result ∧
      validateDispatchResult result=.ok () ∧ DispatchResultBound functions record.fields result := by
  have hshape := (recordBound_of_accepted record.accepted).shape
  have hended : validateTerminal functions record.fields=.ok () := by
    unfold validateShape at hshape
    rcases h with hstate | hstate | hstate
    · rw [hstate] at hshape
      simp only [check_bind_eq_ok] at hshape
      exact hshape.2
    · rw [hstate] at hshape
      simp only [check_bind_eq_ok] at hshape
      exact hshape.2
    · rw [hstate] at hshape
      simp only [check_bind_eq_ok] at hshape
      exact hshape.2
  unfold validateTerminal at hended
  cases hterminal : record.terminal_at with
  | none =>
    rw [hterminal] at hended
    cases hended
  | some terminal_at =>
    cases hresult : record.result with
    | none =>
      rw [hterminal,hresult] at hended
      cases hended
    | some result =>
      rw [hterminal,hresult] at hended
      simp only [check_bind_eq_ok,require_eq_ok] at hended
      exact ⟨result,rfl,hended.1,hended.2.2⟩

/-- The outcome of a dispatch that comes from a command answers it. -/
theorem resultMatches_of_origin {record : PromotionDispatchRecordFields}
    {result : PromotionDispatchResultV2} (horigin : Origin configuration command functions record)
    (hvalid : validateDispatchResult result=.ok ())
    (hbound : DispatchResultBound functions record result) :
    ResultMatchesCommand command result configuration.target.project_id := by
  have hanswers := horigin.answers
  have hauthorized := horigin.authorized
  unfold validateDispatchResult at hvalid
  simp only [check_bind_eq_ok,require_eq_ok] at hvalid
  obtain ⟨-,-,-,hreceipt,hchain,-,hwindow,hproof⟩ := hvalid
  have hlocator : result.verified_apply_receipt=command.verified_apply_receipt :=
    hbound.verified_apply_receipt.trans
      (congrArg PromotionCommandV2.verified_apply_receipt hauthorized)
  have hhealth : result.health_chain_locator=command.health_chain_locator :=
    hbound.chain.trans (congrArg PromotionCommandV2.health_chain_locator hauthorized)
  exact {
    request_id := hbound.request_id.trans hanswers.request_id
    idempotency_key := hbound.idempotency_key.trans hanswers.idempotency_key
    root_id := hbound.root_id.trans hanswers.root_id
    root_sha256 := hbound.root_sha256.trans hanswers.root_sha256
    epoch := hbound.epoch.trans hanswers.epoch
    scheduled_at := hbound.scheduled_at.trans hanswers.scheduled_at
    project := by rw [hbound.target,hanswers.target]
    receipt := hlocator
    receipt_sha256 := by rw [hreceipt,hlocator]
    chain_sha256 := by rw [hchain,hhealth]
    chain := hhealth
    window := hwindow
    proof_window := hproof }

/-- A terminal dispatch of a command answers with its outcome. -/
theorem adoptExisting_terminal
    (horigin : Origin configuration command functions dispatch.value.fields)
    (hrevision : dispatch.revision=expectedRevision dispatch.value.state)
    (hstate : Terminal dispatch.value.state) :
    ∃ result,dispatch.value.result=some result ∧
      adoptExisting configuration command dispatch=.ok (some result) := by
  have hanswers := horigin.answers
  obtain ⟨result,hresult,hvalid,hbound⟩ := outcome_of_terminal dispatch.value hstate
  have hmatches := resultMatches_of_origin horigin hvalid hbound
  have hfound : requireSome dispatch.value.result CanaryExecutionErrorCode.trustedStateInvalid=
      .ok result := requireSome_eq_ok.mpr hresult
  refine ⟨result,hresult,?_⟩
  unfold adoptExisting
  rw [bind_of_ok (require_of ⟨hanswers.target,hrevision,hanswers.command_sha256⟩)]
  rcases hstate with hstate | hstate | hstate
  · rw [hstate]
    exact (bind_of_ok hfound).trans (bind_of_ok (require_of hmatches))
  · rw [hstate]
    exact (bind_of_ok hfound).trans (bind_of_ok (require_of hmatches))
  · rw [hstate]
    exact (bind_of_ok hfound).trans (bind_of_ok (require_of hmatches))

theorem origin_of_prepared {answers : PreparationAnswers}
    {prepared : PromotionDispatchRecordV2 functions}
    (h : preparedRecord functions configuration command answers=.ok prepared)
    (hanswers : RecordMatches functions configuration.target command prepared.fields) :
    Origin configuration command functions prepared.fields := by
  unfold preparedRecord at h
  rw [bind_eq_ok] at h
  obtain ⟨authorization,-,h⟩ := h
  rw [bind_eq_ok] at h
  obtain ⟨capability,-,h⟩ := h
  rw [check_bind_eq_ok,check_bind_eq_ok,require_eq_ok,mapError_eq_ok] at h
  obtain ⟨⟨hmatches,-⟩,-,h⟩ := h
  unfold buildRecord at h
  rw [bind_eq_ok] at h
  obtain ⟨capability_id,-,h⟩ := h
  rw [bind_eq_ok] at h
  obtain ⟨task_id,-,h⟩ := h
  rw [check_bind_eq_ok,bind_eq_ok] at h
  obtain ⟨-,addressed,hsealed,h⟩ := h
  rw [bind_eq_ok] at h
  obtain ⟨task_name,hname,h⟩ := h
  rw [sealTask_eq_ok] at hsealed
  obtain ⟨hadmitted,haddressed⟩ := hsealed
  have hfields := makeRecord_eq_ok.mp h
  have hnamed : task_name.1=addressed.name := by
    unfold boundedText at hname
    split at hname
    · rw [← Except.ok.inj hname]
    · cases hname
  refine ⟨hanswers,?_,?_,?_⟩
  · rw [hfields]
    unfold authorizedCommand preparedFields taskOf intentOf
    simp only
    rw [hmatches.root_id,hmatches.root_sha256,hmatches.epoch,hmatches.request_id,
      hmatches.idempotency_key,hmatches.scheduled_at,hmatches.receipt,hmatches.chain]
  · rw [hfields]
    exact hadmitted
  · rw [hfields]
    exact hnamed.trans (congrArg AddressedTask.name haddressed)

/-- A call that finds a dispatch holds no permit. -/
theorem not_started_of_adopted {start : DirectPromotionEnqueueStartV2 functions}
    {addressed : AddressedTask} {dispatch_time : UtcSecond} :
    adopted configuration command dispatch≠.started start addressed dispatch_time := by
  intro h
  unfold adopted at h
  cases hadopt : adoptExisting configuration command dispatch with
  | error code =>
    rw [hadopt] at h
    cases h
  | ok outcome =>
    rw [hadopt] at h
    cases outcome with
    | some result => cases h
    | none => cases h

/-- A dispatch that a preparation returns is the one of its command. -/
theorem answers_of_adopted {target : TargetBinding}
    {prepared : PromotionDispatchRecordV2 functions} {mutation_ids : MutationIds}
    {report : ProviderReport functions}
    (h : (prepareOrAdoptPromotionDispatchV2 target command prepared mutation_ids report stores).2=
      .ok dispatch) : dispatch.value.dispatch_id=commandDispatchId functions command := by
  unfold prepareOrAdoptPromotionDispatchV2 at h
  cases hdocuments : preparedDispatchDocuments target command prepared mutation_ids with
  | error raised =>
    rw [hdocuments] at h
    cases h
  | ok documents =>
    rw [hdocuments] at h
    simp only at h
    have hof := preparedDispatchDocuments_eq_ok hdocuments
    cases hdisposition : (runTransaction (createDispatch documents) report.commit
        (dispatchLooks documents report.resolved) stores).2 with
    | ok disposition =>
      rw [hdisposition] at h
      rw [← Except.ok.inj h,hof.value]
      exact hof.answers.dispatch_id
    | error raised =>
      rw [hdisposition] at h
      have hadopt : adoptPrepared target command report.reread=.ok dispatch := by
        cases raised with
        | conflict => exact h
        | outcomeUnknown => cases h
        | unavailable => cases h
        | corruptRecord => cases h
        | invalid error => cases h
      unfold adoptPrepared at hadopt
      cases hreread : report.reread with
      | none =>
        rw [hreread] at hadopt
        cases hadopt
      | some later =>
        rw [hreread] at hadopt
        simp only [bind_eq_ok,requireSome_eq_ok] at hadopt
        obtain ⟨found,hread,hfound⟩ := hadopt
        rw [hfound] at hread
        exact (read_eq_ok hread).2.dispatch_id

/-- A start seals the task and starts the dispatch inside its window. -/
theorem startRecord_eq_ok {addressed : AddressedTask} {dispatch_time : UtcSecond}
    {started : PromotionDispatchRecordV2 functions}
    (h : startRecord configuration dispatch dispatch_time=.ok (addressed,started)) :
    started.fields=startedFields dispatch.value.fields dispatch_time ∧
      dispatch.value.prepared_at.1 ≤ dispatch_time.1 ∧
      dispatch_time.1<dispatch.value.task.expires_at.1 := by
  unfold startRecord at h
  rw [bind_eq_ok] at h
  obtain ⟨sealed_task,hsealed,h⟩ := h
  rw [check_bind_eq_ok,bind_eq_ok] at h
  obtain ⟨-,record,hrecord,h⟩ := h
  have hpair : record=started := congrArg Prod.snd (Except.ok.inj h)
  have hfields := makeRecord_eq_ok.mp hrecord
  rw [sealTask_eq_ok] at hsealed
  have hshape := (recordBound_of_accepted record.accepted).shape
  rw [hfields] at hshape
  unfold validateShape startedFields at hshape
  simp only [check_bind_eq_ok,validateEnqueueStart,require_eq_ok] at hshape
  obtain ⟨⟨enqueue_started_at,hmem,htime⟩,-⟩ := hshape
  have hstart : dispatch_time=enqueue_started_at := Option.some.inj hmem
  rw [← hpair,hstart]
  rw [hstart] at hfields hsealed
  exact ⟨hfields,htime,hsealed.1.unexpired⟩

/-- A prepared dispatch of a command is started by a call inside its window. -/
theorem startRecord_ok {dispatch_time : UtcSecond}
    (horigin : Origin configuration command functions dispatch.value.fields)
    (hstate : dispatch.value.state=.prepared)
    (hlower : dispatch.value.prepared_at.1 ≤ dispatch_time.1)
    (hupper : dispatch_time.1<dispatch.value.task.expires_at.1) :
    ∃ addressed started,startRecord configuration dispatch dispatch_time=.ok (addressed,started) := by
  have haccepted := dispatch.value.accepted
  have hbound := recordBound_of_accepted haccepted
  have haction : (promotionRequest functions dispatch.value.task).action=.promoteCandidate := rfl
  have hroute : routeForAction (promotionRequest functions dispatch.value.task).action=.execution := by
    rw [haction]
    rfl
  have hadmitted : Admitted configuration.settings
      (promotionRequest functions dispatch.value.task) dispatch_time :=
    admitted_later horigin.admitted hroute hlower hupper
  have hsealed := sealTask_eq_ok.mpr ⟨hadmitted,rfl⟩
  have hempty := hbound.shape
  rw [validateShape,hstate] at hempty
  simp only [require_eq_ok] at hempty
  obtain ⟨-,hterminal,hresult⟩ := hempty
  rw [validateRecord,check_bind_eq_ok,check_bind_eq_ok,require_eq_ok] at haccepted
  obtain ⟨htask,hrecord,-⟩ := haccepted
  have hbounded : DispatchTaskBound functions
      (startedFields dispatch.value.fields dispatch_time) := by
    rw [dispatchTaskBound_iff] at hrecord ⊢
    exact hrecord
  have hshape : validateShape functions (startedFields dispatch.value.fields dispatch_time)=
      .ok () :=
    (bind_of_ok (require_of ⟨dispatch_time,rfl,hlower⟩)).trans (require_of ⟨hterminal,hresult⟩)
  have hvalid : validateRecord functions (startedFields dispatch.value.fields dispatch_time)=
      .ok () :=
    (bind_of_ok htask).trans ((bind_of_ok (require_of hbounded)).trans hshape)
  have hmade : makeRecord functions (startedFields dispatch.value.fields dispatch_time)=
      .ok ⟨startedFields dispatch.value.fields dispatch_time,hvalid⟩ := makeRecord_eq_ok.mpr rfl
  refine ⟨addressedTask configuration.settings (promotionRequest functions dispatch.value.task),
    ⟨startedFields dispatch.value.fields dispatch_time,hvalid⟩,?_⟩
  unfold startRecord
  rw [bind_of_ok hsealed,bind_of_ok (require_of horigin.task_name.symm),bind_of_ok hmade]
  rfl

theorem update_of_placed {target : TargetBinding} {dispatch_id : Identifier}
    {document : Document (PromotionDispatchRecordV2 functions)}
    (hplaced : Placed target stores dispatch_id dispatch)
    (hfound : dispatchAt stores dispatch_id=some dispatch) :
    updateDispatch dispatch document stores=.ok (stores.putDispatch document) := by
  obtain ⟨request,hrequest,hrequested⟩ := @readIdentity_of_placed functions stores dispatch
    target dispatch_id dispatch.value.request_id .request hplaced rfl
  obtain ⟨key,hkey,hkeyed⟩ := @readIdentity_of_placed functions stores dispatch
    target dispatch_id dispatch.value.idempotency_key .idempotency hplaced rfl
  obtain ⟨current,hcurrent,hstored⟩ := readDispatch_of_placed hplaced hfound
  rw [← hplaced.place] at hcurrent
  unfold updateDispatch
  rw [bind_of_ok hrequest,bind_of_ok hkey]
  refine (bind_of_ok (require_of ⟨congrArg some hrequested,congrArg some hkeyed⟩)).trans ?_
  rw [bind_of_ok hcurrent]
  exact bind_of_ok (require_of (congrArg some hstored))

theorem preparedReplacement_ok {target : TargetBinding}
    {replacement : PromotionDispatchRecordV2 functions} {mutation_ids : MutationIds}
    (htarget : dispatch.value.target=target)
    (hsame : SameDispatch dispatch.value.fields replacement.fields)
    (hstep : monotonicTransition dispatch replacement=true)
    (hrevision : dispatch.revision+1=expectedRevision replacement.state) :
    ∃ document,preparedReplacement target dispatch replacement mutation_ids=.ok document := by
  have hkept : replacement.target=target := by
    unfold SameDispatch at hsame
    rw [hsame]
    exact htarget
  have hsmall : expectedRevision replacement.state ≤ ReceiptContracts.maxRevision := by
    cases replacement.state <;> decide
  have hbounded : dispatch.revision+1 ≤ ReceiptContracts.maxRevision := by omega
  have hmade : StoredRecord.make replacement (dispatch.revision+1)=
      .ok ⟨replacement,dispatch.revision+1,hbounded⟩ := dif_pos hbounded
  have hvalid : validatePromotionReplacementV2 target dispatch replacement=.ok () := by
    unfold validatePromotionReplacementV2
    rw [bind_of_ok (require_of ⟨htarget,hkept⟩),bind_of_ok (require_of hsame)]
    exact require_of hstep
  refine ⟨⟨mutation_ids 0,⟨replacement,dispatch.revision+1,hbounded⟩⟩,?_⟩
  unfold preparedReplacement preparedDispatch preparedDocument
  rw [bind_of_ok hvalid,bind_of_ok (require_of hrevision),bind_of_ok hmade]
  rfl

/-- A confirmed replacement of a placed dispatch is written. -/
theorem compareAndSet_confirmed {target : TargetBinding} {dispatch_id : Identifier}
    {replacement : PromotionDispatchRecordV2 functions} {mutation_ids : MutationIds}
    {report : ProviderReport functions} {document : Document (PromotionDispatchRecordV2 functions)}
    (hplaced : Placed target stores dispatch_id dispatch)
    (hfound : dispatchAt stores dispatch_id=some dispatch)
    (hprepared : preparedReplacement target dispatch replacement mutation_ids=.ok document)
    (hcommit : report.commit=.confirmed) :
    compareAndSet target dispatch replacement mutation_ids report stores=
      (stores.putDispatch document,.ok (document.stored,.directConfirmed)) := by
  have hupdate : updateDispatch dispatch document stores=.ok (stores.putDispatch document) :=
    update_of_placed hplaced hfound
  unfold compareAndSet
  rw [hprepared]
  simp only [hcommit,runTransaction,hupdate]
  rfl

/-- A confirmed start of a prepared dispatch hands out its permit. -/
theorem begin_confirmed {target : TargetBinding} {dispatch_id : Identifier}
    {replacement : PromotionDispatchRecordV2 functions} {mutation_ids : MutationIds}
    {report : ProviderReport functions} {document : Document (PromotionDispatchRecordV2 functions)}
    (hplaced : Placed target stores dispatch_id dispatch)
    (hfound : dispatchAt stores dispatch_id=some dispatch)
    (hprepared : preparedReplacement target dispatch replacement mutation_ids=.ok document)
    (hcommit : report.commit=.confirmed) (hstate : replacement.state=.enqueueStarted) :
    ∃ permit,beginPromotionEnqueueV2 target dispatch replacement mutation_ids report stores=
      (stores.putDispatch document,.ok ⟨document.stored,permit⟩) := by
  obtain ⟨hvalue,htransition⟩ := preparedReplacement_eq_ok hprepared
  have hstarted : document.stored.value.state=.enqueueStarted := by
    rw [hvalue]
    exact hstate
  have hrevision : document.stored.revision=1 := by
    rcases htransition.step with hstart | hended
    · exact hstart.2.2.2
    · exact absurd hended.2.2.1 (started_not_ended hstarted)
  have hshape := (recordBound_of_accepted document.stored.value.accepted).shape
  rw [validateShape,hstarted] at hshape
  simp only [check_bind_eq_ok,require_eq_ok] at hshape
  have hresult : document.stored.value.result=none := hshape.2.2
  have hpermit : permitFromDirectStoreStart document.stored=
      .ok ⟨document.stored.value.dispatch_id,document.stored.revision,
        document.stored.value.task_name,document.stored.value.task_sha256⟩ :=
    bind_of_ok (require_of ⟨hrevision,hstarted,hresult⟩)
  have hdirect : directStart (document.stored,TransactionCommitDisposition.directConfirmed)=
      .ok ⟨document.stored,⟨document.stored.value.dispatch_id,document.stored.revision,
        document.stored.value.task_name,document.stored.value.task_sha256⟩⟩ :=
    (bind_of_ok (require_of rfl)).trans (bind_of_ok (mapError_eq_ok.mpr hpermit))
  refine ⟨⟨document.stored.value.dispatch_id,document.stored.revision,
    document.stored.value.task_name,document.stored.value.task_sha256⟩,?_⟩
  unfold beginPromotionEnqueueV2
  rw [if_pos hstate,compareAndSet_confirmed hplaced hfound hprepared hcommit]
  exact congrArg (Prod.mk (stores.putDispatch document)) hdirect

end

end ControlGraph.PromotionAdoption
