import ControlGraph.LabelledRuns
import ControlGraph.PromotionDispatchStore

/-!
# The life of a stored promotion dispatch

Any number of coordinators prepare, start and end dispatches. Each transaction
is one atomic step, whatever the provider answers, and a commit that lands behind
its caller is the step at which it lands. A step leaves the dispatch of an
identity alone, creates it, starts its enqueue attempt or records the outcome.
A permit is minted only by the step that starts it. The facts about whole runs
follow from these changes and from one invariant of the stored documents.
-/

namespace ControlGraph.PromotionDispatchLifecycle

open Checks ContractText LabelledRuns PromotionContracts PromotionDispatchStore

open ReceiptContracts (TargetBinding StoredRecord)

open ReceiptStore (StoreError Commit TransactionCommitDisposition)

variable {functions : PromotionFunctions} {target : TargetBinding}

def dispatchAt (stores : Stores functions) (dispatch_id : Identifier) :
    Option (StoredDispatch functions) :=
  (stores.dispatches dispatch_id).map Document.stored

/-- The dispatch that owns a request or a key. -/
def ownerOf (stores : Stores functions) (kind : PromotionDispatchIdentityKind) (value : Identifier) :
    Option PromotionDispatchIdentityV2 :=
  (stores.identities kind value).map (fun document => document.stored.value)

section

variable {stores : Stores functions}

/-- A transaction leaves the documents alone or applies its body once. -/
theorem runTransaction_fst {body : Stores functions → Except BodyEnd (Stores functions)}
    {commit : Commit} {looks : List (Option Look)} :
    (runTransaction body commit looks stores).1=stores ∨
      body stores=.ok (runTransaction body commit looks stores).1 := by
  unfold runTransaction
  cases commit with
  | contention => exact .inl rfl
  | confirmed =>
    cases hbody : body stores with
    | error ended => exact .inl rfl
    | ok written => exact .inr rfl
  | unconfirmed applied =>
    cases applied with
    | false => exact .inl rfl
    | true =>
      cases hbody : body stores with
      | error ended => exact .inl rfl
      | ok written => exact .inr rfl

/-- Later reads never confirm a write directly. -/
theorem resolveAmbiguous_ne_direct {looks : List (Option Look)} :
    resolveAmbiguous looks≠.ok .directConfirmed := by
  intro h
  unfold resolveAmbiguous at h
  split at h
  · cases h
  · split at h
    · cases h
    · split at h <;> cases h

/-- A transaction that was confirmed directly has applied its body. -/
theorem runTransaction_direct {body : Stores functions → Except BodyEnd (Stores functions)}
    {commit : Commit} {looks : List (Option Look)}
    (h : (runTransaction body commit looks stores).2=.ok .directConfirmed) :
    commit=.confirmed ∧ body stores=.ok (runTransaction body commit looks stores).1 := by
  unfold runTransaction at h ⊢
  cases commit with
  | contention => cases h
  | confirmed =>
    cases hbody : body stores with
    | error ended => simp only [hbody,reduceCtorEq] at h
    | ok written => exact ⟨rfl,rfl⟩
  | unconfirmed applied =>
    cases applied with
    | false => exact absurd h resolveAmbiguous_ne_direct
    | true =>
      cases hbody : body stores with
      | error ended => simp only [hbody,reduceCtorEq] at h
      | ok written =>
        simp only [hbody] at h
        exact absurd h resolveAmbiguous_ne_direct

theorem transactionReadIdentity_eq_ok {kind : PromotionDispatchIdentityKind} {value : Identifier}
    {found : Option (Document PromotionDispatchIdentityV2)}
    (h : transactionReadIdentity kind value stores=.ok found) :
    stores.identities kind value=found := by
  unfold transactionReadIdentity at h
  split at h
  · rename_i hnone
    rw [hnone]
    exact Except.ok.inj h
  · rename_i stored hstored
    split at h
    · rw [hstored]
      exact Except.ok.inj h
    · cases h

theorem transactionReadDispatch_eq_ok {dispatch_id : Identifier}
    {found : Option (Document (PromotionDispatchRecordV2 functions))}
    (h : transactionReadDispatch dispatch_id stores=.ok found) :
    stores.dispatches dispatch_id=found := by
  unfold transactionReadDispatch at h
  split at h
  · rename_i hnone
    rw [hnone]
    exact Except.ok.inj h
  · rename_i stored hstored
    split at h
    · rw [hstored]
      exact Except.ok.inj h
    · cases h

theorem preparedDocument_eq_ok {Record : Type} {mutation_id : Identifier} {value : Record}
    {revision : Nat} {document : Document Record}
    (h : preparedDocument mutation_id value revision=.ok document) :
    document.stored.value=value ∧ document.stored.revision=revision := by
  rw [preparedDocument,bind_eq_ok] at h
  obtain ⟨stored,hstored,h⟩ := h
  rw [← Except.ok.inj h]
  exact StoredRecord.make_eq_ok hstored

/-- A document of ownership that was prepared for a dispatch. -/
structure OwnershipOf (record : PromotionDispatchRecordFields) (kind : PromotionDispatchIdentityKind)
    (document : Document PromotionDispatchIdentityV2) : Prop where
  value : document.stored.value=promotionDispatchIdentityV2 record kind
  revision : document.stored.revision=0
  valid : validateIdentity (promotionDispatchIdentityV2 record kind)=.ok ()

theorem preparedIdentity_eq_ok {mutation_id : Identifier} {record : PromotionDispatchRecordFields}
    {kind : PromotionDispatchIdentityKind} {document : Document PromotionDispatchIdentityV2}
    (h : preparedIdentity mutation_id record kind=.ok document) : OwnershipOf record kind document := by
  rw [preparedIdentity,check_bind_eq_ok] at h
  obtain ⟨hvalid,hdocument⟩ := h
  have hprepared := preparedDocument_eq_ok hdocument
  exact ⟨hprepared.1,hprepared.2,hvalid⟩

/-- What prepared documents of a new dispatch are. -/
structure DocumentsOf (target : TargetBinding) (command : PromotionCommandV2)
    (prepared : PromotionDispatchRecordV2 functions) (documents : DispatchDocuments functions) :
    Prop where
  answers : RecordMatches functions target command prepared.fields
  state : prepared.state=.prepared
  value : documents.dispatch.stored.value=prepared
  revision : documents.dispatch.stored.revision=0
  request : OwnershipOf prepared.fields .request documents.request
  idempotency : OwnershipOf prepared.fields .idempotency documents.idempotency

theorem preparedDispatchDocuments_eq_ok {command : PromotionCommandV2}
    {prepared : PromotionDispatchRecordV2 functions} {mutation_ids : MutationIds}
    {documents : DispatchDocuments functions}
    (h : preparedDispatchDocuments target command prepared mutation_ids=.ok documents) :
    DocumentsOf target command prepared documents := by
  rw [preparedDispatchDocuments,check_bind_eq_ok,check_bind_eq_ok,require_eq_ok,require_eq_ok] at h
  obtain ⟨hmatches,hstate,h⟩ := h
  rw [bind_eq_ok] at h
  obtain ⟨request,hrequest,h⟩ := h
  rw [bind_eq_ok] at h
  obtain ⟨idempotency,hidempotency,h⟩ := h
  rw [bind_eq_ok] at h
  obtain ⟨dispatch,hdispatch,h⟩ := h
  rw [preparedDispatch,check_bind_eq_ok] at hdispatch
  have hdocument := preparedDocument_eq_ok hdispatch.2
  rw [← Except.ok.inj h]
  exact ⟨hmatches,hstate,hdocument.1,hdocument.2,preparedIdentity_eq_ok hrequest,
    preparedIdentity_eq_ok hidempotency⟩

/-- A create finds all the places of its documents empty. -/
theorem createDispatch_eq_ok {documents : DispatchDocuments functions} {next : Stores functions}
    (h : createDispatch documents stores=.ok next) :
    stores.identities .request documents.dispatch.stored.value.request_id=none ∧
      stores.identities .idempotency documents.dispatch.stored.value.idempotency_key=none ∧
      stores.dispatches documents.dispatch.stored.value.dispatch_id=none ∧
      next=stores.putDispatchDocuments documents := by
  rw [createDispatch,bind_eq_ok] at h
  obtain ⟨request,hrequest,h⟩ := h
  rw [bind_eq_ok] at h
  obtain ⟨idempotency,hidempotency,h⟩ := h
  rw [bind_eq_ok] at h
  obtain ⟨dispatch,hdispatch,h⟩ := h
  rw [check_bind_eq_ok,require_eq_ok] at h
  obtain ⟨⟨hfirst,hsecond,hthird⟩,hnext⟩ := h
  rw [transactionReadIdentity_eq_ok hrequest,transactionReadIdentity_eq_ok hidempotency,
    transactionReadDispatch_eq_ok hdispatch]
  exact ⟨hfirst,hsecond,hthird,(Except.ok.inj hnext).symm⟩

theorem updateDispatch_eq_ok {expected : StoredDispatch functions}
    {document : Document (PromotionDispatchRecordV2 functions)} {next : Stores functions}
    (h : updateDispatch expected document stores=.ok next) :
    dispatchAt stores expected.value.dispatch_id=some expected ∧
      next=stores.putDispatch document := by
  rw [updateDispatch,bind_eq_ok] at h
  obtain ⟨request,-,h⟩ := h
  rw [bind_eq_ok] at h
  obtain ⟨idempotency,-,h⟩ := h
  rw [check_bind_eq_ok,bind_eq_ok] at h
  obtain ⟨-,decoded,hdecoded,h⟩ := h
  rw [check_bind_eq_ok,require_eq_ok] at h
  obtain ⟨hexpected,hnext⟩ := h
  have hfound : stores.dispatches expected.value.dispatch_id=decoded :=
    transactionReadDispatch_eq_ok hdecoded
  unfold dispatchAt
  rw [hfound]
  exact ⟨hexpected,(Except.ok.inj hnext).symm⟩

theorem sameDispatch_refl {dispatch : PromotionDispatchRecordFields} :
    SameDispatch dispatch dispatch := rfl

/-- Agreement composes. -/
theorem sameDispatch_trans {first second third : PromotionDispatchRecordFields}
    (hfirst : SameDispatch first second) (hsecond : SameDispatch second third) :
    SameDispatch first third := by
  unfold SameDispatch at hfirst hsecond ⊢
  rw [hsecond,hfirst]

/-- Records that agree have the same identities. -/
theorem sameDispatch_identity {first second : PromotionDispatchRecordFields}
    (h : SameDispatch first second) (kind : PromotionDispatchIdentityKind) :
    promotionDispatchIdentityV2 second kind=promotionDispatchIdentityV2 first kind := by
  unfold SameDispatch at h
  rw [h]
  rfl

/-- What a prepared next step of a dispatch says of it. -/
structure Transition (target : TargetBinding) (expected : StoredDispatch functions)
    (document : Document (PromotionDispatchRecordV2 functions)) : Prop where
  /-- The rest of the record is kept. -/
  same : SameDispatch expected.value.fields document.stored.value.fields
  /-- The attempt is started, or its outcome is recorded. -/
  step : (expected.value.state=.prepared ∧ expected.revision=0 ∧
      document.stored.value.state=.enqueueStarted ∧ document.stored.revision=1) ∨
    (expected.value.state=.enqueueStarted ∧ expected.revision=1 ∧
      document.stored.value.state∈[.created,.duplicate,.ambiguous] ∧ document.stored.revision=2)
  target : document.stored.value.target=target

/-- A prepared next step is one of the two steps of a dispatch. -/
theorem preparedReplacement_eq_ok {expected : StoredDispatch functions}
    {replacement : PromotionDispatchRecordV2 functions} {mutation_ids : MutationIds}
    {document : Document (PromotionDispatchRecordV2 functions)}
    (h : preparedReplacement target expected replacement mutation_ids=.ok document) :
    document.stored.value=replacement ∧ Transition target expected document := by
  rw [preparedReplacement,check_bind_eq_ok,preparedDispatch,check_bind_eq_ok] at h
  obtain ⟨hvalid,-,hdocument⟩ := h
  rw [validatePromotionReplacementV2,check_bind_eq_ok,check_bind_eq_ok,require_eq_ok,require_eq_ok,
    require_eq_ok] at hvalid
  obtain ⟨htarget,hsame,hstep⟩ := hvalid
  obtain ⟨hvalue,hrevision⟩ := preparedDocument_eq_ok hdocument
  refine ⟨hvalue,by rw [hvalue]; exact hsame,?_,by rw [hvalue]; exact htarget.2⟩
  rw [hvalue,hrevision]
  unfold monotonicTransition at hstep
  cases hstate : expected.value.state with
  | prepared =>
    simp only [hstate,Bool.and_eq_true,beq_iff_eq] at hstep
    have hzero : expected.revision=0 := hstep.1.1.1.1
    have hstarted : replacement.state=.enqueueStarted := hstep.1.1.1.2
    exact .inl ⟨rfl,hzero,hstarted,by omega⟩
  | enqueueStarted =>
    simp only [hstate,Bool.and_eq_true,beq_iff_eq,List.contains_iff_mem] at hstep
    have hone : expected.revision=1 := hstep.1.1.1.1
    have hended : replacement.state∈[.created,.duplicate,.ambiguous] := hstep.1.1.1.2
    exact .inr ⟨rfl,hone,hended,by omega⟩
  | created => simp only [hstate,Bool.false_eq_true] at hstep
  | duplicate => simp only [hstate,Bool.false_eq_true] at hstep
  | ambiguous => simp only [hstate,Bool.false_eq_true] at hstep

/-- A preparation leaves the documents alone or creates those of its dispatch. -/
theorem prepareOrAdopt_fst {command : PromotionCommandV2}
    {prepared : PromotionDispatchRecordV2 functions} {mutation_ids : MutationIds}
    {report : ProviderReport functions} :
    (prepareOrAdoptPromotionDispatchV2 target command prepared mutation_ids report stores).1=stores ∨
      ∃ documents,preparedDispatchDocuments target command prepared mutation_ids=.ok documents ∧
        createDispatch documents stores=.ok
          (prepareOrAdoptPromotionDispatchV2 target command prepared mutation_ids report stores).1 := by
  unfold prepareOrAdoptPromotionDispatchV2
  cases hprepared : preparedDispatchDocuments target command prepared mutation_ids with
  | error raised => exact .inl rfl
  | ok documents => exact runTransaction_fst.imp id (fun hbody => ⟨documents,rfl,hbody⟩)

/-- A replacement leaves the documents alone or writes its document over the expected one. -/
theorem compareAndSet_fst {expected : StoredDispatch functions}
    {replacement : PromotionDispatchRecordV2 functions} {mutation_ids : MutationIds}
    {report : ProviderReport functions} :
    (compareAndSet target expected replacement mutation_ids report stores).1=stores ∨
      ∃ document,preparedReplacement target expected replacement mutation_ids=.ok document ∧
        updateDispatch expected document stores=
          .ok (compareAndSet target expected replacement mutation_ids report stores).1 := by
  unfold compareAndSet
  cases hprepared : preparedReplacement target expected replacement mutation_ids with
  | error raised => exact .inl rfl
  | ok document => exact runTransaction_fst.imp id (fun hbody => ⟨document,rfl,hbody⟩)

/-- A replacement that reports a direct confirmation has written its document. -/
theorem compareAndSet_direct {expected written : StoredDispatch functions}
    {replacement : PromotionDispatchRecordV2 functions} {mutation_ids : MutationIds}
    {report : ProviderReport functions}
    (h : (compareAndSet target expected replacement mutation_ids report stores).2=
      .ok (written,.directConfirmed)) :
    report.commit=.confirmed ∧ ∃ document,
      preparedReplacement target expected replacement mutation_ids=.ok document ∧
      document.stored=written ∧ updateDispatch expected document stores=
        .ok (compareAndSet target expected replacement mutation_ids report stores).1 := by
  unfold compareAndSet at h ⊢
  cases hprepared : preparedReplacement target expected replacement mutation_ids with
  | error raised => simp only [hprepared,reduceCtorEq] at h
  | ok document =>
    simp only [hprepared] at h ⊢
    have hdisposition : (runTransaction (updateDispatch expected document) report.commit
        [lookFor document (transactionReadDispatch document.stored.value.dispatch_id)
          (report.resolved 0)] stores).2=.ok .directConfirmed ∧ document.stored=written := by
      revert h
      generalize (runTransaction (updateDispatch expected document) report.commit
        [lookFor document (transactionReadDispatch document.stored.value.dispatch_id)
          (report.resolved 0)] stores).2=disposition
      intro h
      cases disposition with
      | error raised => cases h
      | ok disposition =>
        have hpair := Except.ok.inj h
        exact ⟨congrArg Except.ok (congrArg Prod.snd hpair),congrArg Prod.fst hpair⟩
    obtain ⟨hcommit,hbody⟩ := runTransaction_direct hdisposition.1
    exact ⟨hcommit,document,rfl,hdisposition.2,hbody⟩

/-- A start that is confirmed directly moves a prepared dispatch and mints its permit. -/
theorem begin_eq_ok {expected : StoredDispatch functions}
    {replacement : PromotionDispatchRecordV2 functions} {mutation_ids : MutationIds}
    {report : ProviderReport functions} {start : DirectPromotionEnqueueStartV2 functions}
    (h : (beginPromotionEnqueueV2 target expected replacement mutation_ids report stores).2=
      .ok start) :
    report.commit=.confirmed ∧ ∃ document,
      preparedReplacement target expected replacement mutation_ids=.ok document ∧
      document.stored=start.dispatch ∧ updateDispatch expected document stores=
        .ok (beginPromotionEnqueueV2 target expected replacement mutation_ids report stores).1 ∧
      document.stored.value.state=.enqueueStarted ∧
      permitFromDirectStoreStart start.dispatch=.ok start.permit := by
  unfold beginPromotionEnqueueV2 at h ⊢
  by_cases hstarted : replacement.state=.enqueueStarted
  · rw [if_pos hstarted] at h ⊢
    simp only [bind_eq_ok] at h
    obtain ⟨⟨written,disposition⟩,hwritten,hstart⟩ := h
    rw [directStart,check_bind_eq_ok,require_eq_ok,bind_eq_ok] at hstart
    obtain ⟨hdirect,permit,hpermit,hresult⟩ := hstart
    simp only at hdirect
    rw [hdirect] at hwritten
    obtain ⟨hcommit,document,hprepared,hstored,hupdate⟩ := compareAndSet_direct hwritten
    refine ⟨hcommit,document,hprepared,?_,hupdate,?_,?_⟩
    · rw [← Except.ok.inj hresult]
      exact hstored
    · rw [(preparedReplacement_eq_ok hprepared).1]
      exact hstarted
    · rw [← Except.ok.inj hresult]
      exact mapError_eq_ok.mp hpermit
  · rw [if_neg hstarted] at h
    cases h

/-- The documents that a start leaves. -/
theorem begin_fst {expected : StoredDispatch functions}
    {replacement : PromotionDispatchRecordV2 functions} {mutation_ids : MutationIds}
    {report : ProviderReport functions} :
    (beginPromotionEnqueueV2 target expected replacement mutation_ids report stores).1=stores ∨
      ∃ document,preparedReplacement target expected replacement mutation_ids=.ok document ∧
        replacement.state=.enqueueStarted ∧ updateDispatch expected document stores=
          .ok (beginPromotionEnqueueV2 target expected replacement mutation_ids report stores).1 := by
  unfold beginPromotionEnqueueV2
  by_cases hstarted : replacement.state=.enqueueStarted
  · rw [if_pos hstarted]
    have hwrite := @compareAndSet_fst functions target stores expected replacement mutation_ids
      report
    refine hwrite.imp id ?_
    rintro ⟨document,hprepared,hupdate⟩
    exact ⟨document,hprepared,hstarted,hupdate⟩
  · rw [if_neg hstarted]
    exact .inl rfl

/-- The documents that the record of an outcome leaves. -/
theorem compareAndSetPromotionDispatchV2_fst {expected : StoredDispatch functions}
    {replacement : PromotionDispatchRecordV2 functions} {mutation_ids : MutationIds}
    {report : ProviderReport functions} :
    (compareAndSetPromotionDispatchV2 target expected replacement mutation_ids report stores).1=
        stores ∨
      ∃ document,preparedReplacement target expected replacement mutation_ids=.ok document ∧
        replacement.state≠.enqueueStarted ∧ updateDispatch expected document stores=.ok
          (compareAndSetPromotionDispatchV2 target expected replacement mutation_ids report
            stores).1 := by
  unfold compareAndSetPromotionDispatchV2
  by_cases hstarted : replacement.state=.enqueueStarted
  · rw [if_pos hstarted]
    exact .inl rfl
  · rw [if_neg hstarted]
    have hwrite := @compareAndSet_fst functions target stores expected replacement mutation_ids
      report
    refine hwrite.imp id ?_
    rintro ⟨document,hprepared,hupdate⟩
    exact ⟨document,hprepared,hstarted,hupdate⟩

end

/-- What one operation does to the stored documents. -/
inductive Effect (target : TargetBinding) (stores next : Stores functions) : Prop
  | unchanged (hnext : next=stores)
  /-- The documents of a dispatch are created where there were none. -/
  | prepared (command : PromotionCommandV2) (prepared : PromotionDispatchRecordV2 functions)
      (documents : DispatchDocuments functions)
      (hdocuments : DocumentsOf target command prepared documents)
      (hrequest : stores.identities .request prepared.request_id=none)
      (hidempotency : stores.identities .idempotency prepared.idempotency_key=none)
      (hdispatch : stores.dispatches prepared.dispatch_id=none)
      (hnext : next=stores.putDispatchDocuments documents)
  | moved (expected : StoredDispatch functions)
      (document : Document (PromotionDispatchRecordV2 functions))
      (htransition : Transition target expected document)
      (hfound : dispatchAt stores expected.value.dispatch_id=some expected)
      (hnext : next=stores.putDispatch document)

/-- The places of the documents of a dispatch. -/
structure Placed (target : TargetBinding) (stores : Stores functions) (dispatch_id : Identifier)
    (dispatch : StoredDispatch functions) : Prop where
  place : dispatch.value.dispatch_id=dispatch_id
  target : dispatch.value.target=target
  revision : dispatch.revision=expectedRevision dispatch.value.state
  /-- Its request and its key name it. -/
  owned : ∀ kind,∃ document,
    stores.identities kind (promotionDispatchIdentityV2 dispatch.value.fields kind).identity_value=
      some document ∧ OwnershipOf dispatch.value.fields kind document

/-- Every stored dispatch is at its place and owns its request and its key. -/
def Sound (target : TargetBinding) (stores : Stores functions) : Prop :=
  ∀ dispatch_id dispatch,dispatchAt stores dispatch_id=some dispatch →
    Placed target stores dispatch_id dispatch

section

variable {stores next : Stores functions}

theorem identities_putDispatchDocuments {documents : DispatchDocuments functions}
    {kind : PromotionDispatchIdentityKind} {value : Identifier}
    {found : Document PromotionDispatchIdentityV2}
    (hrequest : stores.identities .request documents.dispatch.stored.value.request_id=none)
    (hidempotency : stores.identities .idempotency
      documents.dispatch.stored.value.idempotency_key=none)
    (h : stores.identities kind value=some found) :
    (stores.putDispatchDocuments documents).identities kind value=some found := by
  have hfirst : ¬(kind=.request ∧ value=documents.dispatch.stored.value.request_id) := by
    rintro ⟨rfl,rfl⟩
    rw [hrequest] at h
    cases h
  have hsecond : ¬(kind=.idempotency ∧ value=documents.dispatch.stored.value.idempotency_key) := by
    rintro ⟨rfl,rfl⟩
    rw [hidempotency] at h
    cases h
  unfold Stores.putDispatchDocuments
  simp only [if_neg hfirst,if_neg hsecond,h]

theorem dispatchAt_putDispatchDocuments {documents : DispatchDocuments functions}
    {dispatch_id : Identifier} : dispatchAt (stores.putDispatchDocuments documents) dispatch_id=
      if dispatch_id=documents.dispatch.stored.value.dispatch_id
      then some documents.dispatch.stored else dispatchAt stores dispatch_id := by
  unfold dispatchAt Stores.putDispatchDocuments
  simp only [Function.update_apply]
  split <;> rfl

theorem dispatchAt_putDispatch {document : Document (PromotionDispatchRecordV2 functions)}
    {dispatch_id : Identifier} : dispatchAt (stores.putDispatch document) dispatch_id=
      if dispatch_id=document.stored.value.dispatch_id then some document.stored
      else dispatchAt stores dispatch_id := by
  unfold dispatchAt Stores.putDispatch
  simp only [Function.update_apply]
  split <;> rfl

/-- The documents of a new dispatch are at their places. -/
theorem placed_of_created {command : PromotionCommandV2}
    {prepared : PromotionDispatchRecordV2 functions} {documents : DispatchDocuments functions}
    (h : DocumentsOf target command prepared documents) :
    Placed target (stores.putDispatchDocuments documents) prepared.dispatch_id
      documents.dispatch.stored := by
  have hvalue := h.value
  refine {
    place := by rw [hvalue]
    target := by rw [hvalue]; exact h.answers.target
    revision := by rw [h.revision,hvalue,h.state]; rfl
    owned := ?_ }
  intro kind
  cases kind with
  | request =>
    refine ⟨documents.request,?_,by rw [hvalue]; exact h.request⟩
    exact if_pos ⟨rfl,rfl⟩
  | idempotency =>
    refine ⟨documents.idempotency,?_,by rw [hvalue]; exact h.idempotency⟩
    unfold Stores.putDispatchDocuments promotionDispatchIdentityV2
    simp only [reduceCtorEq,false_and,if_false,and_self,if_true]

theorem Placed.moved {expected : StoredDispatch functions} {dispatch_id : Identifier}
    {document : Document (PromotionDispatchRecordV2 functions)}
    (htransition : Transition target expected document)
    (h : Placed target stores dispatch_id expected) :
    Placed target (stores.putDispatch document) dispatch_id document.stored := by
  have hsame := htransition.same
  have hplace : document.stored.value.dispatch_id=expected.value.dispatch_id := by
    unfold SameDispatch at hsame
    rw [hsame]
  refine {
    place := hplace.trans h.place
    target := htransition.target
    revision := ?_
    owned := ?_ }
  · rcases htransition.step with ⟨-,-,hstate,hrevision⟩ | ⟨-,-,hstate,hrevision⟩
    · rw [hrevision,hstate]
      rfl
    · simp only [List.mem_cons,List.not_mem_nil,or_false] at hstate
      rcases hstate with hstate | hstate | hstate
      · rw [hrevision,hstate]
        rfl
      · rw [hrevision,hstate]
        rfl
      · rw [hrevision,hstate]
        rfl
  · intro kind
    obtain ⟨owner,howner,hownership⟩ := h.owned kind
    have hidentity := sameDispatch_identity hsame kind
    refine ⟨owner,by rw [hidentity]; exact howner,?_⟩
    exact ⟨hownership.value.trans hidentity.symm,hownership.revision,
      by rw [hidentity]; exact hownership.valid⟩

theorem Placed.created {documents : DispatchDocuments functions} {dispatch_id : Identifier}
    {dispatch : StoredDispatch functions}
    (hrequest : stores.identities .request documents.dispatch.stored.value.request_id=none)
    (hidempotency : stores.identities .idempotency
      documents.dispatch.stored.value.idempotency_key=none)
    (h : Placed target stores dispatch_id dispatch) :
    Placed target (stores.putDispatchDocuments documents) dispatch_id dispatch := by
  refine ⟨h.place,h.target,h.revision,?_⟩
  intro kind
  obtain ⟨owner,howner,hownership⟩ := h.owned kind
  exact ⟨owner,identities_putDispatchDocuments hrequest hidempotency howner,hownership⟩

theorem sound_of_effect (heffect : Effect target stores next) (h : Sound target stores) :
    Sound target next := by
  cases heffect with
  | unchanged hnext =>
    rw [hnext]
    exact h
  | prepared command prepared documents hdocuments hrequest hidempotency hdispatch hnext =>
    have hvalue := hdocuments.value
    rw [hnext]
    intro dispatch_id dispatch hstored
    rw [dispatchAt_putDispatchDocuments,hvalue] at hstored
    by_cases hid : dispatch_id=prepared.dispatch_id
    · rw [if_pos hid] at hstored
      rw [← Option.some.inj hstored,hid]
      exact placed_of_created hdocuments
    · rw [if_neg hid] at hstored
      have hfirst : stores.identities .request documents.dispatch.stored.value.request_id=none := by
        rw [hvalue]
        exact hrequest
      have hsecond : stores.identities .idempotency
          documents.dispatch.stored.value.idempotency_key=none := by
        rw [hvalue]
        exact hidempotency
      exact (h dispatch_id dispatch hstored).created hfirst hsecond
  | moved expected document htransition hfound hnext =>
    have hplaced := h _ expected hfound
    have hmoved := hplaced.moved htransition
    rw [hnext]
    intro dispatch_id dispatch hstored
    rw [dispatchAt_putDispatch,hmoved.place] at hstored
    by_cases hid : dispatch_id=expected.value.dispatch_id
    · rw [if_pos hid] at hstored
      rw [← Option.some.inj hstored,hid]
      exact hmoved
    · rw [if_neg hid] at hstored
      have hkept := h dispatch_id dispatch hstored
      exact ⟨hkept.place,hkept.target,hkept.revision,hkept.owned⟩

/-- A request or a key keeps its owner. -/
theorem owner_of_effect (heffect : Effect target stores next)
    {kind : PromotionDispatchIdentityKind} {value : Identifier}
    {identity : PromotionDispatchIdentityV2} (h : ownerOf stores kind value=some identity) :
    ownerOf next kind value=some identity := by
  cases heffect with
  | unchanged hnext =>
    rw [hnext]
    exact h
  | prepared command prepared documents hdocuments hrequest hidempotency hdispatch hnext =>
    have hvalue := hdocuments.value
    rw [hnext]
    unfold ownerOf at h ⊢
    rw [Option.map_eq_some_iff] at h ⊢
    obtain ⟨document,hdocument,hidentity⟩ := h
    refine ⟨document,?_,hidentity⟩
    refine identities_putDispatchDocuments ?_ ?_ hdocument
    · rw [hvalue]
      exact hrequest
    · rw [hvalue]
      exact hidempotency
  | moved expected document htransition hfound hnext =>
    rw [hnext]
    exact h

theorem started_not_ended {state : PromotionDispatchState} (h : state=.enqueueStarted) :
    state∉[PromotionDispatchState.created,.duplicate,.ambiguous] := by
  rw [h]
  simp only [List.mem_cons,reduceCtorEq,List.not_mem_nil,or_self,not_false_eq_true]

end

/-- One atomic step on the stored documents. -/
inductive StoreAction (functions : PromotionFunctions)
  /-- A coordinator prepares the dispatch of a command. -/
  | prepareOrAdopt (command : PromotionCommandV2) (prepared : PromotionDispatchRecordV2 functions)
      (mutation_ids : MutationIds) (report : ProviderReport functions)
  | beginEnqueue (expected : StoredDispatch functions)
      (replacement : PromotionDispatchRecordV2 functions) (mutation_ids : MutationIds)
      (report : ProviderReport functions)
  /-- A coordinator records the outcome of the attempt. -/
  | compareAndSet (expected : StoredDispatch functions)
      (replacement : PromotionDispatchRecordV2 functions) (mutation_ids : MutationIds)
      (report : ProviderReport functions)

/-- Documents after one step. -/
def step (target : TargetBinding) (stores : Stores functions) :
    StoreAction functions → Stores functions
  | .prepareOrAdopt command prepared mutation_ids report =>
    (prepareOrAdoptPromotionDispatchV2 target command prepared mutation_ids report stores).1
  | .beginEnqueue expected replacement mutation_ids report =>
    (beginPromotionEnqueueV2 target expected replacement mutation_ids report stores).1
  | .compareAndSet expected replacement mutation_ids report =>
    (compareAndSetPromotionDispatchV2 target expected replacement mutation_ids report stores).1

/-- The permit that a step mints. -/
def issuedPermit (target : TargetBinding) (stores : Stores functions) :
    StoreAction functions → Option PromotionEnqueuePermitV2
  | .beginEnqueue expected replacement mutation_ids report =>
    match (beginPromotionEnqueueV2 target expected replacement mutation_ids report stores).2 with
    | .ok start => some start.permit
    | .error _ => none
  | _ => none

/-- Documents without a promotion. -/
def noPromotions : Stores functions := ⟨fun _ _ => none,fun _ => none⟩

/-- Documents after some steps over no promotion. -/
def after (target : TargetBinding) (actions : List (StoreAction functions)) : Stores functions :=
  run (step target) noPromotions actions

/-- What a step does to the dispatch of one identity. -/
inductive DispatchChange (action : StoreAction functions) :
    Option (StoredDispatch functions) → Option (StoredDispatch functions) → Prop
  | unchanged (dispatch : Option (StoredDispatch functions)) :
      DispatchChange action dispatch dispatch
  | prepared {next : StoredDispatch functions}
      (haction : ∃ command mutation_ids report,
        action=.prepareOrAdopt command next.value mutation_ids report)
      (hafter : next.value.state=.prepared ∧ next.revision=0) :
      DispatchChange action none (some next)
  | started {current next : StoredDispatch functions}
      (haction : ∃ mutation_ids report,
        action=.beginEnqueue current next.value mutation_ids report)
      (hsame : SameDispatch current.value.fields next.value.fields)
      (hbefore : current.value.state=.prepared ∧ current.revision=0)
      (hafter : next.value.state=.enqueueStarted ∧ next.revision=1) :
      DispatchChange action (some current) (some next)
  /-- The outcome of the attempt is recorded. -/
  | ended {current next : StoredDispatch functions}
      (haction : ∃ mutation_ids report,
        action=.compareAndSet current next.value mutation_ids report)
      (hsame : SameDispatch current.value.fields next.value.fields)
      (hbefore : current.value.state=.enqueueStarted ∧ current.revision=1)
      (hafter : next.value.state∈[.created,.duplicate,.ambiguous] ∧ next.revision=2) :
      DispatchChange action (some current) (some next)

section

variable {stores : Stores functions}

/-- Every step has one of the effects, and the dispatch of an identity changes with it. -/
theorem step_effect {action : StoreAction functions} :
    Effect target stores (step target stores action) ∧
      ∀ dispatch_id,DispatchChange action (dispatchAt stores dispatch_id)
        (dispatchAt (step target stores action) dispatch_id) := by
  have hsame : ∀ {next : Stores functions},next=stores → Effect target stores next ∧
      ∀ dispatch_id,DispatchChange action (dispatchAt stores dispatch_id)
        (dispatchAt next dispatch_id) := by
    rintro next rfl
    exact ⟨.unchanged rfl,fun _ => .unchanged _⟩
  have hmove : ∀ {next : Stores functions} {expected : StoredDispatch functions}
      {document : Document (PromotionDispatchRecordV2 functions)},
      Transition target expected document → updateDispatch expected document stores=.ok next →
      DispatchChange action (some expected) (some document.stored) →
      Effect target stores next ∧ ∀ dispatch_id,
        DispatchChange action (dispatchAt stores dispatch_id) (dispatchAt next dispatch_id) := by
    intro next expected document htransition hupdate hchange
    obtain ⟨hfound,hnext⟩ := updateDispatch_eq_ok hupdate
    refine ⟨.moved expected document htransition hfound hnext,?_⟩
    intro dispatch_id
    have hplace : document.stored.value.dispatch_id=expected.value.dispatch_id := by
      have hkept := htransition.same
      unfold SameDispatch at hkept
      rw [hkept]
    rw [hnext,dispatchAt_putDispatch,hplace]
    by_cases hid : dispatch_id=expected.value.dispatch_id
    · rw [if_pos hid,hid,hfound]
      exact hchange
    · rw [if_neg hid]
      exact .unchanged _
  cases action with
  | prepareOrAdopt command prepared mutation_ids report =>
    rcases prepareOrAdopt_fst with hnext | ⟨documents,hdocuments,hcreated⟩
    · exact hsame hnext
    · obtain ⟨hrequest,hidempotency,hdispatch,hnext⟩ := createDispatch_eq_ok hcreated
      have hof := preparedDispatchDocuments_eq_ok hdocuments
      have hvalue := hof.value
      rw [hvalue] at hrequest hidempotency hdispatch
      refine ⟨.prepared command prepared documents hof hrequest hidempotency hdispatch hnext,?_⟩
      intro dispatch_id
      have hstep : step target stores (.prepareOrAdopt command prepared mutation_ids report)=
          stores.putDispatchDocuments documents := hnext
      rw [hstep,dispatchAt_putDispatchDocuments,hvalue]
      by_cases hid : dispatch_id=prepared.dispatch_id
      · have hempty : dispatchAt stores prepared.dispatch_id=none := by
          unfold dispatchAt
          rw [hdispatch]
          rfl
        rw [if_pos hid,hid,hempty]
        refine .prepared ⟨command,mutation_ids,report,by rw [hvalue]⟩ ⟨?_,hof.revision⟩
        rw [hvalue]
        exact hof.state
      · rw [if_neg hid]
        exact .unchanged _
  | beginEnqueue expected replacement mutation_ids report =>
    rcases begin_fst with hnext | ⟨document,hprepared,hstarted,hupdate⟩
    · exact hsame hnext
    · obtain ⟨hvalue,htransition⟩ := preparedReplacement_eq_ok hprepared
      refine hmove htransition hupdate ?_
      rw [← hvalue] at hstarted
      rcases htransition.step with ⟨hbefore,hzero,-,hone⟩ | ⟨-,-,hended,-⟩
      · exact .started ⟨mutation_ids,report,by rw [hvalue]⟩ htransition.same ⟨hbefore,hzero⟩
          ⟨hstarted,hone⟩
      · exact absurd hended (started_not_ended hstarted)
  | compareAndSet expected replacement mutation_ids report =>
    rcases compareAndSetPromotionDispatchV2_fst with hnext | ⟨document,hprepared,hother,hupdate⟩
    · exact hsame hnext
    · obtain ⟨hvalue,htransition⟩ := preparedReplacement_eq_ok hprepared
      refine hmove htransition hupdate ?_
      rw [← hvalue] at hother
      rcases htransition.step with ⟨-,-,hstarted,-⟩ | ⟨hbefore,hone,hended,htwo⟩
      · exact absurd hstarted hother
      · exact .ended ⟨mutation_ids,report,by rw [hvalue]⟩ htransition.same ⟨hbefore,hone⟩
          ⟨hended,htwo⟩

theorem run_sound {actions : List (StoreAction functions)} (h : Sound target stores) :
    Sound target (run (step target) stores actions) := by
  induction actions generalizing stores with
  | nil => exact h
  | cons action actions ih => exact ih (sound_of_effect step_effect.1 h)

/-- A request or a key keeps its owner in every run. -/
theorem run_owner {actions : List (StoreAction functions)} {kind : PromotionDispatchIdentityKind}
    {value : Identifier} {identity : PromotionDispatchIdentityV2}
    (h : ownerOf stores kind value=some identity) :
    ownerOf (run (step target) stores actions) kind value=some identity := by
  induction actions generalizing stores with
  | nil => exact h
  | cons action actions ih => exact ih (owner_of_effect step_effect.1 h)

theorem DispatchChange.of_some {action : StoreAction functions} {current : StoredDispatch functions}
    {later : Option (StoredDispatch functions)} (h : DispatchChange action (some current) later) :
    ∃ dispatch,later=some dispatch ∧ SameDispatch current.value.fields dispatch.value.fields ∧
      current.revision ≤ dispatch.revision := by
  cases h with
  | unchanged => exact ⟨current,rfl,sameDispatch_refl,Nat.le_refl _⟩
  | @started _ next haction hsame hbefore hafter => exact ⟨next,rfl,hsame,by omega⟩
  | @ended _ next haction hsame hbefore hafter => exact ⟨next,rfl,hsame,by omega⟩

/-- A dispatch keeps its immutable fields in every run, and its revision never decreases. -/
theorem run_same {actions : List (StoreAction functions)} {dispatch_id : Identifier}
    {current : StoredDispatch functions} (h : dispatchAt stores dispatch_id=some current) :
    ∃ dispatch,dispatchAt (run (step target) stores actions) dispatch_id=some dispatch ∧
      SameDispatch current.value.fields dispatch.value.fields ∧
      current.revision ≤ dispatch.revision := by
  induction actions generalizing stores current with
  | nil => exact ⟨current,h,sameDispatch_refl,Nat.le_refl _⟩
  | cons action actions ih =>
    have hchange : DispatchChange action (dispatchAt stores dispatch_id)
        (dispatchAt (step target stores action) dispatch_id) := step_effect.2 dispatch_id
    rw [h] at hchange
    obtain ⟨middle,hmiddle,hsame,hrevision⟩ := hchange.of_some
    obtain ⟨dispatch,hdispatch,hlater,hrevisions⟩ := ih hmiddle
    exact ⟨dispatch,hdispatch,sameDispatch_trans hsame hlater,by omega⟩

/-- What the step that mints a permit has done. -/
structure Minted (target : TargetBinding) (stores : Stores functions)
    (action : StoreAction functions) (permit : PromotionEnqueuePermitV2)
    (current started : StoredDispatch functions) : Prop where
  /-- The step is a start of the dispatch whose commit was confirmed directly. -/
  start : ∃ mutation_ids report,action=.beginEnqueue current started.value mutation_ids report ∧
    report.commit=.confirmed
  before : dispatchAt stores permit.dispatch_id=some current ∧ current.value.state=.prepared ∧
    current.revision=0
  after : dispatchAt (step target stores action) permit.dispatch_id=some started ∧
    started.value.state=.enqueueStarted ∧ started.revision=1
  named : permit=⟨started.value.dispatch_id,1,started.value.task_name,started.value.task_sha256⟩

/-- A permit is minted only by a direct start of a prepared dispatch. -/
theorem minted_of_issued {action : StoreAction functions} {permit : PromotionEnqueuePermitV2}
    (h : issuedPermit target stores action=some permit) :
    ∃ current started,Minted target stores action permit current started := by
  cases action with
  | prepareOrAdopt command prepared mutation_ids report => cases h
  | compareAndSet expected replacement mutation_ids report => cases h
  | beginEnqueue expected replacement mutation_ids report =>
    unfold issuedPermit at h
    cases hstart : (beginPromotionEnqueueV2 target expected replacement mutation_ids report
        stores).2 with
    | error raised => simp only [hstart,reduceCtorEq] at h
    | ok start =>
      simp only [hstart,Option.some.injEq] at h
      obtain ⟨hcommit,document,hprepared,hstored,hupdate,hstarted,hpermit⟩ := begin_eq_ok hstart
      obtain ⟨hvalue,htransition⟩ := preparedReplacement_eq_ok hprepared
      obtain ⟨hfound,hnext⟩ := updateDispatch_eq_ok hupdate
      rw [permitFromDirectStoreStart,check_bind_eq_ok,require_eq_ok] at hpermit
      obtain ⟨⟨hrevision,-,-⟩,hmade⟩ := hpermit
      have hnamed : permit=⟨start.dispatch.value.dispatch_id,1,start.dispatch.value.task_name,
          start.dispatch.value.task_sha256⟩ := by
        rw [← h,← Except.ok.inj hmade,hrevision]
      have hplace : document.stored.value.dispatch_id=expected.value.dispatch_id := by
        have hkept := htransition.same
        unfold SameDispatch at hkept
        rw [hkept]
      have hid : permit.dispatch_id=expected.value.dispatch_id := by
        rw [hnamed,← hstored]
        exact hplace
      have hafter : dispatchAt (step target stores
          (.beginEnqueue expected replacement mutation_ids report)) expected.value.dispatch_id=
          some start.dispatch := by
        have hstep : step target stores (.beginEnqueue expected replacement mutation_ids report)=
            stores.putDispatch document := hnext
        rw [hstep,dispatchAt_putDispatch,hplace,if_pos rfl,hstored]
      refine ⟨expected,start.dispatch,⟨mutation_ids,report,?_,hcommit⟩,?_,?_,hnamed⟩
      · rw [← hstored,hvalue]
      · rw [hid]
        rcases htransition.step with ⟨hbefore,hzero,-⟩ | ⟨-,-,hended,-⟩
        · exact ⟨hfound,hbefore,hzero⟩
        · exact absurd hended (started_not_ended hstarted)
      · rw [hid]
        rw [hstored] at hstarted
        exact ⟨hafter,hstarted,hrevision⟩

theorem permit_once {earlier : List (StoreAction functions)} {action : StoreAction functions}
    {permit : PromotionEnqueuePermitV2}
    (h : issuedPermit target (after target earlier) action=some permit)
    {before : List (StoreAction functions)} {other : StoreAction functions}
    {later : List (StoreAction functions)} (hearlier : earlier=before++other::later)
    {minted : PromotionEnqueuePermitV2}
    (hminted : issuedPermit target (after target before) other=some minted) :
    minted.dispatch_id≠permit.dispatch_id := by
  intro hsame
  obtain ⟨_,started,hfirst⟩ := minted_of_issued hminted
  obtain ⟨current,_,hsecond⟩ := minted_of_issued h
  have hrun : after target earlier=
      run (step target) (step target (after target before) other) later := by
    rw [hearlier]
    exact run_append
  have hkept : ∃ dispatch,dispatchAt (run (step target)
        (step target (after target before) other) later) minted.dispatch_id=some dispatch ∧
      SameDispatch started.value.fields dispatch.value.fields ∧
      started.revision ≤ dispatch.revision := run_same hfirst.after.1
  obtain ⟨dispatch,hdispatch,-,hrevision⟩ := hkept
  have hone : started.revision=1 := hfirst.after.2.2
  have hzero : current.revision=0 := hsecond.before.2.2
  have hcurrent : dispatchAt (after target earlier) permit.dispatch_id=some current :=
    hsecond.before.1
  rw [hrun,← hsame,hdispatch] at hcurrent
  rw [Option.some.inj hcurrent] at hrevision
  omega

end

/-- The life of a promotion dispatch in every run: it is prepared once, started once and
ended once, and keeps all but its state, times and outcome; a permit is minted once, by the
start that was confirmed directly; and a request and a key have one dispatch for ever. -/
theorem promotion_dispatch_lifecycle (functions : PromotionFunctions) (target : TargetBinding)
    (actions : List (StoreAction functions)) :
    (∀ action dispatch_id,DispatchChange action (dispatchAt (after target actions) dispatch_id)
      (dispatchAt (after target (actions++[action])) dispatch_id)) ∧
    (∀ later dispatch_id current,dispatchAt (after target actions) dispatch_id=some current →
      ∃ dispatch,dispatchAt (after target (actions++later)) dispatch_id=some dispatch ∧
        SameDispatch current.value.fields dispatch.value.fields) ∧
    (∀ action permit,issuedPermit target (after target actions) action=some permit →
      (∃ current started,
        Minted target (after target actions) action permit current started) ∧
      ∀ before other later,actions=before++other::later → ∀ minted,
        issuedPermit target (after target before) other=some minted →
          minted.dispatch_id≠permit.dispatch_id) ∧
    (∀ later kind value identity,ownerOf (after target actions) kind value=some identity →
      ownerOf (after target (actions++later)) kind value=some identity) ∧
    (∀ dispatch_id dispatch,dispatchAt (after target actions) dispatch_id=some dispatch →
      dispatch.revision=expectedRevision dispatch.value.state ∧
      ∀ kind,ownerOf (after target actions) kind
          (promotionDispatchIdentityV2 dispatch.value.fields kind).identity_value=
        some (promotionDispatchIdentityV2 dispatch.value.fields kind)) ∧
    ∀ first second dispatch other,dispatchAt (after target actions) first=some dispatch →
      dispatchAt (after target actions) second=some other →
      dispatch.value.request_id=other.value.request_id ∨
        dispatch.value.idempotency_key=other.value.idempotency_key → first=second := by
  have hsound : Sound target (after target actions) := by
    refine run_sound ?_
    intro dispatch_id dispatch hdispatch
    cases hdispatch
  have howner : ∀ dispatch_id dispatch,dispatchAt (after target actions) dispatch_id=
      some dispatch → ∀ kind,ownerOf (after target actions) kind
        (promotionDispatchIdentityV2 dispatch.value.fields kind).identity_value=
      some (promotionDispatchIdentityV2 dispatch.value.fields kind) := by
    intro dispatch_id dispatch hdispatch kind
    obtain ⟨document,hdocument,hownership⟩ := (hsound dispatch_id dispatch hdispatch).owned kind
    unfold ownerOf
    rw [hdocument,Option.map_some,hownership.value]
  refine ⟨?_,?_,?_,?_,?_,?_⟩
  · intro action dispatch_id
    have hrun : after target (actions++[action])=step target (after target actions) action :=
      run_concat
    rw [hrun]
    exact step_effect.2 dispatch_id
  · intro later dispatch_id current hcurrent
    have hrun : after target (actions++later)=run (step target) (after target actions) later :=
      run_append
    rw [hrun]
    obtain ⟨dispatch,hdispatch,hsame,-⟩ := run_same hcurrent
    exact ⟨dispatch,hdispatch,hsame⟩
  · intro action permit hissued
    exact ⟨minted_of_issued hissued,fun before other later hearlier minted hminted =>
      permit_once hissued hearlier hminted⟩
  · intro later kind value identity hidentity
    have hrun : after target (actions++later)=run (step target) (after target actions) later :=
      run_append
    rw [hrun]
    exact run_owner hidentity
  · intro dispatch_id dispatch hdispatch
    exact ⟨(hsound dispatch_id dispatch hdispatch).revision,howner dispatch_id dispatch hdispatch⟩
  · intro first second dispatch other hfirst hsecond hshared
    have hfirstPlace := (hsound first dispatch hfirst).place
    have hsecondPlace := (hsound second other hsecond).place
    have hsame : ∀ kind,
        (promotionDispatchIdentityV2 dispatch.value.fields kind).identity_value=
          (promotionDispatchIdentityV2 other.value.fields kind).identity_value →
        first=second := by
      intro kind hvalue
      have hone := howner first dispatch hfirst kind
      have htwo := howner second other hsecond kind
      rw [hvalue,htwo] at hone
      have hid : other.value.dispatch_id=dispatch.value.dispatch_id :=
        congrArg PromotionDispatchIdentityV2.dispatch_id (Option.some.inj hone)
      rw [← hfirstPlace,← hsecondPlace,hid]
    rcases hshared with hrequest | hkey
    · exact hsame .request hrequest
    · exact hsame .idempotency hkey

end ControlGraph.PromotionDispatchLifecycle
