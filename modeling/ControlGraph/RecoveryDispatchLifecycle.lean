import ControlGraph.LabelledRuns
import ControlGraph.RecoveryDispatchStore

/-!
# The life of a stored recovery dispatch

Any number of coordinators prepare, start and end dispatches while abandonment
fences commit and other operations change the rest of the documents. Each
transaction is one atomic step, whatever the provider answers, and a commit that
lands behind its caller is the step at which it lands. A step leaves the dispatch
of an identity alone or moves it by one of four changes, and a permit is minted
only by the step that starts it. The facts about whole runs follow from these
changes.
-/

namespace ControlGraph.RecoveryDispatchLifecycle

open Checks ContractText LabelledRuns RecoveryContracts AbandonmentContracts AbandonmentFence
  AbandonmentStore RecoveryDispatchStore

open ReceiptContracts hiding ServiceClaimRecord

open ReceiptStore (StoreError Commit)

/-- An abandonment that commits its fence, with the receipts that it reads. -/
structure FenceAttempt (functions : HealthStoreFunctions) where
  /-- The view that the abandoner has read. -/
  expected : RecoveryAbandonmentState functions.toAbandonmentFunctions
  commit : RecoveryAbandonmentFenceCommitV1 functions.toAbandonmentFunctions
  receipts : Sha256Digest → Option (ReceiptStore.Document ExecutionReceipt)
  /-- What the provider does with the commit. -/
  report : Commit

/-- One atomic step on the stored documents. -/
inductive StoreAction (functions : HealthStoreFunctions)
  | createIntent (intent : RecoveryIntentV1 functions.recovery) (report : WriteReport functions)
  /-- A coordinator prepares a dispatch. -/
  | prepareOrAdopt (intent : StoredIntent functions)
      (prepared : RecoveryDispatchRecordV2 functions.recovery) (report : WriteReport functions)
  | beginEnqueue (expected : StoredDispatch functions)
      (replacement : RecoveryDispatchRecordV2 functions.recovery) (report : WriteReport functions)
  /-- A coordinator records the outcome of the attempt. -/
  | compareAndSet (expected : StoredDispatch functions)
      (replacement : RecoveryDispatchRecordV2 functions.recovery) (report : WriteReport functions)
  | fence (attempt : FenceAttempt functions)
  /-- Operations that write no dispatch and no identity of one. -/
  | others (records : Records functions.toAbandonmentFunctions)

variable {functions : HealthStoreFunctions} (target : TargetBinding)

def writeFenceDocuments (attempt : FenceAttempt functions) (stores : Stores functions) :
    Except StoreError (Stores functions) := do
  let dispatch ← requireSome attempt.expected.recovery_dispatch
    (.invalid (.valueError "recovery abandonment fence state is not pristine"))
  let _ ← (preparedDispatchDocument functions attempt.commit.replacement_dispatch
    (dispatch.revision+1)).mapError .invalid
  let records ← commitRecoveryAbandonmentFence target attempt.expected attempt.commit
    attempt.receipts stores.records
  return {stores with records := records}

/-- The documents after an attempt whose fence is committed. -/
def FenceAttempt.committed (attempt : FenceAttempt functions) (stores : Stores functions) :
    Option (Stores functions) :=
  match attempt.report with
  | .contention | .unconfirmed false => none
  | .confirmed | .unconfirmed true => (writeFenceDocuments target attempt stores).toOption

/-- Documents after one step. -/
def step (stores : Stores functions) : StoreAction functions → Stores functions
  | .createIntent intent report => (createOrAdoptRecoveryIntent target intent report stores).1
  | .prepareOrAdopt intent prepared report =>
    (prepareOrAdoptRecoveryDispatch target intent prepared report stores).1
  | .beginEnqueue expected replacement report =>
    (beginRecoveryEnqueue target expected replacement report stores).1
  | .compareAndSet expected replacement report =>
    (compareAndSetRecoveryDispatch target expected replacement report stores).1
  | .fence attempt => (attempt.committed target stores).getD stores
  | .others records =>
    {stores with records := {records with dispatches := stores.records.dispatches}}

/-- The permit that a step mints. -/
def issuedPermit (stores : Stores functions) (action : StoreAction functions) :
    Option RecoveryEnqueuePermit :=
  match action with
  | .beginEnqueue expected replacement report =>
    match (beginRecoveryEnqueue target expected replacement report stores).2 with
    | .ok start => some start.permit
    | .error _ => none
  | _ => none

/-- Documents without a dispatch. -/
def noDispatches (records : Records functions.toAbandonmentFunctions) : Stores functions :=
  ⟨{records with dispatches := fun _ => none},fun _ _ => none⟩

/-- Documents after some steps over any documents without a dispatch. -/
def after (records : Records functions.toAbandonmentFunctions)
    (actions : List (StoreAction functions)) : Stores functions :=
  run (step target) (noDispatches records) actions

/-- What a step does to the dispatch of one identity. -/
inductive DispatchChange (action : StoreAction functions) :
    Option (StoredDispatch functions) → Option (StoredDispatch functions) → Prop
  | unchanged (dispatch : Option (StoredDispatch functions)) :
      DispatchChange action dispatch dispatch
  | prepared {next : StoredDispatch functions}
      (haction : ∃ intent report,action=.prepareOrAdopt intent next.value report)
      (hstate : next.value.state=.prepared) (hrevision : next.revision=0) :
      DispatchChange action none (some next)
  | started {current next : StoredDispatch functions}
      (haction : ∃ report,action=.beginEnqueue current next.value report)
      (hsame : SameDispatch current.value.fields next.value.fields)
      (hbefore : current.value.state=.prepared ∧ current.revision=0)
      (hafter : next.value.state=.enqueueStarted ∧ next.revision=1) :
      DispatchChange action (some current) (some next)
  /-- The outcome of the attempt is recorded. -/
  | ended {current next : StoredDispatch functions}
      (haction : ∃ report,action=.compareAndSet current next.value report)
      (hsame : SameDispatch current.value.fields next.value.fields)
      (hbefore : current.value.state=.enqueueStarted ∧ current.revision=1)
      (hafter : next.value.state∈[.created,.duplicate,.ambiguous] ∧ next.revision=2) :
      DispatchChange action (some current) (some next)
  /-- A fence makes it ambiguous. -/
  | fenced {current next : StoredDispatch functions}
      (haction : ∃ attempt,action=.fence attempt ∧ attempt.commit.replacement_dispatch=next.value)
      (hsame : SameDispatch current.value.fields next.value.fields)
      (hbefore : (current.value.state=.prepared ∧ current.revision=0) ∨
        (current.value.state=.enqueueStarted ∧ current.revision=1) ∨
        (current.value.state∈[.created,.duplicate] ∧ current.revision=2))
      (hafter : next.value.state=.ambiguous ∧ next.revision=current.revision+1) :
      DispatchChange action (some current) (some next)

section

variable {target} {stores next : Stores functions}

/-- A claim of an intent leaves the dispatches and their identities alone. -/
theorem createIntent_dispatches {intent : RecoveryIntentV1 functions.recovery}
    {report : WriteReport functions} :
    (createOrAdoptRecoveryIntent target intent report stores).1.records.dispatches=
        stores.records.dispatches ∧
      (createOrAdoptRecoveryIntent target intent report stores).1.dispatch_identities=
        stores.dispatch_identities := by
  unfold createOrAdoptRecoveryIntent
  cases hprepared : preparedIntent target intent with
  | error raised => exact ⟨rfl,rfl⟩
  | ok document =>
    have hwrite : (runWrite (createIntent target document) report.commit stores).1=stores ∨
        createIntent target document stores=
          .ok (runWrite (createIntent target document) report.commit stores).1 := runWrite_fst
    rcases hwrite with hsame | hcreated
    · simp only [hsame,and_self]
    · rw [createIntent,bind_eq_ok] at hcreated
      obtain ⟨current,-,hcreated⟩ := hcreated
      cases current with
      | none =>
        have hafter : (runWrite (createIntent target document) report.commit stores).1=
            stores.putIntent document := (Except.ok.inj hcreated).symm
        simp only [hafter]
        exact ⟨rfl,rfl⟩
      | some found =>
        simp only at hcreated
        split at hcreated <;> cases hcreated

/-- A start that is written directly moves a prepared dispatch and mints its permit. -/
theorem begin_eq_ok {expected : StoredDispatch functions}
    {replacement : RecoveryDispatchRecordV2 functions.recovery} {report : WriteReport functions}
    {start : DirectRecoveryEnqueueStart functions}
    (h : (beginRecoveryEnqueue target expected replacement report stores).2=.ok start) :
    ∃ document,preparedTransition expected replacement true=.ok document ∧
      updateDispatch target expected document stores=
        .ok (beginRecoveryEnqueue target expected replacement report stores).1 ∧
      document.value.state=.enqueueStarted ∧
      permitFromDirectStoreStart document=.ok start.permit := by
  unfold beginRecoveryEnqueue at h ⊢
  by_cases hstarted : replacement.state=.enqueueStarted
  · rw [if_pos hstarted] at h ⊢
    simp only [bind_eq_ok] at h
    obtain ⟨⟨document,direct⟩,hwritten,hstart⟩ := h
    rw [directStart,check_bind_eq_ok,require_eq_ok,bind_eq_ok] at hstart
    obtain ⟨hdirect,permit,hpermit,hresult⟩ := hstart
    simp only at hdirect
    rw [hdirect] at hwritten
    obtain ⟨hprepared,hupdate⟩ := compareAndSet_direct hwritten
    refine ⟨document,hprepared,hupdate,?_,?_⟩
    · rw [(preparedTransition_eq_ok hprepared).1]
      exact hstarted
    · rw [← Except.ok.inj hresult]
      exact mapError_eq_ok.mp hpermit
  · rw [if_neg hstarted] at h
    cases h

/-- The documents that a start leaves. -/
theorem begin_fst {expected : StoredDispatch functions}
    {replacement : RecoveryDispatchRecordV2 functions.recovery} {report : WriteReport functions} :
    (beginRecoveryEnqueue target expected replacement report stores).1=stores ∨
      ∃ document,preparedTransition expected replacement true=.ok document ∧
        document.value.state=.enqueueStarted ∧
        updateDispatch target expected document stores=
          .ok (beginRecoveryEnqueue target expected replacement report stores).1 := by
  unfold beginRecoveryEnqueue
  by_cases hstarted : replacement.state=.enqueueStarted
  · rw [if_pos hstarted]
    have hwrite : (compareAndSet target expected replacement true report stores).1=stores ∨
      ∃ document,preparedTransition expected replacement true=.ok document ∧
        updateDispatch target expected document stores=
          .ok (compareAndSet target expected replacement true report stores).1 := compareAndSet_fst
    refine hwrite.imp id ?_
    rintro ⟨document,hprepared,hupdate⟩
    refine ⟨document,hprepared,?_,hupdate⟩
    rw [(preparedTransition_eq_ok hprepared).1]
    exact hstarted
  · rw [if_neg hstarted]
    exact .inl rfl

/-- The documents that the record of an outcome leaves. -/
theorem compareAndSetRecoveryDispatch_fst {expected : StoredDispatch functions}
    {replacement : RecoveryDispatchRecordV2 functions.recovery} {report : WriteReport functions} :
    (compareAndSetRecoveryDispatch target expected replacement report stores).1=stores ∨
      ∃ document,preparedTransition expected replacement false=.ok document ∧
        document.value.state≠.enqueueStarted ∧
        updateDispatch target expected document stores=
          .ok (compareAndSetRecoveryDispatch target expected replacement report stores).1 := by
  unfold compareAndSetRecoveryDispatch
  by_cases hstarted : replacement.state=.enqueueStarted
  · rw [if_pos hstarted]
    exact .inl rfl
  · rw [if_neg hstarted]
    have hwrite : (compareAndSet target expected replacement false report stores).1=stores ∨
      ∃ document,preparedTransition expected replacement false=.ok document ∧
        updateDispatch target expected document stores=
          .ok (compareAndSet target expected replacement false report stores).1 := compareAndSet_fst
    refine hwrite.imp id ?_
    rintro ⟨document,hprepared,hupdate⟩
    refine ⟨document,hprepared,?_,hupdate⟩
    rw [(preparedTransition_eq_ok hprepared).1]
    exact hstarted

/-- Everything that a committed fence has found and written of its dispatch. -/
structure DispatchFenced (attempt : FenceAttempt functions) (stores next : Stores functions)
    (current fenced : StoredDispatch functions) : Prop where
  found : stores.dispatch attempt.commit.replacement_dispatch.dispatch_id=some current
  /-- The dispatch could be abandoned. -/
  abandonable : dispatchStateIsAbandonable current=true
  value : fenced.value=attempt.commit.replacement_dispatch
  revision : fenced.revision=current.revision+1
  state : fenced.value.state=.ambiguous
  /-- The rest of the record is kept. -/
  same : SameDispatch current.value.fields fenced.value.fields
  /-- The document passes its check. -/
  valid : validateDispatchDocument functions fenced=.ok ()
  dispatches : next.records.dispatches=Function.update stores.records.dispatches
    attempt.commit.replacement_dispatch.dispatch_id (some fenced)
  identities : next.dispatch_identities=stores.dispatch_identities

theorem abandonable_of_view {expected : RecoveryAbandonmentState functions.toAbandonmentFunctions}
    {commit : RecoveryAbandonmentFenceCommitV1 functions.toAbandonmentFunctions}
    {view : AbandonmentView functions.toAbandonmentFunctions}
    (h : abandonmentView functions.toAbandonmentFunctions target expected commit=.ok view) :
    dispatchStateIsAbandonable view.dispatch=true := by
  obtain ⟨hview,-,-,-⟩ := abandonmentView_eq_ok h
  rw [abandonmentView,bind_eq_ok] at h
  obtain ⟨bundle,-,h⟩ := h
  rw [bind_eq_ok] at h
  obtain ⟨intent,-,h⟩ := h
  rw [bind_eq_ok] at h
  obtain ⟨dispatch,hdispatch,h⟩ := h
  rw [check_bind_eq_ok,require_eq_ok] at h
  obtain ⟨⟨-,habandonable,-⟩,-⟩ := h
  rw [requireSome_eq_ok,hview] at hdispatch
  rw [Option.some.inj hdispatch]
  exact habandonable

/-- Two stored records with one value and one revision are one. -/
theorem storedRecord_ext {Record : Type} {first second : StoredRecord Record}
    (hvalue : first.value=second.value) (hrevision : first.revision=second.revision) :
    first=second := by
  cases first
  cases second
  cases hvalue
  cases hrevision
  rfl

/-- A fence writes its dispatch over one that can be abandoned. -/
theorem writeFenceDocuments_eq_ok {attempt : FenceAttempt functions}
    (h : writeFenceDocuments target attempt stores=.ok next) :
    ∃ current fenced,DispatchFenced attempt stores next current fenced := by
  rw [writeFenceDocuments,bind_eq_ok] at h
  obtain ⟨dispatch,hdispatch,h⟩ := h
  rw [bind_eq_ok] at h
  obtain ⟨document,hdocument,h⟩ := h
  rw [bind_eq_ok] at h
  obtain ⟨records,hcommit,h⟩ := h
  obtain ⟨view,hfence⟩ := commitRecoveryAbandonmentFence_eq_ok hcommit
  obtain ⟨hview,habandoned,-⟩ := validateRecoveryAbandonmentFenceCommit_eq_ok hfence.accepted
  obtain ⟨hexpected,-,-,-⟩ := abandonmentView_eq_ok hview
  rw [requireSome_eq_ok,hexpected] at hdispatch
  obtain rfl := Option.some.inj hdispatch
  obtain ⟨hvalue,hrevision,hvalid⟩ :=
    preparedDispatchDocument_eq_ok (mapError_eq_ok.mp hdocument)
  obtain ⟨replacements,hreplacements,hwritten⟩ := hfence.written
  rw [prepareReplacements,bind_eq_ok] at hreplacements
  obtain ⟨claim,-,hreplacements⟩ := hreplacements
  rw [bind_eq_ok] at hreplacements
  obtain ⟨authority,-,hreplacements⟩ := hreplacements
  rw [bind_eq_ok] at hreplacements
  obtain ⟨stored,hstored,hreplacements⟩ := hreplacements
  rw [bind_eq_ok] at hreplacements
  obtain ⟨head,-,hreplacements⟩ := hreplacements
  have hmade := StoredRecord.make_eq_ok hstored
  have hdocument_eq : replacements.dispatch=document := by
    rw [← Except.ok.inj hreplacements]
    exact storedRecord_ext (hmade.1.trans hvalue.symm) (hmade.2.trans hrevision.symm)
  refine ⟨view.dispatch,document,{
    found := hfence.found.dispatch
    abandonable := abandonable_of_view hview
    value := hvalue
    revision := hrevision
    state := by rw [hvalue]; exact habandoned.state
    same := ?_
    valid := hvalid
    dispatches := ?_
    identities := by rw [← Except.ok.inj h]}⟩
  · have himmutable := habandoned.immutable
    unfold SameDispatch
    rw [hvalue,himmutable]
  · rw [← Except.ok.inj h,hwritten,← hdocument_eq]
    rfl

/-- An attempt whose fence is committed has written the documents of the fence. -/
theorem committed_eq_some {attempt : FenceAttempt functions}
    (h : attempt.committed target stores=some next) :
    writeFenceDocuments target attempt stores=.ok next := by
  have hwritten : (writeFenceDocuments target attempt stores).toOption=some next := by
    unfold FenceAttempt.committed at h
    cases hreport : attempt.report with
    | confirmed => simpa only [hreport] using h
    | contention => simp only [hreport,reduceCtorEq] at h
    | unconfirmed applied =>
      cases applied with
      | false => simp only [hreport,reduceCtorEq] at h
      | true => simpa only [hreport] using h
  cases hresult : writeFenceDocuments target attempt stores with
  | error raised => rw [hresult] at hwritten; cases hwritten
  | ok written =>
    rw [hresult] at hwritten
    exact congrArg Except.ok (Option.some.inj hwritten)

/-- What one action does to the dispatches and their identities. -/
inductive Effect (target : TargetBinding) (stores : Stores functions)
    (action : StoreAction functions) (next : Stores functions) : Prop
  | unchanged (hdispatches : next.records.dispatches=stores.records.dispatches)
      (hidentities : next.dispatch_identities=stores.dispatch_identities)
  /-- A preparation creates the documents of a dispatch where there were none. -/
  | prepared (intent : StoredIntent functions) (documents : DispatchDocuments functions)
      (haction : ∃ report,action=.prepareOrAdopt intent documents.dispatch.value report)
      (hdocuments : preparedDispatchDocuments intent documents.dispatch.value=.ok documents)
      (hrequest : stores.dispatch_identities .request documents.dispatch.value.request_id=none)
      (hidempotency : stores.dispatch_identities .idempotency
        documents.dispatch.value.idempotency_key=none)
      (hdispatch : stores.dispatch documents.dispatch.value.dispatch_id=none)
      (hnext : next=stores.putDispatchDocuments documents)
  | moved (expected document : StoredDispatch functions)
      (haction : (∃ report,action=.beginEnqueue expected document.value report ∧
          document.value.state=.enqueueStarted) ∨
        ∃ report,action=.compareAndSet expected document.value report ∧
          document.value.state≠.enqueueStarted)
      (htransition : Transition expected document)
      (hfound : stores.dispatch document.value.dispatch_id=some expected)
      (hnext : next=stores.putDispatch document)
  | fenced (attempt : FenceAttempt functions) (current fenced : StoredDispatch functions)
      (haction : action=.fence attempt)
      (hfenced : DispatchFenced attempt stores next current fenced)

/-- Documents that are left alone. -/
theorem effect_of_same {action : StoreAction functions} (h : next=stores) :
    Effect target stores action next :=
  .unchanged (by rw [h]) (by rw [h])

theorem step_effect {action : StoreAction functions} :
    Effect target stores action (step target stores action) := by
  cases action with
  | createIntent intent report =>
    exact .unchanged createIntent_dispatches.1 createIntent_dispatches.2
  | prepareOrAdopt intent prepared report =>
    rcases prepareOrAdopt_fst with hsame | ⟨documents,hdocuments,hcreated⟩
    · exact effect_of_same hsame
    · obtain ⟨hrequest,hidempotency,hdispatch,hnext⟩ := createDispatch_eq_ok hcreated
      obtain ⟨-,hvalue,-,-⟩ := preparedDispatchDocuments_eq_ok hdocuments
      refine .prepared intent documents ⟨report,by rw [hvalue]⟩ ?_ hrequest hidempotency hdispatch
        hnext
      rw [hvalue]
      exact hdocuments
  | beginEnqueue expected replacement report =>
    rcases begin_fst with hsame | ⟨document,hprepared,hstarted,hupdate⟩
    · exact effect_of_same hsame
    · obtain ⟨hfound,hnext⟩ := updateDispatch_eq_ok hupdate
      obtain ⟨hvalue,htransition⟩ := preparedTransition_eq_ok hprepared
      exact .moved expected document (.inl ⟨report,by rw [hvalue],hstarted⟩) htransition hfound
        hnext
  | compareAndSet expected replacement report =>
    rcases compareAndSetRecoveryDispatch_fst with hsame | ⟨document,hprepared,hother,hupdate⟩
    · exact effect_of_same hsame
    · obtain ⟨hfound,hnext⟩ := updateDispatch_eq_ok hupdate
      obtain ⟨hvalue,htransition⟩ := preparedTransition_eq_ok hprepared
      exact .moved expected document (.inr ⟨report,by rw [hvalue],hother⟩) htransition hfound
        hnext
  | fence attempt =>
    have hstep : step target stores (.fence attempt)=(attempt.committed target stores).getD stores :=
      rfl
    cases hcommitted : attempt.committed target stores with
    | none => exact effect_of_same (by rw [hstep,hcommitted]; rfl)
    | some written =>
      obtain ⟨current,fenced,hfenced⟩ := writeFenceDocuments_eq_ok (committed_eq_some hcommitted)
      rw [hstep,hcommitted]
      exact .fenced attempt current fenced rfl hfenced
  | others records => exact .unchanged rfl rfl

theorem dispatch_putDispatch {document : StoredDispatch functions} {dispatch_id : Identifier} :
    (stores.putDispatch document).dispatch dispatch_id=
      if dispatch_id=document.value.dispatch_id then some document
      else stores.dispatch dispatch_id :=
  Function.update_apply _ _ _ _

theorem dispatch_putDispatchDocuments {documents : DispatchDocuments functions}
    {dispatch_id : Identifier} : (stores.putDispatchDocuments documents).dispatch dispatch_id=
      if dispatch_id=documents.dispatch.value.dispatch_id then some documents.dispatch
      else stores.dispatch dispatch_id :=
  Function.update_apply _ _ _ _

theorem DispatchFenced.dispatch {attempt : FenceAttempt functions}
    {current fenced : StoredDispatch functions} {dispatch_id : Identifier}
    (h : DispatchFenced attempt stores next current fenced) : next.dispatch dispatch_id=
      if dispatch_id=attempt.commit.replacement_dispatch.dispatch_id then some fenced
      else stores.dispatch dispatch_id := by
  unfold Stores.dispatch
  rw [h.dispatches]
  exact Function.update_apply _ _ _ _

/-- A dispatch that can be abandoned is in one of these states. -/
theorem abandonable_states {current : StoredDispatch functions}
    (h : dispatchStateIsAbandonable current=true) :
    (current.value.state=.prepared ∧ current.revision=0) ∨
      (current.value.state=.enqueueStarted ∧ current.revision=1) ∨
      (current.value.state∈[.created,.duplicate] ∧ current.revision=2) := by
  unfold dispatchStateIsAbandonable at h
  cases hstate : current.value.state with
  | prepared => exact .inl ⟨rfl,by simpa only [hstate,decide_eq_true_eq] using h⟩
  | enqueueStarted => exact .inr (.inl ⟨rfl,by simpa only [hstate,decide_eq_true_eq] using h⟩)
  | created =>
    exact .inr (.inr ⟨List.mem_cons_self,by simpa only [hstate,decide_eq_true_eq] using h⟩)
  | duplicate =>
    exact .inr (.inr ⟨List.mem_cons_of_mem _ List.mem_cons_self,
      by simpa only [hstate,decide_eq_true_eq] using h⟩)
  | ambiguous => simp only [hstate,Bool.false_eq_true] at h

/-- The state after the start of an attempt is none of its outcomes. -/
theorem started_not_ended {state : RecoveryDispatchState} (h : state=.enqueueStarted) :
    state∉[RecoveryDispatchState.created,.duplicate,.ambiguous] := by
  rw [h]
  decide

/-- A step changes the dispatch of an identity only by one of the four moves. -/
theorem step_change {action : StoreAction functions} {dispatch_id : Identifier} :
    DispatchChange action (stores.dispatch dispatch_id)
      ((step target stores action).dispatch dispatch_id) := by
  have heffect : Effect target stores action (step target stores action) := step_effect
  generalize step target stores action=next at heffect
  cases heffect with
  | unchanged hdispatches hidentities =>
    have hsame : next.dispatch dispatch_id=stores.dispatch dispatch_id := by
      unfold Stores.dispatch
      rw [hdispatches]
    rw [hsame]
    exact .unchanged _
  | prepared intent documents haction hdocuments hrequest hidempotency hdispatch hnext =>
    rw [hnext,dispatch_putDispatchDocuments]
    by_cases hid : dispatch_id=documents.dispatch.value.dispatch_id
    · obtain ⟨report,haction⟩ := haction
      obtain ⟨hstate,-,hrevision,-⟩ := preparedDispatchDocuments_eq_ok hdocuments
      rw [if_pos hid,hid,hdispatch]
      exact .prepared ⟨intent,report,haction⟩ hstate hrevision
    · rw [if_neg hid]
      exact .unchanged _
  | moved expected document haction htransition hfound hnext =>
    rw [hnext,dispatch_putDispatch]
    by_cases hid : dispatch_id=document.value.dispatch_id
    · rw [if_pos hid,hid,hfound]
      rcases haction with ⟨report,haction,hstarted⟩ | ⟨report,haction,hother⟩
      · rcases htransition.step with ⟨hbefore,hzero,-,hone,-⟩ | ⟨-,-,hended,-⟩
        · exact .started ⟨report,haction⟩ htransition.same ⟨hbefore,hzero⟩ ⟨hstarted,hone⟩
        · exact absurd hended (started_not_ended hstarted)
      · rcases htransition.step with ⟨-,-,hstarted,-⟩ | ⟨hbefore,hone,hended,htwo⟩
        · exact absurd hstarted hother
        · exact .ended ⟨report,haction⟩ htransition.same ⟨hbefore,hone⟩ ⟨hended,htwo⟩
    · rw [if_neg hid]
      exact .unchanged _
  | fenced attempt current fenced haction hfenced =>
    rw [hfenced.dispatch]
    by_cases hid : dispatch_id=attempt.commit.replacement_dispatch.dispatch_id
    · rw [if_pos hid,hid,hfenced.found]
      exact .fenced ⟨attempt,haction,hfenced.value.symm⟩ hfenced.same
        (abandonable_states hfenced.abandonable) ⟨hfenced.state,hfenced.revision⟩
    · rw [if_neg hid]
      exact .unchanged _

/-- What the next dispatch of an identity is when there is one already. -/
theorem DispatchChange.of_some {action : StoreAction functions} {current : StoredDispatch functions}
    {later : Option (StoredDispatch functions)} (h : DispatchChange action (some current) later) :
    ∃ dispatch,later=some dispatch ∧ SameDispatch current.value.fields dispatch.value.fields ∧
      (current.value.state≠.prepared → dispatch.value.state≠.prepared) ∧
      (current.value.state=.ambiguous → dispatch=current) := by
  cases h with
  | unchanged => exact ⟨current,rfl,.refl,id,fun _ => rfl⟩
  | @started _ next haction hsame hbefore hafter =>
    refine ⟨next,rfl,hsame,?_,?_⟩
    · intro hother
      exact absurd hbefore.1 hother
    · intro hambiguous
      rw [hambiguous] at hbefore
      exact absurd hbefore.1 (by decide)
  | @ended _ next haction hsame hbefore hafter =>
    refine ⟨next,rfl,hsame,?_,?_⟩
    · intro _ hprepared
      rw [hprepared] at hafter
      exact absurd hafter.1 (by decide)
    · intro hambiguous
      rw [hambiguous] at hbefore
      exact absurd hbefore.1 (by decide)
  | @fenced _ next haction hsame hbefore hafter =>
    refine ⟨next,rfl,hsame,?_,?_⟩
    · intro _ hprepared
      rw [hprepared] at hafter
      exact absurd hafter.1 (by decide)
    · intro hambiguous
      rw [hambiguous] at hbefore
      rcases hbefore with ⟨hstate,-⟩ | ⟨hstate,-⟩ | ⟨hstate,-⟩
      · exact absurd hstate (by decide)
      · exact absurd hstate (by decide)
      · exact absurd hstate (by decide)

/-- A dispatch that is stored keeps its identities and its task in every later state. -/
theorem run_same {actions : List (StoreAction functions)} {dispatch_id : Identifier}
    {current : StoredDispatch functions} (h : stores.dispatch dispatch_id=some current) :
    ∃ dispatch,(run (step target) stores actions).dispatch dispatch_id=some dispatch ∧
      SameDispatch current.value.fields dispatch.value.fields := by
  induction actions generalizing stores current with
  | nil => exact ⟨current,h,.refl⟩
  | cons action actions ih =>
    have hchange : DispatchChange action (stores.dispatch dispatch_id)
        ((step target stores action).dispatch dispatch_id) := step_change
    rw [h] at hchange
    obtain ⟨middle,hmiddle,hsame,-,-⟩ := hchange.of_some
    obtain ⟨dispatch,hdispatch,hlater⟩ := ih hmiddle
    exact ⟨dispatch,hdispatch,hsame.trans hlater⟩

theorem run_ambiguous {actions : List (StoreAction functions)} {dispatch_id : Identifier}
    {current : StoredDispatch functions} (h : stores.dispatch dispatch_id=some current)
    (hambiguous : current.value.state=.ambiguous) :
    (run (step target) stores actions).dispatch dispatch_id=some current := by
  induction actions generalizing stores with
  | nil => exact h
  | cons action actions ih =>
    have hchange : DispatchChange action (stores.dispatch dispatch_id)
        ((step target stores action).dispatch dispatch_id) := step_change
    rw [h] at hchange
    obtain ⟨middle,hmiddle,-,-,hkept⟩ := hchange.of_some
    rw [hkept hambiguous] at hmiddle
    exact ih hmiddle

/-- The dispatch of an identity is there and is not a prepared one. -/
def Begun (stores : Stores functions) (dispatch_id : Identifier) : Prop :=
  ∃ dispatch,stores.dispatch dispatch_id=some dispatch ∧ dispatch.value.state≠.prepared

/-- A dispatch that is no longer prepared is never prepared again. -/
theorem run_begun {actions : List (StoreAction functions)} {dispatch_id : Identifier}
    (h : Begun stores dispatch_id) : Begun (run (step target) stores actions) dispatch_id := by
  induction actions generalizing stores with
  | nil => exact h
  | cons action actions ih =>
    obtain ⟨current,hcurrent,hother⟩ := h
    have hchange : DispatchChange action (stores.dispatch dispatch_id)
        ((step target stores action).dispatch dispatch_id) := step_change
    rw [hcurrent] at hchange
    obtain ⟨dispatch,hdispatch,-,hkept,-⟩ := hchange.of_some
    exact ih ⟨dispatch,hdispatch,hkept hother⟩

/-- What the step that mints a permit has done. -/
structure Minted (target : TargetBinding) (stores : Stores functions)
    (action : StoreAction functions) (permit : RecoveryEnqueuePermit)
    (current started : StoredDispatch functions) : Prop where
  start : ∃ report,action=.beginEnqueue current started.value report
  before : stores.dispatch permit.dispatch_id=some current ∧ current.value.state=.prepared ∧
    current.revision=0
  after : (step target stores action).dispatch permit.dispatch_id=some started ∧
    started.value.state=.enqueueStarted ∧ started.revision=1
  named : permit=⟨started.value.dispatch_id,1,started.value.task_name,started.value.task_sha256⟩

/-- A permit is minted only by the step that starts its dispatch. -/
theorem minted_of_issued {action : StoreAction functions} {permit : RecoveryEnqueuePermit}
    (h : issuedPermit target stores action=some permit) :
    ∃ current started,Minted target stores action permit current started := by
  unfold issuedPermit at h
  cases action with
  | beginEnqueue expected replacement report =>
    cases hstart : (beginRecoveryEnqueue target expected replacement report stores).2 with
    | error raised => simp only [hstart,reduceCtorEq] at h
    | ok start =>
      simp only [hstart] at h
      obtain ⟨document,hprepared,hupdate,hstarted,hpermit⟩ := begin_eq_ok hstart
      obtain ⟨hvalue,htransition⟩ := preparedTransition_eq_ok hprepared
      obtain ⟨hfound,hnext⟩ := updateDispatch_eq_ok hupdate
      rw [permitFromDirectStoreStart,check_bind_eq_ok,require_eq_ok] at hpermit
      obtain ⟨⟨hrevision,-,-⟩,hpermit⟩ := hpermit
      have hminted : permit=⟨document.value.dispatch_id,1,document.value.task_name,
          document.value.task_sha256⟩ := by
        rw [← Option.some.inj h,← Except.ok.inj hpermit,hrevision]
      have hplace : permit.dispatch_id=document.value.dispatch_id := by rw [hminted]
      rcases htransition.step with ⟨hbefore,hzero,-,-,-⟩ | ⟨-,-,hended,-⟩
      · refine ⟨expected,document,⟨⟨report,by rw [hvalue]⟩,⟨?_,hbefore,hzero⟩,
          ⟨?_,hstarted,hrevision⟩,hminted⟩⟩
        · rw [hplace]
          exact hfound
        · have hstep : step target stores (.beginEnqueue expected replacement report)=
              stores.putDispatch document := hnext
          rw [hstep,dispatch_putDispatch,if_pos hplace]
      · exact absurd hended (started_not_ended hstarted)
  | createIntent intent report => cases h
  | prepareOrAdopt intent prepared report => cases h
  | compareAndSet expected replacement report => cases h
  | fence attempt => cases h
  | others records => cases h

/-- No permit is minted for a dispatch that is no longer prepared. -/
theorem not_issued_of_begun {action : StoreAction functions} {permit : RecoveryEnqueuePermit}
    (hbegun : Begun stores permit.dispatch_id) :
    issuedPermit target stores action≠some permit := by
  intro hissued
  obtain ⟨current,started,hminted⟩ := minted_of_issued hissued
  obtain ⟨dispatch,hdispatch,hother⟩ := hbegun
  rw [hminted.before.1] at hdispatch
  rw [← Option.some.inj hdispatch] at hother
  exact hother hminted.before.2.1

/-- The step that mints a permit leaves its dispatch started. -/
theorem begun_of_issued {action : StoreAction functions} {permit : RecoveryEnqueuePermit}
    (h : issuedPermit target stores action=some permit) :
    Begun (step target stores action) permit.dispatch_id := by
  obtain ⟨current,started,hminted⟩ := minted_of_issued h
  refine ⟨started,hminted.after.1,?_⟩
  rw [hminted.after.2.1]
  decide

theorem ambiguous_of_committed {attempt : FenceAttempt functions}
    (h : attempt.committed target stores=some next) : ∃ fenced,
      (step target stores (.fence attempt)).dispatch
        attempt.commit.replacement_dispatch.dispatch_id=some fenced ∧
      fenced.value.state=.ambiguous := by
  obtain ⟨current,fenced,hfenced⟩ := writeFenceDocuments_eq_ok (committed_eq_some h)
  have hstep : step target stores (.fence attempt)=next := by
    rw [step,h]
    rfl
  refine ⟨fenced,?_,hfenced.state⟩
  rw [hstep,hfenced.dispatch,if_pos rfl]

/-- Every stored dispatch is at its place and owns its request and its key. -/
def Owned (stores : Stores functions) : Prop :=
  ∀ dispatch_id dispatch,stores.dispatch dispatch_id=some dispatch →
    dispatch.value.dispatch_id=dispatch_id ∧
    (∃ request,stores.dispatch_identities .request dispatch.value.request_id=some request ∧
      request.value.dispatch_id=dispatch_id) ∧
    ∃ idempotency,stores.dispatch_identities .idempotency dispatch.value.idempotency_key=
      some idempotency ∧ idempotency.value.dispatch_id=dispatch_id

/-- Ownership is kept by a record that only moves the dispatch of one identity. -/
theorem owned_move {place : Identifier} {current later : StoredDispatch functions}
    (hfound : stores.dispatch place=some current)
    (hsame : SameDispatch current.value.fields later.value.fields)
    (hdispatch : ∀ dispatch_id,next.dispatch dispatch_id=
      if dispatch_id=place then some later else stores.dispatch dispatch_id)
    (hidentities : next.dispatch_identities=stores.dispatch_identities) (h : Owned stores) :
    Owned next := by
  intro dispatch_id dispatch hstored
  rw [hdispatch] at hstored
  rw [hidentities]
  by_cases hplace : dispatch_id=place
  · rw [if_pos hplace] at hstored
    rw [← Option.some.inj hstored,hplace]
    obtain ⟨hid,hrequest,hkey,-⟩ := hsame.identities
    rw [hid,hrequest,hkey]
    exact h place current hfound
  · rw [if_neg hplace] at hstored
    exact h dispatch_id dispatch hstored

/-- An identity that is owned is kept by a creation. -/
theorem identities_putDispatchDocuments {documents : DispatchDocuments functions}
    {kind : RecoveryDispatchIdentityKind} {value : Identifier}
    {found : StoredRecord RecoveryDispatchIdentityV2}
    (hrequest : stores.dispatch_identities .request documents.dispatch.value.request_id=none)
    (hidempotency : stores.dispatch_identities .idempotency
      documents.dispatch.value.idempotency_key=none)
    (h : stores.dispatch_identities kind value=some found) :
    (stores.putDispatchDocuments documents).dispatch_identities kind value=some found := by
  have hfirst : ¬(kind=.request ∧ value=documents.dispatch.value.request_id) := by
    rintro ⟨rfl,rfl⟩
    rw [hrequest] at h
    cases h
  have hsecond : ¬(kind=.idempotency ∧ value=documents.dispatch.value.idempotency_key) := by
    rintro ⟨rfl,rfl⟩
    rw [hidempotency] at h
    cases h
  unfold Stores.putDispatchDocuments
  simp only [if_neg hfirst,if_neg hsecond,h]

theorem owned_step {action : StoreAction functions} (h : Owned stores) :
    Owned (step target stores action) := by
  have heffect : Effect target stores action (step target stores action) := step_effect
  generalize step target stores action=next at heffect
  cases heffect with
  | unchanged hdispatches hidentities =>
    intro dispatch_id dispatch hstored
    unfold Stores.dispatch at hstored
    rw [hdispatches] at hstored
    rw [hidentities]
    exact h dispatch_id dispatch hstored
  | prepared intent documents haction hdocuments hrequest hidempotency hdispatch hnext =>
    obtain ⟨-,-,-,-,hfirst,hsecond⟩ := preparedDispatchDocuments_eq_ok hdocuments
    rw [hnext]
    intro dispatch_id dispatch hstored
    rw [dispatch_putDispatchDocuments] at hstored
    by_cases hid : dispatch_id=documents.dispatch.value.dispatch_id
    · rw [if_pos hid] at hstored
      rw [← Option.some.inj hstored,hid]
      refine ⟨rfl,⟨documents.request,?_,hfirst⟩,documents.idempotency,?_,hsecond⟩
      · exact if_pos ⟨rfl,rfl⟩
      · unfold Stores.putDispatchDocuments
        simp only [reduceCtorEq,false_and,if_false,and_self,if_true]
    · rw [if_neg hid] at hstored
      obtain ⟨hplace,⟨request,hstoredRequest,hownRequest⟩,idempotency,hstoredKey,hownKey⟩ :=
        h dispatch_id dispatch hstored
      exact ⟨hplace,
        ⟨request,identities_putDispatchDocuments hrequest hidempotency hstoredRequest,hownRequest⟩,
        idempotency,identities_putDispatchDocuments hrequest hidempotency hstoredKey,hownKey⟩
  | moved expected document haction htransition hfound hnext =>
    rw [hnext]
    exact owned_move hfound htransition.same (fun _ => dispatch_putDispatch) rfl h
  | fenced attempt current fenced haction hfenced =>
    exact owned_move hfenced.found hfenced.same (fun _ => hfenced.dispatch) hfenced.identities h

/-- Every stored dispatch passes the checks of its document. -/
def Decodable (stores : Stores functions) : Prop :=
  ∀ dispatch_id dispatch,stores.dispatch dispatch_id=some dispatch →
    validateDispatchDocument functions dispatch=.ok ()

theorem decodable_step {action : StoreAction functions} (h : Decodable stores) :
    Decodable (step target stores action) := by
  have hput : ∀ {place : Identifier} {document : StoredDispatch functions} {next : Stores functions},
      validateDispatchDocument functions document=.ok () →
      (∀ dispatch_id,next.dispatch dispatch_id=
        if dispatch_id=place then some document else stores.dispatch dispatch_id) →
      Decodable next := by
    intro place document next hvalid hdispatch dispatch_id dispatch hstored
    rw [hdispatch] at hstored
    by_cases hplace : dispatch_id=place
    · rw [if_pos hplace] at hstored
      rw [← Option.some.inj hstored]
      exact hvalid
    · rw [if_neg hplace] at hstored
      exact h dispatch_id dispatch hstored
  have heffect : Effect target stores action (step target stores action) := step_effect
  generalize step target stores action=next at heffect
  cases heffect with
  | unchanged hdispatches hidentities =>
    intro dispatch_id dispatch hstored
    unfold Stores.dispatch at hstored
    rw [hdispatches] at hstored
    exact h dispatch_id dispatch hstored
  | prepared intent documents haction hdocuments hrequest hidempotency hdispatch hnext =>
    obtain ⟨-,-,-,hvalid,-,-⟩ := preparedDispatchDocuments_eq_ok hdocuments
    rw [hnext]
    exact hput hvalid (fun _ => dispatch_putDispatchDocuments)
  | moved expected document haction htransition hfound hnext =>
    rw [hnext]
    exact hput htransition.valid (fun _ => dispatch_putDispatch)
  | fenced attempt current fenced haction hfenced =>
    exact hput hfenced.valid (fun _ => hfenced.dispatch)

theorem run_owned_decodable {actions : List (StoreAction functions)}
    (h : Owned stores ∧ Decodable stores) : Owned (run (step target) stores actions) ∧
      Decodable (run (step target) stores actions) := by
  induction actions generalizing stores with
  | nil => exact h
  | cons action actions ih => exact ih ⟨owned_step h.1,decodable_step h.2⟩

/-- Documents without a dispatch own and decode nothing. -/
theorem owned_decodable_noDispatches {records : Records functions.toAbandonmentFunctions} :
    Owned (noDispatches records : Stores functions) ∧
      Decodable (noDispatches records : Stores functions) := by
  refine ⟨?_,?_⟩
  · intro dispatch_id dispatch hstored
    cases hstored
  · intro dispatch_id dispatch hstored
    cases hstored

/-- A permit is minted once, by a start that no fence of its dispatch precedes. -/
theorem permit_once {records : Records functions.toAbandonmentFunctions}
    {earlier : List (StoreAction functions)} {action : StoreAction functions}
    {permit : RecoveryEnqueuePermit}
    (h : issuedPermit target (after target records earlier) action=some permit) :
    (∀ before other later,earlier=before++other::later → ∀ minted,
      issuedPermit target (after target records before) other=some minted →
        minted.dispatch_id≠permit.dispatch_id) ∧
    ∀ before attempt later,earlier=before++StoreAction.fence attempt::later →
      (attempt.committed target (after target records before)).isSome=true →
        attempt.commit.replacement_dispatch.dispatch_id≠permit.dispatch_id := by
  have hlater : ∀ before other later,earlier=before++other::later →
      ¬Begun (step target (after target records before) other) permit.dispatch_id := by
    intro before other later hearlier hbegun
    have hrun : after target records earlier=
        run (step target) (step target (after target records before) other) later := by
      rw [hearlier]
      exact run_append
    have hthen : Begun (after target records earlier) permit.dispatch_id := by
      rw [hrun]
      exact run_begun hbegun
    exact not_issued_of_begun hthen h
  refine ⟨?_,?_⟩
  · intro before other later hearlier minted hminted hsame
    have hbegun := begun_of_issued hminted
    rw [hsame] at hbegun
    exact hlater before other later hearlier hbegun
  · intro before attempt later hearlier hcommitted hsame
    obtain ⟨written,hwritten⟩ := Option.isSome_iff_exists.mp hcommitted
    obtain ⟨fenced,hfenced,hambiguous⟩ := ambiguous_of_committed hwritten
    rw [hsame] at hfenced
    refine hlater before (.fence attempt) later hearlier ⟨fenced,hfenced,?_⟩
    rw [hambiguous]
    decide

end

/-- The life of a recovery dispatch in every run: it moves only by the four changes and
keeps all but its state, times and outcome; a permit is minted once, by the direct start of
a prepared dispatch that no fence precedes; a fenced dispatch is final; a request and a key
have one dispatch; and every stored record passes its checks. -/
theorem recovery_dispatch_lifecycle (functions : HealthStoreFunctions) (target : TargetBinding)
    (records : Records functions.toAbandonmentFunctions) (actions : List (StoreAction functions)) :
    (∀ action dispatch_id,DispatchChange action
      ((after target records actions).dispatch dispatch_id)
      ((after target records (actions++[action])).dispatch dispatch_id)) ∧
    (∀ later dispatch_id current,(after target records actions).dispatch dispatch_id=
      some current → ∃ dispatch,
        (after target records (actions++later)).dispatch dispatch_id=some dispatch ∧
        SameDispatch current.value.fields dispatch.value.fields) ∧
    (∀ action permit,issuedPermit target (after target records actions) action=some permit →
      (∃ current started,
        Minted target (after target records actions) action permit current started) ∧
      (∀ before other later,actions=before++other::later → ∀ minted,
        issuedPermit target (after target records before) other=some minted →
          minted.dispatch_id≠permit.dispatch_id) ∧
      ∀ before attempt later,actions=before++StoreAction.fence attempt::later →
        (attempt.committed target (after target records before)).isSome=true →
          attempt.commit.replacement_dispatch.dispatch_id≠permit.dispatch_id) ∧
    (∀ attempt later,(attempt.committed target (after target records actions)).isSome=true →
      (after target records (actions++StoreAction.fence attempt::later)).dispatch
          attempt.commit.replacement_dispatch.dispatch_id=
        (after target records (actions++[StoreAction.fence attempt])).dispatch
          attempt.commit.replacement_dispatch.dispatch_id) ∧
    (∀ first second dispatch other,(after target records actions).dispatch first=some dispatch →
      (after target records actions).dispatch second=some other →
      dispatch.value.request_id=other.value.request_id ∨
        dispatch.value.idempotency_key=other.value.idempotency_key → first=second) ∧
    ∀ dispatch_id dispatch,(after target records actions).dispatch dispatch_id=some dispatch →
      validateDispatchDocument functions dispatch=.ok () ∧
        validateRecord functions.recovery dispatch.value.fields=.ok () := by
  have hkept : Owned (after target records actions) ∧ Decodable (after target records actions) :=
    run_owned_decodable owned_decodable_noDispatches
  obtain ⟨howned,hdecodable⟩ := hkept
  refine ⟨?_,?_,?_,?_,?_,?_⟩
  · intro action dispatch_id
    have hrun : after target records (actions++[action])=
        step target (after target records actions) action := run_concat
    rw [hrun]
    exact step_change
  · intro later dispatch_id current hcurrent
    have hrun : after target records (actions++later)=
        run (step target) (after target records actions) later := run_append
    rw [hrun]
    exact run_same hcurrent
  · intro action permit hissued
    exact ⟨minted_of_issued hissued,permit_once hissued⟩
  · intro attempt later hcommitted
    obtain ⟨written,hwritten⟩ := Option.isSome_iff_exists.mp hcommitted
    obtain ⟨fenced,hfenced,hambiguous⟩ := ambiguous_of_committed hwritten
    have hone : after target records (actions++[StoreAction.fence attempt])=
        step target (after target records actions) (.fence attempt) := run_concat
    have hmany : after target records (actions++StoreAction.fence attempt::later)=
        run (step target) (step target (after target records actions) (.fence attempt)) later :=
      run_append
    rw [hone,hmany,hfenced]
    exact run_ambiguous hfenced hambiguous
  · intro first second dispatch other hfirst hsecond hshared
    obtain ⟨-,⟨request,hrequest,hfirstRequest⟩,idempotency,hkey,hfirstKey⟩ :=
      howned first dispatch hfirst
    obtain ⟨-,⟨otherRequest,hotherRequest,hsecondRequest⟩,otherKey,hother,hsecondKey⟩ :=
      howned second other hsecond
    rcases hshared with hsame | hsame
    · rw [hsame,hotherRequest] at hrequest
      rw [← hfirstRequest,← hsecondRequest,Option.some.inj hrequest]
    · rw [hsame,hother] at hkey
      rw [← hfirstKey,← hsecondKey,Option.some.inj hkey]
  · intro dispatch_id dispatch hdispatch
    exact ⟨hdecodable dispatch_id dispatch hdispatch,dispatch.value.accepted⟩

end ControlGraph.RecoveryDispatchLifecycle
