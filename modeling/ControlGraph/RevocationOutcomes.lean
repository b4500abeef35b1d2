import ControlGraph.RevocationAttempts

/-!
# Outcomes of revocation attempts

In a run whose steps are permitted every attempt keeps the audit that was recorded
first, every returned result is the one of the only commit that has landed, and a
call that starts once its audit is recorded ends with the answer of that audit. The
last theorem is about a run with a step that is not permitted: a call adopts a
result that was committed after the call had started, and the next call of the
attempt refuses the audit of that adoption.
-/

namespace ControlGraph.RevocationOutcomes

open Checks ContractText RootContracts RevocationContracts AuthorityDatabase EvidenceChain RootCreation
  RevocationCommits AuthorityRuns TrustedRoots RevocationReading RevocationBuilding RevocationCalls
  RevocationViews RevocationAttempts LabelledRuns Utf8Text

open EvidenceIntegrity (sampleTarget sampleRoot sampleRoot_identity sampleCommit sampleOperator
  sampleSubject)

open StorageIdentity (zeroSha256 firestoreDocumentIdDomain)

open ReceiptContracts hiding ServiceClaimRecord

open ReceiptStore (StoreError)

open ExecutionRequests (AuthenticationContext RouteAuthenticationPolicy CallerRole)

/-- Whether the store serves a call in a step. -/
def Serves (index : Nat) : Action → Prop
  | .read other served => other=index → served=true
  | .record other served => other=index → served=true
  | _ => True

section

variable {functions : AuthorityFunctions} {configured_target : TargetBinding}

/-- Where a call may be that started once its audit was recorded. -/
def Answering (system : System functions configured_target) (record : EpochRevocationAuditV1) :
    Stage → Prop
  | .reading _ => True
  | .recording audit outcome => audit=record ∧ Records system record outcome
  | .finished outcome => Records system record outcome
  | _ => False

/-- An attempt whose audit is recorded, with a call that starts later. -/
structure Later (request : RevocationRequest) (index : Nat) (attempt_id : Identifier)
    (record : StoredRecord EpochRevocationAuditV1) (system : System functions configured_target) :
    Prop where
  audit : readAttemptAudit system.database attempt_id=.ok (some record)
  call : ∀ call,system.calls index=some call → call.invocation=request.attempt attempt_id →
    Answering system record.value call.stage

variable {request : RevocationRequest} {presented : Identifier → Prop} {strict : Prop}
  {view : RevocationView} {system next : System functions configured_target}
  {attempt_id : Identifier} {record : StoredRecord EpochRevocationAuditV1}
  {policy : RouteAuthenticationPolicy} {index : Nat}

theorem Answering.mono {stage : Stage} (h : Answering system record.value stage)
    (hlanded : ∀ result,Committed system result → Committed next result) :
    Answering next record.value stage := by
  cases stage with
  | reading commits => trivial
  | building commits state => cases h
  | committing commits expected commit => cases h
  | resolving => cases h
  | recording audit outcome => exact ⟨h.1,h.2.mono hlanded⟩
  | finished outcome => exact Records.mono h hlanded

/-- Attempts of one request differ in their identities. -/
theorem attempt_injective {first second : Identifier}
    (h : request.attempt first=request.attempt second) : first=second :=
  congrArg EpochRevocationInvocationV1.attempt_id h

theorem denied_of_recorded {now : UtcSecond}
    (hattempt : AuditOfAttempt record.value (request.attempt attempt_id)
      (requestSha256 functions request))
    (houtcome : record.value.outcome=.denied)
    (hcode : record.value.failure_code=some .callerDenied) (htime : record.value.recorded_at=now) :
    deniedAudit (request.attempt attempt_id) (requestSha256 functions request) .callerDenied now=
      record.value := by
  have hempty := record.value.accepted
  rw [validateAuditOutcome,if_pos houtcome,require_eq_ok] at hempty
  obtain ⟨-,hresult,hevidence,hepoch⟩ := hempty
  obtain ⟨haudit,hown,hdigest,hroot_id,hroot_sha256,hexpected,hrequest,hkey,hoperator,hsubject⟩ :=
    hattempt
  cases record with
  | mk audit revision bound =>
    cases audit with
    | mk fields accepted =>
      cases fields
      cases houtcome
      cases hcode
      cases htime
      cases hresult
      cases hevidence
      cases hepoch
      cases haudit
      cases hown
      cases hdigest
      cases hroot_id
      cases hroot_sha256
      cases hexpected
      cases hrequest
      cases hkey
      cases hoperator
      cases hsubject
      rfl

/-- A call that starts once its audit is recorded reads it, or records its refusal again. -/
theorem startStage_answering (h : Holds request presented strict view system)
    (hpresented : presented attempt_id)
    (haudit : readAttemptAudit system.database attempt_id=.ok (some record))
    {token : OperatorToken} {principal : Option AuthenticationContext} {now : UtcSecond}
    (hpermitted : Permitted policy request system (.start index attempt_id token principal now)) :
    Answering system record.value
      (startStage functions policy (request.attempt attempt_id) token principal now) := by
  unfold startStage
  split
  · trivial
  · rename_i hrefused
    rcases hpermitted with hexact | hsame
    · exact absurd hexact hrefused
    · obtain ⟨houtcome,hcode,htime⟩ := hsame record haudit
      obtain ⟨found,hfound,hsound⟩ := h.audits attempt_id hpresented
      rw [haudit] at hfound
      cases hfound
      obtain ⟨-,hown,hrecord⟩ := hsound record rfl
      have hattempt := hrecord.attempt
      rw [hown] at hattempt
      exact ⟨denied_of_recorded hattempt houtcome hcode htime,houtcome,hcode⟩

/-- A served read of a stored audit ends a call with its answer. -/
theorem readStep_answering (index : Nat) (h : Holds request presented strict view system)
    (hpresented : presented attempt_id)
    (haudit : readAttemptAudit system.database attempt_id=.ok (some record)) {call : Call}
    (hinvocation : call.invocation=request.attempt attempt_id)
    (hstage : Answering system record.value call.stage) :
    readStep system index call true=system ∧ (∀ commits,call.stage≠.reading commits) ∨
      ∃ outcome,Records system record.value outcome ∧
        readStep system index call true=system.moved index call (.finished outcome) := by
  unfold readStep
  split
  · obtain ⟨found,audit,existing,hreads⟩ := h.reads hpresented
    have hsame := hreads.audit_read
    rw [haudit] at hsame
    cases hsame
    refine .inr ⟨_,hreads.answered,?_⟩
    rw [if_pos rfl,hinvocation,hreads.served]
    simp only [hreads.afterRead_answered hinvocation]
  · rename_i hresolving
    rw [hresolving] at hstage
    cases hstage
  · rename_i hother _
    exact .inl ⟨rfl,hother⟩

/-- A served record of a stored audit ends a call with its answer. -/
theorem recordStep_answering (index : Nat) (h : Holds request presented strict view system)
    (hpresented : presented attempt_id)
    (haudit : readAttemptAudit system.database attempt_id=.ok (some record)) {call : Call}
    (hstage : Answering system record.value call.stage) :
    recordStep system index call true=system ∧
        (∀ audit outcome,call.stage≠.recording audit outcome) ∨
      ∃ outcome,Records system record.value outcome ∧
        recordStep system index call true=system.moved index call (.finished outcome) := by
  unfold recordStep
  split
  · rename_i audit outcome hrecording
    rw [hrecording] at hstage
    obtain ⟨rfl,hanswer⟩ := hstage
    obtain ⟨found,hfound,hsound⟩ := h.audits attempt_id hpresented
    rw [haudit] at hfound
    cases hfound
    obtain ⟨hzero,hown,hrecord⟩ := hsound record rfl
    have hrecorded := record_of_read haudit hzero (hrecord.attempt.audit_id.trans hown)
    refine .inr ⟨outcome,hanswer,?_⟩
    rw [if_pos rfl,hrecorded]
  · rename_i hother
    exact .inl ⟨rfl,hother⟩

/-- A call moves to a place on its way to the recorded answer. -/
theorem Later.moved (h : Later request index attempt_id record system) {other : Nat} {call : Call}
    {stage : Stage}
    (hstage : other=index → call.invocation=request.attempt attempt_id →
      Answering system record.value stage) :
    Later request index attempt_id record (system.moved other call stage) := by
  refine ⟨h.audit,?_⟩
  intro found hfound hinvocation
  have hsame : ∀ result,Committed system result → Committed (system.moved other call stage) result :=
    fun _ hresult => hresult
  by_cases hindex : index=other
  · have hcall : (system.moved other call stage).calls index=some {call with stage := stage} := by
      rw [hindex]
      exact Function.update_self ..
    rw [hcall] at hfound
    cases hfound
    exact (hstage hindex.symm hinvocation).mono hsame
  · have hcall : (system.moved other call stage).calls index=system.calls index :=
      Function.update_of_ne hindex ..
    rw [hcall] at hfound
    exact (h.call found hfound hinvocation).mono hsame

/-- A step that only moves a call keeps every call on its way, if it keeps that one. -/
theorem Later.ofMoves (h : Later request index attempt_id record system) {other : Nat} {call : Call}
    (hmoves : Moves system next other call)
    (hown : other=index → call.invocation=request.attempt attempt_id →
      next=system ∨ ∃ stage,Answering system record.value stage ∧
        next=system.moved other call stage) : Later request index attempt_id record next := by
  by_cases hcall : other=index ∧ call.invocation=request.attempt attempt_id
  · rcases hown hcall.1 hcall.2 with rfl | ⟨stage,hstage,rfl⟩
    · exact h
    · exact h.moved (fun _ _ => hstage)
  · rcases hmoves with rfl | ⟨stage,rfl⟩
    · exact h
    · exact h.moved (fun hindex hinvocation => absurd ⟨hindex,hinvocation⟩ hcall)

/-- A call that reads stays on its way. -/
theorem Later.readStep (h : Later request index attempt_id record system)
    (hholds : Holds request presented strict view system) (hpresented : presented attempt_id)
    {other : Nat} {call : Call} {served : Bool} (hcall : system.calls other=some call)
    (hserved : Serves index (.read other served)) :
    Later request index attempt_id record (readStep system other call served) := by
  apply h.ofMoves readStep_moves
  intro hindex hinvocation
  have hstage := h.call call (hindex ▸ hcall) hinvocation
  rw [hserved hindex]
  rcases readStep_answering other hholds hpresented h.audit hinvocation hstage with
    ⟨hsame,-⟩ | ⟨outcome,hanswer,hmoved⟩
  · exact .inl hsame
  · exact .inr ⟨.finished outcome,hanswer,hmoved⟩

/-- A call that is not building a commit stays on its way. -/
theorem Later.buildStep (h : Later request index attempt_id record system) {other : Nat}
    {call : Call} {answer : Option SignedEvidenceEventV1} (hcall : system.calls other=some call) :
    Later request index attempt_id record (buildStep system other call answer) := by
  apply h.ofMoves buildStep_moves
  intro hindex hinvocation
  have hstage := h.call call (hindex ▸ hcall) hinvocation
  unfold RevocationCalls.buildStep
  split
  · rename_i commits state hbuilding
    rw [hbuilding] at hstage
    cases hstage
  · exact .inl rfl

/-- A call that has sent no commit stays on its way. -/
theorem Later.reportStep (h : Later request index attempt_id record system) {other : Nat}
    {call : Call} {report : CommitReport} (hcall : system.calls other=some call) :
    Later request index attempt_id record (reportStep system other call report) := by
  apply h.ofMoves reportStep_moves
  intro hindex hinvocation
  have hstage := h.call call (hindex ▸ hcall) hinvocation
  unfold RevocationCalls.reportStep
  split
  · rename_i hcommitting
    rw [hcommitting] at hstage
    cases hstage
  · exact .inl rfl

/-- Every call stays on its way when the stores change and keep the audit. -/
theorem Later.ofStores (h : Later request index attempt_id record system)
    (haudit : readAttemptAudit next.database attempt_id=.ok (some record))
    (hcalls : next.calls=system.calls)
    (hlanded : ∀ result,Committed system result → Committed next result) :
    Later request index attempt_id record next := by
  refine ⟨haudit,?_⟩
  intro call hcall hinvocation
  rw [hcalls] at hcall
  exact (h.call call hcall hinvocation).mono hlanded

/-- Every call stays on its way when a write lands. -/
theorem Later.landStep
    (hdistinct : ∀ first second,presented first → presented second →
      epochRevocationAuditDocumentId functions first=
        epochRevocationAuditDocumentId functions second → first=second)
    (h : Later request index attempt_id record system)
    (hholds : Holds request presented strict view system) (hpresented : presented attempt_id)
    {write : Write} (hwrite : SoundWrite request presented strict view system write) :
    Later request index attempt_id record (landStep system write) := by
  obtain ⟨hkept,-⟩ := hholds.landStep hdistinct hwrite
  apply h.ofStores (hkept attempt_id hpresented record h.audit)
  · unfold RevocationCalls.landStep
    split
    · split
      · rfl
      · rfl
    · split
      · rfl
      · rfl
  · rintro result ⟨landing,hlanding,hresult⟩
    exact ⟨landing,landStep_landed hlanding,hresult⟩

/-- A call that records its audit only moves, besides the audit. -/
theorem recordStep_moves (system : System functions configured_target) (other : Nat) (call : Call)
    (served : Bool) : ∃ database,Moves {system with database := database}
      (RevocationCalls.recordStep system other call served) other call := by
  unfold RevocationCalls.recordStep
  split
  · split
    · split
      · rename_i database _
        exact ⟨database,.inr ⟨_,rfl⟩⟩
      · exact ⟨system.database,.inr ⟨_,rfl⟩⟩
    · exact ⟨system.database,.inr ⟨_,rfl⟩⟩
  · exact ⟨system.database,.inl rfl⟩

/-- A call that records its audit stays on its way. -/
theorem Later.recordStep
    (hdistinct : ∀ first second,presented first → presented second →
      epochRevocationAuditDocumentId functions first=
        epochRevocationAuditDocumentId functions second → first=second)
    (h : Later request index attempt_id record system)
    (hholds : Holds request presented strict view system) (hpresented : presented attempt_id)
    {other : Nat} {call : Call} {served : Bool} (hcall : system.calls other=some call)
    (hserved : Serves index (.record other served)) :
    Later request index attempt_id record (recordStep system other call served) := by
  have hkept : AuditsKept presented system.database
      (RevocationCalls.recordStep system other call served).database :=
    (hholds.recordStep hdistinct hcall).1
  by_cases hown : other=index ∧ call.invocation=request.attempt attempt_id
  · obtain ⟨rfl,hinvocation⟩ := hown
    have hstage := h.call call hcall hinvocation
    rw [hserved rfl]
    rcases recordStep_answering other hholds hpresented h.audit hstage with
      ⟨hsame,-⟩ | ⟨outcome,hanswer,hmoved⟩
    · rw [hsame]
      exact h
    · rw [hmoved]
      exact h.moved (fun _ _ => hanswer)
  · obtain ⟨database,hmoves⟩ := recordStep_moves system other call served
    have haudit := hkept attempt_id hpresented record h.audit
    rw [hmoves.database] at haudit
    have hstores : Later request index attempt_id record {system with database := database} :=
      h.ofStores haudit rfl (fun _ hresult => hresult)
    exact hstores.ofMoves hmoves (fun hindex hinvocation => absurd ⟨hindex,hinvocation⟩ hown)

/-- A call that is on its way to the recorded answer stays on it in every permitted step in which
the store serves it. -/
theorem Later.step
    (hdistinct : ∀ first second,presented first → presented second →
      epochRevocationAuditDocumentId functions first=
        epochRevocationAuditDocumentId functions second → first=second)
    (hholds : Holds request presented strict view system) (hpresented : presented attempt_id)
    (h : Later request index attempt_id record system) {action : Action}
    (hpermitted : Permitted policy request system action) (hserved : Serves index action) :
    Later request index attempt_id record (step policy request system action) := by
  cases action with
  | start other attempt token principal now =>
    simp only [RevocationCalls.step]
    split
    · exact h
    · apply h.moved
      intro _ hinvocation
      cases attempt_injective hinvocation
      exact startStage_answering hholds hpresented h.audit hpermitted
  | read other served =>
    simp only [RevocationCalls.step,System.ofCall]
    cases hcall : system.calls other with
    | none => exact h
    | some call => exact h.readStep hholds hpresented hcall hserved
  | build other answer =>
    simp only [RevocationCalls.step,System.ofCall]
    cases hcall : system.calls other with
    | none => exact h
    | some call => exact h.buildStep hcall
  | land position =>
    simp only [RevocationCalls.step]
    cases hwrite : system.sent[position]? with
    | none => exact h
    | some write =>
      exact h.landStep hdistinct hholds hpresented (hholds.sent write (List.mem_of_getElem? hwrite))
  | report other report =>
    simp only [RevocationCalls.step,System.ofCall]
    cases hcall : system.calls other with
    | none => exact h
    | some call => exact h.reportStep hcall
  | record other served =>
    simp only [RevocationCalls.step,System.ofCall]
    cases hcall : system.calls other with
    | none => exact h
    | some call => exact h.recordStep hdistinct hholds hpresented hcall hserved

/-- A run whose steps are all permitted where they are taken. -/
def PermittedRun (policy : RouteAuthenticationPolicy) (request : RevocationRequest)
    (system : System functions configured_target) (actions : List Action) : Prop :=
  ∀ earlier action later,actions=earlier++action::later →
    Permitted policy request (run (step policy request) system earlier) action

/-- A run whose commits are all built on time. -/
def OnTimeRun (policy : RouteAuthenticationPolicy) (request : RevocationRequest)
    (view : RevocationView) (system : System functions configured_target) (actions : List Action) :
    Prop :=
  ∀ earlier action later,actions=earlier++action::later →
    OnTime view (run (step policy request) system earlier) action

/-- A step that keeps the store sound. -/
structure Allowed (policy : RouteAuthenticationPolicy) (request : RevocationRequest)
    (presented : Identifier → Prop) (strict : Prop) (view : RevocationView)
    (system : System functions configured_target) (action : Action) : Prop where
  presents : ∀ attempt_id,Presented [action] attempt_id → presented attempt_id
  permitted : Permitted policy request system action
  on_time : strict → OnTime view system action

/-- Every step of a permitted run of presented attempts keeps the store sound. -/
theorem allowed_of_run {actions : List Action}
    (hpermitted : PermittedRun policy request system actions)
    (hon_time : strict → OnTimeRun policy request view system actions) :
    ∀ earlier action later,actions=earlier++action::later →
      Allowed policy request (Presented actions) strict view
        (run (step policy request) system earlier) action := by
  intro earlier action later hsplit
  refine ⟨?_,hpermitted earlier action later hsplit,
    fun hstrict => hon_time hstrict earlier action later hsplit⟩
  rintro attempt_id ⟨index,token,principal,now,hstart⟩
  rw [List.mem_singleton] at hstart
  refine ⟨index,token,principal,now,?_⟩
  rw [hsplit,hstart]
  exact List.mem_append_right _ List.mem_cons_self

/-- A permitted run keeps the store sound, and every audit. -/
theorem holds_run
    (hdistinct : ∀ first second,presented first → presented second →
      epochRevocationAuditDocumentId functions first=
        epochRevocationAuditDocumentId functions second → first=second)
    (hread : ∃ database : Database functions,∀ attempt_id,readRevocationView configured_target
      database (request.attempt attempt_id)=.ok view)
    (htrusted : strict → TrustedView functions configured_target view) {actions : List Action}
    (hallowed : ∀ earlier action later,actions=earlier++action::later →
      Allowed policy request presented strict view (run (step policy request) system earlier) action)
    (h : Holds request presented strict view system) :
    AuditsKept presented system.database (run (step policy request) system actions).database ∧
      Holds request presented strict view (run (step policy request) system actions) := by
  refine run_invariant_along (fun state => AuditsKept presented system.database state.database ∧
    Holds request presented strict view state) (Allowed policy request presented strict view) ?_
    hallowed ⟨fun _ _ _ hfound => hfound,h⟩
  rintro state action hstep ⟨hkept,hholds⟩
  obtain ⟨hlater,hnext⟩ := hholds.step hdistinct hstep.presents hstep.permitted
    (fun hstrict => ⟨htrusted hstrict,hstep.on_time hstrict⟩) hread
  refine ⟨?_,hnext⟩
  intro attempt_id hattempt stored hstored
  exact hlater attempt_id hattempt stored (hkept attempt_id hattempt stored hstored)

/-- A call stays on its way to the recorded answer in a permitted run that serves it. -/
theorem later_run
    (hdistinct : ∀ first second,presented first → presented second →
      epochRevocationAuditDocumentId functions first=
        epochRevocationAuditDocumentId functions second → first=second)
    (hread : ∃ database : Database functions,∀ attempt_id,readRevocationView configured_target
      database (request.attempt attempt_id)=.ok view)
    (htrusted : strict → TrustedView functions configured_target view) {actions : List Action}
    (hallowed : ∀ earlier action later,actions=earlier++action::later →
      Allowed policy request presented strict view (run (step policy request) system earlier) action)
    (hserved : ∀ action∈actions,Serves index action)
    (hholds : Holds request presented strict view system) (hattempt : presented attempt_id)
    (h : Later request index attempt_id record system) :
    Later request index attempt_id record (run (step policy request) system actions) := by
  have hrun : Holds request presented strict view (run (step policy request) system actions) ∧
      Later request index attempt_id record (run (step policy request) system actions) := by
    refine run_invariant_along (fun state => Holds request presented strict view state ∧
      Later request index attempt_id record state)
      (fun state action => Allowed policy request presented strict view state action ∧
        Serves index action) ?_ ?_ ⟨hholds,h⟩
    · rintro state action ⟨hstep,hserves⟩ ⟨hstate,hlater⟩
      obtain ⟨-,hnext⟩ := hstate.step hdistinct hstep.presents hstep.permitted
        (fun hstrict => ⟨htrusted hstrict,hstep.on_time hstrict⟩) hread
      exact ⟨hnext,hlater.step hdistinct hstate hattempt hstep.permitted hserves⟩
    · intro earlier action later hsplit
      refine ⟨hallowed earlier action later hsplit,hserved action ?_⟩
      rw [hsplit]
      exact List.mem_append_right _ List.mem_cons_self
  exact hrun.2

/-- The one stored result of a request, from the commit that ended the expected epoch of its
root. -/
structure OneResult (request : RevocationRequest) (system : System functions configured_target)
    (result : EpochRevocationResultV1) : Prop where
  landing : ∃ landing,system.landed=[landing] ∧ landing.commit.result=result ∧
    (∃ stored,readAuthority landing.before request.command.root_id=.ok (some stored) ∧
      stored.value.current_epoch=request.command.expected_epoch) ∧
    ∃ stored,readAuthority landing.next request.command.root_id=.ok (some stored) ∧
      stored.value.current_epoch=result.new_epoch ∧
      result.new_epoch.1=request.command.expected_epoch.1+1
  stored : ∃ stored : StoredRecord EpochRevocationResultV1,system.database.revocation_results.read
    (epochRevocationResultDocumentId functions result.result_id) result.result_id.1=
      .ok (some stored) ∧ stored.value=result

theorem oneResult_of_committed (h : Holds request presented strict view system)
    {result : EpochRevocationResultV1} (hcommitted : Committed system result) :
    OneResult request system result := by
  cases h.phase with
  | uncommitted hempty hreads hlanded =>
    obtain ⟨landing,hlanding,-⟩ := hcommitted
    rw [hlanded] at hlanding
    cases hlanding
  | committed landing later bundle decided hreads hlanded hinvocation hrevoked hsubject hholds =>
    have hresult := committed_eq hlanded hcommitted
    have haccepted := hrevoked.accepted
    have hroot : landing.commit.result.root_id=request.command.root_id := by
      have hactive := haccepted.active.root_id
      rw [hinvocation] at hactive
      exact haccepted.result.root_id.trans hactive
    have hepoch : bundle.authority.value.current_epoch=request.command.expected_epoch := by
      have hactive := haccepted.active.epoch
      rw [hinvocation] at hactive
      exact hactive
    rw [hresult]
    constructor
    · obtain ⟨authority,hfound,hvalue,-⟩ := hrevoked.authorities.found
      have hbefore := hrevoked.view.authority
      rw [hroot] at hfound hbefore
      have hnext := haccepted.result.new_epoch
      refine ⟨landing,hlanded,rfl,⟨_,Table.read_of_find hbefore,hepoch⟩,authority,
        Table.read_of_find hfound,?_,?_⟩
      · rw [hvalue,hnext]
      · rw [hnext,haccepted.advance.current_epoch,hepoch]
    · obtain ⟨stored,hstored,hvalue,-⟩ := hholds.result
      have hread := result_of_view (hreads decided)
      have hid := haccepted.result.result_id
      rw [hinvocation] at hid
      have hsame : revocationResultId (epochRevocationRequestSha256 functions.sha256
          (request.attempt decided))=landing.commit.result.result_id := Subtype.ext hid.symm
      rw [hsame,hstored] at hread
      exact ⟨stored,hread,hvalue⟩

/-- A call that the store serves ends with the recorded answer. -/
theorem ends_of_answering (h : Holds request presented strict view system)
    (hpresented : presented attempt_id)
    (haudit : readAttemptAudit system.database attempt_id=.ok (some record)) {call : Call}
    (hcall : system.calls index=some call) (hinvocation : call.invocation=request.attempt attempt_id)
    (hstage : Answering system record.value call.stage) :
    ∃ outcome,Records system record.value outcome ∧
      (run (step policy request) system [.read index true,.record index true]).calls index=
        some {call with stage := .finished outcome} ∧
      ∀ other,call.stage=.finished other → other=outcome := by
  have hread : ∀ {state : System functions configured_target} {found : Call},
      state.calls index=some found → RevocationCalls.step policy request state (.read index true)=
        readStep state index found true := by
    intro state found hfound
    simp only [RevocationCalls.step,System.ofCall,hfound]
  have hrecord : ∀ {state : System functions configured_target} {found : Call},
      state.calls index=some found → RevocationCalls.step policy request state (.record index true)=
        recordStep state index found true := by
    intro state found hfound
    simp only [RevocationCalls.step,System.ofCall,hfound]
  have hmoved_call : ∀ outcome,(system.moved index call (.finished outcome)).calls index=
      some {call with stage := .finished outcome} := fun _ => Function.update_self ..
  rw [run_cons,run_cons,run_nil,hread hcall]
  cases hplace : call.stage with
  | reading commits =>
    rcases readStep_answering index h hpresented haudit hinvocation hstage with
      ⟨-,hother⟩ | ⟨outcome,hanswer,hmoved⟩
    · exact absurd hplace (hother commits)
    · refine ⟨outcome,hanswer,?_,fun other hother => by cases hother⟩
      rw [hmoved,hrecord (hmoved_call outcome)]
      exact hmoved_call outcome
  | recording audit outcome =>
    have hkept : readStep system index call true=system := by
      simp only [readStep,hplace]
    rw [hkept,hrecord hcall]
    rcases recordStep_answering index h hpresented haudit hstage with
      ⟨-,hother⟩ | ⟨outcome,hanswer,hmoved⟩
    · exact absurd hplace (hother audit outcome)
    · refine ⟨outcome,hanswer,?_,fun other hother => by cases hother⟩
      rw [hmoved]
      exact hmoved_call outcome
  | finished outcome =>
    have hkept : readStep system index call true=system := by
      simp only [readStep,hplace]
    have hended : recordStep system index call true=system := by
      simp only [recordStep,hplace]
    rw [hplace] at hstage
    rw [hkept,hrecord hcall,hended]
    refine ⟨outcome,hstage,?_,?_⟩
    · rw [hcall,← hplace]
    · intro other hother
      cases hother
      rfl
  | building commits state =>
    rw [hplace] at hstage
    cases hstage
  | committing commits expected commit =>
    rw [hplace] at hstage
    cases hstage
  | resolving =>
    rw [hplace] at hstage
    cases hstage

/-- The stores before the first call are sound. -/
theorem holds_initial {database : Database functions}
    (hread : readRevocationView configured_target database
      (request.attempt request.command.request_id)=.ok view) (hempty : view.result=none)
    (hfresh : ∀ attempt_id,presented attempt_id → readAttemptAudit database attempt_id=.ok none) :
    Holds request presented strict view (initial configured_target database) := by
  refine ⟨.uncommitted hempty (fun _ => hread) rfl,?_,?_,?_⟩
  · intro attempt_id hattempt
    exact ⟨none,hfresh attempt_id hattempt,fun _ hstored => by cases hstored⟩
  · exact fun _ hwrite => by cases hwrite
  · exact fun _ _ hcall => by cases hcall

/-- A sound recorded answer blames the stored state only where calls are late or the root is not
trusted. -/
theorem not_invalid_of_records (h : Holds request presented strict view system) (hstrict : strict)
    (hpresented : presented attempt_id)
    (haudit : readAttemptAudit system.database attempt_id=.ok (some record)) {outcome : Outcome}
    (hanswer : Records system record.value outcome) : outcome≠.failed .trustedStateInvalid := by
  rintro rfl
  obtain ⟨found,hfound,hsound⟩ := h.audits attempt_id hpresented
  rw [haudit] at hfound
  cases hfound
  obtain ⟨-,-,hrecord⟩ := hsound record rfl
  obtain ⟨houtcome,hcode⟩ := hanswer
  rcases hrecord.answer with ⟨-,code,hother,hnot⟩ | ⟨result,-,hsuccess⟩
  · rw [hcode] at hother
    exact hnot hstrict (Option.some.inj hother).symm
  · rw [hsuccess.failure_code] at hcode
    cases hcode

/-- The system after a list of steps. -/
def after (configured_target : TargetBinding) (policy : RouteAuthenticationPolicy)
    (request : RevocationRequest) (database : Database functions) (actions : List Action) :
    System functions configured_target :=
  run (RevocationCalls.step policy request) (initial configured_target database) actions

/-- In every run of the calls of one command whose steps are permitted, from stores that serve a
view without a result: the audit of an attempt is served, and once recorded it stays; every
returned result is the one stored result; and a call that starts once the audit of its attempt
is recorded ends, when it is served, with the answer that the audit records. With a trusted root
and commits that are built on time that answer never blames the stored state. -/
theorem revocation_attempts_stable (functions : AuthorityFunctions)
    (configured_target : TargetBinding) (policy : RouteAuthenticationPolicy)
    (request : RevocationRequest) (database : Database functions) (view : RevocationView)
    (actions : List Action)
    (hread : readRevocationView configured_target database
      (request.attempt request.command.request_id)=.ok view) (hempty : view.result=none)
    (hfresh : ∀ attempt_id,Presented actions attempt_id →
      readAttemptAudit database attempt_id=.ok none)
    (hdistinct : ∀ first second,Presented actions first → Presented actions second →
      epochRevocationAuditDocumentId functions first=
        epochRevocationAuditDocumentId functions second → first=second)
    (hpermitted : PermittedRun policy request (initial configured_target database) actions) :
    (∀ earlier later,actions=earlier++later → ∀ attempt_id,Presented actions attempt_id →
      (∃ audit,readAttemptAudit
        (after configured_target policy request database earlier).database attempt_id=.ok audit) ∧
      ∀ record,readAttemptAudit
          (after configured_target policy request database earlier).database attempt_id=
            .ok (some record) →
        readAttemptAudit (after configured_target policy request database actions).database
          attempt_id=.ok (some record)) ∧
    (∀ index call result,
      (after configured_target policy request database actions).calls index=some call →
      call.stage=.finished (.returned result) →
      OneResult request (after configured_target policy request database actions) result) ∧
    ∀ earlier later index attempt_id record,actions=earlier++later →
      Presented actions attempt_id →
      readAttemptAudit (after configured_target policy request database earlier).database
        attempt_id=.ok (some record) →
      (after configured_target policy request database earlier).calls index=none →
      (∀ action∈later,Serves index action) →
      ∀ call,(after configured_target policy request database actions).calls index=some call →
        call.invocation=request.attempt attempt_id →
        ∃ outcome,
          Records (after configured_target policy request database actions) record.value outcome ∧
          (after configured_target policy request database
            (actions++[.read index true,.record index true])).calls index=
              some {call with stage := .finished outcome} ∧
          (∀ other,call.stage=.finished other → other=outcome) ∧
          (TrustedView functions configured_target view →
            OnTimeRun policy request view (initial configured_target database) actions →
            outcome≠.failed .trustedStateInvalid) := by
  have hserved : ∃ database : Database functions,∀ attempt_id,readRevocationView configured_target
      database (request.attempt attempt_id)=.ok view := ⟨database,fun _ => hread⟩
  have hsplit : ∀ strict : Prop,
      (strict → TrustedView functions configured_target view ∧
        OnTimeRun policy request view (initial configured_target database) actions) →
      ∀ earlier later,actions=earlier++later →
      Holds request (Presented actions) strict view (run (RevocationCalls.step policy request)
        (initial configured_target database) earlier) ∧
      ∀ first action rest,later=first++action::rest →
        Allowed policy request (Presented actions) strict view
          (run (RevocationCalls.step policy request) (run (RevocationCalls.step policy request)
            (initial configured_target database) earlier) first) action := by
    intro strict hstrict earlier later hparts
    have hallowed : ∀ first action rest,actions=first++action::rest →
        Allowed policy request (Presented actions) strict view
          (run (RevocationCalls.step policy request) (initial configured_target database) first)
          action := allowed_of_run hpermitted (fun h => (hstrict h).2)
    constructor
    · refine (holds_run hdistinct hserved (fun h => (hstrict h).1) ?_
        (holds_initial hread hempty hfresh)).2
      intro first action rest hfirst
      exact hallowed first action (rest++later) (by
        rw [hparts,hfirst,List.append_assoc,List.cons_append])
    · intro first action rest hrest
      rw [← run_append]
      exact hallowed (earlier++first) action rest (by rw [hparts,hrest,List.append_assoc])
  refine ⟨?_,?_,?_⟩
  · intro earlier later hparts attempt_id hattempt
    obtain ⟨hholds,hallowed⟩ := hsplit False False.elim earlier later hparts
    obtain ⟨audit,haudit,-⟩ := hholds.audits attempt_id hattempt
    refine ⟨⟨audit,haudit⟩,?_⟩
    intro record hrecord
    have hkept := (holds_run hdistinct hserved False.elim hallowed hholds).1
    rw [← run_append,← hparts] at hkept
    exact hkept attempt_id hattempt record hrecord
  · intro index call result hcall hfinished
    obtain ⟨hholds,-⟩ := hsplit False False.elim actions [] (List.append_nil _).symm
    obtain ⟨attempt_id,-,-,hstage⟩ := hholds.calls index call hcall
    rw [hfinished] at hstage
    exact oneResult_of_committed hholds (hstage result rfl)
  · intro earlier later index attempt_id record hparts hattempt hrecord hfree hserves call hcall
      hinvocation
    obtain ⟨hholds,hallowed⟩ := hsplit (TrustedView functions configured_target view ∧
      OnTimeRun policy request view (initial configured_target database) actions) id earlier later
      hparts
    have hstart : Later request index attempt_id record (run (RevocationCalls.step policy request)
        (initial configured_target database) earlier) := by
      refine ⟨hrecord,?_⟩
      intro found hfound
      rw [after] at hfree
      rw [hfree] at hfound
      cases hfound
    have hend := later_run hdistinct hserved And.left hallowed hserves hholds hattempt hstart
    have hfinal := (holds_run hdistinct hserved And.left hallowed hholds).2
    rw [← run_append,← hparts] at hend hfinal
    obtain ⟨outcome,hanswer,hended,hsame⟩ := ends_of_answering hfinal hattempt hend.audit hcall
      hinvocation (hend.call call hcall hinvocation)
    refine ⟨outcome,hanswer,?_,hsame,?_⟩
    · rw [after,run_append]
      exact hended
    · intro htrusted hon_time
      exact not_invalid_of_records hfinal ⟨htrusted,hon_time⟩ hattempt hend.audit hanswer

/-- A run is permitted when its first step is, and then the rest. -/
theorem permittedRun_cons {action : Action} {actions : List Action}
    (hfirst : Permitted policy request system action)
    (hrest : PermittedRun policy request (RevocationCalls.step policy request system action)
      actions) : PermittedRun policy request system (action::actions) := by
  intro earlier other later hsplit
  cases earlier with
  | nil =>
    cases hsplit
    exact hfirst
  | cons first earlier =>
    rw [List.cons_append,List.cons.injEq] at hsplit
    rw [← hsplit.1]
    exact hrest earlier other later hsplit.2

theorem start_calls {token : OperatorToken} {principal : Option AuthenticationContext}
    {now : UtcSecond} (hfree : system.calls index=none) :
    ∃ call,(RevocationCalls.step policy request system
        (.start index attempt_id token principal now)).calls index=some call ∧
      call.invocation=request.attempt attempt_id := by
  simp only [RevocationCalls.step,hfree]
  exact ⟨⟨request.attempt attempt_id,now,_⟩,Function.update_self index _ system.calls,rfl⟩

theorem permittedRun_nil : PermittedRun policy request system [] := by
  intro earlier other later hsplit
  have hlength := congrArg List.length hsplit
  rw [List.length_nil,List.length_append,List.length_cons] at hlength
  omega

end

/-- A digest that shows a number. -/
def countSha256 (count : Nat) : Sha256Digest :=
  ⟨String.ofList (List.replicate (count%64) '1'++List.replicate (64-count%64) '0'),by
    rw [isSha256,String.toList_ofList,List.length_append,List.length_replicate,List.length_replicate,
      List.all_append,List.all_replicate,List.all_replicate]
    have hcount : count%64<64 := Nat.mod_lt _ (by omega)
    have hlength : count%64+(64-count%64)=64 := by omega
    rw [hlength]
    simp [isHexDigit]⟩

/-- Functions of the sample run: document identities show their length, and nothing else is
told apart. -/
def sampleFunctions : AuthorityFunctions where
  sha256 := fun bytes =>
    if firestoreDocumentIdDomain.isPrefixOf bytes=true then countSha256 bytes.length else zeroSha256
  canonical_sha256 := fun _ => zeroSha256

def sampleDatabase : Database sampleFunctions :=
  match createRootCreationBundle sampleTarget sampleCommit none Database.empty with
  | .ok database => database
  | .error _ => Database.empty


def sampleRevocation : RevocationRequest where
  command := {
    root_id := sampleRoot.root_id
    expected_root_sha256 := zeroSha256
    expected_epoch := firstEpoch
    request_id := ⟨"revoke",revocationName⟩
    idempotency_key := ⟨"revoke-key",revocationKey⟩
    root_identity := sampleRoot_identity
    reason := ⟨"drill",drill_bounds⟩
    reason_exact := drill_stripped }
  operator_identity := sampleOperator
  operator_subject := sampleSubject

def samplePolicy : RouteAuthenticationPolicy := ⟨.operator,sampleOperator.1,sampleSubject.1,"revoke"⟩

def sampleToken : OperatorToken := ⟨"accounts.google.com","revoke",1700000000,1700003600⟩

def samplePrincipal : AuthenticationContext :=
  ⟨.operator,sampleOperator.1,sampleSubject.1,"accounts.google.com","revoke",1700000000,1700003600⟩

def firstAttempt : Identifier := ⟨"first",by decide⟩

def secondAttempt : Identifier := ⟨"second",by decide⟩

/-- The epoch after the first. -/
def secondEpoch : PositiveSafeInteger := ⟨2,two_safe⟩

def sampleAnswer : SignedEvidenceEventV1 where
  event := {
    evidence_id := revocationEvidenceIdentifier sampleFunctions zeroSha256 zeroSha256 secondEpoch
    sequence := 1
    root_id := sampleRoot.root_id
    root_sha256 := zeroSha256
    target := sampleTarget
    epoch := secondEpoch
    kind := .epochAdvanced
    actor := sampleOperator
    request_id := some sampleRevocation.command.request_id
    receipt_id := none
    occurred_at := ⟨1700000101,by omega⟩
    subject_sha256 := zeroSha256
    previous_event_sha256 := some zeroSha256
    reason_code := none
    provider_operation := none
    target_configuration_sha256 := none
    accepted := by decide +kernel }
  signing_key_version := "1"
  signature := ""

def sampleStart (index : Nat) (attempt_id : Identifier) (now : UtcSecond) : Action :=
  .start index attempt_id sampleToken (some samplePrincipal) now

/-- Two calls start, and the one that started last commits. -/
def committedRun : List Action :=
  [sampleStart 0 firstAttempt ⟨1700000100,later_bounds⟩,sampleStart 1 secondAttempt ⟨1700000101,by omega⟩,
    .read 1 true,.build 1 (some sampleAnswer),.land 0,.report 1 .confirmed]

/-- The call that started first adopts the result. -/
def adoptedRun : List Action := committedRun++[.read 0 true,.record 0 true]

/-- Its attempt is called again. -/
def refusedRun : List Action :=
  adoptedRun++[sampleStart 2 firstAttempt ⟨1700000102,by omega⟩,.read 2 true]

/-- Whether a database serves the first view of the sample run, with no audits. -/
def servesFirstView (database : Database sampleFunctions) : Bool :=
  match readRevocationView sampleTarget database
      (sampleRevocation.attempt sampleRevocation.command.request_id),
    readAttemptAudit database firstAttempt,readAttemptAudit database secondAttempt with
  | .ok view,.ok none,.ok none => view.result.isNone
  | _,_,_ => false

/-- What the audit of an attempt records. -/
def auditOutcome (system : System sampleFunctions sampleTarget) (attempt_id : Identifier) :
    Option EpochRevocationAuditOutcome :=
  match readAttemptAudit system.database attempt_id with
  | .ok (some stored) => some stored.value.outcome
  | _ => none

/-- The attempt of a call, and how the call has ended. -/
def ending (call : Option Call) : Option (Identifier×Outcome) :=
  match call with
  | none => none
  | some call =>
    match call.stage with
    | .finished outcome => some (call.invocation.attempt_id,outcome)
    | _ => none

theorem view_of_serves {database : Database sampleFunctions} (h : servesFirstView database=true) :
    ∃ view,readRevocationView sampleTarget database
        (sampleRevocation.attempt sampleRevocation.command.request_id)=.ok view ∧
      view.result=none ∧ readAttemptAudit database firstAttempt=.ok none ∧
      readAttemptAudit database secondAttempt=.ok none := by
  unfold servesFirstView at h
  split at h
  · rename_i view hview hfirst hsecond
    exact ⟨view,hview,Option.isNone_iff_eq_none.mp h,hfirst,hsecond⟩
  · cases h

theorem audit_of_outcome {system : System sampleFunctions sampleTarget} {attempt_id : Identifier}
    {outcome : EpochRevocationAuditOutcome} (h : auditOutcome system attempt_id=some outcome) :
    ∃ record,readAttemptAudit system.database attempt_id=.ok (some record) ∧
      record.value.outcome=outcome := by
  unfold auditOutcome at h
  split at h
  · rename_i record hrecord
    exact ⟨record,hrecord,Option.some.inj h⟩
  · cases h

theorem call_of_ending {call : Option Call} {attempt_id : Identifier} {outcome : Outcome}
    (h : ending call=some (attempt_id,outcome)) : ∃ found,call=some found ∧
      found.invocation.attempt_id=attempt_id ∧ found.stage=.finished outcome := by
  unfold ending at h
  split at h
  · cases h
  · rename_i found
    split at h
    · rename_i _ hstage
      obtain ⟨hattempt,houtcome⟩ := Prod.mk.inj (Option.some.inj h)
      rw [houtcome] at hstage
      exact ⟨found,rfl,hattempt,hstage⟩
    · cases h

theorem sampleRuns : servesFirstView sampleDatabase=true ∧
    epochRevocationAuditDocumentId sampleFunctions firstAttempt≠
      epochRevocationAuditDocumentId sampleFunctions secondAttempt ∧
    auditOutcome (after sampleTarget samplePolicy sampleRevocation sampleDatabase committedRun)
      secondAttempt=some .committed ∧
    ((after sampleTarget samplePolicy sampleRevocation sampleDatabase committedRun).calls 2).isNone=
      true ∧
    auditOutcome (after sampleTarget samplePolicy sampleRevocation sampleDatabase adoptedRun)
      firstAttempt=some .adopted ∧
    ((after sampleTarget samplePolicy sampleRevocation sampleDatabase adoptedRun).calls 2).isNone=
      true ∧
    ending ((after sampleTarget samplePolicy sampleRevocation sampleDatabase refusedRun).calls 2)=
      some (firstAttempt,.failed .trustedStateInvalid) := by
  decide +kernel

/-- The attempt that has committed is called again. -/
def laterRun : List Action := committedRun++[sampleStart 2 secondAttempt ⟨1700000102,by omega⟩]

theorem presented_second : Presented laterRun secondAttempt := by
  refine ⟨1,sampleToken,some samplePrincipal,⟨1700000101,by omega⟩,?_⟩
  rw [laterRun,committedRun]
  exact List.mem_cons_of_mem _ List.mem_cons_self

/-- The later call is permitted, and so is every step before it. -/
theorem laterRun_permitted :
    PermittedRun samplePolicy sampleRevocation (initial sampleTarget sampleDatabase) laterRun := by
  refine permittedRun_cons (.inl (by decide)) (permittedRun_cons (.inl (by decide))
    (permittedRun_cons ?_ (permittedRun_cons trivial (permittedRun_cons trivial
      (permittedRun_cons trivial (permittedRun_cons (.inl (by decide)) permittedRun_nil))))))
  intro _ call commits _ _ _ landing hlanding
  cases hlanding

theorem presented_laterRun {attempt_id : Identifier} (h : Presented laterRun attempt_id) :
    attempt_id=firstAttempt ∨ attempt_id=secondAttempt := by
  obtain ⟨index,token,principal,now,hstart⟩ := h
  simp only [laterRun,committedRun,sampleStart,List.cons_append,List.nil_append,List.mem_cons,
    Action.start.injEq,reduceCtorEq,List.not_mem_nil,or_false,false_or] at hstart
  rcases hstart with hstart | hstart | hstart
  · exact .inl hstart.2.1
  · exact .inr hstart.2.1
  · exact .inr hstart.2.1

theorem laterCall_started
    (hfree : (after sampleTarget samplePolicy sampleRevocation sampleDatabase committedRun).calls 2=
      none) :
    ∃ call,(after sampleTarget samplePolicy sampleRevocation sampleDatabase laterRun).calls 2=
        some call ∧
      call.invocation=sampleRevocation.attempt secondAttempt := by
  have hstep : after sampleTarget samplePolicy sampleRevocation sampleDatabase laterRun=
      RevocationCalls.step samplePolicy sampleRevocation
        (after sampleTarget samplePolicy sampleRevocation sampleDatabase committedRun)
        (.start 2 secondAttempt sampleToken (some samplePrincipal) ⟨1700000102,by omega⟩) := run_concat
  rw [hstep]
  exact start_calls hfree

/-- A call that starts once its attempt has committed ends with the recorded answer. -/
theorem revocation_attempts_stable_committed : ∃ record outcome call,
    readAttemptAudit
      (after sampleTarget samplePolicy sampleRevocation sampleDatabase committedRun).database
      secondAttempt=.ok (some record) ∧
    (after sampleTarget samplePolicy sampleRevocation sampleDatabase laterRun).calls 2=some call ∧
    Records (after sampleTarget samplePolicy sampleRevocation sampleDatabase laterRun) record.value
      outcome ∧
    (after sampleTarget samplePolicy sampleRevocation sampleDatabase
      (laterRun++[.read 2 true,.record 2 true])).calls 2=some {call with stage := .finished outcome} := by
  obtain ⟨hfirst,hdistinct,haudit,hnone,-⟩ := sampleRuns
  obtain ⟨view,hread,hempty,hfirst_fresh,hsecond_fresh⟩ := view_of_serves hfirst
  obtain ⟨record,hrecord,-⟩ := audit_of_outcome haudit
  have hfree := Option.isNone_iff_eq_none.mp hnone
  obtain ⟨call,hcall,hinvocation⟩ := laterCall_started hfree
  have hfresh : ∀ attempt_id,Presented laterRun attempt_id →
      readAttemptAudit sampleDatabase attempt_id=.ok none := by
    intro attempt_id hattempt
    rcases presented_laterRun hattempt with rfl | rfl
    · exact hfirst_fresh
    · exact hsecond_fresh
  have hapart : ∀ one other,Presented laterRun one → Presented laterRun other →
      epochRevocationAuditDocumentId sampleFunctions one=
        epochRevocationAuditDocumentId sampleFunctions other → one=other := by
    intro one other hone hother hsame
    rcases presented_laterRun hone with rfl | rfl
    · rcases presented_laterRun hother with rfl | rfl
      · rfl
      · exact absurd hsame hdistinct
    · rcases presented_laterRun hother with rfl | rfl
      · exact absurd hsame.symm hdistinct
      · rfl
  have hserves : ∀ action∈[sampleStart 2 secondAttempt ⟨1700000102,by omega⟩],Serves 2 action := by
    intro action haction
    rw [List.mem_singleton.mp haction]
    trivial
  obtain ⟨-,-,hstable⟩ := revocation_attempts_stable sampleFunctions sampleTarget samplePolicy
    sampleRevocation sampleDatabase view laterRun hread hempty hfresh hapart laterRun_permitted
  obtain ⟨outcome,hanswer,hended,-⟩ := hstable committedRun _ 2 secondAttempt record rfl
    presented_second hrecord hfree hserves call hcall hinvocation
  exact ⟨record,outcome,call,hrecord,hcall,hanswer,hended⟩

/-- A call that adopts a result which was committed after the call had started leaves an audit
that the next call of its attempt refuses as an invalid stored state. -/
theorem early_adoption_refused :
    (∃ record,readAttemptAudit
        (after sampleTarget samplePolicy sampleRevocation sampleDatabase adoptedRun).database
        firstAttempt=.ok (some record) ∧
      record.value.outcome=.adopted) ∧
    (after sampleTarget samplePolicy sampleRevocation sampleDatabase adoptedRun).calls 2=none ∧
    ∃ call,(after sampleTarget samplePolicy sampleRevocation sampleDatabase refusedRun).calls 2=
        some call ∧ call.invocation.attempt_id=firstAttempt ∧
      call.stage=.finished (.failed .trustedStateInvalid) := by
  obtain ⟨-,-,-,-,haudit,hfree,hended⟩ := sampleRuns
  exact ⟨audit_of_outcome haudit,Option.isNone_iff_eq_none.mp hfree,call_of_ending hended⟩

end ControlGraph.RevocationOutcomes
