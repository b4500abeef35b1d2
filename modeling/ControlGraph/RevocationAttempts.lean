import ControlGraph.RevocationViews

/-!
# Attempts of one revocation

The invariant of the calls of one command. Before a commit lands every call reads
the same view without a result, and the first commit that lands is the only one: a
second one would have to create the same result again. Every audit that an attempt
may read belongs to the attempt and records a denial, or the success of the landed
result at a time that is not before its commit. So a call that starts once its
audit is recorded ends with the answer that the audit records.
-/

namespace ControlGraph.RevocationAttempts

open Checks ContractText RootContracts RevocationContracts AuthorityDatabase EvidenceChain RootCreation
  RevocationCommits AuthorityRuns TrustedRoots RevocationReading RevocationBuilding RevocationCalls
  RevocationViews LabelledRuns

open ReceiptContracts hiding ServiceClaimRecord

open ReceiptStore (StoreError)

open ExecutionRequests (AuthenticationContext RouteAuthenticationPolicy CallerRole)

/-- Digest of a request, which all of its attempts share. -/
def requestSha256 (functions : AuthorityFunctions) (request : RevocationRequest) :
    Sha256Digest :=
  epochRevocationRequestSha256 functions.sha256 (request.attempt request.command.request_id)

section

variable {functions : AuthorityFunctions} {configured_target : TargetBinding}

/-- A result that a landed commit carries. -/
def Committed (system : System functions configured_target) (result : EpochRevocationResultV1) :
    Prop :=
  ∃ landing∈system.landed,landing.commit.result=result

/-- Whether an outcome is the answer that an audit records. -/
def Records (system : System functions configured_target) (audit : EpochRevocationAuditV1) :
    Outcome → Prop
  | .returned result => audit.outcome≠.denied ∧ audit.result_id=some result.result_id ∧
      Committed system result
  | .failed code => audit.outcome=.denied ∧ audit.failure_code=some code
  | .raised _ => False

/-- An audit that its attempt accepts. With a trusted root and calls that are on time no denial
blames the stored state. -/
structure SoundAudit (request : RevocationRequest) (strict : Prop)
    (system : System functions configured_target) (audit : EpochRevocationAuditV1) : Prop where
  attempt : AuditOfAttempt audit (request.attempt audit.attempt_id) (requestSha256 functions request)
  /-- The audit records a denial, or the success of a landed result. -/
  answer : (audit.outcome=.denied ∧ ∃ code,audit.failure_code=some code ∧
      (strict → code≠.trustedStateInvalid)) ∨
    ∃ result,Committed system result ∧
      SuccessfulAudit audit (request.attempt audit.attempt_id) result (requestSha256 functions request)

/-- A view that a commit of an attempt was decided on. -/
structure DecidedOn (request : RevocationRequest) (view : RevocationView)
    (functions : AuthorityFunctions) (configured_target : TargetBinding)
    (attempt_id : Identifier) (state : EpochRevocationState) : Prop where
  /-- The attempt read the view without an audit. -/
  decided : state=(view.reading (request.attempt attempt_id) none).state
  /-- The view was not denied. -/
  allowed : stateDenial functions configured_target state=.ok ()

/-- A write that may land at any time. -/
def SoundWrite (request : RevocationRequest) (presented : Identifier → Prop) (strict : Prop)
    (view : RevocationView) (system : System functions configured_target) : Write → Prop
  | .commit expected _ => ∃ attempt_id,presented attempt_id ∧
      DecidedOn request view functions configured_target attempt_id expected
  | .audit audit => presented audit.attempt_id ∧ SoundAudit request strict system audit

/-- A place where a call of an attempt may be. -/
def SoundStage (request : RevocationRequest) (strict : Prop) (view : RevocationView)
    (system : System functions configured_target) (attempt_id : Identifier) : Stage → Prop
  | .reading _ => True
  | .building _ state => DecidedOn request view functions configured_target attempt_id state
  | .committing _ expected _ =>
    DecidedOn request view functions configured_target attempt_id expected
  | .resolving => True
  | .recording audit outcome => audit.attempt_id=attempt_id ∧
      SoundAudit request strict system audit ∧ Records system audit outcome
  | .finished outcome => ∀ result,outcome=.returned result → Committed system result

/-- What the store holds of a request. -/
inductive Phase (request : RevocationRequest) (view : RevocationView)
    (system : System functions configured_target) : Prop
  /-- No commit has landed. -/
  | uncommitted (empty : view.result=none)
    (reads : ∀ attempt_id,readRevocationView configured_target system.database
      (request.attempt attempt_id)=.ok view)
    (landed : system.landed=[])
  | committed (landing : Landing functions configured_target) (later : RevocationView)
    (bundle : RootCreationBundle) (decided : Identifier)
    (reads : ∀ attempt_id,readRevocationView configured_target system.database
      (request.attempt attempt_id)=.ok later)
    (landed : system.landed=[landing])
    (invocation : landing.expected.invocation=request.attempt decided)
    (revoked : EpochRevoked configured_target landing.expected landing.commit bundle
      landing.before landing.next)
    (subject : RevocationSubjectBound functions bundle landing.commit
      (epochRevocationRequestSha256 functions.sha256 landing.expected.invocation))
    (holds : CommittedView functions configured_target landing.commit bundle later)

/-- What holds after every step of the calls of a request. -/
structure Holds (request : RevocationRequest) (presented : Identifier → Prop) (strict : Prop)
    (view : RevocationView) (system : System functions configured_target) : Prop where
  /-- The store has the view without a result, or the one landed result. -/
  phase : Phase request view system
  /-- Every attempt reads no audit, or a sound one of its own. -/
  audits : ∀ attempt_id,presented attempt_id → ∃ audit,
    readAttemptAudit system.database attempt_id=.ok audit ∧
    ∀ stored∈audit,stored.revision=0 ∧ stored.value.attempt_id=attempt_id ∧
      SoundAudit request strict system stored.value
  sent : ∀ write∈system.sent,SoundWrite request presented strict view system write
  calls : ∀ index call,system.calls index=some call → ∃ attempt_id,presented attempt_id ∧
    call.invocation=request.attempt attempt_id ∧
    SoundStage request strict view system attempt_id call.stage

variable {request : RevocationRequest} {presented : Identifier → Prop} {strict : Prop}
  {view : RevocationView} {system next : System functions configured_target}
  {attempt_id : Identifier} {audit : EpochRevocationAuditV1}

/-- Results stay committed when no landed commit is lost. -/
theorem SoundAudit.mono (h : SoundAudit request strict system audit)
    (hlanded : ∀ result,Committed system result → Committed next result) :
    SoundAudit request strict next audit := by
  refine ⟨h.attempt,?_⟩
  rcases h.answer with hdenied | ⟨result,hcommitted,hsuccess⟩
  · exact .inl hdenied
  · exact .inr ⟨result,hlanded result hcommitted,hsuccess⟩

theorem Records.mono {outcome : Outcome} (h : Records system audit outcome)
    (hlanded : ∀ result,Committed system result → Committed next result) :
    Records next audit outcome := by
  cases outcome with
  | returned result => exact ⟨h.1,h.2.1,hlanded result h.2.2⟩
  | failed code => exact h
  | raised error => exact h

theorem SoundWrite.mono {write : Write}
    (h : SoundWrite request presented strict view system write)
    (hlanded : ∀ result,Committed system result → Committed next result) :
    SoundWrite request presented strict view next write := by
  cases write with
  | commit expected commit => exact h
  | audit audit => exact ⟨h.1,h.2.mono hlanded⟩

theorem SoundStage.mono {stage : Stage} (h : SoundStage request strict view system attempt_id stage)
    (hlanded : ∀ result,Committed system result → Committed next result) :
    SoundStage request strict view next attempt_id stage := by
  cases stage with
  | reading commits => trivial
  | building commits state => exact h
  | committing commits expected commit => exact h
  | resolving => trivial
  | recording audit outcome => exact ⟨h.1,h.2.1.mono hlanded,h.2.2.mono hlanded⟩
  | finished outcome => exact fun result hresult => hlanded result (h result hresult)

theorem committed_eq {landing : Landing functions configured_target} {result : EpochRevocationResultV1}
    (hlanded : system.landed=[landing]) (h : Committed system result) :
    result=landing.commit.result := by
  obtain ⟨found,hfound,hresult⟩ := h
  rw [hlanded,List.mem_singleton] at hfound
  rw [← hresult,hfound]

/-- What an attempt reads of a sound store. -/
structure Reads (request : RevocationRequest) (strict : Prop) (view : RevocationView)
    (system : System functions configured_target) (attempt_id : Identifier)
    (found : RevocationView) (audit : Option (StoredRecord EpochRevocationAuditV1))
    (existing : Option EpochRevocationResultV1) : Prop where
  served : readEpochRevocationState configured_target system.database (request.attempt attempt_id)=
    .ok (found.reading (request.attempt attempt_id) audit)
  audit_read : readAttemptAudit system.database attempt_id=.ok audit
  exact_result : exactResult functions configured_target
    (found.reading (request.attempt attempt_id) audit) (requestSha256 functions request)=
      .ok existing
  /-- The audit belongs to the attempt. -/
  validated : validatedAttemptAudit (found.reading (request.attempt attempt_id) audit).state
    (requestSha256 functions request)=.ok (audit.map (fun stored => stored.value))
  sound : ∀ stored∈audit,stored.value.attempt_id=attempt_id ∧
    SoundAudit request strict system stored.value
  /-- Without a result the view is the first one. -/
  absent : existing=none → found=view ∧ system.landed=[]
  present : ∀ result,existing=some result →
    Committed system result ∧ ∀ other,Committed system other → other=result

/-- Every attempt reads a sound store. -/
theorem Holds.reads (h : Holds request presented strict view system)
    (hpresented : presented attempt_id) :
    ∃ found audit existing,Reads request strict view system attempt_id found audit existing := by
  obtain ⟨audit,haudit,hsound⟩ := h.audits attempt_id hpresented
  have hserved : ∀ {found : RevocationView},
      readRevocationView configured_target system.database (request.attempt attempt_id)=.ok found →
      readEpochRevocationState configured_target system.database (request.attempt attempt_id)=
        .ok (found.reading (request.attempt attempt_id) audit) := by
    intro found hfound
    rw [readEpochRevocationState,bind_of_ok hfound]
    exact bind_of_ok haudit
  have hvalidated : ∀ {found : RevocationView},
      validatedAttemptAudit (found.reading (request.attempt attempt_id) audit).state
        (requestSha256 functions request)=.ok (audit.map (fun stored => stored.value)) := by
    intro found
    cases audit with
    | none => rfl
    | some stored =>
      obtain ⟨hzero,hown,hstored⟩ := hsound stored rfl
      have hattempt := hstored.attempt
      rw [hown] at hattempt
      exact check_bind_eq_ok.mpr ⟨require_of ⟨hzero,hattempt⟩,rfl⟩
  cases h.phase with
  | uncommitted hempty hreads hlanded =>
    have hread := hserved (hreads attempt_id)
    refine ⟨view,audit,none,hread,haudit,?_,hvalidated,?_,fun _ => ⟨rfl,hlanded⟩,?_⟩
    · have hstate : (view.reading (request.attempt attempt_id) audit).state.result=none := hempty
      simp only [exactResult,hstate]
    · exact fun stored hstored => (hsound stored hstored).2
    · intro result hresult
      cases hresult
  | committed landing later bundle decided hreads hlanded hinvocation hrevoked hsubject hholds =>
    have hread := hserved (hreads attempt_id)
    refine ⟨later,audit,some landing.commit.result,hread,haudit,?_,hvalidated,?_,?_,?_⟩
    · have hexact := @exactResult_of_committed _ _ _ _ _ _ _ _ hrevoked hsubject hholds
        (request.attempt attempt_id) audit (by rw [hinvocation]; rfl) (by rw [hinvocation]; rfl)
        (by rw [hinvocation]; rfl)
      rw [hinvocation] at hexact
      exact hexact
    · exact fun stored hstored => (hsound stored hstored).2
    · intro habsent
      cases habsent
    · intro result hresult
      cases hresult
      refine ⟨⟨landing,by rw [hlanded]; exact List.mem_singleton_self _,rfl⟩,?_⟩
      exact fun other hother => committed_eq hlanded hother

theorem repeats_of_exactResult {reading : EpochRevocationReading} {request_sha256 : Sha256Digest}
    {result : EpochRevocationResultV1}
    (h : exactResult functions configured_target reading request_sha256=.ok (some result)) :
    ResultRepeats configured_target reading.state.invocation request_sha256 result := by
  unfold exactResult at h
  split at h
  · cases h
  · simp only [bind_eq_ok,require_eq_ok] at h
    obtain ⟨⟨⟩,-,bundle,-,⟨⟩,⟨-,hrepeats⟩,⟨⟩,-,⟨⟩,-,⟨⟩,-,head,-,⟨⟩,-,h⟩ := h
    cases h
    exact hrepeats

theorem soundAudit_denied {code : EpochRevocationFailureCode} {recorded_at : UtcSecond}
    (hcode : strict → code≠.trustedStateInvalid) :
    SoundAudit request strict system (deniedAudit (request.attempt attempt_id)
      (requestSha256 functions request) code recorded_at) :=
  ⟨⟨rfl,rfl,rfl,rfl,rfl,rfl,rfl,rfl,rfl,rfl⟩,.inl ⟨rfl,code,rfl,hcode⟩⟩

/-- The adoption of the landed result is sound when the call did not start before its commit. -/
theorem soundAudit_adopted {result : EpochRevocationResultV1} {recorded_at : UtcSecond}
    (hrepeats : ResultRepeats configured_target (request.attempt attempt_id)
      (requestSha256 functions request) result)
    (hcommitted : Committed system result) (htime : result.committed_at.1 ≤ recorded_at.1) :
    SoundAudit request strict system (successAudit (request.attempt attempt_id) result
      (requestSha256 functions request) .adopted recorded_at) := by
  refine ⟨⟨rfl,rfl,rfl,rfl,rfl,rfl,rfl,rfl,rfl,rfl⟩,.inr ⟨result,hcommitted,?_⟩⟩
  exact ⟨.inr rfl,rfl,rfl,hrepeats.root_id.symm,hrepeats.root_sha256.symm,rfl,
    hrepeats.request_id.symm,hrepeats.idempotency_key.symm,hrepeats.operator_identity.symm,
    hrepeats.operator_subject.symm,rfl,rfl,rfl,htime⟩

theorem soundAudit_committed {expected : EpochRevocationState} {commit : EpochRevocationCommitV1}
    (hinvocation : expected.invocation=request.attempt attempt_id)
    (hrepeats : ResultRepeats configured_target expected.invocation
      (epochRevocationRequestSha256 functions.sha256 expected.invocation) commit.result)
    (hbound : RevocationAuditBound expected.invocation commit.result commit.audit
      (epochRevocationRequestSha256 functions.sha256 expected.invocation))
    (hcommitted : Committed system commit.result) :
    commit.audit.audit_id=attempt_id ∧ commit.audit.attempt_id=attempt_id ∧
      SoundAudit request strict system commit.audit := by
  have hfailure : commit.audit.failure_code=none := by
    have haccepted := commit.audit.accepted
    have hnot : commit.audit.outcome≠.denied := by
      rw [hbound.outcome]
      nofun
    rw [validateAuditOutcome,if_neg hnot,require_eq_ok] at haccepted
    exact haccepted.1
  rw [hinvocation] at hrepeats hbound
  have hown := hbound.attempt_id
  refine ⟨hbound.audit_id,hown,⟨?_,.inr ⟨commit.result,hcommitted,?_⟩⟩⟩
  · rw [hown]
    exact ⟨hbound.audit_id,hown,hbound.request_digest,hbound.root_id.trans hrepeats.root_id,
      hbound.root_sha256.trans hrepeats.root_sha256,hbound.expected_epoch,hbound.request_id,
      hbound.idempotency_key,hbound.operator_identity,hbound.operator_subject⟩
  · rw [hown]
    exact ⟨.inl hbound.outcome,hfailure,hbound.request_digest,hbound.root_id,hbound.root_sha256,
      hbound.expected_epoch,hbound.request_id.trans hrepeats.request_id.symm,
      hbound.idempotency_key.trans hrepeats.idempotency_key.symm,
      hbound.operator_identity.trans hrepeats.operator_identity.symm,
      hbound.operator_subject.trans hrepeats.operator_subject.symm,hbound.result_id,
      hbound.evidence_id,hbound.new_epoch,Int.le_of_eq (congrArg Subtype.val hbound.recorded_at.symm)⟩

variable {found : RevocationView} {stored : Option (StoredRecord EpochRevocationAuditV1)}
  {existing : Option EpochRevocationResultV1}

/-- A stored audit answers its attempt with what it records. -/
theorem Reads.answered {record : StoredRecord EpochRevocationAuditV1}
    (h : Reads request strict view system attempt_id found (some record) existing) :
    Records system record.value (answeredByAudit record.value (request.attempt attempt_id) existing
      (requestSha256 functions request)) := by
  obtain ⟨hown,hsound⟩ := h.sound record rfl
  unfold answeredByAudit
  rcases hsound.answer with ⟨hdenied,code,hcode,-⟩ | ⟨result,hcommitted,hsuccess⟩
  · rw [if_pos hdenied,hcode]
    exact ⟨hdenied,hcode⟩
  · have hnot : record.value.outcome≠.denied := by
      rcases hsuccess.outcome with houtcome | houtcome
      · rw [houtcome]
        nofun
      · rw [houtcome]
        nofun
    rw [if_neg hnot]
    cases existing with
    | none =>
      obtain ⟨landing,hlanding,-⟩ := hcommitted
      rw [(h.absent rfl).2] at hlanding
      cases hlanding
    | some current =>
      obtain ⟨hcurrent,honly⟩ := h.present current rfl
      rw [honly result hcommitted,hown] at hsuccess
      simp only [if_pos hsuccess]
      exact ⟨hnot,hsuccess.result_id,hcurrent⟩

/-- A view whose root, if there is one, is trusted with its head. -/
structure TrustedView (functions : AuthorityFunctions) (configured_target : TargetBinding)
    (view : RevocationView) : Prop where
  /-- The root passes its inspection. -/
  trusted : ∀ bundle∈view.root_bundle,
    TrustedRootAuthority functions configured_target (inspected bundle)
  headed : ∀ bundle∈view.root_bundle,∃ head,currentEvidenceChainHead functions bundle
    configured_target view.chain_head view.head_evidence=.ok head

/-- Stored identities are never changed. -/
theorem identity_revision {database : Database functions} {kind : EpochRevocationIdentityKind}
    {value : Identifier} {owner : Option (StoredRecord EpochRevocationIdentityV1)}
    (h : readRevocationIdentity database kind value=.ok owner) :
    ∀ identity∈owner.toList,identity.revision=0 := by
  intro identity hidentity
  rw [Option.mem_toList] at hidentity
  rw [hidentity,readRevocationIdentity,bind_eq_ok] at h
  obtain ⟨logical_id,-,hread⟩ := h
  have hpayload := (Table.accepted_of_find (Table.find_of_read hread)).1
  exact require_eq_ok.mp hpayload

/-- A trusted view is never denied for the stored state. -/
theorem stateDenial_code {database : Database functions} {invocation : EpochRevocationInvocationV1}
    {audit : Option (StoredRecord EpochRevocationAuditV1)} {code : EpochRevocationFailureCode}
    (hread : readRevocationView configured_target database invocation=.ok view)
    (htrusted : TrustedView functions configured_target view)
    (h : stateDenial functions configured_target (view.reading invocation audit).state=
      .error code) : code≠.trustedStateInvalid := by
  have hzero : ∀ identity∈view.request_identity.toList++view.idempotency_identity.toList,
      identity.revision=0 := by
    simp only [readRevocationView,bind_eq_ok] at hread
    obtain ⟨bundle,_,head,_,evidence,_,request,hrequest,key,hkey,result,_,named,_,hread⟩ := hread
    cases hread
    intro identity hidentity
    rcases List.mem_append.mp hidentity with howner | howner
    · exact identity_revision hrequest identity howner
    · exact identity_revision hkey identity howner
  have hmap : ∀ {bundle : RootCreationBundle},view.root_bundle=some bundle →
      ∃ head,(currentEvidenceChainHead functions bundle configured_target view.chain_head
        view.head_evidence).mapError (fun _ => EpochRevocationFailureCode.trustedStateInvalid)=
          .ok head := by
    intro bundle hbundle
    obtain ⟨head,hhead⟩ := htrusted.headed bundle hbundle
    exact ⟨head,mapError_eq_ok.mpr hhead⟩
  rw [stateDenial] at h
  simp only [bind_eq_error,require_eq_error,require_eq_ok,requireSome_eq_error,requireSome_eq_ok] at h
  rcases h with ⟨-,rfl⟩ | ⟨-,-,⟨hidentity,-⟩ | ⟨-,-,⟨-,rfl⟩ | ⟨-,-,⟨-,rfl⟩ | ⟨bundle,hbundle,h⟩⟩⟩⟩
  · decide
  · exact absurd hzero hidentity
  · decide
  · decide
  · have hbundle_view : view.root_bundle=some bundle := hbundle
    rcases h with ⟨hinspect,-⟩ | ⟨-,-,⟨-,rfl⟩ | ⟨-,-,⟨-,rfl⟩ | ⟨-,-,⟨-,rfl⟩ | ⟨-,-,h⟩⟩⟩⟩
    · exact absurd (inspectRootAuthorityBundle_eq_true.mpr (htrusted.trusted bundle hbundle_view))
        hinspect
    · decide
    · decide
    · decide
    · obtain ⟨head,hhead⟩ := hmap hbundle_view
      rcases h with hfailed | ⟨_,-,hdone⟩
      · have hsame := hhead.symm.trans hfailed
        cases hsame
      · cases hdone

/-- What an undenied view holds. -/
theorem bundle_of_allowed {state : EpochRevocationState}
    (h : stateDenial functions configured_target state=.ok ()) :
    ∃ bundle,state.root_bundle=some bundle ∧
      TrustedRootAuthority functions configured_target (inspected bundle) := by
  simp only [stateDenial,bind_eq_ok,require_eq_ok,requireSome_eq_ok,
    inspectRootAuthorityBundle_eq_true] at h
  obtain ⟨⟨⟩,-,⟨⟩,-,⟨⟩,-,bundle,hbundle,⟨⟩,htrusted,-⟩ := h
  exact ⟨bundle,hbundle,htrusted⟩

/-- After an undenied view, building a commit on time is not denied for the stored state. -/
theorem buildCommit_code {state : EpochRevocationState} {request_sha256 : Sha256Digest}
    {committed_at : UtcSecond} {answer : Option SignedEvidenceEventV1}
    {code : EpochRevocationFailureCode}
    (hallowed : stateDenial functions configured_target state=.ok ())
    (htime : ∀ bundle∈state.root_bundle,∀ head,currentEvidenceChainHead functions bundle
      configured_target state.chain_head state.head_evidence=.ok head →
      head.updated_at.1 ≤ committed_at.1)
    (h : buildCommit functions configured_target state request_sha256 committed_at answer=
      .error (.denied code)) : code≠.trustedStateInvalid := by
  obtain ⟨bundle,hbundle,htrusted⟩ := bundle_of_allowed hallowed
  have hraised : ∀ {Value : Type} {computation : Except Raised Value},
      computation.mapError BuildFailure.raised=.error (.denied code) → False := by
    intro Value computation hfailed
    cases computation with
    | ok value => cases hfailed
    | error raised => cases hfailed
  rw [buildCommit] at h
  simp only [bind_eq_error,require_eq_error,requireSome_eq_error,requireSome_eq_ok,require_eq_ok,
    mapError_eq_ok] at h
  rcases h with ⟨hnone,-⟩ | ⟨found,hfound,h⟩
  · rw [hbundle] at hnone
    cases hnone
  · rw [hbundle] at hfound
    obtain rfl := Option.some.inj hfound
    rcases h with ⟨hinspect,-⟩ | ⟨-,-,h⟩
    · exact absurd (inspectRootAuthorityBundle_eq_true.mpr htrusted) hinspect
    rcases h with hfailed | ⟨head,hhead,h⟩
    · exact (hraised hfailed).elim
    rcases h with ⟨hlate,-⟩ | ⟨-,-,h⟩
    · exact absurd (htime bundle hbundle head hhead) hlate
    rcases h with hfailed | ⟨new_epoch,-,h⟩
    · exact (hraised hfailed).elim
    rcases h with hfailed | ⟨replacement,-,h⟩
    · exact (hraised hfailed).elim
    rcases h with hfailed | ⟨event,-,h⟩
    · exact (hraised hfailed).elim
    rcases h with ⟨-,hcode⟩ | ⟨signed,-,h⟩
    · cases hcode
      decide
    rcases h with ⟨-,hcode⟩ | ⟨-,-,h⟩
    · cases hcode
      decide
    rcases h with hfailed | ⟨next_head,-,h⟩
    · exact (hraised hfailed).elim
    rcases h with hfailed | ⟨-,-,h⟩
    · exact (hraised hfailed).elim
    · cases h

/-- Audits are never replaced. -/
def AuditsKept (presented : Identifier → Prop) (before after : Database functions) : Prop :=
  ∀ attempt_id,presented attempt_id → ∀ stored,
    readAttemptAudit before attempt_id=.ok (some stored) →
    readAttemptAudit after attempt_id=.ok (some stored)

/-- The store holds the same of a request while views and commits are the same. -/
theorem Phase.kept (h : Phase request view system)
    (hviews : ∀ attempt_id,readRevocationView configured_target next.database
      (request.attempt attempt_id)=readRevocationView configured_target system.database
        (request.attempt attempt_id))
    (hlanded : next.landed=system.landed) : Phase request view next := by
  cases h with
  | uncommitted hempty hreads hnone =>
    exact .uncommitted hempty (fun attempt_id => (hviews attempt_id).trans (hreads attempt_id))
      (hlanded.trans hnone)
  | committed landing later bundle decided hreads hone hinvocation hrevoked hsubject hholds =>
    exact .committed landing later bundle decided
      (fun attempt_id => (hviews attempt_id).trans (hreads attempt_id)) (hlanded.trans hone)
      hinvocation hrevoked hsubject hholds

/-- A call that goes on to a sound place keeps everything else. -/
theorem Holds.moved (h : Holds request presented strict view system) {index : Nat} {call : Call}
    {stage : Stage} (hpresented : presented attempt_id)
    (hinvocation : call.invocation=request.attempt attempt_id)
    (hstage : SoundStage request strict view system attempt_id stage) :
    Holds request presented strict view (system.moved index call stage) := by
  have hsame : ∀ result,Committed system result → Committed (system.moved index call stage) result :=
    fun _ hresult => hresult
  refine ⟨h.phase.kept (fun _ => rfl) rfl,?_,?_,?_⟩
  · intro other hother
    obtain ⟨audit,haudit,hsound⟩ := h.audits other hother
    refine ⟨audit,haudit,fun stored hstored => ?_⟩
    obtain ⟨hzero,hown,hrecord⟩ := hsound stored hstored
    exact ⟨hzero,hown,hrecord.mono hsame⟩
  · intro write hwrite
    rcases List.mem_append.mp hwrite with hold | hnew
    · exact (h.sent write hold).mono hsame
    · cases stage with
      | committing commits expected commit =>
        rw [Stage.writes,List.mem_singleton] at hnew
        rw [hnew]
        exact ⟨attempt_id,hpresented,hstage⟩
      | recording audit outcome =>
        rw [Stage.writes,List.mem_singleton] at hnew
        rw [hnew]
        refine ⟨?_,hstage.2.1.mono hsame⟩
        rw [hstage.1]
        exact hpresented
      | reading commits => cases hnew
      | building commits state => cases hnew
      | resolving => cases hnew
      | finished outcome => cases hnew
  · intro other found hfound
    by_cases hother : other=index
    · have hcall : (system.moved index call stage).calls other=some {call with stage := stage} := by
        rw [hother]
        exact Function.update_self ..
      rw [hcall] at hfound
      cases hfound
      exact ⟨attempt_id,hpresented,hinvocation,hstage.mono hsame⟩
    · have hcall : (system.moved index call stage).calls other=system.calls other :=
        Function.update_of_ne hother ..
      rw [hcall] at hfound
      obtain ⟨attempt,hattempt,hown,hsound⟩ := h.calls other found hfound
      exact ⟨attempt,hattempt,hown,hsound.mono hsame⟩

/-- What the attempts read once an audit of one of them is created. -/
theorem audits_of_created {audit : EpochRevocationAuditV1} {database : Database functions}
    {prepared : PreparedDocument functions revocationAuditFamily}
    (hdistinct : ∀ first second,presented first → presented second →
      epochRevocationAuditDocumentId functions first=
        epochRevocationAuditDocumentId functions second → first=second)
    (h : Holds request presented strict view system)
    (hlanded : ∀ result,Committed system result → Committed next result)
    (hpresented : presented audit.audit_id) (hown : audit.attempt_id=audit.audit_id)
    (hsound : SoundAudit request strict next audit)
    (hprepared : preparedDocument functions revocationAuditFamily audit.audit_id.1 0 audit=
      .ok prepared)
    (hcreate : system.database.revocation_audits.create prepared=.ok database.revocation_audits) :
    AuditsKept presented system.database database ∧
      ∀ attempt_id,presented attempt_id → ∃ audit,readAttemptAudit database attempt_id=.ok audit ∧
        ∀ stored∈audit,stored.revision=0 ∧ stored.value.attempt_id=attempt_id ∧
          SoundAudit request strict next stored.value := by
  have hother : ∀ attempt_id,presented attempt_id → attempt_id≠audit.audit_id →
      readAttemptAudit database attempt_id=readAttemptAudit system.database attempt_id := by
    intro attempt_id hattempt hne
    exact readAttemptAudit_of_create hprepared hcreate
      (fun hsame => hne (hdistinct attempt_id audit.audit_id hattempt hpresented hsame))
  constructor
  · intro attempt_id hattempt stored hread
    by_cases hsame : attempt_id=audit.audit_id
    · rw [hsame] at hread
      exact absurd hread (readAttemptAudit_before_create hprepared hcreate stored)
    · rw [hother attempt_id hattempt hsame]
      exact hread
  · intro attempt_id hattempt
    by_cases hsame : attempt_id=audit.audit_id
    · obtain ⟨stored,hvalue,hzero,hread⟩ := readAttemptAudit_of_created hprepared hcreate
      rw [hsame]
      refine ⟨some stored,hread,?_⟩
      intro found hfound
      cases hfound
      rw [hvalue]
      exact ⟨hzero,hown,hsound⟩
    · obtain ⟨current,hcurrent,hholds⟩ := h.audits attempt_id hattempt
      rw [hother attempt_id hattempt hsame]
      refine ⟨current,hcurrent,?_⟩
      intro stored hstored
      obtain ⟨hzero,hstored_own,hrecord⟩ := hholds stored hstored
      exact ⟨hzero,hstored_own,hrecord.mono hlanded⟩

/-- Recording a sound audit keeps everything else. -/
theorem Holds.recorded {database : Database functions} {audit : EpochRevocationAuditV1}
    (hdistinct : ∀ first second,presented first → presented second →
      epochRevocationAuditDocumentId functions first=
        epochRevocationAuditDocumentId functions second → first=second)
    (h : Holds request presented strict view system) (hpresented : presented audit.attempt_id)
    (hsound : SoundAudit request strict system audit)
    (hrecord : recordEpochRevocationAudit system.database audit=.ok database) :
    AuditsKept presented system.database database ∧
      Holds request presented strict view {system with database := database} := by
  have hown : audit.attempt_id=audit.audit_id := hsound.attempt.audit_id.symm
  have hsame : ∀ result,Committed system result →
      Committed {system with database := database} result := fun _ hresult => hresult
  rcases recordEpochRevocationAudit_eq_ok hrecord with
    ⟨prepared,written,hprepared,hcreate,rfl⟩ | ⟨stored,hread,hvalue,hzero,rfl⟩
  · rw [hown] at hpresented
    have hwritten : system.database.revocation_audits.create prepared=
        .ok ({system.database with revocation_audits := written} : Database functions).revocation_audits :=
      hcreate
    obtain ⟨hkept,haudits⟩ := audits_of_created hdistinct h hsame hpresented hown (hsound.mono hsame)
      hprepared hwritten
    refine ⟨hkept,h.phase.kept (fun _ => rfl) rfl,haudits,?_,?_⟩
    · exact fun write hwrite => (h.sent write hwrite).mono hsame
    · intro index call hcall
      obtain ⟨attempt,hattempt,hinvocation,hstage⟩ := h.calls index call hcall
      exact ⟨attempt,hattempt,hinvocation,hstage.mono hsame⟩
  · exact ⟨fun _ _ _ hfound => hfound,h⟩

theorem result_of_view {database : Database functions} {invocation : EpochRevocationInvocationV1}
    (h : readRevocationView configured_target database invocation=.ok view) :
    database.revocation_results.read (epochRevocationResultDocumentId functions
      (revocationResultId (epochRevocationRequestSha256 functions.sha256 invocation)))
      (revocationResultId (epochRevocationRequestSha256 functions.sha256 invocation)).1=
        .ok view.result := by
  simp only [readRevocationView,bind_eq_ok] at h
  obtain ⟨bundle,_,head,_,evidence,_,request,_,key,_,result,hresult,named,_,h⟩ := h
  cases h
  exact hresult

/-- The commit of a request lands only where none has landed. -/
theorem Phase.open_of_ok (h : Phase request view system) {expected : EpochRevocationState}
    {commit : EpochRevocationCommitV1} {database : Database functions}
    (hinvocation : expected.invocation=request.attempt attempt_id)
    (hcommit : commitEpochRevocation configured_target expected commit system.database=.ok database) :
    view.result=none ∧ system.landed=[] ∧ ∀ attempt_id,
      readRevocationView configured_target system.database (request.attempt attempt_id)=.ok view := by
  cases h with
  | uncommitted hempty hreads hlanded => exact ⟨hempty,hlanded,hreads⟩
  | committed landing later bundle decided hreads hlanded hlanding hrevoked hsubject hholds =>
    -- the result of the request is stored, and a second commit would have to create it
    obtain ⟨stored,hstored,-,-⟩ := hholds.result
    have hread := result_of_view (hreads attempt_id)
    rw [hstored] at hread
    have hfound := Table.find_of_read hread
    obtain ⟨found,-,hnew⟩ := epochRevoked_of_ok hcommit
    have hid := hnew.accepted.result.result_id
    rw [hinvocation] at hid
    have hcreated := hnew.revocation_results.1
    rw [hid] at hcreated
    have hnone := hcreated.symm.trans hfound
    cases hnone

/-- A commit that lands leaves its result, and the audit of its attempt. -/
theorem Holds.landed {expected : EpochRevocationState} {commit : EpochRevocationCommitV1}
    {database : Database functions}
    (hdistinct : ∀ first second,presented first → presented second →
      epochRevocationAuditDocumentId functions first=
        epochRevocationAuditDocumentId functions second → first=second)
    (h : Holds request presented strict view system) (hpresented : presented attempt_id)
    (hdecided : DecidedOn request view functions configured_target attempt_id expected)
    (hcommit : commitEpochRevocation configured_target expected commit system.database=.ok database) :
    AuditsKept presented system.database database ∧
      Holds request presented strict view {system with
        database := database
        landed := ⟨expected,commit,system.database,database,hcommit⟩::system.landed} := by
  have hinvocation : expected.invocation=request.attempt attempt_id := by
    rw [hdecided.decided]
    rfl
  obtain ⟨hempty,hnone,hreads⟩ := h.phase.open_of_ok hinvocation hcommit
  obtain ⟨bundle,hbundle,hrevoked⟩ := epochRevoked_of_ok hcommit
  have hview_bundle : view.root_bundle=some bundle := by
    rw [hdecided.decided] at hbundle
    exact hbundle
  obtain ⟨hbefore,hreplaced⟩ := revocationTargets_of_ok hbundle hcommit
  have htrusted : TrustedRootAuthority functions configured_target (inspected bundle) := by
    obtain ⟨found,hfound,htrusted⟩ := bundle_of_allowed hdecided.allowed
    rw [hbundle] at hfound
    rw [Option.some.inj hfound]
    exact htrusted
  have hread : readRevocationView configured_target system.database expected.invocation=.ok view := by
    rw [hinvocation]
    exact hreads attempt_id
  obtain ⟨later,hlater,hholds⟩ :=
    view_of_revoked hrevoked hbefore hreplaced htrusted hread hview_bundle
  have hsubject := subjectBound_of_ok hbundle hcommit
  obtain ⟨haudit,prepared,hprepared,hcreate⟩ := revocationAudit_of_ok hcommit
  obtain ⟨haudit_id,hown,hsound⟩ := @soundAudit_committed functions configured_target request strict
    {system with
      database := database
      landed := ⟨expected,commit,system.database,database,hcommit⟩::system.landed}
    attempt_id expected commit hinvocation (resultRepeats_of_revoked hrevoked) haudit
    ⟨_,List.mem_cons_self,rfl⟩
  have hlanded : ∀ result,Committed system result → Committed {system with
      database := database
      landed := ⟨expected,commit,system.database,database,hcommit⟩::system.landed} result := by
    rintro result ⟨landing,hlanding,hresult⟩
    exact ⟨landing,List.mem_cons_of_mem _ hlanding,hresult⟩
  rw [← haudit_id] at hpresented
  obtain ⟨hkept,haudits⟩ := audits_of_created hdistinct h hlanded hpresented
    (hown.trans haudit_id.symm) hsound hprepared hcreate
  refine ⟨hkept,?_,haudits,?_,?_⟩
  · refine .committed ⟨expected,commit,system.database,database,hcommit⟩ later bundle attempt_id ?_
      (by rw [hnone]) hinvocation hrevoked hsubject hholds
    intro other
    rw [hinvocation] at hlater
    exact hlater
  · exact fun write hwrite => (h.sent write hwrite).mono hlanded
  · intro index call hcall
    obtain ⟨attempt,hattempt,hcall_invocation,hstage⟩ := h.calls index call hcall
    exact ⟨attempt,hattempt,hcall_invocation,hstage.mono hlanded⟩

/-- What a call does once its audit is stored. -/
theorem Reads.afterRead_answered {record : StoredRecord EpochRevocationAuditV1} {call : Call}
    {commits : Nat} (h : Reads request strict view system attempt_id found (some record) existing)
    (hinvocation : call.invocation=request.attempt attempt_id) :
    afterRead functions configured_target call commits
        (found.reading (request.attempt attempt_id) (some record))=
      .finished (answeredByAudit record.value (request.attempt attempt_id) existing
        (requestSha256 functions request)) := by
  have hexact := h.exact_result
  have hvalidated := h.validated
  unfold requestSha256 at hexact hvalidated ⊢
  have hdigest : epochRevocationRequestSha256 functions.sha256 (request.attempt attempt_id)=
      epochRevocationRequestSha256 functions.sha256
        (request.attempt request.command.request_id) := rfl
  simp only [afterRead,hinvocation,hdigest,hexact,hvalidated,Option.map_some]

/-- A call that has read a sound store goes on to a sound place. -/
theorem Reads.afterRead_sound {call : Call} {commits : Nat}
    (h : Reads request strict view system attempt_id found stored existing)
    (hinvocation : call.invocation=request.attempt attempt_id)
    (hadopt : stored=none → ∀ result,Committed system result →
      result.committed_at.1 ≤ call.recorded_at.1)
    (htrusted : strict → TrustedView functions configured_target view)
    (hread : ∃ database : Database functions,readRevocationView configured_target database
      (request.attempt attempt_id)=.ok view) :
    SoundStage request strict view system attempt_id
      (afterRead functions configured_target call commits
        (found.reading (request.attempt attempt_id) stored)) := by
  cases stored with
  | some record =>
    rw [h.afterRead_answered hinvocation]
    intro result hresult
    have hanswer := h.answered
    rw [hresult] at hanswer
    exact hanswer.2.2
  | none =>
    have hexact := h.exact_result
    have hvalidated := h.validated
    unfold requestSha256 at hexact hvalidated
    have hdigest : epochRevocationRequestSha256 functions.sha256 (request.attempt attempt_id)=
        epochRevocationRequestSha256 functions.sha256
          (request.attempt request.command.request_id) := rfl
    cases existing with
    | some result =>
      obtain ⟨hcommitted,-⟩ := h.present result rfl
      have hrepeats := repeats_of_exactResult h.exact_result
      have htime := hadopt rfl result hcommitted
      simp only [afterRead,hinvocation,hdigest,hexact,hvalidated,Option.map_none]
      exact ⟨rfl,soundAudit_adopted hrepeats hcommitted htime,nofun,rfl,hcommitted⟩
    | none =>
      obtain ⟨hfound,-⟩ := h.absent rfl
      simp only [afterRead,hinvocation,hdigest,hexact,hvalidated,Option.map_none]
      cases commits with
      | zero =>
        intro result hresult
        cases hresult
      | succ left =>
        cases hdenial : stateDenial functions configured_target
            (found.reading (request.attempt attempt_id) none).state with
        | error code =>
          refine ⟨rfl,soundAudit_denied ?_,rfl,rfl⟩
          intro hstrict
          obtain ⟨database,hdatabase⟩ := hread
          rw [hfound] at hdenial
          exact stateDenial_code hdatabase (htrusted hstrict) hdenial
        | ok _ =>
          rw [hfound] at hdenial ⊢
          exact ⟨rfl,hdenial⟩

/-- Whether a step leaves an audit that its attempt accepts: a call that the operator check refuses
finds no audit of its attempt, or one of the same refusal at the same second, and a call that
adopts a result did not start before its commit. -/
def Permitted (policy : RouteAuthenticationPolicy) (request : RevocationRequest)
    (system : System functions configured_target) : Action → Prop
  | .start _ attempt_id token principal now =>
    operatorIsExact policy (request.attempt attempt_id) token principal now=true ∨
    ∀ stored,readAttemptAudit system.database attempt_id=.ok (some stored) →
      stored.value.outcome=.denied ∧ stored.value.failure_code=some .callerDenied ∧
        stored.value.recorded_at=now
  | .read index served => served=true → ∀ call commits,system.calls index=some call →
    call.stage=.reading commits →
    readAttemptAudit system.database call.invocation.attempt_id=.ok none →
    ∀ landing∈system.landed,landing.commit.result.committed_at.1 ≤ call.recorded_at.1
  | _ => True

/-- Whether a call that builds a commit did not start before the time of the current head. -/
def OnTime (view : RevocationView) (system : System functions configured_target) : Action → Prop
  | .build index _ => ∀ call,system.calls index=some call → ∀ bundle∈view.root_bundle,∀ head,
    currentEvidenceChainHead functions bundle configured_target view.chain_head
      view.head_evidence=.ok head → head.updated_at.1 ≤ call.recorded_at.1
  | _ => True

/-- Attempts that a list of steps starts. -/
def Presented (actions : List Action) (attempt_id : Identifier) : Prop :=
  ∃ index token principal now,Action.start index attempt_id token principal now∈actions

variable {policy : RouteAuthenticationPolicy}

theorem startStage_sound {token : OperatorToken} {principal : Option AuthenticationContext}
    {now : UtcSecond} : SoundStage request strict view system attempt_id
      (startStage functions policy (request.attempt attempt_id) token principal now) := by
  unfold startStage
  split
  · trivial
  · exact ⟨rfl,soundAudit_denied (fun _ => nofun),rfl,rfl⟩

/-- A call that reads keeps the store sound. -/
theorem Holds.readStep (h : Holds request presented strict view system) {index : Nat} {call : Call}
    {served : Bool} (hcall : system.calls index=some call)
    (hpermitted : Permitted policy request system (.read index served))
    (htrusted : strict → TrustedView functions configured_target view)
    (hread : ∃ database : Database functions,∀ attempt_id,readRevocationView configured_target
      database (request.attempt attempt_id)=.ok view) :
    Holds request presented strict view (readStep system index call served) := by
  obtain ⟨attempt_id,hpresented,hinvocation,hstage⟩ := h.calls index call hcall
  obtain ⟨found,audit,existing,hreads⟩ := h.reads hpresented
  have hserved := hreads.served
  have hfailed : ∀ code,Holds request presented strict view
      (system.moved index call (.finished (.failed code))) := by
    intro code
    apply h.moved hpresented hinvocation
    intro result hresult
    cases hresult
  unfold RevocationCalls.readStep
  split
  · rename_i commits hreading
    split
    · rename_i htrue
      rw [hinvocation,hserved]
      apply h.moved hpresented hinvocation
      refine hreads.afterRead_sound hinvocation ?_ htrusted ?_
      · rintro rfl result ⟨landing,hlanding,rfl⟩
        have hnone := hreads.audit_read
        have hown : call.invocation.attempt_id=attempt_id := by
          rw [hinvocation]
          rfl
        rw [← hown] at hnone
        exact hpermitted htrue call commits hcall hreading hnone landing hlanding
      · obtain ⟨database,hdatabase⟩ := hread
        exact ⟨database,hdatabase attempt_id⟩
    · exact hfailed _
  · split
    · rw [hinvocation,hserved]
      apply h.moved hpresented hinvocation
      intro result hresult
      have hexact := hreads.exact_result
      have hvalidated := hreads.validated
      unfold requestSha256 at hexact hvalidated
      have hdigest : epochRevocationRequestSha256 functions.sha256 (request.attempt attempt_id)=
          epochRevocationRequestSha256 functions.sha256
            (request.attempt request.command.request_id) := rfl
      simp only [resolved,hinvocation,hdigest,hexact,hvalidated] at hresult
      split at hresult
      · rename_i current recorded hcurrent hrecorded
        split at hresult
        · cases hresult
          exact (hreads.present result (Except.ok.inj hcurrent)).1
        · cases hresult
      · cases hresult
    · exact hfailed _
  · exact h

/-- A call that builds its commit keeps the store sound. -/
theorem Holds.buildStep (h : Holds request presented strict view system) {index : Nat} {call : Call}
    {answer : Option SignedEvidenceEventV1} (hcall : system.calls index=some call)
    (htime : strict → OnTime view system (.build index answer)) :
    Holds request presented strict view (buildStep system index call answer) := by
  obtain ⟨attempt_id,hpresented,hinvocation,hstage⟩ := h.calls index call hcall
  unfold RevocationCalls.buildStep
  split
  · rename_i commits state hbuilding
    rw [hbuilding] at hstage
    apply h.moved hpresented hinvocation
    cases hbuilt : buildCommit functions configured_target state
        (epochRevocationRequestSha256 functions.sha256 call.invocation) call.recorded_at answer with
    | ok commit => exact hstage
    | error failure =>
      cases failure with
      | denied code =>
        rw [hinvocation] at hbuilt
        simp only [afterBuild,hinvocation]
        refine ⟨rfl,soundAudit_denied ?_,rfl,rfl⟩
        intro hstrict
        refine buildCommit_code hstage.allowed ?_ hbuilt
        intro bundle hbundle head hhead
        rw [hstage.decided] at hbundle hhead
        exact htime hstrict call hcall bundle hbundle head hhead
      | raised error =>
        intro result hresult
        cases hresult
  · exact h

/-- A write that lands keeps the store sound, and every audit. -/
theorem Holds.landStep
    (hdistinct : ∀ first second,presented first → presented second →
      epochRevocationAuditDocumentId functions first=
        epochRevocationAuditDocumentId functions second → first=second)
    (h : Holds request presented strict view system) {write : Write}
    (hwrite : SoundWrite request presented strict view system write) :
    AuditsKept presented system.database (landStep system write).database ∧
      Holds request presented strict view (landStep system write) := by
  unfold RevocationCalls.landStep
  split
  · obtain ⟨attempt_id,hpresented,hdecided⟩ := hwrite
    split
    · rename_i database hcommit
      exact h.landed hdistinct hpresented hdecided hcommit
    · exact ⟨fun _ _ _ hfound => hfound,h⟩
  · split
    · rename_i database hrecord
      exact h.recorded hdistinct hwrite.1 hwrite.2 hrecord
    · exact ⟨fun _ _ _ hfound => hfound,h⟩

/-- A call that receives the answer to its commit keeps the store sound. -/
theorem Holds.reportStep (h : Holds request presented strict view system) {index : Nat} {call : Call}
    {report : CommitReport} (hcall : system.calls index=some call) :
    Holds request presented strict view (reportStep system index call report) := by
  obtain ⟨attempt_id,hpresented,hinvocation,hstage⟩ := h.calls index call hcall
  have hfailed : ∀ code,Holds request presented strict view
      (system.moved index call (.finished (.failed code))) := by
    intro code
    apply h.moved hpresented hinvocation
    intro result hresult
    cases hresult
  unfold RevocationCalls.reportStep
  split
  · split
    · split
      · rename_i hlanded
        apply h.moved hpresented hinvocation
        intro result hresult
        cases hresult
        obtain ⟨landing,hlanding,hsame,-⟩ := hlanded
        exact ⟨landing,hlanding,hsame⟩
      · exact h
    · exact h.moved hpresented hinvocation trivial
    · exact h.moved hpresented hinvocation trivial
    · exact hfailed _
    · exact hfailed _
  · exact h

/-- A call that receives the answer to its audit keeps the store sound, and every audit. -/
theorem Holds.recordStep
    (hdistinct : ∀ first second,presented first → presented second →
      epochRevocationAuditDocumentId functions first=
        epochRevocationAuditDocumentId functions second → first=second)
    (h : Holds request presented strict view system) {index : Nat} {call : Call} {served : Bool}
    (hcall : system.calls index=some call) :
    AuditsKept presented system.database (recordStep system index call served).database ∧
      Holds request presented strict view (recordStep system index call served) := by
  obtain ⟨attempt_id,hpresented,hinvocation,hstage⟩ := h.calls index call hcall
  have hfailed : ∀ code,Holds request presented strict view
      (system.moved index call (.finished (.failed code))) := by
    intro code
    apply h.moved hpresented hinvocation
    intro result hresult
    cases hresult
  unfold RevocationCalls.recordStep
  split
  · rename_i audit outcome hrecording
    rw [hrecording] at hstage
    obtain ⟨hown,hsound,hanswer⟩ := hstage
    split
    · split
      · rename_i database hrecord
        have hattempt := hpresented
        rw [← hown] at hattempt
        obtain ⟨hkept,hholds⟩ := h.recorded hdistinct hattempt hsound hrecord
        refine ⟨hkept,hholds.moved hpresented hinvocation ?_⟩
        intro result hresult
        rw [hresult] at hanswer
        exact hanswer.2.2
      · exact ⟨fun _ _ _ hfound => hfound,hfailed _⟩
    · exact ⟨fun _ _ _ hfound => hfound,hfailed _⟩
  · exact ⟨fun _ _ _ hfound => hfound,h⟩

/-- A step of a call that only moves the call. -/
def Moves (system next : System functions configured_target) (index : Nat) (call : Call) : Prop :=
  next=system ∨ ∃ stage,next=system.moved index call stage

/-- Moving a call leaves the stores as they are. -/
theorem Moves.database {index : Nat} {call : Call} (h : Moves system next index call) :
    next.database=system.database := by
  rcases h with rfl | ⟨stage,rfl⟩
  · rfl
  · rfl

theorem readStep_moves {index : Nat} {call : Call} {served : Bool} :
    Moves system (RevocationCalls.readStep system index call served) index call := by
  unfold RevocationCalls.readStep
  split
  · split
    · split
      · exact .inr ⟨_,rfl⟩
      · exact .inr ⟨_,rfl⟩
    · exact .inr ⟨_,rfl⟩
  · split
    · split
      · exact .inr ⟨_,rfl⟩
      · exact .inr ⟨_,rfl⟩
    · exact .inr ⟨_,rfl⟩
  · exact .inl rfl

theorem buildStep_moves {index : Nat} {call : Call} {answer : Option SignedEvidenceEventV1} :
    Moves system (RevocationCalls.buildStep system index call answer) index call := by
  unfold RevocationCalls.buildStep
  split
  · exact .inr ⟨_,rfl⟩
  · exact .inl rfl

/-- A call that receives the answer to its commit only moves. -/
theorem reportStep_moves {index : Nat} {call : Call} {report : CommitReport} :
    Moves system (RevocationCalls.reportStep system index call report) index call := by
  unfold RevocationCalls.reportStep
  split
  · split
    · split
      · exact .inr ⟨_,rfl⟩
      · exact .inl rfl
    · exact .inr ⟨_,rfl⟩
    · exact .inr ⟨_,rfl⟩
    · exact .inr ⟨_,rfl⟩
    · exact .inr ⟨_,rfl⟩
  · exact .inl rfl

/-- Every permitted step keeps the store sound, and every audit. -/
theorem Holds.step
    (hdistinct : ∀ first second,presented first → presented second →
      epochRevocationAuditDocumentId functions first=
        epochRevocationAuditDocumentId functions second → first=second)
    (h : Holds request presented strict view system) {action : Action}
    (hpresented : ∀ attempt_id,Presented [action] attempt_id → presented attempt_id)
    (hpermitted : Permitted policy request system action)
    (htrusted : strict → TrustedView functions configured_target view ∧ OnTime view system action)
    (hread : ∃ database : Database functions,∀ attempt_id,readRevocationView configured_target
      database (request.attempt attempt_id)=.ok view) :
    AuditsKept presented system.database (step policy request system action).database ∧
      Holds request presented strict view (step policy request system action) := by
  have hsame : AuditsKept presented system.database system.database := fun _ _ _ hfound => hfound
  cases action with
  | start index attempt_id token principal now =>
    simp only [RevocationCalls.step]
    split
    · exact ⟨hsame,h⟩
    · have hattempt : presented attempt_id :=
        hpresented attempt_id ⟨index,token,principal,now,List.mem_singleton_self _⟩
      exact ⟨hsame,h.moved hattempt rfl startStage_sound⟩
  | read index served =>
    simp only [RevocationCalls.step,System.ofCall]
    cases hcall : system.calls index with
    | none => exact ⟨hsame,h⟩
    | some call =>
      refine ⟨?_,h.readStep hcall hpermitted (fun hstrict => (htrusted hstrict).1) hread⟩
      rw [readStep_moves.database]
      exact hsame
  | build index answer =>
    simp only [RevocationCalls.step,System.ofCall]
    cases hcall : system.calls index with
    | none => exact ⟨hsame,h⟩
    | some call =>
      refine ⟨?_,h.buildStep hcall (fun hstrict => (htrusted hstrict).2)⟩
      rw [buildStep_moves.database]
      exact hsame
  | land position =>
    simp only [RevocationCalls.step]
    cases hwrite : system.sent[position]? with
    | none => exact ⟨hsame,h⟩
    | some write => exact h.landStep hdistinct (h.sent write (List.mem_of_getElem? hwrite))
  | report index report =>
    simp only [RevocationCalls.step,System.ofCall]
    cases hcall : system.calls index with
    | none => exact ⟨hsame,h⟩
    | some call =>
      refine ⟨?_,h.reportStep hcall⟩
      rw [reportStep_moves.database]
      exact hsame
  | record index served =>
    simp only [RevocationCalls.step,System.ofCall]
    cases hcall : system.calls index with
    | none => exact ⟨hsame,h⟩
    | some call => exact h.recordStep hdistinct hcall

theorem landStep_landed {write : Write} {landing : Landing functions configured_target}
    (h : landing∈system.landed) : landing∈(RevocationCalls.landStep system write).landed := by
  unfold RevocationCalls.landStep
  split
  · split
    · exact List.mem_cons_of_mem _ h
    · exact h
  · split
    · exact h
    · exact h

/-- An audit that is stored is recorded again without a change. -/
theorem record_of_read {database : Database functions}
    {stored : StoredRecord EpochRevocationAuditV1}
    (hread : readAttemptAudit database attempt_id=.ok (some stored)) (hzero : stored.revision=0)
    (hown : stored.value.audit_id=attempt_id) :
    recordEpochRevocationAudit database stored.value=.ok database := by
  obtain ⟨place,document,hplace,hdocument,hlogical,hstored⟩ :=
    Table.find_eq_some.mp (Table.find_of_read hread)
  have hmade : StoredRecord.make stored.value 0=(.ok stored : Except Raised _) := by
    cases stored with
    | mk value revision bound =>
      cases hzero
      rfl
  have haccepted : revocationAuditFamily.validate attempt_id.1 stored=.ok () := by
    have hvalid := document.accepted
    rw [hlogical,hstored] at hvalid
    exact hvalid
  obtain ⟨prepared,hprepared,hprepared_place⟩ : ∃ prepared : PreparedDocument functions
      revocationAuditFamily,preparedDocument functions revocationAuditFamily attempt_id.1 0
        stored.value=.ok prepared ∧ prepared.document_id=place := by
    rw [preparedDocument,bind_of_ok hmade]
    split
    · rename_i document_id _ hdocument_id
      rw [hplace] at hdocument_id
      exact ⟨_,rfl,(Except.ok.inj hdocument_id).symm⟩
    · rename_i raised hraised
      rw [haccepted] at hraised
      cases hraised
    · rename_i raised hraised _
      rw [hplace] at hraised
      cases hraised
  have hoccupied : ∃ error,database.revocation_audits.create prepared=.error error := by
    unfold Table.create
    rw [hprepared_place,hdocument]
    exact ⟨.conflict,rfl⟩
  obtain ⟨error,herror⟩ := hoccupied
  rw [recordEpochRevocationAudit,hown,bind_of_ok (mapError_eq_ok.mpr hprepared)]
  simp only [herror]
  rw [bind_of_ok hread,check_bind_eq_ok,require_eq_ok]
  exact ⟨⟨stored,rfl,rfl,hzero⟩,rfl⟩

end

end ControlGraph.RevocationAttempts
