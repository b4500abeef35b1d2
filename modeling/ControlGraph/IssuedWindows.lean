import ControlGraph.CapabilityIssuance
import ControlGraph.OrphanGrace
import ControlGraph.PromotionExits
import ControlGraph.ReceiptExecution
import ControlGraph.RecoveryCoordination

/-!
# Whether an issued mutation can still be claimed

The issuer leaves a margin between the schedule and the end of a capability, the
seal of its task leaves another for recoveries, and the executor makes a new
claim only while more than its own recovery window is left. The margin of a
recovery covers that window. The margin of a promotion does not, and a canary
has no margin but its lifetime: such a task is sealed and is never claimed.
-/

namespace ControlGraph.IssuedWindows

open Checks ContractText WaitingPrograms CapabilityContracts CapabilityIssuance ExecutionRequests ExecutionGate
  ReceiptExecution TaskAddressing

open ReceiptContracts (TargetBinding ReasonCode)

open RecoveryCoordination (taskSource)

/-- The three requests that an issuer answers. -/
inductive IssuanceCall
  | canary (request : CapabilityIssuanceRequest)
  | promotion (request : PromotionCapabilityIssuanceRequestV2)
  | recovery (request : RecoveryCapabilityIssuanceCommandV2)

/-- Answer a request. -/
def issueCapability (configuration : CapabilityIssuerConfiguration) (functions : IssuerFunctions)
    (call : IssuanceCall) (now : UtcSecond) (answers : IssuanceAnswers) :
    Except IssuanceFailure CapabilityContracts.SignedCapability :=
  match call with
  | .canary request => issue configuration functions request now answers
  | .promotion request => issuePromotion configuration functions request now answers
  | .recovery request => issueRecovery configuration functions request now answers

/-- When the task of a request is due. -/
def IssuanceCall.scheduledAt (call : IssuanceCall) (now : UtcSecond) : UtcSecond :=
  match call with
  | .canary _ => now
  | .promotion request => request.scheduled_at
  | .recovery request => request.scheduled_at

/-- Kind of the protected request. -/
def IssuanceCall.kind : IssuanceCall → RequestKind
  | .canary _ => .task
  | .promotion request => .promotion {
    expected_prestate_sha256 := request.authorization.expected_prestate_sha256
    desired_poststate_sha256 := request.authorization.desired_poststate_sha256
    proof_valid_until := request.authorization.proof_valid_until
    apply_idempotency_key := request.authorization.verified_apply_receipt.idempotency_key
    apply_epoch := request.authorization.epoch }
  | .recovery request => .recovery {
    expected_prestate_sha256 := request.authorization.expected_prestate_sha256
    desired_poststate_sha256 := request.authorization.desired_poststate_sha256
    proof_valid_until := request.authorization.proof_valid_until
    apply_idempotency_key := request.authorization.verified_apply_receipt.idempotency_key
    apply_epoch := request.authorization.verified_apply_receipt.epoch }
    (taskSource request.authorization.source)

/-- The mutation of issued claims. A promotion and a recovery take theirs from the
authorization that the claims were issued for. -/
def IssuanceCall.intent (call : IssuanceCall) (claims : CapabilityClaims) : MutationIntent :=
  match call with
  | .canary _ => {
    request_id := claims.request_id
    idempotency_key := claims.idempotency_key
    target := claims.target
    root_id := claims.root_id
    root_sha256 := claims.root_sha256
    epoch := claims.epoch
    action := claims.action
    stable_revision := claims.stable_revision
    candidate_revision := claims.candidate_revision
    stable_percent := claims.stable_percent
    candidate_percent := claims.candidate_percent
    concurrency := claims.concurrency
    plan_sha256 := claims.plan_sha256
    provider_etag := claims.provider_etag }
  | .promotion request => {
    request_id := request.authorization.request_id
    idempotency_key := request.authorization.idempotency_key
    target := request.authorization.target
    root_id := request.authorization.root_id
    root_sha256 := request.authorization.root_sha256
    epoch := request.authorization.epoch
    action := .promoteCandidate
    stable_revision := request.authorization.stable_revision
    candidate_revision := request.authorization.candidate_revision
    stable_percent := 0
    candidate_percent := 100
    concurrency := none
    plan_sha256 := request.authorization.plan_sha256
    provider_etag := request.authorization.provider_etag }
  | .recovery request => {
    request_id := request.authorization.request_id
    idempotency_key := request.authorization.idempotency_key
    target := request.authorization.target
    root_id := request.authorization.root_id
    root_sha256 := request.authorization.root_sha256
    epoch := request.authorization.epoch
    action := .recoverStable
    stable_revision := request.authorization.stable_revision
    candidate_revision := request.authorization.candidate_revision
    stable_percent := 100
    candidate_percent := 0
    concurrency := some request.authorization.concurrency
    plan_sha256 := request.authorization.plan_sha256
    provider_etag := request.authorization.current_provider_etag }

/-- The task of an issued capability. Its window is the window of the claims. -/
def IssuanceCall.task (call : IssuanceCall)
    (capability : CapabilityContracts.SignedCapability) : ProtectedMutationRequest where
  kind := call.kind
  handler_audience := capability.claims.audience
  scheduled_at := capability.claims.not_before
  expires_at := capability.claims.expires_at
  capability := {
    audience := capability.claims.audience
    not_before := capability.claims.not_before
    expires_at := capability.claims.expires_at
    claims_sha256 := capability.claims_sha256
    others := capability.signature }
  intent := call.intent capability.claims
  others := "task-"++capability.claims_sha256.1

/-- What the seal reads of a task. -/
def addressable (functions : ContractFunctions) (task : ProtectedMutationRequest) :
    AddressableTaskRequest where
  action := task.intent.action
  target := task.intent.target
  handler_audience := task.handler_audience
  scheduled_at := task.scheduled_at
  expires_at := task.expires_at
  sha256 := functions.requestSha256 task

/-- What the handler of a sealed task receives. -/
def delivered (addressed : AddressedTask) (task : ProtectedMutationRequest) :
    ProtectedMutationRequest :=
  {task with
    handler_audience := addressed.audience
    scheduled_at := addressed.scheduled_for
    expires_at := addressed.expires_at}

/-- The executor makes a new claim for a request at a second. -/
def CreatesClaim (request : ProtectedMutationRequest) (second : UtcSecond) : Prop :=
  ∃ window_end,addSeconds second receiptNewClaimRecoveryWindowSeconds=.ok window_end ∧
    window_end.1 < request.expires_at.1

/-- The windows of a request are open at a second. -/
structure WindowsAdmit (request : ProtectedMutationRequest) (second : UtcSecond) : Prop where
  begun : request.capability.not_before.1 ≤ second.1 ∧ request.scheduled_at.1 ≤ second.1
  /-- The windows have not ended. -/
  unexpired : second.1 < request.capability.expires_at.1 ∧ second.1 < request.expires_at.1
  proof : ∀ work∈request.kind.work,second.1<work.proof_valid_until.1

/-- More than the recovery window of a new claim is left between the schedule and every end
that the issuer takes: the lifetime, and the proof or the parent. -/
def LeavesClaimWindow (configuration : CapabilityIssuerConfiguration) (call : IssuanceCall)
    (answers : IssuanceAnswers) (now : UtcSecond) : Prop :=
  match call with
  | .canary request => receiptNewClaimRecoveryWindowSeconds<configuration.lifetime_seconds ∧
    (request.parent_capability_id≠none → ∀ lineage parent,answers.lineage=.ok lineage →
      lineage.getLast?=some parent →
        now.1+receiptNewClaimRecoveryWindowSeconds<parent.claims.expires_at.1)
  | .promotion request =>
    request.scheduled_at.1+receiptNewClaimRecoveryWindowSeconds<
        now.1+configuration.lifetime_seconds ∧
      request.scheduled_at.1+receiptNewClaimRecoveryWindowSeconds<
        request.authorization.proof_valid_until.1
  | .recovery _ => True

section

variable {functions : ContractFunctions} {gate : FinalMutationGate} {verified : VerifiedMutation}
  {second : UtcSecond}

end

section

variable {configuration : CapabilityIssuerConfiguration} {functions : IssuerFunctions}
  {now : UtcSecond} {answers : IssuanceAnswers} {capability : CapabilityContracts.SignedCapability}

/-- The window of a capability that was issued for a subject. -/
structure Window (configuration : CapabilityIssuerConfiguration) (subject : IssuanceSubject)
    (claims : CapabilityClaims) : Prop where
  /-- It starts where the subject says. -/
  not_before : claims.not_before=subject.not_before
  expires_at : claims.expires_at.1=
    configuredExpiry configuration subject.issued_at.1 subject.latest_end

theorem buildClaims_window {state : TrustedIssuanceState} {subject : IssuanceSubject}
    {expires_at : UtcSecond} {claims : CapabilityClaims}
    (h : buildClaims configuration functions state subject expires_at=.ok claims) :
    claims.not_before=subject.not_before ∧ claims.expires_at=expires_at := by
  rw [buildClaims,bind_eq_ok] at h
  obtain ⟨audience,-,h⟩ := h
  rw [bind_eq_ok] at h
  obtain ⟨issuer,-,h⟩ := h
  rw [bind_eq_ok] at h
  obtain ⟨bearer,-,h⟩ := h
  have hclaims := Except.ok.inj h
  rw [← hclaims]
  exact ⟨rfl,rfl⟩

/-- A timestamp has the number of seconds that it is made of. -/
theorem utcSecondOf_eq_ok {seconds : Int} {time : UtcSecond} (h : utcSecondOf seconds=.ok time) :
    time.1=seconds := by
  unfold utcSecondOf at h
  split at h
  · have htime := Except.ok.inj h
    rw [← htime]
  · cases h

theorem issueTrusted_window {state : TrustedIssuanceState} {subject : IssuanceSubject}
    {lineage : List CapabilityContracts.SignedCapability}
    (h : issueTrusted configuration functions state subject lineage=.ok capability) :
    Window configuration subject capability.claims := by
  rw [issueTrusted,check_bind_eq_ok] at h
  have h := h.2
  rw [bind_eq_ok] at h
  obtain ⟨expires_at,hexpires,h⟩ := h
  rw [bind_eq_ok] at h
  obtain ⟨claims,hclaims,h⟩ := h
  rw [check_bind_eq_ok] at h
  have h := h.2
  rw [bind_eq_ok] at h
  obtain ⟨attenuated,-,h⟩ := h
  rw [check_bind_eq_ok] at h
  have h := h.2
  rw [bind_eq_ok] at h
  obtain ⟨signature,-,h⟩ := h
  rw [check_bind_eq_ok] at h
  have hcapability := Except.ok.inj h.2
  have hbuilt := buildClaims_window hclaims
  have hseconds : expires_at.1=
      configuredExpiry configuration subject.issued_at.1 subject.latest_end :=
    utcSecondOf_eq_ok (mapError_eq_ok.mp hexpires)
  rw [← hcapability]
  exact ⟨hbuilt.1,by rw [hbuilt.2,hseconds]⟩

/-- The last step of an issue leaves the capability as it is. -/
theorem confirmed_capability {envelope : CapabilityContracts.SignedCapability}
    {condition : Prop} [Decidable condition]
    (h : (demand condition .trustedStateInvalid>>=fun _ => Except.ok envelope)=
      (.ok capability : Except IssuanceFailure CapabilityContracts.SignedCapability)) :
    envelope=capability := by
  rw [check_bind_eq_ok] at h
  exact Except.ok.inj h.2

theorem validateParentLineage_eq_ok {state : TrustedIssuanceState}
    {lineage : List CapabilityContracts.SignedCapability} {issued_second : Int}
    {parent : Option (Sha256Digest×UtcSecond)}
    (h : validateParentLineage configuration functions state lineage issued_second=.ok parent) :
    parent=lineage.getLast?.map
      (fun parent => (parent.claims_sha256,parent.claims.expires_at)) := by
  rw [validateParentLineage,check_bind_eq_ok,check_bind_eq_ok] at h
  exact (Except.ok.inj h.2.2).symm

/-- The lineage of a request is empty without a parent, and the resolved one with one. -/
theorem resolveLineage_eq_ok {parent : Option Identifier}
    {answer : Except CapabilityIssuanceErrorCode (List CapabilityContracts.SignedCapability)}
    {lineage : List CapabilityContracts.SignedCapability}
    (h : resolveLineage parent answer=.ok lineage) :
    (parent=none ∧ lineage=[]) ∨ (parent≠none ∧ answer=.ok lineage ∧ lineage≠[]) := by
  cases parent with
  | none => exact .inl ⟨rfl,(Except.ok.inj h).symm⟩
  | some parent =>
    rw [resolveLineage,bind_eq_ok] at h
    obtain ⟨resolved,hresolved,h⟩ := h
    rw [check_bind_eq_ok] at h
    have hsame : resolved=lineage := Except.ok.inj h.2
    have hadmitted := h.1
    rw [demand,require_eq_ok,hsame] at hadmitted
    rw [answered,mapError_eq_ok,hsame] at hresolved
    exact .inr ⟨nofun,hresolved,hadmitted.1⟩

/-- An issued canary starts at its issue and ends with its lifetime or with its parent. -/
theorem issue_window {request : CapabilityIssuanceRequest}
    (h : issue configuration functions request now answers=.ok capability) :
    ∃ lineage,((request.parent_capability_id=none ∧ lineage=[]) ∨
        (request.parent_capability_id≠none ∧ answers.lineage=.ok lineage ∧ lineage≠[])) ∧
      capability.claims.not_before=now ∧
      capability.claims.expires_at.1=configuredExpiry configuration now.1
        (lineage.getLast?.map (fun parent => parent.claims.expires_at)) := by
  rw [issue,check_bind_eq_ok] at h
  have h := h.2
  rw [bind_eq_ok] at h
  obtain ⟨state,-,h⟩ := h
  rw [check_bind_eq_ok] at h
  have h := h.2
  rw [bind_eq_ok] at h
  obtain ⟨lineage,hlineage,h⟩ := h
  rw [bind_eq_ok] at h
  obtain ⟨parent,hparent,h⟩ := h
  rw [bind_eq_ok] at h
  obtain ⟨envelope,henvelope,h⟩ := h
  rw [bind_eq_ok] at h
  obtain ⟨confirmed,-,h⟩ := h
  rw [check_bind_eq_ok] at h
  have hsame : envelope=capability := confirmed_capability h.2
  have hwindow := issueTrusted_window henvelope
  have hlast := validateParentLineage_eq_ok hparent
  rw [hsame] at hwindow
  have hend := hwindow.expires_at
  rw [hlast,Option.map_map] at hend
  exact ⟨lineage,resolveLineage_eq_ok hlineage,hwindow.not_before,hend⟩

/-- An issued promotion starts at its schedule and ends with its lifetime or with its proof. -/
theorem issuePromotion_window {request : PromotionCapabilityIssuanceRequestV2}
    (h : issuePromotion configuration functions request now answers=.ok capability) :
    now.1 ≤ request.scheduled_at.1 ∧ capability.claims.not_before=request.scheduled_at ∧
      capability.claims.expires_at.1=configuredExpiry configuration now.1
        (some request.authorization.proof_valid_until) := by
  rw [issuePromotion,check_bind_eq_ok] at h
  have h := h.2
  rw [check_bind_eq_ok,demand,require_eq_ok] at h
  have hscheduled := h.1.1
  have h := h.2
  rw [bind_eq_ok] at h
  obtain ⟨state,-,h⟩ := h
  rw [check_bind_eq_ok] at h
  have h := h.2
  rw [bind_eq_ok] at h
  obtain ⟨sources,-,h⟩ := h
  rw [bind_eq_ok] at h
  obtain ⟨envelope,henvelope,h⟩ := h
  rw [bind_eq_ok] at h
  obtain ⟨confirmed,-,h⟩ := h
  rw [check_bind_eq_ok] at h
  have h := h.2
  rw [bind_eq_ok] at h
  obtain ⟨confirmed_sources,-,h⟩ := h
  have hsame : envelope=capability := confirmed_capability h
  have hwindow := issueTrusted_window henvelope
  rw [hsame] at hwindow
  exact ⟨hscheduled,hwindow.not_before,hwindow.expires_at⟩

/-- An issued recovery starts at its schedule and leaves its margin after it. -/
theorem issueRecovery_window {request : RecoveryCapabilityIssuanceCommandV2}
    (h : issueRecovery configuration functions request now answers=.ok capability) :
    now.1 ≤ request.scheduled_at.1 ∧ capability.claims.not_before=request.scheduled_at ∧
      capability.claims.expires_at.1=configuredExpiry configuration request.issued_at.1
        (some request.authorization.proof_valid_until) ∧
      request.scheduled_at.1+minRecoveryExecutionMarginSeconds ≤
        capability.claims.expires_at.1 := by
  rw [issueRecovery,check_bind_eq_ok] at h
  have h := h.2
  rw [check_bind_eq_ok,demand,require_eq_ok] at h
  have hscheduled := h.1.2.1
  have hmargin := h.1.2.2.1
  have h := h.2
  rw [bind_eq_ok] at h
  obtain ⟨state,-,h⟩ := h
  rw [check_bind_eq_ok] at h
  have h := h.2
  rw [bind_eq_ok] at h
  obtain ⟨sources,-,h⟩ := h
  rw [bind_eq_ok] at h
  obtain ⟨envelope,henvelope,h⟩ := h
  rw [bind_eq_ok] at h
  obtain ⟨confirmed,-,h⟩ := h
  rw [check_bind_eq_ok] at h
  have h := h.2
  rw [bind_eq_ok] at h
  obtain ⟨confirmed_sources,-,h⟩ := h
  rw [check_bind_eq_ok] at h
  have hsame : envelope=capability := confirmed_capability h.2
  have hwindow := issueTrusted_window henvelope
  rw [hsame] at hwindow
  have hend : capability.claims.expires_at.1=configuredExpiry configuration request.issued_at.1
      (some request.authorization.proof_valid_until) := hwindow.expires_at
  exact ⟨hscheduled,hwindow.not_before,hend,by omega⟩

/-- Where a task begins, it can be claimed exactly when more than the recovery window of a new
claim is left. -/
theorem claimable_iff {request : ProtectedMutationRequest} {start : UtcSecond}
    (hstart : request.scheduled_at=start ∧ request.capability.not_before=start)
    (hend : request.capability.expires_at=request.expires_at)
    (hproof : ∀ work∈request.kind.work,request.expires_at.1 ≤ work.proof_valid_until.1) :
    (∃ second : UtcSecond,start.1 ≤ second.1 ∧ CreatesClaim request second ∧
        WindowsAdmit request second) ↔
      start.1+receiptNewClaimRecoveryWindowSeconds < request.expires_at.1 := by
  have hwindow : receiptNewClaimRecoveryWindowSeconds=70 := rfl
  constructor
  · rintro ⟨second,hlater,⟨window_end,hsum,hopen⟩,-⟩
    have hseconds : window_end.1=second.1+receiptNewClaimRecoveryWindowSeconds :=
      MonitoringIngestion.addSeconds_eq_ok hsum
    omega
  · intro hleft
    have hlow := start.2.1
    have hhigh := request.expires_at.2.2
    have hbounds : -62135596800 ≤ start.1+receiptNewClaimRecoveryWindowSeconds ∧
        start.1+receiptNewClaimRecoveryWindowSeconds≤253402300799 := by omega
    have hsum : addSeconds start receiptNewClaimRecoveryWindowSeconds=
        .ok ⟨start.1+receiptNewClaimRecoveryWindowSeconds,hbounds⟩ := dif_pos hbounds
    have hopen : start.1 < request.expires_at.1 := by omega
    have hcreates : CreatesClaim request start := ⟨_,hsum,hleft⟩
    refine ⟨start,le_refl _,hcreates,?_,?_,?_⟩
    · rw [hstart.1,hstart.2]
      exact ⟨le_refl _,le_refl _⟩
    · rw [hend]
      exact ⟨hopen,hopen⟩
    · intro work hwork
      have hlate := hproof work hwork
      omega

/-- What an issued capability and the seal of its task fix about the window. -/
theorem issued_window {call : IssuanceCall}
    (h : issueCapability configuration functions call now answers=.ok capability) :
    capability.claims.not_before=call.scheduledAt now ∧ now.1 ≤ (call.scheduledAt now).1 ∧
      (∀ work∈call.kind.work,capability.claims.expires_at.1 ≤ work.proof_valid_until.1) ∧
      ((call.scheduledAt now).1+receiptNewClaimRecoveryWindowSeconds<
          capability.claims.expires_at.1 ↔
        LeavesClaimWindow configuration call answers now) := by
  have hrecovery : receiptNewClaimRecoveryWindowSeconds < minRecoveryExecutionMarginSeconds := by
    have hwindow : receiptNewClaimRecoveryWindowSeconds=70 := rfl
    rw [hwindow,minRecoveryExecutionMarginSeconds]
    omega
  cases call with
  | canary request =>
    obtain ⟨lineage,hlineage,hstart,hend⟩ := issue_window h
    have hwork : ∀ work∈(IssuanceCall.canary request).kind.work,
        capability.claims.expires_at.1 ≤ work.proof_valid_until.1 := by
      intro work hwork
      cases hwork
    refine ⟨hstart,le_refl _,hwork,?_⟩
    rw [hend]
    rcases hlineage with ⟨hnone,hempty⟩ | ⟨hparent,hresolved,hnonempty⟩
    · rw [hempty]
      simp only [LeavesClaimWindow,hnone,IssuanceCall.scheduledAt,configuredExpiry,
        List.getLast?_nil,Option.map_none,ne_eq,not_true_eq_false,false_implies,and_true]
      omega
    · have hlast : lineage.getLast?=some (lineage.getLast hnonempty) :=
        List.getLast?_eq_some_getLast hnonempty
      have hleaves : LeavesClaimWindow configuration (.canary request) answers now ↔
          receiptNewClaimRecoveryWindowSeconds<configuration.lifetime_seconds ∧
            now.1+receiptNewClaimRecoveryWindowSeconds<
              (lineage.getLast hnonempty).claims.expires_at.1 := by
        refine and_congr_right fun _ => ⟨fun h => h hparent lineage _ hresolved hlast,?_⟩
        intro hleft _ other parent hother hparent
        have hsame : lineage=other := Except.ok.inj (hresolved.symm.trans hother)
        rw [← hsame,hlast] at hparent
        have hparent : lineage.getLast hnonempty=parent := Option.some.inj hparent
        rw [← hparent]
        exact hleft
      rw [hleaves,hlast]
      have hmin : configuredExpiry configuration now.1
          ((some (lineage.getLast hnonempty)).map (fun parent => parent.claims.expires_at))=
          min (now.1+configuration.lifetime_seconds)
            (lineage.getLast hnonempty).claims.expires_at.1 := rfl
      have hscheduled : (IssuanceCall.canary request).scheduledAt now=now := rfl
      rw [hmin,hscheduled,lt_min_iff,add_lt_add_iff_left]
  | promotion request =>
    obtain ⟨hscheduled,hstart,hend⟩ := issuePromotion_window h
    have hmin : capability.claims.expires_at.1=min (now.1+configuration.lifetime_seconds)
        request.authorization.proof_valid_until.1 := hend
    refine ⟨hstart,hscheduled,?_,?_⟩
    · intro work hwork
      have hsame : _=work := Option.some.inj hwork
      rw [← hsame]
      have hlate := min_le_right (now.1+configuration.lifetime_seconds)
        request.authorization.proof_valid_until.1
      exact hmin ▸ hlate
    · rw [hmin]
      exact lt_min_iff
  | recovery request =>
    obtain ⟨hscheduled,hstart,hend,hmargin⟩ := issueRecovery_window h
    have hmin : capability.claims.expires_at.1=
        min (request.issued_at.1+configuration.lifetime_seconds)
          request.authorization.proof_valid_until.1 := hend
    refine ⟨hstart,hscheduled,?_,?_⟩
    · intro work hwork
      have hsame : _=work := Option.some.inj hwork
      rw [← hsame]
      have hlate := min_le_right (request.issued_at.1+configuration.lifetime_seconds)
        request.authorization.proof_valid_until.1
      exact hmin ▸ hlate
    · have hschedule : (IssuanceCall.recovery request).scheduledAt now=request.scheduled_at := rfl
      rw [hschedule]
      exact iff_of_true (by omega) trivial

/-- A task that was issued and sealed can be claimed at some second of its windows exactly when
more than the recovery window of a new claim is left between its schedule and each of its ends. -/
theorem issued_claimable_iff (settings : TaskDeliverySettings)
    (contracts : ContractFunctions) (functions : IssuerFunctions)
    (configuration : CapabilityIssuerConfiguration) (call : IssuanceCall) (now : UtcSecond)
    (answers : IssuanceAnswers) {capability : CapabilityContracts.SignedCapability}
    {addressed : AddressedTask}
    (hissued : issueCapability configuration functions call now answers=.ok capability)
    (hsealed : sealTask settings (addressable contracts (call.task capability)) now=
      .ok addressed) :
    (∃ second : UtcSecond,max (call.scheduledAt now).1 now.1 ≤ second.1 ∧
        CreatesClaim (delivered addressed (call.task capability)) second ∧
        WindowsAdmit (delivered addressed (call.task capability)) second) ↔
      LeavesClaimWindow configuration call answers now := by
  obtain ⟨hstart,hscheduled,hproof,hwindow⟩ := issued_window hissued
  have haddressed := (sealTask_eq_ok.mp hsealed).2
  have hmax : max (call.scheduledAt now).1 now.1=(call.scheduledAt now).1 := max_eq_left hscheduled
  have hbegins : (delivered addressed (call.task capability)).scheduled_at=call.scheduledAt now := by
    rw [haddressed]
    exact hstart
  have hends : (delivered addressed (call.task capability)).expires_at=
      capability.claims.expires_at := by
    rw [haddressed]
    rfl
  rw [hmax,claimable_iff ⟨hbegins,hstart⟩ hends.symm (by rw [hends]; exact hproof),hends]
  exact hwindow

end

/-- A promotion that is due fifty seconds before its proof ends. -/
def lateAuthorization : PromotionContracts.PromotionAuthorizationV1 :=
  {PromotionExits.sampleAuthorization with scheduled_at := ⟨1700000250,by omega⟩}

theorem lateAuthorization_accepted : PromotionContracts.validateAuthorization
    PromotionExits.sampleFunctions lateAuthorization=.ok () := by
  have hsample := PromotionExits.sampleAuthorization_accepted
  rw [PromotionContracts.validateAuthorization] at hsample ⊢
  simp only [check_bind_eq_ok,require_eq_ok] at hsample ⊢
  obtain ⟨hconcurrency,hlocator,hproof,hroot,hpoststate,hbound,hidentity⟩ := hsample
  have hlate : PromotionContracts.AuthorizationProofBound PromotionExits.sampleFunctions
      lateAuthorization :=
    {hbound with
      issued := by decide
      window := by decide}
  exact ⟨hconcurrency,hlocator,hproof,{hroot with},hpoststate,hlate,hidentity⟩

def lateRequest : PromotionCapabilityIssuanceRequestV2 where
  root_id := lateAuthorization.root_id
  expected_root_sha256 := lateAuthorization.root_sha256
  expected_epoch := lateAuthorization.epoch
  request_id := lateAuthorization.request_id
  idempotency_key := lateAuthorization.idempotency_key
  scheduled_at := lateAuthorization.scheduled_at
  verified_apply_receipt := lateAuthorization.verified_apply_receipt
  authorization := lateAuthorization
  authorized := ⟨rfl,rfl,rfl,rfl,rfl,rfl,rfl⟩

/-- An issuer with the default lifetime. -/
def lateConfiguration : CapabilityIssuerConfiguration where
  target := lateAuthorization.target
  handler_audience := lateAuthorization.executor_audience
  lifetime_seconds := defaultCapabilityLifetimeSeconds
  recovery_handler_audience := none
  lifetime_bound := by decide

/-- A signer that signs everything with one text. -/
def lateFunctions : IssuerFunctions where
  key_version := lateAuthorization.capability_signing_key_version
  capability_id := fun _ => lateAuthorization.capability_id
  claims_sha256 := fun _ => StorageIdentity.zeroSha256
  attenuates := fun _ _ _ => .ok true
  lineage_allowed := fun _ _ => true
  sign := fun _ => .ok "signature"
  recovery_result_valid := fun _ _ => true

def lateState : TrustedIssuanceState where
  root_id := lateAuthorization.root_id
  root_sha256 := lateAuthorization.root_sha256
  target := lateAuthorization.target
  stable_revision := lateAuthorization.stable_revision
  candidate_revision := lateAuthorization.candidate_revision
  plan_sha256 := lateAuthorization.plan_sha256
  stable_provider_etag := lateAuthorization.provider_etag
  approved_at := EvidenceIntegrity.sampleTime
  bounds := {
    issuer_identity := lateConfiguration.issuerIdentity
    executor_identity := lateConfiguration.subjectIdentity
    executor_audience := lateConfiguration.handler_audience
    recovery_identity := lateConfiguration.recoverySubjectIdentity
    recovery_audience := "https://controlgraph-recovery.test"
    concurrency := 1
    maximum_capability_lifetime_seconds := maxCapabilityLifetimeSeconds
    capability_signing_key_version := lateFunctions.key_version
    apply_canary :=
      ⟨lateConfiguration.subjectIdentity,lateConfiguration.handler_audience,90,10⟩
    promote_candidate :=
      ⟨lateConfiguration.subjectIdentity,lateConfiguration.handler_audience,0,100⟩
    recover_stable :=
      ⟨lateConfiguration.recoverySubjectIdentity,"https://controlgraph-recovery.test",100,0⟩ }
  claim_status := .active
  claimed_at := EvidenceIntegrity.sampleTime
  current_epoch := lateAuthorization.epoch
  authority_changed_at := EvidenceIntegrity.sampleTime
  others := "root"

/-- What the issuer reads for it. -/
def lateAnswers : IssuanceAnswers where
  principal := some lateConfiguration.authorizedCallerIdentity
  state := .ok (some lateState)
  confirmed_state := .ok (some lateState)
  lineage := .ok []
  sources := .ok (lateAuthorization.provider_etag,"sources")
  confirmed_sources := .ok (lateAuthorization.provider_etag,"sources")

def lateCapability : CapabilityContracts.SignedCapability :=
  {PromotionExits.sampleCapability with
    claims := {PromotionExits.sampleCapability.claims with
      not_before := lateAuthorization.scheduled_at}}

theorem late_trusted : readTrustedState lateConfiguration lateFunctions lateRequest.root_id
    EvidenceIntegrity.sampleTime.1 (.ok (some lateState))=.ok lateState := by
  have hbounds : boundsMatch lateConfiguration lateFunctions lateState.bounds :=
    ⟨rfl,rfl,rfl,rfl,rfl,rfl,rfl,rfl,by decide⟩
  have hstable : namesForbiddenResource lateState.stable_revision.1=false := by decide +kernel
  have hcandidate : namesForbiddenResource lateState.candidate_revision.1=false := by
    decide +kernel
  have hadmitted : lateState.root_id=lateRequest.root_id ∧ lateState.claim_status=.active ∧
      boundsMatch lateConfiguration lateFunctions lateState.bounds ∧
      namesForbiddenResource lateState.stable_revision.1=false ∧
      namesForbiddenResource lateState.candidate_revision.1=false ∧
      lateState.approved_at.1 ≤ EvidenceIntegrity.sampleTime.1 ∧
      lateState.claimed_at.1 ≤ EvidenceIntegrity.sampleTime.1 ∧
      lateState.authority_changed_at.1 ≤ EvidenceIntegrity.sampleTime.1 :=
    ⟨rfl,rfl,hbounds,hstable,hcandidate,le_refl _,le_refl _,le_refl _⟩
  rw [readTrustedState,bind_eq_ok]
  refine ⟨some lateState,rfl,bind_eq_ok.mpr ⟨lateState,rfl,check_bind_eq_ok.mpr ⟨?_,rfl⟩⟩⟩
  exact require_of hadmitted

theorem late_built : buildClaims lateConfiguration lateFunctions lateState {
    action := .promoteCandidate
    request_id := lateRequest.request_id
    idempotency_key := lateRequest.idempotency_key
    provider_etag := lateAuthorization.provider_etag
    issued_at := EvidenceIntegrity.sampleTime
    not_before := lateRequest.scheduled_at
    capability_id := some lateAuthorization.capability_id
    latest_end := some lateAuthorization.proof_valid_until
    parent_digest := none } PromotionExits.sampleEnd=.ok lateCapability.claims := by
  have hissuer : boundedText lateConfiguration.issuerIdentity=
      .ok PromotionExits.sampleAuthorization.issuer_identity :=
    dif_pos PromotionExits.sampleAuthorization.issuer_identity.2
  have hbearer : boundedText lateConfiguration.subjectIdentity=
      .ok PromotionExits.sampleAuthorization.executor_identity :=
    dif_pos PromotionExits.sampleAuthorization.executor_identity.2
  have hissuer : (boundedText lateConfiguration.issuerIdentity).mapError IssuanceFailure.raised=
      .ok PromotionExits.sampleAuthorization.issuer_identity := mapError_eq_ok.mpr hissuer
  have hbearer : (boundedText lateConfiguration.subjectIdentity).mapError IssuanceFailure.raised=
      .ok PromotionExits.sampleAuthorization.executor_identity := mapError_eq_ok.mpr hbearer
  have haudience : requireSome (some lateConfiguration.handler_audience)
      (IssuanceFailure.denied .trustedStateInvalid)=.ok lateConfiguration.handler_audience := rfl
  rw [buildClaims]
  exact bind_eq_ok.mpr ⟨_,haudience,bind_eq_ok.mpr ⟨_,hissuer,bind_eq_ok.mpr ⟨_,hbearer,rfl⟩⟩⟩

theorem late_issued : issueCapability lateConfiguration lateFunctions (.promotion lateRequest)
    EvidenceIntegrity.sampleTime lateAnswers=.ok lateCapability := by
  have hclaims : validateClaims lateCapability.claims=.ok () := by
    refine (bind_of_ok (require_of ⟨by decide,by decide,nofun⟩)).trans ?_
    refine (bind_of_ok (require_of (by decide))).trans ?_
    refine (bind_of_ok (require_of rfl)).trans ?_
    exact (bind_of_ok (require_of (by decide))).trans (require_of (by decide))
  have hend : (utcSecondOf (configuredExpiry lateConfiguration EvidenceIntegrity.sampleTime.1
      (some lateAuthorization.proof_valid_until))).mapError IssuanceFailure.raised=
        .ok PromotionExits.sampleEnd := rfl
  have hissued : issueTrusted lateConfiguration lateFunctions lateState {
      action := .promoteCandidate
      request_id := lateRequest.request_id
      idempotency_key := lateRequest.idempotency_key
      provider_etag := lateAuthorization.provider_etag
      issued_at := EvidenceIntegrity.sampleTime
      not_before := lateRequest.scheduled_at
      capability_id := some lateAuthorization.capability_id
      latest_end := some lateAuthorization.proof_valid_until
      parent_digest := none } []=.ok lateCapability := by
    refine (bind_of_ok (require_of (by decide))).trans ?_
    refine (bind_of_ok hend).trans ?_
    refine (bind_of_ok late_built).trans ?_
    refine (bind_of_ok (mapError_eq_ok.mpr hclaims)).trans ?_
    rfl
  have hcaller : authorize lateConfiguration lateAnswers.principal=.ok () :=
    bind_eq_ok.mpr ⟨lateConfiguration.authorizedCallerIdentity,rfl,require_of rfl⟩
  have hmargin : demand _ .validityExhausted=.ok () := require_of
    (show EvidenceIntegrity.sampleTime.1 ≤ lateRequest.scheduled_at.1 ∧
      lateAuthorization.healthy_promotion_proof.issued_at.1 ≤ EvidenceIntegrity.sampleTime.1 ∧
      minPromotionExecutionMarginSeconds ≤
        configuredExpiry lateConfiguration EvidenceIntegrity.sampleTime.1
          (some lateAuthorization.proof_valid_until)-lateRequest.scheduled_at.1 from by decide)
  have hexpected : validateExpectedState lateState lateRequest.expected_root_sha256
      lateRequest.expected_epoch=.ok () := by
    rw [validateExpectedState]
    exact require_of ⟨rfl,rfl⟩
  have hsources : answered lateAnswers.sources=.ok (lateAuthorization.provider_etag,"sources") :=
    rfl
  have hconfirmed : demand (lateState=lateState ∧
      (lateAuthorization.provider_etag,"sources")=(lateAuthorization.provider_etag,"sources"))
      .trustedStateInvalid=.ok () := require_of ⟨rfl,rfl⟩
  refine (bind_of_ok hcaller).trans ?_
  refine (bind_of_ok hmargin).trans ?_
  refine (bind_of_ok late_trusted).trans ?_
  refine (bind_of_ok hexpected).trans ?_
  refine (bind_of_ok hsources).trans ?_
  refine (bind_of_ok hissued).trans ?_
  refine (bind_of_ok late_trusted).trans ?_
  refine (bind_of_ok hexpected).trans ?_
  refine (bind_of_ok hsources).trans ?_
  exact bind_of_ok hconfirmed

/-- The deployment that seals its task. -/
def lateSettings : TaskDeliverySettings :=
  ⟨lateAuthorization.target.project_id,lateAuthorization.executor_audience,
    "https://controlgraph-recovery.test"⟩

def lateTask : ProtectedMutationRequest :=
  (IssuanceCall.promotion lateRequest).task lateCapability

theorem late_sealed : sealTask lateSettings (addressable OrphanGrace.sampleFunctions lateTask)
    EvidenceIntegrity.sampleTime=
      .ok (addressedTask lateSettings (addressable OrphanGrace.sampleFunctions lateTask)) := by
  refine sealTask_eq_ok.mpr ⟨⟨⟨rfl,?_⟩,by decide,by decide,by decide,nofun,rfl⟩,rfl⟩
  rfl

/-- A promotion that is due fifty seconds before its proof ends is authorized, issued and sealed,
and at no second of its windows does the executor make a new claim for it. -/
theorem promotion_issued_unclaimable :
    PromotionContracts.validateAuthorization PromotionExits.sampleFunctions
        lateRequest.authorization=.ok () ∧
      issueCapability lateConfiguration lateFunctions (.promotion lateRequest)
        EvidenceIntegrity.sampleTime lateAnswers=.ok lateCapability ∧
      sealTask lateSettings (addressable OrphanGrace.sampleFunctions lateTask)
        EvidenceIntegrity.sampleTime=
          .ok (addressedTask lateSettings (addressable OrphanGrace.sampleFunctions lateTask)) ∧
      ¬∃ second : UtcSecond,
        max lateRequest.scheduled_at.1 EvidenceIntegrity.sampleTime.1 ≤ second.1 ∧
          CreatesClaim (delivered
            (addressedTask lateSettings (addressable OrphanGrace.sampleFunctions lateTask))
            lateTask) second ∧
          WindowsAdmit (delivered
            (addressedTask lateSettings (addressable OrphanGrace.sampleFunctions lateTask))
            lateTask) second := by
  refine ⟨lateAuthorization_accepted,late_issued,late_sealed,?_⟩
  rintro ⟨second,hlater,⟨window_end,hsum,hopen⟩,-⟩
  have hmoved : window_end.1=second.1+receiptNewClaimRecoveryWindowSeconds :=
    MonitoringIngestion.addSeconds_eq_ok hsum
  have hwindow : receiptNewClaimRecoveryWindowSeconds=70 := rfl
  have hdue : (1700000250 : Int) ≤ second.1 := le_trans (le_max_left _ _) hlater
  have hend : window_end.1<(1700000300 : Int) := hopen
  omega

/-- Whether the late promotion can be claimed. -/
theorem issued_claimable_late :
    (∃ second : UtcSecond,
        max ((IssuanceCall.promotion lateRequest).scheduledAt EvidenceIntegrity.sampleTime).1
            EvidenceIntegrity.sampleTime.1 ≤ second.1 ∧
          CreatesClaim (delivered
            (addressedTask lateSettings (addressable OrphanGrace.sampleFunctions lateTask))
            ((IssuanceCall.promotion lateRequest).task lateCapability)) second ∧
          WindowsAdmit (delivered
            (addressedTask lateSettings (addressable OrphanGrace.sampleFunctions lateTask))
            ((IssuanceCall.promotion lateRequest).task lateCapability)) second) ↔
      LeavesClaimWindow lateConfiguration (.promotion lateRequest) lateAnswers
        EvidenceIntegrity.sampleTime :=
  issued_claimable_iff lateSettings OrphanGrace.sampleFunctions lateFunctions lateConfiguration
    (.promotion lateRequest) EvidenceIntegrity.sampleTime lateAnswers late_issued late_sealed

end ControlGraph.IssuedWindows
