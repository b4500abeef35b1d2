import ControlGraph.DispatchRules
import ControlGraph.RecoveryReceiptLocators

/-!
# How a receipt comes to name an operation

The operation of a receipt is the provider's word, and the epoch beside it the
one that the final gate read before it asked. Both are written by the delivery
that dispatched, in the first replacement of its own claim. Every other write
of a delivery repeats them. This is checked for each part of the coordinator,
as the rules of a dispatch are.
-/

namespace ControlGraph.NamedOperations

open Checks ContractText StorageIdentity ReceiptContracts ReceiptStore ExecutionRequests
  ExecutionGate ReceiptExecution WaitingPrograms DispatchRules RecoveryReceiptLocators
open ReceiptResolution hiding persistAttempts persistOrRead

/-- A provider call of a history returned an operation. -/
def Reported (history : History) (operation : BoundedText) : Prop :=
  ∃ permit result,Event.returned (Operation.mutate permit)
    (some result : Option ReceiptMutationResult)∈history ∧
      result.provider_operation=some operation

/-- A delivery that created a claim replaces it by a result that the provider reported, under
the epoch of the claim. -/
structure Observes (history : History) (expected : StoredRecord ExecutionReceipt)
    (operation : BoundedText) (replacement : ExecutionReceipt) : Prop where
  reported : Reported history operation
  created : ∃ claim,Created history claim expected
  epoch : replacement.observed_authority_epoch=some expected.value.epoch
  /-- The root of the claim names its digest. -/
  bound : RootBound expected.value.root_id expected.value.root_sha256

/-- An operation that a replacement names is repeated or was observed. -/
def MayName (history : History) (expected : StoredRecord ExecutionReceipt)
    (replacement : ExecutionReceipt) : Prop :=
  ∀ operation,replacement.provider_operation=some operation →
    (expected.value.provider_operation=some operation ∧
      replacement.observed_authority_epoch=expected.value.observed_authority_epoch) ∨
    Observes history expected operation replacement

/-- The writes that a delivery may make after a history. -/
def mayWrite {target : TargetBinding} (delivery : Delivery target) (history : History) :
    Operation → Prop
  | .claimOrAdoptReceipt claim _ => claim.root_id=delivery.verified.request.intent.root_id ∧
    claim.root_sha256=delivery.verified.request.intent.root_sha256
  | .compareAndSetReceipt expected replacement => MayName history expected replacement
  | _ => True

def writingRules {target : TargetBinding} (delivery : Delivery target) :
    Monitor Operation Operation.Result (Option UtcSecond) History :=
  Monitor.recording (mayWrite delivery)

section

variable {functions : ContractFunctions} {target : TargetBinding} {verified : VerifiedMutation}

/-- An epoch that agrees with a verified mutation belongs to a root that names its digest. -/
theorem bound_of_coherent {snapshot : Option RootAuthorityBundle} {epoch : PositiveSafeInteger}
    (h : coherentAuthorityEpoch functions target verified snapshot=some epoch) :
    RootBound verified.request.intent.root_id verified.request.intent.root_sha256 := by
  cases snapshot with
  | none => cases h
  | some bundle =>
    have hcoherent : (inspectRootAuthorityBundle functions target bundle>>=fun state =>
        if coherentAuthority target verified state then some state.authority.current_epoch
        else none)=some epoch := h
    obtain ⟨state,hstate,hepoch⟩ := Option.bind_eq_some_iff.mp hcoherent
    have hagrees : coherentAuthority target verified state := by
      by_contra hnot
      rw [if_neg hnot] at hepoch
      cases hepoch
    obtain ⟨-,-,-,-,hroot,hdigest,-⟩ := hagrees
    unfold inspectRootAuthorityBundle at hstate
    split at hstate
    · rename_i hbundle
      obtain ⟨-,-,-,-,-,hbound,-⟩ := hbundle
      rw [← Option.some.inj hstate] at hroot hdigest
      rw [RootBound,← hroot,← hdigest]
      exact hbound
    · cases hstate

/-- The last check finds no denial only at the epoch of the intent. -/
theorem epoch_of_finalAuthorityDenial {gate : FinalMutationGate}
    {snapshot : Option RootAuthorityBundle} {now_second : Int}
    (h : finalAuthorityDenial functions gate verified snapshot now_second=.ok ()) :
    coherentAuthorityEpoch functions gate.target verified snapshot=
      some verified.request.intent.epoch := by
  rw [finalAuthorityDenial,bind_eq_ok] at h
  obtain ⟨bundle,-,h⟩ := h
  rw [bind_eq_ok] at h
  obtain ⟨state,-,h⟩ := h
  rw [check_bind_eq_ok,bind_eq_ok] at h
  obtain ⟨-,epoch,hepoch,h⟩ := h
  rw [check_bind_eq_ok,require_eq_ok] at h
  rw [requireSome_eq_ok.mp hepoch,h.1]

/-- What a dispatch leaves behind: the epoch of the intent, a root that names its digest, and
a report of the provider. -/
def Dispatched (verified : VerifiedMutation)
    (gated : Except Raised (FinalAuthorityDenial⊕FinalMutationResult)) (history : History) : Prop :=
  ∀ mutated,gated=.ok (.inr mutated) →
    mutated.observed_authority_epoch=verified.request.intent.epoch ∧
    RootBound verified.request.intent.root_id verified.request.intent.root_sha256 ∧
    ∀ operation,mutated.result.provider_operation=some operation → Reported history operation

theorem dispatched_error {raised : Raised} {history : History} :
    Dispatched verified (.error raised) history := by
  intro mutated hmutated
  cases hmutated

theorem dispatched_denial {denial : FinalAuthorityDenial} {history : History} :
    Dispatched verified (.ok (.inl denial)) history := by
  intro mutated hmutated
  cases hmutated

/-- A receipt carries the epoch and the root of a verified mutation. -/
structure Carries (verified : VerifiedMutation) (receipt : ExecutionReceipt) : Prop where
  epoch : receipt.epoch=verified.request.intent.epoch
  root : receipt.root_id=verified.request.intent.root_id
  digest : receipt.root_sha256=verified.request.intent.root_sha256

/-- A receipt that is adopted for a verified mutation carries its epoch and its root. -/
theorem carries_of_validAdopted {expected_state : TargetConfigurationProjection}
    {binding : MutationBinding} {stored : StoredRecord ExecutionReceipt}
    (hwork : expectedWork functions verified=.ok (expected_state,binding))
    (h : validAdopted functions binding verified stored=true) : Carries verified stored.value := by
  rw [expectedWork,bind_eq_ok] at hwork
  obtain ⟨state,-,hwork⟩ := hwork
  rw [bind_eq_ok] at hwork
  obtain ⟨made,hmade,hwork⟩ := hwork
  rw [mutationBinding,bind_eq_ok] at hmade
  obtain ⟨poststate,-,hmade⟩ := hmade
  have hbinding : made=binding := congrArg Prod.snd (Except.ok.inj hwork)
  rw [← Except.ok.inj hmade] at hbinding
  rw [validAdopted,validAdoptedReceipt] at h
  split at h
  · cases h
  · rename_i hvalid
    rw [not_or,not_or,not_not,not_not,not_not] at hvalid
    obtain ⟨-,-,hroot,hdigest,hepoch,-⟩ := hvalid.2.2
    rw [← hbinding] at hroot hdigest hepoch
    exact ⟨Subtype.ext hepoch,Subtype.ext hroot,hdigest⟩

theorem mayName_of_none {history : History} {expected : StoredRecord ExecutionReceipt}
    {replacement : ExecutionReceipt} (h : replacement.provider_operation=none) :
    MayName history expected replacement := by
  intro operation hoperation
  rw [h] at hoperation
  cases hoperation

/-- A replacement that repeats operation and epoch may be written. -/
theorem mayName_of_same {history : History} {expected : StoredRecord ExecutionReceipt}
    {replacement : ExecutionReceipt}
    (hoperation : replacement.provider_operation=expected.value.provider_operation)
    (hepoch : replacement.observed_authority_epoch=expected.value.observed_authority_epoch) :
    MayName history expected replacement := by
  intro operation hnamed
  rw [hoperation] at hnamed
  exact .inl ⟨hnamed,hepoch⟩

theorem Reported.mono {history later : History} {operation : BoundedText}
    (h : Reported history operation) (hlater : history⊆later) : Reported later operation := by
  obtain ⟨permit,result,hmem,hresult⟩ := h
  exact ⟨permit,result,hlater hmem,hresult⟩

theorem MayName.mono {history later : History} {expected : StoredRecord ExecutionReceipt}
    {replacement : ExecutionReceipt} (h : MayName history expected replacement)
    (hlater : history⊆later) : MayName later expected replacement := by
  intro operation hoperation
  rcases h operation hoperation with hsame | hobserved
  · exact .inl hsame
  · obtain ⟨claim,hcreated⟩ := hobserved.created
    exact .inr ⟨hobserved.reported.mono hlater,⟨claim,hcreated.mono hlater⟩,hobserved.epoch,
      hobserved.bound⟩

/-- The receipt of what the gate returned or raised may be written over the created claim. -/
theorem mayName_gatedReceipt {history : History} {receipt : StoredRecord ExecutionReceipt}
    {gated : Except Raised (FinalAuthorityDenial⊕FinalMutationResult)} {now : UtcSecond}
    {replacement : ExecutionReceipt} (hcarries : Carries verified receipt.value)
    (hcreated : ∃ claim,Created history claim receipt)
    (hgated : Dispatched verified gated history)
    (h : gatedReceipt receipt gated now=.ok replacement) :
    MayName history receipt replacement := by
  cases gated with
  | error raised =>
    have hmade := makeReceipt_eq_ok h
    refine mayName_of_none ?_
    rw [hmade]
    rfl
  | ok outcome =>
    cases outcome with
    | inl denial =>
      have hmade := makeReceipt_eq_ok h
      refine mayName_of_none (operation_of_refused (.inr (.inl ?_)))
      rw [hmade]
    | inr mutated =>
      have hmade := makeReceipt_eq_ok h
      obtain ⟨hepoch,hbound,hreported⟩ := hgated mutated rfl
      intro operation hoperation
      rw [hmade] at hoperation
      refine .inr ⟨hreported operation hoperation,hcreated,?_,?_⟩
      · rw [hmade,hcarries.epoch,← hepoch]
      · rw [hcarries.root,hcarries.digest]
        exact hbound

end

section

variable {functions : ContractFunctions} {target : TargetBinding} {delivery : Delivery target}
  {expected_state : TargetConfigurationProjection} {binding : MutationBinding}
  {verified : VerifiedMutation} {history : History}

theorem writes_readClock {post : Except Raised UtcSecond → History → Prop}
    (hnone : post (.error (.valueError "receipt execution clock is invalid"))
      (history++[Event.looked none]))
    (hsome : ∀ now,post (.ok now) (history++[Event.looked (some now)])) :
    readClock.Follows (writingRules delivery) post history := by
  rw [readClock,follows_bind,follows_lookOnce]
  intro reading
  cases reading with
  | none => exact hnone
  | some now => exact hsome now

theorem writes_persistAttempts {expected replacement_record : StoredRecord ExecutionReceipt}
    (attempts : Nat) (history : History)
    (h : MayName history expected replacement_record.value) :
    (persistAttempts functions binding verified expected replacement_record attempts).Follows
      (writingRules delivery) anyEnd history := by
  induction attempts generalizing history with
  | zero => exact trivial
  | succ attempts ih =>
    rw [persistAttempts,follows_bind,follows_call]
    refine ⟨h,?_⟩
    intro committed
    cases committed with
    | ok committed =>
      simp only [seqPost]
      split <;> exact trivial
    | error failed =>
      simp only [seqPost]
      rw [follows_bind,follows_call]
      refine ⟨trivial,?_⟩
      intro current
      cases current with
      | error failed => exact trivial
      | ok current =>
        cases current with
        | none => exact trivial
        | some current =>
          simp only [seqPost]
          split
          · exact trivial
          · split
            · exact trivial
            · refine ih _ (h.mono ?_)
              intro event hmem
              exact List.mem_append_left _ (List.mem_append_left _
                (List.mem_append_left _ (List.mem_append_left _ hmem)))

theorem writes_persistOrRead {expected : StoredRecord ExecutionReceipt}
    {replacement : ExecutionReceipt} (h : MayName history expected replacement) :
    (persistOrRead functions binding verified expected replacement).Follows (writingRules delivery)
      anyEnd history := by
  rw [persistOrRead,follows_bind,follows_lift]
  cases hmade : StoredRecord.make replacement (expected.revision+1) with
  | error raised => exact trivial
  | ok replacement_record =>
    simp only [seqPost]
    split
    · exact trivial
    · rw [← (StoredRecord.make_eq_ok hmade).1] at h
      exact writes_persistAttempts 2 history h

theorem writes_storeReplacement {current : StoredRecord ExecutionReceipt}
    {replacement : ExecutionReceipt} (h : MayName history current replacement) :
    (storeReplacement functions binding verified current replacement).Follows
      (writingRules delivery) anyEnd history := by
  rw [storeReplacement,follows_bind]
  refine (writes_persistOrRead h).mono ?_
  intro result state hstate
  cases result with
  | error raised => exact trivial
  | ok persisted => cases persisted <;> exact trivial

theorem writes_classifyReadback {current : StoredRecord ExecutionReceipt}
    {observation : ReceiptReadbackResult} :
    (classifyReadback functions expected_state binding verified current observation).Follows
      (writingRules delivery) anyEnd history := by
  unfold classifyReadback
  split
  · exact trivial
  · split
    · exact trivial
    · rw [follows_bind,follows_lift]
      cases exactReadback functions expected_state verified current.value observation with
      | error raised => exact trivial
      | ok exact_etag =>
        simp only [seqPost]
        rw [follows_bind]
        refine writes_readClock trivial ?_
        intro now
        cases exact_etag with
        | some observed_etag =>
          simp only [seqPost]
          rw [follows_bind,follows_lift]
          cases hmade : verifiedReadbackReceipt current.value observed_etag now with
          | error raised => exact trivial
          | ok replacement =>
            have hfields := makeReceipt_eq_ok hmade
            refine writes_storeReplacement (mayName_of_same ?_ ?_)
            · rw [hfields]
            · rw [hfields]
        | none =>
          simp only [seqPost]
          rw [follows_bind,follows_lift]
          cases hmade : ambiguousReadbackReceipt current.value observation now with
          | error raised => exact trivial
          | ok replacement =>
            simp only [seqPost]
            split
            · exact trivial
            · have hfields := makeReceipt_eq_ok hmade
              refine writes_storeReplacement (mayName_of_same ?_ ?_)
              · rw [hfields]
              · rw [hfields]

theorem writes_readbackOnly {stored : StoredRecord ExecutionReceipt} :
    (readbackOnly functions expected_state binding verified stored).Follows
      (writingRules delivery) anyEnd history := by
  rw [readbackOnly,follows_bind,follows_call]
  refine ⟨trivial,?_⟩
  intro observed
  simp only [seqPost]
  split
  · rw [follows_bind]
    refine writes_readClock trivial ?_
    intro now
    simp only [seqPost]
    rw [follows_bind,follows_lift]
    cases hmade : ambiguousReadbackReceipt stored.value (observed.getD ⟨none,none⟩) now with
    | error raised => exact trivial
    | ok ambiguous =>
      simp only [seqPost]
      rw [follows_bind]
      have hfields := makeReceipt_eq_ok hmade
      refine (writes_persistOrRead (mayName_of_same ?_ ?_)).mono ?_
      · rw [hfields]
      · rw [hfields]
      · intro result state hstate
        cases result with
        | error raised => exact trivial
        | ok persisted =>
          cases persisted with
          | none => exact trivial
          | some persisted => exact writes_classifyReadback
  · exact writes_classifyReadback

/-- Handling an existing receipt repeats operation and epoch. -/
theorem writes_handleExisting {stored : StoredRecord ExecutionReceipt} :
    (handleExisting functions expected_state binding verified stored).Follows
      (writingRules delivery) anyEnd history := by
  unfold handleExisting
  split
  · exact trivial
  · split
    · rw [follows_bind]
      refine writes_readClock trivial ?_
      intro now
      simp only [seqPost]
      rw [follows_bind,follows_lift]
      cases orphanRecoveryAt stored.value with
      | error raised => exact trivial
      | ok orphan_recovery_at =>
        simp only [seqPost]
        split
        · exact trivial
        · exact writes_readbackOnly
    · exact writes_readbackOnly

/-- Persisting the result of the gate writes what the gate left behind. -/
theorem writes_persistGated {receipt : StoredRecord ExecutionReceipt}
    {gated : Except Raised (FinalAuthorityDenial⊕FinalMutationResult)}
    (hcarries : Carries verified receipt.value) (hcreated : ∃ claim,Created history claim receipt)
    (hgated : Dispatched verified gated history) :
    (persistGated functions expected_state binding verified receipt gated).Follows
      (writingRules delivery) anyEnd history := by
  rw [persistGated,follows_bind]
  refine writes_readClock trivial ?_
  intro now
  simp only [seqPost]
  rw [follows_bind,follows_lift]
  cases hmade : gatedReceipt receipt gated now with
  | error raised => exact trivial
  | ok replacement =>
    simp only [seqPost]
    rw [follows_bind]
    have hname := mayName_gatedReceipt hcarries hcreated hgated hmade
    refine (writes_persistOrRead (hname.mono (List.subset_append_left _ _))).mono ?_
    intro result state hstate
    cases result with
    | error raised => exact trivial
    | ok persisted =>
      cases persisted with
      | none => exact trivial
      | some persisted =>
        simp only [seqPost]
        split
        · exact writes_handleExisting
        · rw [handleAfterProvider]
          split
          · exact writes_readbackOnly
          · exact writes_handleExisting

/-- Classifying a stored receipt repeats operation and epoch. -/
theorem writes_adoptStored {absent invalid : ReasonCode} :
    (adoptStored functions expected_state binding verified absent invalid).Follows
      (writingRules delivery) anyEnd history := by
  rw [adoptStored,follows_bind,follows_call]
  refine ⟨trivial,?_⟩
  intro found
  cases found with
  | error failed => exact trivial
  | ok found =>
    cases found with
    | none => exact trivial
    | some stored =>
      simp only [seqPost]
      split
      · exact trivial
      · exact writes_handleExisting

/-- The last check and the dispatch write nothing, and leave a dispatch behind. -/
theorem writes_checkAndDispatch {gate : FinalMutationGate} {lease : ReceiptDispatchLease functions}
    {snapshot : Option RootAuthorityBundle} :
    (checkAndDispatch functions gate lease verified snapshot).Follows (writingRules delivery)
      (Dispatched verified) history := by
  rw [checkAndDispatch,follows_bind,follows_lookOnce]
  intro reading
  cases reading with
  | none => exact dispatched_denial
  | some now =>
    simp only [seqPost]
    cases hdenial : finalAuthorityDenial functions gate verified snapshot now.1 with
    | error denial => exact dispatched_denial
    | ok checked =>
      have hepoch := epoch_of_finalAuthorityDenial hdenial
      have hbound := bound_of_coherent hepoch
      rw [hepoch]
      simp only
      rw [follows_bind,follows_lift]
      cases lease.authorize verified gate.target gate.service_role with
      | error raised => exact dispatched_error
      | ok permit =>
        simp only [seqPost]
        rw [dispatchPermit,follows_bind,follows_call]
        refine ⟨trivial,?_⟩
        intro result
        cases result with
        | none => exact dispatched_error
        | some result =>
          intro mutated hmutated
          cases hmutated
          refine ⟨rfl,hbound,?_⟩
          intro operation hoperation
          exact ⟨permit,result,List.mem_append_right _ List.mem_cons_self,hoperation⟩

/-- The gate writes nothing, and leaves a dispatch behind where it mutated. -/
theorem writes_gate {gate : FinalMutationGate} {lease : ReceiptDispatchLease functions} :
    (gate.execute functions lease verified).Follows (writingRules delivery) (Dispatched verified)
      history := by
  have hsource : ∀ state : History,
      (revalidatePromotionSourceReceipt functions gate verified).Follows (writingRules delivery)
        anyEnd state := by
    intro state
    unfold revalidatePromotionSourceReceipt
    split
    · exact trivial
    · split
      · exact trivial
      · rw [follows_bind,follows_call]
        refine ⟨trivial,?_⟩
        intro found
        cases found with
        | error failed => exact trivial
        | ok found =>
          cases found with
          | none => exact trivial
          | some source =>
            simp only [seqPost]
            split <;> exact trivial
  unfold FinalMutationGate.execute
  split
  · exact dispatched_denial
  · split
    · exact dispatched_denial
    · rw [prepareAndDispatch,follows_bind,follows_call]
      refine ⟨trivial,?_⟩
      intro prepared
      cases prepared with
      | none => exact dispatched_denial
      | some prepared =>
        simp only [seqPost]
        split
        · exact dispatched_denial
        · rw [follows_bind]
          refine (hsource _).mono ?_
          intro denial state hstate
          cases denial with
          | error raised => exact dispatched_error
          | ok denial =>
            cases denial with
            | some receipt_denial => exact dispatched_denial
            | none =>
              simp only [seqPost]
              rw [readAuthorityAndDispatch,follows_bind,follows_call]
              refine ⟨trivial,?_⟩
              intro found
              cases found with
              | error failed => exact dispatched_denial
              | ok snapshot => exact writes_checkAndDispatch

/-- Claiming and dispatching writes the claim of the intent and what the gate left behind. -/
theorem writes_claimAndDispatch {now : UtcSecond}
    (hwork : expectedWork functions delivery.verified=.ok (expected_state,binding)) :
    (claimAndDispatch functions expected_state binding delivery.verified delivery.gate now).Follows
      (writingRules delivery) anyEnd history := by
  rw [claimAndDispatch,follows_bind,follows_lift]
  cases hclaimed : claimedReceipt functions delivery.verified binding now with
  | error raised => exact trivial
  | ok claimed =>
    have hfields := makeReceipt_eq_ok hclaimed
    simp only [seqPost]
    rw [follows_bind,follows_call]
    refine ⟨⟨by rw [hfields],by rw [hfields]⟩,?_⟩
    intro result
    cases result with
    | error failed => exact trivial
    | ok claim =>
      cases claim with
      | conflict => exact trivial
      | adopted receipt =>
        simp only [seqPost]
        split
        · exact trivial
        · exact writes_handleExisting
      | created receipt direct_create =>
        simp only [seqPost]
        split
        · exact trivial
        · rename_i hvalid
          have hcarries := carries_of_validAdopted hwork (Bool.of_not_eq_false hvalid)
          rw [dispatchClaim,follows_bind,follows_lift]
          cases mint functions direct_create with
          | error raised => exact trivial
          | ok lease =>
            simp only [seqPost]
            rw [follows_bind,follows_attempt]
            refine writes_gate.grows.mono ?_
            intro gated state hgated
            refine writes_persistGated hcarries ⟨claimed,binding,direct_create,?_⟩ hgated.2
            exact hgated.1.subset (List.mem_append_right _ List.mem_cons_self)

/-- Every delivery follows the rules of its writes. -/
theorem writes_launch (delivery : Delivery target) :
    (launch functions delivery).Follows (writingRules delivery) anyEnd [] := by
  unfold launch
  split
  · unfold recoverOrphaned
    split
    · exact trivial
    · exact writes_adoptStored
  · unfold execute
    split
    · exact trivial
    · rename_i expected_state binding hwork
      rw [follows_bind]
      refine writes_readClock trivial ?_
      intro now
      simp only [seqPost]
      rw [follows_bind,follows_lift]
      cases addSeconds now receiptNewClaimRecoveryWindowSeconds with
      | error raised => exact trivial
      | ok window_end =>
        simp only [seqPost]
        split
        · exact writes_adoptStored
        · exact writes_claimAndDispatch hwork

end

end ControlGraph.NamedOperations
