import ControlGraph.LabelledRuns
import ControlGraph.RolloutReducer
import ControlGraph.RevocationContracts

/-!
# The replay kernel of one idempotency key

A receipt belongs to one exact mutation binding. It is claimed once, then
denied before dispatch or given the result of the one provider attempt, and
an accepted or uncertain result waits for a readback. Every operation replaces
some fields of the receipt and the shape of the result is checked again, so a
field that is left over from an earlier phase would make a later step raise. A
duplicate delivery is answered from the stored receipt alone.
-/

namespace ControlGraph.ReplayKernel

open Checks ContractText LabelledRuns

open RolloutReducer (DenialReason)

open RevocationContracts (isStripped)

/-- Bounded text without outer whitespace. -/
def isBoundedText (maximum : Nat) (text : String) : Bool :=
  text.length≠0 && isStripped text && text.length≤ maximum

/-- Bounded text of at most so many characters. -/
abbrev TextOf (maximum : Nat) := {text : String // isBoundedText maximum text=true}

/-- Mutations that may receive an execution receipt. -/
inductive MutationAction
  | applyCanary | promoteCandidate | recoverStable
  deriving DecidableEq,Repr

/-- Service coordinates of a mutation. -/
structure MutationTargetKey where
  project_id : TextOf 128
  region : TextOf 64
  environment : TextOf 128
  service_name : TextOf 128
  deriving DecidableEq

/-- Everything that one idempotency key is bound to. -/
structure MutationBinding where
  idempotency_key : TextOf 128
  request_id : TextOf 128
  root_id : TextOf 128
  root_sha256 : Sha256Digest
  epoch : {epoch : Nat // 1 ≤ epoch}
  action : MutationAction
  target : MutationTargetKey
  provider_precondition : TextOf 512
  plan_sha256 : Sha256Digest
  capability_sha256 : Sha256Digest
  payload_sha256 : Sha256Digest
  expected_poststate_sha256 : Sha256Digest
  deriving DecidableEq

/-- Phases of a receipt. -/
inductive ReceiptPhase
  | claimed | readbackRequired | terminal
  deriving DecidableEq,Repr

/-- Outcomes stored with the phase. -/
inductive ReplayReceiptOutcome
  | claimed | denied | applied | verified | failedSafe | ambiguous
  deriving DecidableEq,Repr

/-- Fields of a receipt. -/
structure ReceiptFields where
  binding : MutationBinding
  phase : ReceiptPhase
  outcome : ReplayReceiptOutcome
  /-- Why the mutation was refused or is uncertain. -/
  reason : Option DenialReason := none
  result_sha256 : Option Sha256Digest := none
  readback_attempted : Bool := false
  deriving DecidableEq

/-- Check of the combination of phase, outcome and optional fields. -/
def ReceiptFields.validateShape (receipt : ReceiptFields) : Except Raised Unit :=
  match receipt.phase with
  | .claimed =>
    require (receipt.outcome=.claimed ∧ receipt.reason=none ∧ receipt.result_sha256=none ∧
        receipt.readback_attempted=false)
      (.valueError "claimed receipt shape is invalid")
  | .readbackRequired =>
    if receipt.outcome=.applied then
      require (receipt.reason=none ∧ receipt.result_sha256=none ∧
          receipt.readback_attempted=false)
        (.valueError "applied receipt shape is invalid")
    else
      require (receipt.outcome=.ambiguous ∧ receipt.reason=some .providerOutcomeAmbiguous ∧
          (receipt.result_sha256≠none → receipt.readback_attempted=true))
        (.valueError "readback-required receipt shape is invalid")
  | .terminal =>
    match receipt.outcome with
    | .verified =>
      require (receipt.reason=none ∧ receipt.result_sha256≠none ∧
          receipt.readback_attempted=true)
        (.valueError "verified terminal receipt shape is invalid")
    | .denied | .failedSafe =>
      require (receipt.reason≠none ∧ receipt.result_sha256=none ∧
          receipt.readback_attempted=false)
        (.valueError "failed terminal receipt shape is invalid")
    | .ambiguous =>
      require (receipt.reason=some .providerOutcomeAmbiguous ∧ receipt.readback_attempted=true)
        (.valueError "ambiguous terminal receipt shape is invalid")
    | _ => .error (.valueError "terminal receipt outcome is invalid")

/-- A receipt of a valid shape. -/
structure ReplayReceipt extends ReceiptFields where
  shape : toReceiptFields.validateShape=.ok ()
  deriving DecidableEq

/-- Build a receipt, checking its shape. -/
def ReceiptFields.make (fields : ReceiptFields) : Except Raised ReplayReceipt :=
  match h : fields.validateShape with
  | .ok () => .ok ⟨fields,h⟩
  | .error raised => .error raised

/-- Answers to a delivery. -/
inductive ReplayAction
  | claimNew | returnInProgress | returnStored | denyConflict | requireReadback
  deriving DecidableEq,Repr

/-- Decision about a delivery. -/
structure ReplayDecision where
  action : ReplayAction
  receipt : Option ReplayReceipt
  reason : Option DenialReason

/-- Claim state of a binding. It grants no dispatch. -/
def claimReceipt (binding : MutationBinding) : ReplayReceipt :=
  ⟨{binding := binding,phase := .claimed,outcome := .claimed},rfl⟩

/-- Answer a new claim, an exact duplicate, or another use of the key. -/
def decideReplay (binding : MutationBinding) (stored : Option ReplayReceipt) : ReplayDecision :=
  match stored with
  | none => ⟨.claimNew,some (claimReceipt binding),none⟩
  | some stored =>
    if binding≠stored.binding then ⟨.denyConflict,some stored,some .idempotencyConflict⟩
    else if stored.phase=.terminal then ⟨.returnStored,some stored,stored.reason⟩
    else if stored.phase=.claimed then
      ⟨.returnInProgress,some stored,some .receiptInProgress⟩
    else ⟨.requireReadback,some stored,stored.reason⟩

/-- Record a denial before any provider mutation could occur. -/
def denyBeforeDispatch (receipt : ReplayReceipt) (reason : DenialReason) :
    Except Raised ReplayReceipt := do
  require (receipt.phase=.claimed) (.valueError "denial is only valid before provider dispatch")
  ReceiptFields.make
    {receipt.toReceiptFields with
      phase := .terminal
      outcome := .denied
      reason := some reason}

/-- Signals of the one admitted mutation call. -/
inductive ProviderAttemptResult
  | accepted | preconditionRejected | requestRejected | timeout | connectionLost
  | malformedResponse | unknown
  deriving DecidableEq,Repr

/-- Classify the one provider attempt. -/
def recordProviderResult (receipt : ReplayReceipt) (result : ProviderAttemptResult) :
    Except Raised ReplayReceipt := do
  require (receipt.phase=.claimed)
    (.valueError "provider result requires the directly owned claim")
  match result with
  | .accepted =>
    ReceiptFields.make
      {receipt.toReceiptFields with
        phase := .readbackRequired
        outcome := .applied
        reason := none}
  | .preconditionRejected =>
    ReceiptFields.make
      {receipt.toReceiptFields with
        phase := .terminal
        outcome := .failedSafe
        reason := some .providerPreconditionFailed}
  | .requestRejected =>
    ReceiptFields.make
      {receipt.toReceiptFields with
        phase := .terminal
        outcome := .failedSafe
        reason := some .providerRequestRejected}
  | _ =>
    ReceiptFields.make
      {receipt.toReceiptFields with
        phase := .readbackRequired
        outcome := .ambiguous
        reason := some .providerOutcomeAmbiguous}

/-- Require a text to be a digest, unless there is none. -/
def requireDigest (observed : Option String) : Except Raised (Option Sha256Digest) :=
  match observed with
  | none => .ok none
  | some text =>
    if h : isSha256 text=true then .ok (some ⟨text,h⟩)
    else .error (.valueError "observed_poststate_sha256 must be a lowercase SHA-256 digest")

/-- Adopt success only when the readback matches the expected state. -/
def recordReadback (receipt : ReplayReceipt) (observed_poststate_sha256 : Option String) :
    Except Raised ReplayReceipt := do
  require (receipt.phase=.readbackRequired)
    (.valueError "readback requires provider uncertainty or an accepted result")
  let observed ← requireDigest observed_poststate_sha256
  if observed=some receipt.binding.expected_poststate_sha256 then
    ReceiptFields.make
      {receipt.toReceiptFields with
        phase := .terminal
        outcome := .verified
        reason := none
        result_sha256 := observed
        readback_attempted := true}
  else
    ReceiptFields.make
      {receipt.toReceiptFields with
        phase := .readbackRequired
        outcome := .ambiguous
        reason := some .providerOutcomeAmbiguous
        result_sha256 := observed
        readback_attempted := true}

/-- Close an ambiguity that already had its readback. -/
def closeUnresolvedAmbiguity (receipt : ReplayReceipt) : Except Raised ReplayReceipt := do
  require (receipt.phase=.readbackRequired ∧ receipt.outcome=.ambiguous ∧
      receipt.readback_attempted=true)
    (.valueError "unresolved ambiguity requires a completed readback attempt")
  ReceiptFields.make {receipt.toReceiptFields with phase := .terminal}

/-- Calls on a stored receipt. -/
inductive ReplayCall
  | deny (reason : DenialReason)
  | provider (result : ProviderAttemptResult)
  | readback (observed : Option String)
  | close
  deriving DecidableEq

def ReplayCall.apply (call : ReplayCall) (receipt : ReplayReceipt) : Except Raised ReplayReceipt :=
  match call with
  | .deny reason => denyBeforeDispatch receipt reason
  | .provider result => recordProviderResult receipt result
  | .readback observed => recordReadback receipt observed
  | .close => closeUnresolvedAmbiguity receipt

/-- Whether a call is a denial or a provider result. -/
def ReplayCall.Settles : ReplayCall → Prop
  | .deny _ => True
  | .provider _ => True
  | _ => False

instance : DecidablePred ReplayCall.Settles := fun call =>
  match call with
  | .deny _ => isTrue trivial
  | .provider _ => isTrue trivial
  | .readback _ => isFalse id
  | .close => isFalse id

/-- What a call asks of the receipt and of its argument. -/
def ReplayCall.Precondition (call : ReplayCall) (receipt : ReplayReceipt) : Prop :=
  match call with
  | .deny _ => receipt.phase=.claimed
  | .provider _ => receipt.phase=.claimed
  | .readback observed => receipt.phase=.readbackRequired ∧ ∀ text∈observed,isSha256 text=true
  | .close => receipt.phase=.readbackRequired ∧ receipt.outcome=.ambiguous ∧
      receipt.readback_attempted=true

/-- Receipt after a call. A call that raises leaves it as it was. -/
def step (receipt : ReplayReceipt) (call : ReplayCall) : ReplayReceipt :=
  match call.apply receipt with
  | .ok next => next
  | .error _ => receipt

/-- Receipt of a binding after some calls. -/
def after (binding : MutationBinding) (calls : List ReplayCall) : ReplayReceipt :=
  run step (claimReceipt binding) calls

/-- Calls that were accepted, in order. -/
def accepted (receipt : ReplayReceipt) : List ReplayCall → List ReplayCall
  | [] => []
  | call::calls =>
    match call.apply receipt with
    | .ok next => call::accepted next calls
    | .error _ => accepted receipt calls

/-- A receipt is built exactly when its shape is valid. -/
theorem make_eq_ok {fields : ReceiptFields} {receipt : ReplayReceipt} :
    fields.make=.ok receipt ↔ receipt.toReceiptFields=fields := by
  unfold ReceiptFields.make
  constructor
  · intro h
    split at h
    · cases h
      rfl
    · cases h
  · rintro rfl
    split
    · rfl
    · rename_i raised h
      rw [receipt.shape] at h
      cases h

theorem make_of_shape {fields : ReceiptFields} (h : fields.validateShape=.ok ()) :
    fields.make=.ok ⟨fields,h⟩ := make_eq_ok.mpr rfl

/-- A claimed receipt has nothing but its binding. -/
theorem claimed_shape {receipt : ReplayReceipt} (h : receipt.phase=.claimed) :
    receipt.outcome=.claimed ∧ receipt.reason=none ∧ receipt.result_sha256=none ∧
      receipt.readback_attempted=false := by
  have hshape := receipt.shape
  unfold ReceiptFields.validateShape at hshape
  rw [h] at hshape
  exact require_eq_ok.mp hshape

theorem requireDigest_eq_ok {observed : Option String} {digest : Option Sha256Digest}
    (h : requireDigest observed=.ok digest) : digest.map Subtype.val=observed := by
  cases observed with
  | none =>
    cases h
    rfl
  | some text =>
    simp only [requireDigest] at h
    split at h
    · cases h
      rfl
    · cases h

/-- Digests pass, and so does no text at all. -/
theorem requireDigest_of_valid {observed : Option String}
    (h : ∀ text∈observed,isSha256 text=true) : ∃ digest,requireDigest observed=.ok digest := by
  cases observed with
  | none => exact ⟨none,rfl⟩
  | some text =>
    have hvalid : isSha256 text=true := h text rfl
    exact ⟨some ⟨text,hvalid⟩,dif_pos hvalid⟩

/-- An ambiguous receipt that waits for a readback says so. -/
theorem ambiguous_shape {receipt : ReplayReceipt} (hphase : receipt.phase=.readbackRequired)
    (houtcome : receipt.outcome=.ambiguous) :
    receipt.reason=some .providerOutcomeAmbiguous ∧
      (receipt.result_sha256≠none → receipt.readback_attempted=true) := by
  have hshape := receipt.shape
  unfold ReceiptFields.validateShape at hshape
  rw [hphase] at hshape
  simp only [houtcome,reduceCtorEq,if_false,require_eq_ok,true_and] at hshape
  exact hshape

/-- An accepted call met its precondition. It keeps the binding, leaves the
claimed phase, and verifies only by the expected digest. -/
theorem apply_spec {call : ReplayCall} {receipt next : ReplayReceipt}
    (h : call.apply receipt=.ok next) :
    call.Precondition receipt ∧ next.binding=receipt.binding ∧ next.phase≠.claimed ∧
      (next.outcome=.verified →
        call=.readback (some receipt.binding.expected_poststate_sha256.val)) := by
  cases call with
  | deny reason =>
    simp only [ReplayCall.apply,denyBeforeDispatch,check_bind_eq_ok,require_eq_ok,make_eq_ok] at h
    obtain ⟨hphase,hnext⟩ := h
    rw [hnext]
    exact ⟨hphase,rfl,by simp,by simp⟩
  | provider result =>
    simp only [ReplayCall.apply,recordProviderResult,check_bind_eq_ok,require_eq_ok] at h
    obtain ⟨hphase,hnext⟩ := h
    refine ⟨hphase,?_⟩
    cases result <;> simp only [make_eq_ok] at hnext <;> rw [hnext] <;> exact ⟨rfl,by simp,by simp⟩
  | readback observed =>
    simp only [ReplayCall.apply,recordReadback,bind_eq_ok,require_eq_ok] at h
    obtain ⟨⟨⟩,hphase,digest,hdigest,hnext⟩ := h
    have hobserved : observed=digest.map Subtype.val := (requireDigest_eq_ok hdigest).symm
    have hargument : ∀ text∈observed,isSha256 text=true := by
      intro text htext
      rw [hobserved,Option.mem_map] at htext
      obtain ⟨found,-,hfound⟩ := htext
      exact hfound ▸ found.property
    refine ⟨⟨hphase,hargument⟩,?_⟩
    by_cases hexpected : digest=some receipt.binding.expected_poststate_sha256
    · rw [if_pos hexpected,make_eq_ok] at hnext
      rw [hnext]
      refine ⟨rfl,by simp,fun _ => ?_⟩
      rw [hobserved,hexpected]
      rfl
    · rw [if_neg hexpected,make_eq_ok] at hnext
      rw [hnext]
      exact ⟨rfl,by simp,by simp⟩
  | close =>
    simp only [ReplayCall.apply,closeUnresolvedAmbiguity,check_bind_eq_ok,require_eq_ok,
      make_eq_ok] at h
    obtain ⟨hready,hnext⟩ := h
    rw [hnext]
    refine ⟨hready,rfl,by simp,fun hverified => ?_⟩
    have hambiguous : receipt.outcome=.verified := hverified
    rw [hready.2.1] at hambiguous
    cases hambiguous

theorem apply_of_precondition {call : ReplayCall} {receipt : ReplayReceipt}
    (h : call.Precondition receipt) : ∃ next,call.apply receipt=.ok next := by
  cases call with
  | deny reason =>
    obtain ⟨-,-,hresult,hreadback⟩ := claimed_shape h
    have hphase : receipt.phase=.claimed := h
    simp only [ReplayCall.apply,denyBeforeDispatch,check_bind_eq_ok,require_eq_ok,hphase,true_and]
    refine ⟨_,make_of_shape ?_⟩
    simp [ReceiptFields.validateShape,hresult,hreadback]
  | provider result =>
    obtain ⟨-,hreason,hresult,hreadback⟩ := claimed_shape h
    have hphase : receipt.phase=.claimed := h
    simp only [ReplayCall.apply,recordProviderResult,check_bind_eq_ok,require_eq_ok,hphase,true_and]
    cases result <;> refine ⟨_,make_of_shape ?_⟩ <;>
      simp [ReceiptFields.validateShape,hresult,hreadback]
  | readback observed =>
    obtain ⟨hphase,hargument⟩ := h
    obtain ⟨digest,hdigest⟩ := requireDigest_of_valid hargument
    simp only [ReplayCall.apply,recordReadback,check_bind_eq_ok,require_eq_ok,hphase,true_and,
      bind_of_ok hdigest]
    by_cases hexpected : digest=some receipt.binding.expected_poststate_sha256
    · simp only [if_pos hexpected]
      refine ⟨_,make_of_shape ?_⟩
      simp [ReceiptFields.validateShape,hexpected]
    · simp only [if_neg hexpected]
      refine ⟨_,make_of_shape ?_⟩
      simp [ReceiptFields.validateShape]
  | close =>
    obtain ⟨hphase,houtcome,hreadback⟩ := h
    have hreason : receipt.reason=some .providerOutcomeAmbiguous :=
      (ambiguous_shape hphase houtcome).1
    simp only [ReplayCall.apply,closeUnresolvedAmbiguity,check_bind_eq_ok,require_eq_ok,hphase,
      houtcome,hreadback,and_self,true_and]
    refine ⟨_,make_of_shape ?_⟩
    simp [ReceiptFields.validateShape,hreason]

/-- A step keeps the receipt, or the call was accepted. -/
theorem step_cases (receipt : ReplayReceipt) (call : ReplayCall) :
    step receipt call=receipt ∨ call.apply receipt=.ok (step receipt call) := by
  unfold step
  split
  · rename_i next hnext
    exact .inr hnext
  · exact .inl rfl

theorem terminal_refuses {receipt next : ReplayReceipt} (hterminal : receipt.phase=.terminal)
    (call : ReplayCall) : call.apply receipt≠.ok next := by
  intro h
  have hprecondition := (apply_spec h).1
  cases call <;> simp [ReplayCall.Precondition,hterminal] at hprecondition

/-- A denial or a provider result is only accepted in the claimed phase. -/
theorem settles_claimed {receipt next : ReplayReceipt} {call : ReplayCall}
    (h : call.apply receipt=.ok next) (hsettles : call.Settles) : receipt.phase=.claimed := by
  have hprecondition := (apply_spec h).1
  cases call with
  | deny reason => exact hprecondition
  | provider result => exact hprecondition
  | readback observed => exact hsettles.elim
  | close => exact hsettles.elim

/-- After the claimed phase no denial and no provider result is accepted. -/
theorem accepted_settled {receipt : ReplayReceipt} {calls : List ReplayCall}
    (h : receipt.phase≠.claimed) : (accepted receipt calls).filter (·.Settles)=[] := by
  induction calls generalizing receipt with
  | nil => rfl
  | cons call calls ih =>
    unfold accepted
    split
    · rename_i next hnext
      have hsettles : ¬call.Settles := fun hsettles => h (settles_claimed hnext hsettles)
      rw [List.filter_cons_of_neg (by simpa using hsettles)]
      exact ih (apply_spec hnext).2.2.1
    · exact ih h

/-- At most one denial or provider result is accepted. -/
theorem accepted_once (receipt : ReplayReceipt) (calls : List ReplayCall) :
    ((accepted receipt calls).filter (·.Settles)).length ≤ 1 := by
  induction calls generalizing receipt with
  | nil => simp [accepted]
  | cons call calls ih =>
    unfold accepted
    split
    · rename_i next hnext
      have hlater := @accepted_settled next calls (apply_spec hnext).2.2.1
      by_cases hsettles : call.Settles
      · rw [List.filter_cons_of_pos (by simpa using hsettles),hlater]
        simp
      · rw [List.filter_cons_of_neg (by simpa using hsettles),hlater]
        simp
    · exact ih receipt

theorem after_binding (binding : MutationBinding) (calls : List ReplayCall) :
    (after binding calls).binding=binding := by
  have hstep : ∀ (receipt : ReplayReceipt) (call : ReplayCall),
      receipt.binding=binding → (step receipt call).binding=binding := by
    intro receipt call h
    rcases step_cases receipt call with hsame | hnext
    · rw [hsame]
      exact h
    · rw [(apply_spec hnext).2.1]
      exact h
  exact run_invariant hstep rfl

/-- A verified outcome was set by an accepted readback of the expected digest. -/
theorem verified_source (binding : MutationBinding) (calls : List ReplayCall)
    (h : (after binding calls).outcome=.verified) :
    ∃ earlier later,
      calls=earlier++.readback (some binding.expected_poststate_sha256.val)::later ∧
      (ReplayCall.readback (some binding.expected_poststate_sha256.val)).apply
        (after binding earlier)=.ok (after binding calls) := by
  induction calls using List.reverseRecOn with
  | nil => cases h
  | append_singleton calls call ih =>
    have hafter : after binding (calls++[call])=step (after binding calls) call := run_concat
    rw [hafter] at h ⊢
    rcases step_cases (after binding calls) call with hstep | hstep
    · rw [hstep] at h ⊢
      obtain ⟨earlier,later,hcalls,happly⟩ := ih h
      exact ⟨earlier,later++[call],by simp [hcalls],happly⟩
    · have hcall := (apply_spec hstep).2.2.2 h
      rw [after_binding] at hcall
      subst hcall
      exact ⟨calls,[],rfl,hstep⟩

/-- Another use of the key is a conflict exactly when the binding differs, and
a stored receipt is never claimed anew. -/
theorem decideReplay_stored (binding : MutationBinding) (stored : ReplayReceipt) :
    ((decideReplay binding (some stored)).action=.denyConflict ↔ binding≠stored.binding) ∧
      (decideReplay binding (some stored)).action≠.claimNew := by
  by_cases hbinding : binding=stored.binding
  · cases hphase : stored.phase <;> simp [decideReplay,hbinding,hphase]
  · simp [decideReplay,hbinding]

/-- Whatever calls arrive at the receipt of a binding, the binding stays, one
denial or provider result is accepted at most, a terminal receipt accepts
nothing, verification comes from a readback of the expected state alone, and a
call that may be made returns a receipt of a valid shape. Every other binding
conflicts with the stored receipt and none claims the key again. -/
theorem replay_kernel (binding : MutationBinding) (calls : List ReplayCall) :
    (after binding calls).binding=binding ∧
    ((accepted (claimReceipt binding) calls).filter (·.Settles)).length ≤ 1 ∧
    ((after binding calls).phase=.terminal →
      ∀ call next,ReplayCall.apply call (after binding calls)≠.ok next) ∧
    ((after binding calls).outcome=.verified →
      ∃ earlier later,
        calls=earlier++.readback (some binding.expected_poststate_sha256.val)::later ∧
        (ReplayCall.readback (some binding.expected_poststate_sha256.val)).apply
          (after binding earlier)=.ok (after binding calls)) ∧
    (∀ call,ReplayCall.Precondition call (after binding calls) →
      ∃ next,call.apply (after binding calls)=.ok next ∧ next.validateShape=.ok ()) ∧
    ∀ other,
      ((decideReplay other (some (after binding calls))).action=.denyConflict ↔ other≠binding) ∧
      (decideReplay other (some (after binding calls))).action≠.claimNew := by
  refine ⟨after_binding binding calls,accepted_once (claimReceipt binding) calls,
    fun hterminal call next => terminal_refuses hterminal call,verified_source binding calls,?_,?_⟩
  · intro call hprecondition
    obtain ⟨next,hnext⟩ := apply_of_precondition hprecondition
    exact ⟨next,hnext,next.shape⟩
  · intro other
    have hdecision := decideReplay_stored other (after binding calls)
    rw [after_binding] at hdecision
    exact hdecision

end ControlGraph.ReplayKernel
