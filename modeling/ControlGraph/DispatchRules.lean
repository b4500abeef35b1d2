import ControlGraph.ReceiptExecution

/-!
# What one delivery may do

The rules say of every call of a delivery what its history must contain. A
mutation follows a direct create and, with nothing in between, the read of an
authority and of a clock that satisfy the conditions of a dispatch. A claim is
made once. A claimed receipt is replaced only by its creator or after the
orphan grace. Each part of the coordinator is checked once against the rules.
-/

namespace ControlGraph.DispatchRules

open Checks ContractText StorageIdentity ReceiptContracts ReceiptStore ExecutionRequests
  ExecutionGate ReceiptExecution WaitingPrograms
open ReceiptResolution hiding persistAttempts persistOrRead

/-- One delivery to an executor of the configured target. -/
structure Delivery (target : TargetBinding) where
  gate : FinalMutationGate
  /-- The gate and the store share the target. -/
  shares : gate.target=target
  verified : VerifiedMutation
  orphaned : Bool

def Delivery.key {target : TargetBinding} (delivery : Delivery target) : Identifier :=
  delivery.verified.request.intent.idempotency_key

/-- Program of a delivery. -/
def launch (functions : ContractFunctions) {target : TargetBinding} (delivery : Delivery target) :
    Executor ReceiptExecutionResponse :=
  if delivery.orphaned then recoverOrphaned functions delivery.verified
  else execute functions delivery.gate delivery.verified

/-- Histories of a delivery. -/
abbrev History := List (Event Operation Operation.Result (Option UtcSecond))

/-- A claim of a history was created with its dispatch proof. -/
def Created (history : History) (claim : ExecutionReceipt)
    (stored : StoredRecord ExecutionReceipt) : Prop :=
  ∃ binding direct_create,Event.returned (Operation.claimOrAdoptReceipt claim binding)
    (Except.ok (ReceiptClaimResult.created stored direct_create))∈history

/-- The clock was read after the orphan grace of a receipt. -/
def LateLook (history : History) (receipt : ExecutionReceipt) : Prop :=
  ∃ (reading : UtcSecond) (orphan_recovery_at : Int),Event.looked (some reading)∈history ∧
    orphanRecoveryAt receipt=.ok orphan_recovery_at ∧ orphan_recovery_at ≤ reading.1

/-- Nothing was mutated and nothing was replaced so far. -/
def Untouched (history : History) : Prop :=
  (∀ permit,Event.called (Operation.mutate permit)∉history) ∧
    ∀ expected replacement,
      Event.called (Operation.compareAndSetReceipt expected replacement)∉history

/-- The read of the authority and of the clock that end a history. -/
def Fenced (verified : VerifiedMutation) (history : History) : Prop :=
  ∃ before claim stored bundle now,
    history=before++[Event.returned
        (Operation.readRootCreationBundle verified.request.intent.root_id)
        (Except.ok (some bundle)),Event.looked (some now)] ∧
      claim.idempotency_key=verified.request.intent.idempotency_key ∧
      Created before claim stored ∧ DispatchConditions verified bundle now

/-- A claimed receipt is replaced by its creator or after its orphan grace. -/
def MayReplace (history : History) (expected : StoredRecord ExecutionReceipt) : Prop :=
  expected.value.outcome=.claimed →
    (∃ claim stored,claim.idempotency_key=expected.value.idempotency_key ∧
      Created history claim stored) ∨ LateLook history expected.value

/-- The calls that a delivery may make after a history. -/
def allowed {target : TargetBinding} (delivery : Delivery target) (history : History) :
    Operation → Prop
  | .mutate _ => delivery.orphaned=false ∧ Untouched history ∧ Fenced delivery.verified history
  | .claimOrAdoptReceipt claim _ => delivery.orphaned=false ∧
    claim.idempotency_key=delivery.key ∧
      ∀ other binding,Event.called (Operation.claimOrAdoptReceipt other binding)∉history
  | .compareAndSetReceipt expected _ => MayReplace history expected
  | _ => True

def rules {target : TargetBinding} (delivery : Delivery target) :
    Monitor Operation Operation.Result (Option UtcSecond) History :=
  Monitor.recording (allowed delivery)

/-- No postcondition. -/
def anyEnd {Value : Type} : Except Raised Value → History → Prop := fun _ _ => True

section

variable {history later : History}

theorem Created.mono {claim : ExecutionReceipt} {stored : StoredRecord ExecutionReceipt}
    (h : Created history claim stored) (hlater : history⊆later) : Created later claim stored := by
  obtain ⟨binding,direct_create,hmem⟩ := h
  exact ⟨binding,direct_create,hlater hmem⟩

theorem LateLook.mono {receipt : ExecutionReceipt} (h : LateLook history receipt)
    (hlater : history⊆later) : LateLook later receipt := by
  obtain ⟨reading,orphan_recovery_at,hmem,horphan,hlate⟩ := h
  exact ⟨reading,orphan_recovery_at,hlater hmem,horphan,hlate⟩

theorem MayReplace.mono {expected : StoredRecord ExecutionReceipt} (h : MayReplace history expected)
    (hlater : history⊆later) : MayReplace later expected := by
  intro hclaimed
  rcases h hclaimed with ⟨claim,stored,hkey,hcreated⟩ | hlate
  · exact .inl ⟨claim,stored,hkey,hcreated.mono hlater⟩
  · exact .inr (hlate.mono hlater)

theorem mayReplace_of_ne {expected : StoredRecord ExecutionReceipt}
    (h : expected.value.outcome≠.claimed) : MayReplace history expected :=
  fun hclaimed => absurd hclaimed h

/-- Other events touch nothing. -/
theorem Untouched.append (h : Untouched history) (hlater : Untouched later) :
    Untouched (history++later) := by
  refine ⟨?_,?_⟩
  · intro permit hmem
    rcases List.mem_append.mp hmem with hold | hnew
    · exact h.1 permit hold
    · exact hlater.1 permit hnew
  · intro expected replacement hmem
    rcases List.mem_append.mp hmem with hold | hnew
    · exact h.2 expected replacement hold
    · exact hlater.2 expected replacement hnew

end

section

variable {functions : ContractFunctions} {target : TargetBinding} {delivery : Delivery target}
  {expected_state : TargetConfigurationProjection} {binding : MutationBinding}
  {verified : VerifiedMutation}

/-- A record that passes the test at another revision is no claim. -/
theorem not_claimed_of_valid {expected current : StoredRecord ExecutionReceipt}
    (h : validMonotonicResolution expected current=true) (hne : current≠expected) :
    current.value.outcome≠.claimed := by
  rcases revision_of_valid h with hsame | hlater
  · exact absurd hsame hne
  · obtain ⟨-,-,-,-,-,hreachable,-⟩ := (validMonotonicResolution_iff hlater).mp h
    exact not_claimed_of_reachable hreachable

theorem follows_readClock {history : History} {post : Except Raised UtcSecond → History → Prop}
    (hnone : post (.error (.valueError "receipt execution clock is invalid"))
      (history++[Event.looked none]))
    (hsome : ∀ now,post (.ok now) (history++[Event.looked (some now)])) :
    readClock.Follows (rules delivery) post history := by
  rw [readClock,follows_bind,follows_lookOnce]
  intro reading
  cases reading with
  | none => exact hnone
  | some now => exact hsome now

/-- A result is no claim. -/
def Resolved : Except Raised (Option (StoredRecord ExecutionReceipt)) → History → Prop :=
  fun result _ => ∀ persisted,result=.ok (some persisted) → persisted.value.outcome≠.claimed

/-- Attempts to persist follow the rules where the expected receipt may be replaced. -/
theorem follows_persistAttempts {expected replacement_record : StoredRecord ExecutionReceipt}
    (hreplacement : replacement_record.value.outcome≠.claimed) (attempts : Nat) (history : History)
    (h : MayReplace history expected) :
    (persistAttempts functions binding verified expected replacement_record attempts).Follows
      (rules delivery) Resolved history := by
  induction attempts generalizing history with
  | zero =>
    intro persisted hpersisted
    cases hpersisted
  | succ attempts ih =>
    rw [persistAttempts,follows_bind,follows_call]
    refine ⟨h,?_⟩
    intro committed
    cases committed with
    | ok committed =>
      simp only [seqPost]
      split
      · intro persisted hpersisted
        cases hpersisted
      · rename_i hsame
        intro persisted hpersisted
        cases hpersisted
        rw [not_not.mp hsame]
        exact hreplacement
    | error failed =>
      simp only [seqPost]
      rw [follows_bind,follows_call]
      refine ⟨trivial,?_⟩
      intro current
      cases current with
      | error failed =>
        intro persisted hpersisted
        cases hpersisted
      | ok current =>
        cases current with
        | none =>
          intro persisted hpersisted
          cases hpersisted
        | some current =>
          simp only [seqPost]
          split
          · intro persisted hpersisted
            cases hpersisted
          · rename_i hvalid
            split
            · rename_i hne
              intro persisted hpersisted
              cases hpersisted
              have hmonotonic : validMonotonicResolution expected current=true := by
                rw [not_or,Bool.not_eq_false,Bool.not_eq_false] at hvalid
                exact hvalid.2
              exact not_claimed_of_valid hmonotonic hne
            · refine ih _ (h.mono ?_)
              intro event hmem
              exact List.mem_append_left _ (List.mem_append_left _
                (List.mem_append_left _ (List.mem_append_left _ hmem)))

/-- Persisting follows the rules where the expected receipt may be replaced. -/
theorem follows_persistOrRead {expected : StoredRecord ExecutionReceipt}
    {replacement : ExecutionReceipt} {history : History} (h : MayReplace history expected) :
    (persistOrRead functions binding verified expected replacement).Follows (rules delivery)
      Resolved history := by
  rw [persistOrRead,follows_bind,follows_lift]
  cases hmade : StoredRecord.make replacement (expected.revision+1) with
  | error raised =>
    intro persisted hpersisted
    cases hpersisted
  | ok replacement_record =>
    simp only [seqPost]
    split
    · intro persisted hpersisted
      cases hpersisted
    · rename_i hvalid
      have hmonotonic : validMonotonicResolution expected replacement_record=true := by
        rw [not_or,not_or,Bool.not_eq_false,Bool.not_eq_false,Bool.not_eq_false] at hvalid
        exact hvalid.2.2
      have hrevision := (StoredRecord.make_eq_ok hmade).2
      have hne : replacement_record≠expected := by
        intro hsame
        rw [hsame] at hrevision
        omega
      exact follows_persistAttempts (not_claimed_of_valid hmonotonic hne) 2 history h

theorem follows_storeReplacement {current : StoredRecord ExecutionReceipt}
    {replacement : ExecutionReceipt} {history : History} (h : MayReplace history current) :
    (storeReplacement functions binding verified current replacement).Follows (rules delivery)
      anyEnd history := by
  rw [storeReplacement,follows_bind]
  refine (follows_persistOrRead h).mono ?_
  intro result state hresolved
  cases result with
  | error raised => exact trivial
  | ok persisted => cases persisted <;> exact trivial

theorem follows_classifyReadback {current : StoredRecord ExecutionReceipt}
    {observation : ReceiptReadbackResult} {history : History} :
    (classifyReadback functions expected_state binding verified current observation).Follows
      (rules delivery) anyEnd history := by
  unfold classifyReadback
  split
  · exact trivial
  · split
    · exact trivial
    · rename_i hunsettled
      have hnot : current.value.outcome≠.claimed := by
        intro hclaimed
        rw [hclaimed] at hunsettled
        exact hunsettled ⟨by decide,by decide⟩
      rw [follows_bind,follows_lift]
      cases exactReadback functions expected_state verified current.value observation with
      | error raised => exact trivial
      | ok exact_etag =>
        simp only [seqPost]
        rw [follows_bind]
        refine follows_readClock trivial ?_
        intro now
        cases exact_etag with
        | some observed_etag =>
          simp only [seqPost]
          rw [follows_bind,follows_lift]
          cases verifiedReadbackReceipt current.value observed_etag now with
          | error raised => exact trivial
          | ok replacement => exact follows_storeReplacement (mayReplace_of_ne hnot)
        | none =>
          simp only [seqPost]
          rw [follows_bind,follows_lift]
          cases ambiguousReadbackReceipt current.value observation now with
          | error raised => exact trivial
          | ok replacement =>
            simp only [seqPost]
            split
            · exact trivial
            · exact follows_storeReplacement (mayReplace_of_ne hnot)

/-- A readback follows the rules where the receipt may be replaced. -/
theorem follows_readbackOnly {stored : StoredRecord ExecutionReceipt} {history : History}
    (h : MayReplace history stored) :
    (readbackOnly functions expected_state binding verified stored).Follows (rules delivery)
      anyEnd history := by
  rw [readbackOnly,follows_bind,follows_call]
  refine ⟨trivial,?_⟩
  intro observed
  simp only [seqPost]
  split
  · rw [follows_bind]
    refine follows_readClock trivial ?_
    intro now
    simp only [seqPost]
    rw [follows_bind,follows_lift]
    cases ambiguousReadbackReceipt stored.value (observed.getD ⟨none,none⟩) now with
    | error raised => exact trivial
    | ok ambiguous =>
      simp only [seqPost]
      rw [follows_bind]
      refine (follows_persistOrRead (h.mono ?_)).mono ?_
      · intro event hmem
        exact List.mem_append_left _ (List.mem_append_left _ (List.mem_append_left _ hmem))
      · intro result state hresolved
        cases result with
        | error raised => exact trivial
        | ok persisted =>
          cases persisted with
          | none => exact trivial
          | some persisted => exact follows_classifyReadback
  · exact follows_classifyReadback

/-- Handling an existing receipt follows the rules: a claim is read back only after
its grace. -/
theorem follows_handleExisting {stored : StoredRecord ExecutionReceipt} {history : History} :
    (handleExisting functions expected_state binding verified stored).Follows (rules delivery)
      anyEnd history := by
  unfold handleExisting
  split
  · exact trivial
  · split
    · rw [follows_bind]
      refine follows_readClock trivial ?_
      intro now
      simp only [seqPost]
      rw [follows_bind,follows_lift]
      cases horphan : orphanRecoveryAt stored.value with
      | error raised => exact trivial
      | ok orphan_recovery_at =>
        simp only [seqPost]
        split
        · exact trivial
        · rename_i hlate
          refine follows_readbackOnly ?_
          intro hclaimed
          exact .inr ⟨now,orphan_recovery_at,List.mem_append_right _ List.mem_cons_self,horphan,
            by omega⟩
    · rename_i hnot
      exact follows_readbackOnly (mayReplace_of_ne hnot)

theorem follows_handleAfterProvider {stored : StoredRecord ExecutionReceipt} {history : History}
    (h : stored.value.outcome≠.claimed) :
    (handleAfterProvider functions expected_state binding verified stored).Follows (rules delivery)
      anyEnd history := by
  rw [handleAfterProvider,if_neg h]
  exact follows_handleExisting

/-- Persisting the result of the gate follows the rules where the claim may be replaced. -/
theorem follows_persistGated {receipt : StoredRecord ExecutionReceipt}
    {gated : Except Raised (FinalAuthorityDenial⊕FinalMutationResult)} {history : History}
    (h : MayReplace history receipt) :
    (persistGated functions expected_state binding verified receipt gated).Follows (rules delivery)
      anyEnd history := by
  rw [persistGated,follows_bind]
  refine follows_readClock trivial ?_
  intro now
  simp only [seqPost]
  rw [follows_bind,follows_lift]
  cases gatedReceipt receipt gated now with
  | error raised => exact trivial
  | ok replacement =>
    simp only [seqPost]
    rw [follows_bind]
    refine (follows_persistOrRead (h.mono (List.subset_append_left _ _))).mono ?_
    intro result state hresolved
    cases result with
    | error raised => exact trivial
    | ok persisted =>
      cases persisted with
      | none => exact trivial
      | some persisted =>
        simp only [seqPost]
        split
        · exact follows_handleExisting
        · exact follows_handleAfterProvider (hresolved persisted rfl)

theorem follows_adoptStored {absent invalid : ReasonCode} {history : History} :
    (adoptStored functions expected_state binding verified absent invalid).Follows (rules delivery)
      anyEnd history := by
  rw [adoptStored,follows_bind,follows_call]
  refine ⟨trivial,?_⟩
  intro found
  cases found with
  | error failed => exact trivial
  | ok found =>
    cases found with
    | none => exact trivial
    | some stored =>
      simp only [seqPost]
      split
      · exact trivial
      · exact follows_handleExisting

/-- A history after a direct create from which nothing was touched. -/
structure Ready (delivery : Delivery target) (history : History) (claim : ExecutionReceipt)
    (stored : StoredRecord ExecutionReceipt) : Prop where
  executes : delivery.orphaned=false
  untouched : Untouched history
  key : claim.idempotency_key=delivery.key
  created : Created history claim stored

/-- Readiness goes on with events that touch nothing. -/
theorem Ready.append {history later : History} {claim : ExecutionReceipt}
    {stored : StoredRecord ExecutionReceipt} (h : Ready delivery history claim stored)
    (hlater : Untouched later) : Ready delivery (history++later) claim stored where
  executes := h.executes
  untouched := h.untouched.append hlater
  key := h.key
  created := h.created.mono (List.subset_append_left _ _)

/-- A call and its result touch nothing when the call does not. -/
theorem untouched_call {op : Operation} {result : op.Result}
    (hmutate : ∀ permit,op≠.mutate permit)
    (hreplace : ∀ expected replacement,op≠.compareAndSetReceipt expected replacement) :
    Untouched [Event.called op,Event.returned op result] := by
  refine ⟨?_,?_⟩
  · intro permit hmem
    rcases List.mem_cons.mp hmem with hcalled | hrest
    · cases hcalled
      exact hmutate permit rfl
    · cases List.mem_singleton.mp hrest
  · intro expected replacement hmem
    rcases List.mem_cons.mp hmem with hcalled | hrest
    · cases hcalled
      exact hreplace expected replacement rfl
    · cases List.mem_singleton.mp hrest

theorem untouched_look {reading : Option UtcSecond} : Untouched [Event.looked reading] := by
  refine ⟨?_,?_⟩
  · intro permit hmem
    cases List.mem_singleton.mp hmem
  · intro expected replacement hmem
    cases List.mem_singleton.mp hmem

/-- The last check and the dispatch follow the rules after the read of the authority. -/
theorem follows_checkAndDispatch {lease : ReceiptDispatchLease functions}
    {snapshot : Option RootAuthorityBundle} {before : History} {claim : ExecutionReceipt}
    {stored : StoredRecord ExecutionReceipt} (h : Ready delivery before claim stored) :
    (checkAndDispatch functions delivery.gate lease delivery.verified snapshot).Follows
      (rules delivery) anyEnd (before++[Event.returned
        (Operation.readRootCreationBundle delivery.verified.request.intent.root_id)
        (Except.ok snapshot)]) := by
  rw [checkAndDispatch,follows_bind,follows_lookOnce]
  intro reading
  cases reading with
  | none => exact trivial
  | some now =>
    simp only [seqPost]
    cases hdenial : finalAuthorityDenial functions delivery.gate delivery.verified snapshot now.1 with
    | error denial => exact trivial
    | ok checked =>
      obtain ⟨bundle,hbundle,hconditions⟩ := conditions_of_finalAuthorityDenial hdenial
      cases coherentAuthorityEpoch functions delivery.gate.target delivery.verified snapshot with
      | none => exact trivial
      | some epoch =>
        simp only
        rw [follows_bind,follows_lift]
        cases lease.authorize delivery.verified delivery.gate.target delivery.gate.service_role with
        | error raised => exact trivial
        | ok permit =>
          simp only [seqPost]
          rw [dispatchPermit,follows_bind,follows_call]
          have hread : Untouched [Event.returned
              (Operation.readRootCreationBundle delivery.verified.request.intent.root_id)
              (Except.ok snapshot)] := by
            refine ⟨?_,?_⟩
            · intro permit hmem
              cases List.mem_singleton.mp hmem
            · intro expected replacement hmem
              cases List.mem_singleton.mp hmem
          refine ⟨⟨h.executes,(h.untouched.append hread).append untouched_look,?_⟩,?_⟩
          · refine ⟨before,claim,stored,bundle,now,?_,h.key,h.created,hconditions⟩
            rw [hbundle]
            exact List.append_assoc _ _ _
          · intro result
            cases result <;> exact trivial

/-- The gate follows the rules after a direct create. -/
theorem follows_gate {lease : ReceiptDispatchLease functions} {history : History}
    {claim : ExecutionReceipt} {stored : StoredRecord ExecutionReceipt}
    (h : Ready delivery history claim stored) :
    (delivery.gate.execute functions lease delivery.verified).Follows (rules delivery) anyEnd
      history := by
  have hauthority : ∀ (entered : ReceiptDispatchLease functions) (state : History),
      Ready delivery state claim stored →
        (readAuthorityAndDispatch functions delivery.gate entered delivery.verified).Follows
          (rules delivery) anyEnd state := by
    intro entered state hstate
    rw [readAuthorityAndDispatch,follows_bind,follows_call]
    refine ⟨trivial,?_⟩
    intro found
    cases found with
    | error failed => exact trivial
    | ok snapshot =>
      refine follows_checkAndDispatch (hstate.append ?_)
      refine ⟨?_,?_⟩
      · intro permit hmem
        cases List.mem_singleton.mp hmem
      · intro expected replacement hmem
        cases List.mem_singleton.mp hmem
  have hsource : ∀ state : History,Ready delivery state claim stored →
      (revalidatePromotionSourceReceipt functions delivery.gate delivery.verified).Follows
        (rules delivery) (fun _ later => Ready delivery later claim stored) state := by
    intro state hstate
    unfold revalidatePromotionSourceReceipt
    split
    · exact hstate
    · split
      · exact hstate
      · rw [follows_bind,follows_call]
        refine ⟨trivial,?_⟩
        intro found
        have hnext : Ready delivery (state++[Event.called _,Event.returned _ found]) claim stored :=
          hstate.append (untouched_call (fun _ hop => by cases hop) (fun _ _ hop => by cases hop))
        rw [← List.singleton_append,← List.append_assoc] at hnext
        cases found with
        | error failed => exact hnext
        | ok found =>
          cases found with
          | none => exact hnext
          | some source =>
            simp only [seqPost]
            split <;> exact hnext
  unfold FinalMutationGate.execute
  split
  · exact trivial
  · split
    · exact trivial
    · rw [prepareAndDispatch,follows_bind,follows_call]
      refine ⟨trivial,?_⟩
      intro prepared
      have hnext : Ready delivery (history++[Event.called _,Event.returned _ prepared]) claim
          stored :=
        h.append (untouched_call (fun _ hop => by cases hop) (fun _ _ hop => by cases hop))
      rw [← List.singleton_append,← List.append_assoc] at hnext
      cases prepared with
      | none => exact trivial
      | some prepared =>
        simp only [seqPost]
        split
        · exact trivial
        · rw [follows_bind]
          refine (hsource _ hnext).mono ?_
          intro denial state hstate
          cases denial with
          | error raised => exact trivial
          | ok denial =>
            cases denial with
            | none => exact hauthority _ state hstate
            | some receipt_denial => exact trivial

theorem key_of_expectedWork (h : expectedWork functions verified=.ok (expected_state,binding)) :
    binding.idempotency_key=verified.request.intent.idempotency_key.1 := by
  rw [expectedWork,bind_eq_ok] at h
  obtain ⟨state,-,h⟩ := h
  rw [bind_eq_ok] at h
  obtain ⟨made,hmade,h⟩ := h
  rw [mutationBinding,bind_eq_ok] at hmade
  obtain ⟨poststate,-,hmade⟩ := hmade
  have hbinding : made=binding := congrArg Prod.snd (Except.ok.inj h)
  rw [← hbinding,← Except.ok.inj hmade]

theorem key_of_validAdopted {stored : StoredRecord ExecutionReceipt}
    (h : validAdopted functions binding verified stored=true) :
    stored.value.idempotency_key.1=binding.idempotency_key := by
  rw [validAdopted,validAdoptedReceipt] at h
  split at h
  · cases h
  · rename_i hvalid
    rw [not_or,not_or,not_not,not_not,not_not] at hvalid
    exact hvalid.2.2.1

/-- Passing the gate follows the rules after a direct create. -/
theorem follows_dispatchClaim {direct_create : DirectReceiptCreate} {history : History}
    {claim : ExecutionReceipt} {stored : StoredRecord ExecutionReceipt}
    (hkey : stored.value.idempotency_key=delivery.key)
    (h : Ready delivery history claim stored) :
    (dispatchClaim functions expected_state binding delivery.verified delivery.gate stored
      direct_create).Follows (rules delivery) anyEnd history := by
  rw [dispatchClaim,follows_bind,follows_lift]
  cases mint functions direct_create with
  | error raised => exact trivial
  | ok lease =>
    simp only [seqPost]
    rw [follows_bind,follows_attempt]
    refine (follows_gate h).grows.mono ?_
    intro gated state hgrown
    refine follows_persistGated ?_
    intro hclaimed
    exact .inl ⟨claim,stored,by rw [h.key,hkey],h.created.mono hgrown.1.subset⟩

/-- Claiming and dispatching follows the rules when nothing was done before. -/
theorem follows_claimAndDispatch {now : UtcSecond} {history : History}
    (hwork : expectedWork functions delivery.verified=.ok (expected_state,binding))
    (hexecutes : delivery.orphaned=false) (huntouched : Untouched history)
    (hfirst : ∀ other binding,
      Event.called (Operation.claimOrAdoptReceipt other binding)∉history) :
    (claimAndDispatch functions expected_state binding delivery.verified delivery.gate now).Follows
      (rules delivery) anyEnd history := by
  rw [claimAndDispatch,follows_bind,follows_lift]
  cases hclaimed : claimedReceipt functions delivery.verified binding now with
  | error raised => exact trivial
  | ok claimed =>
    have hkey : claimed.idempotency_key=delivery.key := by
      rw [makeReceipt_eq_ok hclaimed]
      rfl
    simp only [seqPost]
    rw [follows_bind,follows_call]
    refine ⟨⟨hexecutes,hkey,hfirst⟩,?_⟩
    intro result
    have hnext : Untouched (history++[Event.called _,Event.returned _ result]) :=
      huntouched.append
        (untouched_call (fun _ hop => by cases hop) (fun _ _ hop => by cases hop))
    rw [← List.singleton_append,← List.append_assoc] at hnext
    cases result with
    | error failed => exact trivial
    | ok claim =>
      cases claim with
      | conflict => exact trivial
      | adopted receipt =>
        simp only [seqPost]
        split
        · exact trivial
        · exact follows_handleExisting
      | created receipt direct_create =>
        simp only [seqPost]
        split
        · exact trivial
        · rename_i hvalid
          have hreceipt : receipt.value.idempotency_key=delivery.key := by
            have hbinding := key_of_validAdopted (Bool.of_not_eq_false hvalid)
            rw [key_of_expectedWork hwork] at hbinding
            exact Subtype.ext hbinding
          refine follows_dispatchClaim hreceipt ⟨hexecutes,hnext,hkey,?_⟩
          exact ⟨binding,direct_create,List.mem_append_right _ List.mem_cons_self⟩

theorem follows_launch (delivery : Delivery target) :
    (launch functions delivery).Follows (rules delivery) anyEnd [] := by
  unfold launch
  split
  · unfold recoverOrphaned
    split
    · exact trivial
    · exact follows_adoptStored
  · rename_i horphaned
    unfold execute
    split
    · exact trivial
    · rename_i expected_state binding hwork
      rw [follows_bind]
      refine follows_readClock trivial ?_
      intro now
      simp only [seqPost]
      rw [follows_bind,follows_lift]
      cases addSeconds now receiptNewClaimRecoveryWindowSeconds with
      | error raised => exact trivial
      | ok window_end =>
        simp only [seqPost]
        split
        · exact follows_adoptStored
        · refine follows_claimAndDispatch hwork (Bool.of_not_eq_true horphaned) untouched_look ?_
          intro other binding hmem
          cases List.mem_singleton.mp hmem

end

end ControlGraph.DispatchRules
