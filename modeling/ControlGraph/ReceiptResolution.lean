import Mathlib.Logic.Relation
import ControlGraph.ReceiptLifecycle

/-!
# The coordinator reads what other writers stored

After a write of its own fails, the coordinator reads the receipt again and
accepts what it finds when it may have been reached from the record it
expected by any number of replacements. This test compares two ends of a
history, while the store checks one replacement at a time. Every history that
the store can produce passes the test, and whatever passes it keeps what the
store would have kept.
-/

namespace ControlGraph.ReceiptResolution

open Checks ContractText Utf8Text LabelledRuns StorageIdentity ReceiptContracts ReceiptReplacement
  ReceiptStore ReceiptLifecycle

/-- The fields of a receipt that the coordinator expects to stay. -/
def receiptCasIdentity (receipt : ExecutionReceipt) : ReceiptSemanticBinding×UtcSecond :=
  (⟨receipt.receipt_id,receipt.request_id,receipt.idempotency_key,receipt.capability_sha256,
    receipt.mutation_sha256,receipt.plan_sha256,receipt.expected_poststate_sha256,receipt.target,
    receipt.root_id,receipt.root_sha256,receipt.epoch,receipt.action,receipt.provider_etag,
    receipt.dispatch_not_after⟩,receipt.created_at)

/-- Outcomes that any number of replacements may reach. -/
def reachableOutcomes : ReceiptOutcome → List ReceiptOutcome
  | .claimed => [.denied,.applied,.failedSafe,.ambiguous,.verified]
  | .applied => [.ambiguous,.verified]
  | .ambiguous => [.ambiguous,.verified]
  | _ => []

/-- Whether an observation that is fixed differs. -/
def changesObservation {Value : Type} [DecidableEq Value] (outcome : ReceiptOutcome)
    (before after : Option Value) : Bool :=
  match before with
  | some _ => decide (after≠before)
  | none => decide (outcome≠.claimed) && after.isSome

/-- Whether a read record may be reached from the expected one. -/
def validMonotonicResolution (expected current : StoredRecord ExecutionReceipt) : Bool :=
  if current.revision < expected.revision then false
  else if current.revision=expected.revision then decide (current=expected)
  else
    let before := expected.value
    let after := current.value
    if receiptCasIdentity before≠receiptCasIdentity after ∨
        after.updated_at.1 < before.updated_at.1 ∨
        after.evidence_ids.take before.evidence_ids.length≠before.evidence_ids then false
    else if changesObservation before.outcome before.observed_authority_epoch
        after.observed_authority_epoch then false
    else if changesObservation before.outcome before.provider_operation
        after.provider_operation then false
    else if after.outcome∉reachableOutcomes before.outcome then false
    else !(decide (before.outcome=.claimed) && decide (after.outcome=.verified) &&
      decide (current.revision < expected.revision+2))

/-- What the coordinator requires of an adopted receipt. -/
def validAdoptedReceipt (sha256 : Bytes → Sha256Digest) (target : TargetBinding)
    (idempotency_key : Identifier) (expires_at : UtcSecond) (binding : MutationBinding)
    (stored : StoredRecord ExecutionReceipt) : Bool :=
  let receipt := stored.value
  if receipt.receipt_id.1≠(executionReceiptLogicalId sha256 target idempotency_key).1 ∨
      receipt.dispatch_not_after≠expires_at ∨ ¬receiptMatchesBinding sha256 receipt binding then
    false
  else if receipt.outcome=.claimed then decide (stored.revision=0)
  else decide (1 ≤ stored.revision)

/-- What one attempt to persist saw of the store. -/
structure PersistAttempt where
  /-- Record that the write returned, if it raised nothing. -/
  committed : Option (StoredRecord ExecutionReceipt)
  /-- Answer of the read that follows, if it raised nothing. -/
  current : Option (Option (StoredRecord ExecutionReceipt))

section

variable (sha256 : Bytes → Sha256Digest) (target : TargetBinding) (idempotency_key : Identifier)
  (expires_at : UtcSecond) (binding : MutationBinding)

/-- Write a record, or read what another writer stored, for some attempts. -/
def persistAttempts (expected replacement_record : StoredRecord ExecutionReceipt) :
    List PersistAttempt → Option (StoredRecord ExecutionReceipt)
  | [] => none
  | attempt::attempts =>
    match attempt.committed with
    | some committed => if committed≠replacement_record then none else some committed
    | none =>
      match attempt.current with
      | some (some current) =>
        if validAdoptedReceipt sha256 target idempotency_key expires_at binding current=false ∨
            validMonotonicResolution expected current=false then none
        else if current≠expected then some current
        else persistAttempts expected replacement_record attempts
      | _ => none

/-- Persist a replacement in two attempts, or return what another writer stored. -/
def persistOrRead (expected : StoredRecord ExecutionReceipt) (replacement : ExecutionReceipt)
    (first second : PersistAttempt) : Except Raised (Option (StoredRecord ExecutionReceipt)) := do
  let replacement_record ← StoredRecord.make replacement (expected.revision+1)
  if validAdoptedReceipt sha256 target idempotency_key expires_at binding expected=false ∨
      validAdoptedReceipt sha256 target idempotency_key expires_at binding
        replacement_record=false ∨ validMonotonicResolution expected replacement_record=false then
    return none
  else
    return persistAttempts sha256 target idempotency_key expires_at binding expected
      replacement_record [first,second]

end

/-- What the ends of a history of accepted replacements have in common. -/
structure ReachedBy (expected current : StoredRecord ExecutionReceipt) : Prop where
  later : expected.revision < current.revision
  continues : Continues expected.value current.value
  reachable : current.value.outcome∈reachableOutcomes expected.value.outcome
  /-- A claim needs two replacements to be verified. -/
  twice : expected.value.outcome=.claimed → current.value.outcome=.verified →
    expected.revision+2 ≤ current.revision

section

variable {expected current : StoredRecord ExecutionReceipt}

theorem reachable_of_transition {before after : ReceiptOutcome}
    (h : after∈receiptTransitions before) : after∈reachableOutcomes before := by
  revert h
  cases before <;> cases after <;> decide

/-- Reachable outcomes are closed under transitions. -/
theorem reachable_step {before middle after : ReceiptOutcome}
    (hreach : middle∈reachableOutcomes before) (hstep : after∈receiptTransitions middle) :
    after∈reachableOutcomes before := by
  revert hreach hstep
  cases before <;> cases middle <;> cases after <;> decide

/-- One accepted replacement is a history. -/
theorem ReachedBy.single {sha256 : Bytes → Sha256Digest} {target : TargetBinding}
    (h : StoreAccepts sha256 target expected current) : ReachedBy expected current where
  later := by
    have hrevision := h.valid.2
    omega
  continues := h.replaces.continues
  reachable := reachable_of_transition h.replaces.transition
  twice := by
    intro hclaimed hverified
    rcases h.replaces.verified_from hverified with happlied | hambiguous
    · rw [hclaimed] at happlied
      cases happlied
    · rw [hclaimed] at hambiguous
      cases hambiguous

/-- A history goes on with one more accepted replacement. -/
theorem ReachedBy.tail {sha256 : Bytes → Sha256Digest} {target : TargetBinding}
    {middle : StoredRecord ExecutionReceipt} (h : ReachedBy expected middle)
    (hstep : StoreAccepts sha256 target middle current) : ReachedBy expected current := by
  have hrevision := hstep.valid.2
  have hlater := h.later
  refine ⟨by omega,h.continues.trans hstep.replaces.continues,
    reachable_step h.reachable hstep.replaces.transition,?_⟩
  intro hclaimed hverified
  omega

/-- Every history of accepted replacements relates its ends. -/
theorem reachedBy_of_chain {sha256 : Bytes → Sha256Digest} {target : TargetBinding}
    (h : Relation.TransGen (StoreAccepts sha256 target) expected current) :
    ReachedBy expected current := by
  induction h with
  | single hstep => exact .single hstep
  | tail hchain hstep ih => exact ih.tail hstep

/-- The identity that the coordinator compares is the binding that the store compares. -/
theorem receiptCasIdentity_eq (receipt : ExecutionReceipt) :
    receiptCasIdentity receipt=receiptCasBinding receipt := rfl

/-- The coordinator and the store agree on fixed observations. -/
theorem changesObservation_eq_false {Value : Type} [DecidableEq Value] {outcome : ReceiptOutcome}
    {before after : Option Value} :
    changesObservation outcome before after=false ↔ keepsObservation outcome before after := by
  unfold changesObservation keepsObservation
  cases before with
  | some value =>
    simp only [decide_eq_false_iff_not,not_not,ne_eq,reduceCtorEq,not_false_eq_true,
      forall_const,false_implies,implies_true,and_true]
  | none =>
    simp only [Bool.and_eq_false_iff,decide_eq_false_iff_not,not_not,Option.isSome_eq_false_iff,
      Option.isNone_iff_eq_none,ne_eq,not_true_eq_false,false_implies,true_and,forall_const]
    by_cases h : outcome=.claimed
    · simp only [h,true_or,not_true_eq_false,false_implies]
    · simp only [h,false_or,not_false_eq_true,forall_const]

/-- The test at a greater revision is a conjunction. -/
theorem validMonotonicResolution_iff (h : expected.revision < current.revision) :
    validMonotonicResolution expected current=true ↔
      receiptCasBinding expected.value=receiptCasBinding current.value ∧
      expected.value.updated_at.1 ≤ current.value.updated_at.1 ∧
      expected.value.evidence_ids<+: current.value.evidence_ids ∧
      keepsObservation expected.value.outcome expected.value.observed_authority_epoch
        current.value.observed_authority_epoch ∧
      keepsObservation expected.value.outcome expected.value.provider_operation
        current.value.provider_operation ∧
      current.value.outcome∈reachableOutcomes expected.value.outcome ∧
      (expected.value.outcome=.claimed → current.value.outcome=.verified →
        expected.revision+2 ≤ current.revision) := by
  have hnot : ¬current.revision < expected.revision := by omega
  have hne : ¬current.revision=expected.revision := by omega
  simp only [validMonotonicResolution,if_neg hnot,if_neg hne,receiptCasIdentity_eq,
    ← changesObservation_eq_false,← take_length_eq_iff,Bool.if_false_left,Bool.and_eq_true,
    Bool.not_eq_true',decide_eq_false_iff_not,not_or,not_not,ne_eq,Int.not_lt,Bool.not_eq_true,
    Bool.and_eq_false_iff,Nat.not_lt,and_assoc,or_assoc,imp_iff_not_or]

/-- A history of accepted replacements passes the test. -/
theorem ReachedBy.valid (h : ReachedBy expected current) :
    validMonotonicResolution expected current=true :=
  (validMonotonicResolution_iff h.later).mpr ⟨h.continues.binding,h.continues.ordered,
    h.continues.evidence,h.continues.epoch,h.continues.operation,h.reachable,h.twice⟩

/-- A record that passes the test is the expected one or has a greater revision. -/
theorem revision_of_valid (h : validMonotonicResolution expected current=true) :
    current=expected ∨ expected.revision < current.revision := by
  by_cases hlater : expected.revision < current.revision
  · exact .inr hlater
  · by_cases hsame : current.revision=expected.revision
    · have hnot : ¬current.revision < expected.revision := by omega
      rw [validMonotonicResolution,if_neg hnot,if_pos hsame] at h
      exact .inl (of_decide_eq_true h)
    · have hearlier : current.revision < expected.revision := by omega
      rw [validMonotonicResolution,if_pos hearlier] at h
      cases h

theorem not_final_of_reachable {before after : ReceiptOutcome}
    (h : after∈reachableOutcomes before) : isFinal before=false := by
  revert h
  cases before <;> cases after <;> decide

theorem not_claimed_of_reachable {before after : ReceiptOutcome}
    (h : after∈reachableOutcomes before) : after≠.claimed := by
  revert h
  cases before <;> cases after <;> decide

end

section

variable {sha256 : Bytes → Sha256Digest} {target : TargetBinding} {idempotency_key : Identifier}
  {expires_at : UtcSecond} {binding : MutationBinding}
  {expected current : StoredRecord ExecutionReceipt}

theorem matches_of_binding {first second : ExecutionReceipt}
    (h : receiptCasBinding first=receiptCasBinding second)
    (hmatches : receiptMatchesBinding sha256 first binding) :
    receiptMatchesBinding sha256 second binding := by
  have hwork := congrArg Prod.fst h
  simp only [receiptCasBinding,receiptSemanticBinding,ReceiptSemanticBinding.mk.injEq] at hwork
  obtain ⟨-,hrequest,hkey,hcapability,hmutation,hplan,hpoststate,htarget,hroot,hrootSha,hepoch,
    haction,hetag,-⟩ := hwork
  unfold receiptMatchesBinding at hmatches ⊢
  rw [← hkey,← hrequest,← hroot,← hrootSha,← hepoch,← haction,← htarget,← hetag,← hplan,
    ← hcapability,← hmutation,← hpoststate]
  exact hmatches

theorem validAdoptedReceipt_iff :
    validAdoptedReceipt sha256 target idempotency_key expires_at binding current=true ↔
      current.value.receipt_id.1=(executionReceiptLogicalId sha256 target idempotency_key).1 ∧
      current.value.dispatch_not_after=expires_at ∧
      receiptMatchesBinding sha256 current.value binding ∧
      (current.value.outcome=.claimed → current.revision=0) ∧
      (current.value.outcome≠.claimed → 1 ≤ current.revision) := by
  unfold validAdoptedReceipt
  by_cases hclaimed : current.value.outcome=.claimed
  · simp only [hclaimed,if_true,Bool.if_false_left,Bool.and_eq_true,Bool.not_eq_true',
      decide_eq_false_iff_not,decide_eq_true_eq,not_or,not_not,ne_eq,and_assoc,
      not_true_eq_false,false_implies,and_true,forall_const]
  · simp only [hclaimed,if_false,Bool.if_false_left,Bool.and_eq_true,Bool.not_eq_true',
      decide_eq_false_iff_not,decide_eq_true_eq,not_or,not_not,ne_eq,and_assoc,
      not_false_eq_true,false_implies,true_and,forall_const]

/-- What an adopted receipt is replaced by is adopted as well. -/
theorem ReachedBy.adopted (h : ReachedBy expected current)
    (hadopted : validAdoptedReceipt sha256 target idempotency_key expires_at binding expected=
      true) :
    validAdoptedReceipt sha256 target idempotency_key expires_at binding current=true := by
  obtain ⟨hid,hdeadline,hmatches,-⟩ := validAdoptedReceipt_iff.mp hadopted
  have hlater := h.later
  have hwork := congrArg Prod.fst h.continues.binding
  have hreceipt : expected.value.receipt_id=current.value.receipt_id :=
    congrArg ReceiptSemanticBinding.receipt_id hwork
  have hdispatch : expected.value.dispatch_not_after=current.value.dispatch_not_after :=
    congrArg ReceiptSemanticBinding.dispatch_not_after hwork
  refine validAdoptedReceipt_iff.mpr ⟨by rw [← hreceipt]; exact hid,
    by rw [← hdispatch]; exact hdeadline,matches_of_binding h.continues.binding hmatches,?_,?_⟩
  · intro hclaimed
    exact absurd hclaimed (not_claimed_of_reachable h.reachable)
  · intro _
    omega

/-- Every receipt read before is read after as itself or at the end of a history. -/
def KeepsHistory (sha256 : Bytes → Sha256Digest) (target : TargetBinding)
    (idempotency_key : Identifier) (before after : Database) : Prop :=
  ∀ first,before.readReceipt sha256 target idempotency_key=.ok (some first) → ∃ last,
    after.readReceipt sha256 target idempotency_key=.ok (some last) ∧
      Relation.ReflTransGen (StoreAccepts sha256 target) first last

theorem run_keepsHistory (database : Database) (actions : List StoreAction) :
    KeepsHistory sha256 target idempotency_key database (run (step sha256) database actions) := by
  have hstep : ∀ state action,
      KeepsHistory sha256 target idempotency_key state (step sha256 state action) := by
    intro state action first hfirst
    obtain ⟨last,hlast,hchange⟩ := readReceipt_step hfirst
    refine ⟨last,hlast,?_⟩
    rcases hchange with rfl | haccepts
    · exact .refl
    · exact .single haccepts
  refine run_relation (KeepsHistory sha256 target idempotency_key) ?_ ?_ hstep
  · intro state first hfirst
    exact ⟨first,hfirst,.refl⟩
  · intro before middle after hbefore hafter receipt hreceipt
    obtain ⟨second,hsecond,hchain⟩ := hbefore receipt hreceipt
    obtain ⟨third,hthird,hrest⟩ := hafter second hsecond
    exact ⟨third,hthird,hchain.trans hrest⟩

/-- An attempt whose write raised and whose read found a history ends with what it read. -/
theorem persistAttempts_reads {replacement_record : StoredRecord ExecutionReceipt}
    {attempts : List PersistAttempt} (h : ReachedBy expected current)
    (hadopted : validAdoptedReceipt sha256 target idempotency_key expires_at binding expected=
      true) :
    persistAttempts sha256 target idempotency_key expires_at binding expected replacement_record
      (⟨none,some (some current)⟩::attempts)=some current := by
  have hne : current≠expected := by
    rintro rfl
    exact absurd h.later (Nat.lt_irrefl _)
  simp only [persistAttempts,h.adopted hadopted,h.valid,Bool.true_eq_false,or_self,if_false,
    if_pos hne]

/-- An attempt whose write raised and whose read found the expected record tries again. -/
theorem persistAttempts_retries {replacement_record : StoredRecord ExecutionReceipt}
    {attempts : List PersistAttempt}
    (hadopted : validAdoptedReceipt sha256 target idempotency_key expires_at binding expected=
      true) :
    persistAttempts sha256 target idempotency_key expires_at binding expected replacement_record
        (⟨none,some (some expected)⟩::attempts)=
      persistAttempts sha256 target idempotency_key expires_at binding expected replacement_record
        attempts := by
  have hself : validMonotonicResolution expected expected=true := by
    rw [validMonotonicResolution,if_neg (Nat.lt_irrefl _),if_pos rfl]
    exact decide_eq_true rfl
  rw [persistAttempts]
  simp only [hadopted,hself,Bool.true_eq_false,or_self,if_false,ne_eq,not_true_eq_false]

/-- What the attempts return was committed as asked or read and tested. -/
theorem persistAttempts_eq_some {replacement_record stored : StoredRecord ExecutionReceipt}
    {attempts : List PersistAttempt}
    (h : persistAttempts sha256 target idempotency_key expires_at binding expected
      replacement_record attempts=some stored) :
    (stored=replacement_record ∧ ∃ attempt∈attempts,attempt.committed=some stored) ∨
      (validAdoptedReceipt sha256 target idempotency_key expires_at binding stored=true ∧
        validMonotonicResolution expected stored=true ∧ stored≠expected ∧
        ∃ attempt∈attempts,attempt.current=some (some stored)) := by
  induction attempts with
  | nil => cases h
  | cons attempt attempts ih =>
    rw [persistAttempts] at h
    cases hcommitted : attempt.committed with
    | some committed =>
      simp only [hcommitted,ne_eq,ite_not] at h
      split at h
      · rename_i hsame
        have hstored := Option.some.inj h
        subst hstored
        exact .inl ⟨hsame,attempt,List.mem_cons_self,hcommitted⟩
      · cases h
    | none =>
      simp only [hcommitted] at h
      split at h
      · rename_i current hcurrent
        split at h
        · cases h
        · rename_i hvalid
          rw [not_or,Bool.not_eq_false,Bool.not_eq_false] at hvalid
          split at h
          · rename_i hne
            have hstored := Option.some.inj h
            subst hstored
            exact .inr ⟨hvalid.1,hvalid.2,hne,attempt,List.mem_cons_self,hcurrent⟩
          · rcases ih h with ⟨hsame,found,hmem,hfound⟩ | ⟨hadopted,hmonotonic,hne,found,hmem,hfound⟩
            · exact .inl ⟨hsame,found,List.mem_cons_of_mem _ hmem,hfound⟩
            · exact .inr ⟨hadopted,hmonotonic,hne,found,List.mem_cons_of_mem _ hmem,hfound⟩
      · cases h

/-- The attempts run once the expected record and the replacement are checked. -/
theorem persistOrRead_of_checked {replacement : ExecutionReceipt}
    {replacement_record : StoredRecord ExecutionReceipt} {first second : PersistAttempt}
    (hmake : StoredRecord.make replacement (expected.revision+1)=.ok replacement_record)
    (hadopted : validAdoptedReceipt sha256 target idempotency_key expires_at binding expected=
      true)
    (hreplacement : validAdoptedReceipt sha256 target idempotency_key expires_at binding
      replacement_record=true)
    (hvalid : validMonotonicResolution expected replacement_record=true) :
    persistOrRead sha256 target idempotency_key expires_at binding expected replacement first
        second=
      .ok (persistAttempts sha256 target idempotency_key expires_at binding expected
        replacement_record [first,second]) := by
  rw [persistOrRead,bind_of_ok hmake]
  simp only [hadopted,hreplacement,hvalid,Bool.true_eq_false,or_self,if_false]
  rfl

end

/-- The coordinator accepts exactly what the store can produce. What a run of the
store leads to is a history of accepted replacements; every such history passes
the test of the coordinator; and a later record that passes it has the same
immutable binding and creation time, keeps the evidence and the fixed
observations, and does not follow a final outcome. So a write that failed because of
other writers returns what they stored, and nothing is returned but the own
replacement or a record with these properties. -/
theorem coordinator_accepts_histories (sha256 : Bytes → Sha256Digest) (target : TargetBinding) :
    (∀ database actions idempotency_key expected current,
      Database.readReceipt sha256 database target idempotency_key=.ok (some expected) →
        (run (step sha256) database actions).readReceipt sha256 target idempotency_key=
            .ok (some current) →
          Relation.ReflTransGen (StoreAccepts sha256 target) expected current) ∧
    (∀ expected current,Relation.TransGen (StoreAccepts sha256 target) expected current →
      validMonotonicResolution expected current=true) ∧
    (∀ expected current,validMonotonicResolution expected current=true →
      expected.revision < current.revision →
        receiptCasBinding expected.value=receiptCasBinding current.value ∧
        expected.value.evidence_ids<+: current.value.evidence_ids ∧
        keepsObservation expected.value.outcome expected.value.observed_authority_epoch
          current.value.observed_authority_epoch ∧
        keepsObservation expected.value.outcome expected.value.provider_operation
          current.value.provider_operation ∧
        isFinal expected.value.outcome=false) ∧
    (∀ idempotency_key expires_at binding expected replacement replacement_record current others,
      StoredRecord.make replacement (expected.revision+1)=.ok replacement_record →
        validAdoptedReceipt sha256 target idempotency_key expires_at binding expected=true →
        validAdoptedReceipt sha256 target idempotency_key expires_at binding
          replacement_record=true →
        validMonotonicResolution expected replacement_record=true →
        Relation.TransGen (StoreAccepts sha256 target) expected current →
          persistOrRead sha256 target idempotency_key expires_at binding expected replacement
            ⟨none,some (some current)⟩ others=.ok (some current) ∧
          persistOrRead sha256 target idempotency_key expires_at binding expected replacement
            ⟨none,some (some expected)⟩ ⟨none,some (some current)⟩=.ok (some current)) ∧
    (∀ idempotency_key expires_at binding expected replacement first second stored,
      persistOrRead sha256 target idempotency_key expires_at binding expected replacement first
          second=.ok (some stored) →
        (stored.value=replacement ∧ stored.revision=expected.revision+1) ∨
        (validAdoptedReceipt sha256 target idempotency_key expires_at binding stored=true ∧
          validMonotonicResolution expected stored=true ∧
          expected.revision < stored.revision)) := by
  refine ⟨?_,?_,?_,?_,?_⟩
  · intro database actions idempotency_key expected current hbefore hafter
    obtain ⟨last,hlast,hchain⟩ := run_keepsHistory database actions expected hbefore
    rw [hafter] at hlast
    rw [Option.some.inj (Except.ok.inj hlast)]
    exact hchain
  · intro expected current hchain
    exact (reachedBy_of_chain hchain).valid
  · intro expected current hvalid hlater
    obtain ⟨hbinding,-,hevidence,hepoch,hoperation,hreachable,-⟩ :=
      (validMonotonicResolution_iff hlater).mp hvalid
    exact ⟨hbinding,hevidence,hepoch,hoperation,not_final_of_reachable hreachable⟩
  · intro idempotency_key expires_at binding expected replacement replacement_record current others
      hmake hadopted hreplacement hvalid hchain
    have hreached := reachedBy_of_chain hchain
    rw [persistOrRead_of_checked hmake hadopted hreplacement hvalid,
      persistOrRead_of_checked hmake hadopted hreplacement hvalid,
      persistAttempts_retries hadopted,persistAttempts_reads hreached hadopted,
      persistAttempts_reads hreached hadopted]
    exact ⟨rfl,rfl⟩
  · intro idempotency_key expires_at binding expected replacement first second stored h
    rw [persistOrRead,bind_eq_ok] at h
    obtain ⟨replacement_record,hmake,h⟩ := h
    split at h
    · cases h
    · rcases persistAttempts_eq_some (Except.ok.inj h) with ⟨hsame,-⟩ | ⟨hadopted,hvalid,hne,-⟩
      · rw [hsame]
        exact .inl (StoredRecord.make_eq_ok hmake)
      · rcases revision_of_valid hvalid with heq | hlater
        · exact absurd heq hne
        · exact .inr ⟨hadopted,hvalid,hlater⟩

end ControlGraph.ReceiptResolution
