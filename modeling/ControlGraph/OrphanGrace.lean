import ControlGraph.DispatchFence

/-!
# The orphan grace and the dispatch of the holder

A delivery that finds a claim takes it for orphaned when its clock is past the
grace, and moves the receipt after reading the target back. The holder of the
claim does not compare its own clock with that grace before it dispatches.
When every dispatch does read a clock before the grace ends, no receipt is
moved out of its claim before the mutation; otherwise it can be.
-/

namespace ControlGraph.OrphanGrace

open Checks ContractText LabelledRuns StorageIdentity ReceiptContracts ReceiptReplacement
  ReceiptStore ReceiptLifecycle ExecutionRequests ExecutionGate ReceiptExecution WaitingPrograms
  DispatchRules DispatchFence

variable {functions : ContractFunctions} {target : TargetBinding}

/-- Readings of a later step are not before readings of an earlier one. -/
def SharedClock (steps : Steps target) : Prop :=
  steps.Pairwise (fun earlier later => ∀ first second : UtcSecond,
    earlier.Reads (some first) → later.Reads (some second) → first.1 ≤ second.1)

/-- Changes of the surroundings that replace a claim only for a delivery that called
for it, when its commit lands late. -/
def ClaimsAreTheirs (state : Executions target) : Change → Prop
  | .store (.compareAndSet _ expected replacement _ _) => expected.value.outcome=.claimed →
    ∃ index process,state.processes index=some process ∧
      Event.called (Operation.compareAndSetReceipt expected replacement)∈process.history
  | _ => True

/-- Every dispatch of a history read a clock before the grace of its claim ended. -/
def DispatchesInTime (history : History) : Prop :=
  ∀ earlier (now : UtcSecond) permit later,
    history=earlier++Event.looked (some now)::Event.called (Operation.mutate permit)::later →
      ∀ claim stored orphan_recovery_at,Created earlier claim stored →
        orphanRecoveryAt stored.value=.ok orphan_recovery_at → now.1 < orphan_recovery_at

/-- A step of the store keeps a claim, or replaces exactly it. -/
theorem claimed_step {database : Database} {action : StoreAction} {document_id : Sha256Digest}
    {document : Document ExecutionReceipt} (h : database.receipts document_id=some document)
    (hclaimed : document.stored.value.outcome=.claimed) :
    (step functions.sha256 database action).receipts document_id=some document ∨
      ∃ configured replacement mutation_id report,
        action=.compareAndSet configured document.stored replacement mutation_id report := by
  have hwrite : ∀ (prepared : PreparedReceipt) (current : Document ExecutionReceipt),
      database.receipts prepared.document_id=some current →
        current.stored≠document.stored →
          (database.putReceipt prepared).receipts document_id=some document := by
    intro prepared current hcurrent hne
    have hid : document_id≠prepared.document_id := by
      intro hsame
      rw [hsame,hcurrent] at h
      exact hne (congrArg Document.stored (Option.some.inj h))
    rw [putReceipt_receipts_ne hid]
    exact h
  cases action with
  | others authorities service_claims => exact .inl h
  | claimOrAdopt configured receipt binding mutation_id report =>
    rw [step]
    rcases claimOrAdoptReceipt_fst with hsame | ⟨prepared,-,habsent,hwritten⟩
    · rw [hsame]
      exact .inl h
    · have hid : document_id≠prepared.document_id := by
        intro hsame
        rw [hsame,habsent] at h
        cases h
      rw [hwritten,putReceipt_receipts_ne hid]
      exact .inl h
  | compareAndSet configured expected replacement mutation_id report =>
    by_cases hexpected : expected=document.stored
    · rw [hexpected]
      exact .inr ⟨configured,replacement,mutation_id,report,rfl⟩
    · rw [step,compareAndSetReceipt]
      rcases writeReplacement_fst with hsame | ⟨prepared,-,hbody⟩
      · rw [hsame]
        exact .inl h
      · obtain ⟨hwritten,current,hcurrent,-,hfound⟩ := updateReceipt_eq_ok hbody
        rw [hwritten]
        exact .inl (hwrite prepared current hcurrent (by rw [hfound]; exact hexpected))
  | resolveAmbiguous configured expected replacement authority service_claim mutation_id report =>
    rw [step,resolveAmbiguousReceipt]
    rcases writeReplacement_fst with hsame | ⟨prepared,hprepared,hbody⟩
    · rw [hsame]
      exact .inl h
    · obtain ⟨⟨-,hfence⟩,-⟩ := prepareResolution_eq_ok.mp hprepared
      obtain ⟨hwritten,⟨current,hcurrent,-,hfound⟩,-,-⟩ := updateResolvedReceipt_eq_ok hbody
      have hne : current.stored≠document.stored := by
        intro hsame
        have hambiguous := hfence.1
        rw [← hfound,hsame,hclaimed] at hambiguous
        cases hambiguous
      rw [hwritten]
      exact .inl (hwrite prepared current hcurrent hne)

/-- An operation keeps a claim, or is a replacement of exactly it. -/
theorem claimed_perform {answers : Answers} {world : World} {op : Operation}
    {document_id : Sha256Digest} {document : Document ExecutionReceipt}
    (h : world.database.receipts document_id=some document)
    (hclaimed : document.stored.value.outcome=.claimed) :
    (perform functions target answers world op).1.database.receipts document_id=some document ∨
      ∃ replacement,op=.compareAndSetReceipt document.stored replacement := by
  have hstep : ∀ action,(step functions.sha256 world.database action).receipts document_id=
      some document ∨ ∃ configured replacement mutation_id report,
        action=.compareAndSet configured document.stored replacement mutation_id report :=
    fun action => claimed_step h hclaimed
  cases op with
  | claimOrAdoptReceipt receipt binding =>
    rcases hstep (.claimOrAdopt target receipt binding answers.mutation_id answers.report) with
      hkept | ⟨_,_,_,_,haction⟩
    · exact .inl hkept
    · cases haction
  | compareAndSetReceipt expected replacement =>
    rcases hstep (.compareAndSet target expected replacement answers.mutation_id answers.report)
      with hkept | ⟨_,_,_,_,haction⟩
    · exact .inl hkept
    · cases haction
      exact .inr ⟨replacement,rfl⟩
  | _ => exact .inl h

/-- Where the claim of a holder is: still stored, or replaced by its holder, or found
by a delivery after the grace. -/
def Waits (functions : ContractFunctions) (state : Executions target) (history : History)
    (claim : ExecutionReceipt) (stored : StoredRecord ExecutionReceipt) : Prop :=
  (∃ document_id document,
    executionReceiptDocumentId functions.sha256 target claim.idempotency_key=.ok document_id ∧
      state.world.database.receipts document_id=some document ∧ document.stored=stored) ∨
  (∃ expected replacement,
    Event.called (Operation.compareAndSetReceipt expected replacement)∈history) ∨
  ∃ index process,state.processes index=some process ∧ LateLook process.history stored.value

/-- The claims of all holders wait. -/
def ClaimsWait (functions : ContractFunctions) (state : Executions target) : Prop :=
  ∀ index process claim stored,state.processes index=some process →
    Created process.history claim stored → stored.value=claim ∧ claim.outcome=.claimed ∧
      Waits functions state process.history claim stored

section

variable {state next : Executions target}

/-- Histories grow from one state to another. -/
def Grows (state next : Executions target) : Prop :=
  ∀ index process,state.processes index=some process → ∃ later,
    next.processes index=some later ∧ process.history⊆later.history

theorem late_grows {receipt : ExecutionReceipt} (hgrows : Grows state next)
    (h : ∃ index process,state.processes index=some process ∧ LateLook process.history receipt) :
    ∃ index process,next.processes index=some process ∧ LateLook process.history receipt := by
  obtain ⟨index,process,hprocess,hlate⟩ := h
  obtain ⟨later,hlater,hsubset⟩ := hgrows index process hprocess
  exact ⟨index,later,hlater,hlate.mono hsubset⟩

/-- A claim that is replaced is replaced by its holder or after a late look. -/
theorem waits_of_called (hok : AllOk rules (fun _ => []) (fun _ => anyEnd) state)
    (howned : Owned functions state) {index other : Nat}
    {process found : Process Operation Operation.Result (Option UtcSecond) Raised
      ReceiptExecutionResponse (Delivery target)}
    {claim replacement : ExecutionReceipt} {stored : StoredRecord ExecutionReceipt}
    (hprocess : state.processes index=some process) (hcreated : Created process.history claim stored)
    (hvalue : stored.value=claim) (hclaimed : claim.outcome=.claimed)
    (hfound : state.processes other=some found)
    (hcalled : Event.called (Operation.compareAndSetReceipt stored replacement)∈found.history) :
    (∃ expected replacement,
      Event.called (Operation.compareAndSetReceipt expected replacement)∈process.history) ∨
    LateLook found.history stored.value := by
  obtain ⟨earlier,later,hsplit⟩ := List.append_of_mem hcalled
  have hallowed : MayReplace earlier stored := allowed_of_ok (hok other found hfound) hsplit
  have hearlier : earlier⊆found.history := by
    rw [hsplit]
    exact List.subset_append_left _ _
  rcases hallowed (by rw [hvalue]; exact hclaimed) with ⟨second,receipt,hkey,hsecond⟩ | hlate
  · have hsame : index=other := by
      refine howned.alone index other claim second stored receipt ⟨process,hprocess,hcreated⟩
        ⟨found,hfound,hsecond.mono hearlier⟩ ?_
      rw [hkey,hvalue]
    rw [hsame,hfound] at hprocess
    rw [← Option.some.inj hprocess]
    exact .inl ⟨stored,replacement,hcalled⟩
  · exact .inr (hlate.mono hearlier)

/-- A claim goes on waiting when the database keeps it or a delivery called for its
replacement. -/
theorem waits_next (hok : AllOk rules (fun _ => []) (fun _ => anyEnd) state)
    (howned : Owned functions state) (hgrows : Grows state next) {index : Nat}
    {process later : Process Operation Operation.Result (Option UtcSecond) Raised
      ReceiptExecutionResponse (Delivery target)}
    {claim : ExecutionReceipt} {stored : StoredRecord ExecutionReceipt}
    (hprocess : state.processes index=some process) (hlater : process.history⊆later.history)
    (hcreated : Created process.history claim stored) (hstate : ClaimsWait functions state)
    (hnext : ∀ document_id document,state.world.database.receipts document_id=some document →
      document.stored.value.outcome=.claimed →
        next.world.database.receipts document_id=some document ∨ ∃ other found replacement,
          state.processes other=some found ∧ Event.called
            (Operation.compareAndSetReceipt document.stored replacement)∈found.history) :
    stored.value=claim ∧ claim.outcome=.claimed ∧
      Waits functions next later.history claim stored := by
  obtain ⟨hvalue,hclaimed,hwaits⟩ := hstate index process claim stored hprocess hcreated
  refine ⟨hvalue,hclaimed,?_⟩
  rcases hwaits with ⟨document_id,document,hid,hdocument,hstored⟩ | ⟨expected,replacement,hcalled⟩ |
    hlate
  · have hopen : document.stored.value.outcome=.claimed := by
      rw [hstored,hvalue]
      exact hclaimed
    rcases hnext document_id document hdocument hopen with
      hkept | ⟨other,found,replacement,hfound,hcalled⟩
    · exact .inl ⟨document_id,document,hid,hkept,hstored⟩
    · rw [hstored] at hcalled
      rcases waits_of_called hok howned hprocess hcreated hvalue hclaimed hfound hcalled with
        ⟨expected,replacement,howner⟩ | hlate
      · exact .inr (.inl ⟨expected,replacement,hlater howner⟩)
      · exact .inr (.inr (late_grows hgrows ⟨other,found,hfound,hlate⟩))
  · exact .inr (.inl ⟨expected,replacement,hlater hcalled⟩)
  · exact .inr (.inr (late_grows hgrows hlate))

/-- Histories grow when a delivery is put in the place of one with less history. -/
theorem grows_put {index : Nat} {world : World} {process : Process Operation Operation.Result
      (Option UtcSecond) Raised ReceiptExecutionResponse (Delivery target)}
    (h : ∀ found,state.processes index=some found → found.history⊆process.history) :
    Grows state ({state with world := world}.put index process) := by
  intro other found hfound
  by_cases hsame : other=index
  · rw [hsame] at hfound ⊢
    exact ⟨process,put_self,h found hfound⟩
  · exact ⟨found,by rw [put_other hsame]; exact hfound,List.Subset.refl _⟩

theorem claimsWait_resume {index : Nat} {answers : Answers} {readings : Nat → Option UtcSecond}
    {job : Delivery target} {op : Operation} {rest : op.Result → Executor ReceiptExecutionResponse}
    {history : History} (hok : AllOk rules (fun _ => []) (fun _ => anyEnd) state)
    (howned : Owned functions state)
    (hwaiting : state.processes index=some ⟨job,.wait op rest,history⟩)
    (h : ClaimsWait functions state) : ClaimsWait functions
      ({state with world := (perform functions target answers state.world op).1}.put index
        (settle job readings 0 (rest (perform functions target answers state.world op).2)
          (history++[Event.returned op (perform functions target answers state.world op).2]))) := by
  have hsettled : history⊆(settle job readings 0
      (rest (perform functions target answers state.world op).2)
        (history++[Event.returned op (perform functions target answers state.world op).2])).history :=
    ((List.prefix_append _ _).trans prefix_settle).subset
  have hgrows : Grows state
      ({state with world := (perform functions target answers state.world op).1}.put index
        (settle job readings 0 (rest (perform functions target answers state.world op).2)
          (history++[Event.returned op (perform functions target answers state.world op).2]))) := by
    refine grows_put ?_
    intro found hfound
    rw [hwaiting] at hfound
    rw [← Option.some.inj hfound]
    exact hsettled
  have hnext : ∀ document_id document,state.world.database.receipts document_id=some document →
      document.stored.value.outcome=.claimed →
        (perform functions target answers state.world op).1.database.receipts document_id=
            some document ∨ ∃ other found replacement,
          state.processes other=some found ∧ Event.called
            (Operation.compareAndSetReceipt document.stored replacement)∈found.history := by
    intro document_id document hdocument hopen
    have hperform : (perform functions target answers state.world op).1.database.receipts
        document_id=some document ∨
          ∃ replacement,op=.compareAndSetReceipt document.stored replacement :=
      claimed_perform hdocument hopen
    rcases hperform with hkept | ⟨replacement,hop⟩
    · exact .inl hkept
    · obtain ⟨earlier,hearlier⟩ := (hok index _ hwaiting).waiting op rest rfl
      refine .inr ⟨index,_,replacement,hwaiting,?_⟩
      rw [hearlier,← hop]
      exact List.mem_append_right _ List.mem_cons_self
  intro holder process claim stored hprocess hcreated
  rcases put_cases hprocess with ⟨-,rfl⟩ | ⟨hother,hold⟩
  · rcases created_resume hcreated with hbefore | ⟨binding,direct_create,hnew⟩
    · exact waits_next hok howned hgrows hwaiting hsettled hbefore h hnext
    · obtain ⟨prepared,hid,-,hwritten,hstored,hvalue,hclaimed⟩ := created_perform hnew
      refine ⟨by rw [hstored,hvalue],hclaimed,
        .inl ⟨prepared.document_id,prepared.document,hid,?_,hstored.symm⟩⟩
      have hdatabase : ({state with
          world := (perform functions target answers state.world op).1}.put index
            (settle job readings 0 (rest (perform functions target answers state.world op).2)
              (history++[Event.returned op
                (perform functions target answers state.world op).2]))).world.database=
          state.world.database.putReceipt prepared := hwritten
      rw [hdatabase]
      exact putReceipt_receipts
  · exact waits_next hok howned hgrows hold (List.Subset.refl _) hcreated h hnext

theorem run_claimsWait {world : World} {steps : Steps target}
    (hlanded : ∀ earlier change later,steps=earlier++Action.disturb change::later →
      ClaimsAreTheirs (after functions target world earlier) change) :
    ClaimsWait functions (after functions target world steps) := by
  have hboth : Owned functions (after functions target world steps) ∧
      ClaimsWait functions (after functions target world steps) := by
    refine System.run_induction (fun delivery => follows_launch delivery) ClaimsAreTheirs
      (fun state => Owned functions state ∧ ClaimsWait functions state) ?_ ?_ ?_ hlanded ?_
    · intro state index job readings hok hnew hstate
      refine ⟨owned_start hstate.1,?_⟩
      have hgrows : Grows state
          (state.put index (settle job readings 0 ((system functions target).launch job) [])) := by
        refine grows_put ?_
        intro found hfound
        rw [hnew] at hfound
        cases hfound
      intro holder process claim stored hprocess hcreated
      rcases put_cases hprocess with ⟨-,rfl⟩ | ⟨-,hold⟩
      · exact absurd hcreated not_created_start
      · exact waits_next hok hstate.1 hgrows hold (List.Subset.refl _) hcreated hstate.2
          (fun _ _ hdocument _ => .inl hdocument)
    · intro state index answers readings job op next history hok hwaiting hstate
      exact ⟨owned_resume hwaiting hstate.1,claimsWait_resume hok hstate.1 hwaiting hstate.2⟩
    · intro state change hok hpermitted hstate
      refine ⟨owned_disturb hstate.1,?_⟩
      have hgrows : Grows state {state with world := disturb functions change state.world} :=
        fun index process hprocess => ⟨process,hprocess,List.Subset.refl _⟩
      intro holder process claim stored hprocess hcreated
      refine waits_next hok hstate.1 hgrows hprocess (List.Subset.refl _) hcreated hstate.2 ?_
      intro document_id document hdocument hopen
      cases change with
      | authority root_id bundle => exact .inl hdocument
      | store action =>
        have hstep : (step functions.sha256 state.world.database action).receipts document_id=
            some document ∨ ∃ configured replacement mutation_id report,
              action=.compareAndSet configured document.stored replacement mutation_id report :=
          claimed_step hdocument hopen
        rcases hstep with hkept | ⟨configured,replacement,mutation_id,report,rfl⟩
        · exact .inl hkept
        · obtain ⟨other,found,hfound,hcalled⟩ := hpermitted hopen
          exact .inr ⟨other,found,replacement,hfound,hcalled⟩
    · refine ⟨owned_initial,?_⟩
      intro index process claim stored hprocess
      cases hprocess
  exact hboth.2

/-- The database of a later state is reached by steps of the store. -/
theorem database_run {state : Executions target} (steps : Steps target) : ∃ actions,
    (run (system functions target).step state steps).world.database=
      run (step functions.sha256) state.world.database actions := by
  have hstep : ∀ (state : Executions target) action,∃ actions,
      ((system functions target).step state action).world.database=
        run (step functions.sha256) state.world.database actions := by
    intro state action
    have heffect : (system functions target).Effect state action
        ((system functions target).step state action) := System.step_effect action
    generalize (system functions target).step state action=after at heffect
    cases heffect with
    | idle => exact ⟨[],rfl⟩
    | started hnew => exact ⟨[],rfl⟩
    | disturbed change =>
      cases change with
      | store action => exact ⟨[action],rfl⟩
      | authority root_id bundle => exact ⟨[],rfl⟩
    | resumed hwaiting =>
      rename_i index answers readings job op rest history
      have hperform : (perform functions target answers state.world op).1.database=
          state.world.database ∨ ∃ action,
            (perform functions target answers state.world op).1.database=
              step functions.sha256 state.world.database action := perform_database _ _ _
      rcases hperform with hsame | ⟨action,haction⟩
      · exact ⟨[],hsame⟩
      · exact ⟨[action],haction⟩
  refine run_relation (fun first second : Executions target => ∃ actions,
    second.world.database=run (step functions.sha256) first.world.database actions)
      (fun _ => ⟨[],rfl⟩) ?_ hstep
  rintro first second third ⟨earlier,hearlier⟩ ⟨later,hlater⟩
  exact ⟨earlier++later,by rw [hlater,hearlier,run_append]⟩

theorem settled_later {state : Executions target} (steps : Steps target)
    {idempotency_key : Identifier} {stored : StoredRecord ExecutionReceipt}
    (hread : state.world.database.readReceipt functions.sha256 target idempotency_key=
      .ok (some stored)) (hsettled : stored.value.outcome≠.claimed) : ∃ last,
    (run (system functions target).step state steps).world.database.readReceipt functions.sha256
      target idempotency_key=.ok (some last) ∧ last.value.outcome≠.claimed := by
  obtain ⟨actions,hactions⟩ : ∃ actions,
      (run (system functions target).step state steps).world.database=
        run (step functions.sha256) state.world.database actions := database_run steps
  have hkeeps : KeepsReceipts functions.sha256 state.world.database
      (run (step functions.sha256) state.world.database actions) := run_keepsReceipts actions
  obtain ⟨last,hlast,hcontinues,-⟩ := hkeeps target idempotency_key stored hread
  rw [hactions]
  refine ⟨last,hlast,?_⟩
  intro hclaimed
  rw [hcontinues.claimed hclaimed] at hclaimed
  exact hsettled hclaimed

/-- Where a step adds the last of three items in a row, it adds the second as well and
answers the first. -/
theorem split_at_wait {Item : Type} {old tail head rest : List Item}
    {given first second third : Item}
    (h : old++given::tail=head++first::second::third::rest)
    (hlast : ∃ front last,old=front++[last] ∧ last≠first ∧ last≠second) (hnew : third∉old)
    (hfirst : first∉tail) : head=old ∧ tail=second::third::rest := by
  obtain ⟨front,last,hold,hneFirst,hneSecond⟩ := hlast
  rcases List.append_eq_append_iff.mp h with ⟨middle,hhead,hrest⟩ | ⟨middle,hhead,hrest⟩
  · cases middle with
    | nil => exact ⟨by rw [hhead,List.append_nil],(List.cons.inj hrest).2⟩
    | cons item middle =>
      have htail : tail=middle++first::second::third::rest := (List.cons.inj hrest).2
      exact absurd (by rw [htail]; exact List.mem_append_right _ List.mem_cons_self) hfirst
  · match middle,hrest with
    | [],hrest => exact ⟨by rw [hhead,List.append_nil],(List.cons.inj hrest).2.symm⟩
    | [item],hrest =>
      rw [hold] at hhead
      obtain ⟨-,hitem⟩ := List.append_inj' hhead rfl
      have hsame : first=item := (List.cons.inj hrest).1
      exact absurd ((List.singleton_inj.mp hitem).trans hsame.symm) hneFirst
    | [item,other],hrest =>
      have hsplit : front++[last]=(head++[item])++[other] := by
        rw [← hold,hhead,List.append_assoc,List.singleton_append]
      obtain ⟨-,hother⟩ := List.append_inj' hsplit rfl
      have hsame : second=other := (List.cons.inj (List.cons.inj hrest).2).1
      exact absurd ((List.singleton_inj.mp hother).trans hsame.symm) hneSecond
    | item::other::another::middle,hrest =>
      have hsame : third=another := (List.cons.inj (List.cons.inj (List.cons.inj hrest).2).2).1
      exact absurd (by rw [hhead,hsame]; simp only [List.mem_append,List.mem_cons,true_or,or_true])
        hnew

/-- A step that dispatches read the clock, after its process had a direct create and
had touched nothing. -/
theorem dispatch_step {state : Executions target} {action : Action (Option UtcSecond)
      (Delivery target) Answers Change} {index : Nat} {process : Process Operation Operation.Result
      (Option UtcSecond) Raised ReceiptExecutionResponse (Delivery target)} {permit : MutationPermit}
    (hok : AllOk rules (fun _ => []) (fun _ => anyEnd) state)
    (hprocess : ((system functions target).step state action).processes index=some process)
    (hmutated : Event.called (Operation.mutate permit)∈process.history)
    (hbefore : ∀ found,state.processes index=some found →
      Event.called (Operation.mutate permit)∉found.history) :
    ∃ found claim stored now event rest,state.processes index=some found ∧
      Created found.history claim stored ∧ claim.idempotency_key=process.job.key ∧
      Untouched found.history ∧ action.Reads (some now) ∧
      process.history=(found.history++[event])++
        Event.looked (some now)::Event.called (Operation.mutate permit)::rest := by
  have hnext : AllOk rules (fun _ => []) (fun _ => anyEnd)
      ((system functions target).step state action) :=
    step_ok (fun delivery => follows_launch delivery) hok
  obtain ⟨front,rest,hsplit⟩ := List.append_of_mem hmutated
  have hallowed : process.job.orphaned=false ∧ Untouched front ∧
      Fenced process.job.verified front := allowed_of_ok (hnext index process hprocess) hsplit
  obtain ⟨-,huntouched,head,claim,stored,bundle,now,hfront,hkey,hcreated,-⟩ := hallowed
  have heffect : (system functions target).Effect state action
      ((system functions target).step state action) := System.step_effect action
  generalize (system functions target).step state action=after at hprocess heffect hnext
  cases heffect with
  | idle => exact absurd hmutated (hbefore process hprocess)
  | disturbed change => exact absurd hmutated (hbefore process hprocess)
  | started hnew =>
    rename_i started job readings
    rcases put_cases hprocess with ⟨-,rfl⟩ | ⟨-,hold⟩
    · have hstart : Created (settle job readings 0
          ((system functions target).launch job) []).history claim stored := by
        refine hcreated.mono ?_
        rw [hsplit,hfront,List.append_assoc]
        exact List.subset_append_left _ _
      exact absurd hstart not_created_start
    · exact absurd hmutated (hbefore process hold)
  | resumed hwaiting =>
    rename_i resumed answers readings job op next history
    rcases put_cases hprocess with ⟨rfl,rfl⟩ | ⟨-,hold⟩
    · have hsettled : ∃ tail,(settle job readings 0
            (next (perform functions target answers state.world op).2) (history++[Event.returned op
              (perform functions target answers state.world op).2])).history=
          history++[Event.returned op (perform functions target answers state.world op).2]++tail ∧
          (∀ op result,Event.returned op result∉tail) ∧
          ∀ reading,Event.looked reading∈tail → ∃ count,readings count=reading := settle_history
      obtain ⟨tail,htail,hnone,hreadings⟩ := hsettled
      have hjoined : history++Event.returned op
          (perform functions target answers state.world op).2::tail=
            head++Event.returned
              (Operation.readRootCreationBundle job.verified.request.intent.root_id)
              (Except.ok (some bundle))::
                Event.looked (some now)::Event.called (Operation.mutate permit)::rest := by
        rw [List.append_assoc,List.singleton_append] at htail
        rw [← htail]
        refine hsplit.trans ?_
        rw [hfront,List.append_assoc,settle_job]
        rfl
      obtain ⟨earlier,hearlier⟩ := (hok index _ hwaiting).waiting op next rfl
      obtain ⟨hhead,hrest⟩ := split_at_wait hjoined
        ⟨earlier,_,hearlier,fun h => (by cases h),fun h => (by cases h)⟩
        (hbefore _ hwaiting) (hnone _ _)
      rw [hhead] at hcreated hfront
      have hclean : Untouched history := by
        rw [hfront] at huntouched
        exact ⟨fun permit hmem => huntouched.1 permit (List.mem_append_left _ hmem),
          fun expected replacement hmem =>
            huntouched.2 expected replacement (List.mem_append_left _ hmem)⟩
      refine ⟨_,claim,stored,now,
        Event.returned op (perform functions target answers state.world op).2,rest,hwaiting,
        hcreated,hkey,hclean,?_,?_⟩
      · exact hreadings (some now) (by rw [hrest]; exact List.mem_cons_self)
      · rw [hrest] at htail
        exact htail
    · exact absurd hmutated (hbefore process hold)

/-- In every run under one clock, in which claims are replaced only by the deliveries
and every dispatch reads the clock before the grace of its claim ends: once the
receipt of a key is no claim any more, no delivery of the key goes on to mutate. -/
theorem settled_never_dispatched (functions : ContractFunctions) (target : TargetBinding)
    (world : World) (steps : Steps target) (hclock : SharedClock steps)
    (hlanded : ∀ earlier change later,steps=earlier++Action.disturb change::later →
      ClaimsAreTheirs (after functions target world earlier) change)
    (hintime : ∀ index process,(after functions target world steps).processes index=some process →
      DispatchesInTime process.history) :
    ∀ earlier later,steps=earlier++later → ∀ index process permit stored,
      (after functions target world steps).processes index=some process →
      Event.called (Operation.mutate permit)∈process.history →
      (after functions target world earlier).world.database.readReceipt functions.sha256 target
        process.job.key=.ok (some stored) → stored.value.outcome≠.claimed → ∃ before,
          (after functions target world earlier).processes index=some before ∧
            Event.called (Operation.mutate permit)∈before.history := by
  intro earlier later hsteps index process permit stored hprocess hmutated hread hsettled
  by_contra hnot
  have hfinal : after functions target world steps=
      run (system functions target).step (after functions target world earlier) later := by
    rw [hsteps,after,run_append,after]
  rw [hfinal] at hprocess
  obtain ⟨front,action,rest,hlater,hbefore,found,hfound,hcalled⟩ := run_change
    (fun state : Executions target => ∃ found,state.processes index=some found ∧
      Event.called (Operation.mutate permit)∈found.history) hnot ⟨process,hprocess,hmutated⟩
  have hmiddle : run (system functions target).step (after functions target world earlier) front=
      after functions target world (earlier++front) := by
    rw [after,after,run_append]
  rw [hmiddle] at hbefore hfound
  obtain ⟨holder,claim,receipt,now,event,tail,hholder,hcreated,hkey,huntouched,hreads,hhistory⟩ :=
    dispatch_step (run_rules world (earlier++front)) hfound hcalled
      (fun holder hholder hmem => hbefore ⟨holder,hholder,hmem⟩)
  have hwaits : ClaimsWait functions (after functions target world (earlier++front)) := by
    refine run_claimsWait ?_
    intro before change remaining hsplit
    refine hlanded before change (remaining++action::rest) ?_
    rw [hsteps,hlater,← List.append_assoc,hsplit,List.append_assoc,List.cons_append]
  obtain ⟨hvalue,hclaimed,hcases⟩ := hwaits index holder claim receipt hholder hcreated
  have hgrown : ∃ last,(run (system functions target).step
      ((system functions target).step (after functions target world (earlier++front)) action)
        rest).processes index=some last ∧ last.job=found.job ∧ found.history<+:last.history :=
    System.run_history hfound
  obtain ⟨last,hlast,hjob,more,hmore⟩ := hgrown
  have hend : after functions target world steps=run (system functions target).step
      ((system functions target).step (after functions target world (earlier++front)) action)
        rest := by
    rw [hfinal,hlater,run_append,run_cons,hmiddle]
  rw [← hend] at hlast
  rw [← hfinal,hlast] at hprocess
  have hsame : last=process := Option.some.inj hprocess
  rw [hsame] at hjob hmore hlast
  have hdispatched : process.history=(holder.history++[event])++
      Event.looked (some now)::Event.called (Operation.mutate permit)::(tail++more) := by
    rw [← hmore,hhistory,List.append_assoc,List.cons_append,List.cons_append]
  rcases hcases with ⟨document_id,document,hid,hdocument,hstored⟩ | ⟨expected,replacement,hreplaced⟩ |
    ⟨other,delivery,hdelivery,reading,orphan_recovery_at,hlook,horphan,hlate⟩
  · obtain ⟨current,hcurrent,hunclaimed⟩ := settled_later front hread hsettled
    rw [hmiddle,hjob,← hkey] at hcurrent
    obtain ⟨found_id,found_document,hfoundId,hfoundDocument,-,-,rfl⟩ :=
      readReceipt_eq_some.mp hcurrent
    rw [hid] at hfoundId
    rw [← Except.ok.inj hfoundId,hdocument] at hfoundDocument
    rw [← Option.some.inj hfoundDocument,hstored,hvalue] at hunclaimed
    exact hunclaimed hclaimed
  · exact huntouched.2 expected replacement hreplaced
  · have hlooks : ∃ step∈earlier++front,step.Reads (some reading) :=
      System.run_looks hdelivery hlook
    obtain ⟨step,hstep,hreading⟩ := hlooks
    rw [SharedClock,hsteps,hlater,← List.append_assoc,List.pairwise_append] at hclock
    have hordered : reading.1 ≤ now.1 :=
      hclock.2.2 step hstep action List.mem_cons_self reading now hreading hreads
    have hgrace : now.1 < orphan_recovery_at :=
      hintime index process hlast _ now permit _ hdispatched claim receipt orphan_recovery_at
        (hcreated.mono (List.subset_append_left _ _)) horphan
    omega

end

def sampleRoot : RolloutRoot where
  version := .v2
  root_id := ⟨"cgroot:0000000000000000000000000000000000000000000000000000000000000000",by decide⟩
  root_sha256 := zeroSha256
  target := sampleTarget
  concurrency := 80
  content := ""

def sampleSecond (second : Nat) (h : second ≤ 86400) : UtcSecond :=
  ⟨second,utcSecond_small (by omega) (by omega)⟩

/-- Seconds that several samples name. -/
theorem second_900 : 900 ≤ 86400 := by omega

theorem second_1000 : 1000 ≤ 86400 := by omega

theorem second_1060 : 1060 ≤ 86400 := by omega

def sampleIntent : MutationIntent where
  request_id := ⟨"canary-request",by decide⟩
  idempotency_key := ⟨"canary-apply",by decide⟩
  target := sampleTarget
  root_id := sampleRoot.root_id
  root_sha256 := zeroSha256
  epoch := firstEpoch
  action := .applyCanary
  stable_revision := ⟨"controlgraph-reference-target-stable",by decide⟩
  candidate_revision := ⟨"controlgraph-reference-target-candidate",by decide⟩
  stable_percent := 90
  candidate_percent := 10
  concurrency := none
  plan_sha256 := zeroSha256
  provider_etag := ⟨"canary-etag",by decide⟩

def sampleVerified : VerifiedMutation where
  request := {
    kind := .task
    handler_audience := "executor"
    scheduled_at := sampleSecond 900 second_900
    expires_at := sampleSecond 1300 (by omega)
    capability := {
      audience := "executor"
      not_before := sampleSecond 900 second_900
      expires_at := sampleSecond 1300 (by omega)
      claims_sha256 := zeroSha256
      others := "" }
    intent := sampleIntent
    others := "" }
  root := sampleRoot
  lineage_anchor := "anchor"
  caller := {
    role := .executionTaskCaller
    email := "tasks"
    subject := "tasks"
    issuer := "accounts.google.com"
    audience := "executor"
    issued_at := 900
    expires_at := 1300 }
  capability_sha256 := zeroSha256
  claims_sha256 := zeroSha256
  earliest_lineage_issued_at := 900

def sampleFunctions : ContractFunctions where
  sha256 := fun _ => zeroSha256
  contentSha256 := fun _ => some zeroSha256
  capabilityLineageAnchor := fun _ => some "anchor"
  serviceClaimMatchesRoot := fun _ _ => true
  requestSha256 := fun _ => zeroSha256
  capabilitySha256 := fun _ => zeroSha256
  promotionRequestMatchesRoot := fun _ _ => false
  recoveryRequestMatchesRoot := fun _ _ => false
  rootConfigurationSha256 := fun _ _ _ => zeroSha256
  projectionSha256 := fun _ => zeroSha256
  sourceReceiptDenial := fun _ _ => none


def sampleGate : FinalMutationGate where
  target := sampleTarget
  service_role := .executor
  route_policy := {
    role := .executionTaskCaller
    email := "tasks"
    subject := "tasks"
    audience := "executor" }
  mutation_purpose := .standardExecution
  has_source_receipt_reader := false
  executor := rfl
  caller := rfl

def sampleDelivery : Delivery sampleTarget where
  gate := sampleGate
  shares := rfl
  verified := sampleVerified
  orphaned := false

def sampleAuthority : EpochAuthorityRecord where
  root_id := sampleRoot.root_id
  root_sha256 := zeroSha256
  target := sampleTarget
  current_epoch := firstEpoch
  previous_epoch := none
  revision := 0
  cause := .rootCreated
  changed_by := ⟨"operator",by decide⟩
  request_id := ⟨"request-0",by decide⟩
  evidence_id := ⟨"evidence-0",firstEvidence⟩
  changed_at := sampleSecond 800 (by omega)
  accepted := by
    simp only [validateTransitionShape,check_bind_eq_ok,require_eq_ok]
    decide

def sampleServiceClaim : ServiceClaimRecord where
  version := .v2
  target := sampleTarget
  root_id := sampleRoot.root_id
  root_sha256 := zeroSha256
  status := .active
  release_fence_epoch := none
  release_fence_authority_revision := none
  release_fenced_by := none
  release_fence_request_id := none
  release_fence_evidence_id := none
  release_fenced_at := none
  others := ""

def firstRevision {Record : Type} (record : Record) : StoredRecord Record :=
  ⟨record,0,Nat.zero_le _⟩

def sampleBundle : RootAuthorityBundle where
  root := firstRevision sampleRoot
  service_claim := firstRevision sampleServiceClaim
  authority := firstRevision sampleAuthority
  lineage_anchor := firstRevision "anchor"

def sampleWorld : World := ⟨emptyDatabase,fun _ => some sampleBundle⟩

def samplePrepared : PreparedTargetMutation where
  target := sampleTarget
  service_role := .executor
  kind := .task
  intent := sampleIntent

def sampleApplied : ReceiptMutationResult where
  status := .applied
  provider_operation := some ⟨"operation-1",by decide⟩
  reason_code := none
  shaped := by
    refine ⟨?_,rfl,by decide⟩
    intro operation hoperation
    cases hoperation
    decide

def sampleAnswers (report : ProviderReport) : Answers where
  mutation_id := ⟨"canary-write",by decide⟩
  report := report
  failure := none
  prepared := some samplePrepared
  mutation := some sampleApplied
  observation := some ⟨none,none⟩

/-- A clock that stands at one second. -/
def clockAt (second : Nat) (h : second ≤ 86400) : Nat → Option UtcSecond :=
  fun _ => some (sampleSecond second h)

def sampleClaimSteps : Steps sampleTarget :=
  [.start 0 sampleDelivery (clockAt 1000 second_1000),
    .resume 0 (sampleAnswers confirmingProvider) (clockAt 1000 second_1000)]

def sampleClaimed : Database :=
  (after sampleFunctions sampleTarget sampleWorld sampleClaimSteps).world.database

/-- At second 1060 a second delivery adopts the claim, cannot read the target back, and
moves the receipt to an ambiguous outcome. -/
def sampleReadbackSteps : Steps sampleTarget :=
  sampleClaimSteps++[.start 1 sampleDelivery (clockAt 1060 second_1060),
    .resume 1 (sampleAnswers ⟨.contention,none,some sampleClaimed⟩) (clockAt 1060 second_1060),
    .resume 1 (sampleAnswers confirmingProvider) (clockAt 1060 second_1060),
    .resume 1 (sampleAnswers confirmingProvider) (clockAt 1060 second_1060)]

def sampleDispatchSteps (second : Nat) (h : second ≤ 86400) : Steps sampleTarget :=
  [.resume 0 (sampleAnswers confirmingProvider) (clockAt second h),
    .resume 0 (sampleAnswers confirmingProvider) (clockAt second h)]

def sampleTimelySteps : Steps sampleTarget :=
  sampleClaimSteps++sampleDispatchSteps 1005 (by omega)++sampleDispatchSteps 1006 (by omega)

def isMutation : Event Operation Operation.Result (Option UtcSecond) → Bool
  | .called (.mutate _) => true
  | _ => false

theorem exists_mutation {history : History} (h : history.any isMutation=true) :
    ∃ permit,Event.called (Operation.mutate permit)∈history := by
  obtain ⟨event,hmem,hevent⟩ := List.any_eq_true.mp h
  cases event with
  | called op =>
    cases op with
    | mutate permit => exact ⟨permit,hmem⟩
    | _ => cases hevent
  | _ => cases hevent

def sampleTest (test : History → Bool) (steps : Steps sampleTarget) : Bool :=
  match (after sampleFunctions sampleTarget sampleWorld steps).processes 0 with
  | none => false
  | some process => test process.history

theorem sampleTest_eq_true {test : History → Bool} {steps : Steps sampleTarget} :
    sampleTest test steps=true ↔ ∃ process,
      (after sampleFunctions sampleTarget sampleWorld steps).processes 0=some process ∧
        test process.history=true := by
  unfold sampleTest
  split
  · rename_i hnone
    simp only [hnone,Bool.false_eq_true,reduceCtorEq,false_and,exists_false]
  · rename_i process hprocess
    simp only [hprocess,Option.some.injEq,exists_eq_left']

def sampleMutated : Steps sampleTarget → Bool :=
  sampleTest (fun history => history.any isMutation)

def sampleOutcome (steps : Steps sampleTarget) : Option ReceiptOutcome :=
  match (after sampleFunctions sampleTarget sampleWorld steps).world.database.readReceipt
      sampleFunctions.sha256 sampleTarget sampleDelivery.key with
  | .ok (some stored) => some stored.value.outcome
  | _ => none

theorem exists_outcome {steps : Steps sampleTarget} {outcome : ReceiptOutcome}
    (h : sampleOutcome steps=some outcome) : ∃ stored,
      (after sampleFunctions sampleTarget sampleWorld steps).world.database.readReceipt
        sampleFunctions.sha256 sampleTarget sampleDelivery.key=.ok (some stored) ∧
        stored.value.outcome=outcome := by
  unfold sampleOutcome at h
  split at h
  · rename_i stored hread
    exact ⟨stored,hread,Option.some.inj h⟩
  · cases h

/-- Second of the first reading of a step. -/
def firstSecond : Action (Option UtcSecond) (Delivery target) Answers Change → Int
  | .start _ _ readings => ((readings 0).map Subtype.val).getD 0
  | .resume _ _ readings => ((readings 0).map Subtype.val).getD 0
  | .disturb _ => 0

/-- A step whose readings are all the first one. -/
def Steady (action : Action (Option UtcSecond) (Delivery target) Answers Change) : Prop :=
  ∀ reading : UtcSecond,action.Reads (some reading) → reading.1=firstSecond action

/-- A start under a clock that stands still. -/
theorem steady_start {index second : Nat} {h : second ≤ 86400} {delivery : Delivery target} :
    Steady (.start index delivery (clockAt second h)) := by
  rintro reading ⟨count,hcount⟩
  rw [← Option.some.inj hcount]
  rfl

/-- A resumption under a clock that stands still. -/
theorem steady_resume {index second : Nat} {h : second ≤ 86400} {answers : Answers} :
    Steady (.resume index answers (clockAt second h) :
      Action (Option UtcSecond) (Delivery target) Answers Change) := by
  rintro reading ⟨count,hcount⟩
  rw [← Option.some.inj hcount]
  rfl

theorem sharedClock_of_steady {steps : Steps target} (hsteady : ∀ action∈steps,Steady action)
    (hsorted : steps.Pairwise (fun first second => firstSecond first ≤ firstSecond second)) :
    SharedClock steps := by
  refine hsorted.imp_of_mem ?_
  intro first second hfirst hsecond hordered earlier later hearlier hlater
  rw [hsteady first hfirst earlier hearlier,hsteady second hsecond later hlater]
  exact hordered

/-- Whether a history was timely: its create can be orphaned no earlier than a second
that is after all of its looks. -/
def isTimely (second : Int) (history : History) : Bool :=
  history.all (fun event =>
    match event with
    | .looked (some now) => decide (now.1 < second)
    | .returned (.claimOrAdoptReceipt _ _) (.ok (.created stored _)) =>
      decide (orphanRecoveryAt stored.value=.ok second)
    | _ => true)

theorem dispatchesInTime_of_timely {second : Int} {history : History}
    (h : isTimely second history=true) : DispatchesInTime history := by
  intro earlier now permit later hsplit claim stored orphan_recovery_at hcreated horphan
  have hall := List.all_eq_true.mp h
  have hlook : Event.looked (some now)∈history := by
    rw [hsplit]
    exact List.mem_append_right _ List.mem_cons_self
  obtain ⟨binding,direct_create,hmem⟩ := hcreated
  have hcreate : Event.returned (Operation.claimOrAdoptReceipt claim binding)
      (Except.ok (ReceiptClaimResult.created stored direct_create))∈history := by
    rw [hsplit]
    exact List.mem_append_left _ hmem
  have hsecond := of_decide_eq_true (hall _ hcreate)
  have hbefore := of_decide_eq_true (hall _ hlook)
  rw [horphan] at hsecond
  rw [Except.ok.inj hsecond]
  exact hbefore

/-- The sample steps leave the surroundings alone. -/
theorem landed_of_undisturbed {functions : ContractFunctions} {world : World} {steps : Steps target}
    (h : ∀ change,Action.disturb change∉steps) : ∀ earlier change later,
      steps=earlier++Action.disturb change::later →
        ClaimsAreTheirs (after functions target world earlier) change := by
  intro earlier change later hsplit
  exact absurd (by rw [hsplit]; exact List.mem_append_right _ List.mem_cons_self) (h change)

/-- The holder dispatches in time, and the receipt that it settles is followed by no
further mutation. -/
theorem settled_never_dispatched_timely : ∃ process permit,
    (after sampleFunctions sampleTarget sampleWorld sampleTimelySteps).processes 0=some process ∧
      Event.called (Operation.mutate permit)∈process.history ∧ ∃ before,
        (after sampleFunctions sampleTarget sampleWorld sampleTimelySteps).processes 0=
          some before ∧ Event.called (Operation.mutate permit)∈before.history := by
  have hmutated : sampleMutated sampleTimelySteps=true := by decide +kernel
  have hsettled : sampleOutcome sampleTimelySteps=some .applied := by decide +kernel
  have htimely : sampleTest (isTimely 1060) sampleTimelySteps=true := by decide +kernel
  obtain ⟨process,hprocess,hany⟩ := sampleTest_eq_true.mp hmutated
  obtain ⟨permit,hpermit⟩ := exists_mutation hany
  obtain ⟨stored,hread,houtcome⟩ := exists_outcome hsettled
  refine ⟨process,permit,hprocess,hpermit,?_⟩
  refine settled_never_dispatched sampleFunctions sampleTarget sampleWorld sampleTimelySteps ?_ ?_ ?_
    sampleTimelySteps [] (List.append_nil _).symm 0 process permit stored hprocess hpermit ?_ ?_
  · refine sharedClock_of_steady ?_ (by decide +kernel)
    simp only [sampleTimelySteps,sampleClaimSteps,sampleDispatchSteps,List.cons_append,
      List.nil_append,List.forall_mem_cons]
    exact ⟨steady_start,steady_resume,steady_resume,steady_resume,steady_resume,steady_resume,
      fun action hmem => by cases hmem⟩
  · refine landed_of_undisturbed ?_
    intro change hmem
    simp only [sampleTimelySteps,sampleClaimSteps,sampleDispatchSteps,List.cons_append,
      List.nil_append,List.mem_cons,reduceCtorEq,List.not_mem_nil,or_self] at hmem
  · intro index other hother
    obtain ⟨first,hfirst,htest⟩ := sampleTest_eq_true.mp htimely
    have hstarted : ∃ readings,Action.start index other.job readings∈sampleTimelySteps :=
      System.run_started hother
    obtain ⟨readings,hmem⟩ := hstarted
    simp only [sampleTimelySteps,sampleClaimSteps,sampleDispatchSteps,List.cons_append,
      List.nil_append,List.mem_cons,Action.start.injEq,reduceCtorEq,List.not_mem_nil,or_false] at hmem
    rw [hmem.1,hfirst] at hother
    rw [← Option.some.inj hother]
    exact dispatchesInTime_of_timely htest
  · have hstarted : ∃ readings,Action.start 0 process.job readings∈sampleTimelySteps :=
      System.run_started hprocess
    obtain ⟨readings,hmem⟩ := hstarted
    simp only [sampleTimelySteps,sampleClaimSteps,sampleDispatchSteps,List.cons_append,
      List.nil_append,List.mem_cons,Action.start.injEq,reduceCtorEq,List.not_mem_nil,or_false] at hmem
    rw [hmem.2.1]
    exact hread
  · rw [houtcome]
    exact fun hclaimed => by cases hclaimed

/-- Without a bound on the clock of the dispatch it fails: the holder mutates after
another delivery has moved the receipt to an ambiguous outcome. -/
theorem settled_never_dispatched_refuted :
    ¬∀ (functions : ContractFunctions) (target : TargetBinding) (world : World)
      (steps : Steps target),SharedClock steps →
      (∀ earlier change later,steps=earlier++Action.disturb change::later →
        ClaimsAreTheirs (after functions target world earlier) change) →
      ∀ earlier later,steps=earlier++later → ∀ index process permit stored,
        (after functions target world steps).processes index=some process →
        Event.called (Operation.mutate permit)∈process.history →
        (after functions target world earlier).world.database.readReceipt functions.sha256 target
          process.job.key=.ok (some stored) → stored.value.outcome≠.claimed → ∃ before,
            (after functions target world earlier).processes index=some before ∧
              Event.called (Operation.mutate permit)∈before.history := by
  intro h
  have hmutated : sampleMutated (sampleReadbackSteps++sampleDispatchSteps 1060 (by omega))=true := by
    decide +kernel
  have hbefore : sampleMutated sampleReadbackSteps=false := by decide +kernel
  have hsettled : sampleOutcome sampleReadbackSteps=some .ambiguous := by decide +kernel
  obtain ⟨process,hprocess,hany⟩ := sampleTest_eq_true.mp hmutated
  obtain ⟨permit,hpermit⟩ := exists_mutation hany
  obtain ⟨stored,hread,houtcome⟩ := exists_outcome hsettled
  have hclock : SharedClock (sampleReadbackSteps++sampleDispatchSteps 1060 (by omega)) := by
    refine sharedClock_of_steady ?_ (by decide +kernel)
    simp only [sampleReadbackSteps,sampleClaimSteps,sampleDispatchSteps,List.cons_append,
      List.nil_append,List.forall_mem_cons]
    exact ⟨steady_start,steady_resume,steady_start,steady_resume,steady_resume,steady_resume,
      steady_resume,steady_resume,fun action hmem => by cases hmem⟩
  have hlanded : ∀ change,Action.disturb change∉
      sampleReadbackSteps++sampleDispatchSteps 1060 (by omega) := by
    intro change hmem
    simp only [sampleReadbackSteps,sampleClaimSteps,sampleDispatchSteps,List.cons_append,
      List.nil_append,List.mem_cons,reduceCtorEq,List.not_mem_nil,or_self] at hmem
  have hstarted : ∃ readings,Action.start 0 process.job readings∈
      sampleReadbackSteps++sampleDispatchSteps 1060 (by omega) := System.run_started hprocess
  have hjob : process.job=sampleDelivery := by
    obtain ⟨readings,hmem⟩ := hstarted
    simp only [sampleReadbackSteps,sampleClaimSteps,sampleDispatchSteps,List.cons_append,
      List.nil_append,List.mem_cons,Action.start.injEq,reduceCtorEq,List.not_mem_nil,or_false,
      Nat.zero_ne_one,false_and] at hmem
    exact hmem.2.1
  obtain ⟨found,hfound,hmem⟩ := h sampleFunctions sampleTarget sampleWorld _ hclock
    (landed_of_undisturbed hlanded) sampleReadbackSteps (sampleDispatchSteps 1060 (by omega)) rfl 0
    process permit stored hprocess hpermit (by rw [hjob]; exact hread)
    (by rw [houtcome]; exact fun hclaimed => by cases hclaimed)
  have hafter : sampleMutated sampleReadbackSteps=true :=
    sampleTest_eq_true.mpr ⟨found,hfound,List.any_eq_true.mpr ⟨_,hmem,rfl⟩⟩
  rw [hafter] at hbefore
  cases hbefore

end ControlGraph.OrphanGrace
