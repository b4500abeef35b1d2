import ControlGraph.NamedOperations
import ControlGraph.OrphanGrace

/-!
# When a verified receipt can be located

Deliveries run over one store while others resolve ambiguous receipts and while
commits land late. A receipt that leaves its claim by a reported result names
its operation for ever, under its own epoch, and can be located as soon as it
is verified. One that leaves its claim by a readback alone, after a crash or a
lost answer, is verified without an operation, and no later contract takes it.
-/

namespace ControlGraph.VerifiedCanaries

open Checks ContractText Utf8Text LabelledRuns StorageIdentity ReceiptContracts ReceiptReplacement
  ReceiptStore ReceiptLifecycle ExecutionRequests ExecutionGate ReceiptExecution WaitingPrograms
  DispatchRules DispatchFence OrphanGrace RecoveryReceiptLocators NamedOperations

open AuthorityDatabase (AuthorityFunctions)

open ClaimFence (createRecoveryApplyReceiptLocator)

open HealthProofs (HealthProofFunctions PostApplyHealthAnchorV1Fields)

variable {functions : ContractFunctions} {target : TargetBinding}

/-- Writes of the surroundings that a delivery called for, and whose commits land late. -/
def WritesAreTheirs (state : Executions target) : Change → Prop
  | .store (.claimOrAdopt _ receipt binding _ _) => ∃ index process,
    state.processes index=some process ∧
      Event.called (Operation.claimOrAdoptReceipt receipt binding)∈process.history
  | .store (.compareAndSet _ expected replacement _ _) => ∃ index process,
    state.processes index=some process ∧
      Event.called (Operation.compareAndSetReceipt expected replacement)∈process.history
  | _ => True

/-- What a step of the store left at a document: what was there, the claim of the step, or a
replacement of what was there. -/
theorem step_written {sha256 : Bytes → Sha256Digest} {database : Database} {action : StoreAction}
    {document_id : Sha256Digest} {document : Document ExecutionReceipt}
    (h : (step sha256 database action).receipts document_id=some document) :
    database.receipts document_id=some document ∨
    (∃ configured binding mutation_id report,
      action=.claimOrAdopt configured document.stored.value binding mutation_id report ∧
        document.stored.value.outcome=.claimed) ∨
    ∃ current,database.receipts document_id=some current ∧
      Replaces current.stored.value document.stored.value ∧
      document.stored.revision=current.stored.revision+1 ∧
      ((∃ configured mutation_id report,
        action=.compareAndSet configured current.stored document.stored.value mutation_id report) ∨
        current.stored.value.outcome=.ambiguous) := by
  have hwrite : ∀ prepared : PreparedReceipt,
      (database.putReceipt prepared).receipts document_id=some document →
        database.receipts document_id=some document ∨
          (prepared.document_id=document_id ∧ prepared.document=document) := by
    intro prepared hprepared
    by_cases hid : document_id=prepared.document_id
    · rw [hid,putReceipt_receipts] at hprepared
      exact .inr ⟨hid.symm,Option.some.inj hprepared⟩
    · rw [putReceipt_receipts_ne hid] at hprepared
      exact .inl hprepared
  cases action with
  | others authorities service_claims => exact .inl h
  | claimOrAdopt configured receipt binding mutation_id report =>
    rw [step] at h
    rcases claimOrAdoptReceipt_fst with hsame | ⟨prepared,hprepared,-,hwritten⟩
    · rw [hsame] at h
      exact .inl h
    · rw [hwritten] at h
      rcases hwrite prepared h with hold | ⟨-,rfl⟩
      · exact .inl hold
      · obtain ⟨hclaimed,-,-,hdocument⟩ := prepareClaim_eq_ok.mp hprepared
        have hvalue := (preparedReceipt_eq_ok hdocument).2.2.1
        refine .inr (.inl ⟨configured,binding,mutation_id,report,?_,?_⟩)
        · rw [hvalue]
        · rw [hvalue]
          exact hclaimed
  | compareAndSet configured expected replacement mutation_id report =>
    rw [step,compareAndSetReceipt] at h
    rcases writeReplacement_fst with hsame | ⟨prepared,hprepared,hbody⟩
    · rw [hsame] at h
      exact .inl h
    · obtain ⟨hvalid,-,hdocument⟩ := prepareReplacement_eq_ok.mp hprepared
      obtain ⟨hwritten,current,hcurrent,-,hfound⟩ := updateReceipt_eq_ok hbody
      rw [hwritten] at h
      rcases hwrite prepared h with hold | ⟨hid,rfl⟩
      · exact .inl hold
      · obtain ⟨-,-,hvalue,hrevision⟩ := preparedReceipt_eq_ok hdocument
        have hreplaces := (validateReceiptReplacement_eq_ok.mp hvalid).2.2
        rw [hid] at hcurrent
        refine .inr (.inr ⟨current,hcurrent,?_,?_,.inl ⟨configured,mutation_id,report,?_⟩⟩)
        · rw [hfound,hvalue]
          exact hreplaces
        · rw [hfound,hrevision]
        · rw [hfound,hvalue]
  | resolveAmbiguous configured expected replacement authority service_claim mutation_id report =>
    rw [step,resolveAmbiguousReceipt] at h
    rcases writeReplacement_fst with hsame | ⟨prepared,hprepared,hbody⟩
    · rw [hsame] at h
      exact .inl h
    · obtain ⟨⟨hvalid,hfence⟩,hdocument⟩ := prepareResolution_eq_ok.mp hprepared
      obtain ⟨hwritten,⟨current,hcurrent,-,hfound⟩,-,-⟩ := updateResolvedReceipt_eq_ok hbody
      rw [hwritten] at h
      rcases hwrite prepared h with hold | ⟨hid,rfl⟩
      · exact .inl hold
      · obtain ⟨-,-,hvalue,hrevision⟩ := preparedReceipt_eq_ok hdocument
        have hreplaces := (validateReceiptReplacement_eq_ok.mp hvalid).2.2
        rw [hid] at hcurrent
        refine .inr (.inr ⟨current,hcurrent,?_,?_,.inr ?_⟩)
        · rw [hfound,hvalue]
          exact hreplaces
        · rw [hfound,hrevision]
        · rw [hfound]
          exact hfence.1

/-- A delivery claimed a key, and the provider reported an operation to it. -/
def Source (state : Executions target) (idempotency_key : Identifier) (operation : BoundedText) :
    Prop :=
  ∃ index process claim stored,state.processes index=some process ∧
    Created process.history claim stored ∧ stored.value.idempotency_key=idempotency_key ∧
      Reported process.history operation

/-- What the receipt of a run is like. -/
structure Sound (state : Executions target) (stored : StoredRecord ExecutionReceipt) : Prop where
  /-- Only a claim is at revision zero. -/
  started : stored.revision=0 → stored.value.outcome=.claimed
  /-- A verified receipt is at least the second replacement. -/
  replaced : stored.value.outcome=.verified → 2 ≤ stored.revision
  root : ∃ index process,state.processes index=some process ∧
    stored.value.root_id=process.job.verified.request.intent.root_id ∧
      stored.value.root_sha256=process.job.verified.request.intent.root_sha256
  /-- An operation was reported to the delivery that created the claim. -/
  named : ∀ operation,stored.value.provider_operation=some operation →
    stored.value.observed_authority_epoch=some stored.value.epoch ∧
      RootBound stored.value.root_id stored.value.root_sha256 ∧
        Source state stored.value.idempotency_key operation

/-- Every stored receipt is sound. -/
def AllSound (state : Executions target) : Prop :=
  ∀ document_id document,state.world.database.receipts document_id=some document →
    Sound state document.stored

/-- Deliveries go on from one state to another. -/
def Extends (state next : Executions target) : Prop :=
  ∀ index process,state.processes index=some process → ∃ later,
    next.processes index=some later ∧ later.job=process.job ∧ process.history⊆later.history

section

variable {state next : Executions target}

theorem Source.mono {idempotency_key : Identifier} {operation : BoundedText}
    (hextends : Extends state next) (h : Source state idempotency_key operation) :
    Source next idempotency_key operation := by
  obtain ⟨index,process,claim,stored,hprocess,hcreated,hkey,hreported⟩ := h
  obtain ⟨later,hlater,-,hsubset⟩ := hextends index process hprocess
  exact ⟨index,later,claim,stored,hlater,hcreated.mono hsubset,hkey,hreported.mono hsubset⟩

/-- A sound receipt stays sound when deliveries go on. -/
theorem Sound.mono {stored : StoredRecord ExecutionReceipt} (hextends : Extends state next)
    (h : Sound state stored) : Sound next stored where
  started := h.started
  replaced := h.replaced
  root := by
    obtain ⟨index,process,hprocess,hroot⟩ := h.root
    obtain ⟨later,hlater,hjob,-⟩ := hextends index process hprocess
    exact ⟨index,later,hlater,by rw [hjob]; exact hroot⟩
  named := by
    intro operation hoperation
    obtain ⟨hepoch,hbound,hsource⟩ := h.named operation hoperation
    exact ⟨hepoch,hbound,hsource.mono hextends⟩

theorem sound_claim {stored : StoredRecord ExecutionReceipt} {index : Nat}
    {process : Process Operation Operation.Result (Option UtcSecond) Raised
      ReceiptExecutionResponse (Delivery target)}
    (hprocess : state.processes index=some process) (hclaimed : stored.value.outcome=.claimed)
    (hroot : stored.value.root_id=process.job.verified.request.intent.root_id ∧
      stored.value.root_sha256=process.job.verified.request.intent.root_sha256) :
    Sound state stored where
  started := fun _ => hclaimed
  replaced := by
    intro hverified
    rw [hclaimed] at hverified
    cases hverified
  root := ⟨index,process,hprocess,hroot⟩
  named := by
    intro operation hoperation
    rw [operation_of_refused (.inl hclaimed)] at hoperation
    cases hoperation

/-- A replacement of a sound receipt is sound when it repeats operation and epoch or was
written by a delivery that may write it. -/
theorem sound_replacement {current stored : StoredRecord ExecutionReceipt}
    (h : Sound state current) (hreplaces : Replaces current.value stored.value)
    (hrevision : stored.revision=current.revision+1)
    (hwriter : (∃ index process,state.processes index=some process ∧
        MayName process.history current stored.value) ∨ current.value.outcome=.ambiguous) :
    Sound state stored := by
  have hbinding := congrArg Prod.fst hreplaces.binding
  have hkey : current.value.idempotency_key=stored.value.idempotency_key :=
    congrArg ReceiptSemanticBinding.idempotency_key hbinding
  have hroot : current.value.root_id=stored.value.root_id :=
    congrArg ReceiptSemanticBinding.root_id hbinding
  have hdigest : current.value.root_sha256=stored.value.root_sha256 :=
    congrArg ReceiptSemanticBinding.root_sha256 hbinding
  have hepochs : current.value.epoch=stored.value.epoch :=
    congrArg ReceiptSemanticBinding.epoch hbinding
  have hsame : ∀ operation,current.value.provider_operation=some operation →
      stored.value.observed_authority_epoch=current.value.observed_authority_epoch →
        stored.value.observed_authority_epoch=some stored.value.epoch ∧
          RootBound stored.value.root_id stored.value.root_sha256 ∧
            Source state stored.value.idempotency_key operation := by
    intro operation hoperation hobserved
    obtain ⟨hepoch,hbound,hsource⟩ := h.named operation hoperation
    rw [hobserved,← hepochs,← hroot,← hdigest,← hkey]
    exact ⟨hepoch,hbound,hsource⟩
  refine ⟨?_,?_,?_,?_⟩
  · intro hzero
    omega
  · intro hverified
    have hstarted : current.revision≠0 := by
      intro hzero
      have hclaimed := h.started hzero
      rcases hreplaces.verified_from hverified with happlied | hambiguous
      · rw [hclaimed] at happlied
        cases happlied
      · rw [hclaimed] at hambiguous
        cases hambiguous
    omega
  · obtain ⟨index,process,hprocess,hfound⟩ := h.root
    rw [hroot,hdigest] at hfound
    exact ⟨index,process,hprocess,hfound⟩
  · intro operation hoperation
    rcases hwriter with ⟨index,process,hprocess,hname⟩ | hambiguous
    · rcases hname operation hoperation with ⟨hrepeated,hobserved⟩ | hobserves
      · exact hsame operation hrepeated hobserved
      · obtain ⟨claim,hcreated⟩ := hobserves.created
        refine ⟨?_,?_,index,process,claim,current,hprocess,hcreated,hkey,hobserves.reported⟩
        · rw [hobserves.epoch,hepochs]
        · rw [← hroot,← hdigest]
          exact hobserves.bound
    · -- A resolution starts from an ambiguous receipt, whose observations are fixed.
      have hleft : current.value.outcome≠.claimed := by
        rw [hambiguous]
        exact fun hclaimed => by cases hclaimed
      have hpresent : current.value.provider_operation≠none := by
        intro hnone
        rw [hreplaces.operation.2 hleft hnone] at hoperation
        cases hoperation
      have hrepeated : current.value.provider_operation=some operation := by
        rw [← hreplaces.operation.1 hpresent]
        exact hoperation
      have hepoch := (h.named operation hrepeated).1
      refine hsame operation hrepeated (hreplaces.epoch.1 ?_)
      rw [hepoch]
      exact Option.some_ne_none _

/-- What a delivery called for in a history, it was allowed to. -/
theorem mayWrite_of_called (hok : AllOk writingRules (fun _ => []) (fun _ => anyEnd) state)
    {index : Nat} {process : Process Operation Operation.Result (Option UtcSecond) Raised
      ReceiptExecutionResponse (Delivery target)} {op : Operation}
    (hprocess : state.processes index=some process) (hcalled : Event.called op∈process.history) :
    ∃ earlier,earlier⊆process.history ∧ mayWrite process.job earlier op := by
  obtain ⟨earlier,later,hsplit⟩ := List.append_of_mem hcalled
  have hallowed := (hok index process hprocess).past earlier op later hsplit
  rw [writingRules,recording_after,List.nil_append] at hallowed
  refine ⟨earlier,?_,hallowed⟩
  rw [hsplit]
  exact List.subset_append_left _ _

/-- Receipts stay sound under a step of the store that deliveries called for. -/
theorem allSound_step (hok : AllOk writingRules (fun _ => []) (fun _ => anyEnd) state)
    (hextends : Extends state next) {action : StoreAction}
    (htheirs : WritesAreTheirs state (.store action))
    (hdatabase : next.world.database=step functions.sha256 state.world.database action)
    (h : AllSound state) : AllSound next := by
  intro document_id document hdocument
  rw [hdatabase] at hdocument
  refine Sound.mono hextends ?_
  rcases step_written hdocument with hold | ⟨configured,binding,mutation_id,report,haction,hclaimed⟩ |
    ⟨current,hcurrent,hreplaces,hrevision,hwriter⟩
  · exact h document_id document hold
  · rw [haction] at htheirs
    obtain ⟨index,process,hprocess,hcalled⟩ := htheirs
    obtain ⟨earlier,-,hroot⟩ := mayWrite_of_called hok hprocess hcalled
    exact sound_claim hprocess hclaimed hroot
  · refine sound_replacement (h document_id current hcurrent) hreplaces hrevision ?_
    rcases hwriter with ⟨configured,mutation_id,report,haction⟩ | hambiguous
    · rw [haction] at htheirs
      obtain ⟨index,process,hprocess,hcalled⟩ := htheirs
      obtain ⟨earlier,hsubset,hname⟩ := mayWrite_of_called hok hprocess hcalled
      have hmay : MayName earlier current.stored document.stored.value := hname
      exact .inl ⟨index,process,hprocess,hmay.mono hsubset⟩
    · exact .inr hambiguous

/-- Deliveries go on when one is put in the place of itself with more history. -/
theorem extends_put {index : Nat} {world : World} {process : Process Operation Operation.Result
      (Option UtcSecond) Raised ReceiptExecutionResponse (Delivery target)}
    (h : ∀ found,state.processes index=some found →
      process.job=found.job ∧ found.history⊆process.history) :
    Extends state ({state with world := world}.put index process) := by
  intro other found hfound
  by_cases hsame : other=index
  · rw [hsame] at hfound ⊢
    exact ⟨process,put_self,h found hfound⟩
  · exact ⟨found,by rw [put_other hsame]; exact hfound,rfl,List.Subset.refl _⟩

theorem allSound_resume {index : Nat} {answers : Answers} {readings : Nat → Option UtcSecond}
    {job : Delivery target} {op : Operation} {rest : op.Result → Executor ReceiptExecutionResponse}
    {history : History} (hok : AllOk writingRules (fun _ => []) (fun _ => anyEnd) state)
    (hwaiting : state.processes index=some ⟨job,.wait op rest,history⟩)
    (h : AllSound state) : AllSound
      ({state with world := (perform functions target answers state.world op).1}.put index
        (settle job readings 0 (rest (perform functions target answers state.world op).2)
          (history++[Event.returned op (perform functions target answers state.world op).2]))) := by
  have hextends : Extends state
      ({state with world := (perform functions target answers state.world op).1}.put index
        (settle job readings 0 (rest (perform functions target answers state.world op).2)
          (history++[Event.returned op (perform functions target answers state.world op).2]))) := by
    refine extends_put ?_
    intro found hfound
    rw [hwaiting] at hfound
    rw [← Option.some.inj hfound]
    exact ⟨settle_job,((List.prefix_append _ _).trans prefix_settle).subset⟩
  have hcalled : Event.called op∈history := by
    obtain ⟨earlier,hearlier⟩ := (hok index _ hwaiting).waiting op rest rfl
    have hlast : history=earlier++[Event.called op] := hearlier
    rw [hlast]
    exact List.mem_append_right _ List.mem_cons_self
  cases op with
  | claimOrAdoptReceipt receipt binding =>
    have htheirs : WritesAreTheirs state
        (.store (.claimOrAdopt target receipt binding answers.mutation_id answers.report)) :=
      ⟨index,_,hwaiting,hcalled⟩
    exact allSound_step hok hextends htheirs rfl h
  | compareAndSetReceipt expected replacement =>
    have htheirs : WritesAreTheirs state
        (.store (.compareAndSet target expected replacement answers.mutation_id answers.report)) :=
      ⟨index,_,hwaiting,hcalled⟩
    exact allSound_step hok hextends htheirs rfl h
  | _ => exact fun document_id document hdocument =>
      (h document_id document hdocument).mono hextends

/-- In every run over an empty store whose writes are called for by deliveries, every stored
receipt is sound. -/
theorem run_allSound {world : World} {steps : Steps target}
    (hempty : world.database.receipts=fun _ => none)
    (hlanded : ∀ earlier change later,steps=earlier++Action.disturb change::later →
      WritesAreTheirs (after functions target world earlier) change) :
    AllSound (after functions target world steps) := by
  refine System.run_induction (fun delivery => writes_launch delivery) WritesAreTheirs AllSound
    ?_ ?_ ?_ hlanded ?_
  · intro state index job readings hok hnew hstate document_id document hdocument
    refine (hstate document_id document hdocument).mono ?_
    refine extends_put ?_
    intro found hfound
    rw [hnew] at hfound
    cases hfound
  · intro state index answers readings job op rest history hok hwaiting hstate
    exact allSound_resume hok hwaiting hstate
  · intro state change hok htheirs hstate
    have hextends : Extends state {state with world := disturb functions change state.world} :=
      fun index process hprocess => ⟨process,hprocess,rfl,List.Subset.refl _⟩
    cases change with
    | store action => exact allSound_step hok hextends htheirs rfl hstate
    | authority root_id bundle => exact fun document_id document hdocument =>
        (hstate document_id document hdocument).mono hextends
  · intro document_id document hdocument
    have hinitial : world.database.receipts document_id=some document := hdocument
    rw [hempty] at hinitial
    cases hinitial

end

section

variable {state : Executions target} {stored : StoredRecord ExecutionReceipt}

/-- A verified receipt of a run is complete exactly when it names an operation. -/
theorem Sound.complete_iff (h : Sound state stored) (hverified : stored.value.outcome=.verified) :
    Complete stored.value ↔ stored.value.provider_operation≠none := by
  constructor
  · exact fun hcomplete => hcomplete.operation
  · intro hnamed
    obtain ⟨operation,hoperation⟩ := Option.ne_none_iff_exists'.mp hnamed
    exact ⟨hnamed,etag_of_verified hverified,(h.named operation hoperation).1⟩

/-- A receipt of a run in which every delivery is bound to its root is bound to its own. -/
theorem Sound.bound (h : Sound state stored)
    (hbound : ∀ index process,state.processes index=some process → RootBound
      process.job.verified.request.intent.root_id
      process.job.verified.request.intent.root_sha256) :
    RootBound stored.value.root_id stored.value.root_sha256 := by
  obtain ⟨index,process,hprocess,hroot,hdigest⟩ := h.root
  rw [hroot,hdigest]
  exact hbound index process hprocess

/-- A receipt that left its claim is at a revision of a locator. -/
theorem Sound.left (h : Sound state stored) (hleft : stored.value.outcome≠.claimed) :
    1 ≤ stored.revision := by
  have hzero : stored.revision≠0 := fun hzero => hleft (h.started hzero)
  omega

end

/-- A receipt that left its claim keeps whether and which operation it names. -/
theorem operation_kept {functions : ContractFunctions} {world : World} {earlier later : Steps target}
    {idempotency_key : Identifier} {first stored : StoredRecord ExecutionReceipt}
    (hfirst : (after functions target world earlier).world.database.readReceipt functions.sha256
      target idempotency_key=.ok (some first)) (hleft : first.value.outcome≠.claimed)
    (hread : (after functions target world (earlier++later)).world.database.readReceipt
      functions.sha256 target idempotency_key=.ok (some stored)) :
    stored.value.provider_operation=first.value.provider_operation := by
  have hlater : after functions target world (earlier++later)=
      run (system functions target).step (after functions target world earlier) later := by
    rw [after,run_append,after]
  rw [hlater] at hread
  obtain ⟨actions,hactions⟩ : ∃ actions,
      (run (system functions target).step (after functions target world earlier)
          later).world.database=
        run (step functions.sha256) (after functions target world earlier).world.database actions :=
    database_run later
  have hkeeps : KeepsReceipts functions.sha256 (after functions target world earlier).world.database
      (run (step functions.sha256) (after functions target world earlier).world.database actions) :=
    run_keepsReceipts actions
  obtain ⟨last,hlast,hcontinues,-⟩ := hkeeps target idempotency_key first hfirst
  rw [hactions,hlast] at hread
  have hsame : last=stored := Option.some.inj (Except.ok.inj hread)
  rw [hsame] at hcontinues
  by_cases hnone : first.value.provider_operation=none
  · rw [hcontinues.operation.2 hleft hnone,hnone]
  · exact hcontinues.operation.1 hnone

/-- In every run over an empty store of the reference service, of deliveries that are bound to
their roots, whose writes are all called for by deliveries: a verified receipt has no reason and
an etag at the second replacement or later, and a canary among them has a locator, and meets the
conditions of every anchor that describes it, exactly when it names an operation; a recovery
receipt that left its claim has a locator, unless it is verified without an operation; an
operation was reported to the delivery that created the claim; and the first replacement of a
claim settles for ever which operation the receipt names, which an applied one does. -/
theorem verified_canary_located (functions : ContractFunctions)
    (authority_functions : AuthorityFunctions) (target : TargetBinding) (world : World)
    (steps : Steps target) (hempty : world.database.receipts=fun _ => none)
    (htarget : isServiceClaimTarget target=true)
    (hbound : ∀ index job readings,Action.start index job readings∈steps →
      RootBound job.verified.request.intent.root_id job.verified.request.intent.root_sha256)
    (hlanded : ∀ earlier change later,steps=earlier++Action.disturb change::later →
      WritesAreTheirs (after functions target world earlier) change)
    (idempotency_key : Identifier) (stored : StoredRecord ExecutionReceipt)
    (hread : (after functions target world steps).world.database.readReceipt functions.sha256
      target idempotency_key=.ok (some stored)) :
    (stored.value.outcome=.verified → 2 ≤ stored.revision ∧ stored.value.reason_code=none ∧
      stored.value.observed_etag≠none) ∧
    (stored.value.action=.applyCanary → stored.value.outcome=.verified →
      ((∃ locator,createRecoveryApplyReceiptLocator authority_functions stored.value
          stored.revision=.ok locator) ↔ stored.value.provider_operation≠none) ∧
        ∀ health_functions anchor,Describes health_functions anchor stored.value →
          (anchor.receiptMatches health_functions ↔ stored.value.provider_operation≠none)) ∧
    (stored.value.action=.recoverStable → stored.value.outcome≠.claimed →
      ((∃ locator,createRecoveryReceiptLocator authority_functions stored.value
          stored.revision=.ok locator) ↔
        (stored.value.outcome=.verified → stored.value.provider_operation≠none))) ∧
    (∀ operation,stored.value.provider_operation=some operation →
      Source (after functions target world steps) stored.value.idempotency_key operation) ∧
    ∀ earlier later,steps=earlier++later → ∀ first,
      (after functions target world earlier).world.database.readReceipt functions.sha256 target
        idempotency_key=.ok (some first) → first.value.outcome≠.claimed →
          stored.value.provider_operation=first.value.provider_operation ∧
            (first.value.outcome=.applied → stored.value.provider_operation≠none) := by
  have hsound : Sound (after functions target world steps) stored := by
    obtain ⟨document_id,document,-,hdocument,-,-,hstored⟩ := readReceipt_eq_some.mp hread
    rw [← hstored]
    exact run_allSound hempty hlanded document_id document hdocument
  have hroot : RootBound stored.value.root_id stored.value.root_sha256 := by
    refine hsound.bound ?_
    intro index process hprocess
    obtain ⟨readings,hstart⟩ : ∃ readings,Action.start index process.job readings∈steps :=
      System.run_started hprocess
    exact hbound index process.job readings hstart
  have hconfigured : isServiceClaimTarget stored.value.target=true := by
    obtain ⟨_,document,-,-,-,⟨logical_id,hidentity⟩,hstored⟩ := readReceipt_eq_some.mp hread
    rw [← hstored,(validateReceiptIdentity_eq_ok.mp hidentity).1]
    exact htarget
  refine ⟨?_,?_,?_,?_,?_⟩
  · intro hverified
    exact ⟨hsound.replaced hverified,reason_of_verified hverified,etag_of_verified hverified⟩
  · intro haction hverified
    have hcomplete := hsound.complete_iff hverified
    refine ⟨?_,?_⟩
    · rw [createRecoveryApplyReceiptLocator_iff haction hverified hconfigured hroot
        stored.revision_bound,hcomplete]
      exact and_iff_left (hsound.replaced hverified)
    · intro health_functions anchor hdescribes
      rw [receiptMatches_iff hdescribes haction hverified,hcomplete]
  · intro haction hleft
    rw [createRecoveryReceiptLocator_iff haction hleft hconfigured hroot (hsound.left hleft)
      stored.revision_bound]
    exact forall_congr' fun hverified => hsound.complete_iff hverified
  · intro operation hoperation
    exact (hsound.named operation hoperation).2.2
  · intro earlier later hsteps first hfirst hleft
    rw [hsteps] at hread
    have hkept := operation_kept hfirst hleft hread
    refine ⟨hkept,?_⟩
    intro happlied
    rw [hkept]
    exact operation_of_applied happlied

def sampleCanary : TargetConfigurationProjection where
  target := sampleTarget
  stable_revision := sampleIntent.stable_revision
  candidate_revision := sampleIntent.candidate_revision
  stable_percent := 90
  candidate_percent := 10
  concurrency := 80

/-- Answers of a target that is read back in that state. -/
def exactAnswers : Answers := {sampleAnswers confirmingProvider with
  observation := some ⟨some sampleCanary,some ⟨"canary-read",by decide⟩⟩}

def sampleLocatedSteps : Steps sampleTarget :=
  sampleTimelySteps++[.resume 0 exactAnswers (clockAt 1007 (by omega)),
    .resume 0 exactAnswers (clockAt 1007 (by omega))]

/-- The holder of the claim crashes, and at second 1060 a second delivery reads the target back
in the state that the canary leads to. -/
def sampleOrphanSteps : Steps sampleTarget :=
  sampleClaimSteps++[.start 1 sampleDelivery (clockAt 1060 second_1060),
    .resume 1 (sampleAnswers ⟨.contention,none,some sampleClaimed⟩) (clockAt 1060 second_1060),
    .resume 1 exactAnswers (clockAt 1060 second_1060),
    .resume 1 exactAnswers (clockAt 1060 second_1060),
    .resume 1 exactAnswers (clockAt 1060 second_1060)]

def sampleReceipt (test : StoredRecord ExecutionReceipt → Bool) (steps : Steps sampleTarget) :
    Bool :=
  match (after sampleFunctions sampleTarget sampleWorld steps).world.database.readReceipt
      sampleFunctions.sha256 sampleTarget sampleDelivery.key with
  | .ok (some stored) => test stored
  | _ => false

theorem exists_receipt {test : StoredRecord ExecutionReceipt → Bool} {steps : Steps sampleTarget}
    (h : sampleReceipt test steps=true) : ∃ stored,
      (after sampleFunctions sampleTarget sampleWorld steps).world.database.readReceipt
        sampleFunctions.sha256 sampleTarget sampleDelivery.key=.ok (some stored) ∧
        test stored=true := by
  unfold sampleReceipt at h
  split at h
  · rename_i stored hread
    exact ⟨stored,hread,h⟩
  · cases h

/-- Whether a receipt is a verified canary that names an operation or not. -/
def isVerifiedCanary (named : Bool) (stored : StoredRecord ExecutionReceipt) : Bool :=
  stored.value.action==.applyCanary && stored.value.outcome==.verified &&
    stored.value.provider_operation.isSome==named

theorem sample_bound {steps : Steps sampleTarget}
    (h : ∀ index job readings,Action.start index job readings∈steps → job=sampleDelivery) :
    ∀ index job readings,Action.start index job readings∈steps →
      RootBound job.verified.request.intent.root_id job.verified.request.intent.root_sha256 := by
  intro index job readings hmem
  rw [h index job readings hmem]
  decide

/-- The sample steps leave the surroundings alone. -/
theorem sample_undisturbed {world : World} {steps : Steps target}
    (h : ∀ change,Action.disturb change∉steps) : ∀ earlier change later,
      steps=earlier++Action.disturb change::later →
        WritesAreTheirs (after functions target world earlier) change := by
  intro earlier change later hsplit
  exact absurd (by rw [hsplit]; exact List.mem_append_right _ List.mem_cons_self) (h change)

/-- The canary that was dispatched and read back has its locator. -/
theorem verified_canary_located_sample : ∃ stored locator,
    (after sampleFunctions sampleTarget sampleWorld sampleLocatedSteps).world.database.readReceipt
      sampleFunctions.sha256 sampleTarget sampleDelivery.key=.ok (some stored) ∧
      stored.value.outcome=.verified ∧
      createRecoveryApplyReceiptLocator ⟨fun _ => zeroSha256,fun _ => zeroSha256⟩ stored.value
        stored.revision=.ok locator := by
  have htest : sampleReceipt (isVerifiedCanary true) sampleLocatedSteps=true := by decide +kernel
  obtain ⟨stored,hread,hcanary⟩ := exists_receipt htest
  simp only [isVerifiedCanary,Bool.and_eq_true,beq_iff_eq] at hcanary
  obtain ⟨⟨haction,hverified⟩,hnamed⟩ := hcanary
  have hstarted : ∀ index job readings,Action.start index job readings∈sampleLocatedSteps →
      job=sampleDelivery := by
    intro index job readings hmem
    simp only [sampleLocatedSteps,sampleTimelySteps,sampleClaimSteps,sampleDispatchSteps,
      List.cons_append,List.nil_append,List.mem_cons,Action.start.injEq,reduceCtorEq,
      List.not_mem_nil,or_false] at hmem
    exact hmem.2.1
  have hundisturbed : ∀ change,Action.disturb change∉sampleLocatedSteps := by
    intro change hmem
    simp only [sampleLocatedSteps,sampleTimelySteps,sampleClaimSteps,sampleDispatchSteps,
      List.cons_append,List.nil_append,List.mem_cons,reduceCtorEq,List.not_mem_nil,or_self] at hmem
  have hlocated := (verified_canary_located sampleFunctions
    ⟨fun _ => zeroSha256,fun _ => zeroSha256⟩ sampleTarget sampleWorld sampleLocatedSteps rfl
    (by decide) (sample_bound hstarted) (sample_undisturbed hundisturbed) sampleDelivery.key stored hread).2.1
  have hpresent : stored.value.provider_operation≠none := by
    rw [← Option.isSome_iff_ne_none]
    exact hnamed
  obtain ⟨locator,hlocator⟩ := (hlocated haction hverified).1.mpr hpresent
  exact ⟨stored,locator,hread,hverified,hlocator⟩

/-- A verified canary without a locator: the holder crashed after its claim, and another
delivery read the target back. No anchor that describes the receipt takes it either. -/
theorem verified_canary_unlocated : sampleWorld.database.receipts=(fun _ => none) ∧
    isServiceClaimTarget sampleTarget=true ∧
    (∀ index job readings,Action.start index job readings∈sampleOrphanSteps →
      RootBound job.verified.request.intent.root_id job.verified.request.intent.root_sha256) ∧
    (∀ change,Action.disturb change∉sampleOrphanSteps) ∧ ∃ stored,
    (after sampleFunctions sampleTarget sampleWorld sampleOrphanSteps).world.database.readReceipt
      sampleFunctions.sha256 sampleTarget sampleDelivery.key=.ok (some stored) ∧
      stored.value.action=.applyCanary ∧ stored.value.outcome=.verified ∧
      (∀ functions locator,createRecoveryApplyReceiptLocator functions stored.value
        stored.revision≠.ok locator) ∧
      ∀ functions anchor,Describes functions anchor stored.value →
        ¬anchor.receiptMatches functions := by
  have htest : sampleReceipt (isVerifiedCanary false) sampleOrphanSteps=true := by decide +kernel
  obtain ⟨stored,hread,hcanary⟩ := exists_receipt htest
  simp only [isVerifiedCanary,Bool.and_eq_true,beq_iff_eq,Option.isSome_eq_false_iff,
    Option.isNone_iff_eq_none] at hcanary
  obtain ⟨⟨haction,hverified⟩,hnone⟩ := hcanary
  have hstarted : ∀ index job readings,Action.start index job readings∈sampleOrphanSteps →
      job=sampleDelivery := by
    intro index job readings hmem
    simp only [sampleOrphanSteps,sampleClaimSteps,List.cons_append,List.nil_append,List.mem_cons,
      Action.start.injEq,reduceCtorEq,List.not_mem_nil,or_false,false_or] at hmem
    rcases hmem with ⟨-,hjob,-⟩ | ⟨-,hjob,-⟩
    · exact hjob
    · exact hjob
  refine ⟨rfl,by decide,sample_bound hstarted,?_,stored,hread,haction,hverified,?_,?_⟩
  · intro change hmem
    simp only [sampleOrphanSteps,sampleClaimSteps,List.cons_append,List.nil_append,List.mem_cons,
      reduceCtorEq,List.not_mem_nil,or_self] at hmem
  · intro functions locator hlocator
    rw [createRecoveryApplyReceiptLocator,bind_eq_ok] at hlocator
    obtain ⟨operation,hoperation,-⟩ := hlocator
    rw [requireSome_eq_ok,hnone] at hoperation
    cases hoperation
  · intro functions anchor hdescribes hmatches
    exact ((receiptMatches_iff hdescribes haction hverified).mp hmatches).operation hnone

end ControlGraph.VerifiedCanaries
