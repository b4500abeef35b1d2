import ControlGraph.DispatchRules

/-!
# At most one dispatch for a key

Any number of deliveries run over one receipt store and one authority, both of
which others may change between any two of their waits. A receipt document is
created at most once and never removed, so a key has one direct create. With
the rules of each delivery this leaves at most one mutation for a key, and the
mutation follows the read of an authority that admits it.
-/

namespace ControlGraph.DispatchFence

open Checks ContractText LabelledRuns StorageIdentity ReceiptContracts ReceiptStore ReceiptLifecycle
  ExecutionRequests ExecutionGate ReceiptExecution WaitingPrograms DispatchRules

/-- What the deliveries share. -/
structure World where
  database : Database
  /-- The authority of every root. -/
  bundles : Identifier → Option RootAuthorityBundle

/-- What one operation sees of the provider and of the target. -/
structure Answers where
  mutation_id : Identifier
  report : ProviderReport
  failure : Option StoreError
  prepared : Option PreparedTargetMutation
  mutation : Option ReceiptMutationResult
  observation : Option ReceiptReadbackResult

/-- Answer of a read, unless it failed. -/
def unlessFailed {Value : Type} (failure : Option StoreError) (answer : Except StoreError Value) :
    Except StoreError Value :=
  match failure with
  | some failed => .error failed
  | none => answer

/-- Changes of the surroundings: other operations of the store, commits that land
after their caller gave up, and changes of the authority of a root. -/
inductive Change
  | store (action : StoreAction)
  | authority (root_id : Identifier) (bundle : Option RootAuthorityBundle)

variable (functions : ContractFunctions) (target : TargetBinding)

/-- Effect and result of an operation. -/
def perform (answers : Answers) (world : World) : (op : Operation) → World×op.Result
  | .claimOrAdoptReceipt receipt binding =>
    let (database,result) := claimOrAdoptReceipt functions.sha256 target receipt binding
      answers.mutation_id answers.report world.database
    ({world with database := database},result)
  | .compareAndSetReceipt expected replacement =>
    let (database,result) := compareAndSetReceipt functions.sha256 target expected replacement
      answers.mutation_id answers.report world.database
    ({world with database := database},result)
  | .readReceipt idempotency_key => (world,unlessFailed answers.failure
    (world.database.readReceipt functions.sha256 target idempotency_key))
  | .readSourceReceipt idempotency_key => (world,unlessFailed answers.failure
    (world.database.readReceipt functions.sha256 target idempotency_key))
  | .readRootCreationBundle root_id =>
    (world,unlessFailed answers.failure (.ok (world.bundles root_id)))
  | .prepare _ _ => (world,answers.prepared)
  | .mutate _ => (world,answers.mutation)
  | .readback _ => (world,answers.observation)

/-- Effect of the surroundings. -/
def disturb (change : Change) (world : World) : World :=
  match change with
  | .store action => {world with database := step functions.sha256 world.database action}
  | .authority root_id bundle =>
    {world with bundles := Function.update world.bundles root_id bundle}

/-- Deliveries over one world. -/
def system : System Operation Operation.Result (Option UtcSecond) Raised ReceiptExecutionResponse
    (Delivery target) World Answers Change where
  launch := launch functions
  perform := perform functions target
  disturb := disturb functions

/-- States of the deliveries. -/
abbrev Executions := State Operation Operation.Result (Option UtcSecond) Raised
  ReceiptExecutionResponse (Delivery target) World

abbrev Steps := List (Action (Option UtcSecond) (Delivery target) Answers Change)

/-- State after some steps. -/
def after (world : World) (steps : Steps target) : Executions target :=
  run (system functions target).step (State.initial world) steps

variable {functions target}

/-- A receipt document stays stored in some form. -/
theorem receipts_kept {database : Database} {action : StoreAction} {document_id : Sha256Digest}
    {document : Document ExecutionReceipt} (h : database.receipts document_id=some document) :
    ∃ next,(step functions.sha256 database action).receipts document_id=some next := by
  have hchange : ReceiptChange functions.sha256 database action (database.receipts document_id)
      ((step functions.sha256 database action).receipts document_id) :=
    step_change action document_id
  rw [h] at hchange
  generalize (step functions.sha256 database action).receipts document_id=next at hchange
  cases hchange with
  | unchanged => exact ⟨document,rfl⟩
  | replaced haccepts hlogical hmarked => exact ⟨_,rfl⟩

/-- An operation leaves the database alone or takes one step of the store. -/
theorem perform_database (answers : Answers) (world : World) (op : Operation) :
    (perform functions target answers world op).1.database=world.database ∨
      ∃ action,(perform functions target answers world op).1.database=
        step functions.sha256 world.database action := by
  cases op with
  | claimOrAdoptReceipt receipt binding =>
    exact .inr ⟨.claimOrAdopt target receipt binding answers.mutation_id answers.report,rfl⟩
  | compareAndSetReceipt expected replacement =>
    exact .inr ⟨.compareAndSet target expected replacement answers.mutation_id answers.report,rfl⟩
  | _ => exact .inl rfl

/-- A delivery holds the direct create of a claim. -/
def Holds (state : Executions target) (index : Nat) (claim : ExecutionReceipt)
    (stored : StoredRecord ExecutionReceipt) : Prop :=
  ∃ process,state.processes index=some process ∧ Created process.history claim stored

/-- The document of a key is stored. -/
def IsStored (functions : ContractFunctions) (target : TargetBinding) (world : World)
    (idempotency_key : Identifier) : Prop :=
  ∀ document_id,executionReceiptDocumentId functions.sha256 target idempotency_key=.ok document_id →
    ∃ document,world.database.receipts document_id=some document

/-- Every direct create is stored, and a key has one holder. -/
structure Owned (functions : ContractFunctions) (state : Executions target) : Prop where
  found : ∀ index claim stored,Holds state index claim stored →
    IsStored functions target state.world claim.idempotency_key
  /-- The holders of one key are the same delivery. -/
  alone : ∀ first second claim other stored found,Holds state first claim stored →
    Holds state second other found → claim.idempotency_key=other.idempotency_key → first=second

section

variable {state : Executions target}

/-- What is stored stays stored under an operation. -/
theorem isStored_perform {answers : Answers} {world : World} {op : Operation}
    {idempotency_key : Identifier} (h : IsStored functions target world idempotency_key) :
    IsStored functions target (perform functions target answers world op).1 idempotency_key := by
  intro document_id hid
  obtain ⟨document,hdocument⟩ := h document_id hid
  have heffect : (perform functions target answers world op).1.database=world.database ∨
      ∃ action,(perform functions target answers world op).1.database=
        step functions.sha256 world.database action := perform_database answers world op
  rcases heffect with hsame | ⟨action,hstep⟩
  · rw [hsame]
    exact ⟨document,hdocument⟩
  · rw [hstep]
    exact receipts_kept hdocument

/-- What is stored stays stored when the surroundings change. -/
theorem isStored_disturb {change : Change} {world : World} {idempotency_key : Identifier}
    (h : IsStored functions target world idempotency_key) :
    IsStored functions target (disturb functions change world) idempotency_key := by
  intro document_id hid
  obtain ⟨document,hdocument⟩ := h document_id hid
  cases change with
  | store action => exact receipts_kept hdocument
  | authority root_id bundle => exact ⟨document,hdocument⟩

/-- A new holder performed a claim where nothing was stored, and its receipt is stored. -/
theorem created_perform {answers : Answers} {world : World} {op : Operation}
    {claim : ExecutionReceipt} {stored : StoredRecord ExecutionReceipt} {binding : MutationBinding}
    {direct_create : DirectReceiptCreate}
    (h : (Event.returned op (perform functions target answers world op).2 :
        Event Operation Operation.Result (Option UtcSecond))=
      Event.returned (Operation.claimOrAdoptReceipt claim binding)
        (Except.ok (ReceiptClaimResult.created stored direct_create))) :
    ∃ prepared,executionReceiptDocumentId functions.sha256 target claim.idempotency_key=
        .ok prepared.document_id ∧ world.database.receipts prepared.document_id=none ∧
      (perform functions target answers world op).1.database=world.database.putReceipt prepared ∧
      stored=prepared.document.stored ∧ prepared.document.stored.value=claim ∧
      claim.outcome=.claimed := by
  obtain ⟨rfl,hresult⟩ := Event.returned.inj h
  have hcreated : (claimOrAdoptReceipt functions.sha256 target claim binding answers.mutation_id
      answers.report world.database).2=.ok (.created stored direct_create) := eq_of_heq hresult
  obtain ⟨prepared,hprepared,hnone,hwritten,hstored⟩ := claimOrAdoptReceipt_created hcreated
  obtain ⟨hclaimed,-,-,hdocument⟩ := prepareClaim_eq_ok.mp hprepared
  obtain ⟨hid,-,hvalue,-⟩ := preparedReceipt_eq_ok hdocument
  exact ⟨prepared,hid,hnone,hwritten,hstored,hvalue,hclaimed⟩

/-- After a process was put, the holders are those of before and a new one. -/
theorem holds_put {index : Nat} {world : World} {process : Process Operation Operation.Result
      (Option UtcSecond) Raised ReceiptExecutionResponse (Delivery target)}
    {holder : Nat} {claim : ExecutionReceipt} {stored : StoredRecord ExecutionReceipt}
    (h : Holds ({state with world := world}.put index process) holder claim stored) :
    (holder=index ∧ Created process.history claim stored) ∨
      (holder≠index ∧ Holds state holder claim stored) := by
  obtain ⟨found,hfound,hcreated⟩ := h
  rcases put_cases hfound with ⟨hholder,rfl⟩ | ⟨hother,hold⟩
  · exact .inl ⟨hholder,hcreated⟩
  · exact .inr ⟨hother,found,hold,hcreated⟩

/-- What a started delivery holds: nothing. -/
theorem not_created_start {job : Delivery target} {readings : Nat → Option UtcSecond}
    {claim : ExecutionReceipt} {stored : StoredRecord ExecutionReceipt} :
    ¬Created (settle job readings 0 ((system functions target).launch job) []).history claim
      stored := by
  rintro ⟨binding,direct_create,hmem⟩
  rw [returned_mem_settle] at hmem
  cases hmem

/-- What a resumed delivery holds: what it held, or what it was just given. -/
theorem created_resume {job : Delivery target} {readings : Nat → Option UtcSecond}
    {program : Executor ReceiptExecutionResponse} {history : History} {op : Operation}
    {result : op.Result} {claim : ExecutionReceipt} {stored : StoredRecord ExecutionReceipt}
    (h : Created (settle job readings 0 program (history++[Event.returned op result])).history claim
      stored) :
    Created history claim stored ∨ ∃ binding direct_create,
      (Event.returned op result : Event Operation Operation.Result (Option UtcSecond))=
        Event.returned (Operation.claimOrAdoptReceipt claim binding)
          (Except.ok (ReceiptClaimResult.created stored direct_create)) := by
  obtain ⟨binding,direct_create,hmem⟩ := h
  rw [returned_mem_settle] at hmem
  rcases List.mem_append.mp hmem with hold | hnew
  · exact .inl ⟨binding,direct_create,hold⟩
  · exact .inr ⟨binding,direct_create,(List.mem_singleton.mp hnew).symm⟩

theorem owned_resume {index : Nat} {answers : Answers} {readings : Nat → Option UtcSecond}
    {job : Delivery target} {op : Operation} {next : op.Result → Executor ReceiptExecutionResponse}
    {history : History} (hwaiting : state.processes index=some ⟨job,.wait op next,history⟩)
    (h : Owned functions state) :
    Owned functions ({state with world := (perform functions target answers state.world op).1}.put
      index (settle job readings 0 (next (perform functions target answers state.world op).2)
        (history++[Event.returned op (perform functions target answers state.world op).2]))) := by
  have hcases : ∀ holder claim stored,
      Holds ({state with world := (perform functions target answers state.world op).1}.put index
        (settle job readings 0 (next (perform functions target answers state.world op).2)
          (history++[Event.returned op (perform functions target answers state.world op).2])))
        holder claim stored → Holds state holder claim stored ∨ (holder=index ∧
          IsStored functions target (perform functions target answers state.world op).1
            claim.idempotency_key ∧
          ¬IsStored functions target state.world claim.idempotency_key) := by
    intro holder claim stored hholds
    rcases holds_put hholds with ⟨hholder,hcreated⟩ | ⟨-,hold⟩
    · rcases created_resume hcreated with hold | ⟨binding,direct_create,hnew⟩
      · rw [hholder]
        exact .inl ⟨_,hwaiting,hold⟩
      · obtain ⟨prepared,hid,hnone,hwritten,-⟩ := created_perform hnew
        refine .inr ⟨hholder,?_,?_⟩
        · intro document_id hfound
          rw [hid] at hfound
          rw [hwritten,← Except.ok.inj hfound,putReceipt_receipts]
          exact ⟨_,rfl⟩
        · intro hstored
          obtain ⟨document,hdocument⟩ := hstored _ hid
          rw [hnone] at hdocument
          cases hdocument
    · exact .inl hold
  refine ⟨?_,?_⟩
  · intro holder claim stored hholds
    rcases hcases holder claim stored hholds with hold | ⟨-,hstored,-⟩
    · exact isStored_perform (h.found holder claim stored hold)
    · exact hstored
  · intro first second claim other stored found hfirst hsecond hkey
    rcases hcases first claim stored hfirst with holdFirst | ⟨hindexFirst,-,hfreshFirst⟩
    · rcases hcases second other found hsecond with holdSecond | ⟨-,-,hfreshSecond⟩
      · exact h.alone first second claim other stored found holdFirst holdSecond hkey
      · rw [← hkey] at hfreshSecond
        exact absurd (h.found first claim stored holdFirst) hfreshSecond
    · rcases hcases second other found hsecond with holdSecond | ⟨hindexSecond,-,-⟩
      · rw [hkey] at hfreshFirst
        exact absurd (h.found second other found holdSecond) hfreshFirst
      · rw [hindexFirst,hindexSecond]

theorem owned_start {index : Nat} {job : Delivery target} {readings : Nat → Option UtcSecond}
    (h : Owned functions state) : Owned functions
      (state.put index (settle job readings 0 ((system functions target).launch job) [])) := by
  have hcases : ∀ holder claim stored,
      Holds (state.put index (settle job readings 0 ((system functions target).launch job) []))
        holder claim stored → Holds state holder claim stored := by
    intro holder claim stored hholds
    rcases holds_put hholds with ⟨-,hcreated⟩ | ⟨-,hold⟩
    · exact absurd hcreated not_created_start
    · exact hold
  refine ⟨?_,?_⟩
  · intro holder claim stored hholds
    exact h.found holder claim stored (hcases holder claim stored hholds)
  · intro first second claim other stored found hfirst hsecond
    exact h.alone first second claim other stored found (hcases first claim stored hfirst)
      (hcases second other found hsecond)

/-- Ownership is kept when the surroundings change. -/
theorem owned_disturb {change : Change} (h : Owned functions state) :
    Owned functions {state with world := disturb functions change state.world} where
  found := fun index claim stored hholds => isStored_disturb (h.found index claim stored hholds)
  alone := h.alone

/-- There is no holder before the first step. -/
theorem owned_initial {world : World} :
    Owned functions (State.initial world : Executions target) := by
  refine ⟨?_,?_⟩
  · rintro index claim stored ⟨process,hprocess,-⟩
    cases hprocess
  · rintro first second claim other stored found ⟨process,hprocess,-⟩
    cases hprocess

/-- In every run every direct create is stored and a key has one holder. -/
theorem run_owned (world : World) (steps : Steps target) :
    Owned functions (after functions target world steps) := by
  refine System.run_induction (fun delivery => follows_launch delivery) (fun _ _ => True)
    (Owned functions) ?_ ?_ ?_ (fun _ _ _ _ => trivial) owned_initial
  · intro state index job readings hok hnew hstate
    exact owned_start hstate
  · intro state index answers readings job op next history hok hwaiting hstate
    exact owned_resume hwaiting hstate
  · intro state change hok hpermitted hstate
    exact owned_disturb hstate

theorem run_rules (world : World) (steps : Steps target) :
    AllOk rules (fun _ => []) (fun _ => anyEnd) (after functions target world steps) :=
  System.run_ok (fun delivery => follows_launch delivery)

end

section

variable {delivery : Delivery target} {history earlier later : History}

/-- Every call of a delivery that follows its rules was allowed by what came before. -/
theorem allowed_of_ok {process : Process Operation Operation.Result (Option UtcSecond) Raised
      ReceiptExecutionResponse (Delivery target)}
    (h : process.Ok (rules delivery) [] anyEnd) {op : Operation}
    (hsplit : process.history=earlier++Event.called op::later) : allowed delivery earlier op := by
  have hallowed := h.past earlier op later hsplit
  rw [rules,recording_after,List.nil_append] at hallowed
  exact hallowed

/-- A delivery that was given a direct create was not given an existing receipt. -/
theorem not_adopted_of_created {process : Process Operation Operation.Result (Option UtcSecond)
      Raised ReceiptExecutionResponse (Delivery target)}
    (h : process.Ok (rules delivery) [] anyEnd) {claim other : ExecutionReceipt}
    {stored receipt : StoredRecord ExecutionReceipt} {binding : MutationBinding}
    (hcreated : Created process.history claim stored) :
    Event.returned (Operation.claimOrAdoptReceipt other binding)
      (Except.ok (ReceiptClaimResult.adopted receipt))∉process.history := by
  intro hadopted
  obtain ⟨bound,direct_create,hmem⟩ := hcreated
  obtain ⟨first,rest,hfirst⟩ := List.append_of_mem hmem
  obtain ⟨second,remaining,hsecond⟩ := List.append_of_mem hadopted
  obtain ⟨before,rfl⟩ := h.answered first _ _ rest hfirst
  obtain ⟨prior,rfl⟩ := h.answered second _ _ remaining hsecond
  rw [List.append_assoc,List.singleton_append] at hfirst hsecond
  have hclaim := allowed_of_ok h hfirst
  have hother := allowed_of_ok h hsecond
  have hsame : before=prior := by
    refine first_split (fun event => ∃ claim binding,
      event=Event.called (Operation.claimOrAdoptReceipt claim binding))
        (hfirst.symm.trans hsecond) ?_ ?_ ⟨_,_,rfl⟩ ⟨_,_,rfl⟩
    · rintro event hevent ⟨found,bound,rfl⟩
      exact hclaim.2.2 found bound hevent
    · rintro event hevent ⟨found,bound,rfl⟩
      exact hother.2.2 found bound hevent
  rw [hsame] at hfirst
  have hrest := List.append_cancel_left (hfirst.symm.trans hsecond)
  cases (List.cons.inj (List.cons.inj hrest).2).1

end

/-- In every run of any number of deliveries over one store and one authority that
others change: a mutation is called only by a delivery that executes, after it was
given a direct create for its key, and right after it read an authority at the epoch
of its intent with an active claim and a clock inside its windows; all deliveries of
one key make at most one such call together; and a delivery that was given an
existing receipt makes none. -/
theorem at_most_one_dispatch (functions : ContractFunctions) (target : TargetBinding)
    (world : World) (steps : Steps target) :
    (∀ index process earlier permit later,
      (after functions target world steps).processes index=some process →
      process.history=earlier++Event.called (Operation.mutate permit)::later →
        process.job.orphaned=false ∧ Fenced process.job.verified earlier) ∧
    (∀ first second process other earlier permit later before sealed rest,
      (after functions target world steps).processes first=some process →
      (after functions target world steps).processes second=some other →
      process.job.key=other.job.key →
      process.history=earlier++Event.called (Operation.mutate permit)::later →
      other.history=before++Event.called (Operation.mutate sealed)::rest →
        first=second ∧ earlier=before) ∧
    ∀ index process claim binding receipt permit,
      (after functions target world steps).processes index=some process →
      Event.returned (Operation.claimOrAdoptReceipt claim binding)
        (Except.ok (ReceiptClaimResult.adopted receipt))∈process.history →
        Event.called (Operation.mutate permit)∉process.history := by
  have hrules : AllOk rules (fun _ => []) (fun _ => anyEnd) (after functions target world steps) :=
    run_rules world steps
  have howned : Owned functions (after functions target world steps) := run_owned world steps
  have hdispatch : ∀ index process earlier permit later,
      (after functions target world steps).processes index=some process →
      process.history=earlier++Event.called (Operation.mutate permit)::later →
        process.job.orphaned=false ∧ Untouched earlier ∧ Fenced process.job.verified earlier :=
    fun index process earlier permit later hprocess hsplit =>
      allowed_of_ok (hrules index process hprocess) hsplit
  refine ⟨?_,?_,?_⟩
  · intro index process earlier permit later hprocess hsplit
    obtain ⟨hexecutes,-,hfenced⟩ := hdispatch index process earlier permit later hprocess hsplit
    exact ⟨hexecutes,hfenced⟩
  · intro first second process other earlier permit later before sealed rest hprocess hother hkey
      hsplit hsplitOther
    obtain ⟨-,huntouched,head,claim,stored,_,_,hhead,hclaim,hcreated,-⟩ :=
      hdispatch first process earlier permit later hprocess hsplit
    obtain ⟨-,hclean,front,second_claim,found,_,_,hfront,hsecondClaim,hsecondCreated,-⟩ :=
      hdispatch second other before sealed rest hother hsplitOther
    have hholds : Holds (after functions target world steps) first claim stored := by
      refine ⟨process,hprocess,hcreated.mono ?_⟩
      rw [hsplit,hhead,List.append_assoc]
      exact List.subset_append_left _ _
    have hholdsOther : Holds (after functions target world steps) second second_claim found := by
      refine ⟨other,hother,hsecondCreated.mono ?_⟩
      rw [hsplitOther,hfront,List.append_assoc]
      exact List.subset_append_left _ _
    have hsame : first=second := by
      refine howned.alone first second claim second_claim stored found hholds hholdsOther ?_
      rw [hclaim,hsecondClaim]
      exact hkey
    rw [hsame,hother] at hprocess
    rw [Option.some.inj hprocess,hsplit] at hsplitOther
    refine ⟨hsame,first_split (fun event => ∃ permit,
      event=Event.called (Operation.mutate permit)) hsplitOther ?_ ?_ ⟨_,rfl⟩ ⟨_,rfl⟩⟩
    · rintro event hevent ⟨found,rfl⟩
      exact huntouched.1 found hevent
    · rintro event hevent ⟨found,rfl⟩
      exact hclean.1 found hevent
  · intro index process claim binding receipt permit hprocess hadopted hmutated
    obtain ⟨earlier,later,hsplit⟩ := List.append_of_mem hmutated
    obtain ⟨-,-,head,created,stored,_,_,hhead,-,hcreated,-⟩ :=
      hdispatch index process earlier permit later hprocess hsplit
    refine not_adopted_of_created (hrules index process hprocess) (hcreated.mono ?_) hadopted
    rw [hsplit,hhead,List.append_assoc]
    exact List.subset_append_left _ _

end ControlGraph.DispatchFence
