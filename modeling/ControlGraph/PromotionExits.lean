import ControlGraph.EvidenceIntegrity
import ControlGraph.PromotionAdoption

/-!
# How a promotion command ends

The stored dispatch of a command comes from the preparation of one of its calls,
and the worker that holds the permit of its start is the only one that may settle
it. A prepared dispatch is settled by any later call inside the window of its
task and by none outside it. A started dispatch whose permit is lost stays as it
is. A result that is recorded is the answer of every later call. A read after a
lost race may see anything here, since nothing below rests on it.
-/

namespace ControlGraph.PromotionExits

open Checks ContractText LabelledRuns CapabilityContracts PromotionContracts PromotionDispatchStore
  PromotionCoordination PromotionAdoption TaskAddressing

open PromotionDispatchLifecycle hiding step

open ReceiptContracts (TargetBinding StoredRecord)

open ReceiptStore (StoreError)

open EvidenceIntegrity (sampleTarget samplePlan sampleTime sampleRequest)

open StorageIdentity (zeroSha256 isIdentifier_root isIdentifier_derived)

open HealthProofs (HealthyPromotionProofV1Fields)

variable {functions : PromotionFunctions} {configuration : Configuration}
  {command : PromotionCommandV2}

/-- What the stages of the calls and the stored dispatch of their command keep. -/
structure Invariant (configuration : Configuration) (command : PromotionCommandV2)
    (system : System functions) : Prop where
  /-- The dispatch is at its place and comes from a call. -/
  stored : ∀ dispatch,
    dispatchAt system.stores (commandDispatchId functions command)=some dispatch →
    Placed configuration.target system.stores (commandDispatchId functions command) dispatch ∧
      Origin configuration command functions dispatch.value.fields
  /-- A call goes on only with a prepared dispatch of its command. -/
  ready : ∀ worker prepared,system.workers worker=.ready prepared →
    prepared.value.state=.prepared ∧
      prepared.value.dispatch_id=commandDispatchId functions command
  /-- A call that holds a permit has started the stored dispatch. -/
  started : ∀ worker start addressed dispatch_time,
    system.workers worker=.started start addressed dispatch_time →
    dispatchAt system.stores (commandDispatchId functions command)=some start.dispatch ∧
      start.dispatch.value.state=.enqueueStarted
  /-- One call at most holds a permit. -/
  alone : ∀ worker start addressed dispatch_time,
    system.workers worker=.started start addressed dispatch_time →
    ∀ other its_start its_addressed its_time,
      system.workers other=.started its_start its_addressed its_time → other=worker

section

variable {system : System functions}

theorem workers_moved {worker other : Nat} {moved : Stores functions×Stage functions}
    {stage : Stage functions} (h : (system.moved worker moved).workers other=stage) :
    other=worker ∧ moved.2=stage ∨ other≠worker ∧ system.workers other=stage := by
  unfold System.moved at h
  simp only [Function.update_apply] at h
  by_cases hsame : other=worker
  · rw [if_pos hsame] at h
    exact .inl ⟨hsame,h⟩
  · rw [if_neg hsame] at h
    exact .inr ⟨hsame,h⟩

theorem workers_moved_self {worker : Nat} {moved : Stores functions×Stage functions} :
    (system.moved worker moved).workers worker=moved.2 := Function.update_self _ _ _

/-- A preparation creates the dispatch of its command or writes nothing, and no permit comes
from it. -/
theorem prepareStage_spec {answers : PreparationAnswers} {mutation_ids : MutationIds}
    {report : ProviderReport functions} {stores : Stores functions}
    {moved : Stores functions×Stage functions}
    (h : prepareStage configuration command answers mutation_ids report stores=moved) :
    (moved.1=stores ∨
      dispatchAt stores (commandDispatchId functions command)=none ∧
      ∃ dispatch,dispatchAt moved.1 (commandDispatchId functions command)=some dispatch ∧
        Placed configuration.target moved.1 (commandDispatchId functions command) dispatch ∧
        Origin configuration command functions dispatch.value.fields) ∧
    (∀ prepared,moved.2=.ready prepared → prepared.value.state=.prepared ∧
      prepared.value.dispatch_id=commandDispatchId functions command) ∧
    ∀ start addressed dispatch_time,moved.2≠.started start addressed dispatch_time := by
  unfold prepareStage at h
  cases hprepared : preparedRecord functions configuration command answers with
  | error code =>
    rw [hprepared] at h
    subst h
    refine ⟨.inl rfl,?_,?_⟩
    · intro prepared hready
      cases hready
    · intro start addressed dispatch_time hstarted
      cases hstarted
  | ok prepared =>
    rw [hprepared] at h
    simp only at h
    subst h
    refine ⟨?_,?_,?_⟩
    · rcases prepareOrAdopt_fst with hnext | ⟨documents,hdocuments,hcreated⟩
      · exact .inl hnext
      · have hof := preparedDispatchDocuments_eq_ok hdocuments
        obtain ⟨-,-,hempty,hnext⟩ := createDispatch_eq_ok hcreated
        have hid : prepared.dispatch_id=commandDispatchId functions command :=
          hof.answers.dispatch_id
        have hvalue := hof.value
        have hplaced := @placed_of_created functions configuration.target stores _ _ _ hof
        have horigin := origin_of_prepared hprepared hof.answers
        rw [hvalue,hid] at hempty
        rw [hid] at hplaced
        refine .inr ⟨?_,documents.dispatch.stored,?_,?_,?_⟩
        · unfold dispatchAt
          rw [hempty]
          rfl
        · simp only
          rw [hnext,dispatchAt_putDispatchDocuments,hvalue,hid,if_pos rfl]
        · simp only
          rw [hnext]
          exact hplaced
        · rw [hvalue]
          exact horigin
    · intro ready hready
      cases hresult : (prepareOrAdoptPromotionDispatchV2 configuration.target command prepared
          mutation_ids report stores).2 with
      | error raised =>
        simp only [hresult] at hready
        cases hready
      | ok stored =>
        simp only [hresult] at hready
        obtain ⟨hsame,hstate⟩ := prepared_of_ready hready
        rw [hsame]
        refine ⟨hstate,?_⟩
        exact answers_of_adopted hresult
    · intro start addressed dispatch_time hstarted
      cases hresult : (prepareOrAdoptPromotionDispatchV2 configuration.target command prepared
          mutation_ids report stores).2 with
      | error raised =>
        simp only [hresult] at hstarted
        cases hstarted
      | ok stored =>
        simp only [hresult] at hstarted
        exact absurd hstarted not_started_of_adopted

/-- What a start that writes has done. -/
structure StartedBy (configuration : Configuration) (stores : Stores functions)
    (prepared : StoredDispatch functions) (dispatch_time : UtcSecond)
    (moved : Stores functions×Stage functions)
    (document : Document (PromotionDispatchRecordV2 functions)) : Prop where
  transition : Transition configuration.target prepared document
  state : document.stored.value.state=.enqueueStarted
  /-- The prepared dispatch was stored. -/
  found : dispatchAt stores prepared.value.dispatch_id=some prepared
  written : moved.1=stores.putDispatch document
  window : prepared.value.prepared_at.1 ≤ dispatch_time.1 ∧
    dispatch_time.1<prepared.value.task.expires_at.1
  permit : ∀ start addressed its_time,moved.2=.started start addressed its_time →
    start.dispatch=document.stored

/-- A start writes nothing and gives no permit, or starts the dispatch inside its window. -/
theorem startStage_spec {prepared : StoredDispatch functions} {dispatch_time : UtcSecond}
    {mutation_ids : MutationIds} {report : ProviderReport functions} {stores : Stores functions}
    {moved : Stores functions×Stage functions}
    (h : startStage configuration command prepared dispatch_time mutation_ids report stores=moved) :
    (∀ ready,moved.2≠.ready ready) ∧
      ((moved.1=stores ∧ ∀ start addressed its_time,moved.2≠.started start addressed its_time) ∨
        ∃ document,StartedBy configuration stores prepared dispatch_time moved document) := by
  unfold startStage at h
  cases hrecord : startRecord configuration prepared dispatch_time with
  | error raised =>
    rw [hrecord] at h
    subst h
    refine ⟨?_,.inl ⟨rfl,?_⟩⟩
    · intro ready hready
      cases hready
    · intro start addressed its_time hstarted
      cases hstarted
  | ok pair =>
    obtain ⟨addressed,record⟩ := pair
    obtain ⟨hfields,hlower,hupper⟩ := startRecord_eq_ok hrecord
    rw [hrecord] at h
    simp only at h
    cases hbegin : (beginPromotionEnqueueV2 configuration.target prepared record mutation_ids
        report stores).2 with
    | ok start =>
      obtain ⟨-,document,hprepared,hstored,hupdate,hstate,-⟩ := begin_eq_ok hbegin
      obtain ⟨-,htransition⟩ := preparedReplacement_eq_ok hprepared
      obtain ⟨hfound,hnext⟩ := updateDispatch_eq_ok hupdate
      simp only [hbegin] at h
      subst h
      refine ⟨?_,.inr ⟨document,htransition,hstate,hfound,hnext,⟨hlower,hupper⟩,?_⟩⟩
      · intro ready hready
        cases hready
      · intro other its_addressed its_time hstarted
        rw [← (Stage.started.inj hstarted).1]
        exact hstored.symm
    | error raised =>
      have hanswered : ∃ answer,moved.2=.answered answer := by
        rw [← h]
        simp only [hbegin]
        cases raised with
        | conflict => exact ⟨_,rfl⟩
        | outcomeUnknown => exact ⟨_,rfl⟩
        | unavailable => exact ⟨_,rfl⟩
        | corruptRecord => exact ⟨_,rfl⟩
        | invalid error => exact ⟨_,rfl⟩
      obtain ⟨answer,hanswer⟩ := hanswered
      have hquiet : ∀ start addressed its_time,moved.2≠.started start addressed its_time := by
        intro start its_addressed its_time hstarted
        rw [hanswer] at hstarted
        cases hstarted
      refine ⟨?_,?_⟩
      · intro ready hready
        rw [hanswer] at hready
        cases hready
      · have hstores : moved.1=(beginPromotionEnqueueV2 configuration.target prepared record
            mutation_ids report stores).1 := by
          rw [← h]
        rcases begin_fst with hsame | ⟨document,hprepared,hstarted,hupdate⟩
        · exact .inl ⟨hstores.trans hsame,hquiet⟩
        · obtain ⟨hvalue,htransition⟩ := preparedReplacement_eq_ok hprepared
          obtain ⟨hfound,hnext⟩ := updateDispatch_eq_ok hupdate
          refine .inr ⟨document,htransition,?_,hfound,hstores.trans hnext,⟨hlower,hupper⟩,?_⟩
          · rw [hvalue]
            exact hstarted
          · intro start its_addressed its_time hholds
            exact absurd hholds (hquiet start its_addressed its_time)

/-- A finish ends its call and writes nothing but the outcome of its dispatch. -/
theorem finishStage_spec {start : DirectPromotionEnqueueStartV2 functions}
    {addressed : AddressedTask} {dispatch_time : UtcSecond} {enqueued : Option TaskEnqueueResult}
    {mutation_ids : MutationIds} {report : ProviderReport functions} {stores : Stores functions}
    {moved : Stores functions×Stage functions}
    (h : finishStage configuration command start addressed dispatch_time enqueued mutation_ids
      report stores=moved) :
    (∃ answer,moved.2=.answered answer) ∧
      (moved.1=stores ∨ ∃ document,Transition configuration.target start.dispatch document ∧
        dispatchAt stores start.dispatch.value.dispatch_id=some start.dispatch ∧
        moved.1=stores.putDispatch document) := by
  unfold finishStage at h
  simp only at h
  split at h
  · rw [← h]
    exact ⟨⟨_,rfl⟩,.inl rfl⟩
  · rename_i terminal hterminal
    rw [← h]
    refine ⟨⟨_,rfl⟩,?_⟩
    rcases compareAndSetPromotionDispatchV2_fst with hsame | ⟨document,hprepared,-,hupdate⟩
    · exact .inl hsame
    · obtain ⟨-,htransition⟩ := preparedReplacement_eq_ok hprepared
      obtain ⟨hfound,hnext⟩ := updateDispatch_eq_ok hupdate
      exact .inr ⟨document,htransition,hfound,hnext⟩

/-- What one step does to the dispatch of the command and to the permits. -/
inductive Change (configuration : Configuration) (command : PromotionCommandV2)
    (system : System functions) (action : Action functions) (next : System functions) : Prop
  /-- Nothing is written, and no permit is handed out. -/
  | kept (hstores : next.stores=system.stores)
      (hpermits : ∀ worker start addressed dispatch_time,
        next.workers worker=.started start addressed dispatch_time →
        system.workers worker=.started start addressed dispatch_time)
  | prepared (dispatch : StoredDispatch functions)
      (hempty : dispatchAt system.stores (commandDispatchId functions command)=none)
      (hfound : dispatchAt next.stores (commandDispatchId functions command)=some dispatch)
      (hplaced : Placed configuration.target next.stores (commandDispatchId functions command)
        dispatch)
      (horigin : Origin configuration command functions dispatch.value.fields)
      (hpermits : ∀ worker start addressed dispatch_time,
        next.workers worker=.started start addressed dispatch_time →
        system.workers worker=.started start addressed dispatch_time)
  /-- The enqueue attempt is started by a worker that may get the permit. -/
  | started (worker : Nat) (dispatch_time : UtcSecond) (mutation_ids : MutationIds)
      (report : ProviderReport functions) (prepared : StoredDispatch functions)
      (moved : Stores functions×Stage functions)
      (document : Document (PromotionDispatchRecordV2 functions))
      (haction : action=.start worker dispatch_time mutation_ids report)
      (hstate : prepared.value.state=.prepared)
      (hid : prepared.value.dispatch_id=commandDispatchId functions command)
      (hstarted : StartedBy configuration system.stores prepared dispatch_time moved document)
      (hnext : next=system.moved worker moved)
  /-- The worker that holds the permit records the outcome. -/
  | ended (worker : Nat) (start : DirectPromotionEnqueueStartV2 functions)
      (addressed : AddressedTask) (dispatch_time : UtcSecond)
      (answer : Except CanaryExecutionErrorCode PromotionDispatchResultV2)
      (document : Document (PromotionDispatchRecordV2 functions))
      (hholds : system.workers worker=.started start addressed dispatch_time)
      (htransition : Transition configuration.target start.dispatch document)
      (hnext : next=system.moved worker (system.stores.putDispatch document,.answered answer))

/-- A worker that moves without a permit leaves the permits of the others. -/
theorem permits_moved {worker : Nat} {moved : Stores functions×Stage functions}
    (hquiet : ∀ start addressed dispatch_time,moved.2≠.started start addressed dispatch_time) :
    ∀ other start addressed dispatch_time,
      (system.moved worker moved).workers other=.started start addressed dispatch_time →
      system.workers other=.started start addressed dispatch_time := by
  intro other start addressed dispatch_time hstarted
  rcases workers_moved hstarted with ⟨-,hmoved⟩ | ⟨-,hkept⟩
  · exact absurd hmoved (hquiet start addressed dispatch_time)
  · exact hkept

/-- A read goes on only with a prepared dispatch, and it gives no permit. -/
theorem readStage_spec {observed : Option (Stores functions)} :
    (∀ prepared,readStage configuration command observed=.ready prepared →
      prepared.value.state=.prepared ∧
        prepared.value.dispatch_id=commandDispatchId functions command) ∧
    ∀ start addressed dispatch_time,
      readStage configuration command observed≠.started start addressed dispatch_time := by
  unfold readStage
  cases observed with
  | none =>
    refine ⟨?_,?_⟩
    · intro prepared hready
      cases hready
    · intro start addressed dispatch_time hstarted
      cases hstarted
  | some stores =>
    cases hread : readPromotionDispatchV2 configuration.target command stores with
    | error raised =>
      simp only [hread]
      refine ⟨?_,?_⟩
      · intro prepared hready
        cases hready
      · intro start addressed dispatch_time hstarted
        cases hstarted
    | ok found =>
      cases found with
      | none =>
        simp only [hread]
        refine ⟨?_,?_⟩
        · intro prepared hready
          cases hready
        · intro start addressed dispatch_time hstarted
          cases hstarted
      | some existing =>
        simp only [hread]
        refine ⟨?_,fun _ _ _ => not_started_of_adopted⟩
        intro prepared hready
        obtain ⟨hsame,hstate⟩ := prepared_of_ready hready
        rw [hsame]
        exact ⟨hstate,(read_eq_ok hread).2.dispatch_id⟩

/-- Every step has one of the changes, and a call that goes on has a prepared dispatch. -/
theorem step_change (h : Invariant configuration command system) (action : Action functions) :
    Change configuration command system action (step configuration command system action) ∧
      ∀ worker prepared,
        (step configuration command system action).workers worker=.ready prepared →
        prepared.value.state=.prepared ∧
          prepared.value.dispatch_id=commandDispatchId functions command := by
  have hstay : ∀ {next : System functions},next=system →
      Change configuration command system action next ∧ ∀ worker prepared,
        next.workers worker=.ready prepared → prepared.value.state=.prepared ∧
          prepared.value.dispatch_id=commandDispatchId functions command := by
    rintro next rfl
    exact ⟨.kept rfl (fun _ _ _ _ hstarted => hstarted),h.ready⟩
  have hready : ∀ {worker : Nat} {moved : Stores functions×Stage functions},
      (∀ prepared,moved.2=.ready prepared → prepared.value.state=.prepared ∧
        prepared.value.dispatch_id=commandDispatchId functions command) →
      ∀ other prepared,(system.moved worker moved).workers other=.ready prepared →
        prepared.value.state=.prepared ∧
          prepared.value.dispatch_id=commandDispatchId functions command := by
    intro worker moved hmoved other prepared hstage
    rcases workers_moved hstage with ⟨-,hnew⟩ | ⟨-,hkept⟩
    · exact hmoved prepared hnew
    · exact h.ready other prepared hkept
  cases action with
  | call worker =>
    have hmove : Change configuration command system (.call worker)
          (system.moved worker (system.stores,.reading)) ∧ ∀ other prepared,
        (system.moved worker (system.stores,.reading)).workers other=.ready prepared →
        prepared.value.state=.prepared ∧
          prepared.value.dispatch_id=commandDispatchId functions command := by
      refine ⟨.kept rfl (permits_moved ?_),hready ?_⟩
      · intro start addressed dispatch_time hstarted
        cases hstarted
      · intro prepared hstage
        cases hstage
    unfold step
    cases hworker : system.workers worker with
    | idle => simp only [hworker]; exact hmove
    | answered answer => simp only [hworker]; exact hmove
    | reading => simp only [hworker]; exact hstay rfl
    | preparing => simp only [hworker]; exact hstay rfl
    | ready prepared => simp only [hworker]; exact hstay rfl
    | started start addressed dispatch_time => simp only [hworker]; exact hstay rfl
  | read worker succeeds =>
    unfold step
    cases hworker : system.workers worker with
    | reading =>
      simp only [hworker]
      exact ⟨.kept rfl (permits_moved readStage_spec.2),hready readStage_spec.1⟩
    | idle => simp only [hworker]; exact hstay rfl
    | answered answer => simp only [hworker]; exact hstay rfl
    | preparing => simp only [hworker]; exact hstay rfl
    | ready prepared => simp only [hworker]; exact hstay rfl
    | started start addressed dispatch_time => simp only [hworker]; exact hstay rfl
  | prepare worker answers mutation_ids report =>
    unfold step
    cases hworker : system.workers worker with
    | preparing =>
      simp only [hworker]
      generalize hmoved : prepareStage configuration command answers mutation_ids report
        system.stores=moved
      obtain ⟨hstores,hstage,hquiet⟩ := prepareStage_spec hmoved
      refine ⟨?_,hready hstage⟩
      rcases hstores with hsame | ⟨hempty,dispatch,hfound,hplaced,horigin⟩
      · exact .kept hsame (permits_moved hquiet)
      · exact .prepared dispatch hempty hfound hplaced horigin (permits_moved hquiet)
    | idle => simp only [hworker]; exact hstay rfl
    | answered answer => simp only [hworker]; exact hstay rfl
    | reading => simp only [hworker]; exact hstay rfl
    | ready prepared => simp only [hworker]; exact hstay rfl
    | started start addressed dispatch_time => simp only [hworker]; exact hstay rfl
  | start worker dispatch_time mutation_ids report =>
    unfold step
    cases hworker : system.workers worker with
    | ready prepared =>
      simp only [hworker]
      generalize hmoved : startStage configuration command prepared dispatch_time mutation_ids
        report system.stores=moved
      obtain ⟨hstage,hstores⟩ := startStage_spec hmoved
      obtain ⟨hstate,hid⟩ := h.ready worker prepared hworker
      refine ⟨?_,hready (fun other hother => absurd hother (hstage other))⟩
      rcases hstores with ⟨hsame,hquiet⟩ | ⟨document,hstarted⟩
      · exact .kept hsame (permits_moved hquiet)
      · exact .started worker dispatch_time mutation_ids report prepared moved document rfl hstate
          hid hstarted rfl
    | idle => simp only [hworker]; exact hstay rfl
    | answered answer => simp only [hworker]; exact hstay rfl
    | reading => simp only [hworker]; exact hstay rfl
    | preparing => simp only [hworker]; exact hstay rfl
    | started start addressed its_time => simp only [hworker]; exact hstay rfl
  | finish worker enqueued mutation_ids report =>
    unfold step
    cases hworker : system.workers worker with
    | started start addressed dispatch_time =>
      simp only [hworker]
      generalize hmoved : finishStage configuration command start addressed dispatch_time enqueued
        mutation_ids report system.stores=moved
      obtain ⟨⟨answer,hanswer⟩,hstores⟩ := finishStage_spec hmoved
      have hquiet : ∀ other its_addressed its_time,
          moved.2≠.started other its_addressed its_time := by
        intro other its_addressed its_time hstarted
        rw [hanswer] at hstarted
        cases hstarted
      refine ⟨?_,hready (fun other hother => by rw [hanswer] at hother; cases hother)⟩
      rcases hstores with hsame | ⟨document,htransition,-,hwritten⟩
      · exact .kept hsame (permits_moved hquiet)
      · refine .ended worker start addressed dispatch_time answer document hworker htransition ?_
        exact congrArg (system.moved worker) (Prod.ext hwritten hanswer)
    | idle => simp only [hworker]; exact hstay rfl
    | answered answer => simp only [hworker]; exact hstay rfl
    | reading => simp only [hworker]; exact hstay rfl
    | preparing => simp only [hworker]; exact hstay rfl
    | ready prepared => simp only [hworker]; exact hstay rfl

/-- A moved dispatch of the command is stored at its place. -/
theorem found_moved {stores : Stores functions} {expected : StoredDispatch functions}
    {document : Document (PromotionDispatchRecordV2 functions)} {dispatch_id : Identifier}
    (htransition : Transition configuration.target expected document)
    (hid : expected.value.dispatch_id=dispatch_id) :
    dispatchAt (stores.putDispatch document) dispatch_id=some document.stored := by
  have hplace : document.stored.value.dispatch_id=expected.value.dispatch_id := by
    have hsame := htransition.same
    unfold SameDispatch at hsame
    rw [hsame]
  rw [dispatchAt_putDispatch,hplace,if_pos hid.symm]

theorem Invariant.step (h : Invariant configuration command system) (action : Action functions) :
    Invariant configuration command (PromotionCoordination.step configuration command system action) := by
  obtain ⟨hchange,hready⟩ := step_change h action
  -- A permit belongs to a started dispatch, so none is held while the dispatch is another one.
  have hnone : ∀ {dispatch : Option (StoredDispatch functions)},
      dispatchAt system.stores (commandDispatchId functions command)=dispatch →
      (∀ current,dispatch=some current → current.value.state≠.enqueueStarted) →
      ∀ worker start addressed dispatch_time,
        system.workers worker≠.started start addressed dispatch_time := by
    intro dispatch hdispatch hstate worker start addressed dispatch_time hholds
    obtain ⟨hfound,hstarted⟩ := h.started worker start addressed dispatch_time hholds
    exact hstate start.dispatch (hdispatch.symm.trans hfound) hstarted
  cases hchange with
  | kept hstores hpermits =>
    refine ⟨?_,hready,?_,?_⟩
    · rw [hstores]
      exact h.stored
    · intro worker start addressed dispatch_time hholds
      rw [hstores]
      exact h.started worker start addressed dispatch_time (hpermits _ _ _ _ hholds)
    · intro worker start addressed dispatch_time hholds other its_start its_addressed its_time hother
      exact h.alone worker start addressed dispatch_time (hpermits _ _ _ _ hholds) other its_start
        its_addressed its_time (hpermits _ _ _ _ hother)
  | prepared dispatch hempty hfound hplaced horigin hpermits =>
    have hquiet := hnone hempty (fun current hcurrent => by cases hcurrent)
    refine ⟨?_,hready,?_,?_⟩
    · intro other hother
      rw [hfound] at hother
      rw [← Option.some.inj hother]
      exact ⟨hplaced,horigin⟩
    · intro worker start addressed dispatch_time hholds
      exact absurd (hpermits _ _ _ _ hholds) (hquiet worker start addressed dispatch_time)
    · intro worker start addressed dispatch_time hholds
      exact absurd (hpermits _ _ _ _ hholds) (hquiet worker start addressed dispatch_time)
  | started worker dispatch_time mutation_ids report prepared moved document haction hstate hid
      hstarted hnext =>
    have hcurrent := hstarted.found
    rw [hid] at hcurrent
    have hquiet := hnone hcurrent (fun current hsome => by
      rw [← Option.some.inj hsome,hstate]
      simp only [ne_eq,reduceCtorEq,not_false_eq_true])
    obtain ⟨hplaced,horigin⟩ := h.stored prepared hcurrent
    have hwritten : (system.moved worker moved).stores=system.stores.putDispatch document :=
      hstarted.written
    have hfound : dispatchAt (system.moved worker moved).stores
        (commandDispatchId functions command)=some document.stored := by
      rw [hwritten]
      exact found_moved hstarted.transition hid
    rw [hnext] at hready ⊢
    refine ⟨?_,hready,?_,?_⟩
    · intro other hother
      rw [hfound] at hother
      rw [← Option.some.inj hother,hwritten]
      exact ⟨hplaced.moved hstarted.transition,horigin.same hstarted.transition.same⟩
    · intro other start addressed its_time hholds
      rcases workers_moved hholds with ⟨-,hpermit⟩ | ⟨-,hkept⟩
      · have hsame := hstarted.permit start addressed its_time hpermit
        rw [hfound,hsame]
        exact ⟨rfl,hstarted.state⟩
      · exact absurd hkept (hquiet other start addressed its_time)
    · intro first start addressed its_time hholds other its_start its_addressed another hother
      rcases workers_moved hholds with ⟨hfirst,-⟩ | ⟨-,hkept⟩
      · rcases workers_moved hother with ⟨hsecond,-⟩ | ⟨-,hkept⟩
        · rw [hfirst,hsecond]
        · exact absurd hkept (hquiet other its_start its_addressed another)
      · exact absurd hkept (hquiet first start addressed its_time)
  | ended worker start addressed dispatch_time answer document hholds htransition hnext =>
    obtain ⟨hcurrent,hstate⟩ := h.started worker start addressed dispatch_time hholds
    obtain ⟨hplaced,horigin⟩ := h.stored start.dispatch hcurrent
    have hfound : dispatchAt (system.stores.putDispatch document)
        (commandDispatchId functions command)=some document.stored :=
      found_moved htransition hplaced.place
    have hquiet : ∀ other its_start its_addressed its_time,
        (system.moved worker (system.stores.putDispatch document,.answered answer)).workers other≠
          .started its_start its_addressed its_time := by
      intro other its_start its_addressed its_time hother
      rcases workers_moved hother with ⟨-,hmoved⟩ | ⟨hne,hkept⟩
      · cases hmoved
      · exact hne (h.alone worker start addressed dispatch_time hholds other its_start
          its_addressed its_time hkept)
    rw [hnext] at hready ⊢
    refine ⟨?_,hready,?_,?_⟩
    · intro other hother
      have hsome := hfound.symm.trans hother
      rw [← Option.some.inj hsome]
      exact ⟨hplaced.moved htransition,horigin.same htransition.same⟩
    · intro other its_start its_addressed its_time hother
      exact absurd hother (hquiet other its_start its_addressed its_time)
    · intro first its_start its_addressed its_time hfirst
      exact absurd hfirst (hquiet first its_start its_addressed its_time)

theorem Invariant.run {actions : List (Action functions)}
    (h : Invariant configuration command system) : Invariant configuration command
      (LabelledRuns.run (PromotionCoordination.step configuration command) system actions) := by
  induction actions generalizing system with
  | nil => exact h
  | cons action actions ih => exact ih (h.step action)

/-- Documents without the dispatch of the command and without a call keep the invariant. -/
theorem invariant_initial {stores : Stores functions}
    (h : dispatchAt stores (commandDispatchId functions command)=none) :
    Invariant configuration command (initial stores) := by
  refine ⟨?_,?_,?_,?_⟩
  · intro dispatch hdispatch
    have hsome := h.symm.trans hdispatch
    cases hsome
  · intro worker prepared hready
    cases hready
  · intro worker start addressed dispatch_time hholds
    cases hholds
  · intro worker start addressed dispatch_time hholds
    cases hholds

/-- A call of a worker that has none. -/
def Free (system : System functions) (worker : Nat) : Prop :=
  system.workers worker=.idle ∨ ∃ answer,system.workers worker=.answered answer

/-- The steps of a call whose read succeeds. -/
def calling (functions : PromotionFunctions) (worker : Nat) : List (Action functions) :=
  [.call worker,.read worker true]

/-- The dispatch of the command has an outcome. -/
def Settled (command : PromotionCommandV2) (system : System functions) : Prop :=
  ∃ dispatch,dispatchAt system.stores (commandDispatchId functions command)=some dispatch ∧
    Terminal dispatch.value.state

/-- A later call finds the stored dispatch and writes nothing. -/
theorem called_spec {worker : Nat} {dispatch : StoredDispatch functions}
    (h : Invariant configuration command system) (hfree : Free system worker)
    (hfound : dispatchAt system.stores (commandDispatchId functions command)=some dispatch) :
    (run (step configuration command) system (calling functions worker)).stores=system.stores ∧
      (run (step configuration command) system (calling functions worker)).workers worker=
        adopted configuration command dispatch := by
  obtain ⟨hplaced,horigin⟩ := h.stored dispatch hfound
  have hcalled : step configuration command system (.call worker)=
      system.moved worker (system.stores,.reading) := by
    unfold step
    rcases hfree with hidle | ⟨answer,hanswered⟩
    · simp only [hidle]
    · simp only [hanswered]
  have hreading : (system.moved worker (system.stores,.reading)).workers worker=.reading :=
    workers_moved_self
  have hread : readStage configuration command (some system.stores)=
      adopted configuration command dispatch := by
    unfold readStage
    simp only [read_of_placed hfound hplaced horigin.answers]
  have hstep : step configuration command (system.moved worker (system.stores,.reading))
      (.read worker true)=(system.moved worker (system.stores,.reading)).moved worker
        (system.stores,adopted configuration command dispatch) := by
    unfold step
    simp only [hreading,if_true]
    rw [← hread]
    rfl
  unfold calling
  rw [run_cons,hcalled,run_cons,hstep,run_nil]
  exact ⟨rfl,workers_moved_self⟩

/-- A confirmed preparation of a command without documents stores its dispatch. -/
theorem prepare_confirmed {worker : Nat} {answers : PreparationAnswers}
    {prepared : PromotionDispatchRecordV2 functions} {mutation_ids : MutationIds}
    {report : ProviderReport functions} (hworker : system.workers worker=.preparing)
    (hprepared : preparedRecord functions configuration command answers=.ok prepared)
    (hanswers : RecordMatches functions configuration.target command prepared.fields)
    (hstate : prepared.state=.prepared) (habsent : Absent command system.stores)
    (hcommit : report.commit=.confirmed) :
    ∃ dispatch,dispatch.value=prepared ∧
      dispatchAt (step configuration command system
          (.prepare worker answers mutation_ids report)).stores
        (commandDispatchId functions command)=some dispatch ∧
      (step configuration command system
        (.prepare worker answers mutation_ids report)).workers worker=.ready dispatch := by
  obtain ⟨documents,hdocuments⟩ := @preparedDispatchDocuments_ok functions command
    configuration.target prepared mutation_ids hanswers hstate
  have hof := preparedDispatchDocuments_eq_ok hdocuments
  have hcreated := createDispatch_of_absent habsent hof
  have hvalue := hof.value
  have hrevision : documents.dispatch.stored.revision=
      expectedRevision documents.dispatch.stored.value.state := by
    rw [hof.revision,hvalue,hstate]
    rfl
  have hready : adopted configuration command documents.dispatch.stored=
      .ready documents.dispatch.stored := by
    have hadopt : adoptExisting configuration command documents.dispatch.stored=.ok none := by
      refine adoptExisting_prepared ?_ hrevision ?_
      · rw [hvalue]
        exact hanswers
      · rw [hvalue]
        exact hstate
    unfold adopted
    rw [hadopt]
  have hstage : prepareStage configuration command answers mutation_ids report system.stores=
      (system.stores.putDispatchDocuments documents,.ready documents.dispatch.stored) := by
    unfold prepareStage prepareOrAdoptPromotionDispatchV2
    simp only [hprepared,hdocuments,hcommit,runTransaction,hcreated,hready]
  have hstep : step configuration command system (.prepare worker answers mutation_ids report)=
      system.moved worker (system.stores.putDispatchDocuments documents,
        .ready documents.dispatch.stored) := by
    unfold step
    simp only [hworker,hstage]
  rw [hstep]
  refine ⟨documents.dispatch.stored,hvalue,?_,workers_moved_self⟩
  have hid : documents.dispatch.stored.value.dispatch_id=commandDispatchId functions command := by
    rw [hvalue]
    exact hanswers.dispatch_id
  have hstores : ∀ {moved : Stores functions×Stage functions},
      (system.moved worker moved).stores=moved.1 := rfl
  rw [hstores,dispatchAt_putDispatchDocuments,hid,if_pos rfl]

theorem startDocument_ok {stores : Stores functions} {dispatch : StoredDispatch functions}
    {dispatch_time : UtcSecond} {mutation_ids : MutationIds}
    (hplaced : Placed configuration.target stores (commandDispatchId functions command) dispatch)
    (horigin : Origin configuration command functions dispatch.value.fields)
    (hstate : dispatch.value.state=.prepared)
    (hlower : dispatch.value.prepared_at.1 ≤ dispatch_time.1)
    (hupper : dispatch_time.1<dispatch.value.task.expires_at.1) :
    ∃ addressed started document,
      startRecord configuration dispatch dispatch_time=.ok (addressed,started) ∧
      started.state=.enqueueStarted ∧
      preparedReplacement configuration.target dispatch started mutation_ids=.ok document := by
  obtain ⟨addressed,started,hrecord⟩ := startRecord_ok horigin hstate hlower hupper
  obtain ⟨hfields,-,-⟩ := startRecord_eq_ok hrecord
  have hshape := (recordBound_of_accepted dispatch.value.accepted).shape
  rw [validateShape,hstate] at hshape
  simp only [require_eq_ok] at hshape
  obtain ⟨-,hterminal,hresult⟩ := hshape
  have hrevision : dispatch.revision=0 := by
    rw [hplaced.revision,hstate]
    rfl
  have hstarted : started.state=.enqueueStarted := by
    rw [hfields]
    rfl
  have hsame : SameDispatch dispatch.value.fields started.fields := by
    rw [hfields]
    rfl
  have hstep : monotonicTransition dispatch started=true := by
    unfold monotonicTransition
    rw [hstate,hrevision,hfields]
    simp only [startedFields,hterminal,hresult,Option.isSome_some,Option.isNone_none,beq_self_eq_true,
      Bool.and_self]
  have hnext : dispatch.revision+1=expectedRevision started.state := by
    rw [hrevision,hstarted]
    rfl
  obtain ⟨document,hdocument⟩ := @preparedReplacement_ok functions dispatch configuration.target
    started mutation_ids hplaced.target hsame hstep hnext
  exact ⟨addressed,started,document,hrecord,hstarted,hdocument⟩

/-- A confirmed start inside the window hands out a permit. -/
theorem start_confirmed {worker : Nat} {dispatch : StoredDispatch functions}
    {dispatch_time : UtcSecond} {mutation_ids : MutationIds} {report : ProviderReport functions}
    (h : Invariant configuration command system)
    (hworker : system.workers worker=.ready dispatch)
    (hfound : dispatchAt system.stores (commandDispatchId functions command)=some dispatch)
    (hlower : dispatch.value.prepared_at.1 ≤ dispatch_time.1)
    (hupper : dispatch_time.1<dispatch.value.task.expires_at.1)
    (hcommit : report.commit=.confirmed) :
    ∃ start addressed,(step configuration command system
        (.start worker dispatch_time mutation_ids report)).workers worker=
      .started start addressed dispatch_time := by
  obtain ⟨hplaced,horigin⟩ := h.stored dispatch hfound
  obtain ⟨hstate,-⟩ := h.ready worker dispatch hworker
  obtain ⟨addressed,started,document,hrecord,hstarted,hdocument⟩ :=
    @startDocument_ok functions configuration command system.stores dispatch dispatch_time
      mutation_ids hplaced horigin hstate hlower hupper
  obtain ⟨permit,hbegin⟩ := begin_confirmed hplaced hfound hdocument hcommit hstarted
  refine ⟨⟨document.stored,permit⟩,addressed,?_⟩
  unfold step
  simp only [hworker]
  rw [workers_moved_self]
  unfold startStage
  rw [hrecord]
  simp only [hbegin]

/-- A start whose answer is lost leaves the dispatch started and its permit with no one. -/
theorem start_unconfirmed {worker : Nat} {dispatch : StoredDispatch functions}
    {dispatch_time : UtcSecond} {mutation_ids : MutationIds} {report : ProviderReport functions}
    (h : Invariant configuration command system)
    (hworker : system.workers worker=.ready dispatch)
    (hfound : dispatchAt system.stores (commandDispatchId functions command)=some dispatch)
    (hlower : dispatch.value.prepared_at.1 ≤ dispatch_time.1)
    (hupper : dispatch_time.1<dispatch.value.task.expires_at.1)
    (hcommit : report.commit=.unconfirmed true) :
    (∃ started,dispatchAt (step configuration command system
          (.start worker dispatch_time mutation_ids report)).stores
        (commandDispatchId functions command)=some started ∧
      started.value.state=.enqueueStarted) ∧
    ∀ other start addressed its_time,(step configuration command system
      (.start worker dispatch_time mutation_ids report)).workers other≠
        .started start addressed its_time := by
  obtain ⟨hplaced,horigin⟩ := h.stored dispatch hfound
  obtain ⟨hstate,-⟩ := h.ready worker dispatch hworker
  obtain ⟨addressed,started,document,hrecord,hstarted,hdocument⟩ :=
    @startDocument_ok functions configuration command system.stores dispatch dispatch_time
      mutation_ids hplaced horigin hstate hlower hupper
  obtain ⟨hvalue,htransition⟩ := preparedReplacement_eq_ok hdocument
  have hupdate : updateDispatch dispatch document system.stores=
      .ok (system.stores.putDispatch document) := update_of_placed hplaced hfound
  have hbegin : beginPromotionEnqueueV2 configuration.target dispatch started mutation_ids report
      system.stores=(system.stores.putDispatch document,
        ((resolveAmbiguous [lookFor document
          (transactionReadDispatch document.stored.value.dispatch_id) (report.resolved 0)]).map
          (fun disposition => (document.stored,disposition)))>>=directStart) := by
    unfold beginPromotionEnqueueV2 compareAndSet
    rw [if_pos hstarted,hdocument]
    simp only [hcommit,runTransaction,hupdate]
  have hopen : ∀ start,(((resolveAmbiguous [lookFor document
      (transactionReadDispatch document.stored.value.dispatch_id) (report.resolved 0)]).map
      (fun disposition => (document.stored,disposition)))>>=directStart)≠
      (.ok start : Except StoreError (DirectPromotionEnqueueStartV2 functions)) := by
    intro start hstart
    rw [bind_eq_ok] at hstart
    obtain ⟨pair,hpair,hdirect⟩ := hstart
    unfold directStart at hdirect
    rw [check_bind_eq_ok,require_eq_ok] at hdirect
    cases hresolved : resolveAmbiguous [lookFor document
        (transactionReadDispatch document.stored.value.dispatch_id) (report.resolved 0)] with
    | error raised =>
      rw [hresolved] at hpair
      cases hpair
    | ok disposition =>
      rw [hresolved] at hpair
      have hsame : (document.stored,disposition)=pair := Except.ok.inj hpair
      rw [← hsame] at hdirect
      have hconfirmed : disposition=.directConfirmed := hdirect.1
      rw [hconfirmed] at hresolved
      exact resolveAmbiguous_ne_direct hresolved
  have hstep : step configuration command system (.start worker dispatch_time mutation_ids report)=
      system.moved worker (startStage configuration command dispatch dispatch_time mutation_ids
        report system.stores) := by
    unfold step
    simp only [hworker]
  have hwritten : (startStage configuration command dispatch dispatch_time mutation_ids report
      system.stores).1=system.stores.putDispatch document := by
    unfold startStage
    rw [hrecord]
    simp only [hbegin]
  rw [hstep]
  refine ⟨⟨document.stored,?_,by rw [hvalue]; exact hstarted⟩,?_⟩
  · have hstores : ∀ {moved : Stores functions×Stage functions},
        (system.moved worker moved).stores=moved.1 := rfl
    rw [hstores,hwritten]
    exact found_moved htransition hplaced.place
  · intro other start its_addressed its_time hholds
    rcases workers_moved hholds with ⟨-,hmoved⟩ | ⟨-,hkept⟩
    · unfold startStage at hmoved
      rw [hrecord] at hmoved
      simp only [hbegin] at hmoved
      split at hmoved
      · rename_i its_start hits
        exact hopen its_start hits
      · cases hmoved
      · cases hmoved
      · cases hmoved
      · cases hmoved
    · obtain ⟨hcurrent,hits⟩ := h.started other start its_addressed its_time hkept
      rw [hfound] at hcurrent
      rw [← Option.some.inj hcurrent,hstate] at hits
      cases hits

/-- The worker that holds the permit settles the dispatch. -/
theorem finish_confirmed {worker : Nat} {start : DirectPromotionEnqueueStartV2 functions}
    {addressed : AddressedTask} {dispatch_time : UtcSecond} {enqueued : Option TaskEnqueueResult}
    {mutation_ids : MutationIds} {report : ProviderReport functions}
    (h : Invariant configuration command system)
    (hholds : system.workers worker=.started start addressed dispatch_time)
    (hcommit : report.commit=.confirmed) :
    Settled command (step configuration command system
      (.finish worker enqueued mutation_ids report)) := by
  obtain ⟨hfound,hstate⟩ := h.started worker start addressed dispatch_time hholds
  obtain ⟨hplaced,horigin⟩ := h.stored start.dispatch hfound
  generalize hdisposition : dispositionOf start.dispatch.value.task_name
    (dispatchPreparedV2 configuration.settings addressed start.permit dispatch_time enqueued)=
      disposition
  have hvalid := @terminal_accepted functions start.dispatch.value disposition hstate
  have hmade : makeRecord functions (terminalFields start.dispatch.value disposition)=
      .ok ⟨terminalFields start.dispatch.value disposition,hvalid⟩ := makeRecord_eq_ok.mpr rfl
  have hended : Terminal (stateOf disposition) := by
    cases disposition with
    | created => exact .inl rfl
    | duplicate => exact .inr (.inl rfl)
    | ambiguous => exact .inr (.inr rfl)
  have hrevision : start.dispatch.revision=1 := by
    rw [hplaced.revision,hstate]
    rfl
  have htimed : start.dispatch.value.enqueue_started_at.isSome=true := by
    have hshape := (recordBound_of_accepted start.dispatch.value.accepted).shape
    rw [validateShape,hstate] at hshape
    simp only [check_bind_eq_ok,validateEnqueueStart,require_eq_ok] at hshape
    obtain ⟨⟨enqueue_started_at,hmem,-⟩,-⟩ := hshape
    rw [Option.mem_def] at hmem
    rw [hmem]
    rfl
  have hstep : monotonicTransition start.dispatch
      ⟨terminalFields start.dispatch.value disposition,hvalid⟩=true := by
    unfold monotonicTransition
    rw [hstate,hrevision]
    have hlisted : [PromotionDispatchState.created,.duplicate,.ambiguous].contains
        (stateOf disposition)=true := by
      cases disposition <;> decide
    simp only [terminalFields,htimed,hlisted,Option.isSome_some,beq_self_eq_true,Bool.and_self]
  have hnext : start.dispatch.revision+1=expectedRevision (stateOf disposition) := by
    rw [hrevision]
    cases disposition <;> rfl
  obtain ⟨document,hdocument⟩ := @preparedReplacement_ok functions start.dispatch
    configuration.target ⟨terminalFields start.dispatch.value disposition,hvalid⟩ mutation_ids
    hplaced.target rfl hstep hnext
  have hvalue := (preparedReplacement_eq_ok hdocument).1
  have houtcome : stateOf disposition≠.enqueueStarted := by
    cases disposition <;> decide
  have hother : (terminalFields start.dispatch.value disposition).state≠.enqueueStarted := houtcome
  have hwritten : (finishStage configuration command start addressed dispatch_time enqueued
      mutation_ids report system.stores).1=system.stores.putDispatch document := by
    unfold finishStage
    simp only [hdisposition,hmade]
    unfold compareAndSetPromotionDispatchV2
    rw [if_neg hother,compareAndSet_confirmed hplaced hfound hdocument hcommit]
  refine ⟨document.stored,?_,?_⟩
  · unfold step
    simp only [hholds]
    have hstores : ∀ {moved : Stores functions×Stage functions},
        (system.moved worker moved).stores=moved.1 := rfl
    rw [hstores,hwritten]
    exact found_moved (preparedReplacement_eq_ok hdocument).2 hplaced.place
  · rw [hvalue]
    exact hended

/-- Whether a start at a time is inside the window of a dispatch. -/
def InWindow (dispatch : StoredDispatch functions) (dispatch_time : UtcSecond) : Prop :=
  dispatch.value.prepared_at.1 ≤ dispatch_time.1 ∧
    dispatch_time.1<dispatch.value.task.expires_at.1

/-- A worker that holds a permit. -/
def Holds (system : System functions) (worker : Nat) : Prop :=
  ∃ start addressed dispatch_time,system.workers worker=.started start addressed dispatch_time

/-- A start outside the window ends its call and writes nothing. -/
theorem start_refused {worker : Nat} {dispatch : StoredDispatch functions}
    {dispatch_time : UtcSecond} {mutation_ids : MutationIds} {report : ProviderReport functions}
    (hworker : system.workers worker=.ready dispatch) (houtside : ¬InWindow dispatch dispatch_time) :
    step configuration command system (.start worker dispatch_time mutation_ids report)=
      system.moved worker (system.stores,.answered (.error .trustedStateInvalid)) := by
  have hrefused : ∃ raised,startRecord configuration dispatch dispatch_time=.error raised := by
    cases hrecord : startRecord configuration dispatch dispatch_time with
    | error raised => exact ⟨raised,rfl⟩
    | ok pair =>
      obtain ⟨addressed,started⟩ := pair
      exact absurd (startRecord_eq_ok hrecord).2 houtside
  obtain ⟨raised,hrecord⟩ := hrefused
  unfold step
  simp only [hworker]
  unfold startStage
  rw [hrecord]

/-- A prepared dispatch stays while no call starts it inside its window. -/
theorem run_closed {later : List (Action functions)} {dispatch : StoredDispatch functions}
    (h : Invariant configuration command system)
    (hfound : dispatchAt system.stores (commandDispatchId functions command)=some dispatch)
    (hstate : dispatch.value.state=.prepared)
    (houtside : ∀ worker dispatch_time mutation_ids report,
      Action.start worker dispatch_time mutation_ids report∈later →
      ¬InWindow dispatch dispatch_time) :
    dispatchAt (run (step configuration command) system later).stores
      (commandDispatchId functions command)=some dispatch := by
  induction later generalizing system with
  | nil => exact hfound
  | cons action later ih =>
    have hrest : ∀ worker dispatch_time mutation_ids report,
        Action.start worker dispatch_time mutation_ids report∈later →
        ¬InWindow dispatch dispatch_time := fun worker dispatch_time mutation_ids report hmem =>
      houtside worker dispatch_time mutation_ids report (List.mem_cons_of_mem _ hmem)
    refine ih (h.step action) ?_ hrest
    have hchange := (step_change h action).1
    cases hchange with
    | kept hstores hpermits =>
      rw [hstores]
      exact hfound
    | prepared other hempty =>
      rw [hempty] at hfound
      cases hfound
    | started worker dispatch_time mutation_ids report prepared moved document haction hprepared
        hid hstarted =>
      have hcurrent := hstarted.found
      rw [hid,hfound] at hcurrent
      have hwindow := hstarted.window
      rw [← Option.some.inj hcurrent] at hwindow
      have hmem : Action.start worker dispatch_time mutation_ids report∈action::later := by
        rw [haction]
        exact List.mem_cons_self
      exact absurd hwindow (houtside worker dispatch_time mutation_ids report hmem)
    | ended worker start addressed dispatch_time answer document hholds =>
      obtain ⟨hother,hstarted⟩ := h.started worker start addressed dispatch_time hholds
      rw [hfound] at hother
      rw [← Option.some.inj hother,hstate] at hstarted
      cases hstarted

/-- A started dispatch whose permit nobody holds stays as it is. -/
theorem run_lost {later : List (Action functions)} {dispatch : StoredDispatch functions}
    (h : Invariant configuration command system)
    (hfound : dispatchAt system.stores (commandDispatchId functions command)=some dispatch)
    (hstate : dispatch.value.state=.enqueueStarted) (hlost : ∀ worker,¬Holds system worker) :
    dispatchAt (run (step configuration command) system later).stores
      (commandDispatchId functions command)=some dispatch := by
  induction later generalizing system with
  | nil => exact hfound
  | cons action later ih =>
    have hkept : dispatchAt (step configuration command system action).stores
        (commandDispatchId functions command)=some dispatch ∧
        ∀ worker,¬Holds (step configuration command system action) worker := by
      have hchange := (step_change h action).1
      cases hchange with
      | kept hstores hpermits =>
        refine ⟨by rw [hstores]; exact hfound,?_⟩
        rintro worker ⟨start,addressed,dispatch_time,hholds⟩
        exact hlost worker ⟨start,addressed,dispatch_time,hpermits _ _ _ _ hholds⟩
      | prepared other hempty =>
        rw [hempty] at hfound
        cases hfound
      | started worker dispatch_time mutation_ids report prepared moved document haction hprepared
          hid hstarted =>
        have hcurrent := hstarted.found
        rw [hid,hfound] at hcurrent
        rw [← Option.some.inj hcurrent,hstate] at hprepared
        cases hprepared
      | ended worker start addressed dispatch_time answer document hholds =>
        exact absurd ⟨start,addressed,dispatch_time,hholds⟩ (hlost worker)
    exact ih (h.step action) hkept.1 hkept.2

/-- A dispatch with an outcome stays as it is. -/
theorem run_final {later : List (Action functions)} {dispatch : StoredDispatch functions}
    (h : Invariant configuration command system)
    (hfound : dispatchAt system.stores (commandDispatchId functions command)=some dispatch)
    (hstate : Terminal dispatch.value.state) :
    dispatchAt (run (step configuration command) system later).stores
      (commandDispatchId functions command)=some dispatch := by
  induction later generalizing system with
  | nil => exact hfound
  | cons action later ih =>
    have hopen : ∀ {state : PromotionDispatchState},state=.prepared ∨ state=.enqueueStarted →
        ¬Terminal state := by
      rintro state (rfl | rfl) (hended | hended | hended) <;> cases hended
    refine ih (h.step action) ?_
    have hchange := (step_change h action).1
    cases hchange with
    | kept hstores hpermits =>
      rw [hstores]
      exact hfound
    | prepared other hempty =>
      rw [hempty] at hfound
      cases hfound
    | started worker dispatch_time mutation_ids report prepared moved document haction hprepared
        hid hstarted =>
      have hcurrent := hstarted.found
      rw [hid,hfound] at hcurrent
      rw [← Option.some.inj hcurrent] at hprepared
      exact absurd hstate (hopen (.inl hprepared))
    | ended worker start addressed dispatch_time answer document hholds =>
      obtain ⟨hother,hstarted⟩ := h.started worker start addressed dispatch_time hholds
      rw [hfound] at hother
      rw [← Option.some.inj hother] at hstarted
      exact absurd hstate (hopen (.inr hstarted))

/-- Only finitely many workers have ever had a call. -/
theorem workers_idle {stores : Stores functions} {actions : List (Action functions)} :
    ∃ bound,∀ worker,bound ≤ worker →
      (run (step configuration command) (initial stores) actions).workers worker=.idle := by
  have hstep : ∀ {current : System functions} {bound : Nat} {action : Action functions},
      (∀ worker,bound ≤ worker → current.workers worker=.idle) →
      ∃ next,∀ worker,next ≤ worker →
        (step configuration command current action).workers worker=.idle := by
    intro current bound action hidle
    have hmoved : ∀ (mover : Nat) (moved : Stores functions×Stage functions),
        ∃ next,∀ worker,next ≤ worker → (current.moved mover moved).workers worker=.idle := by
      intro mover moved
      refine ⟨max bound (mover+1),?_⟩
      intro worker hworker
      have hother : worker≠mover := by omega
      have hbound : bound ≤ worker := by omega
      unfold System.moved
      simp only [Function.update_apply]
      rw [if_neg hother]
      exact hidle worker hbound
    have hstay : ∃ next,∀ worker,next ≤ worker → current.workers worker=.idle := ⟨bound,hidle⟩
    unfold step
    cases action with
    | call worker => dsimp only; split <;> first | exact hmoved _ _ | exact hstay
    | read worker succeeds => dsimp only; split <;> first | exact hmoved _ _ | exact hstay
    | prepare worker answers mutation_ids report =>
      dsimp only; split <;> first | exact hmoved _ _ | exact hstay
    | start worker dispatch_time mutation_ids report =>
      dsimp only; split <;> first | exact hmoved _ _ | exact hstay
    | finish worker enqueued mutation_ids report =>
      dsimp only; split <;> first | exact hmoved _ _ | exact hstay
  induction actions using List.reverseRecOn with
  | nil => exact ⟨0,fun _ _ => rfl⟩
  | append_singleton actions action ih =>
    obtain ⟨bound,hidle⟩ := ih
    rw [run_concat]
    exact hstep hidle

end

/-- A prepared dispatch is settled by every later call inside the window of its task, and by none
outside it. -/
structure OpenInWindow (configuration : Configuration) (command : PromotionCommandV2)
    (system : System functions) (dispatch : StoredDispatch functions) : Prop where
  state : dispatch.value.state=.prepared
  settles : ∀ worker,Free system worker → ∀ dispatch_time,InWindow dispatch dispatch_time →
    ∀ mutation_ids begun other_ids report enqueued,
      begun.commit=.confirmed → report.commit=.confirmed →
      Settled command (run (step configuration command) system (calling functions worker++
        [.start worker dispatch_time mutation_ids begun,.finish worker enqueued other_ids report]))
  /-- A call that starts it outside the window writes nothing and is refused. -/
  refused : ∀ worker,Free system worker → ∀ dispatch_time,¬InWindow dispatch dispatch_time →
    ∀ mutation_ids report,
      (run (step configuration command) system (calling functions worker++
        [.start worker dispatch_time mutation_ids report])).stores=system.stores ∧
      (run (step configuration command) system (calling functions worker++
        [.start worker dispatch_time mutation_ids report])).workers worker=
          .answered (.error .trustedStateInvalid)
  /-- It stays prepared in every run that starts it at no time inside the window. -/
  closed : ∀ later,(∀ worker dispatch_time mutation_ids report,
      Action.start worker dispatch_time mutation_ids report∈later →
      ¬InWindow dispatch dispatch_time) →
    dispatchAt (run (step configuration command) system later).stores
      (commandDispatchId functions command)=some dispatch

/-- A started dispatch is settled by the holder of its permit, and by no one when it is lost. -/
structure Pending (configuration : Configuration) (command : PromotionCommandV2)
    (system : System functions) (dispatch : StoredDispatch functions) : Prop where
  state : dispatch.value.state=.enqueueStarted
  settles : ∀ worker,Holds system worker → ∀ enqueued mutation_ids report,
    report.commit=.confirmed → Settled command
      (step configuration command system (.finish worker enqueued mutation_ids report))
  /-- Without such a worker it stays started in every later run. -/
  lost : (∀ worker,¬Holds system worker) → ∀ later,
    dispatchAt (run (step configuration command) system later).stores
      (commandDispatchId functions command)=some dispatch
  /-- A later call leaves its outcome open. -/
  unknown : ∀ worker,Free system worker →
    (run (step configuration command) system (calling functions worker)).stores=system.stores ∧
    (run (step configuration command) system (calling functions worker)).workers worker=
      .answered (.error .outcomeUnknown)

/-- The outcome of a dispatch is kept and answers every later call. -/
structure Final (configuration : Configuration) (command : PromotionCommandV2)
    (system : System functions) (dispatch : StoredDispatch functions) : Prop where
  state : Terminal dispatch.value.state
  answered : ∃ result,dispatch.value.result=some result ∧ ∀ later,
    dispatchAt (run (step configuration command) system later).stores
      (commandDispatchId functions command)=some dispatch ∧
    ∀ worker,Free (run (step configuration command) system later) worker →
      (run (step configuration command) system (later++calling functions worker)).workers worker=
        .answered (.ok result)

section

variable {system : System functions} {dispatch : StoredDispatch functions}

/-- What may still happen to a prepared dispatch. -/
theorem openInWindow_of_prepared (h : Invariant configuration command system)
    (hfound : dispatchAt system.stores (commandDispatchId functions command)=some dispatch)
    (hstate : dispatch.value.state=.prepared) :
    OpenInWindow configuration command system dispatch := by
  obtain ⟨hplaced,horigin⟩ := h.stored dispatch hfound
  have hadopted : adopted configuration command dispatch=.ready dispatch := by
    unfold adopted
    rw [adoptExisting_prepared horigin.answers hplaced.revision hstate]
  refine ⟨hstate,?_,?_,fun later houtside => run_closed h hfound hstate houtside⟩
  · intro worker hfree dispatch_time hwindow mutation_ids begun other_ids report enqueued hbegun
      hcommit
    obtain ⟨hstores,hready⟩ := called_spec h hfree hfound
    rw [run_append,run_cons,run_cons,run_nil]
    have hcalled := @Invariant.run functions configuration command system (calling functions worker) h
    generalize run (step configuration command) system (calling functions worker)=called
      at hstores hready hcalled ⊢
    rw [hadopted] at hready
    rw [← hstores] at hfound
    obtain ⟨start,addressed,hstarted⟩ := @start_confirmed functions configuration command called
      worker dispatch dispatch_time mutation_ids begun hcalled hready hfound hwindow.1 hwindow.2 hbegun
    exact finish_confirmed (hcalled.step _) hstarted hcommit
  · intro worker hfree dispatch_time houtside mutation_ids report
    obtain ⟨hstores,hready⟩ := called_spec h hfree hfound
    rw [run_append,run_cons,run_nil]
    generalize run (step configuration command) system (calling functions worker)=called
      at hstores hready ⊢
    rw [hadopted] at hready
    rw [start_refused hready houtside]
    exact ⟨hstores,workers_moved_self⟩

/-- What may still happen to a started dispatch. -/
theorem pending_of_started (h : Invariant configuration command system)
    (hfound : dispatchAt system.stores (commandDispatchId functions command)=some dispatch)
    (hstate : dispatch.value.state=.enqueueStarted) :
    Pending configuration command system dispatch := by
  obtain ⟨hplaced,horigin⟩ := h.stored dispatch hfound
  have hadopted : adopted configuration command dispatch=.answered (.error .outcomeUnknown) := by
    unfold adopted
    rw [adoptExisting_started horigin.answers hplaced.revision hstate]
  refine ⟨hstate,?_,fun hlost later => run_lost h hfound hstate hlost,?_⟩
  · rintro worker ⟨start,addressed,dispatch_time,hholds⟩ enqueued mutation_ids report hcommit
    exact finish_confirmed h hholds hcommit
  · intro worker hfree
    rw [← hadopted]
    exact called_spec h hfree hfound

/-- What may still happen to a dispatch with an outcome. -/
theorem final_of_terminal (h : Invariant configuration command system)
    (hfound : dispatchAt system.stores (commandDispatchId functions command)=some dispatch)
    (hstate : Terminal dispatch.value.state) : Final configuration command system dispatch := by
  obtain ⟨hplaced,horigin⟩ := h.stored dispatch hfound
  obtain ⟨result,hresult,hadopt⟩ := adoptExisting_terminal horigin hplaced.revision hstate
  have hadopted : adopted configuration command dispatch=.answered (.ok result) := by
    unfold adopted
    rw [hadopt]
  refine ⟨hstate,result,hresult,?_⟩
  intro later
  have hkept := @run_final functions configuration command system later dispatch h hfound hstate
  refine ⟨hkept,?_⟩
  intro worker hfree
  rw [run_append,← hadopted]
  exact (called_spec h.run hfree hkept).2

end

/-- How a promotion command ends, for any number of its calls in any order, with crashes and
lost answers: it has no dispatch yet, or a prepared one that every later call settles inside the
window of its task and none outside it, or a started one that only the holder of its permit
settles, or an outcome that every later call answers with. -/
theorem promotion_command_ends (functions : PromotionFunctions) (configuration : Configuration)
    (command : PromotionCommandV2) (stores : Stores functions)
    (hempty : dispatchAt stores (commandDispatchId functions command)=none)
    (actions : List (Action functions)) :
    (∃ worker,Free (run (step configuration command) (initial stores) actions) worker) ∧
    (dispatchAt (run (step configuration command) (initial stores) actions).stores
        (commandDispatchId functions command)=none ∨
      ∃ dispatch,dispatchAt (run (step configuration command) (initial stores) actions).stores
          (commandDispatchId functions command)=some dispatch ∧
        (OpenInWindow configuration command
            (run (step configuration command) (initial stores) actions) dispatch ∨
          Pending configuration command
            (run (step configuration command) (initial stores) actions) dispatch ∨
          Final configuration command
            (run (step configuration command) (initial stores) actions) dispatch)) := by
  have hinitial : Invariant configuration command (initial stores) := invariant_initial hempty
  have hreached := @Invariant.run functions configuration command (initial stores) actions hinitial
  refine ⟨?_,?_⟩
  · obtain ⟨bound,hidle⟩ := @workers_idle functions configuration command stores actions
    exact ⟨bound,.inl (hidle bound (Nat.le_refl bound))⟩
  · generalize run (step configuration command) (initial stores) actions=system at hreached ⊢
    cases hfound : dispatchAt system.stores (commandDispatchId functions command) with
    | none => exact .inl rfl
    | some dispatch =>
      refine .inr ⟨dispatch,rfl,?_⟩
      cases hstate : dispatch.value.state with
      | prepared => exact .inl (openInWindow_of_prepared hreached hfound hstate)
      | enqueueStarted => exact .inr (.inl (pending_of_started hreached hfound hstate))
      | created => exact .inr (.inr (final_of_terminal hreached hfound (.inl hstate)))
      | duplicate => exact .inr (.inr (final_of_terminal hreached hfound (.inr (.inl hstate))))
      | ambiguous => exact .inr (.inr (final_of_terminal hreached hfound (.inr (.inr hstate))))

def sampleFunctions : PromotionFunctions where
  sha256 := fun _ => zeroSha256
  query_sha256 := fun _ => zeroSha256
  policy_sha256 := zeroSha256
  observation_sha256 := fun _ => zeroSha256
  state_sha256 := fun _ => zeroSha256
  decision_sha256 := fun _ => zeroSha256
  decision_id := fun _ => sampleRequest
  decision_id_other := fun _ _ => rfl
  target_sha256 := fun _ => zeroSha256
  snapshot_sha256 := fun _ => zeroSha256
  plan_sha256 := fun _ => zeroSha256
  receipt_sha256 := fun _ => zeroSha256
  target_configuration_sha256 := fun _ => zeroSha256
  anchor_sha256 := fun _ => zeroSha256
  anchor_id := fun _ => sampleRequest
  anchor_id_other := fun _ _ => rfl
  proof_sha256 := fun _ => zeroSha256
  proof_id := fun _ => sampleRequest
  proof_id_other := fun _ _ => rfl
  signing_input_sha256 := fun _ _ => zeroSha256
  signed_proof_sha256 := fun _ => zeroSha256
  promotion_sha256 := fun _ => zeroSha256
  promotion_id := fun _ => sampleRequest
  promotion_id_other := fun _ _ => rfl
  request_id := fun _ => sampleRequest
  request_id_other := fun _ _ => rfl
  claims_sha256 := fun _ => zeroSha256
  capability_sha256 := fun _ => zeroSha256
  authorization_sha256 := fun _ => zeroSha256
  capability_id_sha256 := fun _ => zeroSha256
  capability_id_other := fun _ _ => rfl
  command_sha256 := fun _ => zeroSha256
  task_sha256 := fun _ => zeroSha256
  taskBytes := fun _ => []

def sampleAudience : String := "https://controlgraph-executor-100001.us-central1.run.app"

def sampleConfiguration : Configuration where
  target := sampleTarget
  settings := ⟨sampleTarget.project_id,sampleAudience,"https://controlgraph-recovery.test"⟩

def sampleRootId : Identifier := ⟨"cgroot:"++zeroSha256.1,isIdentifier_root zeroSha256⟩

def sampleCapabilityId : Identifier :=
  ⟨"cgcap-"++zeroSha256.1,isIdentifier_derived (by decide) (by decide) zeroSha256⟩

def sampleReceipt : VerifiedApplyReceiptLocatorV1 :=
  ⟨sampleRequest,sampleRequest,sampleRequest,zeroSha256,zeroSha256,zeroSha256,
    ⟨"operation",operation_bounds⟩,zeroSha256⟩

def sampleChain : PromotionHealthChainLocatorV1 where
  anchor_id :=
    ⟨"cghealthanchor:"++zeroSha256.1,isIdentifier_derived (by decide) (by decide) zeroSha256⟩
  anchor_sha256 := zeroSha256
  chain_id :=
    ⟨HealthProofs.chainIdentity zeroSha256,isIdentifier_derived (by decide) (by decide) zeroSha256⟩
  health_chain_sha256 := zeroSha256
  chain_head_sha256 := zeroSha256
  ordered_proof_chain_sha256 := zeroSha256
  terminal_sequence := 2

def sampleCommand : PromotionCommandV2 :=
  ⟨sampleRootId,zeroSha256,firstEpoch,sampleRequest,sampleRequest,sampleTime,sampleReceipt,
    sampleChain⟩

def sampleEnd : UtcSecond := ⟨1700000300,end_bounds⟩

def sampleProof : HealthyPromotionProofV1Fields where
  proof_id := sampleRequest
  anchor_id := sampleChain.anchor_id
  anchor_sha256 := zeroSha256
  root_id := sampleRootId
  root_sha256 := zeroSha256
  target := sampleTarget
  epoch := firstEpoch
  policy_sha256 := zeroSha256
  candidate_revision := samplePlan.candidate_revision
  terminal_sequence := 2
  source_receipt_sha256 := zeroSha256
  expected_prestate_sha256 := zeroSha256
  terminal_health_decision_sha256 := zeroSha256
  signed_health_chain_sha256 := zeroSha256
  desired_poststate_sha256 := zeroSha256
  issued_at := sampleTime
  valid_until := sampleEnd

theorem sampleAccount_bound (name : String) (h : name.length ≤ 32) :
    1 ≤ (serviceAccount name sampleTarget.project_id).length ∧
      (serviceAccount name sampleTarget.project_id).length≤2048 := by
  have hproject : sampleTarget.project_id.1.length=26 := by decide
  have hback : ".iam.gserviceaccount.com".length=24 := by decide
  have hat : "@".length=1 := by decide
  unfold serviceAccount
  simp only [String.length_append]
  omega

def sampleAuthorization : PromotionAuthorizationV1 where
  capability_id := sampleCapabilityId
  request_id := sampleRequest
  idempotency_key := sampleRequest
  scheduled_at := sampleTime
  root_id := sampleRootId
  root_sha256 := zeroSha256
  target := sampleTarget
  epoch := firstEpoch
  plan_sha256 := zeroSha256
  policy_sha256 := zeroSha256
  stable_snapshot_sha256 := zeroSha256
  stable_revision := samplePlan.stable_revision
  stable_revision_configuration_sha256 := zeroSha256
  candidate_revision := samplePlan.candidate_revision
  candidate_revision_configuration_sha256 := zeroSha256
  concurrency := 1
  evidence_signing_key_version :=
    ⟨HealthProofs.evidenceKeyName sampleTarget.project_id++"1",by decide +kernel⟩
  capability_signing_key_version := ⟨capabilityKeyName sampleTarget.project_id++"1",by decide +kernel⟩
  issuer_identity := ⟨_,sampleAccount_bound "controlgraph-issuer" (by decide)⟩
  executor_identity := ⟨_,sampleAccount_bound "controlgraph-executor" (by decide)⟩
  executor_audience := sampleAudience
  expected_prestate_sha256 := zeroSha256
  provider_etag := ⟨"etag-chain",chainToken⟩
  verified_apply_receipt := sampleReceipt
  source_receipt_sha256 := zeroSha256
  health_chain_locator := sampleChain
  terminal_health_decision_sha256 := zeroSha256
  healthy_promotion_proof_sha256 := zeroSha256
  healthy_promotion_proof := sampleProof
  desired_poststate_sha256 := zeroSha256
  proof_valid_until := sampleEnd

def sampleCapability : SignedCapability where
  claims := {
    capability_id := sampleCapabilityId
    issuer := sampleAuthorization.issuer_identity
    subject := sampleAuthorization.executor_identity
    audience := sampleAudience
    target := sampleTarget
    root_id := sampleRootId
    root_sha256 := zeroSha256
    epoch := firstEpoch
    action := .promoteCandidate
    stable_revision := samplePlan.stable_revision
    candidate_revision := samplePlan.candidate_revision
    stable_percent := 0
    candidate_percent := 100
    concurrency := none
    plan_sha256 := zeroSha256
    provider_etag := ⟨"etag-chain",chainToken⟩
    request_id := sampleRequest
    idempotency_key := sampleRequest
    parent_capability_sha256 := none
    issued_at := sampleTime
    not_before := sampleTime
    expires_at := sampleEnd
    signing_key_version := sampleAuthorization.capability_signing_key_version}
  claims_sha256 := zeroSha256
  signature := "signature"

def sampleAnswers : PreparationAnswers :=
  ⟨sampleTime,.ok sampleAuthorization,.ok sampleCapability,.ok ()⟩

theorem sampleAuthorization_rootBound : AuthorizationRootBound sampleAuthorization where
  root_id := rfl
  target := by decide +kernel
  different := by decide
  stable := by decide +kernel
  candidate := by decide +kernel
  evidence_key := by decide +kernel
  capability_key := by decide +kernel
  issuer := rfl
  executor := rfl
  audience := by decide +kernel

theorem sampleAuthorization_accepted :
    validateAuthorization sampleFunctions sampleAuthorization=.ok () := by
  have hlocator : validateChainLocator sampleChain=.ok () :=
    (bind_of_ok (require_of (by decide))).trans
      (require_of ⟨by decide +kernel,rfl⟩)
  have hproof : sampleProof.validatePromotion sampleFunctions.toHealthProofFunctions=.ok () := by
    refine (bind_of_ok (require_of (by decide))).trans ?_
    refine (bind_of_ok (require_of rfl)).trans ?_
    refine (bind_of_ok (require_of (by decide))).trans ?_
    exact require_of rfl
  have hbound : AuthorizationProofBound sampleFunctions sampleAuthorization :=
    ⟨rfl,rfl,rfl,rfl,rfl,rfl,rfl,rfl,rfl,rfl,rfl,rfl,rfl,rfl,rfl,rfl,rfl,by decide,by decide⟩
  refine (bind_of_ok (require_of (by decide))).trans ?_
  refine (bind_of_ok hlocator).trans ?_
  refine (bind_of_ok hproof).trans ?_
  refine (bind_of_ok (require_of sampleAuthorization_rootBound)).trans ?_
  refine (bind_of_ok (require_of ⟨rfl,rfl⟩)).trans ?_
  exact (bind_of_ok (require_of hbound)).trans (require_of rfl)

def sampleTask : PromotionTaskRequestV2 :=
  taskOf sampleCapability ⟨"task-"++zeroSha256.1,isIdentifier_derived (by decide) (by decide) zeroSha256⟩
    (intentOf sampleFunctions sampleAuthorization sampleCapabilityId)

theorem sampleTask_accepted : validateTask sampleFunctions sampleTask=.ok () := by
  have hbounds : ∀ concurrency∈sampleCapability.claims.concurrency,
      1 ≤ concurrency ∧ concurrency≤1000 := by
    intro concurrency hconcurrency
    cases hconcurrency
  have hclaims : validateClaims sampleCapability.claims=.ok () := by
    refine (bind_of_ok (require_of ⟨by decide,by decide,hbounds⟩)).trans ?_
    refine (bind_of_ok (require_of (by decide))).trans ?_
    refine (bind_of_ok (require_of rfl)).trans ?_
    exact (bind_of_ok (require_of (by decide))).trans (require_of (by decide))
  have hcapability : validateCapability sampleFunctions.claims_sha256 sampleTask.capability=
      .ok () := (bind_of_ok hclaims).trans (require_of rfl)
  have hbound : IntentBound sampleFunctions sampleTask.intent :=
    ⟨rfl,rfl,rfl,rfl,rfl,rfl,rfl,rfl,rfl,rfl,rfl,rfl,rfl,rfl,rfl,rfl,rfl⟩
  have hintent : validateIntent sampleFunctions sampleTask.intent=.ok () :=
    (bind_of_ok sampleAuthorization_accepted).trans (require_of hbound)
  have htask : TaskBound sampleFunctions sampleTask :=
    ⟨rfl,rfl,rfl,rfl,rfl,rfl,rfl,rfl,rfl,rfl,rfl,rfl,rfl,rfl,rfl,rfl,⟨rfl,rfl⟩,rfl,rfl,rfl,rfl,rfl,
      rfl,rfl,by decide,by decide,by decide,by decide,by decide,by decide⟩
  refine (bind_of_ok hcapability).trans ((bind_of_ok hintent).trans ?_)
  exact (bind_of_ok (require_of htask)).trans (require_of (by decide))

def sampleName : BoundedText := ⟨promotionTaskName sampleTarget zeroSha256.1,by decide +kernel⟩

def samplePreparedFields : PromotionDispatchRecordFields :=
  preparedFields sampleFunctions sampleCommand sampleAuthorization sampleCapabilityId sampleTask
    sampleName sampleTime

theorem samplePrepared_accepted : validateRecord sampleFunctions samplePreparedFields=.ok () := by
  have hbound : DispatchTaskBound sampleFunctions samplePreparedFields :=
    ⟨rfl,rfl,rfl,rfl,rfl,rfl,rfl,rfl,rfl,rfl,rfl,rfl,rfl,rfl,rfl,rfl⟩
  exact (bind_of_ok sampleTask_accepted).trans
    ((bind_of_ok (require_of hbound)).trans (require_of ⟨rfl,rfl,rfl⟩))

theorem sample_prepares : preparedRecord sampleFunctions sampleConfiguration sampleCommand
    sampleAnswers=.ok ⟨samplePreparedFields,samplePrepared_accepted⟩ := by
  have hmatches : CapabilityMatchesCommand sampleFunctions sampleCommand sampleCapability
      sampleAuthorization sampleConfiguration.target.project_id :=
    ⟨rfl,rfl,rfl,rfl,rfl,rfl,rfl,rfl,rfl,rfl,rfl,rfl,rfl,rfl,rfl,rfl,rfl,rfl,rfl,rfl,rfl,by decide,
      by decide,by decide,by decide,rfl,rfl,rfl,rfl,⟨rfl,rfl⟩,rfl,rfl,rfl⟩
  have hcapability : HealthDecisions.identifierText
      (promotionCapabilityId sampleFunctions sampleAuthorization)=.ok sampleCapabilityId :=
    dif_pos sampleCapabilityId.2
  have htask : HealthDecisions.identifierText ("task-"++sampleCapability.claims_sha256.1)=
      .ok sampleTask.task_id := dif_pos sampleTask.task_id.2
  have hadmitted : Admitted sampleConfiguration.settings
      (promotionRequest sampleFunctions sampleTask) sampleTime :=
    ⟨⟨rfl,rfl⟩,by decide,by decide,by decide,(fun hroute => nomatch hroute),rfl⟩
  have hsealed := sealTask_eq_ok.mpr ⟨hadmitted,rfl⟩
  have hname : boundedText (addressedTask sampleConfiguration.settings
      (promotionRequest sampleFunctions sampleTask)).name=.ok sampleName := dif_pos sampleName.2
  have hmade : makeRecord sampleFunctions samplePreparedFields=
      .ok ⟨samplePreparedFields,samplePrepared_accepted⟩ := makeRecord_eq_ok.mpr rfl
  have hbuilt : buildRecord sampleFunctions sampleConfiguration sampleCommand sampleTime
      sampleAuthorization sampleCapability=.ok ⟨samplePreparedFields,samplePrepared_accepted⟩ := by
    refine (bind_of_ok hcapability).trans ((bind_of_ok htask).trans ?_)
    refine (bind_of_ok sampleTask_accepted).trans ((bind_of_ok hsealed).trans ?_)
    exact (bind_of_ok hname).trans hmade
  refine (bind_of_ok (rfl : sampleAnswers.authorization=.ok sampleAuthorization)).trans ?_
  refine (bind_of_ok (rfl : sampleAnswers.capability=.ok sampleCapability)).trans ?_
  refine (bind_of_ok (require_of ⟨hmatches,rfl⟩)).trans ?_
  exact (bind_of_ok (rfl : sampleAnswers.verification=.ok ())).trans (mapError_eq_ok.mpr hbuilt)

/-- A provider that confirms its commit. -/
def confirmedReport : ProviderReport sampleFunctions := ⟨.confirmed,fun _ => none,none⟩

/-- A provider that commits and whose answer is lost. -/
def lostReport : ProviderReport sampleFunctions := ⟨.unconfirmed true,fun _ => none,none⟩

def sampleIds : MutationIds := fun _ => sampleRequest

def sampleRun : List (Action sampleFunctions) :=
  calling sampleFunctions 0++[.prepare 0 sampleAnswers sampleIds confirmedReport,
    .start 0 sampleTime sampleIds lostReport]

/-- A start whose answer is lost leaves the command without an end: no later call, at any time
and in any order, gives it an outcome. -/
theorem promotion_command_wedged :
    ∃ dispatch,dispatchAt (run (step sampleConfiguration sampleCommand)
          (initial noPromotions) sampleRun).stores
        (commandDispatchId sampleFunctions sampleCommand)=some dispatch ∧
      dispatch.value.state=.enqueueStarted ∧ ∀ later,¬Settled sampleCommand
        (run (step sampleConfiguration sampleCommand) (initial noPromotions)
          (sampleRun++later)) := by
  have habsent : Absent sampleCommand (noPromotions : Stores sampleFunctions) := ⟨rfl,rfl,rfl⟩
  have hinitial : Invariant sampleConfiguration sampleCommand
      (initial (noPromotions : Stores sampleFunctions)) := invariant_initial rfl
  have hcalled : run (step sampleConfiguration sampleCommand)
      (initial (noPromotions : Stores sampleFunctions)) (calling sampleFunctions 0)=
      ((initial noPromotions).moved 0 (noPromotions,.reading)).moved 0 (noPromotions,.preparing) := by
    have hread : readStage sampleConfiguration sampleCommand
        (some (noPromotions : Stores sampleFunctions))=.preparing := by
      unfold readStage
      simp only [read_of_absent habsent]
    have hcall : step sampleConfiguration sampleCommand
        (initial (noPromotions : Stores sampleFunctions)) (.call 0)=
        (initial noPromotions).moved 0 (noPromotions,.reading) := rfl
    have hreading : ((initial (noPromotions : Stores sampleFunctions)).moved 0
        (noPromotions,.reading)).workers 0=.reading := workers_moved_self
    have hstep : step sampleConfiguration sampleCommand
        ((initial (noPromotions : Stores sampleFunctions)).moved 0 (noPromotions,.reading))
        (.read 0 true)=((initial noPromotions).moved 0 (noPromotions,.reading)).moved 0
          (noPromotions,.preparing) := by
      unfold step
      simp only [hreading,if_true]
      rw [← hread]
      rfl
    unfold calling
    rw [run_cons,hcall,run_cons,hstep,run_nil]
  have hfirst := @Invariant.run sampleFunctions sampleConfiguration sampleCommand
    (initial noPromotions) (calling sampleFunctions 0) hinitial
  have hstores : (run (step sampleConfiguration sampleCommand)
      (initial (noPromotions : Stores sampleFunctions)) (calling sampleFunctions 0)).stores=
      noPromotions := by
    rw [hcalled]
    rfl
  have hworker : (run (step sampleConfiguration sampleCommand)
      (initial (noPromotions : Stores sampleFunctions)) (calling sampleFunctions 0)).workers 0=
      .preparing := by
    rw [hcalled]
    exact workers_moved_self
  unfold sampleRun
  rw [run_append,run_cons,run_cons,run_nil]
  have hsplit : ∀ later,run (step sampleConfiguration sampleCommand)
      (initial (noPromotions : Stores sampleFunctions))
      (calling sampleFunctions 0++[.prepare 0 sampleAnswers sampleIds confirmedReport,
        .start 0 sampleTime sampleIds lostReport]++later)=
      run (step sampleConfiguration sampleCommand) (step sampleConfiguration sampleCommand
        (step sampleConfiguration sampleCommand (run (step sampleConfiguration sampleCommand)
          (initial noPromotions) (calling sampleFunctions 0))
          (.prepare 0 sampleAnswers sampleIds confirmedReport))
        (.start 0 sampleTime sampleIds lostReport)) later := by
    intro later
    rw [run_append,run_append,run_cons,run_cons,run_nil]
  generalize run (step sampleConfiguration sampleCommand)
    (initial (noPromotions : Stores sampleFunctions)) (calling sampleFunctions 0)=called
      at hfirst hstores hworker hsplit ⊢
  rw [← hstores] at habsent
  have hanswers : RecordMatches sampleFunctions sampleConfiguration.target sampleCommand
      samplePreparedFields := ⟨rfl,rfl,rfl,rfl,rfl,rfl,rfl,rfl,rfl,rfl,rfl⟩
  obtain ⟨dispatch,hvalue,hfound,hready⟩ :=
    @prepare_confirmed sampleFunctions sampleConfiguration sampleCommand called 0 sampleAnswers
      ⟨samplePreparedFields,samplePrepared_accepted⟩ sampleIds confirmedReport hworker
      sample_prepares hanswers rfl habsent rfl
  have hsecond := hfirst.step (.prepare 0 sampleAnswers sampleIds confirmedReport)
  have hlower : dispatch.value.prepared_at.1 ≤ sampleTime.1 := by
    rw [hvalue]
    exact Int.le_refl _
  have hupper : sampleTime.1<dispatch.value.task.expires_at.1 := by
    rw [hvalue]
    show sampleTime.1<sampleEnd.1
    decide
  obtain ⟨⟨started,hstarted,hstate⟩,hlost⟩ :=
    @start_unconfirmed sampleFunctions sampleConfiguration sampleCommand _ 0 dispatch sampleTime
      sampleIds lostReport hsecond hready hfound hlower hupper rfl
  refine ⟨started,hstarted,hstate,?_⟩
  rintro later ⟨other,hother,hended⟩
  have hthird := hsecond.step (.start 0 sampleTime sampleIds lostReport)
  have hnone : ∀ worker,¬Holds (step sampleConfiguration sampleCommand
      (step sampleConfiguration sampleCommand called
        (.prepare 0 sampleAnswers sampleIds confirmedReport))
      (.start 0 sampleTime sampleIds lostReport)) worker := by
    rintro worker ⟨start,addressed,its_time,hholds⟩
    exact hlost worker start addressed its_time hholds
  have hkept := @run_lost sampleFunctions sampleConfiguration sampleCommand _ later started hthird
    hstarted hstate hnone
  rw [hsplit,hkept] at hother
  rw [← Option.some.inj hother,hstate] at hended
  rcases hended with hcreated | hduplicate | hambiguous
  · cases hcreated
  · cases hduplicate
  · cases hambiguous

/-- The end of the sample command on its own run. -/
theorem promotion_command_ends_sample :
    (∃ worker,Free (run (step sampleConfiguration sampleCommand)
      (initial (noPromotions : Stores sampleFunctions)) sampleRun) worker) ∧
    (dispatchAt (run (step sampleConfiguration sampleCommand)
          (initial (noPromotions : Stores sampleFunctions)) sampleRun).stores
        (commandDispatchId sampleFunctions sampleCommand)=none ∨
      ∃ dispatch,dispatchAt (run (step sampleConfiguration sampleCommand)
          (initial noPromotions) sampleRun).stores
          (commandDispatchId sampleFunctions sampleCommand)=some dispatch ∧
        (OpenInWindow sampleConfiguration sampleCommand
            (run (step sampleConfiguration sampleCommand) (initial noPromotions) sampleRun)
            dispatch ∨
          Pending sampleConfiguration sampleCommand
            (run (step sampleConfiguration sampleCommand) (initial noPromotions) sampleRun)
            dispatch ∨
          Final sampleConfiguration sampleCommand
            (run (step sampleConfiguration sampleCommand) (initial noPromotions) sampleRun)
            dispatch)) :=
  promotion_command_ends sampleFunctions sampleConfiguration sampleCommand noPromotions rfl
    sampleRun

end ControlGraph.PromotionExits
