import ControlGraph.AbandonmentDecisions
import ControlGraph.DispatchFence

/-!
# An abandoned recovery never mutates

Any number of deliveries run over one store while abandoners commit fences and
other operations write whatever they may between any two waits. An authority is
created once and every later write of it advances its epoch. A fence finds no
receipt of its dispatch, so a delivery that mutates after it has claimed after it,
and then reads an epoch that its task does not have. A delivery that mutated
before has left its receipt, so no fence is accepted any more.
-/

namespace ControlGraph.AbandonedRecoveries

open Checks ContractText LabelledRuns RootContracts AuthorityDatabase RevocationCommits
  RecoveryContracts AbandonmentContracts AbandonmentFence AbandonmentStore AbandonmentDecisions
  ExecutionRequests ExecutionGate ReceiptExecution WaitingPrograms DispatchRules

open ReceiptContracts hiding ServiceClaimRecord

open ReceiptStore (StoreError)

open ReceiptLifecycle (StoreAction)

/-- What the deliveries and the abandoners share. -/
structure World (functions : SharedFunctions) where
  database : ReceiptStore.Database
  records : Records functions.toAbandonmentFunctions

/-- A call of an abandoner that has passed its own checks and goes on to the fence. -/
structure FenceCall (functions : SharedFunctions) where
  /-- The view that the abandoner has read. -/
  state : RecoveryAbandonmentState functions.toAbandonmentFunctions
  started_at : UtcSecond
  commit : RecoveryAbandonmentFenceCommitV1 functions.toAbandonmentFunctions

/-- Changes of the surroundings. A commit that lands after its caller gave up is one. -/
inductive Change (functions : SharedFunctions)
  | store (action : StoreAction)
  | fence (call : FenceCall functions)
  /-- A root is created with its first authority. -/
  | create (root_id : Identifier) (authority : StoredRecord EpochAuthorityRecord)
  /-- A revocation or the fence of a release advances an authority. -/
  | advance (expected : StoredRecord EpochAuthorityRecord) (replacement : EpochAuthorityRecord)
  /-- Other operations write any documents but the authorities. -/
  | write (records : Records functions.toAbandonmentFunctions)

variable {functions : SharedFunctions} (target : TargetBinding)

/-- The fence of a call, when the abandoner does not refuse its view. -/
def FenceCall.perform (call : FenceCall functions) (world : World functions) :
    Except StoreError (Records functions.toAbandonmentFunctions) := do
  (stateDenial target call.state
    (recoveryAbandonmentRequestSha256 functions.authority.sha256 call.state.invocation) none
    call.started_at).mapError (fun _ => .unavailable)
  commitRecoveryAbandonmentFence target call.state call.commit world.database.receipts world.records

/-- Create the authority of a root where there is none. -/
def createAuthority (root_id : Identifier) (authority : StoredRecord EpochAuthorityRecord)
    (records : Records functions.toAbandonmentFunctions) :
    Records functions.toAbandonmentFunctions :=
  if (records.authorities root_id).isNone then {records with
    authorities := Function.update records.authorities root_id (some authority)}
  else records

/-- Advance the authority of a root where the expected one is stored. -/
def advanceAuthority (expected : StoredRecord EpochAuthorityRecord)
    (replacement : EpochAuthorityRecord) (records : Records functions.toAbandonmentFunctions) :
    Except StoreError (Records functions.toAbandonmentFunctions) := do
  (validateAuthorityAdvance target expected replacement).mapError .invalid
  let stored ← (StoredRecord.make replacement (expected.revision+1)).mapError .invalid
  require (records.authorities expected.value.root_id=some expected) .conflict
  return {records with
    authorities := Function.update records.authorities expected.value.root_id (some stored)}

/-- The records after a write, or those before when it was refused. -/
def attempted (records : Records functions.toAbandonmentFunctions)
    (result : Except StoreError (Records functions.toAbandonmentFunctions)) :
    Records functions.toAbandonmentFunctions :=
  match result with
  | .ok next => next
  | .error _ => records

/-- Effect of the surroundings. -/
def disturb (change : Change functions) (world : World functions) : World functions :=
  match change with
  | .store action => {world with
      database := ReceiptLifecycle.step functions.executor.sha256 world.database action}
  | .fence call => {world with records := attempted world.records (call.perform target world)}
  | .create root_id authority => {world with
      records := createAuthority root_id authority world.records}
  | .advance expected replacement => {world with
      records := attempted world.records (advanceAuthority target expected replacement world.records)}
  | .write records => {world with
      records := {records with authorities := world.records.authorities}}

/-- What the executors see of the world. -/
def executorWorld (world : World functions) : DispatchFence.World where
  database := world.database
  bundles := executorBundle functions world.records

/-- Effect and result of an operation of a delivery. -/
def perform (answers : DispatchFence.Answers) (world : World functions) (op : Operation) :
    World functions×op.Result :=
  let (next,result) := DispatchFence.perform functions.executor target answers
    (executorWorld world) op
  ({world with database := next.database},result)

/-- Deliveries over one world with abandoners. -/
def system (functions : SharedFunctions) (target : TargetBinding) : System Operation
    Operation.Result (Option UtcSecond) Raised ReceiptExecutionResponse (Delivery target)
    (World functions) DispatchFence.Answers (Change functions) where
  launch := launch functions.executor
  perform := perform target
  disturb := disturb target

/-- States of the deliveries. -/
abbrev Executions (functions : SharedFunctions) (target : TargetBinding) :=
  State Operation Operation.Result (Option UtcSecond) Raised ReceiptExecutionResponse
    (Delivery target) (World functions)

/-- Steps of the deliveries and of the surroundings. -/
abbrev Steps (functions : SharedFunctions) (target : TargetBinding) :=
  List (Action (Option UtcSecond) (Delivery target) DispatchFence.Answers (Change functions))

variable {target}

/-- State after some steps. -/
def after (world : World functions) (steps : Steps functions target) :
    Executions functions target :=
  run (system functions target).step (State.initial world) steps

/-- What the deliveries see of a state. -/
def seen (state : Executions functions target) : DispatchFence.Executions target :=
  ⟨executorWorld state.world,state.processes⟩

/-- An operation changes what the executors see as they see it. -/
theorem executorWorld_perform {answers : DispatchFence.Answers} {world : World functions}
    {op : Operation} : executorWorld (perform target answers world op).1=
      (DispatchFence.perform functions.executor target answers (executorWorld world) op).1 := by
  cases op <;> rfl

theorem owned_resume {state : Executions functions target} {index : Nat}
    {answers : DispatchFence.Answers} {readings : Nat → Option UtcSecond} {job : Delivery target}
    {op : Operation} {next : op.Result → Executor ReceiptExecutionResponse} {history : History}
    (hwaiting : state.processes index=some ⟨job,.wait op next,history⟩)
    (h : DispatchFence.Owned functions.executor (seen state)) :
    DispatchFence.Owned functions.executor
      (seen ({state with world := (perform target answers state.world op).1}.put index
        (settle job readings 0 (next (perform target answers state.world op).2)
          (history++[Event.returned op (perform target answers state.world op).2])))) := by
  have hresumed : DispatchFence.Owned functions.executor ({seen state with
      world := (DispatchFence.perform functions.executor target answers
        (executorWorld state.world) op).1}.put index (settle job readings 0
          (next (perform target answers state.world op).2)
            (history++[Event.returned op (perform target answers state.world op).2]))) :=
    DispatchFence.owned_resume hwaiting h
  rw [← executorWorld_perform] at hresumed
  exact hresumed

/-- Ownership is kept when the surroundings change. -/
theorem owned_disturb {state : Executions functions target} {change : Change functions}
    (h : DispatchFence.Owned functions.executor (seen state)) :
    DispatchFence.Owned functions.executor
      (seen {state with world := disturb target change state.world}) := by
  cases change with
  | store action =>
    have hstored : DispatchFence.Owned functions.executor ({seen state with
        world := DispatchFence.disturb functions.executor (.store action) (seen state).world}) :=
      DispatchFence.owned_disturb h
    exact ⟨hstored.found,hstored.alone⟩
  | fence call => exact ⟨h.found,h.alone⟩
  | create root_id authority => exact ⟨h.found,h.alone⟩
  | advance expected replacement => exact ⟨h.found,h.alone⟩
  | write records => exact ⟨h.found,h.alone⟩

/-- In every run every direct create is stored and a key has one holder. -/
theorem run_owned (world : World functions) (steps : Steps functions target) :
    DispatchFence.Owned functions.executor (seen (after world steps)) := by
  refine System.run_induction (fun delivery => follows_launch delivery) (fun _ _ => True)
    (fun state => DispatchFence.Owned functions.executor (seen state)) ?_ ?_ ?_
    (fun _ _ _ _ => trivial) DispatchFence.owned_initial
  · intro state index job readings hok hnew hstate
    exact DispatchFence.owned_start hstate
  · intro state index answers readings job op next history hok hwaiting hstate
    exact owned_resume hwaiting hstate
  · intro state change hok hpermitted hstate
    exact owned_disturb hstate

theorem run_rules (world : World functions) (steps : Steps functions target) :
    AllOk rules (fun _ => []) (fun _ => anyEnd) (after world steps) :=
  System.run_ok (fun delivery => follows_launch delivery)

/-- The authority of a root has reached an epoch. -/
def Advanced (root_id : Identifier) (epoch : Nat)
    (records : Records functions.toAbandonmentFunctions) : Prop :=
  ∃ authority,records.authorities root_id=some authority ∧ epoch ≤ authority.value.current_epoch.1

section

variable {records next : Records functions.toAbandonmentFunctions} {root_id : Identifier}
  {epoch : Nat}

/-- An authority that is replaced by a later one has reached what it had reached. -/
theorem advanced_update {place : Identifier} {current later : StoredRecord EpochAuthorityRecord}
    (hcurrent : records.authorities place=some current)
    (hlater : current.value.current_epoch.1 ≤ later.value.current_epoch.1)
    (hnext : next.authorities=Function.update records.authorities place (some later))
    (h : Advanced root_id epoch records) : Advanced root_id epoch next := by
  obtain ⟨authority,hfound,hepoch⟩ := h
  by_cases hplace : root_id=place
  · rw [hplace,hcurrent] at hfound
    rw [← Option.some.inj hfound] at hepoch
    exact ⟨later,by rw [hnext,hplace,Function.update_self],by omega⟩
  · exact ⟨authority,by rw [hnext,Function.update_of_ne hplace]; exact hfound,hepoch⟩

/-- What a fence writes as the authority of its root. -/
theorem fence_authorities {expected : RecoveryAbandonmentState functions.toAbandonmentFunctions}
    {commit : RecoveryAbandonmentFenceCommitV1 functions.toAbandonmentFunctions}
    {receipts : Sha256Digest → Option (ReceiptStore.Document ExecutionReceipt)}
    {view : AbandonmentView functions.toAbandonmentFunctions}
    (h : Fenced target expected commit receipts records next view) : ∃ later,
      next.authorities=Function.update records.authorities commit.progress.root_id (some later) ∧
        later.value.current_epoch.1=view.bundle.authority.value.current_epoch.1+1 := by
  obtain ⟨replacements,hreplacements,hnext⟩ := h.written
  obtain ⟨hview,-,-⟩ := validateRecoveryAbandonmentFenceCommit_eq_ok h.accepted
  obtain ⟨-,-,-,hadvance⟩ := abandonmentView_eq_ok hview
  rw [prepareReplacements,bind_eq_ok] at hreplacements
  obtain ⟨claim,-,hreplacements⟩ := hreplacements
  rw [bind_eq_ok] at hreplacements
  obtain ⟨authority,hauthority,hreplacements⟩ := hreplacements
  rw [bind_eq_ok] at hreplacements
  obtain ⟨dispatch,-,hreplacements⟩ := hreplacements
  rw [bind_eq_ok] at hreplacements
  obtain ⟨head,-,hreplacements⟩ := hreplacements
  have hmade : replacements.authority=authority := by rw [← Except.ok.inj hreplacements]
  refine ⟨replacements.authority,by rw [hnext]; rfl,?_⟩
  rw [hmade,(StoredRecord.make_eq_ok hauthority).1]
  exact hadvance.current_epoch

/-- A fence keeps what an authority has reached. -/
theorem advanced_fence {call : FenceCall functions} {world : World functions}
    (h : call.perform target world=.ok next) (hadvanced : Advanced root_id epoch world.records) :
    Advanced root_id epoch next := by
  rw [FenceCall.perform,check_bind_eq_ok] at h
  obtain ⟨view,hfence⟩ := commitRecoveryAbandonmentFence_eq_ok h.2
  obtain ⟨later,hnext,hepoch⟩ := fence_authorities hfence
  refine advanced_update hfence.found.authority ?_ hnext hadvanced
  omega

/-- Another advance keeps what an authority has reached. -/
theorem advanced_advance {expected : StoredRecord EpochAuthorityRecord}
    {replacement : EpochAuthorityRecord}
    (h : advanceAuthority target expected replacement records=.ok next)
    (hadvanced : Advanced root_id epoch records) : Advanced root_id epoch next := by
  rw [advanceAuthority,check_bind_eq_ok] at h
  obtain ⟨hvalid,h⟩ := h
  rw [bind_eq_ok] at h
  obtain ⟨stored,hstored,h⟩ := h
  rw [check_bind_eq_ok,require_eq_ok] at h
  obtain ⟨hfound,hnext⟩ := h
  rw [mapError_eq_ok,validateAuthorityAdvance,check_bind_eq_ok] at hvalid
  obtain ⟨-,hvalid⟩ := hvalid
  rw [check_bind_eq_ok,require_eq_ok,require_eq_ok] at hvalid
  have hvalue := (StoredRecord.make_eq_ok (mapError_eq_ok.mp hstored)).1
  have hlater := hvalid.2.current_epoch
  refine advanced_update hfound (?_ : _ ≤ stored.value.current_epoch.1)
    (by rw [← Except.ok.inj hnext]) hadvanced
  rw [hvalue]
  omega

/-- A creation keeps what an authority has reached. -/
theorem advanced_create {place : Identifier} {authority : StoredRecord EpochAuthorityRecord}
    (h : Advanced root_id epoch records) :
    Advanced root_id epoch (createAuthority place authority records) := by
  obtain ⟨current,hcurrent,hepoch⟩ := h
  unfold createAuthority
  by_cases hnone : (records.authorities place).isNone=true
  · have hplace : root_id≠place := by
      intro hsame
      rw [← hsame,hcurrent] at hnone
      cases hnone
    rw [if_pos hnone]
    exact ⟨current,(Function.update_of_ne hplace _ _).trans hcurrent,hepoch⟩
  · rw [if_neg hnone]
    exact ⟨current,hcurrent,hepoch⟩

/-- The surroundings keep what an authority has reached. -/
theorem advanced_disturb {change : Change functions} {world : World functions}
    (h : Advanced root_id epoch world.records) :
    Advanced root_id epoch (disturb target change world).records := by
  have hattempted : ∀ result,(∀ next,result=.ok next → Advanced root_id epoch next) →
      Advanced root_id epoch (attempted world.records result) := by
    intro result hresult
    cases result with
    | ok next => exact hresult next rfl
    | error raised => exact h
  cases change with
  | store action => exact h
  | fence call => exact hattempted _ (fun next hnext => advanced_fence hnext h)
  | advance expected replacement =>
    exact hattempted _ (fun next hnext => advanced_advance hnext h)
  | write records => exact h
  | create place authority => exact advanced_create h

theorem root_of_stateDenial {state : RecoveryAbandonmentState functions.toAbandonmentFunctions}
    {request_sha256 : Sha256Digest} {progress : Option RecoveryAbandonmentProgressV1}
    {now : UtcSecond} {bundle : AbandonmentRootBundle} (hbundle : state.root_bundle=some bundle)
    (h : stateDenial target state request_sha256 progress now=.ok ()) :
    bundle.root.value.root_id=state.invocation.command.root_id := by
  rw [stateDenial,check_bind_eq_ok] at h
  obtain ⟨-,h⟩ := h
  rw [bind_eq_ok] at h
  obtain ⟨found,hfound,h⟩ := h
  rw [bind_eq_ok] at h
  obtain ⟨trusted,htrusted,h⟩ := h
  rw [check_bind_eq_ok,require_eq_ok] at h
  obtain ⟨⟨-,hroot,-⟩,-⟩ := h
  rw [requireSome_eq_ok,hbundle] at hfound
  have hinspected := requireSome_eq_ok.mp htrusted
  unfold trustedAuthority inspectRootAuthorityBundle at hinspected
  split at hinspected
  · rw [← Option.some.inj hinspected] at hroot
    rw [Option.some.inj hfound]
    exact hroot
  · cases hinspected

/-- A fence that is accepted is for a stored dispatch whose receipt is absent, and ends the
epoch of the dispatch on its root. -/
theorem fence_accepted {call : FenceCall functions} {world : World functions}
    (h : call.perform target world=.ok next) : ∃ dispatch,
      call.state.recovery_dispatch=some dispatch ∧
      (∃ document_id,executionReceiptDocumentId functions.executor.sha256 target
        dispatch.value.idempotency_key=.ok document_id ∧
        world.database.receipts document_id=none) ∧
      Advanced dispatch.value.root_id (dispatch.value.epoch.1+1) next := by
  rw [FenceCall.perform,check_bind_eq_ok] at h
  obtain ⟨hdenial,hcommit⟩ := h
  obtain ⟨view,hfence⟩ := commitRecoveryAbandonmentFence_eq_ok hcommit
  obtain ⟨hview,habandoned,hprogress⟩ := validateRecoveryAbandonmentFenceCommit_eq_ok
    hfence.accepted
  obtain ⟨hdispatch,hinvocation,⟨bundle,hbundle,hroot,-⟩,-⟩ := abandonmentView_eq_ok hview
  obtain ⟨later,hnext,hepoch⟩ := fence_authorities hfence
  have hcommand : bundle.root.value.root_id=call.state.invocation.command.root_id :=
    root_of_stateDenial hbundle (mapError_eq_ok.mp hdenial)
  have hplace : view.dispatch.value.root_id=call.commit.progress.root_id := by
    rw [hprogress.root_id,hroot,hcommand,habandoned.root_id,hinvocation]
  have howned : view.dispatch.value.epoch.1 ≤ view.bundle.authority.value.current_epoch.1 :=
    epoch_le_of_abandonable habandoned.epoch
  refine ⟨view.dispatch,hdispatch,?_,later,?_,by omega⟩
  · rw [functions.same_sha256]
    exact hfence.receipt
  · rw [hnext,hplace,Function.update_self]

/-- What the executors read as the authority of a root is the stored one. -/
theorem executorBundle_authority {bundle : RootAuthorityBundle}
    (h : executorBundle functions records root_id=some bundle) :
    records.authorities root_id=some bundle.authority := by
  unfold executorBundle at h
  split at h
  · rename_i hauthority _
    rw [← Option.some.inj h]
    exact hauthority
  · cases h

end

abbrev authorityRead (root_id : Identifier) (bundle : RootAuthorityBundle) :
    Event Operation Operation.Result (Option UtcSecond) :=
  Event.returned (Operation.readRootCreationBundle root_id) (Except.ok (some bundle))

/-- Every read of the authority of a root after a direct create of a key has reached an
epoch. -/
def LateReads (idempotency_key root_id : Identifier) (epoch : Nat)
    (state : Executions functions target) : Prop :=
  ∀ index process before bundle rest claim stored,state.processes index=some process →
    process.history=before++authorityRead root_id bundle::rest →
    Created before claim stored → claim.idempotency_key=idempotency_key →
      epoch ≤ bundle.authority.value.current_epoch.1

/-- An item of a longer list is an earlier one, the new one, or one behind it. -/
theorem split_at_new {Item : Type} {old tail before rest : List Item} {added item : Item}
    (h : old++added::tail=before++item::rest) (hnew : item∉tail) :
    (∃ later,old=before++item::later) ∨ (before=old ∧ item=added) := by
  rcases List.append_eq_append_iff.mp h with ⟨middle,hbefore,hrest⟩ | ⟨middle,hold,hrest⟩
  · cases middle with
    | nil => exact .inr ⟨by rw [hbefore,List.append_nil],(List.cons.inj hrest).1.symm⟩
    | cons first middle =>
      have htail : tail=middle++item::rest := (List.cons.inj hrest).2
      exact absurd (by rw [htail]; exact List.mem_append_right _ List.mem_cons_self) hnew
  · cases middle with
    | nil => exact .inr ⟨by rw [hold,List.append_nil],(List.cons.inj hrest).1⟩
    | cons first middle =>
      have hfirst : item=first := (List.cons.inj hrest).1
      exact .inl ⟨middle,by rw [hold,hfirst]⟩

section

variable {idempotency_key root_id : Identifier} {epoch : Nat} {state : Executions functions target}

theorem authorityRead_perform {answers : DispatchFence.Answers} {world : World functions}
    {op : Operation} {bundle : RootAuthorityBundle}
    (h : authorityRead root_id bundle=Event.returned op (perform target answers world op).2) :
    executorBundle functions world.records root_id=some bundle := by
  obtain ⟨rfl,hresult⟩ := Event.returned.inj h
  have hread : DispatchFence.unlessFailed answers.failure
      (Except.ok (executorBundle functions world.records root_id))=.ok (some bundle) :=
    (eq_of_heq hresult).symm
  unfold DispatchFence.unlessFailed at hread
  split at hread
  · cases hread
  · exact Except.ok.inj hread

/-- Late reads stay late when a delivery is resumed behind an epoch. -/
theorem lateReads_resume {index : Nat} {answers : DispatchFence.Answers}
    {readings : Nat → Option UtcSecond} {job : Delivery target} {op : Operation}
    {next : op.Result → Executor ReceiptExecutionResponse} {history : History}
    (hwaiting : state.processes index=some ⟨job,.wait op next,history⟩)
    (hadvanced : Advanced root_id epoch state.world.records)
    (h : LateReads idempotency_key root_id epoch state) :
    LateReads idempotency_key root_id epoch
      ({state with world := (perform target answers state.world op).1}.put index
        (settle job readings 0 (next (perform target answers state.world op).2)
          (history++[Event.returned op (perform target answers state.world op).2]))) := by
  intro other process before bundle rest claim stored hprocess hsplit hcreated hkey
  rcases put_cases hprocess with ⟨-,rfl⟩ | ⟨-,hold⟩
  · have hsettled : ∃ tail,(settle job readings 0 (next (perform target answers state.world op).2)
          (history++[Event.returned op (perform target answers state.world op).2])).history=
        history++[Event.returned op (perform target answers state.world op).2]++tail ∧
        (∀ op result,Event.returned op result∉tail) ∧
        ∀ reading,Event.looked reading∈tail → ∃ count,readings count=reading := settle_history
    obtain ⟨tail,htail,hnone,-⟩ := hsettled
    rw [htail,List.append_assoc,List.singleton_append] at hsplit
    rcases split_at_new hsplit (hnone _ _) with ⟨later,hearlier⟩ | ⟨-,hread⟩
    · exact h index _ before bundle later claim stored hwaiting hearlier hcreated hkey
    · obtain ⟨authority,hauthority,hepoch⟩ := hadvanced
      have hstored := executorBundle_authority (authorityRead_perform hread)
      rw [hauthority] at hstored
      rw [← Option.some.inj hstored]
      exact hepoch
  · exact h other process before bundle rest claim stored hold hsplit hcreated hkey

/-- A step keeps what an authority has reached and the late reads. -/
theorem lateReads_step {action : Action (Option UtcSecond) (Delivery target)
      DispatchFence.Answers (Change functions)}
    (h : Advanced root_id epoch state.world.records ∧
      LateReads idempotency_key root_id epoch state) :
    Advanced root_id epoch ((system functions target).step state action).world.records ∧
      LateReads idempotency_key root_id epoch ((system functions target).step state action) := by
  obtain ⟨hadvanced,hlate⟩ := h
  have heffect : (system functions target).Effect state action
      ((system functions target).step state action) := System.step_effect action
  generalize (system functions target).step state action=next at heffect
  cases heffect with
  | idle => exact ⟨hadvanced,hlate⟩
  | disturbed change => exact ⟨advanced_disturb hadvanced,hlate⟩
  | started hnew =>
    refine ⟨hadvanced,?_⟩
    intro other process before bundle rest claim stored hprocess hsplit hcreated hkey
    rcases put_cases hprocess with ⟨-,rfl⟩ | ⟨-,hold⟩
    · rename_i started job readings
      have hstart : Created (settle job readings 0 ((system functions target).launch job)
          []).history claim stored :=
        hcreated.mono (by rw [hsplit]; exact List.subset_append_left _ _)
      exact absurd hstart DispatchFence.not_created_start
    · exact hlate other process before bundle rest claim stored hold hsplit hcreated hkey
  | resumed hwaiting => exact ⟨hadvanced,lateReads_resume hwaiting hadvanced hlate⟩

/-- A run keeps what an authority has reached and the late reads. -/
theorem lateReads_run {actions : Steps functions target}
    (h : Advanced root_id epoch state.world.records ∧
      LateReads idempotency_key root_id epoch state) :
    Advanced root_id epoch (run (system functions target).step state actions).world.records ∧
      LateReads idempotency_key root_id epoch
        (run (system functions target).step state actions) := by
  induction actions generalizing state with
  | nil => exact h
  | cons action actions ih => exact ih (lateReads_step h)

/-- Where the receipt of a key is absent, no delivery has a direct create of the key. -/
theorem not_created_of_absent {world : World functions} {steps : Steps functions target}
    {document_id : Sha256Digest}
    (hid : executionReceiptDocumentId functions.executor.sha256 target idempotency_key=
      .ok document_id)
    (habsent : (after world steps).world.database.receipts document_id=none) :
    LateReads idempotency_key root_id epoch (after world steps) := by
  intro index process before bundle rest claim stored hprocess hsplit hcreated hkey
  have hholds : DispatchFence.Holds (seen (after world steps)) index claim stored := by
    refine ⟨process,hprocess,hcreated.mono ?_⟩
    rw [hsplit]
    exact List.subset_append_left _ _
  have hstored : DispatchFence.IsStored functions.executor target
      (seen (after world steps)).world claim.idempotency_key :=
    (run_owned world steps).found index claim stored hholds
  rw [← hkey] at hid
  obtain ⟨document,hdocument⟩ := hstored document_id hid
  exact absurd (hdocument.symm.trans habsent) (fun h => nomatch h)

/-- A delivery of the task of a dispatch does not mutate while every read after its claim has
passed the epoch of the dispatch. -/
theorem not_mutated_of_lateReads (hok : AllOk rules (fun _ => []) (fun _ => anyEnd) state)
    {dispatch : RecoveryDispatchRecordV2 functions.recovery} {index : Nat}
    {process : Process Operation Operation.Result (Option UtcSecond) Raised
      ReceiptExecutionResponse (Delivery target)} {permit : MutationPermit}
    (hlate : LateReads dispatch.idempotency_key dispatch.root_id (dispatch.epoch.1+1) state)
    (hprocess : state.processes index=some process)
    (htask : process.job.verified.request=dispatch.task.request) :
    Event.called (Operation.mutate permit)∉process.history := by
  intro hmutated
  obtain ⟨earlier,later,hsplit⟩ := List.append_of_mem hmutated
  have hallowed : process.job.orphaned=false ∧ Untouched earlier ∧
      DispatchRules.Fenced process.job.verified earlier :=
    DispatchFence.allowed_of_ok (hok index process hprocess) hsplit
  obtain ⟨-,-,before,claim,stored,bundle,now,hearlier,hkey,hcreated,hconditions⟩ := hallowed
  obtain ⟨hroot,hepoch,htaskKey,-⟩ := dispatch.intent
  rw [htask,hroot] at hearlier
  rw [htask,htaskKey] at hkey
  have hread : process.history=before++authorityRead dispatch.root_id bundle::
      (Event.looked (some now)::Event.called (Operation.mutate permit)::later) := by
    rw [hsplit,hearlier,List.append_assoc]
    rfl
  have hreached : dispatch.epoch.1+1 ≤ bundle.authority.value.current_epoch.1 :=
    hlate index process before bundle _ claim stored hprocess hread hcreated hkey
  rw [hconditions.epoch,htask,hepoch] at hreached
  omega

/-- A state in which the records have been replaced. -/
def fencedState (state : Executions functions target)
    (next : Records functions.toAbandonmentFunctions) : Executions functions target :=
  {state with world := {state.world with records := next}}

/-- Behind a fence that was accepted no delivery of its task has ever mutated. -/
theorem not_mutated_of_fence {world : World functions} {earlier later : Steps functions target}
    {call : FenceCall functions} {next : Records functions.toAbandonmentFunctions}
    {dispatch : StoredRecord (RecoveryDispatchRecordV2 functions.recovery)}
    (hfence : call.perform target (after world earlier).world=.ok next)
    (hdispatch : call.state.recovery_dispatch=some dispatch) {index : Nat}
    {process : Process Operation Operation.Result (Option UtcSecond) Raised
      ReceiptExecutionResponse (Delivery target)} {permit : MutationPermit}
    (hprocess : (after world (earlier++Action.disturb (.fence call)::later)).processes index=
      some process)
    (htask : process.job.verified.request=dispatch.value.task.request) :
    Event.called (Operation.mutate permit)∉process.history := by
  obtain ⟨fenced,hfenced,⟨document_id,hid,habsent⟩,hadvanced⟩ := fence_accepted hfence
  rw [hdispatch] at hfenced
  obtain rfl := Option.some.inj hfenced
  have hbefore : LateReads dispatch.value.idempotency_key dispatch.value.root_id
      (dispatch.value.epoch.1+1) (after world earlier) := not_created_of_absent hid habsent
  -- The step of the fence reaches the next epoch and resumes no delivery.
  have hstep : (system functions target).step (after world earlier)
      (Action.disturb (.fence call))=fencedState (after world earlier) next := by
    have hnext : attempted (after world earlier).world.records
        (call.perform target (after world earlier).world)=next := by rw [hfence]; rfl
    rw [fencedState,← hnext]
    rfl
  have hrun : after world (earlier++Action.disturb (.fence call)::later)=
      run (system functions target).step (fencedState (after world earlier) next) later := by
    rw [← hstep]
    exact run_append
  have hstart : Advanced dispatch.value.root_id (dispatch.value.epoch.1+1)
        (fencedState (after world earlier) next).world.records ∧
      LateReads dispatch.value.idempotency_key dispatch.value.root_id
        (dispatch.value.epoch.1+1) (fencedState (after world earlier) next) :=
    ⟨hadvanced,hbefore⟩
  have hlate : LateReads dispatch.value.idempotency_key dispatch.value.root_id
      (dispatch.value.epoch.1+1) (after world (earlier++Action.disturb (.fence call)::later)) := by
    rw [hrun]
    exact (lateReads_run hstart).2
  exact not_mutated_of_lateReads (run_rules world _) hlate hprocess htask

end

/-- In every run in which a fence of a dispatch is accepted no delivery of its task mutates,
before or after it, and once a delivery of the task has mutated no fence of the dispatch is
accepted. -/
theorem abandoned_recovery_never_mutates (functions : SharedFunctions) (target : TargetBinding)
    (world : World functions) :
    (∀ (earlier later : Steps functions target) (call : FenceCall functions)
      (next : Records functions.toAbandonmentFunctions)
      (dispatch : StoredRecord (RecoveryDispatchRecordV2 functions.recovery)),
      call.perform target (after world earlier).world=.ok next →
        call.state.recovery_dispatch=some dispatch →
      ∀ index process permit,
        (after world (earlier++Action.disturb (.fence call)::later)).processes index=
          some process →
        process.job.verified.request=dispatch.value.task.request →
          Event.called (Operation.mutate permit)∉process.history) ∧
      ∀ (steps later : Steps functions target) (index : Nat)
        (process : Process Operation Operation.Result (Option UtcSecond) Raised
          ReceiptExecutionResponse (Delivery target)) (permit : MutationPermit)
        (call : FenceCall functions)
        (dispatch : StoredRecord (RecoveryDispatchRecordV2 functions.recovery)),
        (after world steps).processes index=some process →
          Event.called (Operation.mutate permit)∈process.history →
          process.job.verified.request=dispatch.value.task.request →
          call.state.recovery_dispatch=some dispatch →
            ∀ next,call.perform target (after world (steps++later)).world≠.ok next := by
  refine ⟨?_,?_⟩
  · intro earlier later call next dispatch hfence hdispatch index process permit hprocess htask
    exact not_mutated_of_fence hfence hdispatch hprocess htask
  · intro steps later index process permit call dispatch hprocess hmutated htask hdispatch next
      hfence
    -- The delivery is still there when the fence commits, with all it has done.
    obtain ⟨kept,hkept,hjob,hmore⟩ : ∃ kept,(after world (steps++later++
        [Action.disturb (.fence call)])).processes index=some kept ∧ kept.job=process.job ∧
          process.history<+:kept.history := by
      rw [after,List.append_assoc,run_append]
      exact System.run_history hprocess
    rw [← hjob] at htask
    exact not_mutated_of_fence hfence hdispatch hkept htask (hmore.subset hmutated)

end ControlGraph.AbandonedRecoveries
