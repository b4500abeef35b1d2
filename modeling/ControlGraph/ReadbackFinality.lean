import ControlGraph.ReadbackRuns

/-!
# What a resolution leaves behind

Every step of the system keeps the verified receipts, and a marked verified
receipt that was not there when a call found its receipt ambiguous is the one of a
transaction that has landed. So a landing is the only one of its receipt, a result
names the receipt that stays stored for good, and all results for one
receipt carry the mark of one command. Calls that start after a landing read the
committed receipt, and end with it or not at all.
-/

namespace ControlGraph.ReadbackFinality

open Checks ContractText Utf8Text StorageIdentity ReceiptContracts ReceiptReplacement ReceiptStore
  ReadbackContracts ReadbackResolver ReadbackRuns LabelledRuns

open ReceiptLifecycle (StoreAction)

/-- Verified receipts stay. -/
def KeepsVerified (before after : Database) : Prop :=
  ∀ document_id document,before.receipts document_id=some document →
    document.stored.value.outcome=.verified → after.receipts document_id=some document

/-- A marked receipt is verified. -/
def Resolved (document : Document ExecutionReceipt) : Prop :=
  document.stored.value.outcome=.verified ∧
    ∃ evidence_id∈document.stored.value.evidence_ids,startsWithMarker evidence_id=true

/-- The transaction of a call was applied, with a document. -/
def Landed (system : System) (index : Nat) (document_id : Sha256Digest)
    (document : Document ExecutionReceipt) : Prop :=
  ∃ call pending,system.calls index=some call ∧ call.landed=true ∧ call.pending=some pending ∧
    pending.prepared.document_id=document_id ∧ pending.prepared.document=document

section

variable (functions : ReadbackFunctions) (target : TargetBinding)

/-- The resolution of a command is stored. -/
structure Committed (database : Database) (command : AmbiguousReceiptReadbackCommandV1)
    (stored : StoredRecord ExecutionReceipt) : Prop where
  /-- The receipt can be read. -/
  readable : database.readReceipt functions.sha256 target command.idempotency_key=.ok (some stored)
  verified : stored.value.outcome=.verified
  marked : stored.value.evidence_ids.getLast?=
    some (ambiguousReceiptResolutionEvidenceId functions.sha256 command)

/-- What holds in every run. -/
structure SystemHolds (actions : List Action) (system : System) : Prop where
  /-- Every call has established what its place needs. -/
  calls : ∀ {index call},system.calls index=some call → CallHolds functions target actions index call
  landed : ∀ {index document_id document},Landed system index document_id document →
    system.database.receipts document_id=some document
  /-- What resolves a receipt that a call found ambiguous has landed. -/
  owned : ∀ {index call stored},system.calls index=some call → call.stored=some stored →
    ∀ {document_id document},
      executionReceiptDocumentId functions.sha256 target call.command.idempotency_key=
        .ok document_id →
      system.database.receipts document_id=some document → Resolved document →
      ∃ other,Landed system other document_id document
  returned : ∀ {index call result},system.calls index=some call →
    call.stage=.ended (.returned result) → result.command=call.command ∧
      Committed functions target system.database call.command result.stored_receipt

/-- The effect of a transaction where it is applied. -/
structure Landing (actions : List Action) (index : Nat) (call : Call) (database after : Database)
    (stored : StoredRecord ExecutionReceipt) (pending : Pending) : Prop where
  found : call.stored=some stored
  /-- The call has sent the transaction. -/
  submitted : call.pending=some pending
  pins : Pins functions target call.command stored
  /-- The transaction was built after the operation was confirmed and the target seen. -/
  sent : SentBy functions target actions index call.command stored pending
  replaced : ∃ current,database.receipts pending.prepared.document_id=some current ∧
    current.stored=stored
  written : after=database.putReceipt pending.prepared
  /-- The authority of the root is at the epoch of the command. -/
  current : ∃ authority_id document,
    epochAuthorityDocumentId functions.sha256 call.command.root_id=.ok authority_id ∧
      database.authorities authority_id=some document ∧
      document.stored.value.current_epoch=call.command.expected_epoch
  active : ∃ claim_id document,serviceClaimDocumentId functions.sha256 target=.ok claim_id ∧
    database.service_claims claim_id=some document ∧
    document.stored.value.root_id=call.command.root_id ∧
    document.stored.value.root_sha256=call.command.expected_root_sha256 ∧
    document.stored.value.status=.active

end

section

variable {functions : ReadbackFunctions} {target : TargetBinding} {actions : List Action}
  {index : Nat} {call : Call} {database after : Database}

/-- A transaction that is applied was sent over the receipt that is stored. -/
theorem effect_eq_some (h : call.effect functions target database=some after) :
    ∃ stored pending,call.stored=some stored ∧ call.pending=some pending ∧ call.landed=false ∧
      updateResolvedReceipt functions.sha256 target pending.prepared stored
        pending.expected_authority pending.expected_service_claim database=.ok after := by
  unfold Call.effect at h
  split at h
  · rename_i stored pending hstored hpending hlanded
    split at h
    · rename_i result hresult
      cases Option.some.inj h
      exact ⟨stored,pending,hstored,hpending,hlanded,hresult⟩
    · cases h
  · cases h

/-- Where the transaction of a call is applied, the receipt, the authority and the
claim are the ones it was built for. -/
theorem landing_of_effect (hcall : CallHolds functions target actions index call)
    (h : call.effect functions target database=some after) :
    ∃ stored pending,Landing functions target actions index call database after stored pending := by
  obtain ⟨stored,pending,hstored,hpending,-,hupdate⟩ := effect_eq_some h
  have hpins := hcall.pins stored hstored
  obtain ⟨other,hother,hsent⟩ := hcall.sent pending hpending
  have hsame : stored=other := Option.some.inj (hstored.symm.trans hother)
  rw [← hsame] at hsent
  obtain ⟨hafter,⟨current,hcurrent,-,hcurrentStored⟩,⟨authority_id,authority,hauthorityId,
    hauthority,hauthorityStored⟩,⟨claim_id,claim,hclaimId,hclaim,hclaimStored⟩⟩ :=
      updateResolvedReceipt_eq_ok hupdate
  have hfence : ∃ replacement,resolutionFence target stored.value replacement
      pending.expected_authority pending.expected_service_claim := by
    obtain ⟨_,_,_,replacement,_,_,-,-,-,-,hprepared,-⟩ := hsent
    exact ⟨replacement,(prepareResolution_eq_ok.mp hprepared).1.2⟩
  obtain ⟨replacement,-,-,-,-,-,-,-,-,-,-,-,-,-,-,hepoch,-,-,hactive,-,-,hclaimRoot,
    hclaimSha⟩ := hfence
  obtain ⟨-,-,hrootId,hrootSha,hreceiptEpoch,-⟩ := hpins.locator
  rw [hrootId] at hauthorityId hclaimRoot
  refine ⟨stored,pending,hstored,hpending,hpins,hsent,⟨current,hcurrent,hcurrentStored⟩,hafter,
    ⟨authority_id,authority,hauthorityId,hauthority,?_⟩,⟨claim_id,claim,hclaimId,hclaim,?_⟩⟩
  · rw [hauthorityStored,hepoch,hreceiptEpoch]
  · rw [hclaimStored]
    exact ⟨hclaimRoot,hclaimSha.trans hrootSha,hactive⟩

/-- A transaction that is applied writes over no verified receipt. -/
theorem Landing.keeps {stored : StoredRecord ExecutionReceipt} {pending : Pending}
    (h : Landing functions target actions index call database after stored pending) :
    KeepsVerified database after := by
  intro document_id document hdocument hverified
  obtain ⟨current,hcurrent,hstored⟩ := h.replaced
  have hne : document_id≠pending.prepared.document_id := by
    rintro rfl
    have hsame : current=document := Option.some.inj (hcurrent.symm.trans hdocument)
    have hambiguous := h.pins.outcome
    rw [← hstored,hsame,hverified] at hambiguous
    cases hambiguous
  rw [h.written,putReceipt_receipts_ne hne]
  exact hdocument

theorem committed_of_document {command : AmbiguousReceiptReadbackCommandV1}
    {stored : StoredRecord ExecutionReceipt} {prepared : PreparedReceipt}
    (hdocument : ResolvedDocument functions target command stored prepared)
    (hstored : database.receipts prepared.document_id=some prepared.document) :
    Committed functions target database command prepared.document.stored := by
  refine ⟨?_,hdocument.verified,?_⟩
  · exact readReceipt_eq_some.mpr ⟨prepared.document_id,prepared.document,hdocument.document_id,
      hstored,hdocument.logical_id,hdocument.identity,rfl⟩
  · obtain ⟨observed_etag,hresolves⟩ := hdocument.resolves
    have hevidence : prepared.document.stored.value.evidence_ids=stored.value.evidence_ids++
        [ambiguousReceiptResolutionEvidenceId functions.sha256 command] :=
      congrArg ExecutionReceiptFields.evidence_ids hresolves.fields
    rw [hevidence,List.getLast?_concat]

theorem Committed.keep {command : AmbiguousReceiptReadbackCommandV1}
    {stored : StoredRecord ExecutionReceipt} (h : Committed functions target database command stored)
    (hkeeps : KeepsVerified database after) : Committed functions target after command stored := by
  refine ⟨?_,h.verified,h.marked⟩
  obtain ⟨document_id,document,hid,hdocument,hlogical,hidentity,hstored⟩ :=
    readReceipt_eq_some.mp h.readable
  have hverified : document.stored.value.outcome=.verified := by
    rw [hstored]
    exact h.verified
  exact readReceipt_eq_some.mpr ⟨document_id,document,hid,hkeeps document_id document hdocument hverified,
    hlogical,hidentity,hstored⟩

theorem committed_of_adopted {command : AmbiguousReceiptReadbackCommandV1}
    {stored : StoredRecord ExecutionReceipt}
    (hread : database.readReceipt functions.sha256 target command.idempotency_key=.ok (some stored))
    (hexact : isExactAdoptedReceipt functions command stored=true) :
    Committed functions target database command stored := by
  unfold isExactAdoptedReceipt at hexact
  split at hexact
  · rename_i hshape
    obtain ⟨-,hverified,-,-,-,-,hmarked,-⟩ := hshape
    exact ⟨hread,hverified,hmarked.1⟩
  · cases hexact

/-- Two commands whose resolutions are committed for one key have left one mark. -/
theorem Committed.unique {first second : AmbiguousReceiptReadbackCommandV1}
    {firstStored secondStored : StoredRecord ExecutionReceipt}
    (hfirst : Committed functions target database first firstStored)
    (hsecond : Committed functions target database second secondStored)
    (hkey : first.idempotency_key=second.idempotency_key) :
    firstStored=secondStored ∧ ambiguousReceiptResolutionEvidenceId functions.sha256 first=
      ambiguousReceiptResolutionEvidenceId functions.sha256 second := by
  have hread := hfirst.readable
  rw [hkey,hsecond.readable] at hread
  have hsame : secondStored=firstStored := Option.some.inj (Except.ok.inj hread)
  have hmarked := hfirst.marked
  rw [← hsame,hsecond.marked] at hmarked
  exact ⟨hsame.symm,(Option.some.inj hmarked).symm⟩

/-- What one action makes of a call. -/
inductive Next (functions : ReadbackFunctions) (target : TargetBinding) (database : Database)
    (call : Call) : Call → Prop
  | same : Next functions target database call call
  /-- It goes elsewhere, or raises. -/
  | moved (stage : Stage) (hopen : ∀ result,stage≠.ended (.returned result)) :
    Next functions target database call {call with stage := stage}
  /-- It holds the ambiguous receipt that it reads. -/
  | found (stored : StoredRecord ExecutionReceipt)
      (hread : database.readReceipt functions.sha256 target call.command.idempotency_key=
        .ok (some stored)) (hpins : Pins functions target call.command stored) :
    Next functions target database call {call with stage := .bounding,stored := some stored}
  | sent (pending : Pending) (hnone : call.pending=none) :
    Next functions target database call {call with stage := .committing,pending := some pending}
  | adopted (stored : StoredRecord ExecutionReceipt)
      (hread : database.readReceipt functions.sha256 target call.command.idempotency_key=
        .ok (some stored)) (hexact : isExactAdoptedReceipt functions call.command stored=true) :
    Next functions target database call
      {call with stage := finish functions call.command .adopted stored}
  | resolved (stored : StoredRecord ExecutionReceipt) :
    Next functions target database call
      {call with stage := finish functions call.command .resolved stored}

/-- A call that raises has returned nothing. -/
theorem Next.failed (call : Call) (failure : Failure) :
    Next functions target database call {call with stage := .ended (.failed failure)} :=
  .moved _ fun _ h => by cases Stage.ended.inj h

/-- What a call does with the receipt that it reads first. -/
theorem next_locate {stored : StoredRecord ExecutionReceipt}
    (hread : database.readReceipt functions.sha256 target call.command.idempotency_key=
      .ok (some stored)) :
    Next functions target database call (call.locate functions target stored) := by
  unfold Call.locate
  split
  · split
    · rename_i hexact
      exact .adopted stored hread hexact
    · exact .failed call _
  · split
    · exact .failed call _
    · rename_i hexact
      exact .found stored hread (requireExactAmbiguous_eq_ok.mp hexact)

/-- What a call does with the answer about its transaction. -/
theorem next_informed (call : Call) (pending : Pending) (database : Database) (answer : Answer) :
    Next functions target database call (call.informed functions pending database answer) := by
  unfold Call.informed
  split
  · split
    · exact .resolved _
    · exact .same
  · split
    · exact .resolved _
    · exact .moved _ fun _ h => by cases h
  · exact .moved _ fun _ h => by cases h

/-- Every action of a call is one of these. -/
theorem next_cases (call : Call) (database : Database) (action : CallAction) :
    Next functions target database call (call.next functions target database action) := by
  unfold Call.next
  split
  · split
    · split
      · exact .failed call _
      · exact .failed call _
      · rename_i stored hread
        exact next_locate hread
    · exact .failed call _
  · split
    · exact .failed call _
    · exact .moved _ fun _ h => by cases h
  · split
    · exact .failed call _
    · split
      · exact .moved _ fun _ h => by cases h
      · exact .failed call _
  · split
    · split
      · exact .moved _ fun _ h => by cases h
      · exact .failed call _
    · exact .failed call _
  · split
    · exact .failed call _
    · split
      · exact .moved _ fun _ h => by cases h
      · exact .failed call _
  · rename_i hpending
    unfold Call.send
    split
    · exact .failed call _
    · split
      · exact .moved _ fun _ h => by cases h
      · exact .sent _ hpending
  · exact next_informed call _ database _
  · unfold Call.settle
    split
    · rename_i stored hread
      split at hread
      · split
        · rename_i hexact
          exact .adopted stored hread hexact
        · exact .failed call _
      · cases hread
    · exact .failed call _
  · exact .same

theorem Next.command {next : Call} (h : Next functions target database call next) :
    next.command=call.command := by
  cases h <;> rfl

/-- Only the store applies a transaction. -/
theorem Next.landed {next : Call} (h : Next functions target database call next) :
    next.landed=call.landed := by
  cases h <;> rfl

/-- A call sends one transaction. -/
theorem Next.pending {next : Call} (h : Next functions target database call next) {pending : Pending}
    (hpending : call.pending=some pending) : next.pending=some pending := by
  cases h with
  | sent other hnone =>
    rw [hnone] at hpending
    cases hpending
  | same => exact hpending
  | moved => exact hpending
  | found => exact hpending
  | adopted => exact hpending
  | resolved => exact hpending

/-- A receipt that a call holds was held before, or is the ambiguous one that is stored. -/
theorem Next.stored {next : Call} (h : Next functions target database call next)
    {stored : StoredRecord ExecutionReceipt} (hstored : next.stored=some stored) :
    call.stored=some stored ∨
      database.readReceipt functions.sha256 target call.command.idempotency_key=.ok (some stored) ∧
        stored.value.outcome=.ambiguous := by
  cases h with
  | found other hread hpins =>
    cases Option.some.inj hstored
    exact .inr ⟨hread,hpins.outcome⟩
  | same => exact .inl hstored
  | moved => exact .inl hstored
  | sent => exact .inl hstored
  | adopted => exact .inl hstored
  | resolved => exact .inl hstored

/-- A call that ends with a receipt returns it or raises. -/
theorem result_of_finish {command : AmbiguousReceiptReadbackCommandV1}
    {disposition : AmbiguousReceiptReadbackDisposition} {stored : StoredRecord ExecutionReceipt}
    {result : AmbiguousReceiptReadbackResultV1}
    (h : finish functions command disposition stored=.ended (.returned result)) :
    result.disposition=disposition ∧ result.command=command ∧ result.stored_receipt=stored := by
  have hcases := @finish_cases functions command disposition stored
  rcases hcases with ⟨made,hfinish,hmade⟩ | ⟨error,hfinish⟩
  · rw [hfinish] at h
    cases Outcome.returned.inj (Stage.ended.inj h)
    exact hmade
  · rw [hfinish] at h
    cases Stage.ended.inj h

/-- A result was returned before, or is the adopted or the resolved receipt. -/
theorem Next.result {next : Call} (h : Next functions target database call next)
    {result : AmbiguousReceiptReadbackResultV1} (hresult : next.stage=.ended (.returned result)) :
    call.stage=.ended (.returned result) ∨ result.disposition=.resolved ∨
      Committed functions target database call.command result.stored_receipt := by
  cases h with
  | same => exact .inl hresult
  | moved stage hopen => exact absurd hresult (hopen result)
  | found => cases hresult
  | sent => cases hresult
  | adopted stored hread hexact =>
    obtain ⟨-,-,hstored⟩ := result_of_finish hresult
    rw [hstored]
    exact .inr (.inr (committed_of_adopted hread hexact))
  | resolved stored => exact .inr (.inl (result_of_finish hresult).1)

variable {system : System}

/-- What has landed resolves a receipt that the call found ambiguous. -/
theorem SystemHolds.document (h : SystemHolds functions target actions system)
    (hcall : system.calls index=some call) {pending : Pending} (hpending : call.pending=some pending) :
    ∃ stored,call.stored=some stored ∧ Pins functions target call.command stored ∧
      SentBy functions target actions index call.command stored pending ∧
      ResolvedDocument functions target call.command stored pending.prepared := by
  obtain ⟨stored,hstored,hsent⟩ := (h.calls hcall).sent pending hpending
  have hpins := (h.calls hcall).pins stored hstored
  exact ⟨stored,hstored,hpins,hsent,hsent.document hpins⟩

theorem SystemHolds.resolved (h : SystemHolds functions target actions system)
    {document_id : Sha256Digest} {document : Document ExecutionReceipt}
    (hlanded : Landed system index document_id document) : Resolved document := by
  obtain ⟨call,pending,hcall,-,hpending,-,hdocument⟩ := hlanded
  obtain ⟨stored,-,-,-,hresolved⟩ := h.document hcall hpending
  rw [← hdocument]
  exact ⟨hresolved.verified,hresolved.marked⟩

theorem SystemHolds.committed (h : SystemHolds functions target actions system)
    (hcall : system.calls index=some call) (hlanded : call.landed=true) {pending : Pending}
    (hpending : call.pending=some pending) :
    Committed functions target system.database call.command pending.prepared.document.stored := by
  obtain ⟨stored,-,-,-,hresolved⟩ := h.document hcall hpending
  exact committed_of_document hresolved (h.landed ⟨call,pending,hcall,hlanded,hpending,rfl,rfl⟩)

theorem calls_update {calls : Nat → Option Call} {next : Call} {other : Nat} {found : Call}
    (h : Function.update calls index (some next) other=some found) :
    other=index ∧ found=next ∨ other≠index ∧ calls other=some found := by
  by_cases hsame : other=index
  · rw [hsame,Function.update_self] at h
    exact .inl ⟨hsame,(Option.some.inj h).symm⟩
  · rw [Function.update_of_ne hsame] at h
    exact .inr ⟨hsame,h⟩

/-- A call that goes on does not undo what has landed. -/
theorem landed_update {next : Call} {database : Database} (hcall : system.calls index=some call)
    (hlanded : next.landed=true ∨ next.landed=call.landed)
    (hpending : ∀ pending,call.pending=some pending → next.pending=some pending) {other : Nat}
    {document_id : Sha256Digest} {document : Document ExecutionReceipt}
    (h : Landed system other document_id document) :
    Landed ⟨database,Function.update system.calls index (some next)⟩ other document_id document := by
  obtain ⟨found,pending,hfound,hfoundLanded,hfoundPending,hid,hdocument⟩ := h
  by_cases hsame : other=index
  · rw [hsame,hcall] at hfound
    cases Option.some.inj hfound
    refine ⟨next,pending,?_,?_,hpending pending hfoundPending,hid,hdocument⟩
    · rw [hsame]
      exact Function.update_self index _ system.calls
    · rcases hlanded with hlanded | hlanded
      · exact hlanded
      · exact hlanded.trans hfoundLanded
  · refine ⟨found,pending,?_,hfoundLanded,hfoundPending,hid,hdocument⟩
    exact (Function.update_of_ne hsame _ _).trans hfound

theorem landed_step (action : Action) {other : Nat} {document_id : Sha256Digest}
    {document : Document ExecutionReceipt} (h : Landed system other document_id document) :
    Landed (step functions target system action) other document_id document := by
  cases action with
  | environment action => exact h
  | start index command =>
    simp only [step]
    cases hnone : system.calls index with
    | some call => exact h
    | none =>
      obtain ⟨call,pending,hcall,hlanded,hpending,hrest⟩ := h
      have hne : other≠index := by
        rintro rfl
        rw [hnone] at hcall
        cases hcall
      exact ⟨call,pending,(Function.update_of_ne hne _ _).trans hcall,hlanded,hpending,hrest⟩
  | call index action =>
    simp only [step]
    cases hcall : system.calls index with
    | none => exact h
    | some call =>
      have hnext : Next functions target system.database call
          (call.next functions target system.database action) := next_cases call _ action
      exact landed_update hcall (.inr hnext.landed) (fun _ hpending => hnext.pending hpending) h
  | land index =>
    simp only [step]
    cases hcall : system.calls index with
    | none => exact h
    | some call =>
      dsimp only
      cases call.effect functions target system.database with
      | none => exact h
      | some after =>
        refine landed_update hcall (.inl rfl) ?_ h
        exact fun _ hsent => hsent

/-- What has landed after other operations had landed before. -/
theorem SystemHolds.environment (h : SystemHolds functions target actions system)
    (action : {action : StoreAction // isOrdinary action}) :
    SystemHolds functions target (actions++[.environment action])
      (step functions target system (.environment action)) := by
  have hkeeps : KeepsVerified system.database
      (ReceiptLifecycle.step functions.sha256 system.database action.1) :=
    fun _ _ hstored hverified => ordinary_keeps hstored hverified
  refine ⟨fun hcall => (h.calls hcall).append _,?_,?_,?_⟩
  · intro index document_id document hlanded
    have hbefore : Landed system index document_id document := hlanded
    exact hkeeps document_id document (h.landed hbefore) (h.resolved hbefore).1
  · intro index call stored hcall hstored document_id document hid hdocument hresolved
    have hbefore := ordinary_writes action.2 hdocument hresolved.1 hresolved.2
    exact h.owned hcall hstored hid hbefore hresolved
  · intro index call result hcall hresult
    obtain ⟨hcommand,hcommitted⟩ := h.returned hcall hresult
    exact ⟨hcommand,hcommitted.keep hkeeps⟩

theorem callHolds_fresh (command : AmbiguousReceiptReadbackCommandV1) :
    CallHolds functions target actions index (.fresh command) where
  pins := fun _ h => by cases h
  stage := ⟨rfl,rfl⟩
  sent := fun _ h => by cases h
  landed := fun h => by cases h
  returned := fun _ h => by cases h

/-- A call that starts changes nothing else. -/
theorem SystemHolds.start (h : SystemHolds functions target actions system) (index : Nat)
    (command : AmbiguousReceiptReadbackCommandV1) :
    SystemHolds functions target (actions++[.start index command])
      (step functions target system (.start index command)) := by
  simp only [step]
  cases hnone : system.calls index with
  | some call =>
    exact ⟨fun hcall => (h.calls hcall).append _,h.landed,h.owned,h.returned⟩
  | none =>
    have hbefore : ∀ {other document_id document},
        Landed ⟨system.database,Function.update system.calls index (some (.fresh command))⟩ other
          document_id document → Landed system other document_id document := by
      rintro other document_id document ⟨call,pending,hcall,hlanded,hpending,hrest⟩
      rcases calls_update hcall with ⟨-,rfl⟩ | ⟨-,hother⟩
      · cases hlanded
      · exact ⟨call,pending,hother,hlanded,hpending,hrest⟩
    have hafter : ∀ {other document_id document},Landed system other document_id document →
        Landed ⟨system.database,Function.update system.calls index (some (.fresh command))⟩ other
          document_id document := by
      intro other document_id document hlanded
      have hstep : Landed (step functions target system (.start index command)) other document_id
          document := landed_step (.start index command) hlanded
      simpa only [step,hnone] using hstep
    refine ⟨?_,fun hlanded => h.landed (hbefore hlanded),?_,?_⟩
    · intro other call hcall
      rcases calls_update hcall with ⟨-,rfl⟩ | ⟨-,hother⟩
      · exact callHolds_fresh command
      · exact (h.calls hother).append _
    · intro other call stored hcall hstored document_id document hid hdocument hresolved
      rcases calls_update hcall with ⟨-,rfl⟩ | ⟨-,hother⟩
      · cases hstored
      · obtain ⟨owner,hlanded⟩ := h.owned hother hstored hid hdocument hresolved
        exact ⟨owner,hafter hlanded⟩
    · intro other call result hcall hresult
      rcases calls_update hcall with ⟨-,rfl⟩ | ⟨-,hother⟩
      · cases hresult
      · exact h.returned hother hresult

/-- What a call has sent carries an identity of its own. -/
theorem owner_of_sent {owner : Identifier → Nat}
    (howner : ∀ index clock mutation_id,.call index (.submit clock mutation_id)∈actions →
      owner mutation_id=index) {command : AmbiguousReceiptReadbackCommandV1}
    {stored : StoredRecord ExecutionReceipt} {pending : Pending}
    (h : SentBy functions target actions index command stored pending) :
    owner pending.prepared.document.mutation_id=index := by
  obtain ⟨_,_,_,_,clock,mutation_id,-,-,-,-,hprepared,hsubmit⟩ := h
  rw [mutation_of_prepared (prepareResolution_eq_ok.mp hprepared).2]
  exact howner index clock mutation_id hsubmit

/-- Only the own transaction of a call is read back. -/
theorem SystemHolds.own (h : SystemHolds functions target actions system) {owner : Identifier → Nat}
    (howner : ∀ index clock mutation_id,.call index (.submit clock mutation_id)∈actions →
      owner mutation_id=index) (hcall : system.calls index=some call) {pending : Pending}
    (hpending : call.pending=some pending) {disposition : TransactionCommitDisposition}
    (hresolve : resolveAmbiguous pending.prepared (some system.database)=.ok disposition) :
    call.landed=true := by
  obtain ⟨stored,hstored,hpins,hsent,hresolved⟩ := h.document hcall hpending
  have hdocument : system.database.receipts pending.prepared.document_id=
      some pending.prepared.document := by
    unfold resolveAmbiguous at hresolve
    dsimp only at hresolve
    split at hresolve
    · cases hresolve
    · cases hresolve
    · rename_i current hcurrent
      split at hresolve
      · rename_i hsame
        rw [← hsame]
        exact (transactionRead_some.mp hcurrent).1
      · split at hresolve <;> cases hresolve
  obtain ⟨other,otherCall,otherPending,hother,hlanded,hotherPending,-,hotherDocument⟩ :=
    h.owned hcall hstored hresolved.document_id hdocument ⟨hresolved.verified,hresolved.marked⟩
  obtain ⟨_,-,-,hotherSent,-⟩ := h.document hother hotherPending
  have hindex : other=index := by
    rw [← owner_of_sent howner hotherSent,hotherDocument]
    exact owner_of_sent howner hsent
  rw [hindex,hcall] at hother
  rw [Option.some.inj hother]
  exact hlanded

theorem SystemHolds.goes (h : SystemHolds functions target actions system) {owner : Identifier → Nat}
    (howner : ∀ index clock mutation_id,.call index (.submit clock mutation_id)∈actions →
      owner mutation_id=index) (index : Nat) (action : CallAction) :
    SystemHolds functions target (actions++[.call index action])
      (step functions target system (.call index action)) := by
  simp only [step]
  cases hcall : system.calls index with
  | none => exact ⟨fun hother => (h.calls hother).append _,h.landed,h.owned,h.returned⟩
  | some call =>
    dsimp only
    have hholds := (h.calls hcall).next
      (fun pending hpending _ hresolve => h.own howner hcall hpending hresolve) action
    have hnext : Next functions target system.database call
        (call.next functions target system.database action) := next_cases call _ action
    generalize call.next functions target system.database action=next at hholds hnext ⊢
    have hbefore : ∀ {other document_id document},
        Landed ⟨system.database,Function.update system.calls index (some next)⟩ other
          document_id document → Landed system other document_id document := by
      rintro other document_id document ⟨found,pending,hfound,hlanded,hpending,hrest⟩
      rcases calls_update hfound with ⟨hindex,rfl⟩ | ⟨-,hother⟩
      · rw [hnext.landed] at hlanded
        obtain ⟨sent,hsent⟩ := (h.calls hcall).landed hlanded
        have hsame : sent=pending := Option.some.inj ((hnext.pending hsent).symm.trans hpending)
        exact ⟨call,sent,hindex ▸ hcall,hlanded,hsent,hsame ▸ hrest⟩
      · exact ⟨found,pending,hother,hlanded,hpending,hrest⟩
    have hafter : ∀ {other document_id document},Landed system other document_id document →
        Landed ⟨system.database,Function.update system.calls index (some next)⟩ other
          document_id document :=
      landed_update hcall (.inr hnext.landed) fun _ hpending => hnext.pending hpending
    refine ⟨?_,fun hlanded => h.landed (hbefore hlanded),?_,?_⟩
    · intro other found hfound
      rcases calls_update hfound with ⟨rfl,rfl⟩ | ⟨-,hother⟩
      · exact hholds
      · exact (h.calls hother).append _
    · intro other found stored hfound hstored document_id document hid hdocument hresolved
      rcases calls_update hfound with ⟨rfl,rfl⟩ | ⟨-,hother⟩
      · rw [hnext.command] at hid
        rcases hnext.stored hstored with hheld | ⟨hread,hambiguous⟩
        · obtain ⟨owning,hlanded⟩ := h.owned hcall hheld hid hdocument hresolved
          exact ⟨owning,hafter hlanded⟩
        · obtain ⟨readId,current,hreadId,hcurrent,-,-,hsame⟩ := readReceipt_eq_some.mp hread
          rw [hid] at hreadId
          cases Except.ok.inj hreadId
          cases Option.some.inj (hcurrent.symm.trans hdocument)
          have hverified := hresolved.1
          rw [hsame,hambiguous] at hverified
          cases hverified
      · obtain ⟨owning,hlanded⟩ := h.owned hother hstored hid hdocument hresolved
        exact ⟨owning,hafter hlanded⟩
    · intro other found result hfound hresult
      rcases calls_update hfound with ⟨rfl,rfl⟩ | ⟨-,hother⟩
      · obtain ⟨hcommand,hresolved⟩ := hholds.returned result hresult
        rw [hnext.command] at hcommand ⊢
        refine ⟨hcommand,?_⟩
        rcases hnext.result hresult with hheld | hdisposition | hcommitted
        · exact (h.returned hcall hheld).2
        · obtain ⟨hlanded,pending,hpending,hstored⟩ := hresolved hdisposition
          rw [hnext.landed] at hlanded
          obtain ⟨sent,hsent⟩ := (h.calls hcall).landed hlanded
          have hsame : sent=pending := Option.some.inj ((hnext.pending hsent).symm.trans hpending)
          rw [hstored,← hsame]
          exact h.committed hcall hlanded hsent
        · exact hcommitted
      · exact h.returned hother hresult

/-- A transaction that is applied keeps what holds. -/
theorem SystemHolds.land (h : SystemHolds functions target actions system) (index : Nat) :
    SystemHolds functions target (actions++[.land index])
      (step functions target system (.land index)) := by
  have hstay : SystemHolds functions target (actions++[.land index]) system :=
    ⟨fun hother => (h.calls hother).append _,h.landed,h.owned,h.returned⟩
  simp only [step]
  cases hcall : system.calls index with
  | none => exact hstay
  | some call =>
    dsimp only
    cases heffect : call.effect functions target system.database with
    | none => exact hstay
    | some after =>
      obtain ⟨stored,pending,hlanding⟩ := landing_of_effect (h.calls hcall) heffect
      have hkeeps := hlanding.keeps
      have hpending := hlanding.submitted
      have hafter : ∀ {other document_id document},Landed system other document_id document →
          Landed ⟨after,Function.update system.calls index (some {call with landed := true})⟩ other
            document_id document := by
        intro other document_id document hlanded
        refine landed_update hcall (.inl rfl) ?_ hlanded
        exact fun _ hsent => hsent
      refine ⟨?_,?_,?_,?_⟩
      · intro other found hfound
        rcases calls_update hfound with ⟨rfl,rfl⟩ | ⟨-,hother⟩
        · have hbefore := (h.calls hcall).append [.land other]
          refine ⟨hbefore.pins,hbefore.stage,hbefore.sent,fun _ => ⟨pending,hpending⟩,?_⟩
          intro result hresult
          obtain ⟨hcommand,hresolved⟩ := hbefore.returned result hresult
          exact ⟨hcommand,fun hdisposition => ⟨rfl,(hresolved hdisposition).2⟩⟩
        · exact (h.calls hother).append _
      · rintro other document_id document ⟨found,sent,hfound,hlanded,hsent,hid,hdocument⟩
        rcases calls_update hfound with ⟨rfl,rfl⟩ | ⟨-,hother⟩
        · cases Option.some.inj (hpending.symm.trans hsent)
          rw [hlanding.written,← hid,← hdocument]
          exact putReceipt_receipts
        · have hbefore : Landed system other document_id document :=
            ⟨found,sent,hother,hlanded,hsent,hid,hdocument⟩
          exact hkeeps document_id document (h.landed hbefore) (h.resolved hbefore).1
      · intro other found held hfound hheld document_id document hid hdocument hresolved
        have hwrites : after.receipts document_id=some document := hdocument
        rw [hlanding.written] at hwrites
        obtain ⟨before,hbefore,hbeforeStored,hbeforeCommand⟩ : ∃ before,
            system.calls other=some before ∧ before.stored=some held ∧
              before.command=found.command := by
          rcases calls_update hfound with ⟨rfl,rfl⟩ | ⟨-,hother⟩
          · exact ⟨call,hcall,hheld,rfl⟩
          · exact ⟨found,hother,hheld,rfl⟩
        by_cases hsame : document_id=pending.prepared.document_id
        · rw [hsame,putReceipt_receipts] at hwrites
          have hwritten := Option.some.inj hwrites
          exact ⟨index,{call with landed := true},pending,Function.update_self _ _ _,rfl,hpending,
            hsame.symm,hwritten⟩
        · rw [putReceipt_receipts_ne hsame] at hwrites
          rw [← hbeforeCommand] at hid
          obtain ⟨owning,hlanded⟩ := h.owned hbefore hbeforeStored hid hwrites hresolved
          exact ⟨owning,hafter hlanded⟩
      · intro other found result hfound hresult
        rcases calls_update hfound with ⟨rfl,rfl⟩ | ⟨-,hother⟩
        · obtain ⟨hcommand,hcommitted⟩ := h.returned hcall hresult
          exact ⟨hcommand,hcommitted.keep hkeeps⟩
        · obtain ⟨hcommand,hcommitted⟩ := h.returned hother hresult
          exact ⟨hcommand,hcommitted.keep hkeeps⟩

/-- In every run, what holds of the calls and of their transactions. -/
theorem holds_after {owner : Identifier → Nat}
    (howner : ∀ index clock mutation_id,.call index (.submit clock mutation_id)∈actions →
      owner mutation_id=index) (database : Database) :
    SystemHolds functions target actions (ReadbackResolver.after functions target database actions) := by
  induction actions using List.reverseRecOn with
  | nil =>
    constructor
    · intro index call hcall
      cases hcall
    · rintro index document_id document ⟨call,pending,hcall,-⟩
      cases hcall
    · intro index call stored hcall
      cases hcall
    · intro index call result hcall
      cases hcall
  | append_singleton actions action ih =>
    have howned : ∀ index clock mutation_id,.call index (.submit clock mutation_id)∈actions →
        owner mutation_id=index :=
      fun index clock mutation_id hmem =>
        howner index clock mutation_id (List.mem_append_left _ hmem)
    have hholds := ih howned
    unfold ReadbackResolver.after at hholds ⊢
    rw [run_concat]
    cases action with
    | environment action => exact hholds.environment action
    | start index command => exact hholds.start index command
    | call index action => exact hholds.goes howned index action
    | land index => exact hholds.land index

theorem landed_after {database : Database} {index : Nat} {document_id : Sha256Digest}
    {document : Document ExecutionReceipt} (later : List Action)
    (h : Landed (ReadbackResolver.after functions target database actions) index document_id document) :
    Landed (ReadbackResolver.after functions target database (actions++later)) index document_id
      document := by
  unfold ReadbackResolver.after at h ⊢
  rw [run_append]
  have hstep : ∀ system action,Landed system index document_id document →
      Landed (step functions target system action) index document_id document :=
    fun _ action hlanded => landed_step action hlanded
  exact run_invariant hstep h

end

end ControlGraph.ReadbackFinality
