import ControlGraph.AbandonmentStore

/-!
# The recovery side of the health store

One root has one recovery intent, one command has one dispatch, and a request
and an idempotency key each name the dispatch that owns them. A transaction
reads and writes these documents at one instant, and its answer may be lost.
The caller of a lost answer reads the documents again later. A permit to enqueue
the task is minted only by a start whose commit was confirmed directly.
-/

namespace ControlGraph.RecoveryDispatchStore

open Checks ContractText RecoveryContracts AbandonmentContracts AbandonmentStore

open ReceiptContracts hiding ServiceClaimRecord

open ReceiptStore (StoreError Commit isServiceClaimTarget)

/-- The digest functions and the bounds of the stored texts. -/
structure HealthStoreFunctions extends AbandonmentFunctions where
  intentFits : RecoveryIntentFields → Bool
  /-- Whether the storage record of a dispatch and its canonical text are within their
  bounds. -/
  dispatchFits : RecoveryDispatchRecordFields → Bool

/-- What an identity of a dispatch is. -/
inductive RecoveryDispatchIdentityKind
  | request | idempotency
  deriving DecidableEq,Repr

/-- Ownership of a request or of an idempotency key. -/
structure RecoveryDispatchIdentityV2 where
  identity_kind : RecoveryDispatchIdentityKind
  identity_value : Identifier
  dispatch_id : Identifier
  command_sha256 : Sha256Digest
  recovery_authorization_sha256 : Sha256Digest
  capability_id : Identifier
  target : TargetBinding
  root_id : Identifier
  root_sha256 : Sha256Digest
  epoch : PositiveSafeInteger
  /-- When the task is due. -/
  scheduled_at : UtcSecond
  source_receipt_sha256 : Sha256Digest
  trigger_proof_sha256 : Sha256Digest
  prestate_attestation_sha256 : Sha256Digest
  /-- When the dispatch was prepared. -/
  claimed_at : UtcSecond
  deriving DecidableEq

/-- The documents that the recovery path and the abandonment path share. -/
structure Stores (functions : HealthStoreFunctions) where
  /-- The documents of the abandonment path, with the intents and the dispatches. -/
  records : Records functions.toAbandonmentFunctions
  dispatch_identities : RecoveryDispatchIdentityKind → Identifier →
    Option (StoredRecord RecoveryDispatchIdentityV2)

variable (functions : HealthStoreFunctions)

abbrev StoredIntent := StoredRecord (RecoveryIntentV1 functions.recovery)

abbrev StoredDispatch := StoredRecord (RecoveryDispatchRecordV2 functions.recovery)

/-- Check an identity of a dispatch. -/
def validateIdentity (identity : RecoveryDispatchIdentityV2) : Except Raised Unit :=
  require (identity.dispatch_id.1=recoveryDispatchId functions.recovery identity.command_sha256 ∧
      isDerivedCapabilityId identity.capability_id.1=true ∧
      isServiceClaimTarget identity.target=true ∧
      identity.root_id.1="cgroot:"++identity.root_sha256.1)
    (.valueError "recovery dispatch identity is invalid")

/-- Whether a dispatch may be stored at a revision. -/
def revisionMatches (dispatch : RecoveryDispatchRecordFields) (revision : Nat) : Bool :=
  match dispatch.state with
  | .prepared => revision==0
  | .enqueueStarted => revision==1
  | .created => revision==2
  | .duplicate => revision==2
  | .ambiguous => (revision==1 && dispatch.enqueue_started_at.isNone) ||
      ((revision==2 || revision==3) && dispatch.enqueue_started_at.isSome)

def validateDispatchDocument (stored : StoredDispatch functions) : Except Raised Unit := do
  require (functions.dispatchFits stored.value.fields=true)
    (.valueError "recovery dispatch storage payload is invalid")
  require (isServiceClaimTarget stored.value.target=true)
    (.valueError "health storage target is outside the ControlGraph boundary")
  require (revisionMatches stored.value.fields stored.revision=true)
    (.valueError "health storage wrapper binding is invalid")

def preparedDispatchDocument (dispatch : RecoveryDispatchRecordV2 functions.recovery)
    (revision : Nat) : Except Raised (StoredDispatch functions) := do
  let stored ← StoredRecord.make dispatch revision
  validateDispatchDocument functions stored
  return stored

/-- The identity of a dispatch under which a request or a key is owned. -/
def recoveryDispatchIdentity (dispatch : RecoveryDispatchRecordFields)
    (kind : RecoveryDispatchIdentityKind) : RecoveryDispatchIdentityV2 where
  identity_kind := kind
  identity_value := if kind=.request then dispatch.request_id else dispatch.idempotency_key
  target := dispatch.target
  dispatch_id := dispatch.dispatch_id
  command_sha256 := dispatch.command_sha256
  recovery_authorization_sha256 := dispatch.recovery_authorization_sha256
  capability_id := dispatch.capability_id
  root_id := dispatch.root_id
  root_sha256 := dispatch.root_sha256
  epoch := dispatch.epoch
  scheduled_at := dispatch.scheduled_at
  source_receipt_sha256 := dispatch.source_receipt_sha256
  trigger_proof_sha256 := dispatch.trigger_proof_sha256
  prestate_attestation_sha256 := dispatch.prestate_attestation_sha256
  claimed_at := dispatch.prepared_at

/-- How the body of a transaction ends without a write. -/
inductive BodyEnd
  /-- The documents are already the prepared ones. -/
  | exactDuplicate
  | expectedStateMismatch
  /-- A document does not carry its own identity. -/
  | corruptRecord
  deriving DecidableEq,Repr

/-- How a write ends. -/
inductive WriteEnd
  | confirmed
  /-- The body ended without a write. -/
  | refused (ended : BodyEnd)
  | contention
  | lost
  deriving DecidableEq,Repr

/-- What one write sees of the provider. The later read of a caller sees the documents of
its own instant, and none when it fails. -/
structure WriteReport where
  commit : Commit
  /-- What a later read sees. -/
  reread : Option (Stores functions)

variable {functions}

def Stores.dispatch (stores : Stores functions) (dispatch_id : Identifier) :
    Option (StoredDispatch functions) :=
  stores.records.dispatches dispatch_id

/-- Run the body of a transaction at one instant. -/
def runWrite (body : Stores functions → Except BodyEnd (Stores functions)) (commit : Commit)
    (stores : Stores functions) : Stores functions×WriteEnd :=
  match commit with
  | .contention => (stores,.contention)
  | .unconfirmed false => (stores,.lost)
  | .unconfirmed true =>
    match body stores with
    | .ok after => (after,.lost)
    | .error ended => (stores,.refused ended)
  | .confirmed =>
    match body stores with
    | .ok after => (after,.confirmed)
    | .error ended => (stores,.refused ended)

/-- A read that fails when it sees no documents. -/
def observe {Value : Type} (observed : Option (Stores functions))
    (read : Stores functions → Except StoreError Value) : Except StoreError Value :=
  match observed with
  | none => .error .unavailable
  | some stores => read stores

variable (target : TargetBinding)

def transactionReadIntent (root_sha256 : Sha256Digest) (intent_id : String)
    (stores : Stores functions) : Except BodyEnd (Option (StoredIntent functions)) :=
  match stores.records.intents root_sha256 with
  | none => .ok none
  | some stored =>
    if stored.revision=0 ∧ stored.value.intent_id.1=intent_id ∧
      stored.value.command.source.target=target then .ok (some stored)
    else .error .corruptRecord

def transactionReadIdentity (kind : RecoveryDispatchIdentityKind) (value : Identifier)
    (stores : Stores functions) :
    Except BodyEnd (Option (StoredRecord RecoveryDispatchIdentityV2)) :=
  match stores.dispatch_identities kind value with
  | none => .ok none
  | some stored =>
    if stored.revision=0 ∧ stored.value.identity_kind=kind ∧ stored.value.identity_value=value ∧
      validateIdentity functions stored.value=.ok () ∧ stored.value.target=target
    then .ok (some stored)
    else .error .corruptRecord

def transactionReadDispatch (dispatch_id : Identifier) (stores : Stores functions) :
    Except BodyEnd (Option (StoredDispatch functions)) :=
  match stores.records.dispatches dispatch_id with
  | none => .ok none
  | some stored =>
    if validateDispatchDocument functions stored=.ok () ∧ stored.value.dispatch_id=dispatch_id ∧
      stored.value.target=target then .ok (some stored)
    else .error .corruptRecord

/-- Read the sole intent of a root. -/
def readRecoveryIntent (root_sha256 : Sha256Digest) (stores : Stores functions) :
    Except StoreError (Option (StoredIntent functions)) := do
  let found ← (transactionReadIntent target root_sha256
    (recoveryIntentId functions.recovery root_sha256) stores).mapError (fun _ => .corruptRecord)
  require (∀ stored∈found,stored.value.root_sha256=root_sha256) .corruptRecord
  return found

/-- The identities under which a dispatch is read. -/
structure DispatchKey where
  command_sha256 : Sha256Digest
  dispatch_id : Identifier
  request_id : Identifier
  idempotency_key : Identifier
  root_sha256 : Sha256Digest
  epoch : PositiveSafeInteger

/-- A dispatch that is read under all its identities. -/
@[mk_iff] structure DispatchFound (key : DispatchKey)
    (request idempotency : StoredRecord RecoveryDispatchIdentityV2)
    (dispatch : StoredDispatch functions) : Prop where
  request_value : request.value=recoveryDispatchIdentity dispatch.value.fields .request
  idempotency_value : idempotency.value=recoveryDispatchIdentity dispatch.value.fields .idempotency
  request_revision : request.revision=0
  idempotency_revision : idempotency.revision=0
  command_sha256 : dispatch.value.command_sha256=key.command_sha256
  request_id : dispatch.value.request_id=key.request_id
  idempotency_key : dispatch.value.idempotency_key=key.idempotency_key
  root_sha256 : dispatch.value.root_sha256=key.root_sha256
  epoch : dispatch.value.epoch=key.epoch

instance (key : DispatchKey) (request idempotency : StoredRecord RecoveryDispatchIdentityV2)
    (dispatch : StoredDispatch functions) : Decidable (DispatchFound key request idempotency dispatch) :=
  decidable_of_iff _ (dispatchFound_iff key request idempotency dispatch).symm

/-- Read one dispatch only through both its identities. -/
def readRecoveryDispatch (key : DispatchKey) (stores : Stores functions) :
    Except StoreError (Option (StoredDispatch functions)) := do
  let request ← (transactionReadIdentity target .request key.request_id stores).mapError
    (fun _ => .corruptRecord)
  let idempotency ← (transactionReadIdentity target .idempotency key.idempotency_key
    stores).mapError (fun _ => .corruptRecord)
  let dispatch ← (transactionReadDispatch target key.dispatch_id stores).mapError
    (fun _ => .corruptRecord)
  match request,idempotency,dispatch with
  | none,none,none => return none
  | some request,some idempotency,some dispatch => do
    require (DispatchFound key request idempotency dispatch) .conflict
    return some dispatch
  | _,_,_ => .error .corruptRecord

/-- What the caller of a write whose answer is open makes of a later read. -/
def resolveWrite {Record : Type} [DecidableEq Record] (document : StoredRecord Record)
    (contended : Bool) (found : Except StoreError (Option (StoredRecord Record))) :
    Except StoreError (StoredRecord Record) :=
  match found with
  | .error _ => .error .outcomeUnknown
  | .ok adopted =>
    if adopted=some document then .ok document
    else if adopted.isSome=true ∨ contended=true then .error .conflict
    else .error .outcomeUnknown

/-- What a create reports of its end. -/
def createResult {Record : Type} [DecidableEq Record] (document : StoredRecord Record)
    (found : Except StoreError (Option (StoredRecord Record))) (ended : WriteEnd) :
    Except StoreError (StoredRecord Record) :=
  match ended with
  | .confirmed => .ok document
  | .refused .exactDuplicate => do
    let adopted ← found
    require (adopted=some document) .corruptRecord
    return document
  | .refused .expectedStateMismatch => .error .conflict
  | .refused .corruptRecord => .error .corruptRecord
  | .contention => resolveWrite document true found
  | .lost => resolveWrite document false found

/-- Whether a trigger is a revocation. -/
def isRevoked : RecoverySourceV1 → Bool
  | .unhealthy _ => false
  | .revokedV2 _ => true
  | .revokedV3 _ => true

def preparedIntent (intent : RecoveryIntentV1 functions.recovery) :
    Except Raised (StoredIntent functions) := do
  require (isRevoked intent.command.source=true ∧ intent.command.source.target=target)
    (.valueError "recovery intent does not match the configured target")
  require (functions.intentFits intent.fields=true)
    (.valueError "canonical contract exceeds its byte bound")
  require (isServiceClaimTarget intent.command.source.target=true)
    (.valueError "health storage target is outside the ControlGraph boundary")
  StoredRecord.make intent 0

/-- Write the document of an intent. -/
def Stores.putIntent (stores : Stores functions) (document : StoredIntent functions) :
    Stores functions :=
  {stores with records := {stores.records with
    intents := Function.update stores.records.intents document.value.root_sha256 (some document)}}

/-- Create an intent where its root has none. -/
def createIntent (document : StoredIntent functions) (stores : Stores functions) :
    Except BodyEnd (Stores functions) := do
  let current ← transactionReadIntent target document.value.root_sha256 document.value.intent_id.1
    stores
  match current with
  | some found =>
    if found=document then .error .exactDuplicate else .error .expectedStateMismatch
  | none => return stores.putIntent document

/-- Reserve the sole recovery command of a root or adopt its exact value. -/
def createOrAdoptRecoveryIntent (intent : RecoveryIntentV1 functions.recovery)
    (report : WriteReport functions) (stores : Stores functions) :
    Stores functions×Except StoreError (StoredIntent functions) :=
  match preparedIntent target intent with
  | .error raised => (stores,.error (.invalid raised))
  | .ok document =>
    let (after,ended) := runWrite (createIntent target document) report.commit stores
    (after,createResult document
      (observe report.reread (readRecoveryIntent target intent.root_sha256)) ended)

/-- The documents of a new dispatch. -/
structure DispatchDocuments (functions : HealthStoreFunctions) where
  request : StoredRecord RecoveryDispatchIdentityV2
  idempotency : StoredRecord RecoveryDispatchIdentityV2
  dispatch : StoredDispatch functions

def preparedDispatchDocuments (intent : StoredIntent functions)
    (prepared : RecoveryDispatchRecordV2 functions.recovery) :
    Except Raised (DispatchDocuments functions) := do
  require (intent.revision=0 ∧ prepared.state=.prepared ∧
      prepared.command_sha256=intent.value.command_sha256 ∧
      prepared.root_sha256=intent.value.root_sha256 ∧ prepared.epoch=intent.value.epoch)
    (.valueError "prepared recovery dispatch does not match its root intent")
  let request := recoveryDispatchIdentity prepared.fields .request
  let idempotency := recoveryDispatchIdentity prepared.fields .idempotency
  validateIdentity functions request
  validateIdentity functions idempotency
  let request ← StoredRecord.make request 0
  let idempotency ← StoredRecord.make idempotency 0
  let dispatch ← preparedDispatchDocument functions prepared 0
  return ⟨request,idempotency,dispatch⟩

/-- Write the documents of a new dispatch. -/
def Stores.putDispatchDocuments (stores : Stores functions)
    (documents : DispatchDocuments functions) : Stores functions where
  records := {stores.records with
    dispatches := Function.update stores.records.dispatches documents.dispatch.value.dispatch_id
      (some documents.dispatch)}
  dispatch_identities := fun kind value =>
    if kind=.request ∧ value=documents.dispatch.value.request_id then some documents.request
    else if kind=.idempotency ∧ value=documents.dispatch.value.idempotency_key
      then some documents.idempotency
    else stores.dispatch_identities kind value

/-- Create the documents of a dispatch behind the exact intent of its root. -/
def createDispatch (intent : StoredIntent functions) (documents : DispatchDocuments functions)
    (stores : Stores functions) : Except BodyEnd (Stores functions) := do
  let current_intent ← transactionReadIntent target intent.value.root_sha256
    intent.value.intent_id.1 stores
  let current_request ← transactionReadIdentity target .request
    documents.dispatch.value.request_id stores
  let current_idempotency ← transactionReadIdentity target .idempotency
    documents.dispatch.value.idempotency_key stores
  let current_dispatch ← transactionReadDispatch target documents.dispatch.value.dispatch_id stores
  require (current_intent=some intent) .expectedStateMismatch
  if current_request=none ∧ current_idempotency=none ∧ current_dispatch=none then
    return stores.putDispatchDocuments documents
  else if current_request=some documents.request ∧
      current_idempotency=some documents.idempotency ∧
      current_dispatch=some documents.dispatch then .error .exactDuplicate
  else .error .expectedStateMismatch

def commandKey (dispatch_id : Identifier) (command_sha256 : Sha256Digest)
    (command : RecoveryCommandV2) : DispatchKey where
  command_sha256 := command_sha256
  dispatch_id := dispatch_id
  request_id := command.request_id
  idempotency_key := command.idempotency_key
  root_sha256 := command.expected_root_sha256
  epoch := command.expected_epoch

/-- Create the ownership of a dispatch or adopt its exact value. -/
def prepareOrAdoptRecoveryDispatch (intent : StoredIntent functions)
    (prepared : RecoveryDispatchRecordV2 functions.recovery) (report : WriteReport functions)
    (stores : Stores functions) : Stores functions×Except StoreError (StoredDispatch functions) :=
  match preparedDispatchDocuments intent prepared with
  | .error raised => (stores,.error (.invalid raised))
  | .ok documents =>
    let (after,ended) := runWrite (createDispatch target intent documents) report.commit stores
    let key := commandKey prepared.dispatch_id intent.value.command_sha256 intent.value.command
    (after,createResult documents.dispatch
      (observe report.reread (readRecoveryDispatch target key)) ended)

/-- Whether a replacement is the next step of a dispatch around its enqueue attempt. -/
def recoveryTransitionIsExact (expected : StoredDispatch functions)
    (replacement : RecoveryDispatchRecordV2 functions.recovery) : Bool :=
  decide (replacement.fields={expected.value.fields with
    state := replacement.state,
    enqueue_started_at := replacement.enqueue_started_at,
    terminal_at := replacement.terminal_at,
    result := replacement.result}) &&
  match expected.value.state with
  | .prepared =>
    expected.revision==0 && replacement.state==.enqueueStarted &&
      replacement.enqueue_started_at.isSome && replacement.terminal_at.isNone &&
      replacement.result.isNone
  | .enqueueStarted =>
    expected.revision==1 && [.created,.duplicate,.ambiguous].contains replacement.state &&
      replacement.enqueue_started_at==expected.value.enqueue_started_at &&
      replacement.terminal_at.isSome && replacement.result.isSome
  | _ => false

/-- Prepare the document of the next step of a dispatch. -/
def preparedTransition (expected : StoredDispatch functions)
    (replacement : RecoveryDispatchRecordV2 functions.recovery) (allow_enqueue_start : Bool) :
    Except Raised (StoredDispatch functions) := do
  require (recoveryTransitionIsExact expected replacement=true)
    (.valueError "recovery dispatch transition is invalid")
  require ((replacement.state==.enqueueStarted)=allow_enqueue_start)
    (.valueError "recovery enqueue transition requires its sealed operation")
  preparedDispatchDocument functions replacement (expected.revision+1)

/-- Write the document of a dispatch. -/
def Stores.putDispatch (stores : Stores functions) (document : StoredDispatch functions) :
    Stores functions :=
  {stores with records := {stores.records with
    dispatches := Function.update stores.records.dispatches document.value.dispatch_id
      (some document)}}

/-- Replace the expected dispatch. -/
def updateDispatch (expected document : StoredDispatch functions) (stores : Stores functions) :
    Except BodyEnd (Stores functions) := do
  let current ← transactionReadDispatch target document.value.dispatch_id stores
  if current=some expected then return stores.putDispatch document
  else if current=some document then .error .exactDuplicate
  else .error .expectedStateMismatch

def dispatchKey (dispatch : RecoveryDispatchRecordFields) : DispatchKey where
  command_sha256 := dispatch.task.authorization.command_sha256
  dispatch_id := dispatch.dispatch_id
  request_id := dispatch.task.authorization.request_id
  idempotency_key := dispatch.task.authorization.idempotency_key
  root_sha256 := dispatch.task.authorization.root_sha256
  epoch := dispatch.task.authorization.epoch

/-- What a replacement reports of its end, with whether it was written directly. -/
def replaceResult (document : StoredDispatch functions) (allow_enqueue_start : Bool)
    (found : Except StoreError (Option (StoredDispatch functions))) (ended : WriteEnd) :
    Except StoreError (StoredDispatch functions×Bool) :=
  match ended with
  | .confirmed => .ok (document,true)
  | .refused .exactDuplicate => .ok (document,false)
  | .refused .expectedStateMismatch => .error .conflict
  | .refused .corruptRecord => .error .corruptRecord
  | .contention | .lost =>
    if allow_enqueue_start=true then .error .outcomeUnknown
    else match found with
      | .ok (some adopted) =>
        if adopted=document then .ok (document,false) else .error .outcomeUnknown
      | _ => .error .outcomeUnknown

/-- Replace a dispatch only while it is the expected one. -/
def compareAndSet (expected : StoredDispatch functions)
    (replacement : RecoveryDispatchRecordV2 functions.recovery) (allow_enqueue_start : Bool)
    (report : WriteReport functions) (stores : Stores functions) :
    Stores functions×Except StoreError (StoredDispatch functions×Bool) :=
  match preparedTransition expected replacement allow_enqueue_start with
  | .error raised => (stores,.error (.invalid raised))
  | .ok document =>
    let (after,ended) := runWrite (updateDispatch target expected document) report.commit stores
    (after,replaceResult document allow_enqueue_start
      (observe report.reread (readRecoveryDispatch target (dispatchKey replacement.fields))) ended)

/-- Advance a started dispatch to its outcome. -/
def compareAndSetRecoveryDispatch (expected : StoredDispatch functions)
    (replacement : RecoveryDispatchRecordV2 functions.recovery) (report : WriteReport functions)
    (stores : Stores functions) : Stores functions×Except StoreError (StoredDispatch functions) :=
  if replacement.state=.enqueueStarted then
    (stores,.error (.invalid (.valueError "enqueue start requires direct permit issuance")))
  else
    let (after,result) := compareAndSet target expected replacement false report stores
    (after,result.map Prod.fst)

/-- Permit to enqueue one task once. -/
structure RecoveryEnqueuePermit where
  dispatch_id : Identifier
  revision : Nat
  task_name : BoundedText
  task_sha256 : Sha256Digest
  deriving DecidableEq

/-- Mint a permit from a started dispatch. -/
def permitFromDirectStoreStart (started : StoredDispatch functions) :
    Except Raised RecoveryEnqueuePermit := do
  require (started.revision=1 ∧ started.value.state=.enqueueStarted ∧ started.value.result=none)
    (.valueError "recovery enqueue permit requires one exact started task")
  return ⟨started.value.dispatch_id,started.revision,started.value.task_name,
    started.value.task_sha256⟩

/-- A started dispatch with its permit. -/
structure DirectRecoveryEnqueueStart (functions : HealthStoreFunctions) where
  dispatch : StoredDispatch functions
  permit : RecoveryEnqueuePermit

/-- The start with its permit, when it was written directly. -/
def directStart (written : StoredDispatch functions×Bool) :
    Except StoreError (DirectRecoveryEnqueueStart functions) := do
  require (written.2=true) .outcomeUnknown
  let permit ← (permitFromDirectStoreStart written.1).mapError .invalid
  return ⟨written.1,permit⟩

/-- Start the only enqueue attempt of a prepared dispatch. -/
def beginRecoveryEnqueue (expected : StoredDispatch functions)
    (replacement : RecoveryDispatchRecordV2 functions.recovery) (report : WriteReport functions)
    (stores : Stores functions) :
    Stores functions×Except StoreError (DirectRecoveryEnqueueStart functions) :=
  if replacement.state=.enqueueStarted then
    let (after,result) := compareAndSet target expected replacement true report stores
    (after,result>>=directStart)
  else
    (stores,.error (.invalid (.valueError "recovery enqueue start requires ENQUEUE_STARTED")))

section

variable {target} {stores after : Stores functions}

/-- A transaction leaves the documents alone or applies its body once. -/
theorem runWrite_fst {body : Stores functions → Except BodyEnd (Stores functions)}
    {commit : Commit} : (runWrite body commit stores).1=stores ∨
      body stores=.ok (runWrite body commit stores).1 := by
  unfold runWrite
  cases commit with
  | contention => exact .inl rfl
  | confirmed =>
    cases hbody : body stores with
    | error ended => exact .inl rfl
    | ok written => exact .inr rfl
  | unconfirmed applied =>
    cases applied with
    | false => exact .inl rfl
    | true =>
      cases hbody : body stores with
      | error ended => exact .inl rfl
      | ok written => exact .inr rfl

theorem runWrite_confirmed {body : Stores functions → Except BodyEnd (Stores functions)}
    {commit : Commit} (h : (runWrite body commit stores).2=.confirmed) :
    body stores=.ok (runWrite body commit stores).1 := by
  unfold runWrite at h ⊢
  cases commit with
  | contention => cases h
  | confirmed =>
    cases hbody : body stores with
    | error ended => simp only [hbody,reduceCtorEq] at h
    | ok written => rfl
  | unconfirmed applied =>
    cases applied with
    | false => cases h
    | true =>
      cases hbody : body stores with
      | error ended => simp only [hbody,reduceCtorEq] at h
      | ok written => simp only [hbody,reduceCtorEq] at h

theorem transactionReadIdentity_eq_ok {kind : RecoveryDispatchIdentityKind} {value : Identifier}
    {found : Option (StoredRecord RecoveryDispatchIdentityV2)}
    (h : transactionReadIdentity target kind value stores=.ok found) :
    stores.dispatch_identities kind value=found := by
  unfold transactionReadIdentity at h
  split at h
  · rename_i hnone
    rw [hnone]
    exact Except.ok.inj h
  · rename_i stored hstored
    split at h
    · rw [hstored]
      exact Except.ok.inj h
    · cases h

theorem transactionReadDispatch_eq_ok {dispatch_id : Identifier}
    {found : Option (StoredDispatch functions)}
    (h : transactionReadDispatch target dispatch_id stores=.ok found) :
    stores.records.dispatches dispatch_id=found := by
  unfold transactionReadDispatch at h
  split at h
  · rename_i hnone
    rw [hnone]
    exact Except.ok.inj h
  · rename_i stored hstored
    split at h
    · rw [hstored]
      exact Except.ok.inj h
    · cases h

/-- A prepared document carries its dispatch at its revision and passes its check. -/
theorem preparedDispatchDocument_eq_ok {dispatch : RecoveryDispatchRecordV2 functions.recovery}
    {revision : Nat} {document : StoredDispatch functions}
    (h : preparedDispatchDocument functions dispatch revision=.ok document) :
    document.value=dispatch ∧ document.revision=revision ∧
      validateDispatchDocument functions document=.ok () := by
  rw [preparedDispatchDocument,bind_eq_ok] at h
  obtain ⟨stored,hstored,h⟩ := h
  rw [check_bind_eq_ok] at h
  obtain ⟨hvalid,hdocument⟩ := h
  rw [← Except.ok.inj hdocument]
  exact ⟨(StoredRecord.make_eq_ok hstored).1,(StoredRecord.make_eq_ok hstored).2,hvalid⟩

theorem preparedDispatchDocuments_eq_ok {intent : StoredIntent functions}
    {prepared : RecoveryDispatchRecordV2 functions.recovery}
    {documents : DispatchDocuments functions}
    (h : preparedDispatchDocuments intent prepared=.ok documents) :
    prepared.state=.prepared ∧ documents.dispatch.value=prepared ∧
      documents.dispatch.revision=0 ∧
      validateDispatchDocument functions documents.dispatch=.ok () ∧
      documents.request.value.dispatch_id=prepared.dispatch_id ∧
      documents.idempotency.value.dispatch_id=prepared.dispatch_id := by
  rw [preparedDispatchDocuments,check_bind_eq_ok,require_eq_ok] at h
  obtain ⟨⟨-,hstate,-⟩,h⟩ := h
  rw [check_bind_eq_ok,check_bind_eq_ok] at h
  obtain ⟨-,-,h⟩ := h
  rw [bind_eq_ok] at h
  obtain ⟨request,hrequest,h⟩ := h
  rw [bind_eq_ok] at h
  obtain ⟨idempotency,hidempotency,h⟩ := h
  rw [bind_eq_ok] at h
  obtain ⟨dispatch,hdispatch,h⟩ := h
  rw [← Except.ok.inj h]
  obtain ⟨hvalue,hrevision,hvalid⟩ := preparedDispatchDocument_eq_ok hdispatch
  refine ⟨hstate,hvalue,hrevision,hvalid,?_,?_⟩
  · rw [(StoredRecord.make_eq_ok hrequest).1]
    rfl
  · rw [(StoredRecord.make_eq_ok hidempotency).1]
    rfl

/-- A create finds all the places of its documents empty. -/
theorem createDispatch_eq_ok {intent : StoredIntent functions}
    {documents : DispatchDocuments functions}
    (h : createDispatch target intent documents stores=.ok after) :
    stores.dispatch_identities .request documents.dispatch.value.request_id=none ∧
      stores.dispatch_identities .idempotency documents.dispatch.value.idempotency_key=none ∧
      stores.records.dispatches documents.dispatch.value.dispatch_id=none ∧
      after=stores.putDispatchDocuments documents := by
  rw [createDispatch,bind_eq_ok] at h
  obtain ⟨current_intent,-,h⟩ := h
  rw [bind_eq_ok] at h
  obtain ⟨current_request,hrequest,h⟩ := h
  rw [bind_eq_ok] at h
  obtain ⟨current_idempotency,hidempotency,h⟩ := h
  rw [bind_eq_ok] at h
  obtain ⟨current_dispatch,hdispatch,h⟩ := h
  rw [check_bind_eq_ok] at h
  obtain ⟨-,h⟩ := h
  by_cases hnone : current_request=none ∧ current_idempotency=none ∧ current_dispatch=none
  · rw [if_pos hnone] at h
    obtain ⟨hfirst,hsecond,hthird⟩ := hnone
    rw [transactionReadIdentity_eq_ok hrequest,transactionReadIdentity_eq_ok hidempotency,
      transactionReadDispatch_eq_ok hdispatch]
    exact ⟨hfirst,hsecond,hthird,(Except.ok.inj h).symm⟩
  · rw [if_neg hnone] at h
    split at h <;> cases h

theorem updateDispatch_eq_ok {expected document : StoredDispatch functions}
    (h : updateDispatch target expected document stores=.ok after) :
    stores.records.dispatches document.value.dispatch_id=some expected ∧
      after=stores.putDispatch document := by
  rw [updateDispatch,bind_eq_ok] at h
  obtain ⟨current,hcurrent,h⟩ := h
  by_cases hexpected : current=some expected
  · rw [if_pos hexpected] at h
    exact ⟨(transactionReadDispatch_eq_ok hcurrent).trans hexpected,(Except.ok.inj h).symm⟩
  · rw [if_neg hexpected] at h
    split at h <;> cases h

/-- Two dispatch records that agree but for the enqueue attempt and its outcome. -/
def SameDispatch (first second : RecoveryDispatchRecordFields) : Prop :=
  second={first with
    state := second.state,
    enqueue_started_at := second.enqueue_started_at,
    terminal_at := second.terminal_at,
    result := second.result}

theorem SameDispatch.refl {dispatch : RecoveryDispatchRecordFields} :
    SameDispatch dispatch dispatch := rfl

/-- Agreement composes. -/
theorem SameDispatch.trans {first second third : RecoveryDispatchRecordFields}
    (hfirst : SameDispatch first second) (hsecond : SameDispatch second third) :
    SameDispatch first third := by
  unfold SameDispatch at hfirst hsecond ⊢
  rw [hsecond,hfirst]

theorem SameDispatch.identities {first second : RecoveryDispatchRecordFields}
    (h : SameDispatch first second) : second.dispatch_id=first.dispatch_id ∧
      second.request_id=first.request_id ∧ second.idempotency_key=first.idempotency_key ∧
      second.task_name=first.task_name ∧ second.task_sha256=first.task_sha256 := by
  unfold SameDispatch at h
  rw [h]
  exact ⟨rfl,rfl,rfl,rfl,rfl⟩

/-- What a prepared next step of a dispatch says of it. -/
structure Transition (expected document : StoredDispatch functions) : Prop where
  /-- The rest of the record is kept. -/
  same : SameDispatch expected.value.fields document.value.fields
  /-- The attempt is started, or its outcome is recorded. -/
  step : (expected.value.state=.prepared ∧ expected.revision=0 ∧
      document.value.state=.enqueueStarted ∧ document.revision=1 ∧
      document.value.result=none) ∨
    (expected.value.state=.enqueueStarted ∧ expected.revision=1 ∧
      document.value.state∈[.created,.duplicate,.ambiguous] ∧ document.revision=2)
  /-- The document passes its check. -/
  valid : validateDispatchDocument functions document=.ok ()

/-- A prepared next step is one of the two steps of a dispatch. -/
theorem preparedTransition_eq_ok {expected document : StoredDispatch functions}
    {replacement : RecoveryDispatchRecordV2 functions.recovery} {allow_enqueue_start : Bool}
    (h : preparedTransition expected replacement allow_enqueue_start=.ok document) :
    document.value=replacement ∧ Transition expected document := by
  rw [preparedTransition,check_bind_eq_ok,require_eq_ok] at h
  obtain ⟨hexact,h⟩ := h
  rw [check_bind_eq_ok] at h
  obtain ⟨hvalue,hrevision,hvalid⟩ := preparedDispatchDocument_eq_ok h.2
  rw [recoveryTransitionIsExact,Bool.and_eq_true,decide_eq_true_eq] at hexact
  obtain ⟨hsame,hstep⟩ := hexact
  refine ⟨hvalue,by rw [hvalue]; exact hsame,?_,hvalid⟩
  rw [hvalue,hrevision]
  cases hstate : expected.value.state with
  | prepared =>
    simp only [hstate,Bool.and_eq_true,beq_iff_eq,Option.isNone_iff_eq_none] at hstep
    obtain ⟨⟨⟨⟨hzero,hstarted⟩,-⟩,-⟩,hresult⟩ := hstep
    exact .inl ⟨rfl,hzero,hstarted,by omega,hresult⟩
  | enqueueStarted =>
    simp only [hstate,Bool.and_eq_true,beq_iff_eq,List.contains_iff_mem] at hstep
    obtain ⟨⟨⟨⟨hone,hended⟩,-⟩,-⟩,-⟩ := hstep
    exact .inr ⟨rfl,hone,hended,by omega⟩
  | created => simp only [hstate,Bool.false_eq_true] at hstep
  | duplicate => simp only [hstate,Bool.false_eq_true] at hstep
  | ambiguous => simp only [hstate,Bool.false_eq_true] at hstep

/-- A preparation leaves the documents alone or creates those of its dispatch. -/
theorem prepareOrAdopt_fst {intent : StoredIntent functions}
    {prepared : RecoveryDispatchRecordV2 functions.recovery} {report : WriteReport functions} :
    (prepareOrAdoptRecoveryDispatch target intent prepared report stores).1=stores ∨
      ∃ documents,preparedDispatchDocuments intent prepared=.ok documents ∧
        createDispatch target intent documents stores=
          .ok (prepareOrAdoptRecoveryDispatch target intent prepared report stores).1 := by
  unfold prepareOrAdoptRecoveryDispatch
  cases hprepared : preparedDispatchDocuments intent prepared with
  | error raised => exact .inl rfl
  | ok documents => exact runWrite_fst.imp id (fun hbody => ⟨documents,rfl,hbody⟩)

/-- A replacement leaves the documents alone or writes its document over the expected one. -/
theorem compareAndSet_fst {expected : StoredDispatch functions}
    {replacement : RecoveryDispatchRecordV2 functions.recovery} {allow_enqueue_start : Bool}
    {report : WriteReport functions} :
    (compareAndSet target expected replacement allow_enqueue_start report stores).1=stores ∨
      ∃ document,preparedTransition expected replacement allow_enqueue_start=.ok document ∧
        updateDispatch target expected document stores=
          .ok (compareAndSet target expected replacement allow_enqueue_start report stores).1 := by
  unfold compareAndSet
  cases hprepared : preparedTransition expected replacement allow_enqueue_start with
  | error raised => exact .inl rfl
  | ok document => exact runWrite_fst.imp id (fun hbody => ⟨document,rfl,hbody⟩)

/-- A replacement whose answer is open is never reported as written directly. -/
theorem replaceResult_open {document written : StoredDispatch functions}
    {allow_enqueue_start : Bool} {found : Except StoreError (Option (StoredDispatch functions))}
    {ended : WriteEnd} (hopen : ended=.contention ∨ ended=.lost) :
    replaceResult document allow_enqueue_start found ended≠.ok (written,true) := by
  have hread : replaceResult document allow_enqueue_start found ended=
      if allow_enqueue_start=true then .error .outcomeUnknown
      else match found with
        | .ok (some adopted) =>
          if adopted=document then .ok (document,false) else .error .outcomeUnknown
        | _ => .error .outcomeUnknown := by
    rcases hopen with rfl | rfl <;> rfl
  rw [hread]
  intro h
  split at h
  · cases h
  · split at h
    · split at h
      · exact absurd (congrArg Prod.snd (Except.ok.inj h)) Bool.false_ne_true
      · cases h
    · cases h

/-- A replacement that reports a direct write has written its document. -/
theorem compareAndSet_direct {expected written : StoredDispatch functions}
    {replacement : RecoveryDispatchRecordV2 functions.recovery} {allow_enqueue_start : Bool}
    {report : WriteReport functions}
    (h : (compareAndSet target expected replacement allow_enqueue_start report stores).2=
      .ok (written,true)) :
    preparedTransition expected replacement allow_enqueue_start=.ok written ∧
      updateDispatch target expected written stores=
        .ok (compareAndSet target expected replacement allow_enqueue_start report stores).1 := by
  unfold compareAndSet at h ⊢
  cases hprepared : preparedTransition expected replacement allow_enqueue_start with
  | error raised => simp only [hprepared,reduceCtorEq] at h
  | ok document =>
    simp only [hprepared] at h ⊢
    cases hended : (runWrite (updateDispatch target expected document) report.commit stores).2 with
    | confirmed =>
      rw [hended] at h
      have hwritten : document=written := congrArg Prod.fst (Except.ok.inj h)
      rw [← hwritten]
      exact ⟨rfl,runWrite_confirmed hended⟩
    | refused ended =>
      rw [hended] at h
      cases ended with
      | exactDuplicate => exact absurd (congrArg Prod.snd (Except.ok.inj h)) Bool.false_ne_true
      | expectedStateMismatch => cases h
      | corruptRecord => cases h
    | contention =>
      rw [hended] at h
      exact absurd h (replaceResult_open (.inl rfl))
    | lost =>
      rw [hended] at h
      exact absurd h (replaceResult_open (.inr rfl))

end

end ControlGraph.RecoveryDispatchStore
