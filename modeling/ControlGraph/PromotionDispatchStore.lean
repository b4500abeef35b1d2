import ControlGraph.PromotionContracts

/-!
# The stored dispatch of a promotion

One command has one dispatch, and its request and its idempotency key each name
the dispatch that owns them. A transaction reads and writes these documents at
one instant. When its answer is lost the documents are read again one by one, and
a document counts as written only when it carries the identity of the own write.
A permit to enqueue the task is minted only by a start whose commit was confirmed
directly.
-/

namespace ControlGraph.PromotionDispatchStore

open Checks ContractText PromotionContracts

open ReceiptContracts (TargetBinding StoredRecord)

open ReceiptStore (StoreError Commit TransactionCommitDisposition)

open RecoveryContracts (isDerivedCapabilityId)

/-- What an identity of a dispatch is. -/
inductive PromotionDispatchIdentityKind
  | request | idempotency
  deriving DecidableEq,Repr

/-- Ownership of a request or of an idempotency key. -/
structure PromotionDispatchIdentityV2 where
  identity_kind : PromotionDispatchIdentityKind
  identity_value : Identifier
  dispatch_id : Identifier
  command_sha256 : Sha256Digest
  promotion_authorization_sha256 : Sha256Digest
  capability_id : Identifier
  root_id : Identifier
  root_sha256 : Sha256Digest
  epoch : PositiveSafeInteger
  /-- When the task is due. -/
  scheduled_at : UtcSecond
  source_receipt_sha256 : Sha256Digest
  health_chain_sha256 : Sha256Digest
  /-- When the dispatch was prepared. -/
  claimed_at : UtcSecond
  deriving DecidableEq

/-- A stored record with the identity of the write that produced it. -/
structure Document (Record : Type) where
  mutation_id : Identifier
  stored : StoredRecord Record
  deriving DecidableEq

variable (functions : PromotionFunctions)

abbrev StoredDispatch := StoredRecord (PromotionDispatchRecordV2 functions)

/-- The promotion documents of the authority database. -/
structure Stores where
  /-- Owner of each identity of a dispatch. -/
  identities : PromotionDispatchIdentityKind → Identifier →
    Option (Document PromotionDispatchIdentityV2)
  dispatches : Identifier → Option (Document (PromotionDispatchRecordV2 functions))

theorem isIdentifier_dispatch (digest : Sha256Digest) :
    isIdentifier (promotionDispatchV2Id digest)=true :=
  StorageIdentity.isIdentifier_derived (by decide) (by decide) digest

def commandDispatchId (command : PromotionCommandV2) : Identifier :=
  ⟨promotionDispatchV2Id (functions.command_sha256 command),isIdentifier_dispatch _⟩

/-- Check an identity of a dispatch. -/
def validateIdentity (identity : PromotionDispatchIdentityV2) : Except Raised Unit :=
  require (identity.dispatch_id.1=promotionDispatchV2Id identity.command_sha256 ∧
      isDerivedCapabilityId identity.capability_id.1=true)
    (.valueError "V2 promotion dispatch identity is invalid")

/-- The revision of a dispatch in a state. -/
def expectedRevision : PromotionDispatchState → Nat
  | .prepared => 0
  | .enqueueStarted => 1
  | .created | .duplicate | .ambiguous => 2

/-- A dispatch that answers a command of the configured target. -/
@[mk_iff] structure RecordMatches (target : TargetBinding) (command : PromotionCommandV2)
    (record : PromotionDispatchRecordFields) : Prop where
  target : record.target=target
  command_sha256 : record.command_sha256=functions.command_sha256 command
  dispatch_id : record.dispatch_id=commandDispatchId functions command
  request_id : record.request_id=command.request_id
  idempotency_key : record.idempotency_key=command.idempotency_key
  root_id : record.root_id=command.root_id
  root_sha256 : record.root_sha256=command.expected_root_sha256
  epoch : record.epoch=command.expected_epoch
  scheduled_at : record.scheduled_at=command.scheduled_at
  source_receipt_sha256 : record.source_receipt_sha256=command.verified_apply_receipt.receipt_sha256
  chain : record.health_chain_sha256=command.health_chain_locator.health_chain_sha256

instance (target : TargetBinding) (command : PromotionCommandV2)
    (record : PromotionDispatchRecordFields) : Decidable (RecordMatches functions target command record) :=
  decidable_of_iff _ (recordMatches_iff functions target command record).symm

/-- The identity of a dispatch under which a request or a key is owned. -/
def promotionDispatchIdentityV2 (record : PromotionDispatchRecordFields)
    (kind : PromotionDispatchIdentityKind) : PromotionDispatchIdentityV2 where
  identity_kind := kind
  identity_value := if kind=.request then record.request_id else record.idempotency_key
  dispatch_id := record.dispatch_id
  command_sha256 := record.command_sha256
  promotion_authorization_sha256 := record.promotion_authorization_sha256
  capability_id := record.capability_id
  root_id := record.root_id
  root_sha256 := record.root_sha256
  epoch := record.epoch
  scheduled_at := record.scheduled_at
  source_receipt_sha256 := record.source_receipt_sha256
  health_chain_sha256 := record.health_chain_sha256
  claimed_at := record.prepared_at

/-- How the body of a transaction ends without a write. -/
inductive BodyEnd
  | expectedStateMismatch
  /-- A document does not carry its own identity. -/
  | corruptRecord
  deriving DecidableEq,Repr

/-- What one operation sees of the provider. Each later read sees the documents of its own
instant, and none when it fails. -/
structure ProviderReport where
  commit : Commit
  /-- What each read of the resolution of a lost answer sees. -/
  resolved : Nat → Option (Stores functions)
  /-- What the read after a conflict sees. -/
  reread : Option (Stores functions)

variable {functions}

def transactionReadIdentity (kind : PromotionDispatchIdentityKind) (value : Identifier)
    (stores : Stores functions) : Except BodyEnd (Option (Document PromotionDispatchIdentityV2)) :=
  match stores.identities kind value with
  | none => .ok none
  | some document =>
    if document.stored.revision=0 ∧ document.stored.value.identity_kind=kind ∧
      document.stored.value.identity_value=value ∧
      validateIdentity document.stored.value=.ok () then .ok (some document)
    else .error .corruptRecord

def transactionReadDispatch (dispatch_id : Identifier) (stores : Stores functions) :
    Except BodyEnd (Option (Document (PromotionDispatchRecordV2 functions))) :=
  match stores.dispatches dispatch_id with
  | none => .ok none
  | some document =>
    if document.stored.revision=expectedRevision document.stored.value.state ∧
      document.stored.value.dispatch_id=dispatch_id then .ok (some document)
    else .error .corruptRecord

/-- An identity that a command owns. -/
@[mk_iff] structure IdentityMatches (functions : PromotionFunctions) (command : PromotionCommandV2)
    (kind : PromotionDispatchIdentityKind) (value : Identifier)
    (identity : PromotionDispatchIdentityV2) : Prop where
  kind : identity.identity_kind=kind
  value : identity.identity_value=value
  dispatch_id : identity.dispatch_id=commandDispatchId functions command
  command_sha256 : identity.command_sha256=functions.command_sha256 command
  root_id : identity.root_id=command.root_id
  root_sha256 : identity.root_sha256=command.expected_root_sha256
  epoch : identity.epoch=command.expected_epoch
  scheduled_at : identity.scheduled_at=command.scheduled_at
  source_receipt_sha256 : identity.source_receipt_sha256=
    command.verified_apply_receipt.receipt_sha256
  chain : identity.health_chain_sha256=command.health_chain_locator.health_chain_sha256

instance (command : PromotionCommandV2) (kind : PromotionDispatchIdentityKind) (value : Identifier)
    (identity : PromotionDispatchIdentityV2) :
    Decidable (IdentityMatches functions command kind value identity) :=
  decidable_of_iff _ (identityMatches_iff functions command kind value identity).symm

variable (target : TargetBinding)

/-- Read the dispatch of a command only through both its identities. -/
def readPromotionDispatchV2 (command : PromotionCommandV2) (stores : Stores functions) :
    Except StoreError (Option (StoredDispatch functions)) := do
  let request ← (transactionReadIdentity .request command.request_id stores).mapError
    (fun _ => .corruptRecord)
  let idempotency ← (transactionReadIdentity .idempotency command.idempotency_key stores).mapError
    (fun _ => .corruptRecord)
  let dispatch ← (transactionReadDispatch (commandDispatchId functions command) stores).mapError
    (fun _ => .corruptRecord)
  require ((∀ document∈request,IdentityMatches functions command .request command.request_id
        document.stored.value) ∧
      ∀ document∈idempotency,IdentityMatches functions command .idempotency
        command.idempotency_key document.stored.value)
    (if dispatch.isSome then .corruptRecord else .conflict)
  match request,idempotency,dispatch with
  | none,none,none => return none
  | some request,some idempotency,some dispatch => do
    let record := dispatch.stored.value.fields
    require (RecordMatches functions target command record ∧
        request.stored.value=promotionDispatchIdentityV2 record .request ∧
        idempotency.stored.value=promotionDispatchIdentityV2 record .idempotency) .corruptRecord
    return some dispatch.stored
  | _,_,_ => .error .corruptRecord

/-- What a read of the resolution finds of one document. -/
inductive Look
  | same
  /-- Another write of the same revision. -/
  | competing
  | other
  deriving DecidableEq,Repr

/-- Look for one document of a write whose answer is lost. -/
def lookFor {Record : Type} [DecidableEq Record] (document : Document Record)
    (read : Stores functions → Except BodyEnd (Option (Document Record)))
    (observed : Option (Stores functions)) : Option Look :=
  match observed with
  | none => none
  | some stores =>
    match read stores with
    | .error _ => none
    | .ok none => some .other
    | .ok (some current) =>
      if current=document then some .same
      else if current.stored.revision=document.stored.revision then some .competing
      else some .other

/-- What the looks for all documents of a write say. -/
def resolveAmbiguous (looks : List (Option Look)) :
    Except StoreError TransactionCommitDisposition :=
  if none∈looks then .error .outcomeUnknown
  else if ∀ look∈looks,look=some .same then .ok .readbackResolved
  else if some .competing∈looks then .error .conflict
  else .error .outcomeUnknown

/-- What the end of the body of a transaction is reported as. -/
def BodyEnd.raised : BodyEnd → StoreError
  | .expectedStateMismatch => .conflict
  | .corruptRecord => .corruptRecord

/-- Run the body of a transaction at one instant and report its disposition. -/
def runTransaction (body : Stores functions → Except BodyEnd (Stores functions)) (commit : Commit)
    (looks : List (Option Look)) (stores : Stores functions) :
    Stores functions×Except StoreError TransactionCommitDisposition :=
  match commit with
  | .contention => (stores,.error .conflict)
  | .unconfirmed false => (stores,resolveAmbiguous looks)
  | .unconfirmed true =>
    match body stores with
    | .ok after => (after,resolveAmbiguous looks)
    | .error ended => (stores,.error ended.raised)
  | .confirmed =>
    match body stores with
    | .ok after => (after,.ok .directConfirmed)
    | .error ended => (stores,.error ended.raised)

/-- The documents of a new dispatch. -/
structure DispatchDocuments (functions : PromotionFunctions) where
  request : Document PromotionDispatchIdentityV2
  idempotency : Document PromotionDispatchIdentityV2
  dispatch : Document (PromotionDispatchRecordV2 functions)

/-- The identities of the writes of one operation, in order. -/
abbrev MutationIds := Nat → Identifier

def preparedDocument {Record : Type} (mutation_id : Identifier) (value : Record) (revision : Nat) :
    Except Raised (Document Record) := do
  let stored ← StoredRecord.make value revision
  return ⟨mutation_id,stored⟩

def preparedIdentity (mutation_id : Identifier) (record : PromotionDispatchRecordFields)
    (kind : PromotionDispatchIdentityKind) : Except Raised (Document PromotionDispatchIdentityV2) := do
  validateIdentity (promotionDispatchIdentityV2 record kind)
  preparedDocument mutation_id (promotionDispatchIdentityV2 record kind) 0

def preparedDispatch (mutation_id : Identifier) (record : PromotionDispatchRecordV2 functions)
    (revision : Nat) : Except Raised (Document (PromotionDispatchRecordV2 functions)) := do
  require (revision=expectedRevision record.state)
    (.valueError "V2 promotion state and storage revision do not match")
  preparedDocument mutation_id record revision

def preparedDispatchDocuments (command : PromotionCommandV2)
    (prepared : PromotionDispatchRecordV2 functions) (mutation_ids : MutationIds) :
    Except Raised (DispatchDocuments functions) := do
  require (RecordMatches functions target command prepared.fields)
    (.valueError "V2 promotion dispatch does not match its command")
  require (prepared.state=.prepared) (.valueError "V2 promotion preparation must be PREPARED")
  let request ← preparedIdentity (mutation_ids 0) prepared.fields .request
  let idempotency ← preparedIdentity (mutation_ids 1) prepared.fields .idempotency
  let dispatch ← preparedDispatch (mutation_ids 2) prepared 0
  return ⟨request,idempotency,dispatch⟩

/-- Write the documents of a new dispatch. -/
def Stores.putDispatchDocuments (stores : Stores functions)
    (documents : DispatchDocuments functions) : Stores functions where
  identities := fun kind value =>
    if kind=.request ∧ value=documents.dispatch.stored.value.request_id then some documents.request
    else if kind=.idempotency ∧ value=documents.dispatch.stored.value.idempotency_key
      then some documents.idempotency
    else stores.identities kind value
  dispatches := Function.update stores.dispatches documents.dispatch.stored.value.dispatch_id
    (some documents.dispatch)

/-- Create the documents of a dispatch where there are none. -/
def createDispatch (documents : DispatchDocuments functions) (stores : Stores functions) :
    Except BodyEnd (Stores functions) := do
  let record := documents.dispatch.stored.value
  let existing_request ← transactionReadIdentity .request record.request_id stores
  let existing_idempotency ← transactionReadIdentity .idempotency record.idempotency_key stores
  let existing_dispatch ← transactionReadDispatch record.dispatch_id stores
  require (existing_request=none ∧ existing_idempotency=none ∧ existing_dispatch=none)
    .expectedStateMismatch
  return stores.putDispatchDocuments documents

/-- The looks for the documents of a new dispatch. -/
def dispatchLooks (documents : DispatchDocuments functions) (resolved : Nat → Option (Stores functions)) :
    List (Option Look) :=
  let record := documents.dispatch.stored.value
  [lookFor documents.request (transactionReadIdentity .request record.request_id) (resolved 0),
    lookFor documents.idempotency (transactionReadIdentity .idempotency record.idempotency_key)
      (resolved 1),
    lookFor documents.dispatch (transactionReadDispatch record.dispatch_id) (resolved 2)]

/-- The dispatch that a preparation which lost the race finds. -/
def adoptPrepared (command : PromotionCommandV2) (reread : Option (Stores functions)) :
    Except StoreError (StoredDispatch functions) :=
  match reread with
  | none => .error .unavailable
  | some stores => do
    let adopted ← readPromotionDispatchV2 target command stores
    requireSome adopted .outcomeUnknown

/-- Reserve both identities and persist the exact task, or adopt what is there. -/
def prepareOrAdoptPromotionDispatchV2 (command : PromotionCommandV2)
    (prepared : PromotionDispatchRecordV2 functions) (mutation_ids : MutationIds)
    (report : ProviderReport functions) (stores : Stores functions) :
    Stores functions×Except StoreError (StoredDispatch functions) :=
  match preparedDispatchDocuments target command prepared mutation_ids with
  | .error raised => (stores,.error (.invalid raised))
  | .ok documents =>
    let (after,disposition) := runTransaction (createDispatch documents) report.commit
      (dispatchLooks documents report.resolved) stores
    (after,match disposition with
      | .ok _ => .ok documents.dispatch.stored
      | .error .conflict => adoptPrepared target command report.reread
      | .error raised => .error raised)

/-- A replacement that keeps every immutable field of a dispatch. -/
def SameDispatch (first second : PromotionDispatchRecordFields) : Prop :=
  second={first with
    state := second.state,
    enqueue_started_at := second.enqueue_started_at,
    terminal_at := second.terminal_at,
    result := second.result}

instance (first second : PromotionDispatchRecordFields) : Decidable (SameDispatch first second) :=
  inferInstanceAs (Decidable (second=_))

/-- Whether a replacement is the next step of a dispatch around its enqueue attempt. -/
def monotonicTransition (expected : StoredDispatch functions)
    (replacement : PromotionDispatchRecordV2 functions) : Bool :=
  match expected.value.state with
  | .prepared =>
    expected.revision==0 && replacement.state==.enqueueStarted &&
      replacement.enqueue_started_at.isSome && replacement.terminal_at.isNone &&
      replacement.result.isNone
  | .enqueueStarted =>
    expected.revision==1 && [.created,.duplicate,.ambiguous].contains replacement.state &&
      replacement.enqueue_started_at==expected.value.enqueue_started_at &&
      replacement.terminal_at.isSome && replacement.result.isSome
  | .created | .duplicate | .ambiguous => false

/-- Check a replacement of a dispatch. -/
def validatePromotionReplacementV2 (expected : StoredDispatch functions)
    (replacement : PromotionDispatchRecordV2 functions) : Except Raised Unit := do
  require (expected.value.target=target ∧ replacement.target=target)
    (.valueError "V2 promotion dispatch target does not match configuration")
  require (SameDispatch expected.value.fields replacement.fields)
    (.valueError "V2 promotion replacement changes an immutable binding")
  require (monotonicTransition expected replacement=true)
    (.valueError "V2 promotion replacement is not a monotonic transition")

/-- Prepare the document of the next step of a dispatch. -/
def preparedReplacement (expected : StoredDispatch functions)
    (replacement : PromotionDispatchRecordV2 functions) (mutation_ids : MutationIds) :
    Except Raised (Document (PromotionDispatchRecordV2 functions)) := do
  validatePromotionReplacementV2 target expected replacement
  preparedDispatch (mutation_ids 0) replacement (expected.revision+1)

/-- Write the document of a dispatch. -/
def Stores.putDispatch (stores : Stores functions)
    (document : Document (PromotionDispatchRecordV2 functions)) : Stores functions :=
  {stores with
    dispatches := Function.update stores.dispatches document.stored.value.dispatch_id
      (some document)}

/-- Replace the expected dispatch while both its identities are stored. -/
def updateDispatch (expected : StoredDispatch functions)
    (document : Document (PromotionDispatchRecordV2 functions)) (stores : Stores functions) :
    Except BodyEnd (Stores functions) := do
  let current := expected.value.fields
  let request ← transactionReadIdentity .request current.request_id stores
  let idempotency ← transactionReadIdentity .idempotency current.idempotency_key stores
  require (request.map (fun document => document.stored.value)=
        some (promotionDispatchIdentityV2 current .request) ∧
      idempotency.map (fun document => document.stored.value)=
        some (promotionDispatchIdentityV2 current .idempotency)) .corruptRecord
  let decoded ← transactionReadDispatch current.dispatch_id stores
  require (decoded.map Document.stored=some expected) .expectedStateMismatch
  return stores.putDispatch document

/-- Advance a dispatch through its monotonic states. -/
def compareAndSet (expected : StoredDispatch functions)
    (replacement : PromotionDispatchRecordV2 functions) (mutation_ids : MutationIds)
    (report : ProviderReport functions) (stores : Stores functions) :
    Stores functions×Except StoreError (StoredDispatch functions×TransactionCommitDisposition) :=
  match preparedReplacement target expected replacement mutation_ids with
  | .error raised => (stores,.error (.invalid raised))
  | .ok document =>
    let (after,disposition) := runTransaction (updateDispatch expected document) report.commit
      [lookFor document (transactionReadDispatch document.stored.value.dispatch_id)
        (report.resolved 0)] stores
    (after,disposition.map (fun disposition => (document.stored,disposition)))

/-- Commit a transition that does not start the enqueue attempt. -/
def compareAndSetPromotionDispatchV2 (expected : StoredDispatch functions)
    (replacement : PromotionDispatchRecordV2 functions) (mutation_ids : MutationIds)
    (report : ProviderReport functions) (stores : Stores functions) :
    Stores functions×Except StoreError (StoredDispatch functions) :=
  if replacement.state=.enqueueStarted then
    (stores,.error (.invalid
      (.valueError "V2 promotion enqueue starts require direct confirmation")))
  else
    let (after,result) := compareAndSet target expected replacement mutation_ids report stores
    (after,result.map Prod.fst)

/-- Permit to enqueue one task once. -/
structure PromotionEnqueuePermitV2 where
  dispatch_id : Identifier
  revision : Nat
  task_name : BoundedText
  task_sha256 : Sha256Digest
  deriving DecidableEq

/-- Mint a permit from a started dispatch. -/
def permitFromDirectStoreStart (started : StoredDispatch functions) :
    Except Raised PromotionEnqueuePermitV2 := do
  require (started.revision=1 ∧ started.value.state=.enqueueStarted ∧ started.value.result=none)
    (.valueError "V2 promotion enqueue permit requires one exact started task")
  return ⟨started.value.dispatch_id,started.revision,started.value.task_name,
    started.value.task_sha256⟩

/-- A started dispatch with its permit. -/
structure DirectPromotionEnqueueStartV2 (functions : PromotionFunctions) where
  dispatch : StoredDispatch functions
  permit : PromotionEnqueuePermitV2

/-- The start with its permit, when its commit was confirmed directly. -/
def directStart (written : StoredDispatch functions×TransactionCommitDisposition) :
    Except StoreError (DirectPromotionEnqueueStartV2 functions) := do
  require (written.2=.directConfirmed) .outcomeUnknown
  let permit ← (permitFromDirectStoreStart written.1).mapError .invalid
  return ⟨written.1,permit⟩

/-- Start the only enqueue attempt of a prepared dispatch. -/
def beginPromotionEnqueueV2 (expected : StoredDispatch functions)
    (replacement : PromotionDispatchRecordV2 functions) (mutation_ids : MutationIds)
    (report : ProviderReport functions) (stores : Stores functions) :
    Stores functions×Except StoreError (DirectPromotionEnqueueStartV2 functions) :=
  if replacement.state=.enqueueStarted then
    let (after,result) := compareAndSet target expected replacement mutation_ids report stores
    (after,result>>=directStart)
  else
    (stores,.error (.invalid
      (.valueError "V2 promotion enqueue start requires ENQUEUE_STARTED")))

end ControlGraph.PromotionDispatchStore
