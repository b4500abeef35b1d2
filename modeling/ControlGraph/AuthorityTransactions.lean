import ControlGraph.ReceiptContracts
import ControlGraph.StorageIdentity
import ControlGraph.VersionedTables
import ControlGraph.WaitingPrograms

/-!
# Transactions of the authority store and their verdicts

A transaction commits all of its prepared documents at one instant or none of
them. It creates a document where there is none and replaces one only over the
exact record that it expects, at a later revision. When the answer of a
commit is lost or late, the documents are read back one at a time while the
commit and those of other writers may still land. A transaction that is
reported as done has committed. One that met another document at the revision
of its own has not committed and never does.
-/

namespace ControlGraph.AuthorityTransactions

open Checks ContractText LabelledRuns StorageIdentity ReceiptContracts VersionedTables
  WaitingPrograms

/-- Canonical payload wrapper of one stored document. -/
structure AuthorityStorageDocument where
  record_kind : AuthorityStorageKind
  logical_id : Identifier
  revision : Nat
  /-- Identity of the write that produced the document. -/
  mutation_id : Identifier
  canonical_payload : String
  payload_sha256 : Sha256Digest
  deriving DecidableEq,Repr

/-- What the store uses of the contract models. -/
structure Contracts (Value ModelType : Type) where
  canonical_json : Value → String
  canonical_sha256 : Value → Sha256Digest
  type : Value → ModelType
  /-- Value of a canonical text under a model. -/
  decode_contract : ModelType → String → Except Raised Value
  validate_payload : AuthorityStorageDocument → Except Raised Unit
  decode_canonical : ∀ value,decode_contract (type value) (canonical_json value)=.ok value

/-- A document that is about to be written. -/
structure PreparedDocument (Value : Type) where
  wrapper : AuthorityStorageDocument
  value : Value
  document_id : Sha256Digest
  deriving DecidableEq

/-- A document that was read, with its record. -/
structure DecodedDocument (Value : Type) where
  wrapper : AuthorityStorageDocument
  value : Value
  deriving DecidableEq

abbrev Path := AuthorityStorageKind×Sha256Digest

abbrev Documents := Path → Option AuthorityStorageDocument

def PreparedDocument.path {Value : Type} (document : PreparedDocument Value) : Path :=
  (document.wrapper.record_kind,document.document_id)

/-- Whether a read document is one exact stored record. -/
def DecodedDocument.isStored {Value : Type} [DecidableEq Value] (decoded : DecodedDocument Value)
    (expected : StoredRecord Value) : Bool :=
  decide (decoded.value=expected.value ∧ decoded.wrapper.revision=expected.revision)

section

variable {Value ModelType : Type} (contracts : Contracts Value ModelType)

/-- Prepare one document under a new mutation id. -/
def preparedDocument (kind : AuthorityStorageKind) (logical_id : Identifier)
    (document_id : Sha256Digest) (revision : Nat) (value : Value) (mutation_id : Identifier) :
    Except Raised (PreparedDocument Value) := do
  let wrapper : AuthorityStorageDocument :=
    {record_kind := kind,logical_id := logical_id,revision := revision,mutation_id := mutation_id,
      canonical_payload := contracts.canonical_json value,
      payload_sha256 := contracts.canonical_sha256 value}
  contracts.validate_payload wrapper
  return ⟨wrapper,value,document_id⟩

/-- Whether a read document is the prepared one. -/
def samePrepared [DecidableEq Value] (decoded : DecodedDocument Value)
    (expected : PreparedDocument Value) : Bool :=
  decide (decoded.wrapper=expected.wrapper ∧ decoded.value=expected.value)

/-- Decode what is stored at one path. -/
def decodeSnapshot (stored : Option AuthorityStorageDocument) (kind : AuthorityStorageKind)
    (logical_id : Identifier) (model_type : ModelType) :
    Except Raised (Option (DecodedDocument Value)) :=
  match stored with
  | none => .ok none
  | some wrapper => do
    contracts.validate_payload wrapper
    require (wrapper.record_kind=kind ∧ wrapper.logical_id=logical_id)
      (.valueError "storage wrapper identity does not match")
    let value ← contracts.decode_contract model_type wrapper.canonical_payload
    require (contracts.canonical_sha256 value=wrapper.payload_sha256)
      (.valueError "storage payload digest does not match")
    return some ⟨wrapper,value⟩

/-- Read the place of a prepared document. -/
def readPlace (documents : Documents) (expected : PreparedDocument Value) :
    Except Raised (Option (DecodedDocument Value)) :=
  decodeSnapshot contracts (documents expected.path) expected.wrapper.record_kind
    expected.wrapper.logical_id (contracts.type expected.value)

end

/-- One write of a transaction: a create, or an update of one exact stored record. -/
structure Write (Value : Type) where
  document : PreparedDocument Value
  /-- The record that it replaces, if it replaces one. -/
  expected : Option (StoredRecord Value)
  /-- An update takes a later revision: the next one, or for the head of an evidence
  chain the sequence of its last event. -/
  later_revision : ∀ stored,expected=some stored → stored.revision < document.wrapper.revision
  deriving DecidableEq

/-- A transaction over a set of prepared documents. -/
structure Transaction (Value : Type) where
  writes : List (Write Value)
  /-- There is something to commit. -/
  nonempty : writes≠[]
  /-- No path is written twice. -/
  distinct : (writes.map (fun write => write.document.path)).Nodup
  deriving DecidableEq

def Transaction.documents {Value : Type} (transaction : Transaction Value) :
    List (PreparedDocument Value) := transaction.writes.map Write.document

/-- What a transaction writes at each path. -/
def Transaction.batch {Value : Type} (transaction : Transaction Value) : Documents :=
  fun path => (transaction.documents.find? (fun document => document.path=path)).map
    PreparedDocument.wrapper

/-- How a transaction that did not fail was known to be committed. -/
inductive TransactionCommitDisposition
  | directConfirmed | readbackResolved
  deriving DecidableEq,Repr

/-- Where a conflict was raised. -/
inductive ConflictCause
  /-- The body of the transaction read other records than it expected. -/
  | expectedStateMismatch
  | contention
  /-- The readback met another document at the revision of a prepared one. -/
  | competingRevision
  deriving DecidableEq,Repr

/-- Ends of a transaction that is not known to be committed. -/
inductive Failure
  | conflict (cause : ConflictCause)
  /-- Whether the transaction was committed is not known. -/
  | outcomeUnknown
  /-- A document does not carry its own identity. -/
  | corruptRecord
  /-- The time of an operation is over. -/
  | timeout
  deriving DecidableEq,Repr

/-- What the transaction runner reports. -/
inductive RunnerReport
  | returned
  | corruptRecord
  | expectedStateMismatch
  | contention
  /-- Any other error. -/
  | failed
  /-- Nothing until the time of the operation is over. -/
  | timeout
  deriving DecidableEq,Repr

/-- What one read of a readback reports. -/
inductive ReadReport (Value : Type)
  | found (current : Option (DecodedDocument Value))
  | failed
  /-- Nothing until the time of the operation is over. -/
  | timeout

/-- Operations that a transaction waits for. -/
inductive Operation (Value : Type)
  /-- Run the body in a transaction and commit it. -/
  | runner (transaction : Transaction Value)
  | strongRead (expected : PreparedDocument Value)

@[reducible] def Operation.Result {Value : Type} : Operation Value → Type
  | .runner _ => RunnerReport
  | .strongRead _ => ReadReport Value

abbrev StoreProgram (Value Answer : Type) :=
  Program (Operation Value) Operation.Result Unit Failure Answer

section

variable {Value : Type} [DecidableEq Value]

/-- Read the places of prepared documents one after the other. The documents that are
the prepared ones are kept, and a different one of the same revision is noted. -/
def readDocuments : List (PreparedDocument Value) → List (DecodedDocument Value) → Bool →
    StoreProgram Value (List (DecodedDocument Value)×Bool)
  | [],resolved,competing_revision => pure (resolved,competing_revision)
  | expected::documents,resolved,competing_revision => do
    match ← Program.call (Operation.strongRead expected) with
    | .timeout => .raised .timeout
    | .failed => .raised .outcomeUnknown
    | .found none => readDocuments documents resolved competing_revision
    | .found (some current) =>
      if samePrepared current expected then
        readDocuments documents (resolved++[current]) competing_revision
      else if current.wrapper.revision=expected.wrapper.revision then
        readDocuments documents resolved true
      else readDocuments documents resolved competing_revision

/-- Look whether the documents of a transaction whose outcome is open are stored. -/
def resolveAmbiguous (documents : List (PreparedDocument Value)) :
    StoreProgram Value (List (DecodedDocument Value)) := do
  let (resolved,competing_revision) ← readDocuments documents [] false
  if resolved.length=documents.length then pure resolved
  else if competing_revision=true then .raised (.conflict .competingRevision)
  else .raised .outcomeUnknown

/-- Look at a transaction whose time is over. -/
def classify (documents : List (PreparedDocument Value)) :
    StoreProgram Value TransactionCommitDisposition := do
  match ← (resolveAmbiguous documents).attempt with
  | .ok _ => pure .readbackResolved
  | .error .timeout => .raised .outcomeUnknown
  | .error failure => .raised failure

/-- Run a transaction and say how it ended. -/
def runTransaction (transaction : Transaction Value) :
    StoreProgram Value TransactionCommitDisposition := do
  match ← Program.call (Operation.runner transaction) with
  | .returned => pure .directConfirmed
  | .corruptRecord => .raised .corruptRecord
  | .expectedStateMismatch => .raised (.conflict .expectedStateMismatch)
  | .contention => .raised (.conflict .contention)
  | .timeout => classify transaction.documents
  | .failed =>
    match ← (resolveAmbiguous transaction.documents).attempt with
    | .ok _ => pure .readbackResolved
    | .error .timeout => classify transaction.documents
    | .error failure => .raised failure

end

/-- What the transactions share. -/
structure World (Value : Type) where
  documents : Documents
  committed : List (Transaction Value)

/-- What the provider reports of one operation. -/
structure Answers where
  report : RunnerReport
  /-- Failure of a read: an error, or its time is over. -/
  failure : Option Bool

/-- A commit that lands. -/
inductive Change (Value : Type)
  | land (transaction : Transaction Value)

section

variable {Value ModelType : Type} [DecidableEq Value] (contracts : Contracts Value ModelType)

/-- Whether a write may be applied to the stored documents. -/
def Write.admitted (documents : Documents) (write : Write Value) : Bool :=
  match write.expected with
  | none => (documents write.document.path).isNone
  | some expected =>
    match readPlace contracts documents write.document with
    | .ok (some current) => current.isStored expected
    | _ => false

/-- A commit lands when every one of its writes may be applied, and then applies all.
A body that checks more records than it writes only lands at fewer instants. -/
def World.land (world : World Value) (transaction : Transaction Value) : World Value :=
  if transaction.writes.all (fun write => write.admitted contracts world.documents)=true then
    ⟨write world.documents transaction.batch,world.committed++[transaction]⟩
  else world

/-- Result of an operation. The runner returns only after its commit has landed. -/
def perform (answers : Answers) (world : World Value) :
    (op : Operation Value) → World Value×op.Result
  | .runner transaction =>
    (world,if answers.report=.returned ∧ transaction∉world.committed then .failed
      else answers.report)
  | .strongRead expected =>
    (world,match answers.failure with
      | some true => .timeout
      | some false => .failed
      | none =>
        match readPlace contracts world.documents expected with
        | .ok current => .found current
        | .error _ => .failed)

/-- Effect of the surroundings. -/
def disturb (change : Change Value) (world : World Value) : World Value :=
  match change with
  | .land transaction => world.land contracts transaction

/-- Transactions over one store. -/
def system : System (Operation Value) Operation.Result Unit Failure TransactionCommitDisposition
    (Transaction Value) (World Value) Answers (Change Value) where
  launch := runTransaction
  perform := perform contracts
  disturb := disturb contracts

end

/-- States of the transactions. -/
abbrev Executions (Value : Type) := State (Operation Value) Operation.Result Unit Failure
  TransactionCommitDisposition (Transaction Value) (World Value)

/-- Steps of the transactions and of the commits. -/
abbrev Steps (Value : Type) := List (Action Unit (Transaction Value) Answers (Change Value))

/-- State after some steps over documents that are there at first. -/
def after {Value ModelType : Type} [DecidableEq Value] (contracts : Contracts Value ModelType)
    (documents : Documents) (steps : Steps Value) : Executions Value :=
  run (system contracts).step (State.initial ⟨documents,[]⟩) steps

section

variable {Value ModelType : Type} {contracts : Contracts Value ModelType}

/-- A document that was decoded is the stored one, with the value of its text. -/
theorem decodeSnapshot_eq_some {stored : Option AuthorityStorageDocument}
    {kind : AuthorityStorageKind} {logical_id : Identifier} {model_type : ModelType}
    {decoded : DecodedDocument Value}
    (h : decodeSnapshot contracts stored kind logical_id model_type=.ok (some decoded)) :
    stored=some decoded.wrapper ∧
      contracts.decode_contract model_type decoded.wrapper.canonical_payload=.ok decoded.value := by
  cases stored with
  | none => cases h
  | some wrapper =>
    rw [decodeSnapshot,check_bind_eq_ok,check_bind_eq_ok,bind_eq_ok] at h
    obtain ⟨-,-,value,hvalue,h⟩ := h
    rw [check_bind_eq_ok] at h
    rw [← Option.some.inj (Except.ok.inj h.2)]
    exact ⟨rfl,hvalue⟩

/-- What is read at the place of a prepared document is stored there. -/
theorem readPlace_eq_some {documents : Documents} {expected : PreparedDocument Value}
    {current : DecodedDocument Value} (h : readPlace contracts documents expected=.ok (some current)) :
    documents expected.path=some current.wrapper :=
  (decodeSnapshot_eq_some h).1

theorem samePrepared_of_wrapper [DecidableEq Value] {expected : PreparedDocument Value}
    {current : DecodedDocument Value}
    (hcanonical : expected.wrapper.canonical_payload=contracts.canonical_json expected.value)
    (hvalue : contracts.decode_contract (contracts.type expected.value)
      current.wrapper.canonical_payload=.ok current.value)
    (hwrapper : current.wrapper=expected.wrapper) : samePrepared current expected=true := by
  rw [hwrapper,hcanonical,contracts.decode_canonical] at hvalue
  exact decide_eq_true ⟨hwrapper,(Except.ok.inj hvalue).symm⟩

theorem preparedDocument_canonical {kind : AuthorityStorageKind} {logical_id mutation_id : Identifier}
    {document_id : Sha256Digest} {revision : Nat} {value : Value} {document : PreparedDocument Value}
    (h : preparedDocument contracts kind logical_id document_id revision value mutation_id=
      .ok document) :
    document.wrapper.canonical_payload=contracts.canonical_json document.value := by
  rw [preparedDocument,check_bind_eq_ok] at h
  rw [← Except.ok.inj h.2]

/-- A transaction writes only its prepared documents. -/
theorem batch_eq_some {transaction : Transaction Value} {path : Path}
    {wrapper : AuthorityStorageDocument} (h : transaction.batch path=some wrapper) :
    ∃ document∈transaction.documents,document.path=path ∧ document.wrapper=wrapper := by
  rw [Transaction.batch,Option.map_eq_some_iff] at h
  obtain ⟨document,hfind,hwrapper⟩ := h
  refine ⟨document,List.mem_of_find?_eq_some hfind,?_,hwrapper⟩
  have hpath := List.find?_some hfind
  exact of_decide_eq_true hpath

/-- A transaction writes each of its prepared documents. -/
theorem batch_of_mem {transaction : Transaction Value} {document : PreparedDocument Value}
    (h : document∈transaction.documents) :
    transaction.batch document.path=some document.wrapper := by
  have hnodup : (transaction.documents.map PreparedDocument.path).Nodup := by
    rw [Transaction.documents,List.map_map]
    exact transaction.distinct
  rw [Transaction.batch]
  cases hfind : transaction.documents.find? (fun other => other.path=document.path) with
  | none =>
    rw [List.find?_eq_none] at hfind
    exact absurd (decide_eq_true rfl) (hfind document h)
  | some other =>
    have hpath : other.path=document.path := by simpa using List.find?_some hfind
    have hsame : other=document :=
      List.inj_on_of_nodup_map hnodup (List.mem_of_find?_eq_some hfind) h hpath
    rw [hsame]
    rfl

/-- What the committed transactions wrote, batch by batch. -/
def batches (committed : List (Transaction Value)) : List Documents :=
  committed.map Transaction.batch

theorem held_of_committed {documents : Documents} {committed : List (Transaction Value)}
    {transaction : Transaction Value} {document : PreparedDocument Value}
    (hcommitted : transaction∈committed) (hdocument : document∈transaction.documents) :
    Held documents (batches committed) document.path document.wrapper :=
  .inr ⟨transaction.batch,List.mem_map_of_mem hcommitted,batch_of_mem hdocument⟩

/-- A held document was there at first or is one of a committed transaction. -/
theorem origin_of_held {documents : Documents} {committed : List (Transaction Value)} {path : Path}
    {wrapper : AuthorityStorageDocument} (h : Held documents (batches committed) path wrapper) :
    documents path=some wrapper ∨ ∃ transaction∈committed,
      ∃ document∈transaction.documents,document.wrapper=wrapper := by
  rcases h with hfirst | ⟨batch,hmem,hbatch⟩
  · exact .inl hfirst
  · obtain ⟨transaction,hcommitted,rfl⟩ := List.mem_map.mp hmem
    obtain ⟨document,hdocument,-,hwrapper⟩ := batch_eq_some hbatch
    exact .inr ⟨transaction,hcommitted,document,hdocument,hwrapper⟩

/-- Committed transactions form a succession from the first documents to the stored ones. -/
structure Lineage (documents : Documents) (world : World Value) : Prop where
  /-- The stored documents are what the commits made of the first ones. -/
  stored : world.documents=run VersionedTables.write documents (batches world.committed)
  /-- Every commit succeeded what it met. -/
  succession : Succession AuthorityStorageDocument.revision documents (batches world.committed)

theorem held_of_stored {documents : Documents} {world : World Value} {path : Path}
    {wrapper : AuthorityStorageDocument} (h : Lineage documents world)
    (hstored : world.documents path=some wrapper) :
    Held documents (batches world.committed) path wrapper := by
  rw [h.stored] at hstored
  exact held_current hstored

variable [DecidableEq Value]

/-- An admitted write succeeds what is stored at its path. -/
theorem succeeds_of_admitted {documents : Documents} {write : Write Value}
    (h : write.admitted contracts documents=true) :
    Succeeds AuthorityStorageDocument.revision (documents write.document.path)
      write.document.wrapper := by
  intro found hfound
  unfold Write.admitted at h
  cases hexpected : write.expected with
  | none =>
    rw [hexpected] at h
    simp only [hfound,Option.isNone_some,Bool.false_eq_true] at h
  | some expected =>
    rw [hexpected] at h
    have hlater : expected.revision < write.document.wrapper.revision :=
      write.later_revision expected hexpected
    cases hread : readPlace contracts documents write.document with
    | error raised => simp only [hread,Bool.false_eq_true] at h
    | ok current =>
      cases current with
      | none => simp only [hread,Bool.false_eq_true] at h
      | some current =>
        simp only [hread] at h
        have hstored : current.value=expected.value ∧ current.wrapper.revision=expected.revision :=
          of_decide_eq_true h
        have hsame : found=current.wrapper :=
          Option.some.inj (hfound.symm.trans (readPlace_eq_some hread))
        rw [hsame,hstored.2]
        exact hlater

theorem lineage_land {documents : Documents} {world : World Value} {transaction : Transaction Value}
    (h : Lineage documents world) : Lineage documents (world.land contracts transaction) := by
  unfold World.land
  by_cases hadmitted : transaction.writes.all
      (fun write => write.admitted contracts world.documents)=true
  · rw [if_pos hadmitted]
    refine ⟨?_,?_⟩
    · rw [batches,List.map_append,List.map_singleton,run_concat,← batches,← h.stored]
    · rw [batches,List.map_append,List.map_singleton,succession_concat]
      refine ⟨h.succession,?_⟩
      intro path next hbatch
      obtain ⟨document,hdocument,hpath,hwrapper⟩ := batch_eq_some hbatch
      obtain ⟨write,hwrite,rfl⟩ := List.mem_map.mp hdocument
      rw [← batches,← h.stored,← hpath,← hwrapper]
      exact succeeds_of_admitted (List.all_eq_true.mp hadmitted write hwrite)
  · rw [if_neg hadmitted]
    exact h

theorem committed_land (world : World Value) (transaction : Transaction Value) :
    (world.land contracts transaction).committed=world.committed ∨
      (world.land contracts transaction).committed=world.committed++[transaction] := by
  unfold World.land
  split
  · exact .inr rfl
  · exact .inl rfl

end

end ControlGraph.AuthorityTransactions
