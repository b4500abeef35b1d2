import ControlGraph.ReceiptReplacement
import ControlGraph.CanonicalCodec
import Mathlib.Logic.Function.Basic

/-!
# The receipt operations of the authority store

The database keeps receipts, authorities and service claims under their
document ids. A transaction reads and writes it at one instant. The provider
may confirm a commit, report contention, or lose the answer of a commit that
was or was not applied. A claim creates its document only where there is none, and
a replacement is written only over the record that its caller expected. A
dispatch proof is issued only for a create whose commit was confirmed.
-/

namespace ControlGraph.ReceiptStore

open Checks ContractText JsonValues JsonText Utf8Text StorageIdentity ReceiptContracts
  ReceiptReplacement

/-- Failures of a store operation. -/
inductive StoreError
  /-- Another writer was first, or the expected state is gone. -/
  | conflict
  /-- Whether the commit was applied is not known. -/
  | outcomeUnknown
  | unavailable
  /-- A document does not carry its own identity. -/
  | corruptRecord
  /-- A record was refused before it was sent. -/
  | invalid (raised : Raised)
  deriving DecidableEq,Repr

/-- A stored document. -/
structure Document (Record : Type) where
  /-- Identity of the write that produced the document. -/
  mutation_id : Identifier
  logical_id : String
  stored : StoredRecord Record
  deriving DecidableEq

/-- The documents of the authority database that a receipt operation reads. -/
structure Database where
  receipts : Sha256Digest → Option (Document ExecutionReceipt)
  authorities : Sha256Digest → Option (Document EpochAuthorityRecord)
  service_claims : Sha256Digest → Option (Document ServiceClaimRecord)

/-- Read the document of one logical id. -/
def transactionRead {Record : Type} (documents : Sha256Digest → Option (Document Record))
    (document_id : Sha256Digest) (logical_id : String) :
    Except StoreError (Option (Document Record)) :=
  match documents document_id with
  | none => .ok none
  | some document =>
    if document.logical_id=logical_id then .ok (some document) else .error .corruptRecord

/-- Domain of the identity of a configured service. -/
def targetBindingDomain : Bytes :=
  CanonicalCodec.digestDomain++asciiBytes "controlgraph.target-binding/v1"++[0]

def isServiceClaimTarget (target : TargetBinding) : Bool :=
  let project := target.project_id.1.toList
  let suffix := project.drop "controlgraph-canary-".length
  "controlgraph-canary-".toList.isPrefixOf project && 6 ≤ suffix.length && suffix.length ≤ 10 &&
    suffix.all (fun character => isLower character || isDecimal character) &&
    !project.tails.any "reconcile".toList.isPrefixOf && target.region.1=="us-central1" &&
    target.environment.1=="nonprod" && target.service_name.1=="controlgraph-reference-target"

def serviceClaimLogicalId (sha256 : Bytes → Sha256Digest) (target : TargetBinding) :
    Except Raised Sha256Digest := do
  require (isServiceClaimTarget target=true)
    (.valueError "service claim target is outside the ControlGraph boundary")
  return sha256 (targetBindingDomain++utf8Bytes (dumpsSorted (.obj
    [(chars "environment",.str (chars target.environment.1)),
      (chars "project_id",.str (chars target.project_id.1)),
      (chars "region",.str (chars target.region.1)),
      (chars "schema_version",.str (chars "controlgraph.target-binding/v1")),
      (chars "service_name",.str (chars target.service_name.1))])))

def serviceClaimDocumentId (sha256 : Bytes → Sha256Digest) (target : TargetBinding) :
    Except Raised Sha256Digest := do
  let logical_id ← serviceClaimLogicalId sha256 target
  documentId sha256 .serviceClaim logical_id.1

/-- A receipt document that is about to be written. -/
structure PreparedReceipt where
  document_id : Sha256Digest
  document : Document ExecutionReceipt
  deriving DecidableEq

def preparedReceipt (sha256 : Bytes → Sha256Digest) (target : TargetBinding)
    (receipt : ExecutionReceipt) (revision : Nat) (mutation_id : Identifier) :
    Except Raised PreparedReceipt := do
  let document_id ← executionReceiptDocumentId sha256 target receipt.idempotency_key
  let stored ← StoredRecord.make receipt revision
  return ⟨document_id,mutation_id,
    (executionReceiptLogicalId sha256 target receipt.idempotency_key).1,stored⟩

/-- Write a prepared receipt. -/
def Database.putReceipt (database : Database) (prepared : PreparedReceipt) : Database :=
  {database with
    receipts := Function.update database.receipts prepared.document_id (some prepared.document)}

/-- What the provider does with a commit and answers. -/
inductive Commit
  | confirmed
  | contention
  | unconfirmed (applied : Bool)
  deriving DecidableEq,Repr

/-- How a transaction that did not fail was known to be committed. -/
inductive TransactionCommitDisposition
  | directConfirmed | readbackResolved
  deriving DecidableEq,Repr

/-- What one operation sees of the provider. A later read sees the database of
its own instant, and sees none when it fails. -/
structure ProviderReport where
  commit : Commit
  /-- Database seen by the read that resolves a lost answer. -/
  resolved : Option Database
  /-- Database seen by the read that follows a conflict. -/
  reread : Option Database

/-- Look whether a document whose commit was not confirmed is the stored one. -/
def resolveAmbiguous (prepared : PreparedReceipt) (observed : Option Database) :
    Except StoreError TransactionCommitDisposition :=
  match observed with
  | none => .error .outcomeUnknown
  | some database =>
    match transactionRead database.receipts prepared.document_id prepared.document.logical_id with
    | .error _ => .error .outcomeUnknown
    | .ok none => .error .outcomeUnknown
    | .ok (some current) =>
      if current=prepared.document then .ok .readbackResolved
      else if current.stored.revision=prepared.document.stored.revision then .error .conflict
      else .error .outcomeUnknown

/-- Run the body of a transaction at one instant and report its disposition. -/
def runTransaction (prepared : PreparedReceipt) (body : Database → Except StoreError Database)
    (report : ProviderReport) (database : Database) :
    Database×Except StoreError TransactionCommitDisposition :=
  match body database with
  | .error (.invalid _) => (database,resolveAmbiguous prepared report.resolved)
  | .error raised => (database,.error raised)
  | .ok after =>
    match report.commit with
    | .confirmed => (after,.ok .directConfirmed)
    | .contention => (database,.error .conflict)
    | .unconfirmed applied =>
      (if applied then after else database,resolveAmbiguous prepared report.resolved)

def validateInitialReceiptClaim (sha256 : Bytes → Sha256Digest)
    (claimed : StoredRecord ExecutionReceipt) : Except Raised Unit :=
  require (claimed.revision=0 ∧ claimed.value.outcome=.claimed ∧ claimed.value.receipt_id.1=
      (executionReceiptLogicalId sha256 claimed.value.target claimed.value.idempotency_key).1)
    (.valueError "receipt is not one initial claim")

/-- Require a claim of exactly one mutation binding. -/
def validateReceiptClaimBinding (sha256 : Bytes → Sha256Digest) (receipt : ExecutionReceipt)
    (binding : MutationBinding) : Except Raised Unit := do
  let claimed ← StoredRecord.make receipt 0
  validateInitialReceiptClaim sha256 claimed
  require (receiptMatchesBinding sha256 receipt binding)
    (.valueError "receipt claim does not match its mutation binding")

/-- Proof of an uninterrupted, directly confirmed receipt create. -/
structure DirectReceiptCreate where
  claimed_receipt : StoredRecord ExecutionReceipt
  binding : MutationBinding
  deriving DecidableEq

/-- Issue the proof of a create that the store confirmed directly. -/
def DirectReceiptCreate.fromDirectStoreCreate (sha256 : Bytes → Sha256Digest)
    (claimed_receipt : StoredRecord ExecutionReceipt) (binding : MutationBinding) :
    Except Raised DirectReceiptCreate := do
  validateInitialReceiptClaim sha256 claimed_receipt
  require (receiptMatchesBinding sha256 claimed_receipt.value binding)
    (.valueError "direct receipt create does not match its mutation binding")
  return ⟨claimed_receipt,binding⟩

/-- Results of a claim. -/
inductive ReceiptClaimResult
  /-- A fresh claim with its dispatch proof. -/
  | created (receipt : StoredRecord ExecutionReceipt) (direct_create : DirectReceiptCreate)
  /-- An existing receipt without a dispatch proof. -/
  | adopted (receipt : StoredRecord ExecutionReceipt)
  /-- The key belongs to different work. -/
  | conflict
  deriving DecidableEq

/-- Read the receipt of one idempotency key of the configured target. -/
def Database.readReceipt (sha256 : Bytes → Sha256Digest) (database : Database)
    (target : TargetBinding) (idempotency_key : Identifier) :
    Except StoreError (Option (StoredRecord ExecutionReceipt)) := do
  let document_id ← (executionReceiptDocumentId sha256 target idempotency_key).mapError .invalid
  let decoded ← transactionRead database.receipts document_id
    (executionReceiptLogicalId sha256 target idempotency_key).1
  match decoded with
  | none => return none
  | some document =>
    match validateReceiptIdentity sha256 target document.stored.value with
    | .ok _ => return some document.stored
    | .error _ => .error .corruptRecord

/-- Create a receipt document where there is none. -/
def createReceipt (prepared : PreparedReceipt) (database : Database) : Except StoreError Database :=
  match database.receipts prepared.document_id with
  | none => .ok (database.putReceipt prepared)
  | some _ => .error .conflict

/-- Checks and document of a claim. -/
def prepareClaim (sha256 : Bytes → Sha256Digest) (target : TargetBinding)
    (receipt : ExecutionReceipt) (binding : MutationBinding) (mutation_id : Identifier) :
    Except Raised PreparedReceipt := do
  validateReceiptClaimBinding sha256 receipt binding
  let _ ← validateReceiptIdentity sha256 target receipt
  preparedReceipt sha256 target receipt 0 mutation_id

/-- The receipt that a losing claim finds. -/
def adoptExisting (sha256 : Bytes → Sha256Digest) (target : TargetBinding)
    (receipt : ExecutionReceipt) (reread : Option Database) :
    Except StoreError ReceiptClaimResult :=
  match reread with
  | none => .error .unavailable
  | some database => do
    match ← database.readReceipt sha256 target receipt.idempotency_key with
    | none => .error .outcomeUnknown
    | some existing =>
      if receiptSemanticBinding existing.value=receiptSemanticBinding receipt then
        return .adopted existing
      else return .conflict

/-- Result of a claim from the disposition of its transaction. -/
def claimResult (sha256 : Bytes → Sha256Digest) (target : TargetBinding)
    (receipt : ExecutionReceipt) (binding : MutationBinding) (claimed : StoredRecord ExecutionReceipt)
    (reread : Option Database) (disposition : Except StoreError TransactionCommitDisposition) :
    Except StoreError ReceiptClaimResult :=
  match disposition with
  | .error .conflict => adoptExisting sha256 target receipt reread
  | .error raised => .error raised
  | .ok .directConfirmed => do
    let direct_create ← (DirectReceiptCreate.fromDirectStoreCreate sha256 claimed binding).mapError
      .invalid
    return .created claimed direct_create
  | .ok .readbackResolved => .ok (.adopted claimed)

/-- Claim an idempotency key or adopt the receipt that owns it. -/
def claimOrAdoptReceipt (sha256 : Bytes → Sha256Digest) (target : TargetBinding)
    (receipt : ExecutionReceipt) (binding : MutationBinding) (mutation_id : Identifier)
    (report : ProviderReport) (database : Database) :
    Database×Except StoreError ReceiptClaimResult :=
  match prepareClaim sha256 target receipt binding mutation_id with
  | .error raised => (database,.error (.invalid raised))
  | .ok prepared =>
    let (after,disposition) := runTransaction prepared (createReceipt prepared) report database
    (after,claimResult sha256 target receipt binding prepared.document.stored report.reread
      disposition)

/-- Replace the expected receipt. -/
def updateReceipt (prepared : PreparedReceipt) (expected : StoredRecord ExecutionReceipt)
    (database : Database) : Except StoreError Database := do
  let current ← transactionRead database.receipts prepared.document_id prepared.document.logical_id
  require (current.map Document.stored=some expected) .conflict
  return database.putReceipt prepared

/-- Checks and document of a replacement. -/
def prepareReplacement (sha256 : Bytes → Sha256Digest) (target : TargetBinding)
    (expected : StoredRecord ExecutionReceipt) (replacement : ExecutionReceipt)
    (mutation_id : Identifier) : Except Raised PreparedReceipt := do
  validateReceiptReplacement sha256 target expected replacement
  rejectGenericReadbackResolutionMarker replacement
  preparedReceipt sha256 target replacement (expected.revision+1) mutation_id

/-- Write a prepared replacement in a transaction and return its record. -/
def writeReplacement (prepared : Except Raised PreparedReceipt)
    (body : PreparedReceipt → Database → Except StoreError Database) (report : ProviderReport)
    (database : Database) : Database×Except StoreError (StoredRecord ExecutionReceipt) :=
  match prepared with
  | .error raised => (database,.error (.invalid raised))
  | .ok prepared =>
    let (after,disposition) := runTransaction prepared (body prepared) report database
    (after,disposition.map (fun _ => prepared.document.stored))

/-- Replace a receipt only while it is the expected one. -/
def compareAndSetReceipt (sha256 : Bytes → Sha256Digest) (target : TargetBinding)
    (expected : StoredRecord ExecutionReceipt) (replacement : ExecutionReceipt)
    (mutation_id : Identifier) (report : ProviderReport) (database : Database) :
    Database×Except StoreError (StoredRecord ExecutionReceipt) :=
  writeReplacement (prepareReplacement sha256 target expected replacement mutation_id)
    (fun prepared => updateReceipt prepared expected) report database

/-- Checks and document of a resolution. -/
def prepareResolution (sha256 : Bytes → Sha256Digest) (target : TargetBinding)
    (expected : StoredRecord ExecutionReceipt) (replacement : ExecutionReceipt)
    (expected_authority : StoredRecord EpochAuthorityRecord)
    (expected_service_claim : StoredRecord ServiceClaimRecord) (mutation_id : Identifier) :
    Except Raised PreparedReceipt := do
  validateAmbiguousReceiptResolution sha256 target expected replacement expected_authority
    expected_service_claim
  preparedReceipt sha256 target replacement (expected.revision+1) mutation_id

/-- Replace the expected receipt while the expected authority and claim are stored. -/
def updateResolvedReceipt (sha256 : Bytes → Sha256Digest) (target : TargetBinding)
    (prepared : PreparedReceipt) (expected : StoredRecord ExecutionReceipt)
    (expected_authority : StoredRecord EpochAuthorityRecord)
    (expected_service_claim : StoredRecord ServiceClaimRecord) (database : Database) :
    Except StoreError Database := do
  let root_id := expected.value.root_id
  let authority_document_id ← (epochAuthorityDocumentId sha256 root_id).mapError .invalid
  let claim_logical_id ← (serviceClaimLogicalId sha256 target).mapError .invalid
  let claim_document_id ← (serviceClaimDocumentId sha256 target).mapError .invalid
  let current_receipt ← transactionRead database.receipts prepared.document_id
    prepared.document.logical_id
  let current_authority ← transactionRead database.authorities authority_document_id root_id.1
  let current_claim ← transactionRead database.service_claims claim_document_id claim_logical_id.1
  require (current_receipt.map Document.stored=some expected ∧
      current_authority.map Document.stored=some expected_authority ∧
      current_claim.map Document.stored=some expected_service_claim) .conflict
  return database.putReceipt prepared

/-- Resolve one ambiguous receipt only while its exact active authority is current. -/
def resolveAmbiguousReceipt (sha256 : Bytes → Sha256Digest) (target : TargetBinding)
    (expected : StoredRecord ExecutionReceipt) (replacement : ExecutionReceipt)
    (expected_authority : StoredRecord EpochAuthorityRecord)
    (expected_service_claim : StoredRecord ServiceClaimRecord) (mutation_id : Identifier)
    (report : ProviderReport) (database : Database) :
    Database×Except StoreError (StoredRecord ExecutionReceipt) :=
  writeReplacement (prepareResolution sha256 target expected replacement expected_authority
      expected_service_claim mutation_id)
    (fun prepared => updateResolvedReceipt sha256 target prepared expected expected_authority
      expected_service_claim) report database

section

variable {sha256 : Bytes → Sha256Digest} {target : TargetBinding} {database : Database}

/-- A document that is read carries the logical id and is the stored one. -/
theorem transactionRead_some {Record : Type} {documents : Sha256Digest → Option (Document Record)}
    {document_id : Sha256Digest} {logical_id : String} {document : Document Record} :
    transactionRead documents document_id logical_id=.ok (some document) ↔
      documents document_id=some document ∧ document.logical_id=logical_id := by
  unfold transactionRead
  cases documents document_id with
  | none => simp only [Except.ok.injEq,reduceCtorEq,false_and]
  | some found =>
    by_cases h : found.logical_id=logical_id
    · simp only [if_pos h,Except.ok.injEq,Option.some.injEq]
      constructor
      · rintro rfl
        exact ⟨rfl,h⟩
      · exact fun hfound => hfound.1
    · simp only [if_neg h,reduceCtorEq,Option.some.injEq,false_iff,not_and]
      rintro rfl
      exact h

/-- A read whose record is the expected one found its document. -/
theorem map_stored_eq_some {Record : Type} {documents : Sha256Digest → Option (Document Record)}
    {document_id : Sha256Digest} {logical_id : String} {current : Option (Document Record)}
    {expected : StoredRecord Record}
    (hread : transactionRead documents document_id logical_id=.ok current)
    (h : current.map Document.stored=some expected) : ∃ document,
      documents document_id=some document ∧ document.logical_id=logical_id ∧
        document.stored=expected := by
  obtain ⟨document,rfl,hstored⟩ := Option.map_eq_some_iff.mp h
  have hfound := transactionRead_some.mp hread
  exact ⟨document,hfound.1,hfound.2,hstored⟩

/-- A prepared document carries the receipt, its revision and its logical id. -/
theorem preparedReceipt_eq_ok {receipt : ExecutionReceipt} {revision : Nat}
    {mutation_id : Identifier} {prepared : PreparedReceipt}
    (h : preparedReceipt sha256 target receipt revision mutation_id=.ok prepared) :
    executionReceiptDocumentId sha256 target receipt.idempotency_key=.ok prepared.document_id ∧
      prepared.document.logical_id=
        (executionReceiptLogicalId sha256 target receipt.idempotency_key).1 ∧
      prepared.document.stored.value=receipt ∧ prepared.document.stored.revision=revision := by
  rw [preparedReceipt,bind_eq_ok] at h
  obtain ⟨document_id,hdocument,h⟩ := h
  rw [bind_eq_ok] at h
  obtain ⟨stored,hstored,h⟩ := h
  rw [← Except.ok.inj h]
  have hmade := StoredRecord.make_eq_ok hstored
  exact ⟨hdocument,rfl,hmade.1,hmade.2⟩

/-- Every receipt can be prepared at a bounded revision. -/
theorem preparedReceipt_ok (receipt : ExecutionReceipt) {revision : Nat}
    (hrevision : revision ≤ maxRevision) (mutation_id : Identifier) : ∃ prepared,
      preparedReceipt sha256 target receipt revision mutation_id=.ok prepared := by
  obtain ⟨document_id,hdocument⟩ :=
    executionReceiptDocumentId_ok sha256 target receipt.idempotency_key
  have hstored : StoredRecord.make receipt revision=.ok ⟨receipt,revision,hrevision⟩ :=
    dif_pos hrevision
  rw [preparedReceipt,bind_of_ok hdocument,bind_of_ok hstored]
  exact ⟨_,rfl⟩

/-- A transaction leaves the database alone or applies its body once. -/
theorem runTransaction_fst {prepared : PreparedReceipt}
    {body : Database → Except StoreError Database} {report : ProviderReport} :
    (runTransaction prepared body report database).1=database ∨
      body database=.ok (runTransaction prepared body report database).1 := by
  unfold runTransaction
  cases hbody : body database with
  | error raised => cases raised <;> exact .inl rfl
  | ok after =>
    cases report.commit with
    | confirmed => exact .inr rfl
    | contention => exact .inl rfl
    | unconfirmed applied =>
      cases applied with
      | false => exact .inl rfl
      | true => exact .inr rfl

/-- Only a confirmed commit is reported as confirmed, and it is applied. -/
theorem runTransaction_direct {prepared : PreparedReceipt}
    {body : Database → Except StoreError Database} {report : ProviderReport}
    (h : (runTransaction prepared body report database).2=.ok .directConfirmed) :
    body database=.ok (runTransaction prepared body report database).1 := by
  have hresolved : resolveAmbiguous prepared report.resolved≠.ok .directConfirmed := by
    unfold resolveAmbiguous
    repeat' split
    all_goals simp only [ne_eq,reduceCtorEq,not_false_eq_true,Except.ok.injEq]
  unfold runTransaction at h ⊢
  cases hbody : body database with
  | error raised => cases raised <;> simp only [hbody,reduceCtorEq] at h; exact absurd h hresolved
  | ok after =>
    simp only [hbody] at h ⊢
    cases hcommit : report.commit with
    | confirmed => rfl
    | contention => simp only [hcommit,reduceCtorEq] at h
    | unconfirmed applied =>
      simp only [hcommit] at h
      exact absurd h hresolved

/-- A claim is prepared exactly for an initial receipt of its target and binding. -/
theorem prepareClaim_eq_ok {receipt : ExecutionReceipt} {binding : MutationBinding}
    {mutation_id : Identifier} {prepared : PreparedReceipt} :
    prepareClaim sha256 target receipt binding mutation_id=.ok prepared ↔
      receipt.outcome=.claimed ∧ receiptMatchesBinding sha256 receipt binding ∧
      (∃ logical_id,validateReceiptIdentity sha256 target receipt=.ok logical_id) ∧
      preparedReceipt sha256 target receipt 0 mutation_id=.ok prepared := by
  have hclaimed : StoredRecord.make receipt 0=.ok ⟨receipt,0,Nat.zero_le _⟩ := dif_pos _
  rw [prepareClaim,check_bind_eq_ok,validateReceiptClaimBinding,bind_of_ok hclaimed,
    check_bind_eq_ok,validateInitialReceiptClaim,require_eq_ok,require_eq_ok,bind_eq_ok]
  simp only [true_and]
  constructor
  · rintro ⟨⟨⟨hinitial,hid⟩,hbinding⟩,logical_id,hidentity,hprepared⟩
    exact ⟨hinitial,hbinding,⟨logical_id,hidentity⟩,hprepared⟩
  · rintro ⟨hinitial,hbinding,⟨logical_id,hidentity⟩,hprepared⟩
    obtain ⟨htarget,hid,-⟩ := validateReceiptIdentity_eq_ok.mp hidentity
    rw [← htarget] at hid
    exact ⟨⟨⟨hinitial,hid⟩,hbinding⟩,logical_id,hidentity,hprepared⟩

/-- A created document is written where there was none. -/
theorem createReceipt_eq_ok {prepared : PreparedReceipt} {after : Database}
    (h : createReceipt prepared database=.ok after) :
    database.receipts prepared.document_id=none ∧ after=database.putReceipt prepared := by
  unfold createReceipt at h
  cases hfound : database.receipts prepared.document_id with
  | none =>
    simp only [hfound,Except.ok.injEq] at h
    exact ⟨rfl,h.symm⟩
  | some current => simp only [hfound,reduceCtorEq] at h

/-- A claim leaves the database alone or writes its receipt where there was none. -/
theorem claimOrAdoptReceipt_fst {receipt : ExecutionReceipt} {binding : MutationBinding}
    {mutation_id : Identifier} {report : ProviderReport} :
    (claimOrAdoptReceipt sha256 target receipt binding mutation_id report database).1=database ∨
      ∃ prepared,prepareClaim sha256 target receipt binding mutation_id=.ok prepared ∧
        database.receipts prepared.document_id=none ∧
        (claimOrAdoptReceipt sha256 target receipt binding mutation_id report database).1=
          database.putReceipt prepared := by
  unfold claimOrAdoptReceipt
  cases hprepared : prepareClaim sha256 target receipt binding mutation_id with
  | error raised => exact .inl rfl
  | ok prepared =>
    have heffect : (runTransaction prepared (createReceipt prepared) report database).1=database ∨
        createReceipt prepared database=
          .ok (runTransaction prepared (createReceipt prepared) report database).1 :=
      runTransaction_fst
    rcases heffect with hsame | hbody
    · exact .inl hsame
    · have hcreated := createReceipt_eq_ok hbody
      exact .inr ⟨prepared,rfl,hcreated.1,hcreated.2⟩

/-- A claim that is reported as created wrote its receipt where there was none. -/
theorem claimOrAdoptReceipt_created {receipt : ExecutionReceipt} {binding : MutationBinding}
    {mutation_id : Identifier} {report : ProviderReport} {stored : StoredRecord ExecutionReceipt}
    {direct_create : DirectReceiptCreate}
    (h : (claimOrAdoptReceipt sha256 target receipt binding mutation_id report database).2=
      .ok (.created stored direct_create)) :
    ∃ prepared,prepareClaim sha256 target receipt binding mutation_id=.ok prepared ∧
      database.receipts prepared.document_id=none ∧
      (claimOrAdoptReceipt sha256 target receipt binding mutation_id report database).1=
        database.putReceipt prepared ∧ stored=prepared.document.stored := by
  unfold claimOrAdoptReceipt at h ⊢
  cases hprepared : prepareClaim sha256 target receipt binding mutation_id with
  | error raised => simp only [hprepared,reduceCtorEq] at h
  | ok prepared =>
    simp only [hprepared] at h ⊢
    cases hdisposition : (runTransaction prepared (createReceipt prepared) report database).2 with
    | error raised =>
      rw [hdisposition] at h
      cases raised with
      | conflict =>
        simp only [claimResult,adoptExisting] at h
        cases hreread : report.reread with
        | none => simp only [hreread,reduceCtorEq] at h
        | some reread =>
          simp only [hreread,bind_eq_ok] at h
          obtain ⟨existing,-,h⟩ := h
          cases existing with
          | none => cases h
          | some existing =>
            simp only [pure,Except.pure] at h
            split at h
            · cases h
            · cases h
      | _ => simp only [claimResult,reduceCtorEq] at h
    | ok disposition =>
      rw [hdisposition] at h
      cases disposition with
      | readbackResolved => simp only [claimResult,Except.ok.injEq,reduceCtorEq] at h
      | directConfirmed =>
        have hcreated := createReceipt_eq_ok (runTransaction_direct hdisposition)
        simp only [claimResult,bind_eq_ok,pure,Except.pure,Except.ok.injEq] at h
        obtain ⟨proof,-,hresult⟩ := h
        cases hresult
        exact ⟨prepared,rfl,hcreated.1,hcreated.2,rfl⟩

/-- A written replacement leaves the database alone or applies its body once. -/
theorem writeReplacement_fst {prepare : Except Raised PreparedReceipt}
    {body : PreparedReceipt → Database → Except StoreError Database} {report : ProviderReport} :
    (writeReplacement prepare body report database).1=database ∨ ∃ prepared,
      prepare=.ok prepared ∧
        body prepared database=.ok (writeReplacement prepare body report database).1 := by
  unfold writeReplacement
  cases prepare with
  | error raised => exact .inl rfl
  | ok prepared =>
    have heffect : (runTransaction prepared (body prepared) report database).1=database ∨
        body prepared database=.ok (runTransaction prepared (body prepared) report database).1 :=
      runTransaction_fst
    rcases heffect with hsame | hbody
    · exact .inl hsame
    · exact .inr ⟨prepared,rfl,hbody⟩

/-- An update writes over the document of the expected record. -/
theorem updateReceipt_eq_ok {prepared : PreparedReceipt} {expected : StoredRecord ExecutionReceipt}
    {after : Database} (h : updateReceipt prepared expected database=.ok after) :
    after=database.putReceipt prepared ∧ ∃ current,
      database.receipts prepared.document_id=some current ∧
        current.logical_id=prepared.document.logical_id ∧ current.stored=expected := by
  rw [updateReceipt,bind_eq_ok] at h
  obtain ⟨current,hread,h⟩ := h
  rw [check_bind_eq_ok,require_eq_ok] at h
  exact ⟨(Except.ok.inj h.2).symm,map_stored_eq_some hread h.1⟩

/-- A resolution writes over the expected record while the expected authority
and the expected service claim are stored. -/
theorem updateResolvedReceipt_eq_ok {prepared : PreparedReceipt}
    {expected : StoredRecord ExecutionReceipt}
    {expected_authority : StoredRecord EpochAuthorityRecord}
    {expected_service_claim : StoredRecord ServiceClaimRecord} {after : Database}
    (h : updateResolvedReceipt sha256 target prepared expected expected_authority
      expected_service_claim database=.ok after) :
    after=database.putReceipt prepared ∧
      (∃ current,database.receipts prepared.document_id=some current ∧
        current.logical_id=prepared.document.logical_id ∧ current.stored=expected) ∧
      (∃ authority_id document,
        epochAuthorityDocumentId sha256 expected.value.root_id=.ok authority_id ∧
          database.authorities authority_id=some document ∧ document.stored=expected_authority) ∧
      (∃ claim_id document,serviceClaimDocumentId sha256 target=.ok claim_id ∧
        database.service_claims claim_id=some document ∧
          document.stored=expected_service_claim) := by
  simp only [updateResolvedReceipt,bind_eq_ok,mapError_eq_ok] at h
  obtain ⟨authority_id,hauthority,claim_logical_id,-,claim_id,hclaim,receipt,hreceipt,
    authority,hreadAuthority,claim,hreadClaim,check,hcheck,h⟩ := h
  obtain ⟨hexpected,hexpectedAuthority,hexpectedClaim⟩ := require_eq_ok.mp hcheck
  obtain ⟨authorityDocument,hstoredAuthority,-,hauthorityEq⟩ :=
    map_stored_eq_some hreadAuthority hexpectedAuthority
  obtain ⟨claimDocument,hstoredClaim,-,hclaimEq⟩ := map_stored_eq_some hreadClaim hexpectedClaim
  exact ⟨(Except.ok.inj h).symm,map_stored_eq_some hreceipt hexpected,
    ⟨authority_id,authorityDocument,hauthority,hstoredAuthority,hauthorityEq⟩,
    ⟨claim_id,claimDocument,hclaim,hstoredClaim,hclaimEq⟩⟩

/-- A prepared replacement is permitted and carries no readback marker. -/
theorem prepareReplacement_eq_ok {expected : StoredRecord ExecutionReceipt}
    {replacement : ExecutionReceipt} {mutation_id : Identifier} {prepared : PreparedReceipt} :
    prepareReplacement sha256 target expected replacement mutation_id=.ok prepared ↔
      validateReceiptReplacement sha256 target expected replacement=.ok () ∧
      (∀ evidence_id∈replacement.evidence_ids,¬startsWithMarker evidence_id=true) ∧
      preparedReceipt sha256 target replacement (expected.revision+1) mutation_id=
        .ok prepared := by
  simp only [prepareReplacement,check_bind_eq_ok,rejectGenericReadbackResolutionMarker,
    require_eq_ok]

theorem prepareResolution_eq_ok {expected : StoredRecord ExecutionReceipt}
    {replacement : ExecutionReceipt} {expected_authority : StoredRecord EpochAuthorityRecord}
    {expected_service_claim : StoredRecord ServiceClaimRecord} {mutation_id : Identifier}
    {prepared : PreparedReceipt} :
    prepareResolution sha256 target expected replacement expected_authority expected_service_claim
        mutation_id=.ok prepared ↔
      (validateReceiptReplacement sha256 target expected replacement=.ok () ∧
        resolutionFence target expected.value replacement expected_authority
          expected_service_claim) ∧
      preparedReceipt sha256 target replacement (expected.revision+1) mutation_id=
        .ok prepared := by
  simp only [prepareResolution,check_bind_eq_ok,validateAmbiguousReceiptResolution_eq_ok]

/-- A read receipt is the stored one, under its own logical id and identity. -/
theorem readReceipt_eq_some {idempotency_key : Identifier} {stored : StoredRecord ExecutionReceipt} :
    database.readReceipt sha256 target idempotency_key=.ok (some stored) ↔ ∃ document_id document,
      executionReceiptDocumentId sha256 target idempotency_key=.ok document_id ∧
        database.receipts document_id=some document ∧
        document.logical_id=(executionReceiptLogicalId sha256 target idempotency_key).1 ∧
        (∃ logical_id,validateReceiptIdentity sha256 target document.stored.value=.ok logical_id) ∧
        document.stored=stored := by
  rw [Database.readReceipt,bind_eq_ok]
  simp only [mapError_eq_ok,bind_eq_ok]
  constructor
  · rintro ⟨document_id,hid,decoded,hread,h⟩
    cases decoded with
    | none => cases h
    | some document =>
      have hfound := transactionRead_some.mp hread
      cases hidentity : validateReceiptIdentity sha256 target document.stored.value with
      | error raised => simp only [hidentity,reduceCtorEq] at h
      | ok logical_id =>
        simp only [hidentity,pure,Except.pure,Except.ok.injEq,Option.some.injEq] at h
        exact ⟨document_id,document,hid,hfound.1,hfound.2,⟨logical_id,hidentity⟩,h⟩
  · rintro ⟨document_id,document,hid,hfound,hlogical,⟨logical_id,hidentity⟩,rfl⟩
    refine ⟨document_id,hid,some document,transactionRead_some.mpr ⟨hfound,hlogical⟩,?_⟩
    simp only [hidentity]
    rfl

end

/-- A written receipt is read back at its document id. -/
@[simp] theorem putReceipt_receipts {database : Database} {prepared : PreparedReceipt} :
    (database.putReceipt prepared).receipts prepared.document_id=some prepared.document :=
  Function.update_self _ _ _

theorem putReceipt_receipts_ne {database : Database} {prepared : PreparedReceipt}
    {document_id : Sha256Digest} (h : document_id≠prepared.document_id) :
    (database.putReceipt prepared).receipts document_id=database.receipts document_id :=
  Function.update_of_ne h _ _

/-- A confirmed claim is read where there was no receipt. -/
theorem claim_confirmed {sha256 : Bytes → Sha256Digest} {target : TargetBinding}
    {database : Database} {receipt : ExecutionReceipt} {binding : MutationBinding}
    {mutation_id : Identifier} {report : ProviderReport} {prepared : PreparedReceipt}
    (hprepared : prepareClaim sha256 target receipt binding mutation_id=.ok prepared)
    (habsent : database.receipts prepared.document_id=none) (hcommit : report.commit=.confirmed) :
    (claimOrAdoptReceipt sha256 target receipt binding mutation_id report database).1.readReceipt
      sha256 target receipt.idempotency_key=.ok (some prepared.document.stored) := by
  obtain ⟨-,-,hidentity,hdocument⟩ := prepareClaim_eq_ok.mp hprepared
  obtain ⟨hid,hlogical,hvalue,-⟩ := preparedReceipt_eq_ok hdocument
  have hwritten : (claimOrAdoptReceipt sha256 target receipt binding mutation_id report
      database).1=database.putReceipt prepared := by
    simp only [claimOrAdoptReceipt,hprepared,runTransaction,createReceipt,habsent,hcommit]
  rw [hwritten]
  exact readReceipt_eq_some.mpr ⟨prepared.document_id,prepared.document,hid,putReceipt_receipts,
    hlogical,by rw [hvalue]; exact hidentity,rfl⟩

end ControlGraph.ReceiptStore
