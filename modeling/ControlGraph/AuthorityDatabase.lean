import ControlGraph.ReleaseContracts
import Mathlib.Logic.Function.Basic

/-!
# The authority database

The database keeps one table for each record family. A document is accepted by
its family before it is written: immutable records stay at revision zero, an
authority and a head are stored at their own revisions, and the revision of a
service claim modulo three is its lifecycle status. A table keeps every document
at the place of its logical id. A transaction reads and writes the database at one
instant. The identity of a write is left out: only the readback of a lost
answer looks at it.
-/

namespace ControlGraph.AuthorityDatabase

open Checks ContractText JsonValues JsonText Utf8Text StorageIdentity RootContracts
  RevocationContracts ReleaseContracts

open ReceiptContracts hiding ServiceClaimRecord

open ReceiptStore (StoreError targetBindingDomain serviceClaimLogicalId serviceClaimDocumentId)

/-- Contracts that are hashed under the domain of their schema. -/
inductive Contract
  | rootContent (content : RolloutRootContentV3)
  | rolloutPlan (plan : RolloutPlanV1)
  | healthPolicy (canonical : String)
  | authorityBounds (canonical : String)
  | serviceClaim (claim : ServiceClaimRecord)
  | epochAuthority (authority : EpochAuthorityRecord)
  | lineageAnchor (anchor : CapabilityLineageAnchorV1)
  | rootCreationSubject (subject : RootCreationEvidenceSubjectV1)
  | signedEvidence (evidence : SignedEvidenceEventV1)
  | revocationSubject (subject : EpochRevocationEvidenceSubjectV1)
  | terminalSubject (subject : TerminalSubject)
  | fenceSubject (subject : ServiceClaimFenceEvidenceSubjectV1)
  | classificationSubject (subject : ServiceClaimTargetClassificationEvidenceSubjectV1)
  | releaseSubject (subject : ServiceClaimReleaseEvidenceSubjectV1)
  | executionReceipt (receipt : ExecutionReceipt)

/-- The digest function and the digests of whole contracts. -/
structure AuthorityFunctions where
  sha256 : Bytes → Sha256Digest
  canonical_sha256 : Contract → Sha256Digest

/-- Checks of one record family. -/
structure Family (Record : Type) where
  kind : AuthorityStorageKind
  /-- Check of the storage revision against the record. -/
  validate_payload : Nat → Record → Except Raised Unit
  logical_id : Record → Except Raised String

/-- Check a record before it is stored under a logical id. -/
def Family.validate {Record : Type} (family : Family Record) (logical_id : String)
    (stored : StoredRecord Record) : Except Raised Unit := do
  let _ ← logicalIdentity logical_id
  family.validate_payload stored.revision stored.value
  let expected_logical_id ← family.logical_id stored.value
  require (logical_id=expected_logical_id)
    (.valueError "authority storage payload identity does not match")

/-- A document of one family. -/
structure Document {Record : Type} (family : Family Record) where
  logical_id : String
  stored : StoredRecord Record
  accepted : family.validate logical_id stored=.ok ()

/-- Immutable records stay at revision zero. -/
def immutablePayload {Record : Type} (revision : Nat) (_value : Record) : Except Raised Unit :=
  require (revision=0) (.valueError "immutable authority record must remain at revision zero")

/-- Remainder of the storage revision that belongs to a lifecycle status. -/
def revisionRemainder : ServiceClaimStatus → Nat
  | .active => 0
  | .releasing => 1
  | .released => 2

section

variable (functions : AuthorityFunctions)

/-- Digest of a target binding. -/
def targetSha256 (target : TargetBinding) : Sha256Digest :=
  functions.sha256 (targetBindingDomain++utf8Bytes (dumpsSorted (targetJson target)))

/-- Content-addressed identity of a lineage anchor. -/
def capabilityLineageAnchorLogicalId (anchor : CapabilityLineageAnchorV1) : String :=
  "cganchor:"++(functions.canonical_sha256 (.lineageAnchor anchor)).1

def rootFamily : Family RolloutRootV3 where
  kind := .rolloutRootV3
  validate_payload := immutablePayload
  logical_id := fun root => .ok root.root_id.1

def claimFamily : Family ServiceClaimRecord where
  kind := .serviceClaim
  validate_payload := fun revision claim =>
    require (revision%3=revisionRemainder claim.status)
      (.valueError "service claim lifecycle and storage revision do not match")
  logical_id := fun claim => (serviceClaimLogicalId functions.sha256 claim.target).map Subtype.val

/-- Epoch authorities. -/
def authorityFamily : Family EpochAuthorityRecord where
  kind := .epochAuthority
  validate_payload := fun revision authority =>
    require (revision=authority.revision)
      (.valueError "authority storage and payload revisions do not match")
  logical_id := fun authority => .ok authority.root_id.1

def anchorFamily : Family CapabilityLineageAnchorV1 where
  kind := .capabilityLineageAnchor
  validate_payload := immutablePayload
  logical_id := fun anchor => .ok (capabilityLineageAnchorLogicalId functions anchor)

/-- Signed evidence events. -/
def evidenceFamily : Family SignedEvidenceEventV1 where
  kind := .signedEvidenceEvent
  validate_payload := immutablePayload
  logical_id := fun evidence => .ok evidence.event.evidence_id.1

def creationResultFamily : Family RootCreationResultV2 where
  kind := .rootCreationResultV2
  validate_payload := fun revision result => do
    immutablePayload revision result
    require (result.outcome=.created)
      (.valueError "persisted root creation result must identify the winner")
  logical_id := fun result => .ok result.root.root_id.1

/-- Heads of evidence chains. -/
def headFamily : Family EvidenceChainHeadV1 where
  kind := .evidenceChainHead
  validate_payload := fun revision head =>
    require (revision=head.sequence)
      (.valueError "evidence head storage and sequence revisions do not match")
  logical_id := fun head => .ok head.root_id.1

def revocationIdentityFamily : Family EpochRevocationIdentityV1 where
  kind := .epochRevocationIdentity
  validate_payload := immutablePayload
  logical_id := fun identity =>
    epochRevocationIdentityLogicalId identity.identity_kind.value identity.identity_value.1

def revocationResultFamily : Family EpochRevocationResultV1 where
  kind := .epochRevocationResult
  validate_payload := immutablePayload
  logical_id := fun result => .ok result.result_id.1

def revocationAuditFamily : Family EpochRevocationAuditV1 where
  kind := .epochRevocationAudit
  validate_payload := immutablePayload
  logical_id := fun audit => .ok audit.audit_id.1

/-- Identities of claim releases. -/
def releaseIdentityFamily : Family ServiceClaimReleaseIdentityV1 where
  kind := .serviceClaimReleaseIdentity
  validate_payload := immutablePayload
  logical_id := fun identity =>
    serviceClaimReleaseIdentityLogicalId identity.identity_kind.value identity.identity_value.1

/-- Winners of fence stages. -/
def releaseProgressFamily : Family ServiceClaimReleaseProgressV1 where
  kind := .serviceClaimReleaseProgress
  validate_payload := immutablePayload
  logical_id := fun progress => .ok progress.result_id.1

/-- Winners of whole releases. -/
def releaseResultFamily : Family ServiceClaimReleaseResultV1 where
  kind := .serviceClaimReleaseResult
  validate_payload := immutablePayload
  logical_id := fun result => .ok result.result_id.1

def receiptFamily : Family ExecutionReceipt where
  kind := .executionReceipt
  validate_payload := fun _ receipt =>
    require (receipt.receipt_id.1=
        (executionReceiptLogicalId functions.sha256 receipt.target receipt.idempotency_key).1)
      (.valueError "execution receipt identity does not match its claim key")
  logical_id := fun receipt =>
    .ok (executionReceiptLogicalId functions.sha256 receipt.target receipt.idempotency_key).1

def rolloutRootV3DocumentId (root_id : Identifier) : Except Raised Sha256Digest :=
  documentId functions.sha256 .rolloutRootV3 root_id.1

def capabilityLineageAnchorDocumentId (anchor : CapabilityLineageAnchorV1) :
    Except Raised Sha256Digest :=
  documentId functions.sha256 .capabilityLineageAnchor
    (capabilityLineageAnchorLogicalId functions anchor)

def signedEvidenceEventDocumentId (evidence_id : String) : Except Raised Sha256Digest :=
  documentId functions.sha256 .signedEvidenceEvent evidence_id

def rootCreationResultV2DocumentId (root_id : Identifier) : Except Raised Sha256Digest :=
  documentId functions.sha256 .rootCreationResultV2 root_id.1

def evidenceChainHeadDocumentId (root_id : Identifier) : Except Raised Sha256Digest :=
  documentId functions.sha256 .evidenceChainHead root_id.1

def epochRevocationResultDocumentId (result_id : Identifier) : Except Raised Sha256Digest :=
  documentId functions.sha256 .epochRevocationResult result_id.1

def epochRevocationAuditDocumentId (audit_id : Identifier) : Except Raised Sha256Digest :=
  documentId functions.sha256 .epochRevocationAudit audit_id.1

def serviceClaimReleaseProgressDocumentId (result_id : Identifier) : Except Raised Sha256Digest :=
  documentId functions.sha256 .serviceClaimReleaseProgress result_id.1

def serviceClaimReleaseResultDocumentId (result_id : Identifier) : Except Raised Sha256Digest :=
  documentId functions.sha256 .serviceClaimReleaseResult result_id.1

/-- A document that is about to be written at the place of its logical id. -/
structure PreparedDocument {Record : Type} (family : Family Record) where
  document_id : Sha256Digest
  document : Document family
  /-- The place belongs to the logical id. -/
  placed : documentId functions.sha256 family.kind document.logical_id=.ok document_id

/-- The documents of one family, each at the place of its logical id. -/
structure Table {Record : Type} (family : Family Record) where
  /-- The document at each place. -/
  entries : Sha256Digest → Option (Document family)
  /-- Every place belongs to the logical id of its document. -/
  placed : ∀ document_id document,entries document_id=some document →
    documentId functions.sha256 family.kind document.logical_id=.ok document_id

/-- The tables of the authority database. -/
structure Database where
  roots : Table functions rootFamily
  service_claims : Table functions (claimFamily functions)
  authorities : Table functions authorityFamily
  lineage_anchors : Table functions (anchorFamily functions)
  signed_evidence : Table functions evidenceFamily
  creation_results : Table functions creationResultFamily
  chain_heads : Table functions headFamily
  revocation_identities : Table functions revocationIdentityFamily
  revocation_results : Table functions revocationResultFamily
  revocation_audits : Table functions revocationAuditFamily
  release_identities : Table functions releaseIdentityFamily
  /-- Winners of fence stages. -/
  release_progress : Table functions releaseProgressFamily
  /-- Winners of whole releases. -/
  release_results : Table functions releaseResultFamily
  receipts : Table functions (receiptFamily functions)

end

section

variable {functions : AuthorityFunctions} {Record : Type} {family : Family Record}

/-- A table without documents. -/
def Table.empty : Table functions family where
  entries := fun _ => none
  placed := fun _ _ h => nomatch h

/-- The database before the first root. -/
def Database.empty : Database functions where
  roots := .empty
  service_claims := .empty
  authorities := .empty
  lineage_anchors := .empty
  signed_evidence := .empty
  creation_results := .empty
  chain_heads := .empty
  revocation_identities := .empty
  revocation_results := .empty
  revocation_audits := .empty
  release_identities := .empty
  release_progress := .empty
  release_results := .empty
  receipts := .empty

/-- Check a record and prepare its document. -/
def preparedDocument (functions : AuthorityFunctions) {Record : Type} (family : Family Record)
    (logical_id : String) (revision : Nat) (value : Record) :
    Except Raised (PreparedDocument functions family) := do
  let stored ← StoredRecord.make value revision
  match haccepted : family.validate logical_id stored,
      hplaced : documentId functions.sha256 family.kind logical_id with
  | .ok (),.ok document_id => .ok ⟨document_id,⟨logical_id,stored,haccepted⟩,hplaced⟩
  | .error raised,_ => .error raised
  | _,.error raised => .error raised

/-- Put a prepared document at its place. -/
def Table.put (table : Table functions family) (prepared : PreparedDocument functions family) :
    Table functions family where
  entries := Function.update table.entries prepared.document_id (some prepared.document)
  placed := by
    intro document_id document h
    by_cases hplace : document_id=prepared.document_id
    · rw [hplace,Function.update_self] at h
      rw [hplace,← Option.some.inj h]
      exact prepared.placed
    · rw [Function.update_of_ne hplace] at h
      exact table.placed document_id document h

/-- Create a document where there is none. -/
def Table.create (table : Table functions family) (prepared : PreparedDocument functions family) :
    Except StoreError (Table functions family) :=
  if (table.entries prepared.document_id).isNone then .ok (table.put prepared)
  else .error .conflict

/-- Read the record of one logical id. -/
def Table.read (table : Table functions family) (document_id : Except Raised Sha256Digest)
    (logical_id : String) : Except StoreError (Option (StoredRecord Record)) := do
  let place ← document_id.mapError .invalid
  match table.entries place with
  | none => .ok none
  | some document =>
    if document.logical_id=logical_id then .ok (some document.stored)
    else .error .corruptRecord

/-- The record that is stored under a logical id, if there is one. -/
def Table.find (table : Table functions family) (logical_id : String) :
    Option (StoredRecord Record) :=
  match documentId functions.sha256 family.kind logical_id with
  | .error _ => none
  | .ok place => match table.entries place with
    | none => none
    | some document => if document.logical_id=logical_id then some document.stored else none

theorem preparedDocument_eq_ok {logical_id : String} {revision : Nat} {value : Record}
    {prepared : PreparedDocument functions family}
    (h : preparedDocument functions family logical_id revision value=.ok prepared) :
    prepared.document.logical_id=logical_id ∧ prepared.document.stored.value=value ∧
      prepared.document.stored.revision=revision := by
  rw [preparedDocument,bind_eq_ok] at h
  obtain ⟨stored,hstored,h⟩ := h
  have hmade := StoredRecord.make_eq_ok hstored
  split at h
  · rw [← Except.ok.inj h]
    exact ⟨rfl,hmade⟩
  · cases h
  · cases h

/-- An accepted document is stored under the logical id of its record. -/
theorem Family.validate_eq_ok {logical_id : String} {stored : StoredRecord Record} :
    family.validate logical_id stored=.ok () ↔ (∃ identity,logicalIdentity logical_id=.ok identity) ∧
      family.validate_payload stored.revision stored.value=.ok () ∧
      family.logical_id stored.value=.ok logical_id := by
  rw [Family.validate,bind_eq_ok]
  simp only [check_bind_eq_ok]
  constructor
  · rintro ⟨identity,hidentity,hpayload,hlogical⟩
    obtain ⟨expected,hexpected,hsame⟩ := bind_eq_ok.mp hlogical
    rw [← require_eq_ok.mp hsame] at hexpected
    exact ⟨⟨identity,hidentity⟩,hpayload,hexpected⟩
  · rintro ⟨⟨identity,hidentity⟩,hpayload,hlogical⟩
    exact ⟨identity,hidentity,hpayload,bind_eq_ok.mpr ⟨logical_id,hlogical,require_eq_ok.mpr rfl⟩⟩

variable {table : Table functions family} {logical_id : String} {stored : StoredRecord Record}

/-- A record that is found is the one at its place. -/
theorem Table.find_eq_some : table.find logical_id=some stored ↔ ∃ place document,
    documentId functions.sha256 family.kind logical_id=.ok place ∧
      table.entries place=some document ∧ document.logical_id=logical_id ∧
      document.stored=stored := by
  unfold Table.find
  constructor
  · intro h
    split at h
    · cases h
    · rename_i place hplace
      split at h
      · cases h
      · rename_i document hdocument
        split at h
        · rename_i hlogical
          exact ⟨place,document,hplace,hdocument,hlogical,Option.some.inj h⟩
        · cases h
  · rintro ⟨place,document,hplace,hdocument,hlogical,rfl⟩
    simp only [hplace,hdocument,if_pos hlogical]

/-- What is found under a logical id was accepted under it. -/
theorem Table.accepted_of_find (h : table.find logical_id=some stored) :
    family.validate_payload stored.revision stored.value=.ok () ∧
      family.logical_id stored.value=.ok logical_id := by
  obtain ⟨place,document,-,-,rfl,rfl⟩ := Table.find_eq_some.mp h
  exact (Family.validate_eq_ok.mp document.accepted).2

/-- Found records with one logical id are the same. -/
theorem Table.eq_of_find {first_id second_id : String} {first second : StoredRecord Record}
    (hfirst : table.find first_id=some first) (hsecond : table.find second_id=some second)
    (hsame : family.logical_id first.value=family.logical_id second.value) : first=second := by
  have hid := (Table.accepted_of_find hfirst).2
  rw [hsame,(Table.accepted_of_find hsecond).2] at hid
  rw [← Except.ok.inj hid,hsecond] at hfirst
  exact (Option.some.inj hfirst).symm

/-- A read that returns a record found it under its logical id. -/
theorem Table.find_of_read {document_id : Except Raised Sha256Digest}
    (h : table.read document_id logical_id=.ok (some stored)) :
    table.find logical_id=some stored := by
  rw [Table.read,bind_eq_ok] at h
  obtain ⟨place,-,h⟩ := h
  split at h
  · cases h
  · rename_i document hdocument
    split at h
    · rename_i hlogical
      have hplaced := table.placed place document hdocument
      rw [hlogical] at hplaced
      exact Table.find_eq_some.mpr
        ⟨place,document,hplaced,hdocument,hlogical,Option.some.inj (Except.ok.inj h)⟩
    · cases h

/-- A read at the place of a logical id that returns nothing found nothing under it. -/
theorem Table.find_of_read_none {document_id : Except Raised Sha256Digest}
    (hplace : documentId functions.sha256 family.kind logical_id=document_id)
    (h : table.read document_id logical_id=.ok none) : table.find logical_id=none := by
  rw [Table.read,bind_eq_ok] at h
  obtain ⟨place,hread,h⟩ := h
  rw [mapError_eq_ok] at hread
  split at h
  · rename_i hempty
    simp only [Table.find,hplace,hread,hempty]
  · split at h
    · cases h
    · cases h

/-- A read at the place of a logical id returns what is found under it. -/
theorem Table.find_eq_of_read {document_id : Except Raised Sha256Digest}
    {found : Option (StoredRecord Record)}
    (hplace : documentId functions.sha256 family.kind logical_id=document_id)
    (h : table.read document_id logical_id=.ok found) : table.find logical_id=found := by
  cases found with
  | none => exact Table.find_of_read_none hplace h
  | some stored => exact Table.find_of_read h

theorem Table.read_of_find (h : table.find logical_id=some stored) :
    table.read (documentId functions.sha256 family.kind logical_id) logical_id=.ok (some stored) := by
  obtain ⟨place,document,hplace,hdocument,hlogical,rfl⟩ := Table.find_eq_some.mp h
  rw [Table.read,bind_of_ok (mapError_eq_ok.mpr hplace)]
  simp only [hdocument,if_pos hlogical]

@[simp] theorem Table.find_empty {logical_id : String} :
    (Table.empty : Table functions family).find logical_id=none := by
  unfold Table.find
  split
  · rfl
  · rfl

variable {prepared : PreparedDocument functions family}

/-- A document that is put where there is none, or over its own document, is found
under its logical id and changes nothing else. -/
theorem Table.find_put (hplace : ∀ document,table.entries prepared.document_id=some document →
      document.logical_id=prepared.document.logical_id) :
    (table.put prepared).find=
      Function.update table.find prepared.document.logical_id (some prepared.document.stored) := by
  funext logical_id
  by_cases hlogical : logical_id=prepared.document.logical_id
  · rw [hlogical,Function.update_self]
    exact Table.find_eq_some.mpr
      ⟨prepared.document_id,prepared.document,prepared.placed,Function.update_self ..,rfl,rfl⟩
  · rw [Function.update_of_ne hlogical]
    unfold Table.find
    cases hdocument : documentId functions.sha256 family.kind logical_id with
    | error raised => rfl
    | ok place =>
      by_cases hsame : place=prepared.document_id
      · have hnew : (table.put prepared).entries place=some prepared.document := by
          rw [hsame]
          exact Function.update_self ..
        simp only [hnew,if_neg (Ne.symm hlogical)]
        cases hold : table.entries place with
        | none => rfl
        | some document =>
          rw [hsame] at hold
          have hother : document.logical_id≠logical_id := by
            rw [hplace document hold]
            exact Ne.symm hlogical
          simp only [if_neg hother]
      · have hkept : (table.put prepared).entries place=table.entries place :=
          Function.update_of_ne hsame ..
        simp only [hkept]

/-- A created document is found under its logical id, where there was none. -/
theorem Table.create_eq_ok {next : Table functions family} (h : table.create prepared=.ok next) :
    table.find prepared.document.logical_id=none ∧ next.find=
      Function.update table.find prepared.document.logical_id (some prepared.document.stored) := by
  unfold Table.create at h
  split at h
  · rename_i hnone
    rw [Option.isNone_iff_eq_none] at hnone
    constructor
    · simp only [Table.find,prepared.placed,hnone]
    · rw [← Except.ok.inj h]
      apply Table.find_put
      intro document hdocument
      rw [hnone] at hdocument
      cases hdocument
  · cases h

/-- A document that is put over the record read under its logical id replaces it. -/
theorem Table.find_put_of_find (h : table.find prepared.document.logical_id=some stored) :
    (table.put prepared).find=
      Function.update table.find prepared.document.logical_id (some prepared.document.stored) := by
  obtain ⟨place,found,hplace,hfound,hlogical,-⟩ := Table.find_eq_some.mp h
  apply Table.find_put
  intro document hdocument
  have hsame : place=prepared.document_id := by
    rw [prepared.placed] at hplace
    exact (Except.ok.inj hplace).symm
  rw [hsame,hdocument] at hfound
  rw [Option.some.inj hfound]
  exact hlogical

/-- A read at the place of a prepared document returns what is found under its logical id. -/
theorem Table.find_eq_of_prepared_read {revision : Nat} {value : Record}
    {found : Option (StoredRecord Record)}
    (hprepared : preparedDocument functions family logical_id revision value=.ok prepared)
    (h : table.read (.ok prepared.document_id) logical_id=.ok found) :
    table.find logical_id=found := by
  have hplaced := prepared.placed
  rw [(preparedDocument_eq_ok hprepared).1] at hplaced
  exact Table.find_eq_of_read hplaced h

/-- One record is written under a logical id. -/
def Writes (before after : String → Option (StoredRecord Record)) (logical_id : String)
    (value : Record) (revision : Nat) : Prop :=
  ∃ stored : StoredRecord Record,stored.value=value ∧ stored.revision=revision ∧
    after=Function.update before logical_id (some stored)

/-- One record is written under a logical id that had none. -/
def Creates (before after : String → Option (StoredRecord Record)) (logical_id : String)
    (value : Record) (revision : Nat) : Prop :=
  before logical_id=none ∧ Writes before after logical_id value revision

variable {before after : String → Option (StoredRecord Record)} {value : Record} {revision : Nat}

theorem Writes.found (h : Writes before after logical_id value revision) :
    ∃ stored,after logical_id=some stored ∧ stored.value=value ∧ stored.revision=revision := by
  obtain ⟨stored,hvalue,hrevision,rfl⟩ := h
  exact ⟨stored,Function.update_self ..,hvalue,hrevision⟩

theorem Writes.kept (h : Writes before after logical_id value revision) {other : String}
    (hother : other≠logical_id) : after other=before other := by
  obtain ⟨stored,-,-,rfl⟩ := h
  exact Function.update_of_ne hother ..

/-- What was there is still there after a record is created. -/
theorem Creates.found_of_found (h : Creates before after logical_id value revision)
    {other : String} {stored : StoredRecord Record} (hfound : before other=some stored) :
    after other=some stored := by
  have hother : other≠logical_id := by
    intro heq
    rw [heq,h.1] at hfound
    cases hfound
  rw [h.2.kept hother]
  exact hfound

/-- What is there after a record is created was there before, or is the new record. -/
theorem Creates.found_iff (h : Creates before after logical_id value revision) {other : String}
    {stored : StoredRecord Record} (hfound : after other=some stored) :
    before other=some stored ∨ other=logical_id ∧ stored.value=value ∧ stored.revision=revision := by
  by_cases hother : other=logical_id
  · obtain ⟨found,hafter,hvalue,hrevision⟩ := h.2.found
    rw [hother,hafter] at hfound
    rw [← Option.some.inj hfound]
    exact .inr ⟨hother,hvalue,hrevision⟩
  · rw [h.2.kept hother] at hfound
    exact .inl hfound

theorem creates_of_create {next : Table functions family}
    (hprepared : preparedDocument functions family logical_id revision value=.ok prepared)
    (h : table.create prepared=.ok next) :
    Creates table.find next.find logical_id value revision := by
  obtain ⟨rfl,hvalue,hrevision⟩ := preparedDocument_eq_ok hprepared
  obtain ⟨hnone,hnext⟩ := Table.create_eq_ok h
  exact ⟨hnone,prepared.document.stored,hvalue,hrevision,hnext⟩

/-- A prepared document that is put over the record of its logical id writes its record. -/
theorem writes_of_put
    (hprepared : preparedDocument functions family logical_id revision value=.ok prepared)
    (h : table.find logical_id=some stored) :
    Writes table.find (table.put prepared).find logical_id value revision := by
  obtain ⟨rfl,hvalue,hrevision⟩ := preparedDocument_eq_ok hprepared
  exact ⟨prepared.document.stored,hvalue,hrevision,Table.find_put_of_find h⟩

end

end ControlGraph.AuthorityDatabase
