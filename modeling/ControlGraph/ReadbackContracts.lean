import ControlGraph.FlatRecords
import ControlGraph.ReceiptExecution
import ControlGraph.TimelineReading
import ControlGraph.TrustedRoots

/-!
# Contracts of a readback-only resolution

An operator may have one stored ambiguous receipt resolved by reading only. The
command pins the receipt by its digest and storage revision, and its resolution is
marked by an evidence identity over the whole command. From a receipt that is
verified with that mark alone its predecessor is rebuilt, so that a later
call of the command recognizes what the first one has committed.
-/

namespace ControlGraph.ReadbackContracts

open Checks CalendarDays ContractText JsonValues JsonText Utf8Text StorageIdentity FlatRecords
  TimelineWire UtcTimestamps ReceiptContracts AuthorityDatabase

open ReceiptExecution (makeReceipt makeReceipt_eq_ok)

open ReceiptStore (targetBindingDomain)

/-- Dispositions of a successful call. -/
inductive AmbiguousReceiptReadbackDisposition
  | resolved | adopted
  deriving DecidableEq,Repr

/-- The locator of one stored ambiguous receipt. -/
structure AmbiguousReceiptReadbackCommandV1 where
  root_id : Identifier
  expected_root_sha256 : Sha256Digest
  expected_epoch : PositiveSafeInteger
  action : {action : CapabilityAction // action≠.promoteCandidate}
  request_id : Identifier
  idempotency_key : Identifier
  capability_sha256 : Sha256Digest
  expected_receipt_sha256 : Sha256Digest
  expected_storage_revision : {revision : Nat // revision ≤ maxRevision}
  expected_ambiguous_observed_etag : OpaqueToken
  expected_ambiguous_updated_at : UtcSecond
  deriving DecidableEq

/-- Fields of a command, in key order. -/
def commandFields (command : AmbiguousReceiptReadbackCommandV1) : List (String×Json) :=
  [("action",text command.action.1.value),("capability_sha256",digest command.capability_sha256),
    ("confirmation",text "READBACK_ONLY"),
    ("expected_ambiguous_observed_etag",text command.expected_ambiguous_observed_etag.1),
    ("expected_ambiguous_updated_at",timestamp command.expected_ambiguous_updated_at),
    ("expected_epoch",integer command.expected_epoch.1),
    ("expected_receipt_sha256",digest command.expected_receipt_sha256),
    ("expected_root_sha256",digest command.expected_root_sha256),
    ("expected_storage_revision",integer command.expected_storage_revision.1),
    ("idempotency_key",text command.idempotency_key.1),("request_id",text command.request_id.1),
    ("root_id",text command.root_id.1),
    ("schema_version",text "controlgraph.ambiguous-receipt-readback-command/v1")]

def commandBytes (command : AmbiguousReceiptReadbackCommandV1) : Bytes :=
  utf8Bytes (dumpsSorted (object (commandFields command)))

def resolutionEvidenceDomain : Bytes :=
  asciiBytes "controlgraph.ambiguous-receipt-readback-resolution-evidence/v1"++[0]

section

variable (sha256 : Bytes → Sha256Digest)

def commandSha256 (command : AmbiguousReceiptReadbackCommandV1) : Sha256Digest :=
  sha256 (CanonicalCodec.digestDomain++
    asciiBytes "controlgraph.ambiguous-receipt-readback-command/v1"++[0]++commandBytes command)

/-- The mark of the resolution of a command. -/
def ambiguousReceiptResolutionEvidenceId (command : AmbiguousReceiptReadbackCommandV1) :
    Identifier :=
  ⟨"cgrrb:"++(sha256 (resolutionEvidenceDomain++commandBytes command)).1,
    isIdentifier_derived (by decide) (by decide) _⟩

/-- Whether the last evidence is the mark, and no other is. -/
def markedOnce (marker : Identifier) (evidence_ids : List Identifier) : Prop :=
  evidence_ids.getLast?=some marker ∧ evidence_ids.count marker=1

instance (marker : Identifier) (evidence_ids : List Identifier) :
    Decidable (markedOnce marker evidence_ids) :=
  inferInstanceAs (Decidable (_ ∧ _))

/-- Rebuild the predecessor that a command pins from one marked verified receipt. -/
def reconstructAmbiguousReceiptPredecessor (command : AmbiguousReceiptReadbackCommandV1)
    (verified : ExecutionReceipt) : Except Raised ExecutionReceipt := do
  require (verified.outcome=.verified ∧
      markedOnce (ambiguousReceiptResolutionEvidenceId sha256 command) verified.evidence_ids)
    (.valueError "verified receipt does not contain one resolution marker")
  makeReceipt {verified.fields with
    outcome := .ambiguous
    reason_code := some .providerOutcomeAmbiguous
    observed_etag := some command.expected_ambiguous_observed_etag
    updated_at := command.expected_ambiguous_updated_at
    evidence_ids := verified.evidence_ids.dropLast }

end

/-- A verified receipt that a call returns. -/
structure AmbiguousReceiptReadbackResultV1 where
  /-- How the call ended. -/
  disposition : AmbiguousReceiptReadbackDisposition
  command : AmbiguousReceiptReadbackCommandV1
  command_sha256 : Sha256Digest
  resolution_evidence_id : Identifier
  stored_receipt : StoredRecord ExecutionReceipt
  deriving DecidableEq

section

variable (functions : AuthorityFunctions)

def validateResultBindings (result : AmbiguousReceiptReadbackResultV1) : Except Raised Unit := do
  let receipt := result.stored_receipt.value
  let command := result.command
  let predecessor ← (reconstructAmbiguousReceiptPredecessor functions.sha256 command receipt).mapError
    (fun _ => .valueError "readback result does not reconstruct its pinned predecessor")
  require (result.command_sha256=commandSha256 functions.sha256 command ∧
      result.resolution_evidence_id=ambiguousReceiptResolutionEvidenceId functions.sha256 command ∧
      result.stored_receipt.revision=command.expected_storage_revision.1+1 ∧
      receipt.root_id=command.root_id ∧ receipt.root_sha256=command.expected_root_sha256 ∧
      receipt.epoch=command.expected_epoch ∧ receipt.action=command.action.1 ∧
      receipt.request_id=command.request_id ∧ receipt.idempotency_key=command.idempotency_key ∧
      receipt.capability_sha256=command.capability_sha256 ∧ receipt.outcome=.verified ∧
      receipt.reason_code=none ∧ receipt.observed_etag≠none ∧ receipt.provider_operation≠none ∧
      receipt.observed_authority_epoch=some command.expected_epoch ∧
      command.expected_ambiguous_updated_at.1 ≤ receipt.updated_at.1 ∧
      markedOnce result.resolution_evidence_id receipt.evidence_ids ∧
      functions.canonical_sha256 (.executionReceipt predecessor)=command.expected_receipt_sha256)
    (.valueError "readback result does not contain one marked verified receipt")

/-- Make the result of a call. -/
def ambiguousReceiptReadbackResult (disposition : AmbiguousReceiptReadbackDisposition)
    (command : AmbiguousReceiptReadbackCommandV1) (stored_receipt : StoredRecord ExecutionReceipt) :
    Except Raised AmbiguousReceiptReadbackResultV1 := do
  let result : AmbiguousReceiptReadbackResultV1 := {
    disposition := disposition
    command := command
    command_sha256 := commandSha256 functions.sha256 command
    resolution_evidence_id := ambiguousReceiptResolutionEvidenceId functions.sha256 command
    stored_receipt := stored_receipt }
  validateResultBindings functions result
  return result

end

theorem written_timestamp (second : UtcSecond) : Written (utcSecondText (timeOfSecond second.1)) := by
  intro character hmem
  rcases mem_utcSecondText hmem with ⟨-,hhigh⟩ | heq
  · exact Or.inl (by omega)
  · exact Or.inl (by omega)

theorem second_of_text {first second : UtcSecond}
    (h : utcSecondText (timeOfSecond first.1)=utcSecondText (timeOfSecond second.1)) :
    first=second := by
  have hfits : ∀ time : UtcSecond,Fits (timeOfSecond time.1) := by
    intro time
    obtain ⟨hlow,hhigh⟩ := TimelineReading.year_bounds time
    exact ConsoleCodec.fits_of_onCalendar (timeOfSecond_onCalendar _) ⟨by omega,hhigh⟩
  have hfirst := matchUtcSecond_eq_some.mpr ⟨rfl,hfits first⟩
  have hsecond := matchUtcSecond_eq_some.mpr ⟨h,hfits second⟩
  have htimes : timeOfSecond first.1=timeOfSecond second.1 :=
    Option.some.inj (hfirst.symm.trans hsecond)
  have hnumber : ∀ number,(timeOfSecond number).number=number := by
    intro number
    rw [CalendarSecond.number]
    simp only [timeOfSecond,number_dateOfDay]
    omega
  have hnumbers := congrArg CalendarSecond.number htimes
  rw [hnumber,hnumber] at hnumbers
  exact Subtype.ext hnumbers

theorem flat_command (command : AmbiguousReceiptReadbackCommandV1) :
    Flat ((commandFields command).map fun field => (chars field.1,field.2)) := by
  have hkeys : ((commandFields command).map fun field => (chars field.1,field.2)).map Prod.fst=
      ["action","capability_sha256","confirmation","expected_ambiguous_observed_etag",
        "expected_ambiguous_updated_at","expected_epoch","expected_receipt_sha256",
        "expected_root_sha256","expected_storage_revision","idempotency_key","request_id","root_id",
        "schema_version"].map chars := by
    simp only [commandFields,List.map_cons,List.map_nil]
  refine ⟨?_,?_,?_,?_⟩
  · rw [hkeys]
    decide +kernel
  · rw [hkeys]
    decide +kernel
  · rw [hkeys]
    intro key hkey
    obtain ⟨literal,-,rfl⟩ := List.mem_map.mp hkey
    exact written_chars literal
  · have htext : ∀ value,Leaf (text value) := fun value => .text (written_chars value)
    have hinteger : ∀ value,Leaf (integer value) := fun value => .number _
    have htime : ∀ second,Leaf (timestamp second) := fun second => .text (written_timestamp second)
    simp only [commandFields,digest,List.map_cons,List.map_nil,List.forall_mem_cons,htext,hinteger,
      htime,List.not_mem_nil,false_implies,implies_true,and_self]

theorem command_of_bytes {first second : AmbiguousReceiptReadbackCommandV1}
    (h : commandBytes first=commandBytes second) : first=second := by
  have hfields := (flat_command first).eq_of_bytes (flat_command second) h
  have htext : ∀ {left right : String},text left=text right → left=right :=
    fun hsame => literal_of_chars (Json.str.inj hsame)
  have hdigest : ∀ {left right : Sha256Digest},digest left=digest right → left=right :=
    fun hsame => Subtype.ext (htext hsame)
  have hinteger : ∀ {left right : Nat},integer left=integer right → left=right :=
    fun hsame => Int.ofNat_inj.mp (Json.int.inj hsame)
  have haction : ∀ {left right : CapabilityAction},left.value=right.value → left=right := by
    intro left right hsame
    cases left <;> cases right <;> first | rfl | (revert hsame; decide)
  simp only [commandFields,List.map_cons,List.map_nil,List.cons.injEq,Prod.mk.injEq,true_and,and_true]
    at hfields
  obtain ⟨hact,hcapability,hetag,htime,hepoch,hreceipt,hroot,hrevision,hkey,hrequest,hrootId⟩ := hfields
  cases first
  cases second
  simp only [AmbiguousReceiptReadbackCommandV1.mk.injEq]
  exact ⟨Subtype.ext (htext hrootId),hdigest hroot,Subtype.ext (hinteger hepoch),
    Subtype.ext (haction (htext hact)),Subtype.ext (htext hrequest),Subtype.ext (htext hkey),
    hdigest hcapability,hdigest hreceipt,Subtype.ext (hinteger hrevision),
    Subtype.ext (htext hetag),second_of_text (Json.str.inj htime)⟩

/-- A digest function does not collide on the marks of two commands. -/
def MarksApart (sha256 : Bytes → Sha256Digest) (first second : AmbiguousReceiptReadbackCommandV1) :
    Prop :=
  sha256 (resolutionEvidenceDomain++commandBytes first)=
    sha256 (resolutionEvidenceDomain++commandBytes second) →
  resolutionEvidenceDomain++commandBytes first=resolutionEvidenceDomain++commandBytes second

theorem command_of_mark {sha256 : Bytes → Sha256Digest}
    {first second : AmbiguousReceiptReadbackCommandV1} (hapart : MarksApart sha256 first second)
    (h : ambiguousReceiptResolutionEvidenceId sha256 first=
      ambiguousReceiptResolutionEvidenceId sha256 second) : first=second := by
  have hlists := congrArg (fun marker : Identifier => marker.1.toList) h
  simp only [ambiguousReceiptResolutionEvidenceId,String.toList_append] at hlists
  have hdigests := String.toList_inj.mp (List.append_cancel_left hlists)
  exact command_of_bytes (List.append_cancel_left (hapart (Subtype.ext hdigests)))

end ControlGraph.ReadbackContracts
