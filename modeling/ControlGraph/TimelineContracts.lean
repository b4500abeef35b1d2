import ControlGraph.RevocationContracts

/-!
# Contracts of the operator timeline

The timeline of a target is a chain of entries. An entry wraps one immutable
event with its sequence number and the digest of the entry before it, and is
addressed by the digest of that content. An identity says which entry a source
was appended as, and the head names the last entry. The raw record behind an
event is kept apart, expires some days after it was recorded, and leaves a
receipt when it is deleted. Texts of fixed contract versions are left out.
-/

namespace ControlGraph.TimelineContracts

open Checks ContractText JsonValues Utf8Text StorageIdentity ReceiptContracts

open RevocationContracts (ShortText)

/-- Evidence views, from the least to the most privileged. -/
inductive TimelineAudience
  | publicDemo | operator | securityAudit | restricted
  deriving DecidableEq,Repr

def TimelineAudience.rank : TimelineAudience → Nat
  | .publicDemo => 0
  | .operator => 1
  | .securityAudit => 2
  | .restricted => 3

/-- Source families of the timeline. -/
inductive TimelineEvidenceClass
  | authority | capability | task | health | decision | mutation | recovery | verification
  | modelAssistance | operatorAction
  deriving DecidableEq,Repr

/-- Event types of the timeline. -/
inductive TimelineEventType
  | authorityRootCreated | authorityEpochAdvanced | capabilityIssued | taskCreated | taskDelivered
  | healthObserved | healthDecided | mutationRequested | mutationApplied | mutationDenied
  | mutationAmbiguous | recoveryIntentCreated | recoveryTaskCreated | recoveryApplied
  | verificationRecorded | terminalClassified | modelAssistanceRecorded | operatorActionRecorded
  deriving DecidableEq,Repr

/-- Source family of an event type. -/
def eventClass : TimelineEventType → TimelineEvidenceClass
  | .authorityRootCreated => .authority
  | .authorityEpochAdvanced => .authority
  | .capabilityIssued => .capability
  | .taskCreated => .task
  | .taskDelivered => .task
  | .healthObserved => .health
  | .healthDecided => .decision
  | .mutationRequested => .mutation
  | .mutationApplied => .mutation
  | .mutationDenied => .mutation
  | .mutationAmbiguous => .mutation
  | .recoveryIntentCreated => .recovery
  | .recoveryTaskCreated => .recovery
  | .recoveryApplied => .recovery
  | .verificationRecorded => .verification
  | .terminalClassified => .verification
  | .modelAssistanceRecorded => .modelAssistance
  | .operatorActionRecorded => .operatorAction

/-- Roles of an actor. -/
inductive TimelineActorRole
  | operator | api | coordinator | issuer | executor | recovery | verifier | evidenceWriter
  | advisor | target | system
  deriving DecidableEq,Repr

/-- Kinds of a correlation. -/
inductive TimelineCorrelationKind
  | request | receipt | evidence | capability | task | decision | mutation | recovery
  | verification | model | operatorAction
  deriving DecidableEq,Repr

/-- Wire text of a correlation kind. -/
def TimelineCorrelationKind.value : TimelineCorrelationKind → String
  | .request => "REQUEST"
  | .receipt => "RECEIPT"
  | .evidence => "EVIDENCE"
  | .capability => "CAPABILITY"
  | .task => "TASK"
  | .decision => "DECISION"
  | .mutation => "MUTATION"
  | .recovery => "RECOVERY"
  | .verification => "VERIFICATION"
  | .model => "MODEL"
  | .operatorAction => "OPERATOR_ACTION"

/-- Verification states of an event. -/
inductive TimelineVerificationStatus
  | notApplicable | unverified | verified | failed | ambiguous
  deriving DecidableEq,Repr

/-- Terminal classifications. -/
inductive TimelineTerminalClassification
  | none | promoted | recovered | revoked | denied | failedSafe | ambiguous
  deriving DecidableEq,Repr

/-- Names of display fields. -/
inductive TimelineDisplayFieldName
  | summary | action | state | outcome | reasonCode | revision | observation | window | nextAction
  deriving DecidableEq,Repr

/-- Wire text of a display field name. -/
def TimelineDisplayFieldName.value : TimelineDisplayFieldName → String
  | .summary => "SUMMARY"
  | .action => "ACTION"
  | .state => "STATE"
  | .outcome => "OUTCOME"
  | .reasonCode => "REASON_CODE"
  | .revision => "REVISION"
  | .observation => "OBSERVATION"
  | .window => "WINDOW"
  | .nextAction => "NEXT_ACTION"

/-- What a signature is for. -/
inductive TimelineSignaturePurpose
  | capability | evidence | healthAttestation | independentVerification | recoveryPrestate
  | classificationEvidence
  deriving DecidableEq,Repr

/-- A contract version: a name and a version number under the product name. -/
def isContractVersion (text : String) : Bool :=
  let name := (text.toList.drop 13).takeWhile (fun character =>
    isLower character || isDecimal character || character== '-')
  match (text.toList.drop 13).dropWhile (fun character =>
      isLower character || isDecimal character || character== '-') with
  | '/':: 'v'::first::rest => "controlgraph.".toList.isPrefixOf text.toList && !name.isEmpty &&
      isDecimal first && first != '0' && rest.all isDecimal && 20 ≤ text.length &&
      text.length≤128
  | _ => false

/-- A contract version of a source record. -/
abbrev ContractVersion := {text : String // isContractVersion text=true}

/-- Letters and digits of a segment of a resource name. -/
def isResourceSegment (segment : List Char) : Bool :=
  !segment.isEmpty && segment.all (fun character =>
    isAlphanumeric character || character== '_' || character== '-')

/-- Name of a version of a signing key: five labelled segments. -/
def isKeyVersion (text : String) : Bool :=
  text.length ≤ 512 && match text.toList.splitOn '/' with
  | [projects,project,locations,location,rings,ring,keys,key,versions,version] =>
    projects=="projects".toList && isHyphenatedName project && 6 ≤ project.length &&
      project.length ≤ 30 && locations=="locations".toList && !location.isEmpty &&
      location.all (fun character => isLower character || isDecimal character || character== '-') &&
      rings=="keyRings".toList && isResourceSegment ring && keys=="cryptoKeys".toList &&
      isResourceSegment key && versions=="cryptoKeyVersions".toList &&
      version.all isDecimal && version.head?.any (fun first => first != '0')
  | _ => false

abbrev KeyVersionResource := {text : String // isKeyVersion text=true}

/-- Days for which a raw record is kept. -/
abbrev RetentionDays := {days : Nat // 1 ≤ days ∧ days≤3650}

/-- Public bindings of a signature. -/
structure TimelineSignatureMetadataV1 where
  purpose : TimelineSignaturePurpose
  signing_key_version : KeyVersionResource
  payload_sha256 : Sha256Digest
  signing_input_sha256 : Sha256Digest
  signature_sha256 : Sha256Digest
  deriving DecidableEq

/-- A reference to a related record. -/
structure TimelineCorrelationV1 where
  kind : TimelineCorrelationKind
  correlation_id : Identifier
  /-- Least privileged view that may see the reference. -/
  data_class : TimelineAudience
  deriving DecidableEq

/-- A field shown to readers. -/
structure TimelineDisplayFieldV1 where
  name : TimelineDisplayFieldName
  value : ShortText
  /-- Least privileged view that may see the field. -/
  data_class : TimelineAudience
  deriving DecidableEq

def TimelineCorrelationV1.key (correlation : TimelineCorrelationV1) : String×String :=
  (correlation.kind.value,correlation.correlation_id.1)

/-- Order of correlation keys: by kind, then by identity. -/
def KeyOrdered (first second : String×String) : Prop :=
  first.1<second.1 ∨ first.1=second.1 ∧ first.2 ≤ second.2

instance : DecidableRel KeyOrdered := fun first second =>
  inferInstanceAs (Decidable (first.1<second.1 ∨ first.1=second.1 ∧ first.2 ≤ second.2))

/-- Correlations are unique and ordered. -/
def CanonicalCorrelations (correlations : List TimelineCorrelationV1) : Prop :=
  (correlations.map TimelineCorrelationV1.key).Nodup ∧
    (correlations.map TimelineCorrelationV1.key).Pairwise KeyOrdered

instance (correlations : List TimelineCorrelationV1) :
    Decidable (CanonicalCorrelations correlations) :=
  inferInstanceAs (Decidable (_ ∧ _))

/-- Display fields are unique and ordered by name. -/
def CanonicalDisplayFields (fields : List TimelineDisplayFieldV1) : Prop :=
  (fields.map (fun field => field.name.value)).Nodup ∧
    (fields.map (fun field => field.name.value)).Pairwise (fun first second => first ≤ second)

instance (fields : List TimelineDisplayFieldV1) : Decidable (CanonicalDisplayFields fields) :=
  inferInstanceAs (Decidable (_ ∧ _))

/-- One immutable event of a source, before it has a place in the timeline. -/
structure TimelineEventV1 where
  source_id : Identifier
  source_schema_version : ContractVersion
  raw_source_id : Identifier
  event_type : TimelineEventType
  evidence_class : TimelineEvidenceClass
  target : TargetBinding
  actor_role : TimelineActorRole
  actor_id : Identifier
  /-- Least privileged view that may see the actor. -/
  actor_data_class : TimelineAudience
  root_id : Identifier
  root_sha256 : Sha256Digest
  epoch : PositiveSafeInteger
  occurred_at : UtcSecond
  correlations : List TimelineCorrelationV1
  payload_sha256 : Sha256Digest
  raw_record_sha256 : Sha256Digest
  policy_sha256 : Sha256Digest
  raw_retention_days : RetentionDays
  signature : Option TimelineSignatureMetadataV1
  verification_status : TimelineVerificationStatus
  terminal_classification : TimelineTerminalClassification
  display_fields : List TimelineDisplayFieldV1
  /-- The type belongs to the family. -/
  class_matches : evidence_class=eventClass event_type
  correlations_bound : 1 ≤ correlations.length ∧ correlations.length≤16
  correlations_canonical : CanonicalCorrelations correlations
  display_fields_bound : 1 ≤ display_fields.length ∧ display_fields.length≤16
  display_fields_canonical : CanonicalDisplayFields display_fields
  terminal_matches : event_type=.terminalClassified ↔ terminal_classification≠.none
  signature_binds : ∀ metadata∈signature,metadata.payload_sha256=payload_sha256
  deriving DecidableEq

/-- Content of an entry. -/
structure TimelineEntryContentV1 where
  target : TargetBinding
  /-- Place of the entry, counted from one. -/
  sequence : PositiveSafeInteger
  previous_entry_sha256 : Option Sha256Digest
  recorded_at : UtcSecond
  event : TimelineEventV1
  target_matches : target=event.target
  /-- Only the first entry has nothing before it. -/
  predecessor : sequence.1=1 ↔ previous_entry_sha256=none
  deriving DecidableEq

/-- Exclusive cursor of a page read. -/
structure TimelinePageCommandV1 where
  target : TargetBinding
  /-- Last entry that was read before. -/
  after_sequence : Nat
  after_entry_sha256 : Option Sha256Digest
  /-- Greatest number of entries. -/
  limit : Nat
  audience : TimelineAudience
  sequence_safe : after_sequence≤9007199254740991
  /-- A page has one to a hundred entries. -/
  limit_bound : 1 ≤ limit ∧ limit≤100
  /-- Only the first page has no cursor digest. -/
  cursor : after_sequence=0 ↔ after_entry_sha256=none
  deriving DecidableEq

/-- Exclusive cursor of a raw export. -/
structure TimelineRawExportCommandV1 where
  target : TargetBinding
  /-- Last entry that was read before. -/
  after_sequence : Nat
  after_entry_sha256 : Option Sha256Digest
  /-- Greatest number of entries. -/
  limit : Nat
  sequence_safe : after_sequence≤9007199254740991
  /-- An export has one to twenty-five entries. -/
  limit_bound : 1 ≤ limit ∧ limit≤25
  /-- Only the first export has no cursor digest. -/
  cursor : after_sequence=0 ↔ after_entry_sha256=none
  deriving DecidableEq

/-- Fields of a deletion receipt. -/
structure TimelineRawDeletionReceiptFields where
  receipt_id : String
  target : TargetBinding
  sequence : PositiveSafeInteger
  entry_id : String
  entry_sha256 : Sha256Digest
  source_id : Identifier
  raw_source_id : Identifier
  record_sha256 : Sha256Digest
  expires_at : UtcSecond
  deletion_confirmed_at : UtcSecond
  deriving DecidableEq

/-- Contracts that are hashed. -/
inductive TimelineContract
  | target (target : TargetBinding)
  | event (event : TimelineEventV1)
  | entryContent (content : TimelineEntryContentV1)
  | pageCommand (command : TimelinePageCommandV1)
  | rawExportCommand (command : TimelineRawExportCommandV1)
  | rawDeletionReceipt (receipt : TimelineRawDeletionReceiptFields)

/-- The digest function and the digests of whole contracts. -/
structure TimelineFunctions where
  sha256 : Bytes → Sha256Digest
  canonical_sha256 : TimelineContract → Sha256Digest

def entryIdentity (entry_sha256 : Sha256Digest) : String := "cgtimeline:"++entry_sha256.1

/-- Pointer to the last entry of a target. -/
structure TimelineHeadV1 where
  target : TargetBinding
  /-- Place of the last entry. -/
  sequence : PositiveSafeInteger
  entry_id : String
  entry_sha256 : Sha256Digest
  updated_at : UtcSecond
  /-- The identity names the digest. -/
  entry_bound : entry_id=entryIdentity entry_sha256
  deriving DecidableEq

section

variable (functions : TimelineFunctions)

/-- An entry of the timeline, addressed by the digest of its content. -/
structure TimelineEntryV1 where
  entry_id : String
  entry_sha256 : Sha256Digest
  content : TimelineEntryContentV1
  addressed : entry_sha256=functions.canonical_sha256 (.entryContent content)
  /-- The identity names the digest. -/
  entry_bound : entry_id=entryIdentity entry_sha256
  deriving DecidableEq

end

end ControlGraph.TimelineContracts
