import ControlGraph.ConsoleCodec
import ControlGraph.SecretPatterns
import ControlGraph.TimelineContracts

/-!
# The console's reading of a timeline page

The console parses a canonical text and reads a page out of it, record by
record: it refuses an unknown field, bounds every text in code units, tests it
against a pattern, and checks the order of entries and cursors again. A shown
text that looks like a secret is replaced once more. Every pattern except the
one for rendering controls describes ASCII texts.
-/

namespace ControlGraph.ConsoleTimeline

open Checks ConsoleCodec ContractText JsonValues SecretPatterns Utf16Text

/-- The console's platform with its table of rendering controls. -/
structure ConsoleRuntime extends Runtime where
  isRenderingControl : Nat → Bool
  visible_ascii : ∀ character,32 ≤ character → character < 127 → isRenderingControl character=false

/-- A value that may be undefined. -/
abbrev Unknown := Option Json

def property (fields : List (Text×Json)) (key : String) : Unknown := fields.lookup (chars key)

/-- The text of some code units. -/
def stringOf (units : Text) : String := String.ofList ((fromUnits units).map Char.ofNat)

def asciiPattern (test : String → Bool) (units : Text) : Bool :=
  units.all (fun unit => unit < 128) && test (stringOf units)

def projectId (value : String) : Bool :=
  isHyphenatedName value.toList && 6 ≤ value.length && value.length ≤ 30

def cloudRunName (value : String) : Bool := isHyphenatedName value.toList && value.length ≤ 63

/-- Contract versions of any length. -/
def contractVersion (value : String) : Bool :=
  let inName := fun character => isLower character || isDecimal character || character== '-'
  "controlgraph.".toList.isPrefixOf value.toList &&
    match (value.toList.drop 13).takeWhile inName,(value.toList.drop 13).dropWhile inName with
    | _::_,'/':: 'v'::first::rest => isDecimal first && first != '0' && rest.all isDecimal
    | _,_ => false

/-- Wire texts of the views. -/
def timelineAudiences : List String := ["PUBLIC_DEMO","OPERATOR","SECURITY_AUDIT","RESTRICTED"]

/-- Wire texts of the source families. -/
def evidenceClasses : List String :=
  ["AUTHORITY","CAPABILITY","TASK","HEALTH","DECISION","MUTATION","RECOVERY","VERIFICATION",
    "MODEL_ASSISTANCE","OPERATOR_ACTION"]

/-- Source family of every event type. -/
def eventEvidenceClass : List (String×String) :=
  [("AUTHORITY_ROOT_CREATED","AUTHORITY"),("AUTHORITY_EPOCH_ADVANCED","AUTHORITY"),
    ("CAPABILITY_ISSUED","CAPABILITY"),("TASK_CREATED","TASK"),("TASK_DELIVERED","TASK"),
    ("HEALTH_OBSERVED","HEALTH"),("HEALTH_DECIDED","DECISION"),("MUTATION_REQUESTED","MUTATION"),
    ("MUTATION_APPLIED","MUTATION"),("MUTATION_DENIED","MUTATION"),
    ("MUTATION_AMBIGUOUS","MUTATION"),("RECOVERY_INTENT_CREATED","RECOVERY"),
    ("RECOVERY_TASK_CREATED","RECOVERY"),("RECOVERY_APPLIED","RECOVERY"),
    ("VERIFICATION_RECORDED","VERIFICATION"),("TERMINAL_CLASSIFIED","VERIFICATION"),
    ("MODEL_ASSISTANCE_RECORDED","MODEL_ASSISTANCE"),("OPERATOR_ACTION_RECORDED","OPERATOR_ACTION")]

/-- Wire texts of the event types. -/
def eventTypes : List String :=
  ["AUTHORITY_ROOT_CREATED","AUTHORITY_EPOCH_ADVANCED","CAPABILITY_ISSUED","TASK_CREATED",
    "TASK_DELIVERED","HEALTH_OBSERVED","HEALTH_DECIDED","MUTATION_REQUESTED","MUTATION_APPLIED",
    "MUTATION_DENIED","MUTATION_AMBIGUOUS","RECOVERY_INTENT_CREATED","RECOVERY_TASK_CREATED",
    "RECOVERY_APPLIED","VERIFICATION_RECORDED","TERMINAL_CLASSIFIED","MODEL_ASSISTANCE_RECORDED",
    "OPERATOR_ACTION_RECORDED"]

/-- Wire texts of the roles. -/
def actorRoles : List String :=
  ["OPERATOR","API","COORDINATOR","ISSUER","EXECUTOR","RECOVERY","VERIFIER","EVIDENCE_WRITER",
    "ADVISOR","TARGET","SYSTEM"]

/-- Wire texts of the correlation kinds. -/
def correlationKinds : List String :=
  ["REQUEST","RECEIPT","EVIDENCE","CAPABILITY","TASK","DECISION","MUTATION","RECOVERY",
    "VERIFICATION","MODEL","OPERATOR_ACTION"]

/-- Wire texts of the display field names. -/
def displayFieldNames : List String :=
  ["SUMMARY","ACTION","STATE","OUTCOME","REASON_CODE","REVISION","OBSERVATION","WINDOW",
    "NEXT_ACTION"]

/-- Wire texts of the verification states. -/
def verificationStatuses : List String :=
  ["NOT_APPLICABLE","UNVERIFIED","VERIFIED","FAILED","AMBIGUOUS"]

/-- Wire texts of the terminal classifications. -/
def terminalClassifications : List String :=
  ["NONE","PROMOTED","RECOVERED","REVOKED","DENIED","FAILED_SAFE","AMBIGUOUS"]

/-- Wire texts of the purposes of a signature. -/
def signaturePurposes : List String :=
  ["CAPABILITY","EVIDENCE","HEALTH_ATTESTATION","INDEPENDENT_VERIFICATION","RECOVERY_PRESTATE",
    "CLASSIFICATION_EVIDENCE"]

def audienceRank (audience : Text) : Nat := (timelineAudiences.map chars).idxOf audience

/-- A target as the console keeps it. -/
structure ConsoleTarget where
  project_id : Text
  region : Text
  environment : Text
  service_name : Text
  deriving DecidableEq

/-- A place of the timeline. -/
structure TimelineCursor where
  /-- Last entry that was read. -/
  afterSequence : Int
  afterEntrySha256 : Option Text
  deriving DecidableEq

/-- What the console asked for, for its operator. -/
structure TimelineQuery extends TimelineCursor where
  /-- Greatest number of entries. -/
  limit : Nat

/-- A reference to a related record. -/
structure TimelineCorrelation where
  kind : Text
  correlationId : Text
  deriving DecidableEq

/-- A field shown to the operator. -/
structure TimelineDisplayField where
  name : Text
  value : Text
  deriving DecidableEq

/-- Public bindings of a signature. -/
structure TimelineSignatureMetadata where
  purpose : Text
  signingKeyVersion : Text
  payloadSha256 : Text
  signingInputSha256 : Text
  signatureSha256 : Text
  deriving DecidableEq

/-- An entry as the console keeps it. -/
structure TimelineEntry where
  entryId : Text
  entrySha256 : Text
  sequence : Int
  previousEntrySha256 : Option Text
  target : ConsoleTarget
  sourceSchemaVersion : Text
  eventType : Text
  evidenceClass : Text
  actorRole : Text
  actorId : Option Text
  rootId : Text
  rootSha256 : Text
  epoch : Int
  occurredAt : Text
  recordedAt : Text
  correlations : List TimelineCorrelation
  payloadSha256 : Text
  policySha256 : Text
  signature : Option TimelineSignatureMetadata
  verificationStatus : Text
  terminalClassification : Text
  displayFields : List TimelineDisplayField
  deriving DecidableEq

/-- A page as the console keeps it. -/
structure TimelinePage where
  target : ConsoleTarget
  entries : List TimelineEntry
  /-- Last entry of the page. -/
  nextCursor : TimelineCursor
  /-- Last entry of the timeline. -/
  head : TimelineCursor
  hasMore : Bool
  deriving DecidableEq

def isText (value : Unknown) (literal : String) : Bool :=
  match value with
  | some (.str text) => text=chars literal
  | _ => false

def isNumber (value : Unknown) (number : Int) : Bool :=
  match value with
  | some (.int other) => other=number
  | _ => false

/-- Whether a value is a text, or the null literal for none. -/
def isNullableText (value : Unknown) (text : Option Text) : Bool :=
  match value,text with
  | some (.str other),some text => other=text
  | some .null,none => true
  | _,_ => false

/-- Fields of a record, which has no unknown one. -/
def record (value : Unknown) (name : String) (allowed : List String) :
    Except String (List (Text×Json)) :=
  match value with
  | some (.obj fields) => do
    require (∀ field∈fields,field.1∈allowed.map chars) (name++" contains an unknown field")
    return fields
  | _ => .error (name++" must be an object")

/-- Items of a bounded array. -/
def array (value : Unknown) (name : String) (maximum : Nat) : Except String (List Json) :=
  match value with
  | some (.arr items) => do
    require (items.length ≤ maximum) (name++" is outside its bounds")
    return items
  | _ => .error (name++" is outside its bounds")

def integer (value : Unknown) (name : String) (minimum : Int) : Except String Int :=
  match value with
  | some (.int number) => do
    require (-maxSafeInteger ≤ number ∧ number ≤ maxSafeInteger ∧ minimum ≤ number)
      (name++" is invalid")
    return number
  | _ => .error (name++" is invalid")

/-- One of some texts. -/
def enumeration (value : Unknown) (name : String) (values : List String) : Except String Text :=
  match value with
  | some (.str text) => do
    require (text∈values.map chars) (name++" is unsupported")
    return text
  | _ => .error (name++" is unsupported")

/-- Whether a text looks like a secret. -/
def isSecretShaped (value : Text) : Bool :=
  SecretPatterns.isSecretShaped consoleDialect (stringOf value)

/-- A shown text without a secret. -/
def redactDisplayValue (value : Text) : Text :=
  if isSecretShaped value then chars redactedDisplayValue else value

def sameTarget (left right : ConsoleTarget) : Bool :=
  left.project_id=right.project_id ∧ left.region=right.region ∧
    left.environment=right.environment ∧ left.service_name=right.service_name

def TimelineCorrelation.key (entry : TimelineCorrelation) : Text := entry.kind++0::entry.correlationId

/-- Whether keys are unique and in order. -/
def canonicalKeys (keys : List Text) : Bool :=
  keys.Nodup ∧ [0].intercalate keys=[0].intercalate (keys.insertionSort (· ≤ ·))

section

variable (runtime : ConsoleRuntime)

/-- A text in normal form whose number of units is bounded. -/
def string (value : Unknown) (name : String) (minimum maximum : Nat) : Except String Text :=
  match value with
  | some (.str text) => do
    require (minimum ≤ text.length ∧ text.length ≤ maximum ∧
      toUnits (runtime.tables.nfc (fromUnits text))=text) (name++" is invalid")
    return text
  | _ => .error (name++" is invalid")

/-- A bounded text without rendering controls. -/
def safeText (value : Unknown) (name : String) : Except String Text := do
  let text ← string runtime value name 1 512
  require (∀ character∈fromUnits text,runtime.isRenderingControl character=false)
    (name++" contains a rendering control")
  return text

/-- A bounded text of a pattern. -/
def matchingString (value : Unknown) (name : String) (pattern : String → Bool) (maximum : Nat) :
    Except String Text := do
  let text ← string runtime value name 1 maximum
  require (asciiPattern pattern text=true) (name++" is invalid")
  return text

def digest (value : Unknown) (name : String) : Except String Text :=
  matchingString runtime value name isSha256 64

/-- A digest, or none for the null literal. -/
def nullableDigest (value : Unknown) (name : String) : Except String (Option Text) :=
  match value with
  | some .null => return none
  | value => do
    let text ← digest runtime value name
    return some text

/-- A timestamp. -/
def utcSecond (value : Unknown) (name : String) : Except String Text := do
  let timestamp ← string runtime value name 20 20
  assertUtcSecondTimestamp runtime.toRuntime timestamp
  return timestamp

def parseTarget (value : Unknown) : Except String ConsoleTarget := do
  let item ← record value "timeline target"
    ["schema_version","project_id","region","environment","service_name"]
  require (isText (property item "schema_version") "controlgraph.target-binding/v1"=true)
    "timeline target version is unsupported"
  let project_id ← matchingString runtime (property item "project_id") "target project" projectId 30
  let region ← matchingString runtime (property item "region") "target region" isRegion 32
  let environment ←
    matchingString runtime (property item "environment") "target environment" isIdentifier 128
  let service_name ←
    matchingString runtime (property item "service_name") "target service" cloudRunName 63
  return ⟨project_id,region,environment,service_name⟩

/-- Read a correlation, which is dropped if it looks like a secret. -/
def parseCorrelation (value : Json) : Except String (Option TimelineCorrelation) := do
  let item ← record (some value) "timeline correlation"
    ["schema_version","kind","correlation_id","data_class"]
  require (isText (property item "schema_version") "controlgraph.timeline-correlation/v1"=true)
    "timeline correlation version is unsupported"
  let dataClass ← enumeration (property item "data_class") "correlation audience" timelineAudiences
  require (audienceRank dataClass ≤ audienceRank (chars "OPERATOR"))
    "timeline correlation exceeds the operator audience"
  let correlationId ←
    matchingString runtime (property item "correlation_id") "correlation identity" isIdentifier 128
  if isSecretShaped correlationId then return none
  else
    let kind ← enumeration (property item "kind") "correlation kind" correlationKinds
    return some ⟨kind,correlationId⟩

/-- Read a shown field without a secret. -/
def parseDisplayField (value : Json) : Except String TimelineDisplayField := do
  let item ← record (some value) "timeline display field"
    ["schema_version","name","value","data_class"]
  require (isText (property item "schema_version") "controlgraph.timeline-display-field/v1"=true)
    "timeline display field version is unsupported"
  let dataClass ← enumeration (property item "data_class") "display field audience" timelineAudiences
  require (audienceRank dataClass ≤ audienceRank (chars "OPERATOR"))
    "timeline display field exceeds the operator audience"
  let name ← enumeration (property item "name") "display field name" displayFieldNames
  let shown ← safeText runtime (property item "value") "display field value"
  return ⟨name,redactDisplayValue shown⟩

/-- Read a signature, or none for the null literal. -/
def parseSignature (value : Unknown) : Except String (Option TimelineSignatureMetadata) :=
  match value with
  | some .null => return none
  | value => do
    let item ← record value "timeline signature metadata"
      ["schema_version","purpose","signing_key_version","signing_algorithm","payload_sha256",
        "signing_input_sha256","signature_sha256"]
    require (isText (property item "schema_version")
        "controlgraph.timeline-signature-metadata/v1"=true ∧
        isText (property item "signing_algorithm") "EC_SIGN_P256_SHA256"=true)
      "timeline signature metadata is unsupported"
    let purpose ← enumeration (property item "purpose") "timeline signature purpose" signaturePurposes
    let signingKeyVersion ← matchingString runtime (property item "signing_key_version")
      "timeline signing key" TimelineContracts.isKeyVersion 512
    let payloadSha256 ← digest runtime (property item "payload_sha256") "payload digest"
    let signingInputSha256 ←
      digest runtime (property item "signing_input_sha256") "signing input digest"
    let signatureSha256 ← digest runtime (property item "signature_sha256") "signature digest"
    return some ⟨purpose,signingKeyVersion,payloadSha256,signingInputSha256,signatureSha256⟩

def entryFieldNames : List String :=
  ["schema_version","audience","entry_id","entry_sha256","sequence","previous_entry_sha256",
    "target","source_schema_version","event_type","evidence_class","actor_role","actor_id",
    "actor_data_class","root_id","root_sha256","epoch","occurred_at","recorded_at","correlations",
    "payload_sha256","policy_sha256","raw_retention_days","signature","verification_status",
    "terminal_classification","display_fields"]

/-- An identity, or none for the null literal. -/
def nullableIdentity (value : Unknown) (name : String) : Except String (Option Text) :=
  match value with
  | some .null => return none
  | value => do
    let text ← matchingString runtime value name isIdentifier 128
    return some text

def parseEntry (value : Json) : Except String TimelineEntry := do
  let item ← record (some value) "timeline entry" entryFieldNames
  require (isText (property item "schema_version")
      "controlgraph.timeline-entry-projection/v1"=true ∧
      isText (property item "audience") "OPERATOR"=true)
    "timeline entry projection is unsupported"
  let actorDataClass ← enumeration (property item "actor_data_class") "actor audience" timelineAudiences
  let rawRetentionDays ← integer (property item "raw_retention_days") "raw retention days" 1
  require (rawRetentionDays ≤ 3650) "raw retention days is invalid"
  let entrySha256 ← digest runtime (property item "entry_sha256") "entry digest"
  let entryId ← matchingString runtime (property item "entry_id") "entry identity" isIdentifier 128
  require (entryId=chars "cgtimeline:"++entrySha256) "timeline entry identity is invalid"
  let sequence ← integer (property item "sequence") "timeline sequence" 1
  let previousEntrySha256 ←
    nullableDigest runtime (property item "previous_entry_sha256") "previous entry digest"
  require (sequence=1 ↔ previousEntrySha256=none) "timeline entry predecessor is invalid"
  let actorId ← nullableIdentity runtime (property item "actor_id") "actor identity"
  require (¬(actorId≠none ∧ audienceRank (chars "OPERATOR") < audienceRank actorDataClass))
    "timeline projection exposes a restricted actor"
  let correlationItems ← array (property item "correlations") "timeline correlations" 16
  let parsedCorrelations ← correlationItems.mapM (parseCorrelation runtime)
  let correlations := parsedCorrelations.filterMap id
  let displayItems ← array (property item "display_fields") "timeline display fields" 16
  let displayFields ← displayItems.mapM (parseDisplayField runtime)
  require (canonicalKeys (correlations.map TimelineCorrelation.key)=true ∧
      canonicalKeys (displayFields.map TimelineDisplayField.name)=true)
    "timeline projection contains duplicate display data"
  let rootSha256 ← digest runtime (property item "root_sha256") "root digest"
  let rootId ← matchingString runtime (property item "root_id") "root identity" isIdentifier 128
  require (rootId=chars "cgroot:"++rootSha256) "timeline root identity is invalid"
  let signature ← parseSignature runtime (property item "signature")
  let payloadSha256 ← digest runtime (property item "payload_sha256") "payload digest"
  require (∀ metadata∈signature,metadata.payloadSha256=payloadSha256)
    "timeline signature metadata is not payload-bound"
  let eventType ← enumeration (property item "event_type") "timeline event type" eventTypes
  let evidenceClass ←
    enumeration (property item "evidence_class") "timeline evidence class" evidenceClasses
  let terminalClassification ← enumeration (property item "terminal_classification")
    "terminal classification" terminalClassifications
  require ((eventEvidenceClass.map (fun row => (chars row.1,chars row.2))).lookup eventType=
        some evidenceClass ∧
      (eventType=chars "TERMINAL_CLASSIFIED" ↔ terminalClassification≠chars "NONE"))
    "timeline event classification is invalid"
  let target ← parseTarget runtime (property item "target")
  let sourceSchemaVersion ← matchingString runtime (property item "source_schema_version")
    "source schema version" contractVersion 128
  let actorRole ← enumeration (property item "actor_role") "timeline actor role" actorRoles
  let epoch ← integer (property item "epoch") "timeline epoch" 1
  let occurredAt ← utcSecond runtime (property item "occurred_at") "event time"
  let recordedAt ← utcSecond runtime (property item "recorded_at") "recorded time"
  let policySha256 ← digest runtime (property item "policy_sha256") "policy digest"
  let verificationStatus ←
    enumeration (property item "verification_status") "verification status" verificationStatuses
  return {
    entryId := entryId
    entrySha256 := entrySha256
    sequence := sequence
    previousEntrySha256 := previousEntrySha256
    target := target
    sourceSchemaVersion := sourceSchemaVersion
    eventType := eventType
    evidenceClass := evidenceClass
    actorRole := actorRole
    actorId := actorId.filter (fun actor => !isSecretShaped actor)
    rootId := rootId
    rootSha256 := rootSha256
    epoch := epoch
    occurredAt := occurredAt
    recordedAt := recordedAt
    correlations := correlations
    payloadSha256 := payloadSha256
    policySha256 := policySha256
    signature := signature
    verificationStatus := verificationStatus
    terminalClassification := terminalClassification
    displayFields := displayFields }

/-- Whether every entry stands at its place of a target, behind the entry before it. -/
def contiguous (target : ConsoleTarget) : Int → Option Text → List TimelineEntry → Bool
  | _,_,[] => true
  | expectedSequence,predecessor,entry::entries =>
    sameTarget entry.target target && entry.sequence=expectedSequence &&
      entry.previousEntrySha256=predecessor &&
        contiguous target (expectedSequence+1) (some entry.entrySha256) entries

/-- A truth value. -/
def boolean (value : Unknown) (error : String) : Except String Bool :=
  match value with
  | some (.bool flag) => .ok flag
  | _ => .error error

/-- Decode a page and check that it answers a query. -/
def decodeTimelinePage (text : Text) (query : TimelineQuery) : Except String TimelinePage := do
  let value ← decodeVersionedCanonicalJson runtime.toRuntime text (chars "controlgraph.timeline-page/v1")
  let page ← record (some (.obj value)) "timeline page"
    ["schema_version","command","command_sha256","entries","next_after_sequence",
      "next_after_entry_sha256","head_sequence","head_entry_sha256","has_more"]
  let command ← record (property page "command") "timeline command"
    ["schema_version","target","after_sequence","after_entry_sha256","limit","audience"]
  require (isText (property command "schema_version") "controlgraph.timeline-page-command/v1"=true ∧
      isText (property command "audience") "OPERATOR"=true ∧
      isNumber (property command "after_sequence") query.afterSequence=true ∧
      isNullableText (property command "after_entry_sha256") query.afterEntrySha256=true ∧
      isNumber (property command "limit") query.limit=true)
    "timeline response does not bind its query"
  let _ ← digest runtime (property page "command_sha256") "timeline command digest"
  let target ← parseTarget runtime (property command "target")
  let items ← array (property page "entries") "timeline page entries" query.limit
  let entries ← items.mapM (parseEntry runtime)
  require (contiguous target (query.afterSequence+1) query.afterEntrySha256 entries=true)
    "timeline page is not one contiguous target sequence"
  let nextSequence ← integer (property page "next_after_sequence") "next sequence" 0
  let nextSha256 ←
    nullableDigest runtime (property page "next_after_entry_sha256") "next entry digest"
  let headSequence ← integer (property page "head_sequence") "head sequence" 0
  let headSha256 ← nullableDigest runtime (property page "head_entry_sha256") "head entry digest"
  let hasMore ← boolean (property page "has_more") "timeline response cursor is invalid"
  require ((nextSequence=0 ↔ nextSha256=none) ∧ (headSequence=0 ↔ headSha256=none) ∧
      nextSequence=(entries.getLast?.map TimelineEntry.sequence).getD query.afterSequence ∧
      nextSha256=(entries.getLast?.map (fun entry => some entry.entrySha256)).getD
        query.afterEntrySha256 ∧
      nextSequence ≤ headSequence ∧ (hasMore=true ↔ nextSequence < headSequence) ∧
      ¬(query.afterSequence < headSequence ∧ entries=[]) ∧
      (nextSequence=headSequence → nextSha256=headSha256))
    "timeline response cursor is invalid"
  return ⟨target,entries,⟨nextSequence,nextSha256⟩,⟨headSequence,headSha256⟩,hasMore⟩

end

end ControlGraph.ConsoleTimeline
