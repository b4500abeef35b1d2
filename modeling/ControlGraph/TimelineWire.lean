import ControlGraph.TimelinePages
import ControlGraph.UtcTimestamps

/-!
# Wire form of a timeline page

A page is dumped to a JSON object whose fields are those of its contract, with
the fixed version of each nested contract, enumerations as their texts, and
timestamps as texts of whole seconds.
-/

namespace ControlGraph.TimelineWire

open CalendarDays ContractText JsonValues TimelineContracts TimelineProjection TimelinePages
open UtcTimestamps

open ReceiptContracts (TargetBinding)

/-- Wire text of a view. -/
def audienceValue : TimelineAudience → String
  | .publicDemo => "PUBLIC_DEMO"
  | .operator => "OPERATOR"
  | .securityAudit => "SECURITY_AUDIT"
  | .restricted => "RESTRICTED"

/-- Wire text of a source family. -/
def evidenceClassValue : TimelineEvidenceClass → String
  | .authority => "AUTHORITY"
  | .capability => "CAPABILITY"
  | .task => "TASK"
  | .health => "HEALTH"
  | .decision => "DECISION"
  | .mutation => "MUTATION"
  | .recovery => "RECOVERY"
  | .verification => "VERIFICATION"
  | .modelAssistance => "MODEL_ASSISTANCE"
  | .operatorAction => "OPERATOR_ACTION"

/-- Wire text of an event type. -/
def eventTypeValue : TimelineEventType → String
  | .authorityRootCreated => "AUTHORITY_ROOT_CREATED"
  | .authorityEpochAdvanced => "AUTHORITY_EPOCH_ADVANCED"
  | .capabilityIssued => "CAPABILITY_ISSUED"
  | .taskCreated => "TASK_CREATED"
  | .taskDelivered => "TASK_DELIVERED"
  | .healthObserved => "HEALTH_OBSERVED"
  | .healthDecided => "HEALTH_DECIDED"
  | .mutationRequested => "MUTATION_REQUESTED"
  | .mutationApplied => "MUTATION_APPLIED"
  | .mutationDenied => "MUTATION_DENIED"
  | .mutationAmbiguous => "MUTATION_AMBIGUOUS"
  | .recoveryIntentCreated => "RECOVERY_INTENT_CREATED"
  | .recoveryTaskCreated => "RECOVERY_TASK_CREATED"
  | .recoveryApplied => "RECOVERY_APPLIED"
  | .verificationRecorded => "VERIFICATION_RECORDED"
  | .terminalClassified => "TERMINAL_CLASSIFIED"
  | .modelAssistanceRecorded => "MODEL_ASSISTANCE_RECORDED"
  | .operatorActionRecorded => "OPERATOR_ACTION_RECORDED"

/-- Wire text of a role. -/
def actorRoleValue : TimelineActorRole → String
  | .operator => "OPERATOR"
  | .api => "API"
  | .coordinator => "COORDINATOR"
  | .issuer => "ISSUER"
  | .executor => "EXECUTOR"
  | .recovery => "RECOVERY"
  | .verifier => "VERIFIER"
  | .evidenceWriter => "EVIDENCE_WRITER"
  | .advisor => "ADVISOR"
  | .target => "TARGET"
  | .system => "SYSTEM"

/-- Wire text of a verification state. -/
def verificationStatusValue : TimelineVerificationStatus → String
  | .notApplicable => "NOT_APPLICABLE"
  | .unverified => "UNVERIFIED"
  | .verified => "VERIFIED"
  | .failed => "FAILED"
  | .ambiguous => "AMBIGUOUS"

/-- Wire text of a terminal classification. -/
def terminalClassificationValue : TimelineTerminalClassification → String
  | .none => "NONE"
  | .promoted => "PROMOTED"
  | .recovered => "RECOVERED"
  | .revoked => "REVOKED"
  | .denied => "DENIED"
  | .failedSafe => "FAILED_SAFE"
  | .ambiguous => "AMBIGUOUS"

/-- Wire text of a purpose. -/
def signaturePurposeValue : TimelineSignaturePurpose → String
  | .capability => "CAPABILITY"
  | .evidence => "EVIDENCE"
  | .healthAttestation => "HEALTH_ATTESTATION"
  | .independentVerification => "INDEPENDENT_VERIFICATION"
  | .recoveryPrestate => "RECOVERY_PRESTATE"
  | .classificationEvidence => "CLASSIFICATION_EVIDENCE"

/-- A string value. -/
def text (value : String) : Json := .str (chars value)

def integer (value : Nat) : Json := .int value

/-- A value or the null literal. -/
def nullable {Value : Type} (json : Value → Json) : Option Value → Json
  | some value => json value
  | none => .null

def digest (value : Sha256Digest) : Json := text value.1

def timestamp (second : UtcSecond) : Json := .str (utcSecondText (timeOfSecond second.1))

/-- An object with the fields of a contract. -/
def object (fields : List (String×Json)) : Json :=
  .obj (fields.map (fun field => (chars field.1,field.2)))

def targetFields (target : TargetBinding) : List (String×Json) :=
  [("schema_version",text "controlgraph.target-binding/v1"),
    ("project_id",text target.project_id.1),("region",text target.region.1),
    ("environment",text target.environment.1),("service_name",text target.service_name.1)]

def correlationFields (item : TimelineCorrelationV1) : List (String×Json) :=
  [("schema_version",text "controlgraph.timeline-correlation/v1"),("kind",text item.kind.value),
    ("correlation_id",text item.correlation_id.1),("data_class",text (audienceValue item.data_class))]

def displayFieldFields (item : TimelineDisplayFieldV1) : List (String×Json) :=
  [("schema_version",text "controlgraph.timeline-display-field/v1"),("name",text item.name.value),
    ("value",text item.value.1),("data_class",text (audienceValue item.data_class))]

def signatureFields (signature : TimelineSignatureMetadataV1) : List (String×Json) :=
  [("schema_version",text "controlgraph.timeline-signature-metadata/v1"),
    ("purpose",text (signaturePurposeValue signature.purpose)),
    ("signing_key_version",text signature.signing_key_version.1),
    ("signing_algorithm",text "EC_SIGN_P256_SHA256"),
    ("payload_sha256",digest signature.payload_sha256),
    ("signing_input_sha256",digest signature.signing_input_sha256),
    ("signature_sha256",digest signature.signature_sha256)]

def entryFields (entry : TimelineEntryProjectionV1) : List (String×Json) :=
  [("schema_version",text "controlgraph.timeline-entry-projection/v1"),
    ("audience",text (audienceValue entry.audience)),("entry_id",text entry.entry_id),
    ("entry_sha256",digest entry.entry_sha256),("sequence",integer entry.sequence.1),
    ("previous_entry_sha256",nullable digest entry.previous_entry_sha256),
    ("target",object (targetFields entry.target)),
    ("source_schema_version",text entry.source_schema_version.1),
    ("event_type",text (eventTypeValue entry.event_type)),
    ("evidence_class",text (evidenceClassValue entry.evidence_class)),
    ("actor_role",text (actorRoleValue entry.actor_role)),
    ("actor_id",nullable (fun actor_id => text actor_id.1) entry.actor_id),
    ("actor_data_class",text (audienceValue entry.actor_data_class)),
    ("root_id",text entry.root_id.1),("root_sha256",digest entry.root_sha256),
    ("epoch",integer entry.epoch.1),("occurred_at",timestamp entry.occurred_at),
    ("recorded_at",timestamp entry.recorded_at),
    ("correlations",.arr (entry.correlations.map (fun item => object (correlationFields item)))),
    ("payload_sha256",digest entry.payload_sha256),("policy_sha256",digest entry.policy_sha256),
    ("raw_retention_days",integer entry.raw_retention_days.1),
    ("signature",nullable (fun signature => object (signatureFields signature)) entry.signature),
    ("verification_status",text (verificationStatusValue entry.verification_status)),
    ("terminal_classification",text (terminalClassificationValue entry.terminal_classification)),
    ("display_fields",.arr (entry.display_fields.map (fun item => object (displayFieldFields item))))]

def commandFields (command : TimelinePageCommandV1) : List (String×Json) :=
  [("schema_version",text "controlgraph.timeline-page-command/v1"),
    ("target",object (targetFields command.target)),
    ("after_sequence",integer command.after_sequence),
    ("after_entry_sha256",nullable digest command.after_entry_sha256),
    ("limit",integer command.limit),("audience",text (audienceValue command.audience))]

def pageFields (page : TimelinePageFields) : List (String×Json) :=
  [("schema_version",text "controlgraph.timeline-page/v1"),
    ("command",object (commandFields page.command)),("command_sha256",digest page.command_sha256),
    ("entries",.arr (page.entries.map (fun entry => object (entryFields entry)))),
    ("next_after_sequence",integer page.next_after_sequence),
    ("next_after_entry_sha256",nullable digest page.next_after_entry_sha256),
    ("head_sequence",integer page.head_sequence),
    ("head_entry_sha256",nullable digest page.head_entry_sha256),("has_more",.bool page.has_more)]

def pageJson (page : TimelinePageFields) : Json := object (pageFields page)

end ControlGraph.TimelineWire
