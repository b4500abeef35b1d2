import ControlGraph.TimelineContracts
import ControlGraph.SecretPatterns

/-!
# Views of a timeline entry

A reader of an audience sees an entry without the actor, the correlations and
the shown fields of a higher class. An actor or a correlation that looks like a
secret is dropped, and a shown field that does is replaced. All other fields are
copied. The contract of a view checks the classes and the canonical order again,
and every entry has a view: a filter keeps the order of what it keeps.
-/

namespace ControlGraph.TimelineProjection

open Checks ContractText SecretPatterns TimelineContracts

open ReceiptContracts (TargetBinding)

open RevocationContracts (ShortText)

section

variable (functions : TimelineFunctions)

/-- Fields of a view. -/
structure TimelineEntryProjectionFields where
  audience : TimelineAudience
  entry_id : String
  entry_sha256 : Sha256Digest
  sequence : PositiveSafeInteger
  previous_entry_sha256 : Option Sha256Digest
  target : TargetBinding
  source_schema_version : ContractVersion
  event_type : TimelineEventType
  evidence_class : TimelineEvidenceClass
  actor_role : TimelineActorRole
  actor_id : Option Identifier
  /-- Least privileged view that may see the actor. -/
  actor_data_class : TimelineAudience
  root_id : Identifier
  root_sha256 : Sha256Digest
  epoch : PositiveSafeInteger
  occurred_at : UtcSecond
  recorded_at : UtcSecond
  correlations : List TimelineCorrelationV1
  payload_sha256 : Sha256Digest
  policy_sha256 : Sha256Digest
  raw_retention_days : RetentionDays
  signature : Option TimelineSignatureMetadataV1
  verification_status : TimelineVerificationStatus
  terminal_classification : TimelineTerminalClassification
  display_fields : List TimelineDisplayFieldV1
  deriving DecidableEq

/-- Whether data of a class is visible to an audience. -/
def isVisible (data_class audience : TimelineAudience) : Bool := data_class.rank≤audience.rank

/-- Checks of a view. -/
def TimelineEntryProjectionFields.validateProjection (view : TimelineEntryProjectionFields) :
    Except Raised Unit := do
  require (view.correlations.length≤16 ∧ view.display_fields.length≤16) .validationError
  require (view.entry_id=entryIdentity view.entry_sha256)
    (.valueError "timeline projection does not bind its entry digest")
  require (view.sequence.1=1 ↔ view.previous_entry_sha256=none)
    (.valueError "timeline projection predecessor does not match its sequence")
  require (¬(view.actor_id≠none ∧ view.audience.rank<view.actor_data_class.rank))
    (.valueError "timeline projection exposes a restricted actor")
  require (CanonicalCorrelations view.correlations ∧
      (∀ correlation∈view.correlations,correlation.data_class.rank≤view.audience.rank) ∧
      CanonicalDisplayFields view.display_fields ∧
      ∀ field∈view.display_fields,field.data_class.rank≤view.audience.rank)
    (.valueError "timeline projection fields are not canonical for its audience")

/-- An entry as one audience sees it. -/
structure TimelineEntryProjectionV1 extends TimelineEntryProjectionFields where
  accepted : toTimelineEntryProjectionFields.validateProjection=.ok ()
  deriving DecidableEq

/-- Build a view, checking it. -/
def TimelineEntryProjectionFields.make (fields : TimelineEntryProjectionFields) :
    Except Raised TimelineEntryProjectionV1 :=
  match h : fields.validateProjection with
  | .ok () => .ok ⟨fields,h⟩
  | .error raised => .error raised

/-- The text shown instead of a secret, as a shown text. -/
def redactedText : ShortText := ⟨redactedDisplayValue,by decide +kernel⟩

section

variable (dialect : Dialect) (audience : TimelineAudience)

/-- The actor, where the audience may see it and it does not look like a secret. -/
def visibleActor (event : TimelineEventV1) : Option Identifier :=
  if isVisible event.actor_data_class audience && !isSecretShaped dialect event.actor_id.1 then
    some event.actor_id
  else none

/-- Correlations that the audience may see and that do not look like a secret. -/
def visibleCorrelations (correlations : List TimelineCorrelationV1) : List TimelineCorrelationV1 :=
  correlations.filter fun item =>
    isVisible item.data_class audience && !isSecretShaped dialect item.correlation_id.1

/-- A shown field without a secret. -/
def redactedField (item : TimelineDisplayFieldV1) : TimelineDisplayFieldV1 :=
  {item with value := if isSecretShaped dialect item.value.1 then redactedText else item.value}

/-- Shown fields that the audience may see, without secrets. -/
def visibleDisplayFields (fields : List TimelineDisplayFieldV1) : List TimelineDisplayFieldV1 :=
  (fields.filter fun item => isVisible item.data_class audience).map (redactedField dialect)

variable {functions}

/-- Fields of the view of an entry. -/
def projectedFields (entry : TimelineEntryV1 functions) : TimelineEntryProjectionFields where
  audience := audience
  entry_id := entry.entry_id
  entry_sha256 := entry.entry_sha256
  sequence := entry.content.sequence
  previous_entry_sha256 := entry.content.previous_entry_sha256
  target := entry.content.target
  source_schema_version := entry.content.event.source_schema_version
  event_type := entry.content.event.event_type
  evidence_class := entry.content.event.evidence_class
  actor_role := entry.content.event.actor_role
  actor_id := visibleActor dialect audience entry.content.event
  actor_data_class := entry.content.event.actor_data_class
  root_id := entry.content.event.root_id
  root_sha256 := entry.content.event.root_sha256
  epoch := entry.content.event.epoch
  occurred_at := entry.content.event.occurred_at
  recorded_at := entry.content.recorded_at
  correlations := visibleCorrelations dialect audience entry.content.event.correlations
  payload_sha256 := entry.content.event.payload_sha256
  policy_sha256 := entry.content.event.policy_sha256
  raw_retention_days := entry.content.event.raw_retention_days
  signature := entry.content.event.signature
  verification_status := entry.content.event.verification_status
  terminal_classification := entry.content.event.terminal_classification
  display_fields := visibleDisplayFields dialect audience entry.content.event.display_fields

/-- The view of an entry for one audience. -/
def projectTimelineEntry (entry : TimelineEntryV1 functions) :
    Except Raised TimelineEntryProjectionV1 :=
  (projectedFields dialect audience entry).make

end

end

section

variable {functions : TimelineFunctions} {dialect : Dialect} {audience : TimelineAudience}

/-- Part of an ordered list of unique correlations is one. -/
theorem canonicalCorrelations_sublist {kept correlations : List TimelineCorrelationV1}
    (hsublist : kept.Sublist correlations) (h : CanonicalCorrelations correlations) :
    CanonicalCorrelations kept :=
  ⟨h.1.sublist (hsublist.map _),h.2.sublist (hsublist.map _)⟩

/-- Shown fields whose names are part of ordered unique names are canonical. -/
theorem canonicalDisplayFields_sublist {kept fields : List TimelineDisplayFieldV1}
    (hsublist : (kept.map fun field => field.name.value).Sublist
      (fields.map fun field => field.name.value)) (h : CanonicalDisplayFields fields) :
    CanonicalDisplayFields kept :=
  ⟨h.1.sublist hsublist,h.2.sublist hsublist⟩

theorem names_visibleDisplayFields (fields : List TimelineDisplayFieldV1) :
    (visibleDisplayFields dialect audience fields).map (fun field => field.name.value)=
      (fields.filter fun item => isVisible item.data_class audience).map
        (fun field => field.name.value) := by
  rw [visibleDisplayFields,List.map_map]
  rfl

theorem visibleActor_spec {event : TimelineEventV1} {actor_id : Identifier}
    (h : visibleActor dialect audience event=some actor_id) :
    isVisible event.actor_data_class audience=true ∧ isSecretShaped dialect actor_id.1=false := by
  unfold visibleActor at h
  split at h
  · rename_i hvisible
    rw [Bool.and_eq_true,Bool.not_eq_true'] at hvisible
    cases h
    exact hvisible
  · cases h

/-- A visible correlation may be seen and does not look like a secret. -/
theorem visibleCorrelations_spec {correlations : List TimelineCorrelationV1}
    {item : TimelineCorrelationV1} (h : item∈visibleCorrelations dialect audience correlations) :
    isVisible item.data_class audience=true ∧
      isSecretShaped dialect item.correlation_id.1=false := by
  have hitem := (List.mem_filter.mp h).2
  rwa [Bool.and_eq_true,Bool.not_eq_true'] at hitem

/-- A visible shown field may be seen. -/
theorem visibleDisplayFields_spec {fields : List TimelineDisplayFieldV1}
    {item : TimelineDisplayFieldV1} (h : item∈visibleDisplayFields dialect audience fields) :
    isVisible item.data_class audience=true ∧
      (isSecretShaped dialect redactedDisplayValue=false →
        isSecretShaped dialect item.value.1=false) := by
  obtain ⟨source,hsource,rfl⟩ := List.mem_map.mp h
  refine ⟨(List.mem_filter.mp hsource).2,fun hredacted => ?_⟩
  unfold redactedField
  by_cases hsecret : isSecretShaped dialect source.value.1=true
  · rw [if_pos hsecret]
    exact hredacted
  · rw [if_neg hsecret]
    exact Bool.eq_false_iff.mpr hsecret

/-- Every view passes its checks. -/
theorem projectedFields_accepted (entry : TimelineEntryV1 functions) :
    (projectedFields dialect audience entry).validateProjection=.ok () := by
  have hcorrelations : (visibleCorrelations dialect audience
      entry.content.event.correlations).Sublist entry.content.event.correlations :=
    List.filter_sublist
  have hnames : ((visibleDisplayFields dialect audience entry.content.event.display_fields).map
      fun field => field.name.value).Sublist
        (entry.content.event.display_fields.map fun field => field.name.value) := by
    rw [names_visibleDisplayFields]
    exact List.filter_sublist.map _
  have hlength := hnames.length_le
  rw [List.length_map,List.length_map] at hlength
  simp only [TimelineEntryProjectionFields.validateProjection,check_bind_eq_ok,require_eq_ok]
  refine ⟨⟨hcorrelations.length_le.trans entry.content.event.correlations_bound.2,
      hlength.trans entry.content.event.display_fields_bound.2⟩,entry.entry_bound,
    entry.content.predecessor,?_,
    canonicalCorrelations_sublist hcorrelations entry.content.event.correlations_canonical,?_,
    canonicalDisplayFields_sublist hnames entry.content.event.display_fields_canonical,?_⟩
  · rintro ⟨hactor,hrank⟩
    obtain ⟨actor_id,hactor⟩ := Option.ne_none_iff_exists'.mp hactor
    have hvisible := of_decide_eq_true (visibleActor_spec hactor).1
    simp only [projectedFields] at hrank
    omega
  · exact fun item hitem => of_decide_eq_true (visibleCorrelations_spec hitem).1
  · exact fun item hitem => of_decide_eq_true (visibleDisplayFields_spec hitem).1

/-- Every entry has a view, whose fields are the projected ones. -/
theorem projectTimelineEntry_eq (entry : TimelineEntryV1 functions) :
    projectTimelineEntry dialect audience entry=
      .ok ⟨projectedFields dialect audience entry,projectedFields_accepted entry⟩ := by
  unfold projectTimelineEntry TimelineEntryProjectionFields.make
  split
  · rfl
  · rename_i raised herror
    rw [projectedFields_accepted] at herror
    cases herror

/-- A view shows nothing above its audience, and no actor, correlation or shown
text that looks like a secret. -/
structure CleanView (dialect : Dialect) (view : TimelineEntryProjectionV1) : Prop where
  actor : ∀ actor_id∈view.actor_id,isVisible view.actor_data_class view.audience=true ∧
    isSecretShaped dialect actor_id.1=false
  correlations : ∀ item∈view.correlations,isVisible item.data_class view.audience=true ∧
    isSecretShaped dialect item.correlation_id.1=false
  /-- The shown fields may be seen and are no secrets. -/
  display_fields : ∀ item∈view.display_fields,isVisible item.data_class view.audience=true ∧
    isSecretShaped dialect item.value.1=false

/-- Two entries that agree on everything an audience may see. -/
structure SameView (audience : TimelineAudience) (first second : TimelineEntryV1 functions) :
    Prop where
  entry_sha256 : first.entry_sha256=second.entry_sha256
  sequence : first.content.sequence=second.content.sequence
  /-- The digests of the entries before are equal. -/
  previous : first.content.previous_entry_sha256=second.content.previous_entry_sha256
  /-- The times of the append, which the digests bind, are equal. -/
  recorded_at : first.content.recorded_at=second.content.recorded_at
  source_schema_version :
    first.content.event.source_schema_version=second.content.event.source_schema_version
  event_type : first.content.event.event_type=second.content.event.event_type
  target : first.content.event.target=second.content.event.target
  actor_role : first.content.event.actor_role=second.content.event.actor_role
  actor_data_class : first.content.event.actor_data_class=second.content.event.actor_data_class
  actor_id : isVisible first.content.event.actor_data_class audience=true →
    first.content.event.actor_id=second.content.event.actor_id
  root_id : first.content.event.root_id=second.content.event.root_id
  root_sha256 : first.content.event.root_sha256=second.content.event.root_sha256
  epoch : first.content.event.epoch=second.content.event.epoch
  occurred_at : first.content.event.occurred_at=second.content.event.occurred_at
  correlations :
    first.content.event.correlations.filter (fun item => isVisible item.data_class audience)=
      second.content.event.correlations.filter (fun item => isVisible item.data_class audience)
  payload_sha256 : first.content.event.payload_sha256=second.content.event.payload_sha256
  policy_sha256 : first.content.event.policy_sha256=second.content.event.policy_sha256
  raw_retention_days :
    first.content.event.raw_retention_days=second.content.event.raw_retention_days
  signature : first.content.event.signature=second.content.event.signature
  verification_status :
    first.content.event.verification_status=second.content.event.verification_status
  terminal_classification :
    first.content.event.terminal_classification=second.content.event.terminal_classification
  display_fields :
    first.content.event.display_fields.filter (fun item => isVisible item.data_class audience)=
      second.content.event.display_fields.filter (fun item => isVisible item.data_class audience)

/-- The view of a lower audience is the part of the view of a higher one that the
lower audience may see. -/
structure Narrows (low high : TimelineEntryProjectionV1) : Prop where
  /-- The actor is the same, unless the lower audience may not see it. -/
  actor_id : low.actor_id=
    if isVisible high.actor_data_class low.audience then high.actor_id else none
  /-- The correlations are the ones that the lower audience may see. -/
  correlations : low.correlations=
    high.correlations.filter (fun item => isVisible item.data_class low.audience)
  /-- The shown fields are the ones that the lower audience may see. -/
  display_fields : low.display_fields=
    high.display_fields.filter (fun item => isVisible item.data_class low.audience)
  /-- Everything else is the same. -/
  rest : high.toTimelineEntryProjectionFields={
    low.toTimelineEntryProjectionFields with
    audience := high.audience
    actor_id := high.actor_id
    correlations := high.correlations
    display_fields := high.display_fields}

/-- What a higher audience sees and a lower one may see, the lower one sees. -/
theorem isVisible_and {data_class low high : TimelineAudience} (hrank : low.rank≤high.rank) :
    (isVisible data_class low && isVisible data_class high)=isVisible data_class low := by
  cases hlow : isVisible data_class low with
  | false => rfl
  | true =>
    have hle := of_decide_eq_true hlow
    rw [Bool.true_and]
    exact decide_eq_true (hle.trans hrank)

/-- The visible correlations of a lower audience are among those of a higher one. -/
theorem visibleCorrelations_filter {low high : TimelineAudience} (hrank : low.rank≤high.rank)
    (correlations : List TimelineCorrelationV1) : visibleCorrelations dialect low correlations=
      (visibleCorrelations dialect high correlations).filter
        (fun item => isVisible item.data_class low) := by
  rw [visibleCorrelations,visibleCorrelations,List.filter_filter]
  refine List.filter_congr fun item _ => ?_
  rw [← Bool.and_assoc,isVisible_and hrank]

/-- The visible shown fields of a lower audience are among those of a higher one. -/
theorem visibleDisplayFields_filter {low high : TimelineAudience} (hrank : low.rank≤high.rank)
    (fields : List TimelineDisplayFieldV1) : visibleDisplayFields dialect low fields=
      (visibleDisplayFields dialect high fields).filter
        (fun item => isVisible item.data_class low) := by
  rw [visibleDisplayFields,visibleDisplayFields,List.filter_map,List.filter_filter]
  refine congrArg _ (List.filter_congr fun item _ => ?_)
  exact (isVisible_and hrank).symm

/-- The actor of a lower audience is that of a higher one, where it may be seen. -/
theorem visibleActor_filter {low high : TimelineAudience} (hrank : low.rank≤high.rank)
    (event : TimelineEventV1) : visibleActor dialect low event=
      if isVisible event.actor_data_class low then visibleActor dialect high event else none := by
  unfold visibleActor
  by_cases hvisible : isVisible event.actor_data_class low=true
  · have hhigher : isVisible event.actor_data_class high=true :=
      decide_eq_true ((of_decide_eq_true hvisible).trans hrank)
    rw [if_pos hvisible,hvisible,hhigher]
  · rw [if_neg hvisible,Bool.eq_false_iff.mpr hvisible]
    rfl

/-- Correlations are seen through their visible part. -/
theorem visibleCorrelations_congr {first second : List TimelineCorrelationV1}
    (h : first.filter (fun item => isVisible item.data_class audience)=
      second.filter (fun item => isVisible item.data_class audience)) :
    visibleCorrelations dialect audience first=visibleCorrelations dialect audience second := by
  have hsplit : ∀ correlations : List TimelineCorrelationV1,
      visibleCorrelations dialect audience correlations=
        (correlations.filter (fun item => isVisible item.data_class audience)).filter
          (fun item => !isSecretShaped dialect item.correlation_id.1) := by
    intro correlations
    rw [visibleCorrelations,List.filter_filter]
    exact List.filter_congr fun item _ => Bool.and_comm _ _
  rw [hsplit,hsplit,h]

theorem visibleActor_congr {first second : TimelineEventV1}
    (hclass : first.actor_data_class=second.actor_data_class)
    (hactor : isVisible first.actor_data_class audience=true → first.actor_id=second.actor_id) :
    visibleActor dialect audience first=visibleActor dialect audience second := by
  unfold visibleActor
  by_cases hvisible : isVisible first.actor_data_class audience=true
  · rw [hactor hvisible,hclass]
  · rw [← hclass,Bool.eq_false_iff.mpr hvisible]
    rfl

/-- Entries that agree on what an audience may see have one view. -/
theorem projectedFields_congr {first second : TimelineEntryV1 functions}
    (h : SameView audience first second) :
    projectedFields dialect audience first=projectedFields dialect audience second := by
  have hentry : first.entry_id=second.entry_id := by
    rw [first.entry_bound,second.entry_bound,h.entry_sha256]
  have htarget : first.content.target=second.content.target := by
    rw [first.content.target_matches,second.content.target_matches,h.target]
  have hclass : first.content.event.evidence_class=second.content.event.evidence_class := by
    rw [first.content.event.class_matches,second.content.event.class_matches,h.event_type]
  have hfields : visibleDisplayFields dialect audience first.content.event.display_fields=
      visibleDisplayFields dialect audience second.content.event.display_fields :=
    congrArg (List.map _) h.display_fields
  unfold projectedFields
  rw [hentry,htarget,hclass,hfields,visibleCorrelations_congr h.correlations,
    visibleActor_congr h.actor_data_class h.actor_id,h.entry_sha256,h.sequence,h.previous,
    h.recorded_at,h.source_schema_version,h.event_type,h.actor_role,h.actor_data_class,h.root_id,
    h.root_sha256,h.epoch,h.occurred_at,h.payload_sha256,h.policy_sha256,h.raw_retention_days,
    h.signature,h.verification_status,h.terminal_classification]

/-- The view of a lower audience narrows the view of a higher one. -/
theorem narrows_of_rank {low high : TimelineAudience} (hrank : low.rank≤high.rank)
    (entry : TimelineEntryV1 functions) :
    Narrows ⟨projectedFields dialect low entry,projectedFields_accepted entry⟩
      ⟨projectedFields dialect high entry,projectedFields_accepted entry⟩ := by
  exact ⟨visibleActor_filter hrank entry.content.event,visibleCorrelations_filter hrank _,
    visibleDisplayFields_filter hrank _,rfl⟩

end

/-- Every entry has a view for every audience, which shows nothing above the
audience and no actor, correlation or shown text that looks like a secret. The
view depends on nothing that the audience may not see, and the view of a lower
audience is the visible part of the view of a higher one, in order. -/
theorem timeline_view (functions : TimelineFunctions) (isLetter : Char → Bool)
    (audience : TimelineAudience) :
    (∀ entry : TimelineEntryV1 functions,∃ view,
      projectTimelineEntry (backendDialect isLetter) audience entry=.ok view ∧
        view.audience=audience ∧ CleanView (backendDialect isLetter) view) ∧
    (∀ first second : TimelineEntryV1 functions,SameView audience first second →
      projectTimelineEntry (backendDialect isLetter) audience first=
        projectTimelineEntry (backendDialect isLetter) audience second) ∧
    ∀ (entry : TimelineEntryV1 functions) (higher : TimelineAudience),audience.rank≤higher.rank →
      ∃ low high,projectTimelineEntry (backendDialect isLetter) audience entry=.ok low ∧
        projectTimelineEntry (backendDialect isLetter) higher entry=.ok high ∧ Narrows low high ∧
        low.correlations.Sublist high.correlations ∧
        low.display_fields.Sublist high.display_fields := by
  refine ⟨fun entry => ?_,fun first second h => ?_,fun entry higher hrank => ?_⟩
  · refine ⟨_,projectTimelineEntry_eq entry,rfl,fun actor_id hactor => visibleActor_spec hactor,
      fun item hitem => visibleCorrelations_spec hitem,fun item hitem => ?_⟩
    obtain ⟨hvisible,hsecret⟩ := visibleDisplayFields_spec hitem
    exact ⟨hvisible,hsecret (redacted_not_secret isLetter)⟩
  · unfold projectTimelineEntry
    rw [projectedFields_congr h]
  · have hnarrows := @narrows_of_rank functions (backendDialect isLetter) audience higher hrank entry
    refine ⟨_,_,projectTimelineEntry_eq entry,projectTimelineEntry_eq entry,hnarrows,?_,?_⟩
    · rw [hnarrows.correlations]
      exact List.filter_sublist
    · rw [hnarrows.display_fields]
      exact List.filter_sublist

def signatureTexts (signature : TimelineSignatureMetadataV1) : List String :=
  [signature.signing_key_version.1,signature.payload_sha256.1,signature.signing_input_sha256.1,
    signature.signature_sha256.1]

/-- All texts of a view that the source of the event supplies. -/
def viewTexts (view : TimelineEntryProjectionV1) : List String :=
  [view.entry_id,view.entry_sha256.1]++view.previous_entry_sha256.toList.map (fun digest => digest.1)++
    [view.target.project_id.1,view.target.region.1,view.target.environment.1,
      view.target.service_name.1,view.source_schema_version.1]++
    view.actor_id.toList.map (fun actor_id => actor_id.1)++[view.root_id.1,view.root_sha256.1]++
    view.correlations.map (fun item => item.correlation_id.1)++
    [view.payload_sha256.1,view.policy_sha256.1]++view.signature.toList.flatMap signatureTexts++
    view.display_fields.map (fun item => item.value.1)

/-- A digest of one repeated letter. -/
def repeatedSha256 : Sha256Digest := ⟨String.ofList (List.replicate 64 'a'),isSha256_a⟩

/-- An event whose root identity looks like a provider key. -/
def keyShapedEvent : TimelineEventV1 where
  source_id := ⟨"source",by decide +kernel⟩
  source_schema_version := ⟨"controlgraph.rollout-root/v1",by decide +kernel⟩
  raw_source_id := ⟨"raw",by decide +kernel⟩
  event_type := .authorityRootCreated
  evidence_class := .authority
  target := ⟨⟨"controlgraph-dev",timelineProject⟩,⟨"us-central1",chainRegion⟩,
    ⟨"staging",timelineEnvironment⟩,⟨"gateway",timelineService⟩⟩
  actor_role := .api
  actor_id := ⟨"api",by decide +kernel⟩
  actor_data_class := .publicDemo
  root_id := ⟨"AIza"++String.ofList (List.replicate 35 'a'),by decide +kernel⟩
  root_sha256 := repeatedSha256
  epoch := firstEpoch
  occurred_at := ⟨0,start_bounds⟩
  correlations := [⟨.request,⟨"request",by decide +kernel⟩,.publicDemo⟩]
  payload_sha256 := repeatedSha256
  raw_record_sha256 := repeatedSha256
  policy_sha256 := repeatedSha256
  raw_retention_days := ⟨30,by omega⟩
  signature := none
  verification_status := .notApplicable
  terminal_classification := .none
  display_fields := [⟨.summary,⟨"created",by decide +kernel⟩,.publicDemo⟩]
  class_matches := rfl
  correlations_bound := by decide
  correlations_canonical := by decide +kernel
  display_fields_bound := by decide
  display_fields_canonical := by decide +kernel
  terminal_matches := by decide
  signature_binds := fun metadata hmetadata => by cases hmetadata

/-- A root identity is shown whatever it looks like. -/
theorem key_shaped_root_shown : ¬∀ (functions : TimelineFunctions) (isLetter : Char → Bool)
    (audience : TimelineAudience) (entry : TimelineEntryV1 functions)
    (view : TimelineEntryProjectionV1),
    projectTimelineEntry (backendDialect isLetter) audience entry=.ok view →
      ∀ value∈viewTexts view,isSecretShaped (backendDialect isLetter) value=false := by
  intro h
  have hcontent : firstEpoch.1=1 ↔ (none : Option Sha256Digest)=none := by decide
  have hroot := h ⟨fun _ => repeatedSha256,fun _ => repeatedSha256⟩ (fun _ => false) .publicDemo
    ⟨entryIdentity repeatedSha256,repeatedSha256,
      ⟨keyShapedEvent.target,firstEpoch,none,⟨0,by omega⟩,keyShapedEvent,rfl,hcontent⟩,rfl,rfl⟩
    _ (projectTimelineEntry_eq _) keyShapedEvent.root_id.1
    (by simp only [viewTexts,projectedFields,List.mem_append,List.mem_cons,true_or,or_true])
  have hsecret : isSecretShaped plainDialect keyShapedEvent.root_id.1=true := by decide +kernel
  rw [← plainDialect,hsecret] at hroot
  cases hroot

end ControlGraph.TimelineProjection
