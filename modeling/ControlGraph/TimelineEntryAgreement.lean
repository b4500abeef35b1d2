import ControlGraph.TimelinePages
import ControlGraph.TimelineReading

/-!
# The console's entry is the services' entry

The console reads an entry that the services projected for an operator. Record
by record, what it reads is the image of what was written: patterns, orders and
classes pass its checks because the entry passed the services'. Two of its rules
are its own. It wants a root to be named after its digest, and it bounds and
redacts shown texts by code units and ASCII words. An entry is read as written
exactly when it meets these two rules.
-/

namespace ControlGraph.TimelineEntryAgreement

open CalendarDays CanonicalCodec Checks ConsoleCodec ConsoleTimeline ConsoleValues ContractText
open JsonTranslation JsonValues KeyedTables TimelineContracts TimelinePages TimelineProjection
open TimelineReading TimelineWire UtcTimestamps Utf16Text Utf8Text

open ReceiptContracts (TargetBinding)
open RevocationContracts (ShortText)
open SecretPatterns (Dialect backendDialect)

/-- A target as the console keeps it. -/
def targetView (target : TargetBinding) : ConsoleTarget :=
  ⟨unitsOf target.project_id.1,unitsOf target.region.1,unitsOf target.environment.1,
    unitsOf target.service_name.1⟩

/-- A correlation as the console keeps it. -/
def correlationView (item : TimelineCorrelationV1) : TimelineCorrelation :=
  ⟨unitsOf item.kind.value,unitsOf item.correlation_id.1⟩

/-- A shown field as the console keeps it. -/
def displayFieldView (item : TimelineDisplayFieldV1) : TimelineDisplayField :=
  ⟨unitsOf item.name.value,unitsOf item.value.1⟩

/-- A signature as the console keeps it. -/
def signatureView (signature : TimelineSignatureMetadataV1) : TimelineSignatureMetadata :=
  ⟨unitsOf (signaturePurposeValue signature.purpose),unitsOf signature.signing_key_version.1,
    unitsOf signature.payload_sha256.1,unitsOf signature.signing_input_sha256.1,
    unitsOf signature.signature_sha256.1⟩

/-- An entry as the console keeps it. -/
def entryView (entry : TimelineEntryProjectionFields) : TimelineEntry where
  entryId := unitsOf entry.entry_id
  entrySha256 := unitsOf entry.entry_sha256.1
  sequence := entry.sequence.1
  previousEntrySha256 := entry.previous_entry_sha256.map (fun digest => unitsOf digest.1)
  target := targetView entry.target
  sourceSchemaVersion := unitsOf entry.source_schema_version.1
  eventType := unitsOf (eventTypeValue entry.event_type)
  evidenceClass := unitsOf (evidenceClassValue entry.evidence_class)
  actorRole := unitsOf (actorRoleValue entry.actor_role)
  actorId := entry.actor_id.map (fun actor_id => unitsOf actor_id.1)
  rootId := unitsOf entry.root_id.1
  rootSha256 := unitsOf entry.root_sha256.1
  epoch := entry.epoch.1
  occurredAt := utcSecondText (timeOfSecond entry.occurred_at.1)
  recordedAt := utcSecondText (timeOfSecond entry.recorded_at.1)
  correlations := entry.correlations.map correlationView
  payloadSha256 := unitsOf entry.payload_sha256.1
  policySha256 := unitsOf entry.policy_sha256.1
  signature := entry.signature.map signatureView
  verificationStatus := unitsOf (verificationStatusValue entry.verification_status)
  terminalClassification := unitsOf (terminalClassificationValue entry.terminal_classification)
  displayFields := entry.display_fields.map displayFieldView

/-- Whether the console shows a text as it was written. -/
def ShownAlike (value : ShortText) : Prop :=
  (unitsOf value.1).length ≤ 512 ∧ isSecretShaped (unitsOf value.1)=false

instance (value : ShortText) : Decidable (ShownAlike value) := inferInstanceAs (Decidable (_ ∧ _))

section

variable {runtime : ConsoleRuntime} {dialect : Dialect} {name : String}

theorem printable_ofList {letters : List Char}
    (h : letters.all (fun letter => 32 ≤ letter.toNat && letter.toNat < 128)=true) :
    ∀ character∈(String.ofList letters).toList,32 ≤ character.toNat ∧ character.toNat < 128 := by
  intro character hmem
  rw [String.toList_ofList] at hmem
  have hcharacter := List.all_eq_true.mp h character hmem
  rw [Bool.and_eq_true,decide_eq_true_eq,decide_eq_true_eq] at hcharacter
  exact hcharacter

/-- Audiences are ASCII texts that the console knows. -/
theorem audience_known (audience : TimelineAudience) :
    audienceValue audience∈timelineAudiences ∧ IsAscii (audienceValue audience) ∧
      audienceRank (unitsOf (audienceValue audience))=audience.rank := by
  cases audience <;> decide +kernel

theorem operator_rank : audienceRank (chars "OPERATOR")=1 := by
  have hknown := audience_known .operator
  have hrank := hknown.2.2
  rw [unitsOf_ascii hknown.2.1] at hrank
  exact hrank

theorem ascii_lists : (∀ value∈timelineAudiences,IsAscii value) ∧
    (∀ value∈evidenceClasses,IsAscii value) ∧ (∀ value∈eventTypes,IsAscii value) ∧
    (∀ value∈actorRoles,IsAscii value) ∧ (∀ value∈correlationKinds,IsAscii value) ∧
    (∀ value∈displayFieldNames,IsAscii value) ∧ (∀ value∈verificationStatuses,IsAscii value) ∧
    (∀ value∈terminalClassifications,IsAscii value) ∧
    ∀ value∈signaturePurposes,IsAscii value := by
  unfold timelineAudiences evidenceClasses eventTypes actorRoles correlationKinds displayFieldNames
    verificationStatuses terminalClassifications signaturePurposes
  refine ⟨?_,?_,?_,?_,?_,?_,?_,?_,?_⟩
  all_goals repeat' first
    | exact ascii_nil
    | refine ascii_cons rfl ?_

theorem array_seen {Item : Type} {items : List Item} {json : Item → Json} {maximum : Nat}
    (hlength : items.length ≤ maximum) :
    array (some (seen (.arr (items.map json)))) name maximum=
      .ok (items.map (fun item => seen (json item))) := by
  rw [seen_arr,List.map_map]
  exact bind_of_ok (require_of ((List.length_map _).trans_le hlength))

/-- Reading all items gives their views exactly when reading each item does. -/
theorem mapM_seen {Item View : Type} {items : List Item} {json : Item → Json}
    {read : Json → Except String View} {view : Item → View} :
    (items.map (fun item => seen (json item))).mapM read=.ok (items.map view) ↔
      ∀ item∈items,read (seen (json item))=.ok (view item) := by
  rw [List.mapM_map]
  exact mapM_eq_map

theorem named_target (target : TargetBinding) : Named (targetFields target) :=
  @named_of _ ["schema_version","project_id","region","environment","service_name"] rfl
    (by simp) (ascii_cons rfl (ascii_cons rfl (ascii_cons rfl (ascii_cons rfl
      (ascii_cons rfl ascii_nil)))))

theorem named_correlation (item : TimelineCorrelationV1) : Named (correlationFields item) :=
  @named_of _ ["schema_version","kind","correlation_id","data_class"] rfl (by simp)
    (ascii_cons rfl (ascii_cons rfl (ascii_cons rfl (ascii_cons rfl ascii_nil))))

theorem named_displayField (item : TimelineDisplayFieldV1) : Named (displayFieldFields item) :=
  @named_of _ ["schema_version","name","value","data_class"] rfl (by simp)
    (ascii_cons rfl (ascii_cons rfl (ascii_cons rfl (ascii_cons rfl ascii_nil))))

theorem named_signature (signature : TimelineSignatureMetadataV1) : Named (signatureFields signature) :=
  @named_of _ ["schema_version","purpose","signing_key_version","signing_algorithm",
    "payload_sha256","signing_input_sha256","signature_sha256"] rfl (by simp)
    (ascii_cons rfl (ascii_cons rfl (ascii_cons rfl (ascii_cons rfl (ascii_cons rfl
      (ascii_cons rfl (ascii_cons rfl ascii_nil)))))))

theorem named_entry (entry : TimelineEntryProjectionV1) : Named (entryFields entry) := by
  have hascii : ∀ name∈entryFieldNames,IsAscii name := by
    unfold entryFieldNames
    repeat' first
      | exact ascii_nil
      | refine ascii_cons rfl ?_
  have hnodup : entryFieldNames.Nodup := by
    simp [entryFieldNames]
  exact @named_of _ entryFieldNames rfl hnodup hascii

theorem parseTarget_seen (target : TargetBinding) :
    parseTarget runtime (some (seen (object (targetFields target))))=.ok (targetView target) := by
  have hnamed := named_target target
  have hrecord := @record_seen _ hnamed "timeline target"
    ["schema_version","project_id","region","environment","service_name"] (fun _ hkey => hkey)
  have hread := property_seenFields hnamed
  generalize seenFields (targetFields target)=item at hrecord hread
  simp only [targetFields,List.forall_mem_cons] at hread
  obtain ⟨hversion,hproject,hregion,henvironment,hservice,-⟩ := hread
  have hfirst := target.project_id.2
  obtain ⟨hregional,hlow,hhigh⟩ := region_spec target.region.2
  have hshort := target.service_name.2
  have hname : 1 ≤ target.service_name.1.length := by
    rw [←String.length_toList]
    cases hempty : target.service_name.1.toList with
    | nil =>
      rw [hempty] at hshort
      cases hshort.1
    | cons first rest =>
      rw [List.length_cons]
      omega
  have hid : projectId target.project_id.1=true := by
    rw [projectId,hfirst.1,decide_eq_true hfirst.2.1,decide_eq_true hfirst.2.2]
    rfl
  have hrun : cloudRunName target.service_name.1=true := by
    rw [cloudRunName,hshort.1,decide_eq_true hshort.2]
    rfl
  unfold parseTarget
  rw [bind_of_ok hrecord]
  simp only [hversion,hproject,hregion,henvironment,hservice]
  rw [bind_of_ok (require_of (isText_seen (isAscii_ofList rfl))),
    bind_of_ok (matchingString_seen (isAscii_hyphenated hfirst.1) hid ⟨by omega,by omega⟩),
    bind_of_ok (matchingString_seen hregional target.region.2 ⟨hlow,hhigh⟩),
    bind_of_ok (identifier_seen _),
    bind_of_ok (matchingString_seen (isAscii_hyphenated hshort.1) hrun ⟨hname,hshort.2⟩)]
  rfl

/-- A visible correlation that does not look like a secret is read as its view. -/
theorem parseCorrelation_seen {isLetter : Char → Bool} {item : TimelineCorrelationV1}
    (hvisible : isVisible item.data_class .operator=true)
    (hsecret : SecretPatterns.isSecretShaped (backendDialect isLetter) item.correlation_id.1=false) :
    parseCorrelation runtime (seen (object (correlationFields item)))=
      .ok (some (correlationView item)) := by
  have hnamed := named_correlation item
  have hrecord := @record_seen _ hnamed "timeline correlation"
    ["schema_version","kind","correlation_id","data_class"] (fun _ hkey => hkey)
  have hread := property_seenFields hnamed
  generalize seenFields (correlationFields item)=fields at hrecord hread
  simp only [correlationFields,List.forall_mem_cons] at hread
  obtain ⟨hversion,hkind,hid,hclass,-⟩ := hread
  obtain ⟨hknown,-,hrank⟩ := audience_known item.data_class
  have hoperator := operator_rank
  have hkinds : item.kind.value∈correlationKinds := by
    unfold correlationKinds
    cases item.kind <;> repeat constructor
  have hshown := isSecretShaped_identifier isLetter item.correlation_id
  have hbelow : audienceRank (unitsOf (audienceValue item.data_class)) ≤
      audienceRank (chars "OPERATOR") := by
    rw [hrank,hoperator]
    exact of_decide_eq_true hvisible
  unfold parseCorrelation
  rw [bind_of_ok hrecord]
  simp only [hversion,hkind,hid,hclass]
  rw [bind_of_ok (require_of (isText_seen (isAscii_ofList rfl))),
    bind_of_ok (enumeration_seen hknown ascii_lists.1),bind_of_ok (require_of hbelow),
    bind_of_ok (identifier_seen _),hshown,hsecret,if_neg Bool.false_ne_true,
    bind_of_ok (enumeration_seen hkinds ascii_lists.2.2.2.2.1)]
  rfl

/-- Require scalar text in normal form without rendering controls. -/
def validateSafeText (runtime : ConsoleRuntime) (value : Text) : Except String Unit := do
  validateNfcText runtime.tables.nfc value
  require (∀ character∈value,runtime.isRenderingControl character=false)
    "text contains a rendering control"

/-- A safe text is read as its units exactly when these are at most 512. -/
theorem safeText_seen {value : ShortText}
    (hsafe : validateSafeText runtime (chars value.1)=.ok ()) {shown : Text} :
    safeText runtime (some (seen (text value.1))) name=.ok shown ↔
      shown=unitsOf value.1 ∧ (unitsOf value.1).length ≤ 512 := by
  rw [validateSafeText,check_bind_eq_ok,require_eq_ok,validateNfcText,check_bind_eq_ok,
    require_eq_ok,require_eq_ok] at hsafe
  obtain ⟨⟨-,hnormal⟩,hcontrols⟩ := hsafe
  have hback := fromUnits_toUnits (isScalar_chars value.1)
  have hunits : toUnits (runtime.tables.nfc (fromUnits (unitsOf value.1)))=unitsOf value.1 := by
    rw [unitsOf,hback,hnormal]
  have hne : 1 ≤ (unitsOf value.1).length := by
    by_contra hempty
    have hnone : unitsOf value.1=[] := List.eq_nil_of_length_eq_zero (by omega)
    have htext := congrArg fromUnits hnone
    rw [unitsOf,hback] at htext
    have hlength := congrArg List.length htext
    rw [chars_eq,List.length_map,String.length_toList] at hlength
    have hbound := value.2
    simp only [fromUnits,List.length_nil] at hlength
    omega
  rw [seen_text,safeText,ConsoleTimeline.string,bind_eq_ok]
  simp only [check_bind_eq_ok,require_eq_ok,pure,Except.pure,Except.ok.injEq]
  constructor
  · rintro ⟨_,⟨⟨-,hlength,-⟩,rfl⟩,-,rfl⟩
    exact ⟨rfl,hlength⟩
  · rintro ⟨rfl,hlength⟩
    refine ⟨_,⟨⟨hne,hlength,hunits⟩,rfl⟩,?_,rfl⟩
    rw [unitsOf,hback]
    exact hcontrols

/-- A text that looks like a secret is not shown as it is. -/
theorem redactDisplayValue_eq {value : Text} :
    redactDisplayValue value=value ↔ isSecretShaped value=false := by
  unfold redactDisplayValue
  by_cases hsecret : isSecretShaped value=true
  · rw [if_pos hsecret,hsecret]
    constructor
    · intro hsame
      have hascii : IsAscii SecretPatterns.redactedDisplayValue := isAscii_ofList rfl
      have hbound : ∀ character∈SecretPatterns.redactedDisplayValue.toList,
          32 ≤ character.toNat ∧ character.toNat < 128 := printable_ofList rfl
      have hagree := SecretPatterns.isSecretShaped_agreeOn
        (SecretPatterns.backend_agreeOn_console (fun _ => false)) hbound
      rw [SecretPatterns.redacted_not_secret] at hagree
      rw [←hsame,←unitsOf_ascii hascii,isSecretShaped,stringOf_unitsOf,←hagree] at hsecret
      cases hsecret
    · intro hfalse
      cases hfalse
  · rw [if_neg hsecret]
    exact ⟨fun _ => Bool.eq_false_of_not_eq_true hsecret,fun _ => rfl⟩

/-- A visible field is read as its view exactly when the console shows its text as written. -/
theorem parseDisplayField_seen {item : TimelineDisplayFieldV1}
    (hvisible : isVisible item.data_class .operator=true)
    (hsafe : validateSafeText runtime (chars item.value.1)=.ok ()) :
    parseDisplayField runtime (seen (object (displayFieldFields item)))=
      .ok (displayFieldView item) ↔ ShownAlike item.value := by
  have hnamed := named_displayField item
  have hrecord := @record_seen _ hnamed "timeline display field"
    ["schema_version","name","value","data_class"] (fun _ hkey => hkey)
  have hread := property_seenFields hnamed
  generalize seenFields (displayFieldFields item)=fields at hrecord hread
  simp only [displayFieldFields,List.forall_mem_cons] at hread
  obtain ⟨hversion,hname,hvalue,hclass,-⟩ := hread
  obtain ⟨hknown,-,hrank⟩ := audience_known item.data_class
  have hoperator := operator_rank
  have hnames : item.name.value∈displayFieldNames := by
    unfold displayFieldNames
    cases item.name <;> repeat constructor
  have hbelow : audienceRank (unitsOf (audienceValue item.data_class)) ≤
      audienceRank (chars "OPERATOR") := by
    rw [hrank,hoperator]
    exact of_decide_eq_true hvisible
  unfold parseDisplayField
  rw [bind_of_ok hrecord]
  simp only [hversion,hname,hvalue,hclass]
  rw [bind_of_ok (require_of (isText_seen (isAscii_ofList rfl))),
    bind_of_ok (enumeration_seen hknown ascii_lists.1),bind_of_ok (require_of hbelow),
    bind_of_ok (enumeration_seen hnames ascii_lists.2.2.2.2.2.1),bind_eq_ok]
  simp only [safeText_seen hsafe,pure,Except.pure,Except.ok.injEq,displayFieldView,
    TimelineDisplayField.mk.injEq,true_and]
  rw [ShownAlike,←redactDisplayValue_eq]
  constructor
  · rintro ⟨_,⟨rfl,hlength⟩,hsame⟩
    exact ⟨hlength,hsame⟩
  · rintro ⟨hlength,hsame⟩
    exact ⟨_,⟨rfl,hlength⟩,hsame⟩

/-- A signature or the null literal is read as the view of the signature or none. -/
theorem parseSignature_seen (signature : Option TimelineSignatureMetadataV1) :
    parseSignature runtime (some (seen (nullable (fun signature =>
      object (signatureFields signature)) signature)))=.ok (signature.map signatureView) := by
  cases signature with
  | none =>
    rw [nullable,seen_null]
    rfl
  | some signature =>
    have hnamed := named_signature signature
    have hrecord := @record_seen _ hnamed "timeline signature metadata"
      ["schema_version","purpose","signing_key_version","signing_algorithm","payload_sha256",
        "signing_input_sha256","signature_sha256"] (fun _ hkey => hkey)
    have hread := property_seenFields hnamed
    have hpresent : ∀ fields,some (Json.obj fields)=some Json.null → False :=
      fun fields hnull => by cases hnull
    obtain ⟨hkeyAscii,hkeyLength⟩ := keyVersion_spec signature.signing_key_version.2
    have hpurpose : signaturePurposeValue signature.purpose∈signaturePurposes := by
      unfold signaturePurposes
      cases signature.purpose <;> repeat constructor
    rw [nullable,Option.map_some]
    rw [seen_object] at hrecord ⊢
    rw [parseSignature]
    · generalize seenFields (signatureFields signature)=fields at hrecord hread
      simp only [signatureFields,List.forall_mem_cons] at hread
      obtain ⟨hversion,hpurposes,hkey,halgorithm,hpayload,hinput,hsignature,-⟩ := hread
      rw [bind_of_ok hrecord]
      simp only [hversion,hpurposes,hkey,halgorithm,hpayload,hinput,hsignature]
      rw [bind_of_ok (require_of ⟨isText_seen (isAscii_ofList rfl),isText_seen (isAscii_ofList rfl)⟩),
        bind_of_ok (enumeration_seen hpurpose ascii_lists.2.2.2.2.2.2.2.2),
        bind_of_ok (matchingString_seen hkeyAscii signature.signing_key_version.2 hkeyLength),
        bind_of_ok (digest_seen _),bind_of_ok (digest_seen _),bind_of_ok (digest_seen _)]
      rfl
    · exact hpresent _

/-- The console finds correlations unique and in order where the services did. -/
theorem canonicalKeys_correlations {correlations : List TimelineCorrelationV1}
    (h : CanonicalCorrelations correlations) :
    canonicalKeys ((correlations.map correlationView).map TimelineCorrelation.key)=true := by
  apply canonicalKeys_of_lt
  obtain ⟨hnodup,hordered⟩ := h
  have hstrict := hnodup.and hordered
  rw [List.pairwise_map] at hstrict
  rw [List.map_map,List.pairwise_map]
  exact hstrict.imp (fun hpair => key_lt hpair.1 hpair.2)

/-- The console finds shown fields unique and in order where the services did. -/
theorem canonicalKeys_displayFields {fields : List TimelineDisplayFieldV1}
    (h : CanonicalDisplayFields fields) :
    canonicalKeys ((fields.map displayFieldView).map TimelineDisplayField.name)=true := by
  apply canonicalKeys_of_lt
  obtain ⟨hnodup,hordered⟩ := h
  have hascii : ∀ name : TimelineDisplayFieldName,IsAscii name.value := by
    intro name
    cases name <;> exact isAscii_ofList rfl
  have hstrict := hnodup.and hordered
  rw [List.pairwise_map] at hstrict
  rw [List.map_map,List.pairwise_map]
  refine hstrict.imp ?_
  intro first second hpair
  have hname : unitsOf first.name.value≠unitsOf second.name.value :=
    fun hsame => hpair.1 (unitsOf_injective hsame)
  have hle := chars_le hpair.2
  rw [←unitsOf_ascii (hascii first.name),←unitsOf_ascii (hascii second.name)] at hle
  exact lt_of_le_of_ne hle hname

theorem isIdentifier_entry (digest : Sha256Digest) : isIdentifier (entryIdentity digest)=true := by
  have hstart : isIdentifier "cgtimeline:"=true := by decide
  obtain ⟨hlength,hcharacters⟩ := StorageIdentity.digest_characters digest
  have hname : "cgtimeline:".length=11 := rfl
  rw [entryIdentity,StorageIdentity.isIdentifier_append hstart (fun character hmem =>
    StorageIdentity.isIdentifierCharacter_of_alphanumeric (hcharacters character hmem))]
  omega

/-- The console knows the family of every event type. -/
theorem classification_known (event : TimelineEventV1) :
    (eventEvidenceClass.map (fun row => (chars row.1,chars row.2))).lookup
        (unitsOf (eventTypeValue event.event_type))=
          some (unitsOf (evidenceClassValue event.evidence_class)) ∧
      (unitsOf (eventTypeValue event.event_type)=chars "TERMINAL_CLASSIFIED" ↔
        unitsOf (terminalClassificationValue event.terminal_classification)≠chars "NONE") := by
  have hterminal : ∀ type,eventTypeValue type="TERMINAL_CLASSIFIED" ↔ type=.terminalClassified := by
    intro type
    cases type <;> simp [eventTypeValue]
  have hnone : ∀ classification,
      terminalClassificationValue classification="NONE" ↔ classification=.none := by
    intro classification
    cases classification <;> simp [terminalClassificationValue]
  have hrow : (eventTypeValue event.event_type,evidenceClassValue (eventClass event.event_type))∈
      eventEvidenceClass := by
    unfold eventEvidenceClass
    cases event.event_type <;> repeat constructor
  have htypes : ∀ type,IsAscii (eventTypeValue type) := by
    intro type
    cases type <;> exact isAscii_ofList rfl
  have hclasses : ∀ evidence,IsAscii (evidenceClassValue evidence) := by
    intro evidence
    cases evidence <;> exact isAscii_ofList rfl
  have hunits : ∀ {first second : String},IsAscii second →
      (unitsOf first=chars second ↔ first=second) := by
    intro first second hascii
    rw [←unitsOf_ascii hascii]
    exact ⟨unitsOf_injective,congrArg unitsOf⟩
  constructor
  · rw [event.class_matches,unitsOf_ascii (htypes _),unitsOf_ascii (hclasses _)]
    refine lookup_of_mem ?_ (List.mem_map_of_mem hrow)
    have hkeys : (eventEvidenceClass.map (fun row => (chars row.1,chars row.2))).map Prod.fst=
        (eventEvidenceClass.map Prod.fst).map chars := by
      rw [List.map_map,List.map_map]
      rfl
    have hnodup : (eventEvidenceClass.map Prod.fst).Nodup := by
      simp [eventEvidenceClass]
    rw [hkeys]
    exact hnodup.map (fun _ _ hsame => unitsOf_injective (congrArg Utf16Text.toUnits hsame))
  · rw [hunits (isAscii_ofList rfl),hterminal,ne_eq,hunits (isAscii_ofList rfl),hnone]
    exact event.terminal_matches

section

variable {functions : TimelineFunctions} (isLetter : Char → Bool)

/-- Reading an entry comes down to its shown texts and its root. -/
theorem parseEntry_eq (entry : TimelineEntryV1 functions) :
    parseEntry runtime (seen (object (entryFields (view (backendDialect isLetter) .operator entry))))=
      (do
        let shown := visibleDisplayFields (backendDialect isLetter) .operator
          entry.content.event.display_fields
        let displayFields ← (shown.map (fun item => seen (object (displayFieldFields item)))).mapM
          (parseDisplayField runtime)
        require (canonicalKeys (((visibleCorrelations (backendDialect isLetter) .operator
              entry.content.event.correlations).map correlationView).map TimelineCorrelation.key)=
                true ∧
            canonicalKeys (displayFields.map TimelineDisplayField.name)=true)
          "timeline projection contains duplicate display data"
        require (unitsOf entry.content.event.root_id.1=
            chars "cgroot:"++unitsOf entry.content.event.root_sha256.1)
          "timeline root identity is invalid"
        return {entryView (projectedFields (backendDialect isLetter) .operator entry) with
          displayFields := displayFields}) := by
  have hnamed := named_entry (view (backendDialect isLetter) .operator entry)
  have hrecord := @record_seen _ hnamed "timeline entry" entryFieldNames (fun _ hkey => hkey)
  have hread := property_seenFields hnamed
  generalize seenFields (entryFields (view (backendDialect isLetter) .operator entry))=item
    at hrecord hread
  simp only [entryFields,view,projectedFields,List.forall_mem_cons] at hread
  obtain ⟨hversion,haudience,hid,hsha,hsequence,hprevious,htarget,hsource,htype,hclass,hrole,hactor,
    hactorClass,hroot,hrootSha,hepoch,hoccurred,hrecorded,hcorrelations,hpayload,hpolicy,hdays,
    hsignature,hstatus,hterminal,hdisplay,-⟩ := hread
  unfold parseEntry
  rw [bind_of_ok hrecord]
  simp only [hversion,haudience,hid,hsha,hsequence,hprevious,htarget,hsource,htype,hclass,hrole,
    hactor,hactorClass,hroot,hrootSha,hepoch,hoccurred,hrecorded,hcorrelations,hpayload,hpolicy,hdays,
    hsignature,hstatus,hterminal,hdisplay]
  have hdaysBound := entry.content.event.raw_retention_days.2
  have hsequenceBound := entry.content.sequence.2
  have hepochBound := entry.content.event.epoch.2
  have hentryId : unitsOf entry.entry_id=chars "cgtimeline:"++unitsOf entry.entry_sha256.1 := by
    rw [entry.entry_bound,entryIdentity,unitsOf_append,
      @unitsOf_ascii "cgtimeline:" (isAscii_ofList rfl)]
  have hentryIdentifier : isIdentifier entry.entry_id=true := by
    rw [entry.entry_bound]
    exact isIdentifier_entry entry.entry_sha256
  have hpredecessor : (entry.content.sequence.1 : Int)=1 ↔
      entry.content.previous_entry_sha256.map (fun digest => unitsOf digest.1)=none := by
    rw [Option.map_eq_none_iff,←entry.content.predecessor]
    omega
  have hexposed : ¬((visibleActor (backendDialect isLetter) .operator entry.content.event).map
      (fun actor_id => unitsOf actor_id.1)≠none ∧ audienceRank (chars "OPERATOR")<
        audienceRank (unitsOf (audienceValue entry.content.event.actor_data_class))) := by
    rintro ⟨hshown,habove⟩
    rw [ne_eq,Option.map_eq_none_iff] at hshown
    obtain ⟨actor_id,hactor_id⟩ := Option.ne_none_iff_exists'.mp hshown
    have hbelow := of_decide_eq_true (visibleActor_spec hactor_id).1
    have hoperator : audienceRank (chars "OPERATOR")=TimelineAudience.operator.rank := operator_rank
    rw [(audience_known _).2.2,hoperator] at habove
    omega
  rw [bind_of_ok (require_of ⟨isText_seen (isAscii_ofList rfl),isText_seen (isAscii_ofList rfl)⟩),
    bind_of_ok (enumeration_seen (audience_known _).1 ascii_lists.1),
    bind_of_ok (integer_seen (by omega) (by omega)),bind_of_ok (require_of (by omega)),
    bind_of_ok (digest_seen _),bind_of_ok (@identifier_seen runtime _ ⟨entry.entry_id,hentryIdentifier⟩),
    bind_of_ok (require_of hentryId),bind_of_ok (integer_seen (by omega) hsequenceBound.2),
    bind_of_ok (nullableDigest_seen _),bind_of_ok (require_of hpredecessor),
    bind_of_ok (nullableIdentity_seen _),bind_of_ok (require_of hexposed)]
  have hcorrelationsBound : (visibleCorrelations (backendDialect isLetter) .operator
      entry.content.event.correlations).length ≤ 16 :=
    (List.length_filter_le _ _).trans entry.content.event.correlations_bound.2
  have hfieldsBound : (visibleDisplayFields (backendDialect isLetter) .operator
      entry.content.event.display_fields).length ≤ 16 := by
    rw [visibleDisplayFields,List.length_map]
    exact (List.length_filter_le _ _).trans entry.content.event.display_fields_bound.2
  have hcorrelationViews := (@mapM_seen _ _ (visibleCorrelations (backendDialect isLetter) .operator
    entry.content.event.correlations) (fun item => object (correlationFields item))
    (parseCorrelation runtime) (fun item => some (correlationView item))).mpr (by
      intro item hitem
      obtain ⟨hvisible,hsecret⟩ := visibleCorrelations_spec hitem
      exact parseCorrelation_seen hvisible hsecret)
  have hkept : ((visibleCorrelations (backendDialect isLetter) .operator
      entry.content.event.correlations).map (fun item => some (correlationView item))).filterMap id=
        (visibleCorrelations (backendDialect isLetter) .operator
          entry.content.event.correlations).map correlationView := by
    rw [List.filterMap_map]
    exact congrFun List.filterMap_eq_map _
  rw [bind_of_ok (array_seen hcorrelationsBound),bind_of_ok hcorrelationViews]
  simp only [hkept]
  rw [bind_of_ok (array_seen hfieldsBound)]
  apply bind_congr
  intro displayFields
  apply bind_congr
  intro _
  rw [bind_of_ok (digest_seen _),bind_of_ok (identifier_seen _)]
  apply bind_congr
  intro _
  have hbinds : ∀ metadata∈entry.content.event.signature.map signatureView,
      metadata.payloadSha256=unitsOf entry.content.event.payload_sha256.1 := by
    intro metadata hmetadata
    obtain ⟨signature,hsigned,rfl⟩ := Option.mem_map.mp hmetadata
    rw [signatureView,entry.content.event.signature_binds signature hsigned]
  have htypes : eventTypeValue entry.content.event.event_type∈eventTypes := by
    unfold eventTypes
    cases entry.content.event.event_type <;> repeat constructor
  have hclasses : evidenceClassValue entry.content.event.evidence_class∈evidenceClasses := by
    unfold evidenceClasses
    cases entry.content.event.evidence_class <;> repeat constructor
  have hterminals : terminalClassificationValue entry.content.event.terminal_classification∈
      terminalClassifications := by
    unfold terminalClassifications
    cases entry.content.event.terminal_classification <;> repeat constructor
  have hroles : actorRoleValue entry.content.event.actor_role∈actorRoles := by
    unfold actorRoles
    cases entry.content.event.actor_role <;> repeat constructor
  have hstatuses : verificationStatusValue entry.content.event.verification_status∈
      verificationStatuses := by
    unfold verificationStatuses
    cases entry.content.event.verification_status <;> repeat constructor
  obtain ⟨hversionAscii,hversionLength,hversionTest⟩ :=
    contractVersion_spec entry.content.event.source_schema_version.2
  rw [bind_of_ok (parseSignature_seen _),bind_of_ok (digest_seen _),bind_of_ok (require_of hbinds),
    bind_of_ok (enumeration_seen htypes ascii_lists.2.2.1),
    bind_of_ok (enumeration_seen hclasses ascii_lists.2.1),
    bind_of_ok (enumeration_seen hterminals ascii_lists.2.2.2.2.2.2.2.1),
    bind_of_ok (require_of (classification_known entry.content.event)),
    bind_of_ok (parseTarget_seen _),
    bind_of_ok (matchingString_seen hversionAscii hversionTest hversionLength),
    bind_of_ok (enumeration_seen hroles ascii_lists.2.2.2.1),
    bind_of_ok (integer_seen (by omega) hepochBound.2),bind_of_ok (utcSecond_seen _),
    bind_of_ok (utcSecond_seen _),bind_of_ok (digest_seen _),
    bind_of_ok (enumeration_seen hstatuses ascii_lists.2.2.2.2.2.2.1)]
  have hactorKept : ((visibleActor (backendDialect isLetter) .operator entry.content.event).map
      (fun actor_id => unitsOf actor_id.1)).filter (fun actor => !isSecretShaped actor)=
        (visibleActor (backendDialect isLetter) .operator entry.content.event).map
          (fun actor_id => unitsOf actor_id.1) := by
    cases hshown : visibleActor (backendDialect isLetter) .operator entry.content.event with
    | none => rfl
    | some actor_id =>
      have hsecret := (visibleActor_spec hshown).2
      rw [Option.map_some,Option.filter_some,isSecretShaped_identifier isLetter,hsecret]
      rfl
  rw [hactorKept]
  rfl

/-- Whether the console shows an entry of the services as it was written. -/
structure ReadAlike (entry : TimelineEntryV1 functions) : Prop where
  root_named : entry.content.event.root_id.1="cgroot:"++entry.content.event.root_sha256.1
  /-- The texts that an operator sees and the services do not replace are shown as they are. -/
  texts : ∀ field∈entry.content.event.display_fields,isVisible field.data_class .operator=true →
    SecretPatterns.isSecretShaped (backendDialect isLetter) field.value.1=false →
      ShownAlike field.value

theorem redactedText_shownAlike : ShownAlike redactedText := by
  have hascii : IsAscii redactedText.1 := isAscii_ofList rfl
  have hbound : ∀ character∈redactedText.1.toList,32 ≤ character.toNat ∧ character.toNat < 128 :=
    printable_ofList rfl
  have hagree := SecretPatterns.isSecretShaped_agreeOn
    (SecretPatterns.backend_agreeOn_console (fun _ => false)) hbound
  refine ⟨?_,?_⟩
  · rw [length_unitsOf_ascii hascii]
    exact redactedText.2.2
  · rw [isSecretShaped,stringOf_unitsOf,←hagree]
    exact SecretPatterns.redacted_not_secret (fun _ => false)

theorem redactedText_safe : validateSafeText runtime (chars redactedText.1)=.ok () := by
  have hascii : IsAscii redactedText.1 := isAscii_ofList rfl
  have hvisible : ∀ character∈chars redactedText.1,32 ≤ character ∧ character < 127 := by
    have hcodes : chars redactedText.1="[REDACTED]".toList.map Char.toNat := chars_eq _
    rw [hcodes]
    simp
  have hscalar : ∀ character∈chars redactedText.1,character.isValidChar := isScalar_chars _
  have hencoded : (encodeUtf8 (chars redactedText.1)).isSome=true := by
    rw [encodeUtf8,if_pos hscalar,Option.isSome_some]
  have hnormal := runtime.tables.nfc_ascii _ (chars_ascii hascii)
  have hnfc : validateNfcText runtime.tables.nfc (chars redactedText.1)=.ok () :=
    (bind_of_ok (require_of hencoded)).trans (require_of hnormal)
  exact (bind_of_ok hnfc).trans (require_of (fun character hmem =>
    runtime.visible_ascii character (hvisible character hmem).1 (hvisible character hmem).2))

/-- An entry is read as its view exactly when the console shows it as it was written. -/
theorem parseEntry_seen {entry : TimelineEntryV1 functions}
    (hsafe : ∀ field∈entry.content.event.display_fields,
      validateSafeText runtime (chars field.value.1)=.ok ()) :
    parseEntry runtime (seen (object (entryFields (view (backendDialect isLetter) .operator entry))))=
      .ok (entryView (projectedFields (backendDialect isLetter) .operator entry)) ↔
        ReadAlike isLetter entry := by
  have hroot : unitsOf entry.content.event.root_id.1=
      chars "cgroot:"++unitsOf entry.content.event.root_sha256.1 ↔
        entry.content.event.root_id.1="cgroot:"++entry.content.event.root_sha256.1 := by
    rw [←@unitsOf_ascii "cgroot:" (isAscii_ofList rfl),←unitsOf_append]
    exact ⟨unitsOf_injective,congrArg unitsOf⟩
  have hprojection := @projectedFields_accepted functions (backendDialect isLetter) .operator entry
  simp only [TimelineEntryProjectionFields.validateProjection,check_bind_eq_ok,require_eq_ok]
    at hprojection
  obtain ⟨-,-,-,-,hcorrelations,-,hfields,-⟩ := hprojection
  have hkeys := canonicalKeys_correlations hcorrelations
  have hnames := canonicalKeys_displayFields hfields
  have htexts : (∀ item∈visibleDisplayFields (backendDialect isLetter) .operator
      entry.content.event.display_fields,parseDisplayField runtime
        (seen (object (displayFieldFields item)))=.ok (displayFieldView item)) ↔
      ∀ field∈entry.content.event.display_fields,isVisible field.data_class .operator=true →
        SecretPatterns.isSecretShaped (backendDialect isLetter) field.value.1=false →
          ShownAlike field.value := by
    rw [visibleDisplayFields,List.forall_mem_map]
    simp only [List.mem_filter,and_imp]
    refine forall₃_congr (fun field hfield hvisible => ?_)
    have hshown : (redactedField (backendDialect isLetter) field).data_class=field.data_class := rfl
    by_cases hsecret : SecretPatterns.isSecretShaped (backendDialect isLetter) field.value.1=true
    · have hvalue : (redactedField (backendDialect isLetter) field).value=redactedText :=
        if_pos hsecret
      rw [parseDisplayField_seen (hshown ▸ hvisible) (hvalue ▸ redactedText_safe),hvalue,hsecret]
      exact ⟨fun _ hfalse => (nomatch hfalse),fun _ => redactedText_shownAlike⟩
    · have hvalue : (redactedField (backendDialect isLetter) field).value=field.value :=
        if_neg hsecret
      rw [parseDisplayField_seen (hshown ▸ hvisible) (hvalue ▸ hsafe field hfield),hvalue]
      exact ⟨fun halike _ => halike,fun halike => halike (Bool.eq_false_of_not_eq_true hsecret)⟩
  rw [parseEntry_eq]
  constructor
  · intro h
    obtain ⟨displayFields,hread,h⟩ := bind_eq_ok.mp h
    rw [check_bind_eq_ok,check_bind_eq_ok,require_eq_ok,require_eq_ok] at h
    obtain ⟨-,hnamed,hview⟩ := h
    have hsame := congrArg TimelineEntry.displayFields (Except.ok.inj hview)
    rw [show displayFields=_ from hsame] at hread
    exact ⟨hroot.mp hnamed,htexts.mp (mapM_seen.mp hread)⟩
  · rintro ⟨hnamed,halike⟩
    rw [bind_of_ok (mapM_seen.mpr (htexts.mpr halike)),bind_of_ok (require_of ⟨hkeys,hnames⟩),
      bind_of_ok (require_of (hroot.mpr hnamed))]
    rfl

end

end

end ControlGraph.TimelineEntryAgreement
