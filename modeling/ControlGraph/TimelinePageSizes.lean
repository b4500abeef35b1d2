import ControlGraph.JsonSizes
import ControlGraph.TimelinePageAgreement
import Mathlib.Tactic.Ring

/-!
# Pages that can be encoded

A page asks for up to a hundred entries, while the codec encodes arrays of at
most sixty-four items and texts of at most 65536 bytes. Everything else of a page
is within the codec's restrictions: its keys are canonical, its texts are in
normal form and its nesting is shallow. So a page is encoded exactly when its
slice has at most sixty-four entries whose bytes, with those of the page around
them, are within the bound.
-/

namespace ControlGraph.TimelinePageSizes

open CanonicalCodec Checks ConsoleCodec ConsoleTimeline ConsoleValues ContractText JsonSizes JsonText
open JsonValues
open TimelineContracts TimelineEntryAgreement TimelinePageAgreement TimelinePages
open TimelineProjection TimelineReading TimelineWire UtcTimestamps Utf8Text

open ReceiptContracts (TargetBinding)
open RevocationContracts (ShortText)
open SecretPatterns (Dialect backendDialect)

section

variable {tables : UnicodeTables} {depth : Nat}

/-- Whether a value is within the restrictions of the codec at some depth. -/
def Restricted (tables : UnicodeTables) (depth : Nat) (value : Json) : Prop :=
  validateRestricted tables.nfc depth value=.ok ()

theorem restricted_normal {value : String} (hdepth : depth ≤ 12)
    (hnormal : tables.nfc (chars value)=chars value) : Restricted tables depth (text value) := by
  have hscalar : ∀ character∈chars value,character.isValidChar := isScalar_chars value
  have hencoded : (encodeUtf8 (chars value)).isSome=true := by
    rw [encodeUtf8,if_pos hscalar,Option.isSome_some]
  have hnfc : validateNfcText tables.nfc (chars value)=.ok () :=
    (bind_of_ok (require_of hencoded)).trans (require_of hnormal)
  rw [Restricted,text,validateRestricted]
  exact (bind_of_ok (require_of hdepth)).trans hnfc

theorem restricted_ascii {value : String} (hdepth : depth ≤ 12) (hascii : IsAscii value) :
    Restricted tables depth (text value) :=
  restricted_normal hdepth (tables.nfc_ascii _ (chars_ascii hascii))

theorem restricted_integer {value : Nat} (hdepth : depth ≤ 12) (hsafe : value ≤ 9007199254740991) :
    Restricted tables depth (TimelineWire.integer value) := by
  rw [Restricted,TimelineWire.integer,validateRestricted]
  refine (bind_of_ok (require_of hdepth)).trans (require_of ⟨?_,?_⟩) <;> unfold maxSafeInteger <;> omega

theorem restricted_digest (hdepth : depth ≤ 12) (value : Sha256Digest) :
    Restricted tables depth (TimelineWire.digest value) :=
  restricted_ascii hdepth (isAscii_digest value)

theorem restricted_timestamp (hdepth : depth ≤ 12) (second : UtcSecond) :
    Restricted tables depth (timestamp second) := by
  have hascii : ∀ character∈utcSecondText (CalendarDays.timeOfSecond second.1),character < 128 := by
    intro character hmem
    have hbounds := mem_utcSecondText hmem
    omega
  have hscalar : ∀ character∈utcSecondText (CalendarDays.timeOfSecond second.1),
      character.isValidChar :=
    fun character hmem => .inl (Nat.lt_trans (hascii character hmem) (by decide))
  have hencoded : (encodeUtf8 (utcSecondText (CalendarDays.timeOfSecond second.1))).isSome=true := by
    rw [encodeUtf8,if_pos hscalar,Option.isSome_some]
  have hnfc : validateNfcText tables.nfc (utcSecondText (CalendarDays.timeOfSecond second.1))=.ok () :=
    (bind_of_ok (require_of hencoded)).trans (require_of (tables.nfc_ascii _ hascii))
  rw [Restricted,timestamp,validateRestricted]
  exact (bind_of_ok (require_of hdepth)).trans hnfc

/-- A value or the null literal is restricted when the value is. -/
theorem restricted_nullable {Value : Type} {json : Value → Json} {value : Option Value}
    (hdepth : depth ≤ 12) (h : ∀ found∈value,Restricted tables depth (json found)) :
    Restricted tables depth (nullable json value) := by
  cases value with
  | none =>
    rw [Restricted,nullable,validateRestricted]
    exact require_of hdepth
  | some found => exact h found rfl

/-- A record of canonical names is restricted when its values are. -/
theorem restricted_object {fields : List (String×Json)} {names : List String} (hdepth : depth ≤ 12)
    (hnames : ∀ name∈names,isObjectKey (chars name)=true) (hfields : fields.map Prod.fst=names)
    (hlength : names.length ≤ 64) (hvalues : ∀ field∈fields,Restricted tables (depth+1) field.2) :
    Restricted tables depth (object fields) := by
  have hcount : fields.length ≤ 64 := by
    rwa [←hfields,List.length_map] at hlength
  rw [Restricted,object,validateRestricted_obj,List.length_map,List.forall_mem_map]
  exact ⟨hdepth,hcount,fun field hfield =>
    ⟨hnames field.1 (hfields ▸ List.mem_map_of_mem hfield),hvalues field hfield⟩⟩

/-- An array is restricted exactly when it is short enough and its items are restricted. -/
theorem restricted_arr {Item : Type} {items : List Item} {json : Item → Json} (hdepth : depth ≤ 12)
    (hitems : ∀ item∈items,Restricted tables (depth+1) (json item)) :
    Restricted tables depth (.arr (items.map json)) ↔ items.length ≤ 64 := by
  rw [Restricted,validateRestricted_arr,List.length_map,List.forall_mem_map]
  exact ⟨fun h => h.2.1,fun hlength => ⟨hdepth,hlength,hitems⟩⟩

theorem canonical_nil : ∀ name∈([] : List String),isObjectKey (chars name)=true :=
  List.forall_mem_nil _

/-- The names of a list are canonical when the first one and the others are. -/
theorem canonical_cons {letters : List Char} {names : List String}
    (h : isObjectKey (letters.map Char.toNat)=true)
    (hnames : ∀ name∈names,isObjectKey (chars name)=true) :
    ∀ name∈String.ofList letters::names,isObjectKey (chars name)=true := by
  refine List.forall_mem_cons.mpr ⟨?_,hnames⟩
  rwa [chars_eq,String.toList_ofList]

theorem ascii_values : (∀ audience,IsAscii (audienceValue audience)) ∧
    (∀ type,IsAscii (eventTypeValue type)) ∧ (∀ evidence,IsAscii (evidenceClassValue evidence)) ∧
    (∀ role,IsAscii (actorRoleValue role)) ∧ (∀ status,IsAscii (verificationStatusValue status)) ∧
    (∀ terminal,IsAscii (terminalClassificationValue terminal)) ∧
    (∀ purpose,IsAscii (signaturePurposeValue purpose)) ∧
    (∀ kind : TimelineCorrelationKind,IsAscii kind.value) ∧
    ∀ name : TimelineDisplayFieldName,IsAscii name.value := by
  refine ⟨?_,?_,?_,?_,?_,?_,?_,?_,?_⟩ <;> intro value <;> cases value <;> exact isAscii_ofList rfl

theorem restricted_target (hdepth : depth ≤ 11) (target : TargetBinding) :
    Restricted tables depth (object (targetFields target)) := by
  have hnames : ∀ name∈["schema_version","project_id","region","environment","service_name"],
      isObjectKey (chars name)=true := by
    repeat' first
      | exact canonical_nil
      | refine canonical_cons rfl ?_
  have hregion := (region_spec target.region.2).1
  have hproject := isAscii_hyphenated target.project_id.2.1
  have hservice := isAscii_hyphenated target.service_name.2.1
  refine restricted_object (by omega) hnames rfl (by decide) ?_
  simp only [targetFields,List.forall_mem_cons]
  exact ⟨restricted_ascii (by omega) (isAscii_ofList rfl),restricted_ascii (by omega) hproject,
    restricted_ascii (by omega) hregion,
    restricted_ascii (by omega) (isAscii_identifier target.environment.2),
    restricted_ascii (by omega) hservice,List.forall_mem_nil _⟩

theorem restricted_correlation (hdepth : depth ≤ 11) (item : TimelineCorrelationV1) :
    Restricted tables depth (object (correlationFields item)) := by
  have hnames : ∀ name∈["schema_version","kind","correlation_id","data_class"],
      isObjectKey (chars name)=true := by
    repeat' first
      | exact canonical_nil
      | refine canonical_cons rfl ?_
  obtain ⟨haudience,-,-,-,-,-,-,hkind,-⟩ := ascii_values
  refine restricted_object (by omega) hnames rfl (by decide) ?_
  simp only [correlationFields,List.forall_mem_cons]
  exact ⟨restricted_ascii (by omega) (isAscii_ofList rfl),restricted_ascii (by omega) (hkind _),
    restricted_ascii (by omega) (isAscii_identifier item.correlation_id.2),
    restricted_ascii (by omega) (haudience _),List.forall_mem_nil _⟩

/-- A shown field whose text is in normal form is restricted. -/
theorem restricted_displayField {item : TimelineDisplayFieldV1} (hdepth : depth ≤ 11)
    (hnormal : tables.nfc (chars item.value.1)=chars item.value.1) :
    Restricted tables depth (object (displayFieldFields item)) := by
  have hnames : ∀ name∈["schema_version","name","value","data_class"],
      isObjectKey (chars name)=true := by
    repeat' first
      | exact canonical_nil
      | refine canonical_cons rfl ?_
  obtain ⟨haudience,-,-,-,-,-,-,-,hname⟩ := ascii_values
  refine restricted_object (by omega) hnames rfl (by decide) ?_
  simp only [displayFieldFields,List.forall_mem_cons]
  exact ⟨restricted_ascii (by omega) (isAscii_ofList rfl),restricted_ascii (by omega) (hname _),
    restricted_normal (by omega) hnormal,restricted_ascii (by omega) (haudience _),
    List.forall_mem_nil _⟩

theorem restricted_signature (hdepth : depth ≤ 11) (signature : TimelineSignatureMetadataV1) :
    Restricted tables depth (object (signatureFields signature)) := by
  have hnames : ∀ name∈["schema_version","purpose","signing_key_version","signing_algorithm",
      "payload_sha256","signing_input_sha256","signature_sha256"],isObjectKey (chars name)=true := by
    repeat' first
      | exact canonical_nil
      | refine canonical_cons rfl ?_
  obtain ⟨-,-,-,-,-,-,hpurpose,-⟩ := ascii_values
  have hkey := (keyVersion_spec signature.signing_key_version.2).1
  refine restricted_object (by omega) hnames rfl (by decide) ?_
  simp only [signatureFields,List.forall_mem_cons]
  exact ⟨restricted_ascii (by omega) (isAscii_ofList rfl),restricted_ascii (by omega) (hpurpose _),
    restricted_ascii (by omega) hkey,restricted_ascii (by omega) (isAscii_ofList rfl),
    restricted_digest (by omega) _,restricted_digest (by omega) _,restricted_digest (by omega) _,
    List.forall_mem_nil _⟩

/-- The view of an entry is restricted when its shown texts are in normal form. -/
theorem restricted_entry {entry : TimelineEntryProjectionV1} (hdepth : depth ≤ 9)
    (hnormal : ∀ field∈entry.display_fields,tables.nfc (chars field.value.1)=chars field.value.1) :
    Restricted tables depth (object (entryFields entry)) := by
  have hnames : ∀ name∈entryFieldNames,isObjectKey (chars name)=true := by
    unfold entryFieldNames
    repeat' first
      | exact canonical_nil
      | refine canonical_cons rfl ?_
  obtain ⟨haudience,htype,hevidence,hrole,hstatus,hterminal,-⟩ := ascii_values
  have haccepted := entry.accepted
  simp only [TimelineEntryProjectionFields.validateProjection,check_bind_eq_ok,require_eq_ok]
    at haccepted
  obtain ⟨⟨hcorrelations,hfields⟩,hid,-⟩ := haccepted
  have hentryId : IsAscii entry.entry_id := by
    rw [hid]
    exact isAscii_identifier (isIdentifier_entry entry.entry_sha256)
  have hversion := (contractVersion_spec entry.source_schema_version.2).1
  have hsequence := entry.sequence.2
  have hepoch := entry.epoch.2
  have hdays := entry.raw_retention_days.2
  have hcorrelationItems : Restricted tables (depth+1)
      (.arr (entry.correlations.map (fun item => object (correlationFields item)))) :=
    (restricted_arr (by omega) (fun item _ => restricted_correlation (by omega) item)).mpr (by omega)
  have hfieldItems : Restricted tables (depth+1)
      (.arr (entry.display_fields.map (fun item => object (displayFieldFields item)))) :=
    (restricted_arr (by omega) (fun item hitem =>
      restricted_displayField (by omega) (hnormal item hitem))).mpr (by omega)
  refine restricted_object (by omega) hnames rfl (by decide) ?_
  simp only [entryFields,List.forall_mem_cons]
  exact ⟨restricted_ascii (by omega) (isAscii_ofList rfl),restricted_ascii (by omega) (haudience _),
    restricted_ascii (by omega) hentryId,restricted_digest (by omega) _,
    restricted_integer (by omega) hsequence.2,
    restricted_nullable (by omega) (fun _ _ => restricted_digest (by omega) _),
    restricted_target (by omega) _,restricted_ascii (by omega) hversion,
    restricted_ascii (by omega) (htype _),restricted_ascii (by omega) (hevidence _),
    restricted_ascii (by omega) (hrole _),
    restricted_nullable (by omega) (fun actor_id _ =>
      restricted_ascii (by omega) (isAscii_identifier actor_id.2)),
    restricted_ascii (by omega) (haudience _),
    restricted_ascii (by omega) (isAscii_identifier entry.root_id.2),restricted_digest (by omega) _,
    restricted_integer (by omega) hepoch.2,restricted_timestamp (by omega) _,
    restricted_timestamp (by omega) _,hcorrelationItems,restricted_digest (by omega) _,
    restricted_digest (by omega) _,restricted_integer (by omega) (by omega),
    restricted_nullable (by omega) (fun signature _ => restricted_signature (by omega) signature),
    restricted_ascii (by omega) (hstatus _),restricted_ascii (by omega) (hterminal _),hfieldItems,
    List.forall_mem_nil _⟩

theorem restricted_command (hdepth : depth ≤ 10) (command : TimelinePageCommandV1) :
    Restricted tables depth (object (commandFields command)) := by
  have hnames : ∀ name∈["schema_version","target","after_sequence","after_entry_sha256","limit",
      "audience"],isObjectKey (chars name)=true := by
    repeat' first
      | exact canonical_nil
      | refine canonical_cons rfl ?_
  have hlimit := command.limit_bound
  refine restricted_object (by omega) hnames rfl (by decide) ?_
  simp only [commandFields,List.forall_mem_cons]
  exact ⟨restricted_ascii (by omega) (isAscii_ofList rfl),restricted_target (by omega) _,
    restricted_integer (by omega) command.sequence_safe,
    restricted_nullable (by omega) (fun _ _ => restricted_digest (by omega) _),
    restricted_integer (by omega) (by omega),restricted_ascii (by omega) (ascii_values.1 _),
    List.forall_mem_nil _⟩

/-- A page whose shown texts are in normal form is restricted exactly when it has at
most sixty-four entries. -/
theorem restricted_page {functions : TimelineFunctions} {page : TimelinePageFields}
    (haccepted : page.validatePage functions=.ok ())
    (hnormal : ∀ entry∈page.entries,∀ field∈entry.display_fields,
      tables.nfc (chars field.value.1)=chars field.value.1) :
    Restricted tables 0 (pageJson page) ↔ page.entries.length ≤ 64 := by
  have hnames : ∀ name∈["schema_version","command","command_sha256","entries",
      "next_after_sequence","next_after_entry_sha256","head_sequence","head_entry_sha256","has_more"],
      isObjectKey (chars name)=true := by
    repeat' first
      | exact canonical_nil
      | refine canonical_cons rfl ?_
  have hitems : Restricted tables 1 (.arr (page.entries.map (fun entry =>
      object (entryFields entry)))) ↔ page.entries.length ≤ 64 :=
    restricted_arr (by omega) (fun entry hentry => restricted_entry (by omega) (hnormal entry hentry))
  obtain ⟨⟨-,hnext,hhead⟩,-⟩ := validatePage_eq_ok.mp haccepted
  have hmore : Restricted tables 1 (.bool page.has_more) := by
    rw [Restricted,validateRestricted]
    exact require_of (by decide)
  constructor
  · intro h
    rw [Restricted,pageJson,object,validateRestricted_obj,List.forall_mem_map] at h
    exact hitems.mp (h.2.2 ("entries",_) (by simp only [pageFields,List.mem_cons,true_or,or_true])).2
  · intro hlength
    refine restricted_object (by omega) hnames rfl (by decide) ?_
    simp only [pageFields,List.forall_mem_cons]
    exact ⟨restricted_ascii (by omega) (isAscii_ofList rfl),restricted_command (by omega) _,
      restricted_digest (by omega) _,hitems.mpr hlength,restricted_integer (by omega) hnext,
      restricted_nullable (by omega) (fun _ _ => restricted_digest (by omega) _),
      restricted_integer (by omega) hhead,
      restricted_nullable (by omega) (fun _ _ => restricted_digest (by omega) _),hmore,
      List.forall_mem_nil _⟩

end

/-- Bytes of a text within quotes. -/
def textBytes (value : String) : Nat := quotedBytes (chars value)

def digitBytes (value : Nat) : Nat := (decimal value).length

/-- Bytes of the digest that goes with a place, or of the null literal where there is none. -/
def placeDigestBytes (sequence : Nat) : Nat := if sequence=0 then 4 else 66

def targetBytes (target : TargetBinding) : Nat :=
  106+textBytes target.project_id.1+textBytes target.region.1+textBytes target.environment.1+
    textBytes target.service_name.1

def correlationBytes (item : TimelineCorrelationV1) : Nat :=
  97+textBytes item.kind.value+textBytes item.correlation_id.1+textBytes (audienceValue item.data_class)

def displayFieldBytes (item : TimelineDisplayFieldV1) : Nat :=
  90+textBytes item.name.value+textBytes item.value.1+textBytes (audienceValue item.data_class)

def signatureBytes (signature : TimelineSignatureMetadataV1) : Nat :=
  400+textBytes (signaturePurposeValue signature.purpose)+textBytes signature.signing_key_version.1

/-- Bytes of an array of items with these bytes. -/
def arrayBytes (sizes : List Nat) : Nat := 1+max 1 (sizes.map (fun size => size+1)).sum

/-- Bytes of what an audience sees of an entry. -/
def entryBytes (entry : TimelineEntryProjectionFields) : Nat :=
  779+textBytes (audienceValue entry.audience)+textBytes entry.entry_id+
    digitBytes entry.sequence.1+(if entry.previous_entry_sha256=none then 4 else 66)+
    targetBytes entry.target+textBytes entry.source_schema_version.1+
    textBytes (eventTypeValue entry.event_type)+textBytes (evidenceClassValue entry.evidence_class)+
    textBytes (actorRoleValue entry.actor_role)+
    (entry.actor_id.map (fun actor_id => textBytes actor_id.1)).getD 4+
    textBytes (audienceValue entry.actor_data_class)+textBytes entry.root_id.1+
    digitBytes entry.epoch.1+arrayBytes (entry.correlations.map correlationBytes)+
    digitBytes entry.raw_retention_days.1+(entry.signature.map signatureBytes).getD 4+
    textBytes (verificationStatusValue entry.verification_status)+
    textBytes (terminalClassificationValue entry.terminal_classification)+
    arrayBytes (entry.display_fields.map displayFieldBytes)

def commandBytes (command : TimelinePageCommandV1) : Nat :=
  129+targetBytes command.target+digitBytes command.after_sequence+
    placeDigestBytes command.after_sequence+digitBytes command.limit+
    textBytes (audienceValue command.audience)

/-- Bytes of the page of a slice: those of its cursor, of what the audience sees of its
entries, of the last place that was read and of the head. -/
def pageBytes {functions : TimelineFunctions} (dialect : Dialect)
    (read : TimelineReadSliceFields functions) : Nat :=
  let last := read.command.after_sequence+read.entries.length
  let head := (read.head.map (fun head => head.sequence.1)).getD 0
  256+commandBytes read.command+
    arrayBytes (read.entries.map (fun entry =>
      entryBytes (projectedFields dialect read.command.audience entry)))+
    digitBytes last+placeDigestBytes last+digitBytes head+placeDigestBytes head+
    (if last < head then 4 else 5)

section

/-- A number takes its digits. -/
theorem jsonBytes_integer (value : Nat) : jsonBytes (TimelineWire.integer value)=digitBytes value := by
  have hsign : ¬((value : Int) < 0) := by omega
  rw [TimelineWire.integer,jsonBytes,decimalInt,if_neg hsign,Int.natAbs_natCast,digitBytes]

theorem jsonBytes_text (value : String) : jsonBytes (text value)=textBytes value := by
  rw [text,jsonBytes,textBytes]

/-- A digest takes sixty-four digits and two quotes. -/
theorem jsonBytes_digest (value : Sha256Digest) : jsonBytes (TimelineWire.digest value)=66 := by
  obtain ⟨hlength,hcharacters⟩ := StorageIdentity.digest_characters value
  have hplain : ∀ character∈chars value.1,
      32 ≤ character ∧ character < 127 ∧ character≠34 ∧ character≠92 := by
    intro character hmem
    obtain ⟨letter,hletter,rfl⟩ := mem_chars.mp hmem
    have hcode := hcharacters letter hletter
    simp only [isAlphanumeric,Bool.or_eq_true,Bool.and_eq_true,decide_eq_true_eq] at hcode
    have hletters : (65 ≤ letter.toNat ∧ letter.toNat ≤ 90) ∨ (97 ≤ letter.toNat ∧
        letter.toNat ≤ 122) ∨ (48 ≤ letter.toNat ∧ letter.toNat ≤ 57) := by
      rcases hcode with (hupper | hlower) | hdigit
      · exact .inl hupper
      · exact .inr (.inl hlower)
      · exact .inr (.inr hdigit)
    omega
  rw [TimelineWire.digest,text,jsonBytes,quotedBytes_plain hplain,chars_eq,List.length_map,
    String.length_toList,hlength]

/-- A timestamp takes twenty characters and two quotes. -/
theorem jsonBytes_timestamp (second : UtcSecond) : jsonBytes (timestamp second)=22 := by
  have hplain : ∀ character∈utcSecondText (CalendarDays.timeOfSecond second.1),
      32 ≤ character ∧ character < 127 ∧ character≠34 ∧ character≠92 := by
    intro character hmem
    have hbounds := mem_utcSecondText hmem
    omega
  rw [timestamp,jsonBytes,quotedBytes_plain hplain,utcSecondText_eq]
  rfl

/-- A value or the null literal takes the bytes of the value or four. -/
theorem jsonBytes_nullable {Value : Type} {json : Value → Json} {size : Value → Nat}
    (h : ∀ value,jsonBytes (json value)=size value) (value : Option Value) :
    jsonBytes (nullable json value)=(value.map size).getD 4 := by
  cases value with
  | none => rw [nullable,jsonBytes,Option.map_none,Option.getD_none]
  | some value => rw [nullable,h,Option.map_some,Option.getD_some]

theorem jsonBytes_placeDigest {sequence : Nat} {sha256 : Option Sha256Digest}
    (h : sequence=0 ↔ sha256=none) :
    jsonBytes (nullable TimelineWire.digest sha256)=placeDigestBytes sequence := by
  rw [jsonBytes_nullable jsonBytes_digest,placeDigestBytes]
  cases sha256 with
  | none => rw [if_pos (h.mpr rfl),Option.map_none,Option.getD_none]
  | some value => rw [if_neg (fun hzero => nomatch h.mp hzero),Option.map_some,Option.getD_some]

theorem jsonBytes_items {Item : Type} {json : Item → Json} {size : Item → Nat} (items : List Item)
    (h : ∀ item∈items,jsonBytes (json item)=size item) :
    jsonBytes (.arr (items.map json))=arrayBytes (items.map size) := by
  rw [jsonBytes,itemsBytes_eq_sum,List.map_map,arrayBytes,List.map_map]
  have hsame : items.map ((fun item => jsonBytes item+1) ∘ json)=
      items.map ((fun size => size+1) ∘ size) :=
    List.map_congr_left (fun item hitem => congrArg Nat.succ (h item hitem))
  rw [hsame]

/-- A record takes the bytes of its names and of its values. -/
theorem jsonBytes_object {fields : List (String×Json)} {names : List String} {size : Nat}
    (hfields : fields.map Prod.fst=names) (hnames : names≠[])
    (hsize : 1+(names.map (fun name => textBytes name+2)).sum=size) :
    jsonBytes (object fields)=size+(fields.map (fun field => jsonBytes field.2)).sum := by
  have hsome : fields.map (fun field => (chars field.1,field.2))≠[] := by
    intro hempty
    rw [List.map_eq_nil_iff.mp hempty] at hfields
    exact hnames hfields.symm
  rw [object,jsonBytes_record hsome,←hsize,←hfields,List.map_map,List.map_map,List.map_map]
  rfl

/-- A text that is spelled with plain characters takes one byte for each, and two quotes. -/
theorem text_bytes {spelling : List Char} {size : Nat}
    (hplain : spelling.all (fun character => 32 ≤ character.toNat && character.toNat < 127 &&
      character.toNat≠34 && character.toNat≠92)=true)
    (hsize : 2+spelling.length=size) : textBytes (String.ofList spelling)=size := by
  have hchars : chars (String.ofList spelling)=spelling.map Char.toNat := by
    rw [chars_eq,String.toList_ofList]
  have hcodes : ∀ code∈chars (String.ofList spelling),
      32 ≤ code ∧ code < 127 ∧ code≠34 ∧ code≠92 := by
    intro code hcode
    rw [hchars] at hcode
    obtain ⟨character,hcharacter,rfl⟩ := List.mem_map.mp hcode
    have hmarks := List.all_eq_true.mp hplain character hcharacter
    simp only [Bool.and_eq_true,decide_eq_true_eq] at hmarks
    exact ⟨hmarks.1.1.1,hmarks.1.1.2,hmarks.1.2,hmarks.2⟩
  rw [← hsize,textBytes,quotedBytes_plain hcodes,hchars,List.length_map]

/-- The names of the records of a page take the bytes that are counted for them. -/
theorem recordNames_bytes :
    1+(["schema_version","project_id","region","environment","service_name"].map
      (fun name => textBytes name+2)).sum=74 ∧
    1+(["schema_version","kind","correlation_id","data_class"].map
      (fun name => textBytes name+2)).sum=59 ∧
    1+(["schema_version","name","value","data_class"].map
      (fun name => textBytes name+2)).sum=50 ∧
    1+(["schema_version","purpose","signing_key_version","signing_algorithm","payload_sha256",
      "signing_input_sha256","signature_sha256"].map (fun name => textBytes name+2)).sum=136 ∧
    1+(["schema_version","target","after_sequence","after_entry_sha256","limit","audience"].map
      (fun name => textBytes name+2)).sum=90 ∧
    1+(entryFieldNames.map (fun name => textBytes name+2)).sum=428 ∧
    1+(["schema_version","command","command_sha256","entries","next_after_sequence",
      "next_after_entry_sha256","head_sequence","head_entry_sha256","has_more"].map
      (fun name => textBytes name+2)).sum=159 := by
  refine ⟨?_,?_,?_,?_,?_,?_,?_⟩
  all_goals decide +kernel

theorem jsonBytes_target (target : TargetBinding) :
    jsonBytes (object (targetFields target))=targetBytes target := by
  have hversion : jsonBytes (text "controlgraph.target-binding/v1")=32 :=
    (jsonBytes_text _).trans (text_bytes rfl rfl)
  have hnames : 1+(["schema_version","project_id","region","environment","service_name"].map
      (fun name => textBytes name+2)).sum=74 :=
    recordNames_bytes.1
  rw [@jsonBytes_object (targetFields target) _ _ rfl (List.cons_ne_nil _ _) hnames,targetBytes]
  simp only [targetFields,List.map_cons,List.map_nil,List.sum_cons,List.sum_nil,hversion,
    jsonBytes_text]
  omega

theorem jsonBytes_correlation (item : TimelineCorrelationV1) :
    jsonBytes (object (correlationFields item))=correlationBytes item := by
  have hversion : jsonBytes (text "controlgraph.timeline-correlation/v1")=38 :=
    (jsonBytes_text _).trans (text_bytes rfl rfl)
  have hnames : 1+(["schema_version","kind","correlation_id","data_class"].map
      (fun name => textBytes name+2)).sum=59 :=
    recordNames_bytes.2.1
  rw [@jsonBytes_object (correlationFields item) _ _ rfl (List.cons_ne_nil _ _) hnames,correlationBytes]
  simp only [correlationFields,List.map_cons,List.map_nil,List.sum_cons,List.sum_nil,hversion,
    jsonBytes_text]
  omega

theorem jsonBytes_displayField (item : TimelineDisplayFieldV1) :
    jsonBytes (object (displayFieldFields item))=displayFieldBytes item := by
  have hversion : jsonBytes (text "controlgraph.timeline-display-field/v1")=40 :=
    (jsonBytes_text _).trans (text_bytes rfl rfl)
  have hnames : 1+(["schema_version","name","value","data_class"].map
      (fun name => textBytes name+2)).sum=50 :=
    recordNames_bytes.2.2.1
  rw [@jsonBytes_object (displayFieldFields item) _ _ rfl (List.cons_ne_nil _ _) hnames,displayFieldBytes]
  simp only [displayFieldFields,List.map_cons,List.map_nil,List.sum_cons,List.sum_nil,hversion,
    jsonBytes_text]
  omega

theorem jsonBytes_signature (signature : TimelineSignatureMetadataV1) :
    jsonBytes (object (signatureFields signature))=signatureBytes signature := by
  have hversion : jsonBytes (text "controlgraph.timeline-signature-metadata/v1")=45 :=
    (jsonBytes_text _).trans (text_bytes rfl rfl)
  have halgorithm : jsonBytes (text "EC_SIGN_P256_SHA256")=21 :=
    (jsonBytes_text _).trans (text_bytes rfl rfl)
  have hnames : 1+(["schema_version","purpose","signing_key_version","signing_algorithm",
      "payload_sha256","signing_input_sha256","signature_sha256"].map
        (fun name => textBytes name+2)).sum=136 :=
    recordNames_bytes.2.2.2.1
  rw [@jsonBytes_object (signatureFields signature) _ _ rfl (List.cons_ne_nil _ _) hnames,signatureBytes]
  simp only [signatureFields,List.map_cons,List.map_nil,List.sum_cons,List.sum_nil,hversion,halgorithm,
    jsonBytes_digest,jsonBytes_text]
  omega

theorem jsonBytes_command (command : TimelinePageCommandV1) :
    jsonBytes (object (commandFields command))=commandBytes command := by
  have hversion : jsonBytes (text "controlgraph.timeline-page-command/v1")=39 :=
    (jsonBytes_text _).trans (text_bytes rfl rfl)
  have hnames : 1+(["schema_version","target","after_sequence","after_entry_sha256","limit",
      "audience"].map (fun name => textBytes name+2)).sum=90 :=
    recordNames_bytes.2.2.2.2.1
  rw [@jsonBytes_object (commandFields command) _ _ rfl (List.cons_ne_nil _ _) hnames,commandBytes]
  simp only [commandFields,List.map_cons,List.map_nil,List.sum_cons,List.sum_nil,hversion,
    jsonBytes_target,jsonBytes_integer,jsonBytes_placeDigest command.cursor,jsonBytes_text]
  omega

theorem jsonBytes_entry (entry : TimelineEntryProjectionV1) :
    jsonBytes (object (entryFields entry))=entryBytes entry.toTimelineEntryProjectionFields := by
  have hversion : jsonBytes (text "controlgraph.timeline-entry-projection/v1")=43 :=
    (jsonBytes_text _).trans (text_bytes rfl rfl)
  have hnames : 1+(entryFieldNames.map (fun name => textBytes name+2)).sum=428 :=
    recordNames_bytes.2.2.2.2.2.1
  have hprevious : jsonBytes (nullable TimelineWire.digest entry.previous_entry_sha256)=
      if entry.previous_entry_sha256=none then 4 else 66 := by
    rw [jsonBytes_nullable jsonBytes_digest]
    cases entry.previous_entry_sha256 with
    | none => rw [if_pos rfl,Option.map_none,Option.getD_none]
    | some value => rw [if_neg (fun h => nomatch h),Option.map_some,Option.getD_some]
  have hactor := @jsonBytes_nullable Identifier (fun actor_id => text actor_id.1) _
    (fun actor_id => jsonBytes_text actor_id.1) entry.actor_id
  rw [@jsonBytes_object (entryFields entry) entryFieldNames _ rfl (List.cons_ne_nil _ _) hnames,
    entryBytes]
  simp only [entryFields,List.map_cons,List.map_nil,List.sum_cons,List.sum_nil,hversion,
    jsonBytes_digest,jsonBytes_integer,jsonBytes_timestamp,jsonBytes_target,hprevious,
    jsonBytes_nullable jsonBytes_signature,
    jsonBytes_items _ (fun item _ => jsonBytes_correlation item),
    jsonBytes_items _ (fun item _ => jsonBytes_displayField item),hactor]
  simp only [jsonBytes_text]
  ring

theorem jsonBytes_page {functions : TimelineFunctions} {dialect : Dialect}
    (read : TimelineReadSlice functions) : jsonBytes (pageJson (projectedPage dialect read))=
      pageBytes dialect read.toTimelineReadSliceFields := by
  have hversion : jsonBytes (text "controlgraph.timeline-page/v1")=31 :=
    (jsonBytes_text _).trans (text_bytes rfl rfl)
  have hnames : 1+(["schema_version","command","command_sha256","entries","next_after_sequence",
      "next_after_entry_sha256","head_sequence","head_entry_sha256","has_more"].map
        (fun name => textBytes name+2)).sum=159 :=
    recordNames_bytes.2.2.2.2.2.2
  obtain ⟨-,-,-,hhead,-,⟨hnext,hnextSha,-,-⟩,-⟩ :=
    validatePage_eq_ok.mp (@projectedPage_accepted functions dialect read)
  have hplace : (projectedPage dialect read).next_after_sequence=
      read.command.after_sequence+read.entries.length := by
    have haccepted := read.accepted
    unfold TimelineReadSliceFields.postInit at haccepted
    cases hobserved : read.head with
    | none =>
      rw [hobserved,require_eq_ok] at haccepted
      rw [projectedPage,haccepted.2]
      rfl
    | some head =>
      rw [hobserved] at haccepted
      simp only [check_bind_eq_ok,require_eq_ok] at haccepted
      exact lastSequence_view haccepted.2.2.2.1
  have hcursor : (projectedPage dialect read).next_after_sequence=0 ↔
      (projectedPage dialect read).next_after_entry_sha256=none := by
    rw [hnext,hnextSha,lastSequence,lastSha256]
    cases (projectedPage dialect read).entries.getLast? with
    | none => exact read.command.cursor
    | some last =>
      have hpositive := last.sequence.2
      simp only [Option.map_some,Option.getD_some,reduceCtorEq,iff_false]
      omega
  have hentries := jsonBytes_items (projectedPage dialect read).entries
    (fun entry _ => jsonBytes_entry entry)
  have hviews : (projectedPage dialect read).entries.map (fun entry =>
      entryBytes entry.toTimelineEntryProjectionFields)=read.entries.map (fun entry =>
        entryBytes (projectedFields dialect read.command.audience entry)) := by
    rw [projectedPage,List.map_map]
    rfl
  have hmore : jsonBytes (.bool (projectedPage dialect read).has_more)=
      if read.command.after_sequence+read.entries.length <
        (read.head.map (fun head => head.sequence.1)).getD 0 then 4 else 5 := by
    rw [jsonBytes,←hplace]
    by_cases hbehind : (projectedPage dialect read).next_after_sequence <
        (projectedPage dialect read).head_sequence
    · have htrue : (projectedPage dialect read).has_more=true := decide_eq_true hbehind
      rw [htrue,if_pos rfl]
      exact (if_pos hbehind).symm
    · have hfalse : (projectedPage dialect read).has_more=false := decide_eq_false hbehind
      rw [hfalse,if_neg Bool.false_ne_true]
      exact (if_neg hbehind).symm
  rw [hviews] at hentries
  rw [pageJson,@jsonBytes_object (pageFields (projectedPage dialect read)) _ _ rfl
    (List.cons_ne_nil _ _) hnames,pageBytes]
  simp only [pageFields,List.map_cons,List.map_nil,List.sum_cons,List.sum_nil,hversion,
    jsonBytes_digest,jsonBytes_integer,jsonBytes_command,hentries,jsonBytes_placeDigest hcursor,
    jsonBytes_placeDigest hhead,hmore,hplace]
  simp only [projectedPage]
  ring

end

/-- A read slice whose shown texts are in normal form, as their contract type asks for. -/
structure NormalSlice (tables : UnicodeTables) (functions : TimelineFunctions) extends
    TimelineReadSlice functions where
  texts_normal : ∀ entry∈entries,∀ field∈entry.content.event.display_fields,
    tables.nfc (chars field.value.1)=chars field.value.1

/-- The page of a slice is encoded exactly when the slice has at most sixty-four entries
and the bytes of the page, counted from them, are within the bound of a contract. -/
theorem page_encodable (tables : UnicodeTables) (functions : TimelineFunctions)
    (isLetter : Char → Bool) (read : NormalSlice tables functions) :
    (∃ page encoded,projectTimelinePage (backendDialect isLetter) read.toTimelineReadSlice=.ok page ∧
      canonicalJsonValueBytes tables.nfc (pageJson page.toTimelinePageFields)=.ok encoded) ↔
    read.entries.length ≤ 64 ∧
      pageBytes (backendDialect isLetter) read.toTimelineReadSliceFields ≤ maxContractBytes := by
  have hnormal : ∀ entry∈(projectedPage (backendDialect isLetter) read.toTimelineReadSlice).entries,
      ∀ field∈entry.display_fields,tables.nfc (chars field.value.1)=chars field.value.1 := by
    intro entry hentry field hfield
    obtain ⟨source,hsource,rfl⟩ := List.mem_map.mp hentry
    obtain ⟨shown,hshown,rfl⟩ := List.mem_map.mp hfield
    have hsourceField := List.mem_of_mem_filter hshown
    unfold redactedField
    by_cases hsecret : SecretPatterns.isSecretShaped (backendDialect isLetter) shown.value.1=true
    · rw [if_pos hsecret]
      exact tables.nfc_ascii _ (chars_ascii (isAscii_ofList rfl))
    · rw [if_neg hsecret]
      exact read.texts_normal source hsource shown hsourceField
  have hrestricted := restricted_page (projectedPage_accepted read.toTimelineReadSlice) hnormal
  have hlength : (projectedPage (backendDialect isLetter) read.toTimelineReadSlice).entries.length=
      read.entries.length := List.length_map _
  rw [projectTimelinePage_eq,←jsonBytes_page,←hlength,←hrestricted,Restricted,
    ←encodable_iff (uniqueKeys_page _)]
  constructor
  · rintro ⟨page,encoded,hpage,hencoded⟩
    cases hpage
    exact ⟨encoded,hencoded⟩
  · rintro ⟨encoded,hencoded⟩
    exact ⟨_,encoded,rfl,hencoded⟩

/-- The entry at a place of a timeline that repeats one event. -/
def placedEntry (place : Nat) : TimelineEntryV1 constantFunctions where
  entry_id := entryIdentity repeatedSha256
  entry_sha256 := repeatedSha256
  content := if h : 2 ≤ place ∧ place ≤ 9007199254740991 then
      ⟨keyShapedEvent.target,⟨place,by omega⟩,some repeatedSha256,⟨0,start_bounds⟩,keyShapedEvent,
        pairedEntry.content.target_matches,by
        simp only [reduceCtorEq,iff_false]
        omega⟩
    else ⟨keyShapedEvent.target,firstEpoch,none,⟨0,start_bounds⟩,keyShapedEvent,
        pairedEntry.content.target_matches,firstEpoch_alone⟩
  addressed := rfl
  entry_bound := pairedEntry.entry_bound

/-- The entries stand one behind the other. -/
theorem followsOn_placedEntry {start count : Nat} (hstart : 1 ≤ start) (hend : start+count ≤ 1000) :
    followsOn (standsAt keyShapedEvent.target) TimelineEntryV1.entry_sha256 start
      (if start=1 then none else some repeatedSha256)
      ((List.range' start count).map placedEntry)=true := by
  induction count generalizing start with
  | zero => rfl
  | succ count ih =>
    have hrest := @ih (start+1) (by omega) (by omega)
    rw [if_neg (by omega)] at hrest
    rw [List.range'_succ,List.map_cons,followsOn,Bool.and_eq_true]
    refine ⟨?_,hrest⟩
    by_cases hfirst : start=1
    · rw [if_pos hfirst,hfirst]
      exact decide_eq_true ⟨rfl,rfl,rfl⟩
    · have hplace : 2 ≤ start ∧ start ≤ 9007199254740991 := by omega
      rw [if_neg hfirst]
      refine decide_eq_true ?_
      simp only [placedEntry,dif_pos hplace,and_self]

/-- The slice of the first sixty-five entries of that timeline. -/
def longSlice : NormalSlice default constantFunctions where
  command := {firstCommand with limit := 100,limit_bound := by omega}
  head := some ⟨keyShapedEvent.target,⟨65,by omega⟩,entryIdentity repeatedSha256,repeatedSha256,
    ⟨0,start_bounds⟩,pairedEntry.entry_bound⟩
  entries := (List.range' 1 65).map placedEntry
  accepted := by
    have hplaced := @followsOn_placedEntry 1 65 (by omega) (by omega)
    simp only [TimelineReadSliceFields.postInit,check_bind_eq_ok,require_eq_ok]
    refine ⟨rfl,Nat.zero_le _,?_,hplaced,?_⟩
    · rw [List.length_map,List.length_range']
      rfl
    · rw [if_neg (by decide),require_eq_ok]
      intro last hlast _
      obtain ⟨place,-,rfl⟩ := List.mem_map.mp (List.mem_of_getLast? hlast)
      rfl
  texts_normal := fun _ _ _ _ => rfl

/-- A page of sixty-five entries is not encoded. -/
theorem long_page_not_encodable : ¬∀ (tables : UnicodeTables) (functions : TimelineFunctions)
    (isLetter : Char → Bool) (read : NormalSlice tables functions),∃ page encoded,
      projectTimelinePage (backendDialect isLetter) read.toTimelineReadSlice=.ok page ∧
        canonicalJsonValueBytes tables.nfc (pageJson page.toTimelinePageFields)=.ok encoded := by
  intro h
  obtain ⟨page,encoded,hpage,hencoded⟩ := h default constantFunctions (fun _ => false) longSlice
  rw [projectTimelinePage_eq] at hpage
  cases hpage
  have hshort := (restricted_page (projectedPage_accepted longSlice.toTimelineReadSlice)
    (fun _ _ _ _ => rfl)).mp (canonicalJsonValueBytes_eq_ok.mp hencoded).1
  have hlength : longSlice.entries.length=65 := by
    rw [longSlice,List.length_map,List.length_range']
  rw [projectedPage,List.length_map,hlength] at hshort
  omega

end ControlGraph.TimelinePageSizes
