import ControlGraph.CodecAgreement
import ControlGraph.TimelineEntryAgreement

/-!
# The console's page is the services' page

The console reads the canonical text of a page that the services projected for
an operator. Places, digests and cursors pass its checks because the page passed
the services', and its entries are read one by one. So a page is read as written
exactly when each of its entries is.
-/

namespace ControlGraph.TimelinePageAgreement

open CanonicalCodec Checks CodecAgreement ConsoleCodec ConsoleTimeline ConsoleValues ContractText
open JsonTranslation JsonValues TimelineContracts TimelineEntryAgreement TimelinePages
open TimelineProjection TimelineReading TimelineWire Utf16Text Utf8Text

open ReceiptContracts (TargetBinding)
open RevocationContracts (ShortText)
open SecretPatterns (backendDialect)

/-- A page as the console keeps it. -/
def pageView (page : TimelinePageFields) : TimelinePage where
  target := targetView page.command.target
  entries := page.entries.map (fun entry => entryView entry.toTimelineEntryProjectionFields)
  nextCursor := ⟨page.next_after_sequence,
    page.next_after_entry_sha256.map (fun digest => unitsOf digest.1)⟩
  head := ⟨page.head_sequence,page.head_entry_sha256.map (fun digest => unitsOf digest.1)⟩
  hasMore := page.has_more

/-- What the console asks for when it sends a cursor. -/
def queryOf (command : TimelinePageCommandV1) : TimelineQuery :=
  ⟨⟨command.after_sequence,command.after_entry_sha256.map (fun digest => unitsOf digest.1)⟩,
    command.limit⟩

/-- A cursor has six fields. -/
theorem named_command (command : TimelinePageCommandV1) : Named (commandFields command) :=
  @named_of _ ["schema_version","target","after_sequence","after_entry_sha256","limit","audience"]
    rfl (by decide +kernel) (by decide +kernel)

theorem named_page (page : TimelinePageFields) : Named (pageFields page) :=
  @named_of _ ["schema_version","command","command_sha256","entries","next_after_sequence",
    "next_after_entry_sha256","head_sequence","head_entry_sha256","has_more"] rfl
    (by decide +kernel) (by decide +kernel)

section

variable {runtime : ConsoleRuntime} {name : String}

section

variable {functions : TimelineFunctions} (isLetter : Char → Bool)

/-- Entries that stand in order behind a cursor are in order for the console. -/
theorem contiguous_seen {target : TargetBinding} {entries : List (TimelineEntryV1 functions)}
    {sequence : Nat} {predecessor : Option Sha256Digest}
    (h : followsOn (standsAt target) TimelineEntryV1.entry_sha256 sequence predecessor entries=true) :
    contiguous (targetView target) sequence (predecessor.map (fun digest => unitsOf digest.1))
      (entries.map (fun entry =>
        entryView (projectedFields (backendDialect isLetter) .operator entry)))=true := by
  induction entries generalizing sequence predecessor with
  | nil => rfl
  | cons entry entries ih =>
    rw [followsOn,Bool.and_eq_true] at h
    obtain ⟨htarget,hplace,hpredecessor⟩ := of_decide_eq_true h.1
    have htail := ih h.2
    have hnext : ((sequence+1 : Nat) : Int)=(sequence : Int)+1 := by omega
    rw [hnext,Option.map_some] at htail
    have hsame : sameTarget (entryView (projectedFields (backendDialect isLetter) .operator
        entry)).target (targetView target)=true := by
      rw [←htarget]
      exact decide_eq_true ⟨rfl,rfl,rfl,rfl⟩
    rw [List.map_cons,contiguous,Bool.and_eq_true,Bool.and_eq_true,Bool.and_eq_true]
    refine ⟨⟨⟨hsame,?_⟩,?_⟩,htail⟩
    · exact decide_eq_true (congrArg Int.ofNat hplace)
    · exact decide_eq_true (congrArg (Option.map (fun digest : Sha256Digest => unitsOf digest.1))
        hpredecessor)

/-- The texts, numbers and digests of a record repeat no key. -/
theorem uniqueKeys_leaves : (∀ value,(text value).UniqueKeys) ∧
    (∀ value,(TimelineWire.integer value).UniqueKeys) ∧
    (∀ value,(TimelineWire.digest value).UniqueKeys) ∧
    (∀ second,(timestamp second).UniqueKeys) ∧
    ∀ {Value : Type} {json : Value → Json},(∀ value,(json value).UniqueKeys) →
      ∀ value,(nullable json value).UniqueKeys := by
  refine ⟨fun _ => .str _,fun _ => .int _,fun _ => .str _,fun _ => .str _,?_⟩
  intro Value json hjson value
  cases value with
  | none => exact .null
  | some value => exact hjson value

/-- Items without repeated keys make an array without repeated keys. -/
theorem uniqueKeys_items {Item : Type} {items : List Item} {json : Item → Json}
    (h : ∀ item,(json item).UniqueKeys) : (Json.arr (items.map json)).UniqueKeys := by
  refine .arr ?_
  intro value hvalue
  obtain ⟨item,-,rfl⟩ := List.mem_map.mp hvalue
  exact h item

theorem uniqueKeys_target (target : TargetBinding) : (object (targetFields target)).UniqueKeys := by
  obtain ⟨htext,-⟩ := uniqueKeys_leaves
  refine uniqueKeys_object (named_target target) ?_
  simp only [targetFields,List.forall_mem_cons,htext,List.not_mem_nil,false_implies,implies_true,
    and_self]

theorem uniqueKeys_entry (entry : TimelineEntryProjectionV1) :
    (object (entryFields entry)).UniqueKeys := by
  obtain ⟨htext,hinteger,hdigest,htime,hnullable⟩ := uniqueKeys_leaves
  have hcorrelation : ∀ item,(object (correlationFields item)).UniqueKeys := by
    intro item
    refine uniqueKeys_object (named_correlation item) ?_
    simp only [correlationFields,List.forall_mem_cons,htext,List.not_mem_nil,false_implies,
      implies_true,and_self]
  have hfield : ∀ item,(object (displayFieldFields item)).UniqueKeys := by
    intro item
    refine uniqueKeys_object (named_displayField item) ?_
    simp only [displayFieldFields,List.forall_mem_cons,htext,List.not_mem_nil,false_implies,
      implies_true,and_self]
  have hsignature : ∀ signature,(object (signatureFields signature)).UniqueKeys := by
    intro signature
    refine uniqueKeys_object (named_signature signature) ?_
    simp only [signatureFields,List.forall_mem_cons,htext,hdigest,List.not_mem_nil,false_implies,
      implies_true,and_self]
  refine uniqueKeys_object (named_entry entry) ?_
  simp only [entryFields,List.forall_mem_cons,htext,hinteger,hdigest,htime,hnullable,implies_true,
    uniqueKeys_target,uniqueKeys_items,hcorrelation,hfield,hsignature,List.not_mem_nil,false_implies,
    and_self]

theorem uniqueKeys_page (page : TimelinePageFields) : (pageJson page).UniqueKeys := by
  obtain ⟨htext,hinteger,hdigest,-,hnullable⟩ := uniqueKeys_leaves
  have hcommand : (object (commandFields page.command)).UniqueKeys := by
    refine uniqueKeys_object (named_command page.command) ?_
    simp only [commandFields,List.forall_mem_cons,htext,hinteger,hdigest,hnullable,implies_true,
      uniqueKeys_target,List.not_mem_nil,false_implies,and_self]
  refine uniqueKeys_object (named_page page) ?_
  simp only [pageFields,List.forall_mem_cons,htext,hinteger,hdigest,hnullable,implies_true,hcommand,
    uniqueKeys_items,uniqueKeys_entry,Json.UniqueKeys.bool,List.not_mem_nil,false_implies,and_self]

theorem isNumber_seen (value : Nat) :
    isNumber (some (seen (TimelineWire.integer value))) value=true := by
  rw [seen_integer,isNumber]
  exact decide_eq_true rfl

/-- A digest or the null literal that is read is the one that was written. -/
theorem isNullableText_seen (value : Option Sha256Digest) :
    isNullableText (some (seen (nullable TimelineWire.digest value)))
      (value.map (fun digest => unitsOf digest.1))=true := by
  cases value with
  | none =>
    rw [nullable,seen_null]
    rfl
  | some value =>
    rw [nullable,TimelineWire.digest,seen_text,Option.map_some]
    exact decide_eq_true rfl

/-- Reading a page comes down to reading its entries. -/
theorem decodeTimelinePage_eq {read : TimelineReadSlice functions}
    (haudience : read.command.audience=.operator) {encoded : Bytes}
    (hencodable : canonicalJsonValueBytes runtime.tables.nfc
      (pageJson (projectedPage (backendDialect isLetter) read))=.ok encoded)
    {text : Units} (htext : encodeUtf8 (fromUnits text.1)=some encoded) :
    decodeTimelinePage runtime text.1 (queryOf read.command)=
      (do
        let page := pageView (projectedPage (backendDialect isLetter) read)
        let entries ← ((projectedPage (backendDialect isLetter) read).entries.map (fun entry =>
          seen (object (entryFields entry)))).mapM (parseEntry runtime)
        require (contiguous page.target ((queryOf read.command).afterSequence+1)
            (queryOf read.command).afterEntrySha256 entries=true)
          "timeline page is not one contiguous target sequence"
        require ((page.nextCursor.afterSequence=0 ↔ page.nextCursor.afterEntrySha256=none) ∧
            (page.head.afterSequence=0 ↔ page.head.afterEntrySha256=none) ∧
            page.nextCursor.afterSequence=
              (entries.getLast?.map TimelineEntry.sequence).getD (queryOf read.command).afterSequence ∧
            page.nextCursor.afterEntrySha256=
              (entries.getLast?.map (fun entry => some entry.entrySha256)).getD
                (queryOf read.command).afterEntrySha256 ∧
            page.nextCursor.afterSequence ≤ page.head.afterSequence ∧
            (page.hasMore=true ↔ page.nextCursor.afterSequence < page.head.afterSequence) ∧
            ¬((queryOf read.command).afterSequence < page.head.afterSequence ∧ entries=[]) ∧
            (page.nextCursor.afterSequence=page.head.afterSequence →
              page.nextCursor.afterEntrySha256=page.head.afterEntrySha256))
          "timeline response cursor is invalid"
        return {page with entries := entries}) := by
  have hnamed := named_page (projectedPage (backendDialect isLetter) read)
  have hdecode : decodeCanonicalJson runtime.toRuntime text.1=
      .ok (seenFields (pageFields (projectedPage (backendDialect isLetter) read))) :=
    console_of_canonical (uniqueKeys_page _) hencodable htext (seen_object _)
  have hrecord := @record_seen _ hnamed "timeline page"
    ["schema_version","command","command_sha256","entries","next_after_sequence",
      "next_after_entry_sha256","head_sequence","head_entry_sha256","has_more"] (fun _ hkey => hkey)
  have hread := property_seenFields hnamed
  rw [seen_object] at hrecord
  generalize seenFields (pageFields (projectedPage (backendDialect isLetter) read))=page
    at hdecode hrecord hread
  simp only [pageFields,List.forall_mem_cons] at hread
  obtain ⟨hversion,hcommand,hcommandSha,hentries,hnext,hnextSha,hhead,hheadSha,hmore,-⟩ := hread
  have hversioned : decodeVersionedCanonicalJson runtime.toRuntime text.1
      (chars "controlgraph.timeline-page/v1")=.ok page := by
    have hdeclared : declaredVersion page=.ok (chars "controlgraph.timeline-page/v1") := by
      rw [declaredVersion,show page.lookup (chars "schema_version")=_ from hversion,seen_text,
        @unitsOf_ascii "controlgraph.timeline-page/v1" (isAscii_ofList rfl)]
    exact (bind_of_ok hdecode).trans ((bind_of_ok hdeclared).trans (bind_of_ok (require_of rfl)))
  have hcommandNamed := named_command (projectedPage (backendDialect isLetter) read).command
  have hcommandRecord := @record_seen _ hcommandNamed "timeline command"
    ["schema_version","target","after_sequence","after_entry_sha256","limit","audience"]
    (fun _ hkey => hkey)
  have hcommandRead := property_seenFields hcommandNamed
  generalize seenFields (commandFields (projectedPage (backendDialect isLetter) read).command)=command
    at hcommandRecord hcommandRead
  simp only [commandFields,List.forall_mem_cons] at hcommandRead
  obtain ⟨hcommandVersion,htarget,hafter,hafterSha,hlimit,hreader,-⟩ := hcommandRead
  unfold decodeTimelinePage
  rw [bind_of_ok hversioned,bind_of_ok hrecord]
  simp only [hcommand,hcommandSha,hentries,hnext,hnextSha,hhead,hheadSha,hmore]
  rw [bind_of_ok hcommandRecord]
  simp only [hcommandVersion,htarget,hafter,hafterSha,hlimit,hreader]
  have haccepted := @projectedPage_accepted functions (backendDialect isLetter) read
  rw [validatePage_eq_ok] at haccepted
  obtain ⟨⟨-,hnextSafe,hheadSafe⟩,-,⟨hbound,-⟩,-⟩ := haccepted
  have hoperator : isText (some (seen (TimelineWire.text (audienceValue
      (projectedPage (backendDialect isLetter) read).command.audience)))) "OPERATOR"=true := by
    rw [show (projectedPage (backendDialect isLetter) read).command.audience=.operator from haudience]
    exact isText_seen (isAscii_ofList rfl)
  have hasked : (projectedPage (backendDialect isLetter) read).entries.length ≤
      (queryOf read.command).limit := hbound
  rw [bind_of_ok (require_of ⟨isText_seen (isAscii_ofList rfl),hoperator,isNumber_seen _,
      isNullableText_seen _,isNumber_seen _⟩),bind_of_ok (digest_seen _),
    bind_of_ok (parseTarget_seen _),bind_of_ok (array_seen hasked)]
  apply bind_congr
  intro entries
  apply bind_congr
  intro _
  rw [bind_of_ok (integer_seen (by omega) hnextSafe),bind_of_ok (nullableDigest_seen _),
    bind_of_ok (integer_seen (by omega) hheadSafe),bind_of_ok (nullableDigest_seen _),seen_bool]
  rfl

theorem contiguous_page {read : TimelineReadSlice functions}
    (haudience : read.command.audience=.operator) :
    contiguous (pageView (projectedPage (backendDialect isLetter) read)).target
      ((queryOf read.command).afterSequence+1) (queryOf read.command).afterEntrySha256
      (pageView (projectedPage (backendDialect isLetter) read)).entries=true := by
  have hviews : (pageView (projectedPage (backendDialect isLetter) read)).entries=
      read.entries.map (fun entry =>
        entryView (projectedFields (backendDialect isLetter) .operator entry)) := by
    rw [←haudience,pageView,projectedPage]
    exact List.map_map
  have haccepted := read.accepted
  unfold TimelineReadSliceFields.postInit at haccepted
  rw [hviews]
  cases hhead : read.head with
  | none =>
    rw [hhead] at haccepted
    simp only [require_eq_ok] at haccepted
    rw [haccepted.2]
    rfl
  | some head =>
    rw [hhead] at haccepted
    simp only [check_bind_eq_ok,require_eq_ok] at haccepted
    have hordered := contiguous_seen isLetter haccepted.2.2.2.1
    have hnext : ((read.command.after_sequence+1 : Nat) : Int)=read.command.after_sequence+1 := by
      omega
    rwa [hnext] at hordered

/-- The cursor of a page passes the console's checks. -/
theorem cursor_seen (read : TimelineReadSlice functions) :
    let page := pageView (projectedPage (backendDialect isLetter) read)
    (page.nextCursor.afterSequence=0 ↔ page.nextCursor.afterEntrySha256=none) ∧
      (page.head.afterSequence=0 ↔ page.head.afterEntrySha256=none) ∧
      page.nextCursor.afterSequence=
        (page.entries.getLast?.map TimelineEntry.sequence).getD (queryOf read.command).afterSequence ∧
      page.nextCursor.afterEntrySha256=
        (page.entries.getLast?.map (fun entry => some entry.entrySha256)).getD
          (queryOf read.command).afterEntrySha256 ∧
      page.nextCursor.afterSequence ≤ page.head.afterSequence ∧
      (page.hasMore=true ↔ page.nextCursor.afterSequence < page.head.afterSequence) ∧
      ¬((queryOf read.command).afterSequence < page.head.afterSequence ∧ page.entries=[]) ∧
      (page.nextCursor.afterSequence=page.head.afterSequence →
        page.nextCursor.afterEntrySha256=page.head.afterEntrySha256) := by
  have haccepted := @projectedPage_accepted functions (backendDialect isLetter) read
  rw [validatePage_eq_ok] at haccepted
  obtain ⟨-,-,-,hhead,-,⟨hnext,hnextSha,hle,hmore⟩,hempty,hend⟩ := haccepted
  have hcommand := read.command.cursor
  intro page
  have hlast : page.nextCursor.afterSequence=(page.entries.getLast?.map TimelineEntry.sequence).getD
        (queryOf read.command).afterSequence ∧
      page.nextCursor.afterEntrySha256=(page.entries.getLast?.map (fun entry =>
        some entry.entrySha256)).getD (queryOf read.command).afterEntrySha256 ∧
      (page.nextCursor.afterSequence=0 ↔ page.nextCursor.afterEntrySha256=none) := by
    simp only [page,pageView,queryOf]
    rw [hnext,hnextSha,lastSequence,lastSha256,List.getLast?_map]
    cases (projectedPage (backendDialect isLetter) read).entries.getLast? with
    | none =>
      have hzero : (read.command.after_sequence : Int)=0 ↔
          read.command.after_entry_sha256.map (fun digest => unitsOf digest.1)=none := by
        rw [Option.map_eq_none_iff,←hcommand]
        omega
      exact ⟨rfl,rfl,hzero⟩
    | some last =>
      have hplace := last.sequence.2
      simp only [Option.map_some,Option.getD_some,entryView,true_and,reduceCtorEq,iff_false]
      omega
  refine ⟨hlast.2.2,?_,hlast.1,hlast.2.1,?_,?_,?_,?_⟩
  · simp only [page,pageView,Option.map_eq_none_iff]
    rw [←hhead]
    omega
  · simp only [page,pageView]
    omega
  · simp only [page,pageView]
    rw [hmore,decide_eq_true_eq]
    omega
  · simp only [page,pageView,queryOf,List.map_eq_nil_iff]
    rintro ⟨hbehind,hnone⟩
    have hlt : read.command.after_sequence <
        (projectedPage (backendDialect isLetter) read).head_sequence := by omega
    exact hempty ⟨hlt,hnone⟩
  · simp only [page,pageView]
    intro hsame
    rw [hend (by omega)]

end

/-- A read slice whose shown texts are safe, as their contract type asks for. -/
structure CheckedSlice (runtime : ConsoleRuntime) (functions : TimelineFunctions) extends
    TimelineReadSlice functions where
  /-- Shown texts are scalar text in normal form without rendering controls. -/
  texts_safe : ∀ entry∈entries,∀ field∈entry.content.event.display_fields,
    validateSafeText runtime (chars field.value.1)=.ok ()

/-- The console reads the page of a slice as it was written exactly when it shows
every entry as it was written. -/
theorem decodeTimelinePage_seen {functions : TimelineFunctions} (isLetter : Char → Bool)
    (read : CheckedSlice runtime functions) (haudience : read.command.audience=.operator)
    {encoded : Bytes} (hencodable : canonicalJsonValueBytes runtime.tables.nfc
      (pageJson (projectedPage (backendDialect isLetter) read.toTimelineReadSlice))=.ok encoded)
    {text : Units} (htext : encodeUtf8 (fromUnits text.1)=some encoded) :
    decodeTimelinePage runtime text.1 (queryOf read.command)=
      .ok (pageView (projectedPage (backendDialect isLetter) read.toTimelineReadSlice)) ↔
        ∀ entry∈read.entries,ReadAlike isLetter entry := by
  have hentries : (∀ entry∈(projectedPage (backendDialect isLetter) read.toTimelineReadSlice).entries,
      parseEntry runtime (seen (object (entryFields entry)))=
        .ok (entryView entry.toTimelineEntryProjectionFields)) ↔
      ∀ entry∈read.entries,ReadAlike isLetter entry := by
    have hviews : (projectedPage (backendDialect isLetter) read.toTimelineReadSlice).entries=
        read.entries.map (view (backendDialect isLetter) .operator) := by
      rw [←haudience]
      rfl
    rw [hviews,List.forall_mem_map]
    exact forall₂_congr (fun entry hentry => parseEntry_seen isLetter (read.texts_safe entry hentry))
  rw [decodeTimelinePage_eq isLetter haudience hencodable htext,←hentries,←mapM_seen]
  constructor
  · intro h
    obtain ⟨entries,hread,h⟩ := bind_eq_ok.mp h
    rw [check_bind_eq_ok,check_bind_eq_ok] at h
    have hsame : entries=(pageView (projectedPage (backendDialect isLetter)
        read.toTimelineReadSlice)).entries := congrArg TimelinePage.entries (Except.ok.inj h.2.2)
    rw [hread,hsame]
    rfl
  · intro hread
    have hcontiguous := contiguous_page isLetter haudience
    have hentriesRead : ((projectedPage (backendDialect isLetter)
        read.toTimelineReadSlice).entries.map (fun entry =>
          seen (object (entryFields entry)))).mapM (parseEntry runtime)=
        .ok (pageView (projectedPage (backendDialect isLetter) read.toTimelineReadSlice)).entries :=
      hread
    rw [bind_of_ok hentriesRead,bind_of_ok (require_of hcontiguous),
      bind_of_ok (require_of (cursor_seen isLetter read.toTimelineReadSlice))]
    rfl

end

/-- Canonical bytes are those of some text of the console. -/
theorem units_of_canonical {runtime : ConsoleRuntime} {value : Json} {encoded : Bytes}
    (hunique : value.UniqueKeys)
    (hbytes : canonicalJsonValueBytes runtime.tables.nfc value=.ok encoded) :
    ∃ text : Units,encodeUtf8 (fromUnits text.1)=some encoded := by
  obtain ⟨hrestricted,hencoded,-⟩ := canonicalJsonValueBytes_eq_ok.mp hbytes
  let source : RestrictedValue runtime.tables.nfc := ⟨value,hunique,hrestricted⟩
  have hback := Utf16Text.fromUnits_toUnits source.text_scalar
  refine ⟨⟨_,isUnits_toUnits (JsonText.dumpsSorted value)⟩,?_⟩
  exact (congrArg encodeUtf8 hback).trans hencoded

/-- Digest functions of one value. -/
def constantFunctions : TimelineFunctions := ⟨fun _ => repeatedSha256,fun _ => repeatedSha256⟩

/-- A platform on which every text is in normal form. -/
def plainRuntime : ConsoleRuntime where
  tables := default
  integerOf := fun _ => none
  otherTime := fun _ => none
  isRenderingControl := fun character => character < 32 || 127 ≤ character && character < 160
  visible_ascii := by
    intro character hlow hhigh
    rw [decide_eq_false (by omega),decide_eq_false (by omega)]
    rfl

/-- The cursor of an operator's first read. -/
def firstCommand : TimelinePageCommandV1 :=
  ⟨keyShapedEvent.target,0,none,1,.operator,by decide,by decide,by decide⟩

def emptySlice : CheckedSlice plainRuntime constantFunctions where
  command := firstCommand
  head := none
  entries := []
  accepted := require_of ⟨rfl,rfl⟩
  texts_safe := fun _ hentry => nomatch hentry

def repeatedText (count : Nat) (character : Char) : String :=
  String.ofList (List.replicate count character)

theorem length_repeatedText (count : Nat) (character : Char) :
    (repeatedText count character).length=count := by
  rw [repeatedText,String.length_ofList,List.length_replicate]

/-- A text of 257 characters beyond the basic plane. -/
def pairedText : ShortText :=
  ⟨repeatedText 257 (Char.ofNat 0x1f600),by simp only [length_repeatedText]; omega⟩

theorem chars_pairedText : chars pairedText.1=List.replicate 257 0x1f600 := by
  have hcode : (Char.ofNat 0x1f600).toNat=0x1f600 := by decide
  have htext : pairedText.1=String.ofList (List.replicate 257 (Char.ofNat 0x1f600)) := rfl
  rw [chars_eq,htext,String.toList_ofList,List.map_replicate,hcode]

theorem pairedText_not_secret :
    SecretPatterns.isSecretShaped SecretPatterns.plainDialect pairedText.1=false := by
  unfold SecretPatterns.isSecretShaped SecretPatterns.search pairedText repeatedText
  simp only [String.toList_ofList]
  decide +kernel

/-- An event that shows the text. -/
def pairedEvent : TimelineEventV1 :=
  {keyShapedEvent with
    root_id := ⟨"cgroot:"++repeatedSha256.1,StorageIdentity.isIdentifier_root repeatedSha256⟩
    display_fields := [⟨.summary,pairedText,.publicDemo⟩]
    display_fields_bound := ⟨le_refl 1,by rw [List.length_singleton]; omega⟩
    display_fields_canonical := ⟨List.nodup_singleton _,List.pairwise_singleton _ _⟩}

theorem firstEpoch_alone : firstEpoch.1=1 ↔ (none : Option Sha256Digest)=none := by decide

/-- The first entry of a timeline, which shows the text. -/
def pairedEntry : TimelineEntryV1 constantFunctions where
  entry_id := entryIdentity repeatedSha256
  entry_sha256 := repeatedSha256
  content := ⟨keyShapedEvent.target,firstEpoch,none,⟨0,start_bounds⟩,pairedEvent,rfl,firstEpoch_alone⟩
  addressed := rfl
  entry_bound := rfl

theorem pairedText_safe : validateSafeText plainRuntime (chars pairedText.1)=.ok () := by
  rw [chars_pairedText]
  have hscalar : ∀ character∈List.replicate 257 0x1f600,character.isValidChar := by decide +kernel
  have hencoded : (encodeUtf8 (List.replicate 257 0x1f600)).isSome=true := by
    rw [encodeUtf8,if_pos hscalar,Option.isSome_some]
  have hnfc : validateNfcText plainRuntime.tables.nfc (List.replicate 257 0x1f600)=.ok () :=
    (bind_of_ok (require_of hencoded)).trans (require_of rfl)
  have hcontrol : ∀ character∈List.replicate 257 0x1f600,
      plainRuntime.isRenderingControl character=false := by decide +kernel
  exact (bind_of_ok hnfc).trans (require_of hcontrol)

/-- A read of a timeline of that entry. -/
def pairedRead : TimelineReadSliceFields constantFunctions where
  command := firstCommand
  head := some ⟨keyShapedEvent.target,firstEpoch,entryIdentity repeatedSha256,repeatedSha256,
    ⟨0,start_bounds⟩,rfl⟩
  entries := [pairedEntry]

theorem pairedRead_accepted : pairedRead.postInit=.ok () := by
  simp only [pairedRead,TimelineReadSliceFields.postInit,check_bind_eq_ok]
  refine ⟨require_of rfl,require_of (by decide),require_of rfl,require_of rfl,?_⟩
  refine (if_neg (by decide)).trans (require_of ?_)
  intro last hlast _
  cases hlast
  rfl

theorem pairedRead_safe : ∀ entry∈pairedRead.entries,∀ field∈entry.content.event.display_fields,
    validateSafeText plainRuntime (chars field.value.1)=.ok () := by
  intro entry hentry field hfield
  rw [List.mem_singleton.mp hentry] at hfield
  rw [List.mem_singleton.mp hfield]
  exact pairedText_safe

/-- The slice of a timeline of that entry. -/
def pairedSlice : CheckedSlice plainRuntime constantFunctions :=
  ⟨⟨pairedRead,pairedRead_accepted⟩,pairedRead_safe⟩

theorem pairedText_shown : visibleDisplayFields SecretPatterns.plainDialect .operator
    pairedEvent.display_fields=[⟨.summary,pairedText,.publicDemo⟩] := by
  have hvisible : isVisible .publicDemo .operator=true := rfl
  rw [visibleDisplayFields,pairedEvent,List.filter_singleton,hvisible]
  simp only [cond_true,List.map_cons,List.map_nil,redactedField,pairedText_not_secret,
    Bool.false_eq_true,if_false]

theorem pairedSlice_encodable : (canonicalJsonValueBytes id (pageJson (projectedPage
    SecretPatterns.plainDialect pairedSlice.toTimelineReadSlice))).toBool=true := by
  simp only [pageJson,pageFields,projectedPage,pairedSlice,pairedRead,firstCommand,
    pairedEntry,view,projectedFields,List.map_cons,List.map_nil,entryFields,pairedText_shown,displayFieldFields,
    TimelineWire.text,chars_pairedText]
  decide +kernel

end ControlGraph.TimelinePageAgreement
