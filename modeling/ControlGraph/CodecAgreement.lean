import ControlGraph.ConsoleCodec

/-!
# The two codecs agree

A restricted value of the services and its image over code units are encoded
to one text, so the console decodes a text exactly when the services decode
its bytes to a canonical object, and both read the same value. The two
acceptances of timestamps name the same seconds.
-/

namespace ControlGraph.CodecAgreement

open CanonicalCodec Checks ConsoleCodec JsonTranslation JsonText JsonValues UtcTimestamps Utf8Text
open Utf16Text

section

variable {runtime : Runtime}

/-- Units without a lone half are the units of scalar values. -/
theorem assertUnicodeScalars_eq_ok {units : Text} (h : IsUnits units) :
    assertUnicodeScalars units=.ok () ↔ IsScalar (fromUnits units) := by
  have hvalid : ∀ unit<0x10000,¬isHighSurrogate unit → ¬isLowSurrogate unit → unit.isValidChar :=
    fun unit hlt hhigh hlow => isValidChar_iff.mpr ⟨hhigh,hlow,by omega⟩
  induction units using assertUnicodeScalars.induct with
  | case1 => simp only [assertUnicodeScalars,fromUnits,IsScalar,List.not_mem_nil,false_implies,
      implies_true]
  | case2 unit hhalf =>
    rw [assertUnicodeScalars,if_pos hhalf]
    simp only [reduceCtorEq,false_iff,fromUnits,IsScalar,List.mem_singleton,forall_eq,
      isValidChar_iff]
    intro hscalar
    rcases hhalf with hhigh | hlow
    · exact hscalar.1 hhigh
    · exact hscalar.2.1 hlow
  | case3 unit hwhole =>
    have hunit := h unit List.mem_cons_self
    rw [not_or] at hwhole
    rw [assertUnicodeScalars,if_neg (not_or.mpr hwhole)]
    simp only [true_iff,fromUnits,IsScalar,List.mem_singleton,forall_eq]
    exact hvalid unit hunit hwhole.1 hwhole.2
  | case4 unit next rest hhigh hlow ih =>
    have htail : assertUnicodeScalars rest=.ok () ↔ IsScalar (fromUnits rest) :=
      ih (fun other hother => h other (by simp only [List.mem_cons,hother,or_true]))
    have hjoined : (0x10000+(unit-0xd800)*0x400+(next-0xdc00)).isValidChar := by
      rw [isValidChar_iff]
      unfold isHighSurrogate isLowSurrogate at *
      omega
    rw [assertUnicodeScalars,if_pos hhigh,if_pos hlow,htail,fromUnits,if_pos ⟨hhigh,hlow⟩]
    simp only [IsScalar,List.forall_mem_cons,hjoined,true_and]
  | case5 unit next rest hhigh hlow =>
    rw [assertUnicodeScalars,if_pos hhigh,if_neg hlow,fromUnits,if_neg (fun hpair => hlow hpair.2)]
    simp only [reduceCtorEq,false_iff,IsScalar,List.forall_mem_cons,isValidChar_iff]
    exact fun hscalar => hscalar.1.1 hhigh
  | case6 unit next rest hhigh hlow =>
    rw [assertUnicodeScalars,if_neg hhigh,if_pos hlow,fromUnits,if_neg (fun hpair => hhigh hpair.1)]
    simp only [reduceCtorEq,false_iff,IsScalar,List.forall_mem_cons,isValidChar_iff]
    exact fun hscalar => hscalar.1.2.1 hlow
  | case7 unit next rest hhigh hlow ih =>
    have htail : assertUnicodeScalars (next::rest)=.ok () ↔ IsScalar (fromUnits (next::rest)) :=
      ih (fun other hother => h other (List.mem_cons_of_mem _ hother))
    have hunit := hvalid unit (h unit List.mem_cons_self) hhigh hlow
    rw [assertUnicodeScalars,if_neg hhigh,if_neg hlow,htail,fromUnits,
      if_neg (fun hpair => hhigh hpair.1)]
    simp only [IsScalar,List.forall_mem_cons,hunit,true_and]

/-- The console accepts a string exactly when the services accept its code points. -/
theorem assertNfc_eq_ok {units : Text} (h : IsUnits units) :
    assertNfc runtime units=.ok () ↔ validateNfcText runtime.tables.nfc (fromUnits units)=.ok () := by
  have hencoded : (encodeUtf8 (fromUnits units)).isSome=true ↔ IsScalar (fromUnits units) := by
    unfold encodeUtf8
    split_ifs with hscalar
    · exact ⟨fun _ => hscalar,fun _ => rfl⟩
    · exact ⟨fun hsome => absurd hsome Bool.false_ne_true,fun hall => absurd hall hscalar⟩
  rw [assertNfc,validateNfcText,check_bind_eq_ok,check_bind_eq_ok,require_eq_ok,require_eq_ok,
    require_eq_ok,assertUnicodeScalars_eq_ok h,hencoded]
  apply and_congr_right
  intro hscalar
  have hnormal := runtime.tables.nfc_scalar _ hscalar
  constructor
  · intro hsame
    have hjoined := congrArg fromUnits hsame
    rwa [fromUnits_toUnits hnormal] at hjoined
  · intro hsame
    rw [hsame,toUnits_fromUnits h]

theorem isObjectKey_fromUnits {key : Text} (h : IsUnits key) :
    isObjectKey (fromUnits key)=isObjectKey key := by
  by_cases hkey : isObjectKey key=true
  · rw [fromUnits_ascii (isObjectKey_ascii hkey)]
  · by_cases hjoined : isObjectKey (fromUnits key)=true
    · have hsame := toUnits_ascii (isObjectKey_ascii hjoined)
      rw [toUnits_fromUnits h] at hsame
      rw [←hsame]
    · rw [Bool.eq_false_of_not_eq_true hkey,Bool.eq_false_of_not_eq_true hjoined]

theorem assertItems_eq_ok {depth : Nat} {items : List Json} :
    assertItems runtime depth items=.ok () ↔
      ∀ item∈items,assertRestricted runtime depth item=.ok () := by
  induction items with
  | nil => simp only [assertItems,List.not_mem_nil,false_implies,implies_true]
  | cons item items ih =>
    rw [assertItems,check_bind_eq_ok,ih,List.forall_mem_cons]

/-- Fields are accepted exactly when each of them has a canonical key and an accepted value. -/
theorem assertFields_eq_ok {depth : Nat} {fields : List (Text×Json)} :
    assertFields runtime depth fields=.ok () ↔ ∀ field∈fields,
      isObjectKey field.1=true ∧ assertRestricted runtime depth field.2=.ok () := by
  induction fields with
  | nil => simp only [assertFields,List.not_mem_nil,false_implies,implies_true]
  | cons field fields ih =>
    rw [assertFields,check_bind_eq_ok,require_eq_ok,check_bind_eq_ok,ih,List.forall_mem_cons,
      and_assoc]

/-- The console accepts a value exactly when the services accept it over code points. -/
theorem assertRestricted_eq_ok {value : Json} (h : value.AllTexts IsUnits) {depth : Nat} :
    assertRestricted runtime depth value=.ok () ↔
      validateRestricted runtime.tables.nfc depth (mapTexts fromUnits value)=.ok () := by
  induction h generalizing depth with
  | null => simp only [assertRestricted,mapTexts,validateRestricted,require_eq_ok]
  | bool value => simp only [assertRestricted,mapTexts,validateRestricted,require_eq_ok]
  | int value =>
    simp only [assertRestricted,mapTexts,validateRestricted,check_bind_eq_ok,require_eq_ok]
  | str htext =>
    simp only [assertRestricted,mapTexts,validateRestricted,check_bind_eq_ok,require_eq_ok,
      assertNfc_eq_ok htext]
  | arr _ ih =>
    rw [mapTexts,validateRestricted_arr,mapItemTexts_eq_map,List.length_map,List.forall_mem_map,
      assertRestricted,check_bind_eq_ok,check_bind_eq_ok,require_eq_ok,require_eq_ok,
      assertItems_eq_ok]
    exact and_congr_right' (and_congr_right' (forall₂_congr (fun item hitem => ih item hitem)))
  | obj hkeys _ ih =>
    rw [mapTexts,validateRestricted_obj,mapFieldTexts_eq_map,List.length_map,List.forall_mem_map,
      assertRestricted,check_bind_eq_ok,check_bind_eq_ok,require_eq_ok,require_eq_ok,
      assertFields_eq_ok]
    refine and_congr_right' (and_congr_right' (forall₂_congr (fun field hfield => ?_)))
    rw [ih field hfield,isObjectKey_fromUnits (hkeys field hfield)]

theorem keys_ascii {nfc : Text → Text} {value : Json} (hunique : value.UniqueKeys) {depth : Nat}
    (h : validateRestricted nfc depth value=.ok ()) :
    AllKeys (fun key => ∀ character∈key,character<128) value := by
  induction hunique generalizing depth with
  | null => exact .null
  | bool value => exact .bool value
  | int value => exact .int value
  | str text => exact .str text
  | arr _ ih =>
    rw [validateRestricted_arr] at h
    exact .arr (fun item hitem => ih item hitem (h.2.2 item hitem))
  | obj _ _ ih =>
    rw [validateRestricted_obj] at h
    exact .obj (fun field hfield => isObjectKey_ascii (h.2.2 field hfield).1)
      (fun field hfield => ih field hfield (h.2.2 field hfield).2)

/-- A restricted value of the services, as a dictionary value. -/
structure RestrictedValue (nfc : Text → Text) where
  value : Json
  /-- The value repeats no key. -/
  unique : value.UniqueKeys
  /-- The value is within the restrictions. -/
  restricted : validateRestricted nfc 0 value=.ok ()

section

variable (value : RestrictedValue runtime.tables.nfc)

theorem RestrictedValue.scalar : value.value.AllTexts IsScalar := by
  refine allTexts_mono ?_ (validateRestricted_printable value.unique value.restricted)
  intro text hprintable character hmem
  by_cases hvisible : 32 ≤ character
  · exact (hprintable character hmem hvisible).2
  · exact .inl (by omega)

theorem RestrictedValue.fromUnits_toUnits :
    mapTexts fromUnits (mapTexts toUnits value.value)=value.value := by
  rw [mapTexts_mapTexts]
  exact mapTexts_of_allTexts (allTexts_mono (fun _ => Utf16Text.fromUnits_toUnits) value.scalar)

theorem RestrictedValue.keys_kept : AllKeys (fun key => toUnits key=key) value.value :=
  (keys_ascii value.unique value.restricted).mono (fun _ => toUnits_ascii)

/-- The key-ordered form of a restricted value is one. -/
def RestrictedValue.sorted : RestrictedValue runtime.tables.nfc :=
  ⟨value.value.sortKeys,value.unique.sortKeys,validateRestricted_sortKeys value.unique value.restricted⟩

theorem RestrictedValue.text_scalar : IsScalar (dumpsSorted value.value) :=
  fun character hmem => (dumpsSorted_printable value.unique value.restricted character hmem).2

/-- The console writes a restricted value as the units of its key-ordered text. -/
theorem RestrictedValue.dumps_toUnits :
    dumps (mapTexts toUnits value.value).sortKeys=toUnits (dumpsSorted value.value) := by
  have hascii : ∀ character<128,characterUnits character=[character] := by
    intro character hlt
    exact if_pos (by omega)
  have hother : ∀ character,128 ≤ character → ∀ unit∈characterUnits character,128 ≤ unit := by
    intro character hle unit hmem
    unfold characterUnits at hmem
    split_ifs at hmem with hlow
    · rw [List.mem_singleton] at hmem
      omega
    · simp only [List.mem_cons,List.not_mem_nil,or_false] at hmem
      omega
  rw [sortKeys_mapTexts value.keys_kept]
  exact dumps_mapTexts hascii hother value.value.sortKeys

/-- The console encodes the image of a restricted value as the units of its
key-ordered text, within the bounds of a contract. -/
theorem RestrictedValue.canonicalJson_eq_ok {text : Text} :
    canonicalJson runtime (mapTexts toUnits value.value)=.ok text ↔
      text=toUnits (dumpsSorted value.value) ∧ textEncoder text≠[] ∧
        (textEncoder text).length ≤ maxContractBytes := by
  have hrestricted : assertRestricted runtime 0 (mapTexts toUnits value.value)=.ok () := by
    rw [assertRestricted_eq_ok (allTexts_mapTexts isUnits_toUnits value.value),
      value.fromUnits_toUnits]
    exact value.restricted
  have htext : stringify (ordered (mapTexts toUnits value.value))=
      toUnits (dumpsSorted value.value) := by
    rw [stringify,ordered,value.dumps_toUnits,escapeLoneSurrogates_toUnits value.text_scalar]
  rw [canonicalJson,bind_of_ok hrestricted]
  simp only [htext,check_bind_eq_ok,require_eq_ok,pure,Except.pure,Except.ok.injEq]
  constructor
  · rintro ⟨hsize,rfl⟩
    exact ⟨rfl,hsize⟩
  · rintro ⟨rfl,hsize⟩
    exact ⟨hsize,rfl⟩

theorem RestrictedValue.encoders_agree {encoded : Bytes} :
    canonicalJsonValueBytes runtime.tables.nfc value.value=.ok encoded ↔
      ∃ text,canonicalJson runtime (mapTexts toUnits value.value)=.ok text ∧
        textEncoder text=encoded := by
  have hencoded := textEncoder_toUnits value.text_scalar
  rw [canonicalJsonValueBytes_eq_ok,hencoded,Option.some.injEq]
  simp only [value.canonicalJson_eq_ok]
  constructor
  · rintro ⟨-,rfl,hsize⟩
    exact ⟨_,⟨rfl,hsize⟩,rfl⟩
  · rintro ⟨text,⟨rfl,hsize⟩,rfl⟩
    exact ⟨value.restricted,rfl,hsize⟩

end

/-- A value that the console parses and accepts is the image of a restricted value. -/
theorem restricted_of_assertRestricted {value : Json} (hunique : value.UniqueKeys)
    (htexts : value.AllTexts IsUnits) (h : assertRestricted runtime 0 value=.ok ()) :
    ∃ source : RestrictedValue runtime.tables.nfc,mapTexts toUnits source.value=value ∧
      source.value=mapTexts fromUnits value := by
  have hrestricted := (assertRestricted_eq_ok htexts).mp h
  have hback : mapTexts toUnits (mapTexts fromUnits value)=value := by
    rw [mapTexts_mapTexts]
    exact mapTexts_of_allTexts (allTexts_mono (fun _ => toUnits_fromUnits) htexts)
  have hjoined : (mapTexts fromUnits value).UniqueKeys := by
    refine uniqueKeys_mapTexts ?_ hunique htexts
    intro first second hfirst hsecond hsame
    rw [←toUnits_fromUnits hfirst,hsame,toUnits_fromUnits hsecond]
  exact ⟨⟨_,hjoined,hrestricted⟩,hback,rfl⟩

theorem RestrictedValue.unique_toUnits (value : RestrictedValue runtime.tables.nfc) :
    (mapTexts toUnits value.value).UniqueKeys := by
  refine uniqueKeys_mapTexts ?_ value.unique value.scalar
  intro first second hfirst hsecond hsame
  rw [←Utf16Text.fromUnits_toUnits hfirst,hsame,Utf16Text.fromUnits_toUnits hsecond]

/-- The console reads a restricted value back from the units of its key-ordered text. -/
theorem RestrictedValue.jsonParse_text (value : RestrictedValue runtime.tables.nfc) :
    jsonParse runtime (toUnits (dumpsSorted value.value))=
      some (mapTexts toUnits value.value.sortKeys) := by
  have hparse := @jsonParse_dumps runtime _ (@RestrictedValue.unique_toUnits runtime value.sorted)
    (allTexts_mapTexts isUnits_toUnits _)
  have hsorted : mapTexts toUnits value.sorted.value=(mapTexts toUnits value.value).sortKeys :=
    (sortKeys_mapTexts value.keys_kept).symm
  rwa [hsorted,value.dumps_toUnits,sortKeys_mapTexts value.keys_kept] at hparse

/-- The services accept the encoding of a value that the console decodes. -/
theorem decodeRestricted_of_console {text : Units} {fields : List (Text×Json)}
    (h : decodeCanonicalJson runtime text.1=.ok fields) : ∃ encoded content,
      encodeUtf8 (fromUnits text.1)=some encoded ∧
      decodeRestricted runtime.tables.nfc (.bytes encoded)=.ok (encoded,.obj content) ∧
      canonicalJsonValueBytes runtime.tables.nfc (.obj content)=.ok encoded ∧
      mapTexts toUnits (.obj content)=.obj fields := by
  rw [decodeCanonicalJson,check_bind_eq_ok] at h
  obtain ⟨-,h⟩ := h
  rw [bind_eq_ok] at h
  obtain ⟨value,hparse,h⟩ := h
  rw [requireSome_eq_ok] at hparse
  rw [check_bind_eq_ok,bind_eq_ok] at h
  obtain ⟨hrestricted,found,hfields,h⟩ := h
  rw [bind_eq_ok] at h
  obtain ⟨canonical,hcanonical,h⟩ := h
  rw [check_bind_eq_ok,require_eq_ok] at h
  obtain ⟨rfl,h⟩ := h
  rw [←Except.ok.inj h]
  obtain ⟨hunique,htexts⟩ := jsonParse_spec hparse
  obtain ⟨source,himage,hsource⟩ := restricted_of_assertRestricted hunique htexts hrestricted
  rw [←himage,source.canonicalJson_eq_ok] at hcanonical
  obtain ⟨htext,hsize⟩ := hcanonical
  -- parsing the text gives the value in key order, which is therefore the value itself
  have hordered : mapTexts toUnits source.value.sortKeys=value := by
    have hread := source.jsonParse_text
    rw [←htext,hparse] at hread
    exact (Option.some.inj hread).symm
  obtain ⟨fields',rfl⟩ : ∃ fields,value=.obj fields := by
    cases value with
    | obj fields => exact ⟨fields,rfl⟩
    | _ => cases hfields
  have hcontent : ∃ content,source.value.sortKeys=.obj content := by
    cases hshape : source.value.sortKeys with
    | obj content => exact ⟨content,rfl⟩
    | _ =>
      rw [hshape,mapTexts] at hordered
      cases hordered
  obtain ⟨content,hcontent⟩ := hcontent
  have hencoded := textEncoder_toUnits source.text_scalar
  rw [←htext] at hencoded
  have hbytes : canonicalJsonValueBytes runtime.tables.nfc source.value=.ok (textEncoder text.1) :=
    canonicalJsonValueBytes_eq_ok.mpr ⟨source.restricted,hencoded,hsize⟩
  have hdecode := decodeRestricted_canonical source.unique hbytes
  have hidempotent : dumpsSorted source.value.sortKeys=dumpsSorted source.value := by
    rw [dumpsSorted,source.unique.sortKeys_idem,dumpsSorted]
  have hsorted : canonicalJsonValueBytes runtime.tables.nfc source.value.sortKeys=
      .ok (textEncoder text.1) :=
    canonicalJsonValueBytes_eq_ok.mpr
      ⟨source.sorted.restricted,(congrArg encodeUtf8 hidempotent).trans hencoded,hsize⟩
  rw [hcontent] at hdecode hsorted hordered
  refine ⟨textEncoder text.1,content,?_,hdecode,hsorted,?_⟩
  · rw [htext,Utf16Text.fromUnits_toUnits source.text_scalar,hencoded,←htext]
  · rw [hordered,←Except.ok.inj hfields]

/-- The console decodes what the services decode to a canonical object. -/
theorem console_of_decodeRestricted {text : Units} {fields content : List (Text×Json)}
    {encoded : Bytes} (hencoded : encodeUtf8 (fromUnits text.1)=some encoded)
    (hdecode : decodeRestricted runtime.tables.nfc (.bytes encoded)=.ok (encoded,.obj content))
    (hbytes : canonicalJsonValueBytes runtime.tables.nfc (.obj content)=.ok encoded)
    (himage : mapTexts toUnits (.obj content)=.obj fields) :
    decodeCanonicalJson runtime text.1=.ok fields := by
  obtain ⟨-,hunique,hrestricted⟩ := decodeRestricted_eq_ok hdecode
  have hsorted : Json.sortKeys (.obj content)=.obj content := by
    have hcanonical := decodeRestricted_canonical hunique hbytes
    rw [hdecode,Except.ok.injEq,Prod.mk.injEq] at hcanonical
    exact hcanonical.2.symm
  have htext : fromUnits text.1=dumpsSorted (.obj content) :=
    encodeUtf8_injective hencoded (canonicalJsonValueBytes_eq_ok.mp hbytes).2.1
  let source : RestrictedValue runtime.tables.nfc := ⟨.obj content,hunique,hrestricted⟩
  have hunits : text.1=toUnits (dumpsSorted source.value) := by
    rw [←toUnits_fromUnits text.2,htext]
  obtain ⟨canonical,hcanonical,hsame⟩ := source.encoders_agree.mp hbytes
  obtain ⟨hwritten,hsize⟩ := source.canonicalJson_eq_ok.mp hcanonical
  rw [←hunits] at hwritten
  rw [hwritten] at hcanonical hsize
  have hparse : jsonParse runtime text.1=some (.obj fields) := by
    have hread := source.jsonParse_text
    rwa [←hunits,show source.value.sortKeys=.obj content from hsorted,himage] at hread
  have hassert : assertRestricted runtime 0 (.obj fields)=.ok () := by
    rw [←himage,assertRestricted_eq_ok (allTexts_mapTexts isUnits_toUnits _)]
    exact (congrArg _ source.fromUnits_toUnits).trans hrestricted
  rw [show mapTexts toUnits source.value=.obj fields from himage] at hcanonical
  rw [decodeCanonicalJson,check_bind_eq_ok]
  refine ⟨require_of hsize,?_⟩
  rw [bind_of_ok (requireSome_eq_ok.mpr hparse),bind_of_ok hassert]
  exact (bind_of_ok hcanonical).trans (bind_of_ok (require_of rfl))

/-- The console decodes what the services encoded from a dictionary value. -/
theorem console_of_canonical {text : Units} {value : Json} {fields : List (Text×Json)}
    {encoded : Bytes} (hunique : value.UniqueKeys)
    (hbytes : canonicalJsonValueBytes runtime.tables.nfc value=.ok encoded)
    (hencoded : encodeUtf8 (fromUnits text.1)=some encoded)
    (himage : mapTexts toUnits value.sortKeys=.obj fields) :
    decodeCanonicalJson runtime text.1=.ok fields := by
  have hdecode := decodeRestricted_canonical hunique hbytes
  obtain ⟨hrestricted,hwritten,hsize⟩ := canonicalJsonValueBytes_eq_ok.mp hbytes
  have hidempotent : dumpsSorted value.sortKeys=dumpsSorted value := by
    rw [dumpsSorted,hunique.sortKeys_idem,dumpsSorted]
  have hsorted : canonicalJsonValueBytes runtime.tables.nfc value.sortKeys=.ok encoded :=
    canonicalJsonValueBytes_eq_ok.mpr ⟨validateRestricted_sortKeys hunique hrestricted,
      (congrArg encodeUtf8 hidempotent).trans hwritten,hsize⟩
  cases hshape : value.sortKeys with
  | obj content =>
    rw [hshape] at hdecode hsorted himage
    exact console_of_decodeRestricted hencoded hdecode hsorted himage
  | _ =>
    rw [hshape,mapTexts] at himage
    cases himage

/-- The pattern of timestamps reads the same fields from units and from code points. -/
theorem matchUtcSecond_fromUnits (text : Units) :
    matchUtcSecond (fromUnits text.1)=matchUtcSecond text.1 := by
  have hascii : ∀ {value : Text} {time},matchUtcSecond value=some time →
      ∀ character∈value,character<128 := by
    intro value time hmatch character hmem
    rw [(matchUtcSecond_eq_some.mp hmatch).1] at hmem
    have hbounds := mem_utcSecondText hmem
    omega
  cases hunits : matchUtcSecond text.1 with
  | some time => rw [fromUnits_ascii (hascii hunits),hunits]
  | none =>
    cases hpoints : matchUtcSecond (fromUnits text.1) with
    | none => rfl
    | some time =>
      have hsame := toUnits_ascii (hascii hpoints)
      rw [toUnits_fromUnits text.2] at hsame
      rw [←hsame,hunits] at hpoints
      cases hpoints

end

/-- The two codecs agree. The console decodes a text to an object exactly when
the services decode its UTF-8 bytes to an object that is encoded to these
bytes, and both objects are the same value; a restricted value is encoded to
the same bytes by both; and both accept the same timestamps. -/
theorem codecs_agree (runtime : Runtime) :
    (∀ (text : Units) (fields : List (Text×Json)),
      decodeCanonicalJson runtime text.1=.ok fields ↔ ∃ encoded content,
        encodeUtf8 (fromUnits text.1)=some encoded ∧
        decodeRestricted runtime.tables.nfc (.bytes encoded)=.ok (encoded,.obj content) ∧
        canonicalJsonValueBytes runtime.tables.nfc (.obj content)=.ok encoded ∧
        mapTexts toUnits (.obj content)=.obj fields) ∧
    (∀ (value : RestrictedValue runtime.tables.nfc) (encoded : Bytes),
      canonicalJsonValueBytes runtime.tables.nfc value.value=.ok encoded ↔
        ∃ text,canonicalJson runtime (mapTexts toUnits value.value)=.ok text ∧
          textEncoder text=encoded) ∧
    (∀ text : Units,assertUtcSecondTimestamp runtime text.1=.ok () ↔
      validateUtcSecondField runtime.tables.nfc (fromUnits text.1)=.ok ()) := by
  refine ⟨?_,?_,?_⟩
  · intro text fields
    constructor
    · exact decodeRestricted_of_console
    · rintro ⟨encoded,content,hencoded,hdecode,hbytes,himage⟩
      exact console_of_decodeRestricted hencoded hdecode hbytes himage
  · intro value encoded
    exact value.encoders_agree
  · intro text
    rw [assertUtcSecondTimestamp_eq_ok,validateUtcSecondField_eq_ok runtime.tables.nfc_ascii,
      matchUtcSecond_fromUnits]

end ControlGraph.CodecAgreement
