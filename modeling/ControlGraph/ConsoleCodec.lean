import ControlGraph.JsonTranslation
import ControlGraph.UtcTimestamps
import ControlGraph.Utf16Text

/-!
# The console's codec

The console reads the same canonical texts as the services, over code units.
A value is the platform's: a repeated key keeps its place and takes the last
value, a number is a floating-point number, and a time is a count of
milliseconds. What the platform's specification leaves open, and the normal
form of texts, are fields of the runtime.
-/

namespace ControlGraph.ConsoleCodec

open CalendarDays CanonicalCodec Checks JsonTranslation JsonValues JsonText UtcTimestamps Utf8Text
open Utf16Text

/-- A text of the console. -/
abbrev Units := {units : Text // IsUnits units}

/-- Normal forms of texts. -/
structure UnicodeTables where
  /-- Composed normal form. -/
  nfc : Text → Text
  nfc_ascii : ∀ text : Text,(∀ character∈text,character<128) → nfc text=text
  nfc_scalar : ∀ text,IsScalar text → IsScalar (nfc text)

/-- Tables in which every text is in normal form. -/
instance : Inhabited UnicodeTables := ⟨id,fun _ _ => rfl,fun _ h => h⟩

/-- What the console's platform decides. -/
structure Runtime where
  /-- Normal forms of texts. -/
  tables : UnicodeTables
  /-- Integer that a literal with a fraction or an exponent is read as, if it is one. -/
  integerOf : Text → Option Int
  /-- Time value of a text that is no date and time of the calendar. -/
  otherTime : Text → Option Int

section

variable (runtime : Runtime)

/-- Refuse a half of a surrogate pair without its partner. -/
def assertUnicodeScalars : Text → Except String Unit
  | [] => .ok ()
  | [unit] =>
    if isHighSurrogate unit ∨ isLowSurrogate unit then .error "text contains an unpaired surrogate"
    else .ok ()
  | unit::next::rest =>
    if isHighSurrogate unit then
      if isLowSurrogate next then assertUnicodeScalars rest
      else .error "text contains an unpaired surrogate"
    else if isLowSurrogate unit then .error "text contains an unpaired surrogate"
    else assertUnicodeScalars (next::rest)

/-- Require scalar text in normal form. -/
def assertNfc (value : Text) : Except String Unit := do
  assertUnicodeScalars value
  require (toUnits (runtime.tables.nfc (fromUnits value))=value) "text must use NFC normalization"

mutual

/-- Require a value to be restricted JSON at a nesting depth. -/
def assertRestricted (depth : Nat) : Json → Except String Unit
  | .null => require (depth ≤ maxJsonDepth) "JSON nesting is too deep"
  | .bool _ => require (depth ≤ maxJsonDepth) "JSON nesting is too deep"
  | .int value => do
    require (depth ≤ maxJsonDepth) "JSON nesting is too deep"
    require (-ContractText.maxSafeInteger ≤ value ∧ value ≤ ContractText.maxSafeInteger)
      "number is not a safe integer"
  | .str text => do
    require (depth ≤ maxJsonDepth) "JSON nesting is too deep"
    assertNfc runtime text
  | .arr items => do
    require (depth ≤ maxJsonDepth) "JSON nesting is too deep"
    require (items.length ≤ maxJsonItems) "JSON array has too many items"
    assertItems (depth+1) items
  | .obj fields => do
    require (depth ≤ maxJsonDepth) "JSON nesting is too deep"
    require (fields.length ≤ maxJsonItems) "JSON object has too many fields"
    assertFields (depth+1) fields

/-- Require every item to be restricted JSON. -/
def assertItems (depth : Nat) : List Json → Except String Unit
  | [] => .ok ()
  | item::items => do
    assertRestricted depth item
    assertItems depth items

/-- Require every field to have a canonical key and a restricted value. -/
def assertFields (depth : Nat) : List (Text×Json) → Except String Unit
  | [] => .ok ()
  | (key,value)::fields => do
    require (isObjectKey key=true) "JSON object key is not canonical"
    assertRestricted depth value
    assertFields depth fields

end

/-- Put the keys of every object in order of their code units. -/
def ordered (value : Json) : Json := value.sortKeys

/-- Text of a value, with lone surrogate halves escaped. -/
def stringify (value : Json) : Text := escapeLoneSurrogates (dumps value)

/-- Canonical text of a value. -/
def canonicalJson (value : Json) : Except String Text := do
  assertRestricted runtime 0 value
  let text := stringify (ordered value)
  require (textEncoder text≠[] ∧ (textEncoder text).length ≤ maxContractBytes)
    "canonical JSON is outside its byte bounds"
  return text

instance : LawfulBEq Text := inferInstance

/-- Set a property: a repeated key keeps its place and takes the new value. -/
def setProperty (fields : List (Text×Json)) (field : Text×Json) : List (Text×Json) :=
  if field.1∈fields.map Prod.fst then
    fields.map (fun other => if other.1=field.1 then field else other)
  else fields++[field]

mutual

/-- Objects of the platform, which repeat no key. -/
def ownProperties : Json → Json
  | .null => .null
  | .bool value => .bool value
  | .int value => .int value
  | .str text => .str text
  | .arr items => .arr (ownItems items)
  | .obj fields => .obj ((ownFields fields).foldl setProperty [])

/-- Items with the objects of the platform. -/
def ownItems : List Json → List Json
  | [] => []
  | item::items => ownProperties item::ownItems items

/-- Fields with the objects of the platform. -/
def ownFields : List (Text×Json) → List (Text×Json)
  | [] => []
  | (key,value)::fields => (key,ownProperties value)::ownFields fields

end

/-- Parsing rules of the platform: all pairs of an object, every number but no
constant. A number that is no integer is kept as the least unsafe one, which
is refused like it; an unsafe integer is kept as written, where the platform
rounds it to another unsafe one. -/
def parseHooks : Hooks where
  objectPairs := fun fields => some (.obj fields)
  parseFloat := fun literal =>
    some (.int ((runtime.integerOf literal).getD (ContractText.maxSafeInteger+1)))
  parseConstant := fun _ => none

/-- Value of a JSON text. An escaped pair is two units, like a written one. -/
def jsonParse (text : Text) : Option Json :=
  (loads (parseHooks runtime) text).map (fun value => ownProperties (mapTexts toUnits value))

/-- Fields of an object, which a contract must be. -/
def contractFields : Json → Except String (List (Text×Json))
  | .obj fields => .ok fields
  | _ => .error "contract is not a canonical JSON object"

/-- Decode one exact canonical object. -/
def decodeCanonicalJson (text : Text) : Except String (List (Text×Json)) := do
  require (textEncoder text≠[] ∧ (textEncoder text).length ≤ maxContractBytes)
    "contract is outside its byte bounds"
  let value ← requireSome (jsonParse runtime text) "contract is not valid JSON"
  assertRestricted runtime 0 value
  let fields ← contractFields value
  let canonical ← canonicalJson runtime value
  require (canonical=text) "contract is not a canonical JSON object"
  return fields

/-- Version that the fields of a contract declare. -/
def declaredVersion (fields : List (Text×Json)) : Except String Text :=
  match fields.lookup (chars "schema_version") with
  | some (.str version) => .ok version
  | _ => .error "schema_version is required"

/-- Decode one exact canonical object of a known version. -/
def decodeVersionedCanonicalJson (text expectedVersion : Text) :
    Except String (List (Text×Json)) := do
  let value ← decodeCanonicalJson runtime text
  let version ← declaredVersion value
  require (version=expectedVersion) "schema_version is unsupported"
  return value

/-- Time value, in milliseconds, that the platform reads from a text of the
pattern of timestamps. -/
def dateParse (text : Text) : Option Int :=
  match (matchUtcSecond text).filter CalendarSecond.onCalendar with
  | some time => some (1000*time.number)
  | none => runtime.otherTime text

/-- Year of a date text: four digits, or a sign and six. -/
def isoYear (year : Int) : Text :=
  if 0 ≤ year ∧ year ≤ 9999 then fixedDigits 4 year.toNat
  else (if year<0 then code '-' else code '+')::fixedDigits 6 year.natAbs

/-- Date text of a time value. -/
def toIsoString (milliseconds : Int) : Text :=
  let time := timeOfSecond (milliseconds/1000)
  isoYear time.date.year++[code '-']++fixedDigits 2 time.date.month++[code '-']++
    fixedDigits 2 time.date.day++[code 'T']++fixedDigits 2 time.hour++[code ':']++
    fixedDigits 2 time.minute++[code ':']++fixedDigits 2 time.second++
    code '.'::fixedDigits 3 (milliseconds%1000).toNat++[code 'Z']

/-- Replace the first occurrence of a pattern. -/
def replaceFirst (pattern replacement : Text) : Text → Text
  | [] => []
  | character::text =>
    if pattern.isPrefixOf (character::text)=true then
      replacement++(character::text).drop pattern.length
    else character::replaceFirst pattern replacement text

/-- Require one exact UTC timestamp of whole seconds. -/
def assertUtcSecondTimestamp (value : Text) : Except String Unit := do
  let time ← requireSome (matchUtcSecond value) "timestamp must use a valid UTC-second encoding"
  require (¬time.date.year<1) "timestamp must use a valid UTC-second encoding"
  let parsed ← requireSome (dateParse runtime value) "timestamp must use a valid UTC-second encoding"
  require (replaceFirst (chars ".000Z") (chars "Z") (toIsoString parsed)=value)
    "timestamp must use a valid UTC-second encoding"

end

section

variable {runtime : Runtime}

/-- Nothing is replaced before a character that the text does not contain. -/
theorem replaceFirst_append {mark : Nat} {pattern replacement head tail : Text}
    (h : mark∉head) : replaceFirst (mark::pattern) replacement (head++tail)=
      head++replaceFirst (mark::pattern) replacement tail := by
  induction head with
  | nil => rfl
  | cons character head ih =>
    rw [List.mem_cons,not_or] at h
    have hother : (mark==character)=false := beq_eq_false_iff_ne.mpr h.1
    rw [List.cons_append,replaceFirst,List.isPrefixOf,hother,Bool.false_and,
      if_neg Bool.false_ne_true,ih h.2,List.cons_append]

/-- Part of a date text before the fraction of a second. -/
def isoHead (time : CalendarSecond) : Text :=
  isoYear time.date.year++[code '-']++fixedDigits 2 time.date.month++[code '-']++
    fixedDigits 2 time.date.day++[code 'T']++fixedDigits 2 time.hour++[code ':']++
    fixedDigits 2 time.minute++[code ':']++fixedDigits 2 time.second

theorem mem_fixedDigits {width value character : Nat} (h : character∈fixedDigits width value) :
    48 ≤ character ∧ character<58 := by
  induction width generalizing value with
  | zero => cases h
  | succ width ih =>
    have hcode : code '0'=48 := rfl
    rcases List.mem_append.mp h with hhead | hlast
    · exact ih hhead
    · rw [List.mem_singleton] at hlast
      omega

/-- No point stands before the fraction of a second. -/
theorem point_not_mem_isoHead (time : CalendarSecond) : code '.'∉isoHead time := by
  have hcode : code '.'=46 ∧ code '-'=45 ∧ code '+'=43 ∧ code 'T'=84 ∧ code ':'=58 := by decide
  have hdigits : ∀ width value,46∉fixedDigits width value := by
    intro width value hmem
    have hbounds := mem_fixedDigits hmem
    omega
  have hyear : 46∉isoYear time.date.year := by
    unfold isoYear
    split_ifs <;> simp [hdigits,hcode]
  simp [isoHead,hcode,hdigits,hyear]

/-- What is left of a date text once whole seconds are shortened. -/
theorem shortened_toIsoString (milliseconds : Int) :
    replaceFirst (chars ".000Z") (chars "Z") (toIsoString milliseconds)=
      isoHead (timeOfSecond (milliseconds/1000))++
        if milliseconds%1000=0 then [code 'Z']
        else code '.'::fixedDigits 3 (milliseconds%1000).toNat++[code 'Z'] := by
  have hcode : code '0'=48 ∧ code '.'=46 ∧ code 'Z'=90 := by decide
  have hdigits : fixedDigits 3 (milliseconds%1000).toNat=
      [48+(milliseconds%1000).toNat/10/10%10,48+(milliseconds%1000).toNat/10%10,
        48+(milliseconds%1000).toNat%10] := rfl
  have htail : replaceFirst (chars ".000Z") (chars "Z")
      (code '.'::(fixedDigits 3 (milliseconds%1000).toNat++[code 'Z']))=
        if milliseconds%1000=0 then [code 'Z']
        else code '.'::fixedDigits 3 (milliseconds%1000).toNat++[code 'Z'] := by
    by_cases hwhole : milliseconds%1000=0
    · rw [if_pos hwhole,hwhole]
      rfl
    · rw [if_neg hwhole,replaceFirst,if_neg]
      · have hrest : code '.'∉fixedDigits 3 (milliseconds%1000).toNat++[code 'Z'] := by
          intro hmem
          rcases List.mem_append.mp hmem with hdigit | hlast
          · have hbounds := mem_fixedDigits hdigit
            omega
          · rw [List.mem_singleton] at hlast
            omega
        have hkept := @replaceFirst_append (code '.') (chars "000Z") (chars "Z") _ [] hrest
        rw [List.append_nil] at hkept
        exact congrArg (code '.':: ·) (hkept.trans (List.append_nil _))
      · have hpattern : chars ".000Z"=[46,48,48,48,90] := by decide
        rw [hdigits,hpattern]
        simp only [List.cons_append,List.nil_append,List.isPrefixOf,Bool.and_eq_true,beq_iff_eq]
        omega
  have hsplit : toIsoString milliseconds=isoHead (timeOfSecond (milliseconds/1000))++
      (code '.'::(fixedDigits 3 (milliseconds%1000).toNat++[code 'Z'])) := by
    simp only [toIsoString,isoHead,List.append_assoc,List.cons_append]
  have hmark : chars ".000Z"=code '.'::chars "000Z" := rfl
  rw [hsplit,hmark,replaceFirst_append (point_not_mem_isoHead _),←hmark,htail]

/-- A date text of four year digits is the text of its seconds. -/
theorem isoHead_append {time : CalendarSecond} (hyear : 0 ≤ time.date.year ∧ time.date.year ≤ 9999) :
    isoHead time++[code 'Z']=utcSecondText time := by
  rw [isoHead,isoYear,if_pos hyear,utcSecondText]

/-- A date on the calendar fits the pattern when its year does. -/
theorem fits_of_onCalendar {time : CalendarSecond} (h : time.onCalendar=true)
    (hyear : 0 ≤ time.date.year ∧ time.date.year ≤ 9999) : Fits time := by
  rw [CalendarSecond.onCalendar,Bool.and_eq_true,decide_eq_true_eq] at h
  obtain ⟨hdate,htime⟩ := h
  have hmonth : ∀ leap,∀ month<13,daysInMonth leap month ≤ 31 := by decide
  simp only [CalendarDate.onCalendar,Bool.and_eq_true,decide_eq_true_eq] at hdate
  have hday := hmonth (isLeapYear time.date.year) time.date.month (by omega)
  unfold Fits
  omega

/-- The console accepts the texts of the seconds of the calendar from the year one on. -/
theorem assertUtcSecondTimestamp_eq_ok {value : Text} :
    assertUtcSecondTimestamp runtime value=.ok () ↔ ∃ time,matchUtcSecond value=some time ∧
      1 ≤ time.date.year ∧ time.onCalendar=true := by
  rw [assertUtcSecondTimestamp,bind_eq_ok]
  simp only [requireSome_eq_ok,check_bind_eq_ok,require_eq_ok]
  constructor
  · rintro ⟨time,hmatch,hyear,hparsed⟩
    rw [bind_eq_ok] at hparsed
    obtain ⟨parsed,-,hsame⟩ := hparsed
    rw [require_eq_ok,shortened_toIsoString] at hsame
    obtain ⟨hvalue,hfits⟩ := matchUtcSecond_eq_some.mp hmatch
    have hwhole : parsed%1000=0 := by
      by_contra hfraction
      rw [if_neg hfraction] at hsame
      have hpoint : code '.'∈utcSecondText time := by
        rw [←hvalue,←hsame]
        simp
      have hbounds := mem_utcSecondText hpoint
      have hcode : code '.'=46 := rfl
      omega
    rw [if_pos hwhole] at hsame
    have hread : 0 ≤ (timeOfSecond (parsed/1000)).date.year ∧
        (timeOfSecond (parsed/1000)).date.year ≤ 9999 := by
      by_contra houtside
      have hlength := congrArg List.length (hsame.trans hvalue)
      rw [utcSecondText_eq,isoHead,isoYear,if_neg houtside] at hlength
      simp [fixedDigits] at hlength
    rw [isoHead_append hread] at hsame
    have hcalendar := timeOfSecond_onCalendar (parsed/1000)
    have hother := matchUtcSecond_eq_some.mpr ⟨hsame.symm,fits_of_onCalendar hcalendar hread⟩
    rw [hmatch,Option.some.injEq] at hother
    rw [←hother] at hcalendar
    exact ⟨time,hmatch,by omega,hcalendar⟩
  · rintro ⟨time,hmatch,hyear,hcalendar⟩
    obtain ⟨hvalue,hfits⟩ := matchUtcSecond_eq_some.mp hmatch
    refine ⟨time,hmatch,by omega,?_⟩
    have hparse : dateParse runtime value=some (1000*time.number) := by
      rw [dateParse,hmatch,Option.filter_some_pos hcalendar]
    have hsecond : 1000*time.number/1000=time.number := by omega
    have hwhole : 1000*time.number%1000=0 := by omega
    have hbound : 0 ≤ time.date.year ∧ time.date.year ≤ 9999 := by
      unfold Fits at hfits
      omega
    rw [hparse,bind_of_ok (requireSome_eq_ok.mpr rfl),require_eq_ok,shortened_toIsoString,hsecond,
      timeOfSecond_number hcalendar,if_pos hwhole,isoHead_append hbound,hvalue]

theorem ownItems_eq_map (items : List Json) : ownItems items=items.map ownProperties := by
  induction items with
  | nil => rw [ownItems,List.map_nil]
  | cons item items ih => rw [ownItems,List.map_cons,ih]

theorem ownFields_eq_map (fields : List (Text×Json)) :
    ownFields fields=fields.map (fun field => (field.1,ownProperties field.2)) := by
  induction fields with
  | nil => rw [ownFields,List.map_nil]
  | cons field fields ih => rw [ownFields,List.map_cons,ih]

theorem setProperty_nodup {fields : List (Text×Json)} {field : Text×Json}
    (h : (fields.map Prod.fst).Nodup) : ((setProperty fields field).map Prod.fst).Nodup := by
  unfold setProperty
  split_ifs with hpresent
  · have hkeys : (fields.map (fun other => if other.1=field.1 then field else other)).map Prod.fst=
        fields.map Prod.fst := by
      rw [List.map_map]
      apply List.map_congr_left
      intro other _
      simp only [Function.comp_apply]
      split_ifs with hsame
      · exact hsame.symm
      · rfl
    rwa [hkeys]
  · rw [List.map_append,List.nodup_append]
    refine ⟨h,List.nodup_singleton _,?_⟩
    rintro key hkey other hother rfl
    rw [List.map_singleton,List.mem_singleton] at hother
    exact hpresent (hother ▸ hkey)

/-- A property comes from the old ones or is the one set. -/
theorem mem_setProperty {fields : List (Text×Json)} {field other : Text×Json}
    (h : other∈setProperty fields field) : other∈fields ∨ other=field := by
  unfold setProperty at h
  split_ifs at h with hpresent
  · obtain ⟨source,hsource,heq⟩ := List.mem_map.mp h
    split_ifs at heq with hsame
    · exact .inr heq.symm
    · exact .inl (heq ▸ hsource)
  · simpa only [List.mem_append,List.mem_singleton] using h

/-- Properties set one after another repeat no key and come from what was set. -/
theorem foldl_setProperty (fields : List (Text×Json)) {start : List (Text×Json)}
    (h : (start.map Prod.fst).Nodup) : ((fields.foldl setProperty start).map Prod.fst).Nodup ∧
      ∀ field∈fields.foldl setProperty start,field∈start ∨ field∈fields := by
  induction fields generalizing start with
  | nil => exact ⟨h,fun field hmem => .inl hmem⟩
  | cons first fields ih =>
    obtain ⟨hnodup,hsource⟩ := ih (@setProperty_nodup start first h)
    refine ⟨hnodup,?_⟩
    intro field hmem
    rcases hsource field hmem with hset | hrest
    · rcases mem_setProperty hset with hstart | rfl
      · exact .inl hstart
      · exact .inr List.mem_cons_self
    · exact .inr (List.mem_cons_of_mem _ hrest)

/-- Setting properties of different keys lists them. -/
theorem foldl_setProperty_of_nodup {start fields : List (Text×Json)}
    (h : ((start++fields).map Prod.fst).Nodup) : fields.foldl setProperty start=start++fields := by
  induction fields generalizing start with
  | nil => rw [List.foldl_nil,List.append_nil]
  | cons field fields ih =>
    have hnew : field.1∉start.map Prod.fst := by
      rw [List.map_append,List.nodup_append] at h
      exact fun hmem => h.2.2 field.1 hmem field.1 (List.mem_map_of_mem List.mem_cons_self) rfl
    have happend : setProperty start field=start++[field] := if_neg hnew
    have hrest : ((start++[field]++fields).map Prod.fst).Nodup := by
      rwa [List.append_assoc,List.singleton_append]
    rw [List.foldl_cons,happend,ih hrest,List.append_assoc,List.singleton_append]

/-- The platform's objects repeat no key. -/
theorem uniqueKeys_ownProperties (value : Json) : (ownProperties value).UniqueKeys := by
  induction value using json_induction with
  | null => rw [ownProperties]; exact .null
  | bool value => rw [ownProperties]; exact .bool value
  | int value => rw [ownProperties]; exact .int value
  | str text => rw [ownProperties]; exact .str text
  | arr items ih =>
    rw [ownProperties,ownItems_eq_map]
    exact .arr (List.forall_mem_map.mpr ih)
  | obj fields ih =>
    obtain ⟨hnodup,hsource⟩ := @foldl_setProperty (ownFields fields) [] List.nodup_nil
    rw [ownProperties]
    refine .obj hnodup ?_
    intro field hmem
    have hfield := (hsource field hmem).resolve_left List.not_mem_nil
    rw [ownFields_eq_map] at hfield
    obtain ⟨source,hmember,rfl⟩ := List.mem_map.mp hfield
    exact ih source hmember

/-- The platform keeps a value that repeats no key. -/
theorem ownProperties_of_uniqueKeys {value : Json} (h : value.UniqueKeys) :
    ownProperties value=value := by
  induction h with
  | null => rw [ownProperties]
  | bool value => rw [ownProperties]
  | int value => rw [ownProperties]
  | str text => rw [ownProperties]
  | arr _ ih =>
    rw [ownProperties,ownItems_eq_map]
    exact congrArg Json.arr ((List.map_congr_left ih).trans (List.map_id _))
  | @obj fields hkeys _ ih =>
    have hfields : ownFields fields=fields := by
      rw [ownFields_eq_map]
      refine (List.map_congr_left ?_).trans (List.map_id _)
      intro field hfield
      rw [ih field hfield,id_eq]
    rw [ownProperties,hfields,@foldl_setProperty_of_nodup [] fields hkeys,List.nil_append]

theorem allTexts_ownProperties {property : Text → Prop} {value : Json}
    (h : value.AllTexts property) : (ownProperties value).AllTexts property := by
  induction h with
  | null => rw [ownProperties]; exact .null
  | bool value => rw [ownProperties]; exact .bool value
  | int value => rw [ownProperties]; exact .int value
  | str htext => rw [ownProperties]; exact .str htext
  | arr _ ih =>
    rw [ownProperties,ownItems_eq_map]
    exact .arr (List.forall_mem_map.mpr ih)
  | @obj fields hkeys _ ih =>
    have hsource := (@foldl_setProperty (ownFields fields) [] List.nodup_nil).2
    have hfield : ∀ field∈(ownFields fields).foldl setProperty [],
        ∃ source∈fields,field=(source.1,ownProperties source.2) := by
      intro field hmem
      have hown := (hsource field hmem).resolve_left List.not_mem_nil
      rw [ownFields_eq_map] at hown
      obtain ⟨source,hmember,rfl⟩ := List.mem_map.mp hown
      exact ⟨source,hmember,rfl⟩
    rw [ownProperties]
    refine .obj ?_ ?_
    · intro field hmem
      obtain ⟨source,hmember,rfl⟩ := hfield field hmem
      exact hkeys source hmember
    · intro field hmem
      obtain ⟨source,hmember,rfl⟩ := hfield field hmem
      exact ih source hmember

/-- What the platform parses repeats no key and holds texts of units. -/
theorem jsonParse_spec {text : Text} {value : Json} (h : jsonParse runtime text=some value) :
    value.UniqueKeys ∧ value.AllTexts IsUnits := by
  obtain ⟨raw,-,rfl⟩ := Option.map_eq_some_iff.mp h
  exact ⟨uniqueKeys_ownProperties _,allTexts_ownProperties (allTexts_mapTexts isUnits_toUnits raw)⟩

/-- The platform reads back the text of a value that it can hold. -/
theorem jsonParse_dumps {value : Json} (hunique : value.UniqueKeys)
    (htexts : value.AllTexts IsUnits) : jsonParse runtime (dumps value)=some value := by
  have hloads : loads (parseHooks runtime) (dumps value)=some value :=
    loads_dumps (fun _ _ => rfl) hunique
  have hkept := mapTexts_of_allTexts (allTexts_mono (fun _ => toUnits_of_isUnits) htexts)
  rw [jsonParse,hloads,Option.map_some,hkept,ownProperties_of_uniqueKeys hunique]

end

end ControlGraph.ConsoleCodec
