import ControlGraph.ConsoleValues
import ControlGraph.StorageIdentity
import Mathlib.Data.List.TakeWhile

/-!
# The console reads the texts of a timeline entry

Identifiers, digests, names, versions and enumerations are ASCII texts that the
console tests with the patterns of the services, so it reads each as its units.
Timestamps are accepted by the console's own rule. A shown text is the only
one that may leave ASCII: the console counts its code units, and looks for
secrets with its own word characters.
-/

namespace ControlGraph.TimelineReading

open CalendarDays Checks ConsoleCodec ConsoleTimeline ConsoleValues ContractText JsonValues
open StorageIdentity TimelineContracts TimelineWire Utf16Text UtcTimestamps

section

/-- Letters and digits of ASCII are below 128. -/
theorem alphanumeric_ascii {character : Char} (h : isAlphanumeric character=true) :
    character.toNat < 128 := by
  simp only [isAlphanumeric,Bool.or_eq_true,Bool.and_eq_true,decide_eq_true_eq] at h
  have hupper : character ≤ 'Z' → character.toNat ≤ 90 := fun hle => hle
  have hlower : character ≤ 'z' → character.toNat ≤ 122 := fun hle => hle
  have hdigit : character ≤ '9' → character.toNat ≤ 57 := fun hle => hle
  rcases h with (⟨-,hle⟩ | ⟨-,hle⟩) | ⟨-,hle⟩
  · have hbound := hupper hle
    omega
  · have hbound := hlower hle
    omega
  · have hbound := hdigit hle
    omega

theorem lower_or_decimal_ascii {character : Char}
    (h : (isLower character || isDecimal character)=true) : character.toNat < 128 := by
  apply alphanumeric_ascii
  simp only [isLower,isDecimal,isAlphanumeric,Bool.or_eq_true] at h ⊢
  rcases h with hlower | hdigit
  · exact .inl (.inr hlower)
  · exact .inr hdigit

theorem name_character_ascii {character : Char}
    (h : (isLower character || isDecimal character || character== '-')=true) :
    character.toNat < 128 := by
  rw [Bool.or_eq_true,beq_iff_eq] at h
  rcases h with hname | rfl
  · exact lower_or_decimal_ascii hname
  · decide

theorem isAscii_identifier {text : String} (h : isIdentifier text=true) : IsAscii text := by
  intro character hmem
  have hcharacter := isIdentifier_characters h character hmem
  rw [isIdentifierCharacter,Bool.or_eq_true] at hcharacter
  rcases hcharacter with halphanumeric | hmark
  · exact alphanumeric_ascii halphanumeric
  · have hmarks : ∀ mark∈['.','_',':','-'],mark.toNat < 128 := by decide
    exact hmarks character (List.contains_iff_mem.mp hmark)

theorem isAscii_digest (digest : Sha256Digest) : IsAscii digest.1 :=
  fun character hmem => alphanumeric_ascii ((digest_characters digest).2 character hmem)

theorem isAscii_hyphenated {text : String} (h : isHyphenatedName text.toList=true) :
    IsAscii text := by
  intro character hmem
  unfold isHyphenatedName at h
  split at h
  · rename_i hempty
    rw [hempty] at hmem
    cases hmem
  · rename_i first rest htext
    rw [Bool.and_eq_true,Bool.and_eq_true,List.all_eq_true] at h
    exact name_character_ascii (h.1.2 character (htext ▸ hmem))

/-- A text is ASCII when what a class of ASCII characters takes and leaves of it is. -/
theorem ascii_of_split {test : Char → Bool} {text : List Char}
    (htest : ∀ character,test character=true → character.toNat < 128)
    (hrest : ∀ character∈text.dropWhile test,character.toNat < 128) :
    ∀ character∈text,character.toNat < 128 := by
  intro character hmem
  rw [←@List.takeWhile_append_dropWhile _ test text] at hmem
  rcases List.mem_append.mp hmem with htaken | hleft
  · exact htest character (List.mem_takeWhile_imp htaken)
  · exact hrest character hleft

/-- Lowercase letters are below 128. -/
theorem lower_ascii (character : Char) (h : isLower character=true) : character.toNat < 128 :=
  lower_or_decimal_ascii (by rw [h,Bool.true_or])

/-- Digits are below 128. -/
theorem decimal_ascii (character : Char) (h : isDecimal character=true) : character.toNat < 128 :=
  lower_or_decimal_ascii (by rw [h,Bool.or_true])

/-- Region names are ASCII text of at most thirty-two characters. -/
theorem region_spec {text : String} (h : isRegion text=true) :
    IsAscii text ∧ 1 ≤ text.length ∧ text.length ≤ 32 := by
  unfold isRegion at h
  simp only at h
  split at h
  · rename_i rest hsplit
    simp only [Bool.and_eq_true,List.all_eq_true,decide_eq_true_eq] at h
    have hdigits := h.1.2
    have hascii : IsAscii text := by
      refine ascii_of_split lower_ascii ?_
      rw [hsplit]
      intro character hmem
      rcases List.mem_cons.mp hmem with rfl | hname
      · decide
      · exact ascii_of_split lower_ascii
          (fun digit hdigit => decimal_ascii digit (hdigits digit hdigit)) character hname
    have hlength := congrArg List.length (@List.takeWhile_append_dropWhile _ isLower text.toList)
    rw [hsplit,List.length_append,List.length_cons,String.length_toList] at hlength
    exact ⟨hascii,by omega,h.2⟩
  · cases h

/-- Contract versions are ASCII text of at most 128 characters that the console accepts. -/
theorem contractVersion_spec {text : String} (h : isContractVersion text=true) :
    IsAscii text ∧ (1 ≤ text.length ∧ text.length ≤ 128) ∧ contractVersion text=true := by
  unfold isContractVersion at h
  simp only at h
  split at h
  · rename_i first rest hsplit
    simp only [Bool.and_eq_true,decide_eq_true_eq] at h
    obtain ⟨⟨⟨⟨⟨⟨hstart,hname⟩,hfirst⟩,hzero⟩,hrest⟩,hshort⟩,hlong⟩ := h
    have hdigits := List.all_eq_true.mp hrest
    obtain ⟨tail,htext⟩ := List.isPrefixOf_iff_prefix.mp hstart
    have htail : text.toList.drop 13=tail := by
      have hthirteen : "controlgraph.".toList.length=13 := rfl
      rw [←htext,←hthirteen,List.drop_left]
    rw [htail] at hsplit hname
    have hascii : IsAscii text := by
      intro character hmem
      rw [←htext] at hmem
      rcases List.mem_append.mp hmem with hproduct | hmem
      · have hproducts : ("controlgraph.".toList.all (fun letter => letter.toNat < 128))=true := by
          decide
        exact of_decide_eq_true (List.all_eq_true.mp hproducts character hproduct)
      · refine ascii_of_split (fun _ => name_character_ascii) ?_ character hmem
        rw [hsplit]
        intro letter hletter
        simp only [List.mem_cons] at hletter
        rcases hletter with rfl | rfl | rfl | hdigit
        · decide
        · decide
        · exact decimal_ascii _ hfirst
        · exact decimal_ascii letter (hdigits letter hdigit)
    refine ⟨hascii,⟨by omega,hlong⟩,?_⟩
    rw [contractVersion]
    simp only [htail,hsplit]
    cases hletters : tail.takeWhile (fun letter => isLower letter || isDecimal letter || letter== '-') with
    | nil =>
      rw [hletters] at hname
      cases hname
    | cons letter letters =>
      simp only [hstart,hfirst,hzero,hrest,Bool.and_self]
  · cases h

/-- The characters of joined segments are below 128 when those of the segments are. -/
theorem ascii_of_joined {segments : List (List Char)} (h : ∀ segment∈segments,
    ∀ character∈segment,character.toNat < 128) :
    ∀ character∈['/'].intercalate segments,character.toNat < 128 := by
  induction segments with
  | nil => exact fun character hmem => (List.not_mem_nil hmem).elim
  | cons segment segments ih =>
    obtain ⟨hhead,htail⟩ := List.forall_mem_cons.mp h
    cases segments with
    | nil =>
      rw [List.intercalate_singleton]
      exact hhead
    | cons next segments =>
      intro character hmem
      rw [List.intercalate_cons_cons,List.mem_append,List.mem_append] at hmem
      rcases hmem with (hleft | hmark) | hright
      · exact hhead character hleft
      · rw [List.mem_singleton] at hmark
        rw [hmark]
        decide
      · exact ih htail character hright

theorem segment_ascii {segment : List Char} (h : isResourceSegment segment=true) :
    ∀ character∈segment,character.toNat < 128 := by
  rw [isResourceSegment,Bool.and_eq_true,List.all_eq_true] at h
  intro character hmem
  have hcharacter := h.2 character hmem
  simp only [Bool.or_eq_true,beq_iff_eq] at hcharacter
  rcases hcharacter with (halphanumeric | rfl) | rfl
  · exact alphanumeric_ascii halphanumeric
  · decide
  · decide

/-- Key versions are ASCII text of at most 512 characters. -/
theorem keyVersion_spec {text : String} (h : isKeyVersion text=true) :
    IsAscii text ∧ 1 ≤ text.length ∧ text.length ≤ 512 := by
  unfold isKeyVersion at h
  rw [Bool.and_eq_true,decide_eq_true_eq] at h
  obtain ⟨hlength,h⟩ := h
  split at h
  · rename_i projects project locations location rings ring keys key versions version hsplit
    simp only [Bool.and_eq_true,beq_iff_eq,decide_eq_true_eq] at h
    obtain ⟨⟨⟨⟨⟨⟨⟨⟨⟨⟨⟨⟨⟨hprojects,hproject⟩,-⟩,-⟩,hlocations⟩,-⟩,hlocation⟩,hrings⟩,hring⟩,hkeys⟩,hkey⟩,
      hversions⟩,hversion⟩,-⟩ := h
    have hlabel : ∀ label∈["projects","locations","keyRings","cryptoKeys","cryptoKeyVersions"],
        ∀ character∈label.toList,character.toNat < 128 := by decide
    have hnamed : ∀ character∈project,character.toNat < 128 := by
      have hname := @isAscii_hyphenated (String.ofList project) (by rwa [String.toList_ofList])
      rwa [IsAscii,String.toList_ofList] at hname
    have hascii : ∀ character∈['/'].intercalate (text.toList.splitOn '/'),character.toNat < 128 := by
      refine ascii_of_joined ?_
      rw [hsplit]
      simp only [List.forall_mem_cons,List.not_mem_nil,false_implies,implies_true,and_true]
      rw [hprojects,hlocations,hrings,hkeys,hversions]
      refine ⟨hlabel _ (by decide),hnamed,hlabel _ (by decide),?_,hlabel _ (by decide),
        segment_ascii hring,hlabel _ (by decide),segment_ascii hkey,hlabel _ (by decide),?_⟩
      · exact fun character hmem =>
          name_character_ascii (List.all_eq_true.mp hlocation character hmem)
      · exact fun character hmem => decimal_ascii character (List.all_eq_true.mp hversion character hmem)
    rw [List.intercalate_splitOn] at hascii
    refine ⟨hascii,?_,hlength⟩
    by_contra hempty
    have hnone : text.toList=[] :=
      List.eq_nil_of_length_eq_zero (by rw [String.length_toList]; omega)
    rw [hnone,List.splitOn_nil] at hsplit
    cases hsplit
  · cases h

end

section

variable {runtime : ConsoleRuntime} {name : String}

/-- A bounded ASCII text is read as its units. -/
theorem string_seen {value : String} (hascii : IsAscii value) {minimum maximum : Nat}
    (hlength : minimum ≤ value.length ∧ value.length ≤ maximum) :
    ConsoleTimeline.string runtime (some (seen (text value))) name minimum maximum=
      .ok (unitsOf value) := by
  have hunits := chars_ascii hascii
  have hnormal : toUnits (runtime.tables.nfc (fromUnits (unitsOf value)))=unitsOf value := by
    rw [unitsOf_ascii hascii,fromUnits_ascii hunits,runtime.tables.nfc_ascii _ hunits,
      toUnits_ascii hunits]
  have hbounds := length_unitsOf_ascii hascii
  rw [seen_text]
  exact bind_of_ok (require_of ⟨by omega,by omega,hnormal⟩)

/-- A bounded ASCII text of a pattern is read as its units. -/
theorem matchingString_seen {value : String} (hascii : IsAscii value) {pattern : String → Bool}
    (hpattern : pattern value=true) {maximum : Nat}
    (hlength : 1 ≤ value.length ∧ value.length ≤ maximum) :
    matchingString runtime (some (seen (text value))) name pattern maximum=.ok (unitsOf value) := by
  have hunits : (unitsOf value).all (fun unit => unit < 128)=true := by
    rw [unitsOf_ascii hascii,List.all_eq_true]
    exact fun unit hmem => decide_eq_true (chars_ascii hascii unit hmem)
  have htest : asciiPattern pattern (unitsOf value)=true := by
    rw [asciiPattern,hunits,stringOf_unitsOf,hpattern,Bool.and_self]
  exact (bind_of_ok (string_seen hascii hlength)).trans (bind_of_ok (require_of htest))

theorem identifier_seen (value : Identifier) :
    matchingString runtime (some (seen (text value.1))) name isIdentifier 128=
      .ok (unitsOf value.1) := by
  obtain ⟨first,rest,htext,-,-,hlength⟩ := isIdentifier_iff.mp value.2
  have hcons := congrArg List.length htext
  rw [String.length_toList,List.length_cons] at hcons
  exact matchingString_seen (isAscii_identifier value.2) value.2 ⟨by omega,hlength⟩

theorem digest_seen (value : Sha256Digest) :
    ConsoleTimeline.digest runtime (some (seen (TimelineWire.digest value))) name=
      .ok (unitsOf value.1) := by
  have hlength := (digest_characters value).1
  exact matchingString_seen (isAscii_digest value) value.2 ⟨by omega,by omega⟩

/-- A digest or the null literal is read as the units of the digest or none. -/
theorem nullableDigest_seen (value : Option Sha256Digest) :
    nullableDigest runtime (some (seen (nullable TimelineWire.digest value))) name=
      .ok (value.map (fun digest => unitsOf digest.1)) := by
  cases value with
  | none =>
    rw [nullable,seen_null]
    rfl
  | some value =>
    have hread := @digest_seen runtime name value
    rw [nullable,Option.map_some,nullableDigest]
    · exact bind_of_ok hread
    · rw [TimelineWire.digest,seen_text]
      simp only [Option.some.injEq,reduceCtorEq,imp_self]

/-- An identity or the null literal is read as the units of the identity or none. -/
theorem nullableIdentity_seen (value : Option Identifier) :
    nullableIdentity runtime (some (seen (nullable (fun identity => text identity.1) value))) name=
      .ok (value.map (fun identity => unitsOf identity.1)) := by
  cases value with
  | none =>
    rw [nullable,seen_null]
    rfl
  | some value =>
    have hread := @identifier_seen runtime name value
    rw [nullable,Option.map_some,nullableIdentity]
    · exact bind_of_ok hread
    · rw [seen_text]
      simp only [Option.some.injEq,reduceCtorEq,imp_self]

theorem enumeration_seen {value : String} {values : List String} (hmem : value∈values)
    (hascii : ∀ value∈values,IsAscii value) :
    enumeration (some (seen (text value))) name values=.ok (unitsOf value) := by
  have hunits : unitsOf value∈values.map chars := by
    rw [unitsOf_ascii (hascii value hmem)]
    exact List.mem_map_of_mem hmem
  rw [seen_text]
  exact bind_of_ok (require_of hunits)

theorem integer_seen {value : Nat} {minimum : Int} (hlow : minimum ≤ value)
    (hhigh : value ≤ 9007199254740991) :
    ConsoleTimeline.integer (some (seen (TimelineWire.integer value))) name minimum=.ok value := by
  rw [seen_integer]
  refine bind_of_ok (require_of ⟨?_,?_,hlow⟩) <;> unfold maxSafeInteger <;> omega

/-- A literal is recognised. -/
theorem isText_seen {value : String} (hascii : IsAscii value) :
    isText (some (seen (text value))) value=true := by
  rw [seen_text,isText,unitsOf_ascii hascii]
  exact decide_eq_true rfl

/-- The years of timestamps have four digits. -/
theorem year_bounds (second : UtcSecond) : 1 ≤ (timeOfSecond second.1).date.year ∧
    (timeOfSecond second.1).date.year ≤ 9999 := by
  obtain ⟨hstart,hend⟩ := yearOfDay_bounds (second.1/86400)
  have hsecond := second.2
  have hfirst : daysBeforeYear 1=-719162 := by decide
  have hlast : daysBeforeYear 10000=2932897 := by decide
  change 1 ≤ yearOfDay (second.1/86400) ∧ yearOfDay (second.1/86400) ≤ 9999
  constructor
  · by_contra hearly
    have hle := daysBeforeYear_add_le (show yearOfDay (second.1/86400)+1 ≤ 1 by omega)
    omega
  · by_contra hlate
    have hle := daysBeforeYear_add_le (show 10000 ≤ yearOfDay (second.1/86400) by omega)
    omega

/-- A timestamp is read as its text. -/
theorem utcSecond_seen (second : UtcSecond) :
    utcSecond runtime (some (seen (timestamp second))) name=
      .ok (utcSecondText (timeOfSecond second.1)) := by
  obtain ⟨hlow,hhigh⟩ := year_bounds second
  have hcalendar := timeOfSecond_onCalendar second.1
  have hmatch : matchUtcSecond (utcSecondText (timeOfSecond second.1))=
      some (timeOfSecond second.1) :=
    matchUtcSecond_eq_some.mpr ⟨rfl,fits_of_onCalendar hcalendar ⟨by omega,hhigh⟩⟩
  have hascii : ∀ character∈utcSecondText (timeOfSecond second.1),character < 128 := by
    intro character hmem
    have hbounds := mem_utcSecondText hmem
    omega
  have hseen : seen (timestamp second)=.str (utcSecondText (timeOfSecond second.1)) := by
    rw [timestamp,seen,Json.sortKeys,JsonTranslation.mapTexts,toUnits_ascii hascii]
  have hlength : (utcSecondText (timeOfSecond second.1)).length=20 := by
    rw [utcSecondText_eq]
    rfl
  have hnormal : toUnits (runtime.tables.nfc (fromUnits (utcSecondText (timeOfSecond second.1))))=
      utcSecondText (timeOfSecond second.1) := by
    rw [fromUnits_ascii hascii,runtime.tables.nfc_ascii _ hascii,toUnits_ascii hascii]
  have hstring : ConsoleTimeline.string runtime (some (seen (timestamp second))) name 20 20=
      .ok (utcSecondText (timeOfSecond second.1)) := by
    rw [hseen]
    exact bind_of_ok (require_of ⟨by omega,by omega,hnormal⟩)
  have haccepted : assertUtcSecondTimestamp runtime.toRuntime
      (utcSecondText (timeOfSecond second.1))=.ok () :=
    assertUtcSecondTimestamp_eq_ok.mpr ⟨_,hmatch,hlow,hcalendar⟩
  exact (bind_of_ok hstring).trans (bind_of_ok haccepted)

theorem isSecretShaped_identifier (isLetter : Char → Bool) (value : Identifier) :
    isSecretShaped (unitsOf value.1)=
      SecretPatterns.isSecretShaped (SecretPatterns.backendDialect isLetter) value.1 := by
  rw [isSecretShaped,stringOf_unitsOf]
  refine (SecretPatterns.isSecretShaped_agreeOn (SecretPatterns.backend_agreeOn_console isLetter)
    ?_).symm
  intro character hmem
  have hcharacter := isIdentifier_characters value.2 character hmem
  refine ⟨?_,isAscii_identifier value.2 character hmem⟩
  simp only [isIdentifierCharacter,isAlphanumeric,Bool.or_eq_true,Bool.and_eq_true,
    decide_eq_true_eq] at hcharacter
  have hbound : ∀ low : Char,low ≤ character → low.toNat ≤ character.toNat := fun _ hle => hle
  rcases hcharacter with ((hupper | hlower) | hdigit) | hmark
  · have hle := hbound 'A' hupper.1
    have hcode : 'A'.toNat=65 := rfl
    omega
  · have hle := hbound 'a' hlower.1
    have hcode : 'a'.toNat=97 := rfl
    omega
  · have hle := hbound '0' hdigit.1
    have hcode : '0'.toNat=48 := rfl
    omega
  · have hmarks : ∀ mark∈['.','_',':','-'],32 ≤ mark.toNat := by decide
    exact hmarks character (List.contains_iff_mem.mp hmark)

end

section

/-- A smaller text has smaller code points. -/
theorem chars_lt {first second : String} (h : first < second) : chars first < chars second := by
  have hmono : ∀ left right : Char,left < right → left.toNat < right.toNat := fun _ _ hlt => hlt
  rw [chars_eq,chars_eq]
  exact List.map_lt hmono h

/-- A text that is not greater has code points that are not greater. -/
theorem chars_le {first second : String} (h : first ≤ second) : chars first ≤ chars second := by
  have hmono : ∀ left right : Char,left < right → left.toNat < right.toNat := fun _ _ hlt => hlt
  have hle : ¬chars second < chars first := by
    rw [chars_eq,chars_eq]
    exact List.map_le hmono h
  exact not_lt.mp hle

/-- A smaller text stays smaller when both are closed by a zero. -/
theorem append_zero_lt {first second left right : Text} (h : first < second)
    (hpos : ∀ unit∈second,0 < unit) : first++0::left < second++0::right := by
  induction first generalizing second with
  | nil =>
    cases second with
    | nil => exact absurd h (lt_irrefl _)
    | cons unit second =>
      rw [List.nil_append,List.cons_append,List.cons_lt_cons_iff]
      exact .inl (hpos unit List.mem_cons_self)
  | cons other first ih =>
    cases second with
    | nil => exact absurd h (List.not_lt_nil _)
    | cons unit second =>
      rw [List.cons_append,List.cons_append,List.cons_lt_cons_iff]
      rcases List.cons_lt_cons_iff.mp h with hunit | ⟨rfl,htail⟩
      · exact .inl hunit
      · exact .inr ⟨rfl,ih htail (fun unit hmem => hpos unit (List.mem_cons_of_mem _ hmem))⟩

/-- A common start keeps the order. -/
theorem append_lt {start left right : Text} (h : left < right) : start++left < start++right := by
  induction start with
  | nil => exact h
  | cons unit start ih =>
    rw [List.cons_append,List.cons_append,List.cons_lt_cons_iff]
    exact .inr ⟨rfl,ih⟩

theorem canonicalKeys_of_lt {keys : List Text}
    (h : keys.Pairwise (fun first second => first < second)) : canonicalKeys keys=true := by
  have hnodup : keys.Nodup := h.imp ne_of_lt
  have hsorted : keys.insertionSort (· ≤ ·)=keys := (h.imp le_of_lt).insertionSort_eq
  exact decide_eq_true ⟨hnodup,by rw [hsorted]⟩

/-- Ordered unique keys of correlations have units in strict order. -/
theorem key_lt {first second : TimelineCorrelationV1} (hne : first.key≠second.key)
    (hle : KeyOrdered first.key second.key) :
    unitsOf first.kind.value++0::unitsOf first.correlation_id.1 <
      unitsOf second.kind.value++0::unitsOf second.correlation_id.1 := by
  have hkind : ∀ kind : TimelineCorrelationKind,IsAscii kind.value ∧
      ∀ unit∈chars kind.value,0 < unit := by
    intro kind
    cases kind <;> decide +kernel
  rw [unitsOf_ascii (hkind first.kind).1,unitsOf_ascii (hkind second.kind).1,
    unitsOf_ascii (isAscii_identifier first.correlation_id.2),
    unitsOf_ascii (isAscii_identifier second.correlation_id.2)]
  rcases hle with hlt | ⟨hsame,hid⟩
  · exact append_zero_lt (chars_lt hlt) (hkind second.kind).2
  · have hother : first.correlation_id.1≠second.correlation_id.1 :=
      fun hboth => hne (Prod.ext hsame hboth)
    have hsplit : chars first.correlation_id.1≠chars second.correlation_id.1 :=
      fun hboth => hother (unitsOf_injective (congrArg toUnits hboth))
    have htail := lt_of_le_of_ne (chars_le hid) hsplit
    have hkinds : first.kind.value=second.kind.value := hsame
    rw [hkinds]
    exact append_lt (List.cons_lt_cons_iff.mpr (.inr ⟨rfl,htail⟩))

end

end ControlGraph.TimelineReading
