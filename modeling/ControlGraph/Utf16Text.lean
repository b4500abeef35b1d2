import ControlGraph.JsonText
import ControlGraph.Utf8Text

/-!
# Texts as UTF-16 code units

The console's texts are lists of 16-bit code units. A pair of surrogate halves
stands for one code point above the first 65536; a half without its partner
stays a code point of its own. Splitting a text of scalar values into units
and joining the units gives the text back, and joining any units and splitting
them again gives the units back.
-/

namespace ControlGraph.Utf16Text

open JsonValues JsonText Utf8Text

/-- Code units of one code point. -/
def characterUnits (character : Nat) : Text :=
  if character<0x10000 then [character]
  else [0xd800+(character-0x10000)/0x400%0x400,0xdc00+(character-0x10000)%0x400]

/-- Code units of a text. -/
def toUnits (text : Text) : Text := text.flatMap characterUnits

/-- Code points of code units, joining every high half with the low half after it. -/
def fromUnits : Text → Text
  | [] => []
  | [unit] => [unit]
  | first::second::rest =>
    if isHighSurrogate first ∧ isLowSurrogate second then
      (0x10000+(first-0xd800)*0x400+(second-0xdc00))::fromUnits rest
    else first::fromUnits (second::rest)

/-- Whether every element is a 16-bit unit. -/
def IsUnits (units : Text) : Prop := ∀ unit∈units,unit<0x10000

/-- Whether every code point is a scalar value. -/
def IsScalar (text : Text) : Prop := ∀ character∈text,character.isValidChar

/-- A scalar value is neither half of a pair and below the end of the code space. -/
theorem isValidChar_iff {character : Nat} : character.isValidChar ↔
    ¬isHighSurrogate character ∧ ¬isLowSurrogate character ∧ character<0x110000 := by
  unfold Nat.isValidChar isHighSurrogate isLowSurrogate
  omega

theorem isUnits_toUnits (text : Text) : IsUnits (toUnits text) := by
  intro unit hunit
  obtain ⟨character,-,hmem⟩ := List.mem_flatMap.mp hunit
  unfold characterUnits at hmem
  split_ifs at hmem with hlow
  · rw [List.mem_singleton] at hmem
    omega
  · simp only [List.mem_cons,List.not_mem_nil,or_false] at hmem
    omega

/-- Splitting a text that consists of units changes nothing. -/
theorem toUnits_of_isUnits {units : Text} (h : IsUnits units) : toUnits units=units := by
  induction units with
  | nil => rfl
  | cons unit units ih =>
    have hunit : characterUnits unit=[unit] := if_pos (h unit List.mem_cons_self)
    have htail := ih (fun other hother => h other (List.mem_cons_of_mem _ hother))
    rw [toUnits,List.flatMap_cons,hunit,List.singleton_append]
    exact congrArg (unit:: ·) htail

/-- A unit that is no high half stands for itself. -/
theorem fromUnits_cons {unit : Nat} {units : Text} (h : ¬isHighSurrogate unit) :
    fromUnits (unit::units)=unit::fromUnits units := by
  cases units with
  | nil => rfl
  | cons second rest => rw [fromUnits,if_neg (fun hpair => h hpair.1)]

/-- The units of a code point are joined again. -/
theorem fromUnits_characterUnits {character : Nat} (h : character.isValidChar) (units : Text) :
    fromUnits (characterUnits character++units)=character::fromUnits units := by
  obtain ⟨hhigh,-,hbound⟩ := isValidChar_iff.mp h
  unfold characterUnits
  split_ifs with hlow
  · exact fromUnits_cons hhigh
  · have hpair : isHighSurrogate (0xd800+(character-0x10000)/0x400%0x400) ∧
        isLowSurrogate (0xdc00+(character-0x10000)%0x400) := by
      unfold isHighSurrogate isLowSurrogate
      omega
    have hjoin : 0x10000+(0xd800+(character-0x10000)/0x400%0x400-0xd800)*0x400+
        (0xdc00+(character-0x10000)%0x400-0xdc00)=character := by omega
    simp only [List.cons_append,List.nil_append]
    rw [fromUnits,if_pos hpair,hjoin]

/-- Joining the units of a scalar text gives the text back. -/
theorem fromUnits_toUnits {text : Text} (h : IsScalar text) : fromUnits (toUnits text)=text := by
  induction text with
  | nil => rfl
  | cons character text ih =>
    have htail := ih (fun other hother => h other (List.mem_cons_of_mem _ hother))
    rw [toUnits,List.flatMap_cons,fromUnits_characterUnits (h character List.mem_cons_self)]
    exact congrArg (character:: ·) htail

/-- A joined pair is split into its halves. -/
theorem characterUnits_pair {first second : Nat} (h : isHighSurrogate first ∧ isLowSurrogate second) :
    characterUnits (0x10000+(first-0xd800)*0x400+(second-0xdc00))=[first,second] := by
  unfold isHighSurrogate isLowSurrogate at h
  have hhigh : 0xd800+(0x10000+(first-0xd800)*0x400+(second-0xdc00)-0x10000)/0x400%0x400=first := by
    omega
  have hlow : 0xdc00+(0x10000+(first-0xd800)*0x400+(second-0xdc00)-0x10000)%0x400=second := by
    omega
  rw [characterUnits,if_neg (by omega),hhigh,hlow]

/-- Splitting the joined units gives the units back. -/
theorem toUnits_fromUnits {units : Text} (h : IsUnits units) : toUnits (fromUnits units)=units := by
  induction units using fromUnits.induct with
  | case1 => rfl
  | case2 unit => exact toUnits_of_isUnits h
  | case3 first second rest hpair ih =>
    have htail := ih (fun other hother => h other (by simp only [List.mem_cons,hother,or_true]))
    have hsplit := characterUnits_pair hpair
    rw [fromUnits,if_pos hpair,toUnits,List.flatMap_cons,hsplit]
    exact congrArg (fun tail => first::second::tail) htail
  | case4 first second rest hpair ih =>
    have htail := ih (fun other hother => h other (List.mem_cons_of_mem _ hother))
    have hsplit : characterUnits first=[first] := if_pos (h first List.mem_cons_self)
    rw [fromUnits,if_neg hpair,toUnits,List.flatMap_cons,hsplit]
    exact congrArg (first:: ·) htail

theorem toUnits_ascii {text : Text} (h : ∀ character∈text,character<128) : toUnits text=text :=
  toUnits_of_isUnits (fun character hmem => Nat.lt_trans (h character hmem) (by decide))

theorem fromUnits_ascii {units : Text} (h : ∀ unit∈units,unit<128) : fromUnits units=units := by
  have hscalar : IsScalar units := fun unit hmem => .inl (Nat.lt_trans (h unit hmem) (by decide))
  have hjoin := fromUnits_toUnits hscalar
  rwa [toUnits_ascii h] at hjoin

/-- UTF-8 bytes of code units, with the replacement character for a half without its partner. -/
def textEncoder (units : Text) : Bytes :=
  utf8Bytes ((fromUnits units).map (fun character =>
    if isHighSurrogate character ∨ isLowSurrogate character then 0xfffd else character))

theorem textEncoder_toUnits {text : Text} (h : IsScalar text) :
    encodeUtf8 text=some (textEncoder (toUnits text)) := by
  have hkept : text.map (fun character =>
      if isHighSurrogate character ∨ isLowSurrogate character then 0xfffd else character)=text := by
    refine (List.map_congr_left ?_).trans (List.map_id _)
    intro character hmem
    obtain ⟨hhigh,hlow,-⟩ := isValidChar_iff.mp (h character hmem)
    rw [if_neg (not_or.mpr ⟨hhigh,hlow⟩),id_eq]
  rw [textEncoder,fromUnits_toUnits h,hkept]
  exact if_pos h

/-- Written escape of a code unit. -/
def unitEscape (unit : Nat) : Text :=
  [code '\\',code 'u',hexDigit (unit/0x1000%16),hexDigit (unit/0x100%16),hexDigit (unit/16%16),
    hexDigit (unit%16)]

/-- Escape every half without its partner. -/
def escapeLoneSurrogates (units : Text) : Text :=
  (fromUnits units).flatMap (fun character =>
    if isHighSurrogate character ∨ isLowSurrogate character then unitEscape character
    else characterUnits character)

/-- The units of a scalar text hold nothing to escape. -/
theorem escapeLoneSurrogates_toUnits {text : Text} (h : IsScalar text) :
    escapeLoneSurrogates (toUnits text)=toUnits text := by
  rw [escapeLoneSurrogates,fromUnits_toUnits h]
  apply List.flatMap_congr
  intro character hmem
  obtain ⟨hhigh,hlow,-⟩ := isValidChar_iff.mp (h character hmem)
  rw [if_neg (not_or.mpr ⟨hhigh,hlow⟩)]

end ControlGraph.Utf16Text
