import Mathlib.Data.List.Basic

/-!
# Text and number primitives shared by the contracts

The bounded integers, digests, identifiers and timestamps of the wire
contracts, and the two text tests of the pure authority code. A refined value
carries the proof that its text matches, so it is never checked twice.
Timestamps are kept as seconds: their fixed-width text orders as they do.
-/

namespace ControlGraph.ContractText

/-- Errors that a check or an assertion of the source may raise. -/
inductive Raised
  | valueError (text : String)
  | assertionError (text : String)
  /-- A value that its contract type refuses. -/
  | validationError
  /-- An operation out of order. -/
  | runtimeError (text : String)
  /-- A time outside the years of the calendar. -/
  | overflowError
  deriving DecidableEq,Repr

/-- What holds of all characters of a list is decided along the list. -/
instance decidableOnCharacters (p : Char → Prop) [DecidablePred p] (characters : List Char) :
    Decidable (∀ character,character∈characters → p character) :=
  List.decidableBAll p characters

/-- Greatest integer that survives a JSON round trip. -/
def maxSafeInteger : Int := 9007199254740991

/-- Characters that the source strips as whitespace. -/
def isSpace (character : Char) : Bool :=
  let code := character.toNat
  (9 ≤ code && code≤13) || (28 ≤ code && code≤32) || code==0x85 || code==0xa0 || code==0x1680 ||
    (0x2000 ≤ code && code≤0x200a) || code==0x2028 || code==0x2029 || code==0x202f ||
    code==0x205f || code==0x3000

/-- Characters that an identifier must not contain. -/
def wildcardCharacters : List Char := ['*','?','[',']']

def byteList (value : String) : List UInt8 := value.toByteArray.data.toList

theorem byteList_eq (value : String) : byteList value=value.toList.flatMap String.utf8EncodeChar := by
  rw [byteList,← String.utf8Encode_toList,List.utf8Encode]
  simp

theorem ascii_character {character : Char}
    (h : (String.utf8EncodeChar character).all (fun byte => byte.toNat < 128)=true) :
    (String.utf8EncodeChar character).map (fun byte => Char.ofNat byte.toNat)=[character] := by
  unfold String.utf8EncodeChar at h ⊢
  dsimp only at h ⊢
  have hval : character.toNat=character.val.toNat := rfl
  split_ifs at h ⊢ with hone htwo hthree
  · have hbyte : character.val.toNat%256=character.toNat := by omega
    rw [List.map_cons,List.map_nil,UInt8.toNat_ofNat',hbyte,Char.ofNat_toNat]
  all_goals
    rw [List.all_cons,Bool.and_eq_true,decide_eq_true_eq,UInt8.toNat_ofNat'] at h
    have hbound : character.val.toNat < 1114112 := by
      have hvalid := character.valid
      rcases hvalid with hlow | hhigh <;> omega
    omega

/-- Characters of a text, read off its bytes where these are ASCII. Deciding a
pattern over them is much faster than decoding the text. -/
def charactersOf (value : String) : List Char :=
  if (byteList value).all (fun byte => byte.toNat < 128) then
    (byteList value).map (fun byte => Char.ofNat byte.toNat)
  else value.toList

/-- Reading the bytes gives the characters of a text. -/
theorem charactersOf_eq (value : String) : charactersOf value=value.toList := by
  unfold charactersOf
  split_ifs with hascii
  · rw [byteList_eq] at hascii ⊢
    generalize value.toList=characters at hascii ⊢
    induction characters with
    | nil => rfl
    | cons character rest ih =>
      rw [List.flatMap_cons,List.all_append,Bool.and_eq_true] at hascii
      rw [List.flatMap_cons,List.map_append,ascii_character hascii.1,ih hascii.2]
      rfl
  · rfl

/-- Lowercase hexadecimal digits. -/
def isHexDigit (character : Char) : Bool :=
  (character ≥ '0' && character ≤ '9') || (character ≥ 'a' && character ≤ 'f')

/-- Exactly sixty-four lowercase hexadecimal digits. -/
def isSha256 (text : String) : Bool :=
  text.toList.length==64 && text.toList.all isHexDigit

instance (text : String) : Decidable (isSha256 text=true) :=
  decidable_of_iff (((charactersOf text).length==64 && (charactersOf text).all isHexDigit)=true) (by
    rw [charactersOf_eq,isSha256])

/-- A lowercase SHA-256 digest. -/
abbrev Sha256Digest := {text : String // isSha256 text=true}

/-- Letters and digits of ASCII. -/
def isAlphanumeric (character : Char) : Bool :=
  (character ≥ 'A' && character ≤ 'Z') || (character ≥ 'a' && character ≤ 'z') ||
    (character ≥ '0' && character ≤ '9')

/-- Characters of an identifier after the first. -/
def isIdentifierCharacter (character : Char) : Bool :=
  isAlphanumeric character || ['.','_',':','-'].contains character

/-- At most 128 identifier characters, the first of them a letter or a digit. -/
def isIdentifier (text : String) : Bool :=
  match text.toList with
  | [] => false
  | first::rest => isAlphanumeric first && rest.all isIdentifierCharacter && rest.length<128

instance (text : String) : Decidable (isIdentifier text=true) :=
  decidable_of_iff ((match charactersOf text with
    | [] => false
    | first::rest => isAlphanumeric first && rest.all isIdentifierCharacter && rest.length<128)=
      true) (by rw [charactersOf_eq,isIdentifier])

abbrev Identifier := {text : String // isIdentifier text=true}

/-- Lowercase letters of ASCII. -/
def isLower (character : Char) : Bool := character ≥ 'a' && character ≤ 'z'

/-- Decimal digits of ASCII. -/
def isDecimal (character : Char) : Bool := character ≥ '0' && character ≤ '9'

/-- Lowercase letters, digits and inner hyphens, starting with a letter. -/
def isHyphenatedName (text : List Char) : Bool :=
  match text with
  | [] => false
  | first::_ => isLower first &&
      text.all (fun character => isLower character || isDecimal character || character== '-') &&
      text.getLast?.all (fun last => isLower last || isDecimal last)

instance (text : String) : Decidable (isHyphenatedName text.toList=true) :=
  decidable_of_iff (isHyphenatedName (charactersOf text)=true) (by rw [charactersOf_eq])

/-- A project id of six to thirty characters. -/
abbrev ProjectId := {text : String // isHyphenatedName text.toList=true ∧
  6 ≤ text.length ∧ text.length≤30}

/-- A service or revision name of at most sixty-three characters. -/
abbrev CloudRunName := {text : String // isHyphenatedName text.toList=true ∧ text.length≤63}

/-- Two names of letters joined by a hyphen and followed by digits. -/
def isRegion (text : String) : Bool :=
  let name := text.toList.takeWhile isLower
  match text.toList.dropWhile isLower with
  | '-'::rest =>
    let digits := rest.dropWhile isLower
    !name.isEmpty && !(rest.takeWhile isLower).isEmpty && !digits.isEmpty && digits.all isDecimal &&
      text.length≤32
  | _ => false

abbrev Region := {text : String // isRegion text=true}

def isTokenCharacter (character : Char) : Bool :=
  isAlphanumeric character || ['.','_','~',':','/','+','=','-'].contains character

/-- Token characters, bare or between double quotes. -/
def isOpaqueToken (text : String) : Bool :=
  let inner := match text.toList with
    | '"'::rest => if rest.getLast?=some '"' then rest.dropLast else []
    | bare => bare
  !inner.isEmpty && inner.all isTokenCharacter && text.length≤512

abbrev OpaqueToken := {text : String // isOpaqueToken text=true}

/-- Bounded text. Which characters it may contain is not looked at here. -/
abbrev BoundedText := {text : String // 1 ≤ text.length ∧ text.length≤2048}

/-- A timestamp of the four-digit years as seconds since 1970. -/
abbrev UtcSecond := {second : Int // -62135596800 ≤ second ∧ second≤253402300799}

/-- A timestamp some seconds later, or earlier. -/
def addSeconds (time : UtcSecond) (seconds : Int) : Except Raised UtcSecond :=
  if h : -62135596800 ≤ time.1+seconds ∧ time.1+seconds≤253402300799 then
    .ok ⟨time.1+seconds,h⟩
  else .error .overflowError

/-- A positive integer that survives a JSON round trip. -/
abbrev PositiveSafeInteger := {value : Nat // 1 ≤ value ∧ value≤9007199254740991}

/-- The second epoch is a positive safe integer. -/
theorem two_safe : 1 ≤ 2 ∧ 2 ≤ 9007199254740991 := by omega

/-- The epoch of a new root. -/
def firstEpoch : PositiveSafeInteger := ⟨1,by omega⟩

/-- Whether nothing is left of a text after stripping whitespace. -/
def isBlank (text : String) : Bool := text.toList.all isSpace

/-- Whether a text contains a wildcard character. -/
def hasWildcard (text : String) : Bool :=
  text.toList.any (fun character => decide (character∈wildcardCharacters))

/-- Value of one hexadecimal digit. -/
def hexValue (character : Char) : Nat :=
  if character ≤ '9' then character.toNat-48 else character.toNat-87

/-- Bytes of a hexadecimal text. -/
def fromHex : List Char → List UInt8
  | high::low::rest => UInt8.ofNat (16*hexValue high+hexValue low)::fromHex rest
  | _ => []

/-! ## Texts and times that samples of several modules share -/

instance : LawfulBEq Sha256Digest := inferInstance

instance : LawfulBEq Identifier := inferInstance

theorem isSha256_repeated {letter : Char} (h : isHexDigit letter=true) :
    isSha256 (String.ofList (List.replicate 64 letter))=true := by
  rw [isSha256,String.toList_ofList,List.length_replicate,beq_self_eq_true,Bool.true_and]
  exact List.all_eq_true.mpr fun character hmem => List.eq_of_mem_replicate hmem ▸ h

theorem isSha256_one : isSha256 (String.ofList (List.replicate 64 '1'))=true :=
  isSha256_repeated rfl

theorem isSha256_a : isSha256 (String.ofList (List.replicate 64 'a'))=true := isSha256_repeated rfl

theorem isSha256_b : isSha256 (String.ofList (List.replicate 64 'b'))=true := isSha256_repeated rfl

theorem isSha256_c : isSha256 (String.ofList (List.replicate 64 'c'))=true := isSha256_repeated rfl

theorem isSha256_d : isSha256 (String.ofList (List.replicate 64 'd'))=true := isSha256_repeated rfl

theorem isSha256_e : isSha256 (String.ofList (List.replicate 64 'e'))=true := isSha256_repeated rfl

theorem samples_valid :
    ((isHyphenatedName "controlgraph-canary-chain1".toList=true ∧
          6 ≤ "controlgraph-canary-chain1".length ∧ "controlgraph-canary-chain1".length ≤ 30) ∧
        isRegion "us-central1"=true ∧ isIdentifier "nonprod"=true ∧
        isHyphenatedName "controlgraph-reference-target".toList=true ∧
          "controlgraph-reference-target".length ≤ 63) ∧
      ((isHyphenatedName "controlgraph-dev".toList=true ∧
          6 ≤ "controlgraph-dev".length ∧ "controlgraph-dev".length ≤ 30) ∧
        isIdentifier "staging"=true ∧
        isHyphenatedName "gateway".toList=true ∧ "gateway".length ≤ 63) ∧
      (isIdentifier "evidence-0"=true ∧ isIdentifier "write-1"=true ∧
        isIdentifier "revoke"=true ∧ isIdentifier "revoke-key"=true) ∧
      (1 ≤ "drill".length ∧ "drill".length ≤ 512) ∧ isOpaqueToken "etag-chain"=true ∧
      1 ≤ "operation".length ∧ "operation".length ≤ 2048 := by
  decide +kernel

theorem chainProject : isHyphenatedName "controlgraph-canary-chain1".toList=true ∧
    6 ≤ "controlgraph-canary-chain1".length ∧ "controlgraph-canary-chain1".length ≤ 30 :=
  samples_valid.1.1

theorem chainRegion : isRegion "us-central1"=true := samples_valid.1.2.1

theorem chainEnvironment : isIdentifier "nonprod"=true := samples_valid.1.2.2.1

theorem chainService : isHyphenatedName "controlgraph-reference-target".toList=true ∧
    "controlgraph-reference-target".length ≤ 63 :=
  samples_valid.1.2.2.2

theorem timelineProject : isHyphenatedName "controlgraph-dev".toList=true ∧
    6 ≤ "controlgraph-dev".length ∧ "controlgraph-dev".length ≤ 30 :=
  samples_valid.2.1.1

theorem timelineEnvironment : isIdentifier "staging"=true := samples_valid.2.1.2.1

theorem timelineService : isHyphenatedName "gateway".toList=true ∧ "gateway".length ≤ 63 :=
  samples_valid.2.1.2.2

theorem firstEvidence : isIdentifier "evidence-0"=true := samples_valid.2.2.1.1

theorem firstWrite : isIdentifier "write-1"=true := samples_valid.2.2.1.2.1

theorem revocationName : isIdentifier "revoke"=true := samples_valid.2.2.1.2.2.1

theorem revocationKey : isIdentifier "revoke-key"=true := samples_valid.2.2.1.2.2.2

theorem drill_bounds : 1 ≤ "drill".length ∧ "drill".length ≤ 512 := samples_valid.2.2.2.1

theorem chainToken : isOpaqueToken "etag-chain"=true := samples_valid.2.2.2.2.1

theorem operation_bounds : 1 ≤ "operation".length ∧ "operation".length ≤ 2048 :=
  samples_valid.2.2.2.2.2

/-- Times of the samples. -/
theorem start_bounds : -62135596800 ≤ (0 : Int) ∧ (0 : Int) ≤ 253402300799 := by omega

theorem time_bounds : -62135596800 ≤ (1700000000 : Int) ∧ (1700000000 : Int) ≤ 253402300799 := by
  omega

theorem later_bounds : -62135596800 ≤ (1700000100 : Int) ∧ (1700000100 : Int) ≤ 253402300799 := by
  omega

theorem end_bounds : -62135596800 ≤ (1700000300 : Int) ∧ (1700000300 : Int) ≤ 253402300799 := by
  omega

theorem seven_safe : 7 ≤ 9007199254740991 := by omega

end ControlGraph.ContractText
