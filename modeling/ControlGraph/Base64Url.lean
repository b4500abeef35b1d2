import Mathlib.Data.List.DropRight
import ControlGraph.CanonicalCodec

/-!
# Unpadded base64url

Bytes are cut into groups of three, and each group is written as four characters
of six bits. The last group may be short; its padding is stripped when a value
is written and put back when one is read. The reader checks the bound and the
alphabet, decodes, and then writes the bytes again: spellings with other trailing
bits decode to the same bytes, and are refused because they are not written so.
-/

namespace ControlGraph.Base64Url

open CanonicalCodec Checks ContractText

open Utf8Text (Bytes)

/-- Characters of the alphabet, in the order of their values. -/
def alphabet : List Char :=
  ['A','B','C','D','E','F','G','H','I','J','K','L','M','N','O','P','Q','R','S','T','U','V','W','X',
   'Y','Z','a','b','c','d','e','f','g','h','i','j','k','l','m','n','o','p','q','r','s','t','u','v',
   'w','x','y','z','0','1','2','3','4','5','6','7','8','9','-','_']

/-- Characters that the pattern of a value admits. -/
def isBase64UrlCharacter (character : Char) : Bool :=
  isAlphanumeric character || character== '_' || character== '-'

/-- Character of six bits. -/
def sextetChar (sextet : Nat) : Char := alphabet.getD sextet 'A'

/-- Six bits of a character. -/
def charSextet (character : Char) : Except CodecRaised Nat :=
  if character∈alphabet then .ok (alphabet.idxOf character)
  else .error (invalid "base64url value is invalid")

/-- Groups of six bits of some bytes; the last group is filled with zeros. -/
def sextetsOf : Bytes → List Nat
  | [] => []
  | [first] => [first.toNat/4,first.toNat%4*16]
  | [first,second] =>
    [first.toNat/4,first.toNat%4*16+second.toNat/16,second.toNat%16*4]
  | first::second::third::rest =>
    [first.toNat/4,first.toNat%4*16+second.toNat/16,second.toNat%16*4+third.toNat/64,
      third.toNat%64]++sextetsOf rest

/-- Bytes of groups of six bits. Bits that fill the last group are dropped, and a
single group of six bits is no byte. -/
def decodeSextets : List Nat → Except CodecRaised Bytes
  | [] => .ok []
  | [_] => .error (invalid "base64url value is invalid")
  | [first,second] => .ok [UInt8.ofNat (first*4+second/16)]
  | [first,second,third] =>
    .ok [UInt8.ofNat (first*4+second/16),UInt8.ofNat (second%16*16+third/4)]
  | first::second::third::fourth::rest => do
    let bytes ← decodeSextets rest
    return [UInt8.ofNat (first*4+second/16),UInt8.ofNat (second%16*16+third/4),
      UInt8.ofNat (third%4*64+fourth)]++bytes

/-- Padding that fills the last group of four characters. -/
def padding (length : Nat) : List Char := List.replicate ((4-length%4)%4) '='

/-- Padded encoding in the alphabet. -/
def urlsafeB64encode (value : Bytes) : List Char :=
  (sextetsOf value).map sextetChar++padding (sextetsOf value).length

/-- Decode a padded value: whole groups of four, with at most two characters of
padding and none of them before the end. -/
def b64decode (text : List Char) : Except CodecRaised Bytes := do
  let data := text.takeWhile (· != '=')
  let marks := text.dropWhile (· != '=')
  require (text.length%4=0 ∧ marks.length ≤ 2 ∧ marks.all (· == '=')=true)
    (invalid "base64url value is invalid")
  let sextets ← data.mapM charSextet
  decodeSextets sextets

/-- Encode bytes as unpadded canonical base64url. -/
def encodeBase64url (value : Bytes) : String :=
  String.ofList ((urlsafeB64encode value).rdropWhile (· == '='))

/-- Decode only the unpadded canonical base64url spelling. -/
def decodeBase64url (value : String) (maximum_bytes : Int) : Except CodecRaised Bytes := do
  require (¬maximum_bytes*2 < value.length ∧ value.toList.all isBase64UrlCharacter=true)
    (invalid "base64url value is invalid")
  let decoded ← b64decode (value.toList++padding value.length)
  require ((decoded.length : Int) ≤ maximum_bytes ∧ encodeBase64url decoded=value)
    (invalid "base64url value is not canonical")
  return decoded

/-- Six bits name a character of the pattern that is no padding, and are read from it. -/
theorem sextetChar_spec {sextet : Nat} (h : sextet < 64) :
    sextetChar sextet∈alphabet ∧ isBase64UrlCharacter (sextetChar sextet)=true ∧
      sextetChar sextet≠ '=' ∧ charSextet (sextetChar sextet)=.ok sextet := by
  have hall : ∀ value : Fin 64,sextetChar value.1∈alphabet ∧
      isBase64UrlCharacter (sextetChar value.1)=true ∧ sextetChar value.1≠ '=' ∧
        alphabet.idxOf (sextetChar value.1)=value.1 := by
    decide
  obtain ⟨hmem,hpattern,hmark,hindex⟩ := hall ⟨sextet,h⟩
  refine ⟨hmem,hpattern,hmark,?_⟩
  rw [charSextet,if_pos hmem]
  exact congrArg Except.ok hindex

/-- Groups of six bits are below sixty-four, four of them for three bytes. -/
theorem sextetsOf_spec (value : Bytes) : (∀ sextet∈sextetsOf value,sextet < 64) ∧
    (sextetsOf value).length=(4*value.length+2)/3 := by
  induction value using sextetsOf.induct with
  | case1 => exact ⟨fun _ hmem => (List.not_mem_nil hmem).elim,rfl⟩
  | case2 first =>
    have hfirst := first.toNat_lt
    simp only [sextetsOf,List.mem_cons,List.not_mem_nil,or_false,forall_eq_or_imp,forall_eq,
      List.length_cons,List.length_nil,and_true]
    omega
  | case3 first second =>
    have hfirst := first.toNat_lt
    have hsecond := second.toNat_lt
    simp only [sextetsOf,List.mem_cons,List.not_mem_nil,or_false,forall_eq_or_imp,forall_eq,
      List.length_cons,List.length_nil,and_true]
    omega
  | case4 first second third rest ih =>
    have hfirst := first.toNat_lt
    have hsecond := second.toNat_lt
    have hthird := third.toNat_lt
    have hrest := ih.2
    refine ⟨fun sextet hmem => ?_,?_⟩
    · rw [sextetsOf,List.mem_append] at hmem
      rcases hmem with hmem | hmem
      · simp only [List.mem_cons,List.not_mem_nil,or_false] at hmem
        omega
      · exact ih.1 sextet hmem
    · rw [sextetsOf,List.length_append,hrest]
      simp only [List.length_cons,List.length_nil]
      omega

/-- A byte is its value. -/
theorem ofNat_of_eq {byte : UInt8} {value : Nat} (h : value=byte.toNat) : UInt8.ofNat value=byte := by
  rw [h,UInt8.ofNat_toNat]

/-- Reading the groups of six bits of some bytes gives the bytes. -/
theorem decodeSextets_sextetsOf (value : Bytes) : decodeSextets (sextetsOf value)=.ok value := by
  induction value using sextetsOf.induct with
  | case1 => rfl
  | case2 first =>
    have hfirst : first.toNat/4*4+first.toNat%4*16/16=first.toNat := by omega
    rw [sextetsOf,decodeSextets,ofNat_of_eq hfirst]
  | case3 first second =>
    have hsecond := second.toNat_lt
    have hfirst : first.toNat/4*4+(first.toNat%4*16+second.toNat/16)/16=first.toNat := by omega
    have hlow : (first.toNat%4*16+second.toNat/16)%16*16+second.toNat%16*4/4=second.toNat := by
      omega
    rw [sextetsOf,decodeSextets,ofNat_of_eq hfirst,ofNat_of_eq hlow]
  | case4 first second third rest ih =>
    have hsecond := second.toNat_lt
    have hthird := third.toNat_lt
    have hfirst : first.toNat/4*4+(first.toNat%4*16+second.toNat/16)/16=first.toNat := by omega
    have hmiddle : (first.toNat%4*16+second.toNat/16)%16*16+
        (second.toNat%16*4+third.toNat/64)/4=second.toNat := by omega
    have hlow : (second.toNat%16*4+third.toNat/64)%4*64+third.toNat%64=third.toNat := by omega
    rw [sextetsOf,List.cons_append,List.cons_append,List.cons_append,List.cons_append,
      List.nil_append,decodeSextets,ofNat_of_eq hfirst,ofNat_of_eq hmiddle,ofNat_of_eq hlow]
    exact bind_of_ok ih

/-- Stripping the padding leaves the characters of the groups. -/
theorem toList_encodeBase64url (value : Bytes) :
    (encodeBase64url value).toList=(sextetsOf value).map sextetChar := by
  have hmarks : ∀ character∈padding (sextetsOf value).length,(character== '=')=true := by
    intro character hmem
    rw [List.eq_of_mem_replicate hmem]
    rfl
  have hdata : ∀ character∈(sextetsOf value).map sextetChar,¬(character== '=')=true := by
    intro character hmem
    obtain ⟨sextet,hsextet,rfl⟩ := List.mem_map.mp hmem
    rw [beq_iff_eq]
    exact (sextetChar_spec ((sextetsOf_spec value).1 sextet hsextet)).2.2.1
  rw [encodeBase64url,String.toList_ofList,urlsafeB64encode,List.rdropWhile,List.reverse_append,
    List.dropWhile_append_of_pos fun character hmem => hmarks character (List.mem_reverse.mp hmem)]
  cases hcases : ((sextetsOf value).map sextetChar).reverse with
  | nil => rw [List.reverse_eq_nil_iff.mp hcases]; rfl
  | cons last rest =>
    have hlast : ¬(last== '=')=true :=
      hdata last (List.mem_reverse.mp (hcases ▸ List.mem_cons_self))
    have hstop : (last::rest).dropWhile (· == '=')=last::rest := List.dropWhile_cons_of_neg hlast
    rw [hstop,← hcases,List.reverse_reverse]

theorem b64decode_padded (value : Bytes) :
    b64decode ((sextetsOf value).map sextetChar++padding (sextetsOf value).length)=.ok value := by
  obtain ⟨hbounds,hlength⟩ := sextetsOf_spec value
  have hdata : ∀ character∈(sextetsOf value).map sextetChar,(character != '=')=true := by
    intro character hmem
    obtain ⟨sextet,hsextet,rfl⟩ := List.mem_map.mp hmem
    exact bne_iff_ne.mpr (sextetChar_spec (hbounds sextet hsextet)).2.2.1
  have hmarks : ∀ character∈padding (sextetsOf value).length,¬(character != '=')=true := by
    intro character hmem
    rw [List.eq_of_mem_replicate hmem]
    decide
  have htake : (padding (sextetsOf value).length).takeWhile (· != '=')=[] := by
    cases hpadding : padding (sextetsOf value).length with
    | nil => rfl
    | cons mark rest =>
      exact List.takeWhile_cons_of_neg (hmarks mark (hpadding ▸ List.mem_cons_self))
  have hdrop : (padding (sextetsOf value).length).dropWhile (· != '=')=
      padding (sextetsOf value).length := by
    cases hpadding : padding (sextetsOf value).length with
    | nil => rfl
    | cons mark rest =>
      exact List.dropWhile_cons_of_neg (hmarks mark (hpadding ▸ List.mem_cons_self))
  have hsextets : ((sextetsOf value).map sextetChar).mapM charSextet=.ok (sextetsOf value) := by
    rw [List.mapM_map]
    have hread := mapM_eq_map.mpr fun sextet hmem =>
      (sextetChar_spec (hbounds sextet hmem)).2.2.2
    rwa [List.map_id'] at hread
  have hmarksLength : (padding (sextetsOf value).length).length=(4-(sextetsOf value).length%4)%4 :=
    List.length_replicate
  unfold b64decode
  dsimp only
  rw [List.takeWhile_append_of_pos hdata,List.dropWhile_append_of_pos hdata,htake,hdrop,
    List.append_nil]
  refine check_bind_eq_ok.mpr ⟨require_of ⟨?_,?_,?_⟩,?_⟩
  · rw [List.length_append,List.length_map,hmarksLength]
    omega
  · rw [hmarksLength]
    omega
  · exact List.all_eq_true.mpr fun character hmem => by
      rw [List.eq_of_mem_replicate hmem]
      rfl
  · exact (bind_of_ok hsextets).trans (decodeSextets_sextetsOf value)

/-- A text is read as some bytes exactly when it is their one spelling and they are
not too many; every other text is refused. -/
theorem base64url_exact (value : String) (maximum_bytes : Int) :
    (∀ bytes,decodeBase64url value maximum_bytes=.ok bytes ↔
      (bytes.length : Int) ≤ maximum_bytes ∧ value=encodeBase64url bytes) ∧
    ((∃ raised,decodeBase64url value maximum_bytes=.error raised) ↔
      ∀ bytes : Bytes,¬((bytes.length : Int) ≤ maximum_bytes ∧ value=encodeBase64url bytes)) := by
  have hexact : ∀ bytes,decodeBase64url value maximum_bytes=.ok bytes ↔
      (bytes.length : Int) ≤ maximum_bytes ∧ value=encodeBase64url bytes := by
    intro bytes
    constructor
    · intro h
      obtain ⟨-,h⟩ := check_bind_eq_ok.mp h
      obtain ⟨decoded,-,h⟩ := bind_eq_ok.mp h
      obtain ⟨hcanonical,hreturned⟩ := check_bind_eq_ok.mp h
      cases hreturned
      have hbounds := require_eq_ok.mp hcanonical
      exact ⟨hbounds.1,hbounds.2.symm⟩
    · rintro ⟨hlength,rfl⟩
      have hlist := toList_encodeBase64url bytes
      obtain ⟨hsextets,hcount⟩ := sextetsOf_spec bytes
      have hsize : (encodeBase64url bytes).length=(sextetsOf bytes).length := by
        rw [← String.length_toList,hlist,List.length_map]
      have hpattern : (encodeBase64url bytes).toList.all isBase64UrlCharacter=true := by
        rw [hlist]
        refine List.all_eq_true.mpr fun character hmem => ?_
        obtain ⟨sextet,hsextet,rfl⟩ := List.mem_map.mp hmem
        exact (sextetChar_spec (hsextets sextet hsextet)).2.1
      have hdecoded : b64decode ((encodeBase64url bytes).toList++
          padding (encodeBase64url bytes).length)=.ok bytes := by
        rw [hlist,hsize]
        exact b64decode_padded bytes
      refine check_bind_eq_ok.mpr ⟨require_of ⟨?_,hpattern⟩,bind_eq_ok.mpr ⟨bytes,hdecoded,?_⟩⟩
      · rw [hsize,hcount]
        omega
      · exact check_bind_eq_ok.mpr ⟨require_of ⟨hlength,rfl⟩,rfl⟩
  refine ⟨hexact,?_⟩
  constructor
  · rintro ⟨raised,hraised⟩ bytes hbytes
    have hok := (hexact bytes).mpr hbytes
    rw [hraised] at hok
    cases hok
  · intro hnone
    cases hdecoded : decodeBase64url value maximum_bytes with
    | error raised => exact ⟨raised,rfl⟩
    | ok bytes => exact absurd ((hexact bytes).mp hdecoded) (hnone bytes)

end ControlGraph.Base64Url
