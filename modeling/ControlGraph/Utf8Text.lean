import ControlGraph.JsonValues

/-!
# Texts as bytes

A text of code points has a UTF-8 form exactly when it contains no surrogate
half, and an ASCII form when every code point is below 128. Both forms
determine the text. A text without the null character has no null byte, so a
null byte can separate a text from what stands before it.
-/

namespace ControlGraph.Utf8Text

open JsonValues

abbrev Bytes := List UInt8

/-- UTF-8 bytes of a text that is known to contain scalar values only. -/
def utf8Bytes (text : Text) : Bytes :=
  text.flatMap (fun character => String.utf8EncodeChar (Char.ofNat character))

/-- UTF-8 bytes of a text of scalar values. -/
def encodeUtf8 (text : Text) : Option Bytes :=
  if ∀ character∈text,character.isValidChar then some (utf8Bytes text) else none

/-- Text of a valid UTF-8 byte string. -/
def decodeUtf8 (bytes : Bytes) : Option Text :=
  bytes.toByteArray.utf8Decode?.map (fun characters => characters.toList.map Char.toNat)

/-- ASCII bytes of a text. -/
def encodeAscii (text : Text) : Option Bytes :=
  if ∀ character∈text,character<128 then some (text.map UInt8.ofNat) else none

/-- A code point is kept by the character made of it. -/
theorem toNat_ofNat {character : Nat} (h : character.isValidChar) :
    (Char.ofNat character).toNat=character := by
  rw [Char.ofNat,dif_pos h]
  rfl

/-- Decoding the UTF-8 bytes of a text gives the text back. -/
theorem decodeUtf8_encodeUtf8 {text : Text} {bytes : Bytes} (h : encodeUtf8 text=some bytes) :
    decodeUtf8 bytes=some text := by
  unfold encodeUtf8 at h
  split_ifs at h with hvalid
  rw [Option.some.injEq] at h
  have hbytes : bytes.toByteArray=(text.map Char.ofNat).utf8Encode := by
    rw [List.utf8Encode,List.flatMap_map,← h,utf8Bytes]
  have htext : (text.map Char.ofNat).map Char.toNat=text := by
    rw [List.map_map]
    refine (List.map_congr_left ?_).trans (List.map_id _)
    intro character hmem
    exact toNat_ofNat (hvalid character hmem)
  rw [decodeUtf8,hbytes,List.utf8Decode?_utf8Encode,Option.map_some,htext]

/-- Equal UTF-8 bytes come from equal texts. -/
theorem encodeUtf8_injective {first second : Text} {bytes : Bytes}
    (hfirst : encodeUtf8 first=some bytes) (hsecond : encodeUtf8 second=some bytes) :
    first=second := by
  have hdecode := decodeUtf8_encodeUtf8 hfirst
  rw [decodeUtf8_encodeUtf8 hsecond] at hdecode
  exact (Option.some.inj hdecode).symm

theorem utf8EncodeChar_ascii {character : Nat} (h : character<128) :
    String.utf8EncodeChar (Char.ofNat character)=[UInt8.ofNat character] := by
  have hvalid : character.isValidChar := .inl (by omega)
  unfold String.utf8EncodeChar
  simp only [Char.toNat_val,toNat_ofNat hvalid]
  rw [if_pos (by omega)]

/-- Only the null character is written with a null byte. -/
theorem zero_not_mem_utf8EncodeChar {character : Char} (h : 0 < character.toNat) :
    0∉String.utf8EncodeChar character := by
  have hne : ∀ value,0 < value → value<256 → (0 : UInt8)≠UInt8.ofNat value := by
    intro value hpos hlt heq
    have hnat := congrArg UInt8.toNat heq
    rw [UInt8.toNat_ofNat_of_lt' (by simpa using hlt),UInt8.toNat_zero] at hnat
    omega
  have hbound : character.toNat<0x110000 := by
    rcases character.valid with hlow | ⟨-,hhigh⟩
    · exact Nat.lt_trans hlow (by decide)
    · exact hhigh
  unfold String.utf8EncodeChar
  simp only [Char.toNat_val]
  split_ifs with hone htwo hthree
  · simp only [List.mem_singleton]
    exact hne _ h (by omega)
  · simp only [List.mem_cons,List.not_mem_nil,or_false,not_or]
    exact ⟨hne _ (by omega) (by omega),hne _ (by omega) (by omega)⟩
  · simp only [List.mem_cons,List.not_mem_nil,or_false,not_or]
    exact ⟨hne _ (by omega) (by omega),hne _ (by omega) (by omega),hne _ (by omega) (by omega)⟩
  · simp only [List.mem_cons,List.not_mem_nil,or_false,not_or]
    exact ⟨hne _ (by omega) (by omega),hne _ (by omega) (by omega),hne _ (by omega) (by omega),
      hne _ (by omega) (by omega)⟩

/-- A text without the null character has no null byte. -/
theorem zero_not_mem_encodeUtf8 {text : Text} {bytes : Bytes} (h : encodeUtf8 text=some bytes)
    (hpos : ∀ character∈text,0 < character) : 0∉bytes := by
  unfold encodeUtf8 at h
  split_ifs at h with hvalid
  rw [Option.some.injEq] at h
  rw [← h,utf8Bytes,List.mem_flatMap]
  rintro ⟨character,hmem,hzero⟩
  refine zero_not_mem_utf8EncodeChar ?_ hzero
  rw [toNat_ofNat (hvalid character hmem)]
  exact hpos character hmem

/-- Equal ASCII bytes come from equal texts. -/
theorem encodeAscii_injective {first second : Text} {bytes : Bytes}
    (hfirst : encodeAscii first=some bytes) (hsecond : encodeAscii second=some bytes) :
    first=second := by
  have hdecode : ∀ {text : Text},encodeAscii text=some bytes → bytes.map UInt8.toNat=text := by
    intro text h
    unfold encodeAscii at h
    split_ifs at h with hascii
    rw [Option.some.injEq] at h
    rw [← h,List.map_map]
    refine (List.map_congr_left ?_).trans (List.map_id _)
    intro character hmem
    have hlt := hascii character hmem
    exact UInt8.toNat_ofNat_of_lt' (by simp only [UInt8.size]; omega)
  exact (hdecode hfirst).symm.trans (hdecode hsecond)

/-- The last null byte separates two byte strings. -/
theorem append_zero_injective {first second tail rest : Bytes} (htail : 0∉tail) (hrest : 0∉rest)
    (h : first++0::tail=second++0::rest) : first=second ∧ tail=rest := by
  have hreverse := congrArg List.reverse h
  simp only [List.reverse_append,List.reverse_cons,List.append_assoc,List.singleton_append]
    at hreverse
  have htake : ∀ {piece body : Bytes},0∉piece →
      (piece.reverse++0::body).takeWhile (fun byte => byte≠0)=piece.reverse := by
    intro piece body hpiece
    rw [List.takeWhile_append_of_pos,List.takeWhile_cons_of_neg,List.append_nil]
    · simp only [ne_eq,not_true_eq_false,decide_false,Bool.false_eq_true,not_false_eq_true]
    · intro byte hmem
      rw [decide_eq_true_eq]
      rintro rfl
      exact hpiece (List.mem_reverse.mp hmem)
  have heq := congrArg (List.takeWhile (fun byte => decide (byte≠0))) hreverse
  rw [htake htail,htake hrest,List.reverse_inj] at heq
  subst heq
  exact ⟨List.append_cancel_right h,rfl⟩

end ControlGraph.Utf8Text
