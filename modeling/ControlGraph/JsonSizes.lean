import ControlGraph.CanonicalCodec
import ControlGraph.JsonTranslation

/-!
# Sizes of canonical texts

The number of bytes of a JSON text is computed from the value: a character takes
its UTF-8 bytes or those of its escape, and every item or field adds a separator.
The order of the fields does not matter. A restricted value is encoded exactly
when this number is within the bound of a contract.
-/

namespace ControlGraph.JsonSizes

open CanonicalCodec JsonTranslation JsonText JsonValues Utf8Text

/-- Number of UTF-8 bytes of a text. -/
def byteLength (text : Text) : Nat := (utf8Bytes text).length

/-- Bytes of a character inside a JSON string. -/
def characterBytes (character : Nat) : Nat :=
  if character∈[34,92,10,13,9,12,8] then 2
  else if character < 32 then 6
  else (Char.ofNat character).utf8Size

def quotedBytes (text : Text) : Nat := 2+(text.map characterBytes).sum

mutual

/-- Bytes of the text of a value. -/
def jsonBytes : Json → Nat
  | .null => 4
  | .bool value => if value then 4 else 5
  | .int value => (decimalInt value).length
  | .str text => quotedBytes text
  | .arr items => 1+max 1 (itemsBytes items)
  | .obj fields => 1+max 1 (fieldsBytes fields)

/-- Bytes of the texts of the items, each with a separator. -/
def itemsBytes : List Json → Nat
  | [] => 0
  | item::items => jsonBytes item+1+itemsBytes items

/-- Bytes of the texts of the fields, each with a separator. -/
def fieldsBytes : List (Text×Json) → Nat
  | [] => 0
  | (key,value)::fields => quotedBytes key+1+jsonBytes value+1+fieldsBytes fields

end

section

@[simp] theorem byteLength_nil : byteLength []=0 := rfl

/-- The bytes of joined texts add up. -/
@[simp] theorem byteLength_append (first second : Text) :
    byteLength (first++second)=byteLength first+byteLength second := by
  rw [byteLength,utf8Bytes,List.flatMap_append,List.length_append]
  rfl

/-- The bytes of the first character and of the rest add up. -/
theorem byteLength_cons (character : Nat) (text : Text) :
    byteLength (character::text)=(Char.ofNat character).utf8Size+byteLength text := by
  rw [byteLength,utf8Bytes,List.flatMap_cons,List.length_append,String.length_utf8EncodeChar]
  rfl

theorem utf8Size_ascii {character : Nat} (h : character < 128) :
    (Char.ofNat character).utf8Size=1 := by
  have hvalid : character.isValidChar := .inl (Nat.lt_trans h (by decide))
  have hcode := toNat_ofNat hvalid
  rw [Char.utf8Size_eq_one_iff,UInt32.le_iff_toNat_le]
  change (Char.ofNat character).toNat ≤ 127
  omega

theorem byteLength_ascii {text : Text} (h : ∀ character∈text,character < 128) :
    byteLength text=text.length := by
  induction text with
  | nil => rfl
  | cons character text ih =>
    obtain ⟨hhead,htail⟩ := List.forall_mem_cons.mp h
    rw [byteLength_cons,utf8Size_ascii hhead,ih htail,List.length_cons]
    omega

theorem byteLength_escapeChar (character : Nat) :
    byteLength (escapeChar character)=characterBytes character := by
  have hcodes : code '"'=34 ∧ code '\\'=92 := by decide
  have hascii : ∀ written : Text,(∀ letter∈written,letter < 128) → byteLength written=written.length :=
    fun _ => byteLength_ascii
  unfold escapeChar characterBytes
  simp only [hcodes,List.mem_cons,List.not_mem_nil,or_false]
  by_cases hmark : character=34 ∨ character=92 ∨ character=10 ∨ character=13 ∨ character=9 ∨
      character=12 ∨ character=8
  · rw [if_pos hmark]
    rcases hmark with rfl | rfl | rfl | rfl | rfl | rfl | rfl <;> exact hascii _ (by decide)
  · have hplain := hmark
    simp only [not_or] at hplain
    obtain ⟨hquote,hslash,hline,hreturn,htab,hfeed,hback⟩ := hplain
    rw [if_neg hquote,if_neg hslash,if_neg hline,if_neg hreturn,if_neg htab,if_neg hfeed,
      if_neg hback,if_neg hmark]
    by_cases hcontrol : character < 32
    · have hdigit : ∀ value < 16,hexDigit value < 128 := by decide
      have hhigh := hdigit (character/16) (by omega)
      have hlow := hdigit (character%16) (by omega)
      rw [if_pos hcontrol,if_pos hcontrol]
      apply hascii
      simp only [List.forall_mem_cons]
      exact ⟨by decide,by decide,by decide,by decide,hhigh,hlow,fun _ h => nomatch h⟩
    · rw [if_neg hcontrol,if_neg hcontrol,byteLength_cons,byteLength_nil,Nat.add_zero]

theorem byteLength_quote (text : Text) : byteLength (quote text)=quotedBytes text := by
  have hbody : byteLength (text.flatMap escapeChar)=(text.map characterBytes).sum := by
    induction text with
    | nil => rfl
    | cons character text ih =>
      rw [List.flatMap_cons,byteLength_append,byteLength_escapeChar,ih,List.map_cons,List.sum_cons]
  have hmark : (Char.ofNat (code '"')).utf8Size=1 := utf8Size_ascii (by decide)
  rw [quote,byteLength_cons,byteLength_append,hbody,byteLength_cons,byteLength_nil,hmark,quotedBytes]
  omega

/-- Joined texts take their bytes and one more for each separator. -/
theorem byteLength_intercalate (texts : List Text) :
    byteLength ([code ','].intercalate texts)+1=
      max 1 (texts.map (fun text => byteLength text+1)).sum := by
  have hcomma : byteLength [code ',']=1 := byteLength_ascii (by decide)
  induction texts with
  | nil => rfl
  | cons text texts ih =>
    cases texts with
    | nil =>
      rw [List.intercalate_singleton,List.map_singleton,List.sum_singleton]
      omega
    | cons next texts =>
      rw [List.intercalate_cons_cons,byteLength_append,byteLength_append,hcomma,List.map_cons,
        List.sum_cons]
      have hrest : 1 ≤ ((next::texts).map (fun text => byteLength text+1)).sum := by
        rw [List.map_cons,List.sum_cons]
        omega
      omega

/-- The text of a value takes the bytes that are counted for it. -/
theorem byteLength_dumps (value : Json) : byteLength (dumps value)=jsonBytes value := by
  have hclosed : ∀ {first last : Nat} {texts : List Text} {size : Nat},first < 128 → last < 128 →
      (texts.map (fun text => byteLength text+1)).sum=size →
        byteLength (first::([code ','].intercalate texts++[last]))=1+max 1 size := by
    intro first last texts size hfirst hlast hsize
    have hjoined := byteLength_intercalate texts
    rw [byteLength_cons,byteLength_append,byteLength_cons,byteLength_nil,utf8Size_ascii hfirst,
      utf8Size_ascii hlast]
    omega
  induction value using json_induction with
  | null => rw [dumps,jsonBytes]; exact byteLength_ascii (by decide)
  | bool value => cases value <;> rw [dumps,jsonBytes] <;> exact byteLength_ascii (by decide)
  | int value =>
    rw [dumps,jsonBytes]
    exact byteLength_ascii
      (forall_mem_decimalInt (fun character _ hlt => Nat.lt_trans hlt (by decide)) value)
  | str text => rw [dumps,jsonBytes,byteLength_quote]
  | arr items ih =>
    have hitems : ∀ list : List Json,(∀ item∈list,byteLength (dumps item)=jsonBytes item) →
        ((dumpsItems list).map (fun text => byteLength text+1)).sum=itemsBytes list := by
      intro list hlist
      induction list with
      | nil => rw [dumpsItems,itemsBytes,List.map_nil,List.sum_nil]
      | cons item list ihlist =>
        obtain ⟨hhead,htail⟩ := List.forall_mem_cons.mp hlist
        rw [dumpsItems,itemsBytes,List.map_cons,List.sum_cons,hhead,ihlist htail]
    rw [dumps,jsonBytes]
    exact hclosed (by decide) (by decide) (hitems items ih)
  | obj fields ih =>
    have hfields : ∀ list : List (Text×Json),(∀ field∈list,
        byteLength (dumps field.2)=jsonBytes field.2) →
        ((dumpsFields list).map (fun text => byteLength text+1)).sum=fieldsBytes list := by
      intro list hlist
      induction list with
      | nil => rw [dumpsFields,fieldsBytes,List.map_nil,List.sum_nil]
      | cons field list ihlist =>
        obtain ⟨hhead,htail⟩ := List.forall_mem_cons.mp hlist
        have hcolon : (Char.ofNat (code ':')).utf8Size=1 := utf8Size_ascii (by decide)
        rw [dumpsFields,fieldsBytes,List.map_cons,List.sum_cons,byteLength_append,byteLength_quote,
          byteLength_cons,hcolon,hhead,ihlist htail]
        omega
    rw [dumps,jsonBytes]
    exact hclosed (by decide) (by decide) (hfields fields ih)

theorem fieldsBytes_eq_sum (fields : List (Text×Json)) : fieldsBytes fields=
    (fields.map (fun field => quotedBytes field.1+1+jsonBytes field.2+1)).sum := by
  induction fields with
  | nil => rw [fieldsBytes,List.map_nil,List.sum_nil]
  | cons field fields ih => rw [fieldsBytes,List.map_cons,List.sum_cons,ih]

theorem itemsBytes_eq_sum (items : List Json) :
    itemsBytes items=(items.map (fun item => jsonBytes item+1)).sum := by
  induction items with
  | nil => rw [itemsBytes,List.map_nil,List.sum_nil]
  | cons item items ih => rw [itemsBytes,List.map_cons,List.sum_cons,ih]

/-- Putting the keys in order keeps the number of bytes. -/
theorem jsonBytes_sortKeys (value : Json) : jsonBytes value.sortKeys=jsonBytes value := by
  induction value using json_induction with
  | null => rw [Json.sortKeys]
  | bool value => rw [Json.sortKeys]
  | int value => rw [Json.sortKeys]
  | str text => rw [Json.sortKeys]
  | arr items ih =>
    rw [Json.sortKeys,jsonBytes,jsonBytes,itemsBytes_eq_sum,itemsBytes_eq_sum,
      Json.sortItems_eq_map,List.map_map]
    have hsame : items.map ((fun item => jsonBytes item+1) ∘ Json.sortKeys)=
        items.map (fun item => jsonBytes item+1) :=
      List.map_congr_left (fun item hitem => by rw [Function.comp_apply,ih item hitem])
    rw [hsame]
  | obj fields ih =>
    have hperm := (List.perm_insertionSort Json.keyLe (Json.sortFields fields)).map
      (fun field => quotedBytes field.1+1+jsonBytes field.2+1)
    have hsame : (Json.sortFields fields).map
        (fun field => quotedBytes field.1+1+jsonBytes field.2+1)=
          fields.map (fun field => quotedBytes field.1+1+jsonBytes field.2+1) := by
      rw [Json.sortFields_eq_map,List.map_map]
      exact List.map_congr_left (fun field hfield => by rw [Function.comp_apply,ih field hfield])
    rw [Json.sortKeys,jsonBytes,jsonBytes,fieldsBytes_eq_sum,fieldsBytes_eq_sum,hperm.sum_eq,hsame]

/-- The canonical text of a value takes the bytes that are counted for the value. -/
theorem byteLength_dumpsSorted (value : Json) : byteLength (dumpsSorted value)=jsonBytes value := by
  rw [dumpsSorted,byteLength_dumps,jsonBytes_sortKeys]

/-- A text without characters to escape takes its length and two quotes. -/
theorem quotedBytes_plain {text : Text}
    (h : ∀ character∈text,32 ≤ character ∧ character < 127 ∧ character≠34 ∧ character≠92) :
    quotedBytes text=2+text.length := by
  have hone : ∀ character∈text,characterBytes character=1 := by
    intro character hmem
    obtain ⟨hlow,hhigh,hquote,hslash⟩ := h character hmem
    have hmark : character∉[34,92,10,13,9,12,8] := by
      simp only [List.mem_cons,List.not_mem_nil,or_false]
      omega
    rw [characterBytes,if_neg hmark,if_neg (by omega),utf8Size_ascii (by omega)]
  rw [quotedBytes,List.map_congr_left hone,List.map_const',List.sum_replicate_nat,Nat.mul_one]

/-- A record takes the bytes of its names, of its values and of their separators. -/
theorem jsonBytes_record {fields : List (Text×Json)} (hfields : fields≠[]) :
    jsonBytes (.obj fields)=1+(fields.map (fun field => quotedBytes field.1+2)).sum+
      (fields.map (fun field => jsonBytes field.2)).sum := by
  have hsum : (fields.map (fun field => quotedBytes field.1+1+jsonBytes field.2+1)).sum=
      (fields.map (fun field => quotedBytes field.1+2)).sum+
        (fields.map (fun field => jsonBytes field.2)).sum := by
    rw [←List.sum_map_add]
    exact congrArg List.sum (List.map_congr_left (fun field _ => by omega))
  have hpositive : 1 ≤ (fields.map (fun field => quotedBytes field.1+2)).sum := by
    obtain ⟨field,rest,rfl⟩ := List.exists_cons_of_ne_nil hfields
    rw [List.map_cons,List.sum_cons]
    omega
  rw [jsonBytes,fieldsBytes_eq_sum,hsum]
  omega

/-- A dictionary value is encoded exactly when it is restricted and its text is not too long. -/
theorem encodable_iff {nfc : Text → Text} {value : Json} (hunique : value.UniqueKeys) :
    (∃ encoded,canonicalJsonValueBytes nfc value=.ok encoded) ↔
      validateRestricted nfc 0 value=.ok () ∧ jsonBytes value ≤ maxContractBytes := by
  have hlength : ∀ {encoded},encodeUtf8 (dumpsSorted value)=some encoded →
      encoded.length=jsonBytes value := by
    intro encoded hencoded
    unfold encodeUtf8 at hencoded
    split_ifs at hencoded
    rw [←Option.some.inj hencoded]
    exact byteLength_dumpsSorted value
  constructor
  · rintro ⟨encoded,hbytes⟩
    obtain ⟨hrestricted,hencoded,-,hsize⟩ := canonicalJsonValueBytes_eq_ok.mp hbytes
    rw [hlength hencoded] at hsize
    exact ⟨hrestricted,hsize⟩
  · rintro ⟨hrestricted,hsize⟩
    obtain ⟨encoded,hencoded,hfits⟩ := canonicalJsonValueBytes_of_restricted hunique hrestricted
    rw [←hlength hencoded] at hsize
    exact ⟨encoded,hfits hsize⟩

end

end ControlGraph.JsonSizes
