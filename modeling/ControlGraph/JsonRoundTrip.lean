import ControlGraph.JsonText

/-!
# Decoding an encoded value

Each token of the encoder is read back by its scanner, and the text after it
is left over. From this the reader of values gives an encoded value back, by
induction on the value; the fuel it needs is the length of the text. An
encoded text starts with a visible character and contains no control.
-/

namespace ControlGraph.JsonText

open JsonValues

/-- What may follow a value inside its container. -/
def Delimited (text : Text) : Prop :=
  ∀ character∈text.head?,character=code ',' ∨ character=code ']' ∨ character=code '}'

/-- Nothing may follow a value. -/
theorem delimited_nil : Delimited [] := by
  intro character h
  cases h

/-- A separator may follow a value. -/
theorem delimited_cons {character : Nat} {text : Text}
    (h : character=code ',' ∨ character=code ']' ∨ character=code '}') :
    Delimited (character::text) := by
  intro other hother
  rw [List.head?_cons,Option.mem_some_iff] at hother
  rwa [← hother]

theorem hexDigitValue_hexDigit {value : Nat} (h : value<16) :
    hexDigitValue (hexDigit value)=some value := by
  revert value
  decide

theorem scanHexEscape_control {character : Nat} (h : character<32) (rest : Text) :
    scanHexEscape (code '0'::code '0'::hexDigit (character/16)::hexDigit (character%16)::rest)=
      some (character,rest) := by
  have hzero : hexDigitValue (code '0')=some 0 := by decide
  have hhigh := hexDigitValue_hexDigit (show character/16<16 by omega)
  have hlow := hexDigitValue_hexDigit (show character%16<16 by omega)
  have hunit : ((0*16+0)*16+character/16)*16+character%16=character := by omega
  have hplain : ¬isHighSurrogate character := by
    unfold isHighSurrogate
    omega
  unfold scanHexEscape scanCodeUnit
  simp only [hzero,hhigh,hlow,hunit,hplain,Option.bind_eq_bind,Option.bind_some,false_and,
    if_false,pure]
  cases rest with
  | nil => rfl
  | cons first rest =>
    cases rest with
    | nil => rfl
    | cons second rest => rfl

theorem scanString_shortEscape {letter character fuel : Nat} {text values rest : Text}
    (hletter : letter≠code 'u' ∧ letter≠code '/')
    (hlookup : shortEscapes.lookup letter=some character)
    (h : scanString fuel text=some (values,rest)) :
    scanString (fuel+1) (code '\\'::letter::text)=some (character::values,rest) := by
  have hquote : ¬code '\\'=code '"' := by decide
  have hescape : scanEscape (letter::text)=some (character,text) := by
    rw [scanEscape,if_neg hletter.1,if_neg hletter.2,hlookup,Option.map_some]
  rw [scanString,if_neg hquote,if_pos rfl,hescape]
  simp only [Option.bind_eq_bind,Option.bind_some,h,pure]

/-- Every character of a string is read back from its written form. -/
theorem scanString_escapeChar {fuel character : Nat} {text values rest : Text}
    (h : scanString fuel text=some (values,rest)) :
    scanString (fuel+1) (escapeChar character++text)=some (character::values,rest) := by
  unfold escapeChar
  split_ifs with hquote hslash hn hr ht hf hb hcontrol
  · exact scanString_shortEscape (by decide) (by rw [hquote]; rfl) h
  · exact scanString_shortEscape (by decide) (by rw [hslash]; rfl) h
  · exact scanString_shortEscape (by decide) (by rw [hn]; rfl) h
  · exact scanString_shortEscape (by decide) (by rw [hr]; rfl) h
  · exact scanString_shortEscape (by decide) (by rw [ht]; rfl) h
  · exact scanString_shortEscape (by decide) (by rw [hf]; rfl) h
  · exact scanString_shortEscape (by decide) (by rw [hb]; rfl) h
  · have hescape : ¬code '\\'=code '"' := by decide
    simp only [List.cons_append,List.nil_append]
    rw [scanString,if_neg hescape,if_pos rfl,scanEscape,if_pos rfl,scanHexEscape_control hcontrol]
    simp only [Option.bind_eq_bind,Option.bind_some,h,pure]
  · rw [List.singleton_append,scanString,if_neg hquote,if_neg hslash,if_neg hcontrol]
    simp only [Option.bind_eq_bind,Option.bind_some,h,pure]

/-- The written form of a character is not empty. -/
theorem escapeChar_length_pos (character : Nat) : 0<(escapeChar character).length := by
  unfold escapeChar
  split_ifs <;> simp only [List.length_cons] <;> omega

/-- The body of a quoted string is read back up to its closing quote. -/
theorem scanString_body (text rest : Text) (fuel : Nat)
    (hfuel : (text.flatMap escapeChar).length < fuel) :
    scanString fuel (text.flatMap escapeChar++code '"'::rest)=some (text,rest) := by
  induction text generalizing fuel with
  | nil =>
    obtain ⟨fuel,rfl⟩ : ∃ smaller,fuel=smaller+1 := ⟨fuel-1,by omega⟩
    rw [List.flatMap_nil,List.nil_append,scanString,if_pos rfl]
  | cons character text ih =>
    have hpos := escapeChar_length_pos character
    rw [List.flatMap_cons,List.length_append] at hfuel
    obtain ⟨fuel,rfl⟩ : ∃ smaller,fuel=smaller+1 := ⟨fuel-1,by omega⟩
    rw [List.flatMap_cons,List.append_assoc]
    exact scanString_escapeChar (ih fuel (by omega))

theorem decimalValue_decimal (value : Nat) : decimalValue (decimal value)=value := by
  unfold decimal
  split_ifs with hzero
  · rw [hzero]
    rfl
  · rw [decimalValue,List.foldl_map,List.foldl_reverse]
    have hvalue := Nat.ofDigits_digits 10 value
    rw [Nat.ofDigits_eq_foldr] at hvalue
    refine Eq.trans ?_ hvalue
    congr 1
    funext digit total
    simp only [Nat.cast_id]
    omega

/-- Decimal text has a first digit, which is zero only if it is alone. -/
theorem decimal_cons (value : Nat) : ∃ first rest,decimal value=first::rest ∧
    (∀ digit∈first::rest,isDigit digit=true) ∧ (first=code '0' → rest=[]) := by
  unfold decimal
  split_ifs with hzero
  · exact ⟨code '0',[],rfl,by decide,fun _ => rfl⟩
  · have hne : Nat.digits 10 value≠[] := Nat.digits_ne_nil_iff_ne_zero.mpr hzero
    have hdigits : ∀ digit∈(Nat.digits 10 value).reverse.map (fun digit => code '0'+digit),
        isDigit digit=true := by
      intro digit hdigit
      obtain ⟨source,hsource,rfl⟩ := List.mem_map.mp hdigit
      have hlt := Nat.digits_lt_base (by omega) (List.mem_reverse.mp hsource)
      have hcode : code '0'=48 ∧ code '9'=57 := by decide
      simp only [isDigit,Bool.and_eq_true,decide_eq_true_eq]
      omega
    have hlast := Nat.getLast_digit_ne_zero 10 hzero
    obtain ⟨digits,last,hsplit⟩ := (List.eq_nil_or_concat' (Nat.digits 10 value)).resolve_left hne
    rw [hsplit,List.reverse_append,List.reverse_singleton,List.singleton_append,
      List.map_cons] at hdigits ⊢
    refine ⟨_,_,rfl,hdigits,?_⟩
    intro hfirst
    simp only [hsplit,List.getLast_append_singleton] at hlast
    omega

theorem delimited_not_digit {text : Text} (h : Delimited text) :
    ∀ character∈text.head?,isDigit character=false := by
  intro character hcharacter
  rcases h character hcharacter with rfl | rfl | rfl <;> rfl

/-- Digits end where a separator follows. -/
theorem span_digits {digits rest : Text} (hdigits : ∀ digit∈digits,isDigit digit=true)
    (hrest : Delimited rest) :
    (digits++rest).takeWhile isDigit=digits ∧ (digits++rest).dropWhile isDigit=rest := by
  rw [List.takeWhile_append_of_pos hdigits,List.dropWhile_append_of_pos hdigits]
  cases rest with
  | nil => simp only [List.takeWhile_nil,List.append_nil,List.dropWhile_nil,and_self]
  | cons character rest =>
    have hstop : ¬isDigit character=true := by
      rw [delimited_not_digit hrest character rfl]
      exact Bool.false_ne_true
    rw [List.takeWhile_cons_of_neg hstop,List.dropWhile_cons_of_neg hstop,List.append_nil]
    exact ⟨rfl,rfl⟩

theorem scanDigits_decimal (value : Nat) {rest : Text} (hrest : Delimited rest) :
    scanDigits (decimal value++rest)=some (decimal value,rest) := by
  obtain ⟨first,digits,hdecimal,hdigits,hzero⟩ := decimal_cons value
  rw [hdecimal,List.cons_append,scanDigits]
  by_cases hfirst : first=code '0'
  · rw [if_pos hfirst,hzero hfirst,List.nil_append]
  · have hspan := span_digits (fun digit hdigit => hdigits digit (List.mem_cons_of_mem _ hdigit)) hrest
    rw [if_neg hfirst,if_pos (hdigits first List.mem_cons_self),hspan.1,hspan.2]

/-- A separator starts neither a fraction nor an exponent. -/
theorem scanFraction_delimited {text : Text} (h : Delimited text) :
    scanFraction text=([],text) ∧ scanExponent text=([],text) := by
  cases text with
  | nil => exact ⟨rfl,rfl⟩
  | cons character text =>
    have hplain : character≠code '.' ∧ character≠code 'e' ∧ character≠code 'E' := by
      rcases h character rfl with rfl | rfl | rfl <;> decide
    constructor
    · rw [scanFraction]
      exact if_neg (fun hpoint => hplain.1 hpoint.1)
    · rw [scanExponent]
      refine if_neg (fun hexponent => ?_)
      rcases hexponent.1 with hlower | hupper
      · exact hplain.2.1 hlower
      · exact hplain.2.2 hupper

/-- An integer is read back from its decimal text. -/
theorem scanNumber_decimalInt (hooks : Hooks) (value : Int) {rest : Text} (hrest : Delimited rest) :
    scanNumber hooks (decimalInt value++rest)=some (.int value,rest) := by
  have hend := scanFraction_delimited hrest
  have hvalue := decimalValue_decimal value.natAbs
  by_cases hnegative : value<0
  · have hsign : (decimalInt value++rest).head?=some (code '-') := by
      rw [decimalInt,if_pos hnegative]
      rfl
    have hbody : (decimalInt value++rest).tail=decimal value.natAbs++rest := by
      rw [decimalInt,if_pos hnegative]
      rfl
    have habs : -(value.natAbs : Int)=value := by omega
    simp only [scanNumber,hsign,hbody,if_true,scanDigits_decimal _ hrest,hend,hvalue,
      Option.bind_eq_bind,Option.bind_some,and_self,habs,pure]
  · have hbody : decimalInt value++rest=decimal value.natAbs++rest := by
      rw [decimalInt,if_neg hnegative]
    have hsign : ¬(decimal value.natAbs++rest).head?=some (code '-') := by
      obtain ⟨first,digits,hdecimal,hdigits,-⟩ := decimal_cons value.natAbs
      have hfirst := hdigits first List.mem_cons_self
      rw [hdecimal,List.cons_append,List.head?_cons,Option.some.injEq]
      rintro rfl
      exact absurd hfirst (by decide)
    have habs : (value.natAbs : Int)=value := by omega
    simp only [scanNumber,hbody,hsign,if_false,scanDigits_decimal _ hrest,hend,hvalue,
      Option.bind_eq_bind,Option.bind_some,and_self,if_true,habs,pure]

/-- A token does not start a text that starts with another character. -/
theorem isPrefixOf?_cons_ne {first character : Nat} {token text : Text} (h : first≠character) :
    (first::token).isPrefixOf? (character::text)=none := by
  rw [List.isPrefixOf?,if_neg]
  rw [beq_iff_eq]
  exact h

/-- No literal and no named constant starts with the given text. -/
def NoToken (text : Text) : Prop :=
  ∀ token∈[chars "null",chars "true",chars "false",chars "NaN",chars "Infinity",
    chars "-Infinity"],token.isPrefixOf? text=none

theorem scanAtom_number {text : Text} (hooks : Hooks) (h : NoToken text) :
    scanAtom hooks text=scanNumber hooks text := by
  simp only [NoToken,List.forall_mem_cons] at h
  obtain ⟨hnull,htrue,hfalse,hnan,hinfinity,hminus,-⟩ := h
  simp only [scanAtom,hnull,htrue,hfalse,List.findSome?_cons,hnan,hinfinity,hminus,
    Option.map_none,List.findSome?_nil]

/-- No token starts with a digit, nor with a sign before a digit. -/
theorem noToken_decimalInt (value : Int) (rest : Text) : NoToken (decimalInt value++rest) := by
  obtain ⟨first,digits,hdecimal,hdigits,-⟩ := decimal_cons value.natAbs
  have hfirst := hdigits first List.mem_cons_self
  have hne : ∀ letter,isDigit letter=false → letter≠first := by
    rintro letter hletter rfl
    rw [hfirst] at hletter
    cases hletter
  simp only [NoToken,List.forall_mem_cons]
  by_cases hnegative : value<0
  · rw [decimalInt,if_pos hnegative,hdecimal]
    refine ⟨rfl,rfl,rfl,rfl,rfl,?_,fun _ h => absurd h List.not_mem_nil⟩
    exact @isPrefixOf?_cons_ne _ first (chars "nfinity") _ (hne (code 'I') rfl)
  · rw [decimalInt,if_neg hnegative,hdecimal]
    refine ⟨?_,?_,?_,?_,?_,?_,fun _ h => absurd h List.not_mem_nil⟩
    · exact isPrefixOf?_cons_ne (hne (code 'n') rfl)
    · exact isPrefixOf?_cons_ne (hne (code 't') rfl)
    · exact isPrefixOf?_cons_ne (hne (code 'f') rfl)
    · exact isPrefixOf?_cons_ne (hne (code 'N') rfl)
    · exact isPrefixOf?_cons_ne (hne (code 'I') rfl)
    · exact isPrefixOf?_cons_ne (hne (code '-') rfl)

/-- Decimal text starts with a digit or a sign. -/
theorem decimalInt_cons (value : Int) : ∃ character rest,decimalInt value=character::rest ∧
    (isDigit character=true ∨ character=code '-') := by
  obtain ⟨first,digits,hdecimal,hdigits,-⟩ := decimal_cons value.natAbs
  rw [decimalInt,hdecimal]
  by_cases hnegative : value<0
  · rw [if_pos hnegative]
    exact ⟨code '-',_,rfl,.inr rfl⟩
  · rw [if_neg hnegative]
    exact ⟨first,digits,rfl,.inl (hdigits first List.mem_cons_self)⟩

/-- Characters that may start a value. -/
def startsValue (character : Nat) : Bool :=
  isDigit character || (chars "ntf-\"[\x7b").contains character

/-- An encoded value starts with a character of a value. -/
theorem dumps_cons (value : Json) : ∃ character rest,dumps value=character::rest ∧
    startsValue character=true := by
  cases value with
  | null => exact ⟨code 'n',chars "ull",by rw [dumps]; rfl,rfl⟩
  | bool value =>
    cases value with
    | false => exact ⟨code 'f',chars "alse",by rw [dumps]; rfl,rfl⟩
    | true => exact ⟨code 't',chars "rue",by rw [dumps]; rfl,rfl⟩
  | int value =>
    obtain ⟨character,rest,hdecimal,hstart⟩ := decimalInt_cons value
    refine ⟨character,rest,by rw [dumps,hdecimal],?_⟩
    rcases hstart with hdigit | rfl
    · rw [startsValue,hdigit,Bool.true_or]
    · rfl
  | str text => exact ⟨code '"',_,by rw [dumps,quote],rfl⟩
  | arr items => exact ⟨code '[',_,by rw [dumps],rfl⟩
  | obj fields => exact ⟨code '{',_,by rw [dumps],rfl⟩

theorem startsValue_visible {character : Nat} (h : startsValue character=true) :
    isSpace character=false ∧ character≠code ']' ∧ character≠code '}' := by
  refine ⟨?_,?_,?_⟩
  · by_contra hspace
    rw [Bool.not_eq_false,isSpace,List.contains_iff_mem] at hspace
    simp only [List.mem_cons,List.not_mem_nil,or_false] at hspace
    rcases hspace with rfl | rfl | rfl | rfl <;> exact absurd h (by decide)
  · rintro rfl
    exact absurd h (by decide)
  · rintro rfl
    exact absurd h (by decide)

/-- No space is skipped before a visible character. -/
theorem skipSpace_cons {character : Nat} {text : Text} (h : isSpace character=false) :
    skipSpace (character::text)=character::text := by
  rw [skipSpace,List.dropWhile_cons_of_neg]
  rw [h]
  exact Bool.false_ne_true

/-- No space is skipped before an encoded value. -/
theorem skipSpace_dumps (value : Json) (text : Text) :
    skipSpace (dumps value++text)=dumps value++text := by
  obtain ⟨character,rest,hdumps,hstart⟩ := dumps_cons value
  rw [hdumps,List.cons_append]
  exact skipSpace_cons (startsValue_visible hstart).1

/-- A value is read back from its text, whatever separator follows. -/
def ReadBack (hooks : Hooks) (value : Json) : Prop :=
  ∀ (fuel : Nat) (rest : Text),(dumps value).length ≤ fuel → Delimited rest →
    scanValue hooks fuel (dumps value++rest)=some (value,rest)

/-- Texts joined by commas, one text at a time. -/
theorem intercalate_cons (text : Text) (texts : List Text) :
    [code ','].intercalate (text::texts)=
      text++(if texts=[] then [] else code ','::[code ','].intercalate texts) := by
  cases texts with
  | nil => simp only [List.intercalate_singleton,if_true,List.append_nil]
  | cons next texts =>
    rw [List.intercalate_cons_cons,if_neg (List.cons_ne_nil _ _),List.append_assoc]
    rfl

/-- The items of an array are read back up to the closing bracket. -/
theorem scanItems_dumps (hooks : Hooks) (items : List Json) {fuel : Nat} (rest : Text)
    (hitems : ∀ item∈items,ReadBack hooks item) (hne : items≠[])
    (hfuel : ([code ','].intercalate (dumpsItems items)).length+1 ≤ fuel) :
    scanItems hooks fuel ([code ','].intercalate (dumpsItems items)++code ']'::rest)=
      some (items,rest) := by
  induction items generalizing fuel with
  | nil => exact absurd rfl hne
  | cons item items ih =>
    obtain ⟨fuel,rfl⟩ : ∃ smaller,fuel=smaller+1 := ⟨fuel-1,by omega⟩
    have hitem := hitems item List.mem_cons_self
    rw [dumpsItems,intercalate_cons] at hfuel ⊢
    cases items with
    | nil =>
      simp only [dumpsItems,if_true,List.append_nil] at hfuel ⊢
      rw [scanItems,hitem fuel _ (by omega) (delimited_cons (.inr (.inl rfl)))]
      simp only [Option.bind_eq_bind,Option.bind_some]
      rw [skipSpace_cons rfl]
      rfl
    | cons next items =>
      have hnext : dumpsItems (next::items)≠[] := by
        rw [dumpsItems]
        exact List.cons_ne_nil _ _
      have hskip : skipSpace ([code ','].intercalate (dumpsItems (next::items))++code ']'::rest)=
          [code ','].intercalate (dumpsItems (next::items))++code ']'::rest := by
        rw [dumpsItems,intercalate_cons,List.append_assoc]
        exact skipSpace_dumps next _
      rw [if_neg hnext,List.length_append,List.length_cons] at hfuel
      rw [if_neg hnext,List.append_assoc,List.cons_append]
      have hrest := ih (fun other hother => hitems other (List.mem_cons_of_mem _ hother))
        (List.cons_ne_nil _ _) (show _ ≤ fuel by omega)
      rw [scanItems,hitem fuel _ (by omega) (delimited_cons (.inl rfl))]
      simp only [Option.bind_eq_bind,Option.bind_some]
      rw [skipSpace_cons rfl]
      simp only [if_neg (show ¬code ','=code ']' by decide),if_true,hskip,hrest,Option.bind_some]
      rfl

/-- The fields of an object are read back up to the closing brace. -/
theorem scanFields_dumps (hooks : Hooks) (fields : List (Text×Json)) {fuel : Nat} (rest : Text)
    (hfields : ∀ field∈fields,ReadBack hooks field.2) (hne : fields≠[])
    (hfuel : ([code ','].intercalate (dumpsFields fields)).length+1 ≤ fuel) :
    scanFields hooks fuel ([code ','].intercalate (dumpsFields fields)++code '}'::rest)=
      some (fields,rest) := by
  induction fields generalizing fuel with
  | nil => exact absurd rfl hne
  | cons field fields ih =>
    obtain ⟨key,value⟩ := field
    obtain ⟨fuel,rfl⟩ : ∃ smaller,fuel=smaller+1 := ⟨fuel-1,by omega⟩
    have hvalue : ReadBack hooks value := hfields (key,value) List.mem_cons_self
    rw [dumpsFields,intercalate_cons] at hfuel ⊢
    simp only [quote,List.length_append,List.length_cons,List.length_nil] at hfuel
    have hkey : ∀ tail,scanString fuel (key.flatMap escapeChar++code '"'::tail)=
        some (key,tail) := fun tail => scanString_body key tail fuel (by omega)
    have hcolon : ¬code ':'=code '"' := by decide
    cases fields with
    | nil =>
      simp only [dumpsFields,if_true,List.append_nil,quote,List.cons_append,List.append_assoc,
        List.nil_append] at hfuel ⊢
      rw [scanFields,if_pos rfl,hkey]
      simp only [Option.bind_eq_bind,Option.bind_some]
      rw [skipSpace_cons rfl]
      simp only [if_true]
      rw [skipSpace_dumps,hvalue fuel _ (by omega) (delimited_cons (.inr (.inr rfl)))]
      simp only [Option.bind_some]
      rw [skipSpace_cons rfl]
      rfl
    | cons next fields =>
      have hnext : dumpsFields (next::fields)≠[] := by
        rw [dumpsFields]
        exact List.cons_ne_nil _ _
      have hskip : skipSpace ([code ','].intercalate (dumpsFields (next::fields))++code '}'::rest)=
          [code ','].intercalate (dumpsFields (next::fields))++code '}'::rest := by
        rw [dumpsFields,intercalate_cons,quote]
        exact skipSpace_cons rfl
      rw [if_neg hnext,List.length_cons] at hfuel
      rw [if_neg hnext]
      simp only [quote,List.cons_append,List.append_assoc,List.nil_append]
      have hrest := ih (fun other hother => hfields other (List.mem_cons_of_mem _ hother))
        (List.cons_ne_nil _ _) (show _ ≤ fuel by omega)
      rw [scanFields,if_pos rfl,hkey]
      simp only [Option.bind_eq_bind,Option.bind_some]
      rw [skipSpace_cons rfl]
      simp only [if_true]
      rw [skipSpace_dumps,hvalue fuel _ (by omega) (delimited_cons (.inl rfl))]
      simp only [Option.bind_some]
      rw [skipSpace_cons rfl]
      simp only [if_neg (show ¬code ','=code '}' by decide),if_true,hskip,hrest,Option.bind_some]
      rfl

/-- An array with items is read from its first item on. -/
theorem scanValue_bracket {hooks : Hooks} {fuel : Nat} {text rest : Text} {items : List Json}
    (hopen : (skipSpace text).head?≠some (code ']'))
    (hitems : scanItems hooks fuel (skipSpace text)=some (items,rest)) :
    scanValue hooks (fuel+1) (code '['::text)=some (.arr items,rest) := by
  have hquote : ¬code '['=code '"' := by decide
  have hbrace : ¬code '['=code '{' := by decide
  rw [scanValue,if_neg hquote,if_neg hbrace,if_pos rfl,if_neg hopen,hitems]
  rfl

/-- An object with fields is read from its first key on. -/
theorem scanValue_brace {hooks : Hooks} {fuel : Nat} {text rest : Text}
    {fields : List (Text×Json)} {value : Json}
    (hopen : (skipSpace text).head?≠some (code '}'))
    (hfields : scanFields hooks fuel (skipSpace text)=some (fields,rest))
    (hpairs : hooks.objectPairs fields=some value) :
    scanValue hooks (fuel+1) (code '{'::text)=some (value,rest) := by
  have hquote : ¬code '{'=code '"' := by decide
  rw [scanValue,if_neg hquote,if_pos rfl,if_neg hopen,hfields]
  simp only [Option.bind_eq_bind,Option.bind_some,hpairs,pure]

theorem readBack_arr {hooks : Hooks} {items : List Json}
    (hitems : ∀ item∈items,ReadBack hooks item) : ReadBack hooks (.arr items) := by
  intro fuel rest hfuel _
  rw [dumps] at hfuel ⊢
  simp only [List.length_cons,List.length_append,List.length_nil,List.cons_append,
    List.append_assoc,List.nil_append] at hfuel ⊢
  obtain ⟨fuel,rfl⟩ : ∃ smaller,fuel=smaller+1 := ⟨fuel-1,by omega⟩
  cases items with
  | nil => rfl
  | cons item items =>
    obtain ⟨character,tail,hdumps,hstart⟩ := dumps_cons item
    have hvisible := startsValue_visible hstart
    have hread := scanItems_dumps hooks (item::items) rest hitems (List.cons_ne_nil _ _)
      (show _ ≤ fuel by omega)
    rw [dumpsItems,hdumps,intercalate_cons,List.cons_append,List.cons_append] at hread ⊢
    apply scanValue_bracket
    · rw [skipSpace_cons hvisible.1,List.head?_cons,ne_eq,Option.some.injEq]
      exact hvisible.2.1
    · rw [skipSpace_cons hvisible.1,hread]

/-- An object is read back when its field values are and the pair hook keeps its fields. -/
theorem readBack_obj {hooks : Hooks} {fields : List (Text×Json)}
    (hpairs : hooks.objectPairs fields=some (.obj fields))
    (hfields : ∀ field∈fields,ReadBack hooks field.2) : ReadBack hooks (.obj fields) := by
  intro fuel rest hfuel _
  rw [dumps] at hfuel ⊢
  simp only [List.length_cons,List.length_append,List.length_nil,List.cons_append,
    List.append_assoc,List.nil_append] at hfuel ⊢
  obtain ⟨fuel,rfl⟩ : ∃ smaller,fuel=smaller+1 := ⟨fuel-1,by omega⟩
  cases fields with
  | nil =>
    have hclose : (skipSpace (code '}'::rest)).head?=some (code '}') := rfl
    have hquote : ¬code '{'=code '"' := by decide
    rw [dumpsFields,List.intercalate_nil,List.nil_append,scanValue,if_neg hquote,if_pos rfl,
      if_pos hclose]
    simp only [Option.bind_eq_bind,Option.bind_some,hpairs,pure]
    rfl
  | cons field fields =>
    obtain ⟨key,value⟩ := field
    have hread := scanFields_dumps hooks ((key,value)::fields) rest hfields
      (List.cons_ne_nil _ _) (show _ ≤ fuel by omega)
    rw [dumpsFields,quote,List.cons_append,intercalate_cons,List.cons_append,
      List.cons_append] at hread ⊢
    apply scanValue_brace _ _ hpairs
    · rw [skipSpace_cons rfl,List.head?_cons]
      decide
    · rw [skipSpace_cons rfl,hread]

/-- A reader whose pair hook keeps unrepeated pairs reads every encoded dictionary back. -/
theorem readBack_dumps {hooks : Hooks} (hpairs : ∀ fields : List (Text×Json),
      (fields.map Prod.fst).Nodup → hooks.objectPairs fields=some (.obj fields))
    {value : Json} (hunique : value.UniqueKeys) : ReadBack hooks value := by
  induction hunique with
  | null =>
    intro fuel rest hfuel _
    cases fuel with
    | zero => cases hfuel
    | succ fuel => rfl
  | bool value =>
    intro fuel rest hfuel _
    cases fuel with
    | zero => cases value <;> cases hfuel
    | succ fuel => cases value <;> rfl
  | int value =>
    intro fuel rest hfuel hrest
    have hatom := scanAtom_number hooks (noToken_decimalInt value rest)
    rw [scanNumber_decimalInt hooks value hrest] at hatom
    obtain ⟨character,tail,hdecimal,hstart⟩ := decimalInt_cons value
    have hplain : character≠code '"' ∧ character≠code '{' ∧ character≠code '[' := by
      rcases hstart with hdigit | rfl
      · refine ⟨?_,?_,?_⟩ <;> rintro rfl <;> cases hdigit
      · decide
    rw [dumps,hdecimal,List.length_cons] at hfuel
    obtain ⟨fuel,rfl⟩ : ∃ smaller,fuel=smaller+1 := ⟨fuel-1,by omega⟩
    rw [dumps]
    rw [hdecimal,List.cons_append] at hatom ⊢
    rw [scanValue,if_neg hplain.1,if_neg hplain.2.1,if_neg hplain.2.2,hatom]
  | str text =>
    intro fuel rest hfuel _
    rw [dumps,quote,List.length_cons,List.length_append,List.length_singleton] at hfuel
    obtain ⟨fuel,rfl⟩ : ∃ smaller,fuel=smaller+1 := ⟨fuel-1,by omega⟩
    rw [dumps,quote,List.cons_append,List.append_assoc,List.singleton_append,scanValue,if_pos rfl,
      scanString_body text rest fuel (by omega)]
    rfl
  | arr _ ih => exact readBack_arr ih
  | obj hkeys _ ih => exact readBack_obj (hpairs _ hkeys) ih

/-- Decoding the text of a dictionary gives the dictionary back. -/
theorem loads_dumps {hooks : Hooks} (hpairs : ∀ fields : List (Text×Json),
      (fields.map Prod.fst).Nodup → hooks.objectPairs fields=some (.obj fields))
    {value : Json} (hunique : value.UniqueKeys) : loads hooks (dumps value)=some value := by
  have hread := readBack_dumps hpairs hunique ((dumps value).length+1) [] (by omega) delimited_nil
  have hskip := skipSpace_dumps value []
  rw [List.append_nil] at hread hskip
  have hmark : ¬(dumps value).head?=some 0xfeff := by
    obtain ⟨character,rest,hdumps,hstart⟩ := dumps_cons value
    rw [hdumps,List.head?_cons,Option.some.injEq]
    rintro rfl
    exact absurd hstart (by decide)
  rw [loads,if_neg hmark,hskip,hread]
  rfl

theorem dumps_injective {first second : Json} (hfirst : first.UniqueKeys)
    (hsecond : second.UniqueKeys) (h : dumps first=dumps second) : first=second := by
  have hpairs : ∀ fields : List (Text×Json),(fields.map Prod.fst).Nodup →
      (Hooks.mk (fun fields => some (.obj fields)) (fun _ => none) (fun _ => none)).objectPairs
        fields=some (.obj fields) := fun _ _ => rfl
  have hread := loads_dumps hpairs hfirst
  rw [h,loads_dumps hpairs hsecond] at hread
  exact (Option.some.inj hread).symm

/-- Two dictionaries with one key-ordered text are the same dictionary. -/
theorem dumpsSorted_injective {first second : Json} (hfirst : first.UniqueKeys)
    (hsecond : second.UniqueKeys) (h : dumpsSorted first=dumpsSorted second) :
    first.SameValue second :=
  dumps_injective hfirst.sortKeys hsecond.sortKeys h

/-- A number is an integer or a value of the float hook. -/
theorem scanNumber_uniqueKeys {hooks : Hooks}
    (hfloat : ∀ {text value},hooks.parseFloat text=some value → value.UniqueKeys)
    {text rest : Text} {value : Json} (h : scanNumber hooks text=some (value,rest)) :
    value.UniqueKeys := by
  simp only [scanNumber,Option.bind_eq_bind,Option.bind_eq_some_iff] at h
  obtain ⟨⟨digits,tail⟩,-,h⟩ := h
  by_cases hinteger : (scanFraction tail).1=[] ∧ (scanExponent (scanFraction tail).2).1=[]
  · simp only [if_pos hinteger] at h
    obtain ⟨rfl,-⟩ := Prod.mk.inj (Option.some.inj h)
    exact .int _
  · simp only [if_neg hinteger] at h
    obtain ⟨parsed,hparsed,h⟩ := Option.bind_eq_some_iff.mp h
    obtain ⟨rfl,-⟩ := Prod.mk.inj (Option.some.inj h)
    exact hfloat hparsed

/-- An atom repeats no key when no value of the hooks does. -/
theorem scanAtom_uniqueKeys {hooks : Hooks}
    (hfloat : ∀ {text value},hooks.parseFloat text=some value → value.UniqueKeys)
    (hconstant : ∀ {text value},hooks.parseConstant text=some value → value.UniqueKeys)
    {text rest : Text} {value : Json} (h : scanAtom hooks text=some (value,rest)) :
    value.UniqueKeys := by
  unfold scanAtom at h
  split at h
  · obtain ⟨rfl,-⟩ := Prod.mk.inj (Option.some.inj h)
    exact .null
  · obtain ⟨rfl,-⟩ := Prod.mk.inj (Option.some.inj h)
    exact .bool _
  · obtain ⟨rfl,-⟩ := Prod.mk.inj (Option.some.inj h)
    exact .bool _
  · split at h
    · obtain ⟨parsed,hparsed,heq⟩ := Option.map_eq_some_iff.mp h
      obtain ⟨rfl,-⟩ := Prod.mk.inj heq
      exact hconstant hparsed
    · exact scanNumber_uniqueKeys hfloat h

/-- Whatever a reader accepts repeats no key, when its hooks refuse repeated keys. -/
theorem scan_uniqueKeys {hooks : Hooks}
    (hpairs : ∀ {fields value},hooks.objectPairs fields=some value →
      (∀ field∈fields,field.2.UniqueKeys) → value.UniqueKeys)
    (hfloat : ∀ {text value},hooks.parseFloat text=some value → value.UniqueKeys)
    (hconstant : ∀ {text value},hooks.parseConstant text=some value → value.UniqueKeys)
    (fuel : Nat) :
    (∀ {text rest : Text} {value : Json},scanValue hooks fuel text=some (value,rest) →
      value.UniqueKeys) ∧
    (∀ {text rest : Text} {items : List Json},scanItems hooks fuel text=some (items,rest) →
      ∀ item∈items,item.UniqueKeys) ∧
    (∀ {text rest : Text} {fields : List (Text×Json)},scanFields hooks fuel text=some (fields,rest) →
      ∀ field∈fields,field.2.UniqueKeys) := by
  induction fuel with
  | zero =>
    refine ⟨?_,?_,?_⟩
    · intro text rest value h
      cases h
    · intro text rest items h
      cases h
    · intro text rest fields h
      cases h
  | succ fuel ih =>
    obtain ⟨hvalue,hitems,hfields⟩ := ih
    refine ⟨?_,?_,?_⟩
    · intro text rest value h
      cases text with
      | nil => cases h
      | cons character text =>
        rw [scanValue] at h
        simp only [Option.bind_eq_bind] at h
        split_ifs at h with hquote hbrace hclose hbracket hshut
        · obtain ⟨⟨string,tail⟩,-,h⟩ := Option.bind_eq_some_iff.mp h
          obtain ⟨rfl,-⟩ := Prod.mk.inj (Option.some.inj h)
          exact .str _
        · simp only [Option.bind_some] at h
          obtain ⟨object,hobject,h⟩ := Option.bind_eq_some_iff.mp h
          obtain ⟨rfl,-⟩ := Prod.mk.inj (Option.some.inj h)
          exact hpairs hobject (fun field hfield => absurd hfield List.not_mem_nil)
        · obtain ⟨⟨fields,tail⟩,hread,h⟩ := Option.bind_eq_some_iff.mp h
          obtain ⟨object,hobject,h⟩ := Option.bind_eq_some_iff.mp h
          obtain ⟨rfl,-⟩ := Prod.mk.inj (Option.some.inj h)
          exact hpairs hobject (hfields hread)
        · simp only [Option.bind_some] at h
          obtain ⟨rfl,-⟩ := Prod.mk.inj (Option.some.inj h)
          exact .arr (fun item hitem => absurd hitem List.not_mem_nil)
        · obtain ⟨⟨items,tail⟩,hread,h⟩ := Option.bind_eq_some_iff.mp h
          obtain ⟨rfl,-⟩ := Prod.mk.inj (Option.some.inj h)
          exact .arr (hitems hread)
        · exact scanAtom_uniqueKeys hfloat hconstant h
    · intro text rest items h
      rw [scanItems] at h
      simp only [Option.bind_eq_bind] at h
      obtain ⟨⟨item,tail⟩,hitem,h⟩ := Option.bind_eq_some_iff.mp h
      split at h
      · cases h
      · split_ifs at h with hclose hcomma
        · obtain ⟨rfl,-⟩ := Prod.mk.inj (Option.some.inj h)
          rw [List.forall_mem_singleton]
          exact hvalue hitem
        · obtain ⟨⟨others,tail⟩,hothers,h⟩ := Option.bind_eq_some_iff.mp h
          obtain ⟨rfl,-⟩ := Prod.mk.inj (Option.some.inj h)
          rw [List.forall_mem_cons]
          exact ⟨hvalue hitem,hitems hothers⟩
    · intro text rest fields h
      cases text with
      | nil => cases h
      | cons character text =>
        rw [scanFields] at h
        simp only [Option.bind_eq_bind] at h
        split_ifs at h with hquote
        obtain ⟨⟨key,tail⟩,-,h⟩ := Option.bind_eq_some_iff.mp h
        split at h
        · cases h
        · split_ifs at h with hcolon
          obtain ⟨⟨value,tail⟩,hread,h⟩ := Option.bind_eq_some_iff.mp h
          split at h
          · cases h
          · split_ifs at h with hclose hcomma
            · obtain ⟨rfl,-⟩ := Prod.mk.inj (Option.some.inj h)
              rw [List.forall_mem_singleton]
              exact hvalue hread
            · obtain ⟨⟨others,tail⟩,hothers,h⟩ := Option.bind_eq_some_iff.mp h
              obtain ⟨rfl,-⟩ := Prod.mk.inj (Option.some.inj h)
              rw [List.forall_mem_cons]
              exact ⟨hvalue hread,hfields hothers⟩

/-- A decoded text repeats no key, when the hooks refuse repeated keys. -/
theorem loads_uniqueKeys {hooks : Hooks}
    (hpairs : ∀ {fields value},hooks.objectPairs fields=some value →
      (∀ field∈fields,field.2.UniqueKeys) → value.UniqueKeys)
    (hfloat : ∀ {text value},hooks.parseFloat text=some value → value.UniqueKeys)
    (hconstant : ∀ {text value},hooks.parseConstant text=some value → value.UniqueKeys)
    {text : Text} {value : Json} (h : loads hooks text=some value) : value.UniqueKeys := by
  unfold loads at h
  split_ifs at h with hmark
  split at h
  · rename_i parsed rest hscan
    split_ifs at h with hend
    rw [Option.some.injEq] at h
    rw [← h]
    exact (scan_uniqueKeys hpairs hfloat hconstant _).1 hscan
  · cases h

/-- The written form of a character is that character or visible ASCII text. -/
theorem mem_escapeChar {character written : Nat} (h : written∈escapeChar character) :
    (written=character ∧ 32 ≤ character) ∨ (32 ≤ written ∧ written<127) := by
  have hhex : ∀ value<16,32 ≤ hexDigit value ∧ hexDigit value<127 := by decide
  have hpair : ∀ letter,32 ≤ letter → letter<127 → written∈[code '\\',letter] →
      32 ≤ written ∧ written<127 := by
    intro letter hlow hhigh hmem
    rcases List.mem_pair.mp hmem with rfl | rfl
    · decide
    · exact ⟨hlow,hhigh⟩
  unfold escapeChar at h
  split_ifs at h with hquote hslash hn hr ht hf hb hcontrol
  · exact .inr (hpair _ (by decide) (by decide) h)
  · exact .inr (hpair _ (by decide) (by decide) h)
  · exact .inr (hpair _ (by decide) (by decide) h)
  · exact .inr (hpair _ (by decide) (by decide) h)
  · exact .inr (hpair _ (by decide) (by decide) h)
  · exact .inr (hpair _ (by decide) (by decide) h)
  · exact .inr (hpair _ (by decide) (by decide) h)
  · have hhigh := hhex (character/16) (by omega)
    have hlow := hhex (character%16) (by omega)
    have hfixed : ∀ fixed∈[code '\\',code 'u',code '0'],32 ≤ fixed ∧ fixed<127 := by decide
    simp only [List.mem_cons,List.not_mem_nil,or_false] at h hfixed
    rcases h with hmem | hmem | hmem | hmem | hmem | hmem
    · exact .inr (hfixed written (.inl hmem))
    · exact .inr (hfixed written (.inr (.inl hmem)))
    · exact .inr (hfixed written (.inr (.inr hmem)))
    · exact .inr (hfixed written (.inr (.inr hmem)))
    · exact .inr (by rw [hmem]; exact hhigh)
    · exact .inr (by rw [hmem]; exact hlow)
  · exact .inl ⟨List.mem_singleton.mp h,by omega⟩

/-- A property of all visible ASCII characters and of the characters above
controls of a text holds of every character of the quoted text. -/
theorem forall_mem_quote {property : Nat → Prop} (hascii : ∀ character,32 ≤ character →
      character<127 → property character) {text : Text}
    (htext : ∀ character∈text,32 ≤ character → property character) :
    ∀ character∈quote text,property character := by
  intro character hcharacter
  rw [quote,List.mem_cons,List.mem_append,List.mem_flatMap,List.mem_singleton] at hcharacter
  rcases hcharacter with rfl | ⟨source,hsource,hwritten⟩ | rfl
  · exact hascii _ (by decide) (by decide)
  · rcases mem_escapeChar hwritten with ⟨rfl,hlow⟩ | ⟨hlow,hhigh⟩
    · exact htext character hsource hlow
    · exact hascii character hlow hhigh
  · exact hascii _ (by decide) (by decide)

/-- Decimal text is made of visible ASCII characters. -/
theorem forall_mem_decimalInt {property : Nat → Prop} (hascii : ∀ character,32 ≤ character →
      character<127 → property character) (value : Int) :
    ∀ character∈decimalInt value,property character := by
  obtain ⟨first,digits,hdecimal,hdigits,-⟩ := decimal_cons value.natAbs
  have hdigit : ∀ character∈decimal value.natAbs,property character := by
    intro character hcharacter
    rw [hdecimal] at hcharacter
    have hrange := hdigits character hcharacter
    have hcode : code '0'=48 ∧ code '9'=57 := by decide
    simp only [isDigit,Bool.and_eq_true,decide_eq_true_eq] at hrange
    exact hascii character (by omega) (by omega)
  intro character hcharacter
  rw [decimalInt] at hcharacter
  split_ifs at hcharacter
  · rcases List.mem_cons.mp hcharacter with rfl | htail
    · exact hascii _ (by decide) (by decide)
    · exact hdigit character htail
  · exact hdigit character hcharacter

/-- Characters of texts joined by commas are commas or characters of the texts. -/
theorem forall_mem_intercalate {property : Nat → Prop} (hcomma : property (code ','))
    {texts : List Text} (htexts : ∀ text∈texts,∀ character∈text,property character) :
    ∀ character∈[code ','].intercalate texts,property character := by
  induction texts with
  | nil =>
    intro character hcharacter
    cases hcharacter
  | cons text texts ih =>
    intro character hcharacter
    rw [intercalate_cons,List.mem_append] at hcharacter
    rcases hcharacter with hhead | htail
    · exact htexts text List.mem_cons_self character hhead
    · split_ifs at htail
      · cases htail
      · rcases List.mem_cons.mp htail with rfl | hrest
        · exact hcomma
        · exact ih (fun other hother => htexts other (List.mem_cons_of_mem _ hother)) character hrest

theorem mem_dumpsItems {text : Text} {items : List Json} (h : text∈dumpsItems items) :
    ∃ item∈items,text=dumps item := by
  induction items with
  | nil =>
    rw [dumpsItems] at h
    cases h
  | cons item items ih =>
    rw [dumpsItems,List.mem_cons] at h
    rcases h with rfl | h
    · exact ⟨item,List.mem_cons_self,rfl⟩
    · obtain ⟨source,hsource,heq⟩ := ih h
      exact ⟨source,List.mem_cons_of_mem _ hsource,heq⟩

theorem mem_dumpsFields {text : Text} {fields : List (Text×Json)} (h : text∈dumpsFields fields) :
    ∃ field∈fields,text=quote field.1++code ':'::dumps field.2 := by
  induction fields with
  | nil =>
    rw [dumpsFields] at h
    cases h
  | cons field fields ih =>
    rw [dumpsFields,List.mem_cons] at h
    rcases h with rfl | h
    · exact ⟨field,List.mem_cons_self,rfl⟩
    · obtain ⟨source,hsource,heq⟩ := ih h
      exact ⟨source,List.mem_cons_of_mem _ hsource,heq⟩

/-- A property of visible ASCII characters and of the characters above
controls of the strings holds of every character of the encoded value. -/
theorem forall_mem_dumps {property : Nat → Prop} (hascii : ∀ character,32 ≤ character →
      character<127 → property character) {value : Json}
    (htexts : value.AllTexts (fun text => ∀ character∈text,32 ≤ character → property character)) :
    ∀ character∈dumps value,property character := by
  induction htexts with
  | null =>
    have hvisible : ∀ character∈chars "null",32 ≤ character ∧ character<127 := by decide
    intro character hcharacter
    exact hascii character (hvisible character hcharacter).1 (hvisible character hcharacter).2
  | bool value =>
    have hvisible : ∀ character∈chars "true"++chars "false",32 ≤ character ∧ character<127 := by decide
    intro character hcharacter
    have hmem : character∈chars "true"++chars "false" := by
      cases value with
      | false => exact List.mem_append_right _ hcharacter
      | true => exact List.mem_append_left _ hcharacter
    exact hascii character (hvisible character hmem).1 (hvisible character hmem).2
  | int value => exact forall_mem_decimalInt hascii value
  | str htext => exact forall_mem_quote hascii htext
  | arr _ ih =>
    intro character hcharacter
    rw [dumps,List.mem_cons,List.mem_append,List.mem_singleton] at hcharacter
    rcases hcharacter with rfl | hitems | rfl
    · exact hascii _ (by decide) (by decide)
    · refine forall_mem_intercalate (hascii _ (by decide) (by decide)) ?_ character hitems
      intro text htext
      obtain ⟨item,hitem,rfl⟩ := mem_dumpsItems htext
      exact ih item hitem
    · exact hascii _ (by decide) (by decide)
  | obj hkeys _ ih =>
    intro character hcharacter
    rw [dumps,List.mem_cons,List.mem_append,List.mem_singleton] at hcharacter
    rcases hcharacter with rfl | hfields | rfl
    · exact hascii _ (by decide) (by decide)
    · refine forall_mem_intercalate (hascii _ (by decide) (by decide)) ?_ character hfields
      intro text htext other hother
      obtain ⟨field,hfield,rfl⟩ := mem_dumpsFields htext
      rcases List.mem_append.mp hother with hkey | hvalue
      · exact forall_mem_quote hascii (hkeys field hfield) other hkey
      · rcases List.mem_cons.mp hvalue with rfl | hvalue
        · exact hascii _ (by decide) (by decide)
        · exact ih field hfield other hvalue
    · exact hascii _ (by decide) (by decide)

end ControlGraph.JsonText
