import ControlGraph.Checks
import ControlGraph.ContractText
import ControlGraph.JsonRoundTrip
import ControlGraph.KeyedTables
import ControlGraph.Utf8Text

/-!
# Restricted canonical JSON and contract decoding

The canonical encoder validates a value and writes its key-ordered text as
UTF-8. The decoder of a contract parses without duplicate keys, floats or
constants, validates the parsed value, hands it to the contract model and
accepts the payload only if the model is encoded to the very same bytes. The
normal form of texts and the contract models are parameters.
-/

namespace ControlGraph.CanonicalCodec

open Checks JsonValues JsonText Utf8Text

/-- Greatest number of bytes of a contract. -/
def maxContractBytes : Nat := 65536

/-- Greatest nesting depth of restricted JSON. -/
def maxJsonDepth : Nat := 12

/-- Greatest number of items of an array and of fields of an object. -/
def maxJsonItems : Nat := 64

/-- Stable public codec failures. -/
inductive ContractErrorCode
  | invalid | versionUnsupported
  deriving DecidableEq,Repr

/-- Errors that the codec raises. -/
inductive CodecRaised
  | contractError (code : ContractErrorCode) (message : String)
  /-- A wrong use of the codec. -/
  | typeError (message : String)
  /-- A version outside ASCII. -/
  | unicodeEncodeError
  deriving DecidableEq,Repr

def invalid (message : String) : CodecRaised := .contractError .invalid message

/-- Keep a result and replace every error by one of the codec. -/
def orRaise {ε α : Type} (error : CodecRaised) : Except ε α → Except CodecRaised α
  | .ok value => .ok value
  | .error _ => .error error

/-- Keep a present result and raise an error of the codec for an absent one. -/
def someOrRaise {α : Type} (error : CodecRaised) : Option α → Except CodecRaised α
  | some value => .ok value
  | none => .error error

/-- A kept result was a result. -/
@[simp] theorem orRaise_eq_ok {ε α : Type} {error : CodecRaised} {result : Except ε α} {value : α} :
    orRaise error result=.ok value ↔ result=.ok value := by
  cases result with
  | ok other => simp only [orRaise,Except.ok.injEq]
  | error raised => simp only [orRaise,reduceCtorEq]

/-- A kept result was present. -/
@[simp] theorem someOrRaise_eq_ok {α : Type} {error : CodecRaised} {result : Option α} {value : α} :
    someOrRaise error result=.ok value ↔ result=some value := by
  cases result with
  | some other => simp only [someOrRaise,Except.ok.injEq,Option.some.injEq]
  | none => simp only [someOrRaise,reduceCtorEq]

/-- Lowercase letters, digits and underscores after a lowercase letter. -/
def isObjectKey : Text → Bool
  | [] => false
  | first::rest => (code 'a' ≤ first && first ≤ code 'z') && rest.all (fun character =>
      (code 'a' ≤ character && character ≤ code 'z') || isDigit character || character==code '_')

section

variable (nfc : Text → Text)

/-- Require bounded contract text to be Unicode scalar NFC text. -/
def validateNfcText (value : Text) : Except String Unit := do
  require ((encodeUtf8 value).isSome=true) "text must contain Unicode scalar values"
  require (nfc value=value) "text must use NFC normalization"

mutual

/-- Require a value to be restricted JSON at a nesting depth. -/
def validateRestricted (depth : Nat) : Json → Except String Unit
  | .null => require (depth ≤ maxJsonDepth) "JSON nesting is too deep"
  | .bool _ => require (depth ≤ maxJsonDepth) "JSON nesting is too deep"
  | .int value => do
    require (depth ≤ maxJsonDepth) "JSON nesting is too deep"
    require (-ContractText.maxSafeInteger ≤ value ∧ value ≤ ContractText.maxSafeInteger)
      "integer is outside the cross-language safe range"
  | .str text => do
    require (depth ≤ maxJsonDepth) "JSON nesting is too deep"
    validateNfcText nfc text
  | .arr items => do
    require (depth ≤ maxJsonDepth) "JSON nesting is too deep"
    require (items.length ≤ maxJsonItems) "JSON array has too many items"
    validateItems (depth+1) items
  | .obj fields => do
    require (depth ≤ maxJsonDepth) "JSON nesting is too deep"
    require (fields.length ≤ maxJsonItems) "JSON object has too many fields"
    validateFields (depth+1) fields

/-- Require every item to be restricted JSON. -/
def validateItems (depth : Nat) : List Json → Except String Unit
  | [] => .ok ()
  | item::items => do
    validateRestricted depth item
    validateItems depth items

/-- Require every field to have a canonical key and a restricted value. -/
def validateFields (depth : Nat) : List (Text×Json) → Except String Unit
  | [] => .ok ()
  | (key,value)::fields => do
    require (isObjectKey key=true) "JSON object key is not canonical"
    validateRestricted depth value
    validateFields depth fields

end

/-- Encode a restricted JSON value with one cross-language representation. -/
def canonicalJsonValueBytes (value : Json) : Except CodecRaised Bytes := do
  orRaise (invalid "canonical JSON encoding failed") (validateRestricted nfc 0 value)
  let encoded ← someOrRaise (invalid "canonical JSON encoding failed")
    (encodeUtf8 (dumpsSorted value))
  require (encoded≠[] ∧ encoded.length ≤ maxContractBytes)
    (invalid "canonical JSON is outside its byte bounds")
  return encoded

end

/-- One reported failure of a contract model. -/
structure ValidationItem where
  literalError : Bool
  lastLocation : Option Text
  textInput : Bool
  deriving DecidableEq,Repr

/-- How a contract model refuses its input. -/
inductive ValidationFailure
  | validationError (items : List ValidationItem)
  /-- Any other rejected type or value. -/
  | rejected
  deriving DecidableEq,Repr

/-- What the codec uses of a contract model class. -/
structure ContractType (Model : Type) where
  /-- The single literal of the version field, if the class declares one. -/
  schemaVersion : Option Text
  modelValidate : Model → Except ValidationFailure Model
  modelDump : Model → Json
  modelValidateJson : Text → Except ValidationFailure Model
  dump_unique : ∀ model,(modelDump model).UniqueKeys

/-- A payload as exact bytes or text. -/
inductive Payload
  | bytes (payload : Bytes)
  | text (payload : Text)

/-- Bytes and text of a payload, which must be valid UTF-8. -/
def Payload.spellings : Payload → Option (Bytes×Text)
  | .bytes encoded => (decodeUtf8 encoded).map (fun content => (encoded,content))
  | .text content => (encodeUtf8 content).map (fun encoded => (encoded,content))

/-- Keep the pairs of an object unless a key is repeated. -/
def rejectDuplicateKeys (pairs : List (Text×Json)) : Option Json :=
  if (pairs.map Prod.fst).Nodup then some (.obj pairs) else none

/-- Parsing rules of the decoder: no repeated key, no float, no constant. -/
def decoderHooks : Hooks where
  objectPairs := rejectDuplicateKeys
  parseFloat := fun _ => none
  parseConstant := fun _ => none

/-- The byte order mark of UTF-8. -/
def byteOrderMark : Bytes := [0xef,0xbb,0xbf]

section

variable (nfc : Text → Text) {Model : Type} (model_type : ContractType Model)

/-- The restricted value of a payload and the bytes that spell it. -/
def decodeRestricted (payload : Payload) : Except CodecRaised (Bytes×Json) := do
  let (encoded,text) ← someOrRaise (invalid "contract is not valid UTF-8") payload.spellings
  require (encoded≠[] ∧ encoded.length ≤ maxContractBytes ∧
      byteOrderMark.isPrefixOf encoded=false) (invalid "contract is outside its byte bounds")
  let value ← someOrRaise (invalid "contract is not restricted JSON") (loads decoderHooks text)
  orRaise (invalid "contract is not restricted JSON") (validateRestricted nfc 0 value)
  return (encoded,value)

def modelContent (model : Model) : Except CodecRaised Json := do
  let validated ← orRaise (invalid "contract validation failed") (model_type.modelValidate model)
  return model_type.modelDump validated

/-- Canonical bytes of one fully validated contract instance. -/
def canonicalJsonBytes (model : Model) : Except CodecRaised Bytes := do
  let value ← modelContent model_type model
  canonicalJsonValueBytes nfc value

/-- The literal version of a contract model class. -/
def expectedVersion : Except CodecRaised Text :=
  someOrRaise (.typeError "contract model must declare one literal schema_version")
    model_type.schemaVersion

/-- Fields of a contract, which must be an object. -/
def objectFields : Json → Except CodecRaised (List (Text×Json))
  | .obj fields => .ok fields
  | _ => .error (invalid "contract must be a JSON object")

/-- Version that the fields of a contract declare. -/
def versionField (fields : List (Text×Json)) : Except CodecRaised Text :=
  match fields.lookup (chars "schema_version") with
  | some (.str version) => .ok version
  | _ => .error (invalid "schema_version is required")

/-- Error for a model that refuses the parsed value. -/
def validationRaised : ValidationFailure → CodecRaised
  | .validationError items =>
    if items.any (fun item => item.literalError &&
        item.lastLocation==some (chars "schema_version") && item.textInput) then
      .contractError .versionUnsupported "nested contract schema_version is unsupported"
    else invalid "contract validation failed"
  | .rejected => invalid "contract validation failed"

/-- Decode one exact canonical object and reject parser ambiguity. -/
def decodeContract (payload : Payload) : Except CodecRaised Model := do
  let (encoded,value) ← decodeRestricted nfc payload
  let fields ← objectFields value
  let expected_version ← expectedVersion model_type
  let version ← versionField fields
  require (version=expected_version)
    (.contractError .versionUnsupported "contract schema_version is unsupported")
  let model ← (model_type.modelValidateJson (dumps value)).mapError validationRaised
  let canonical ← canonicalJsonBytes nfc model_type model
  require (canonical=encoded) (invalid "contract is not in canonical form")
  return model

def digestDomain : Bytes :=
  (chars "controlgraph.contract-sha256/v1").map UInt8.ofNat++[0]

/-- Pre-image of the digest of a contract. -/
def digestMaterial (model : Model) : Except CodecRaised Bytes := do
  let version ← expectedVersion model_type
  let versionBytes ← someOrRaise .unicodeEncodeError (encodeAscii version)
  let canonical ← canonicalJsonBytes nfc model_type model
  return digestDomain++versionBytes++[0]++canonical

/-- Hash canonical bytes under an explicit version and schema domain. -/
def canonicalSha256 (sha256 : Bytes → ContractText.Sha256Digest) (model : Model) :
    Except CodecRaised ContractText.Sha256Digest := do
  let material ← digestMaterial nfc model_type model
  return sha256 material

end

section

variable {nfc : Text → Text}

theorem validateItems_eq_ok {depth : Nat} {items : List Json} :
    validateItems nfc depth items=.ok () ↔ ∀ item∈items,validateRestricted nfc depth item=.ok () := by
  induction items with
  | nil => simp only [validateItems,List.not_mem_nil,false_implies,implies_true]
  | cons item items ih =>
    rw [validateItems,check_bind_eq_ok,ih,List.forall_mem_cons]

/-- Fields are valid exactly when each of them has a canonical key and a valid value. -/
theorem validateFields_eq_ok {depth : Nat} {fields : List (Text×Json)} :
    validateFields nfc depth fields=.ok () ↔ ∀ field∈fields,
      isObjectKey field.1=true ∧ validateRestricted nfc depth field.2=.ok () := by
  induction fields with
  | nil => simp only [validateFields,List.not_mem_nil,false_implies,implies_true]
  | cons field fields ih =>
    rw [validateFields,check_bind_eq_ok,require_eq_ok,check_bind_eq_ok,ih,List.forall_mem_cons,
      and_assoc]

/-- An array is restricted JSON when it is shallow and short and its items are restricted. -/
theorem validateRestricted_arr {depth : Nat} {items : List Json} :
    validateRestricted nfc depth (.arr items)=.ok () ↔ depth ≤ maxJsonDepth ∧
      items.length ≤ maxJsonItems ∧ ∀ item∈items,validateRestricted nfc (depth+1) item=.ok () := by
  rw [validateRestricted,check_bind_eq_ok,check_bind_eq_ok,require_eq_ok,require_eq_ok,
    validateItems_eq_ok]

/-- An object is restricted JSON when it is shallow and small, with canonical
keys and restricted values. -/
theorem validateRestricted_obj {depth : Nat} {fields : List (Text×Json)} :
    validateRestricted nfc depth (.obj fields)=.ok () ↔ depth ≤ maxJsonDepth ∧
      fields.length ≤ maxJsonItems ∧ ∀ field∈fields,
        isObjectKey field.1=true ∧ validateRestricted nfc (depth+1) field.2=.ok () := by
  rw [validateRestricted,check_bind_eq_ok,check_bind_eq_ok,require_eq_ok,require_eq_ok,
    validateFields_eq_ok]

/-- Putting the keys in order keeps restricted JSON restricted. -/
theorem validateRestricted_sortKeys {value : Json} (hunique : value.UniqueKeys) {depth : Nat}
    (h : validateRestricted nfc depth value=.ok ()) :
    validateRestricted nfc depth value.sortKeys=.ok () := by
  induction hunique generalizing depth with
  | null => rwa [Json.sortKeys]
  | bool value => rwa [Json.sortKeys]
  | int value => rwa [Json.sortKeys]
  | str text => rwa [Json.sortKeys]
  | arr _ ih =>
    rw [validateRestricted_arr] at h
    rw [Json.sortKeys,validateRestricted_arr,Json.sortItems_eq_map,List.length_map]
    refine ⟨h.1,h.2.1,?_⟩
    intro item hitem
    obtain ⟨source,hsource,rfl⟩ := List.mem_map.mp hitem
    exact ih source hsource (h.2.2 source hsource)
  | obj _ _ ih =>
    rw [validateRestricted_obj] at h
    rw [Json.sortKeys,validateRestricted_obj,Json.length_sorted_fields]
    refine ⟨h.1,h.2.1,?_⟩
    intro field hfield
    obtain ⟨source,hsource,rfl⟩ := Json.mem_sorted_fields hfield
    have hsourceValid := h.2.2 source hsource
    exact ⟨hsourceValid.1,ih source hsource hsourceValid.2⟩

theorem isObjectKey_ascii {key : Text} (h : isObjectKey key=true) : ∀ character∈key,character<128 := by
  have hcode : code 'a'=97 ∧ code 'z'=122 ∧ code '0'=48 ∧ code '9'=57 ∧ code '_'=95 := by decide
  cases key with
  | nil => cases h
  | cons first rest =>
    simp only [isObjectKey,isDigit,Bool.and_eq_true,Bool.or_eq_true,List.all_eq_true,
      decide_eq_true_eq,beq_iff_eq] at h
    intro character hmem
    rcases List.mem_cons.mp hmem with rfl | htail
    · omega
    · have hrest := h.2 character htail
      omega

/-- A scalar value other than the null character. -/
def Printable (character : Nat) : Prop := 0 < character ∧ character.isValidChar

/-- Texts of restricted JSON contain scalar values only. -/
theorem validateRestricted_printable {value : Json} (hunique : value.UniqueKeys) {depth : Nat}
    (h : validateRestricted nfc depth value=.ok ()) :
    value.AllTexts (fun text => ∀ character∈text,32 ≤ character → Printable character) := by
  induction hunique generalizing depth with
  | null => exact .null
  | bool value => exact .bool value
  | int value => exact .int value
  | str text =>
    simp only [validateRestricted,validateNfcText,check_bind_eq_ok,require_eq_ok] at h
    have hscalar := h.2.1
    unfold encodeUtf8 at hscalar
    split_ifs at hscalar with hvalid
    · exact .str (fun character hmem hlow => ⟨by omega,hvalid character hmem⟩)
    · cases hscalar
  | arr _ ih =>
    rw [validateRestricted_arr] at h
    exact .arr (fun item hitem => ih item hitem (h.2.2 item hitem))
  | obj _ _ ih =>
    rw [validateRestricted_obj] at h
    refine .obj ?_ (fun field hfield => ih field hfield (h.2.2 field hfield).2)
    intro field hfield character hmem hlow
    have hascii := isObjectKey_ascii (h.2.2 field hfield).1 character hmem
    exact ⟨by omega,.inl (by omega)⟩

/-- The key-ordered text of restricted JSON contains scalar values only. -/
theorem dumpsSorted_printable {value : Json} (hunique : value.UniqueKeys)
    (h : validateRestricted nfc 0 value=.ok ()) :
    ∀ character∈dumpsSorted value,Printable character := by
  have hascii : ∀ character,32 ≤ character → character<127 → Printable character := by
    intro character hlow hhigh
    exact ⟨by omega,.inl (by omega)⟩
  have hsorted := validateRestricted_sortKeys hunique h
  exact forall_mem_dumps hascii (validateRestricted_printable hunique.sortKeys hsorted)

/-- The text of restricted JSON can always be written as UTF-8. -/
theorem encodeUtf8_dumpsSorted {value : Json} (hunique : value.UniqueKeys)
    (h : validateRestricted nfc 0 value=.ok ()) :
    ∃ encoded,encodeUtf8 (dumpsSorted value)=some encoded := by
  have hprintable := dumpsSorted_printable hunique h
  exact ⟨_,if_pos (fun character hmem => (hprintable character hmem).2)⟩

/-- Encoding succeeds exactly on restricted values of bounded size. -/
theorem canonicalJsonValueBytes_eq_ok {value : Json} {encoded : Bytes} :
    canonicalJsonValueBytes nfc value=.ok encoded ↔ validateRestricted nfc 0 value=.ok () ∧
      encodeUtf8 (dumpsSorted value)=some encoded ∧ encoded≠[] ∧
      encoded.length ≤ maxContractBytes := by
  rw [canonicalJsonValueBytes,check_bind_eq_ok,orRaise_eq_ok,bind_eq_ok]
  simp only [someOrRaise_eq_ok,check_bind_eq_ok,require_eq_ok,pure,Except.pure,Except.ok.injEq]
  constructor
  · rintro ⟨hvalid,bytes,hbytes,hsize,rfl⟩
    exact ⟨hvalid,hbytes,hsize⟩
  · rintro ⟨hvalid,hbytes,hsize⟩
    exact ⟨hvalid,encoded,hbytes,hsize,rfl⟩

/-- Restricted values are encoded unless their text is too long. -/
theorem canonicalJsonValueBytes_of_restricted {value : Json} (hunique : value.UniqueKeys)
    (h : validateRestricted nfc 0 value=.ok ()) : ∃ encoded,
      encodeUtf8 (dumpsSorted value)=some encoded ∧
        (encoded.length ≤ maxContractBytes → canonicalJsonValueBytes nfc value=.ok encoded) := by
  obtain ⟨encoded,hencoded⟩ := encodeUtf8_dumpsSorted hunique h
  have hne : encoded≠[] := by
    rintro rfl
    obtain ⟨character,rest,hdumps,-⟩ := dumps_cons value.sortKeys
    have hempty : encodeUtf8 []=some [] := rfl
    have htext := encodeUtf8_injective hencoded hempty
    rw [dumpsSorted,hdumps] at htext
    cases htext
  exact ⟨encoded,hencoded,fun hsize => canonicalJsonValueBytes_eq_ok.mpr ⟨h,hencoded,hne,hsize⟩⟩

theorem rejectDuplicateKeys_nodup {fields : List (Text×Json)} (h : (fields.map Prod.fst).Nodup) :
    decoderHooks.objectPairs fields=some (.obj fields) := if_pos h

theorem loads_decoderHooks_uniqueKeys {text : Text} {value : Json}
    (h : loads decoderHooks text=some value) : value.UniqueKeys := by
  refine loads_uniqueKeys ?_ ?_ ?_ h
  · intro fields object hobject hvalues
    unfold decoderHooks rejectDuplicateKeys at hobject
    simp only at hobject
    split_ifs at hobject with hkeys
    rw [Option.some.injEq] at hobject
    rw [← hobject]
    exact .obj hkeys hvalues
  · intro text value hfloat
    cases hfloat
  · intro text value hconstant
    cases hconstant

/-- Canonical bytes do not start with a byte order mark. -/
theorem encoded_no_mark {value : Json} {encoded : Bytes}
    (h : encodeUtf8 (dumpsSorted value)=some encoded) : byteOrderMark.isPrefixOf encoded=false := by
  obtain ⟨character,rest,hdumps,hstart⟩ := dumps_cons value.sortKeys
  have hascii : ∀ other,startsValue other=true → other<128 := by
    intro other hother
    simp only [startsValue,isDigit,Bool.or_eq_true,Bool.and_eq_true,decide_eq_true_eq,
      List.contains_iff_mem] at hother
    rcases hother with hdigit | htoken
    · have hcode : code '9'=57 := rfl
      omega
    · have hall : ∀ token∈chars "ntf-\"[\x7b",token<128 := by decide
      exact hall other htoken
  have hlt := hascii character hstart
  unfold encodeUtf8 at h
  split_ifs at h with hvalid
  rw [Option.some.injEq,dumpsSorted,hdumps,utf8Bytes,List.flatMap_cons,
    utf8EncodeChar_ascii hlt] at h
  have hbyte : ((0xef : UInt8)==UInt8.ofNat character)=false := by
    rw [beq_eq_false_iff_ne]
    intro heq
    have hnat := congrArg UInt8.toNat heq
    rw [UInt8.toNat_ofNat_of_lt' (by simp only [UInt8.size]; omega)] at hnat
    simp only [UInt8.reduceToNat] at hnat
    omega
  rw [← h,byteOrderMark,List.cons_append,List.isPrefixOf,hbyte,Bool.false_and]

/-- The decoder parses canonical bytes back into the key-ordered value. -/
theorem decodeRestricted_canonical {value : Json} {encoded : Bytes} (hunique : value.UniqueKeys)
    (h : canonicalJsonValueBytes nfc value=.ok encoded) :
    decodeRestricted nfc (.bytes encoded)=.ok (encoded,value.sortKeys) := by
  obtain ⟨hvalid,hencoded,hne,hsize⟩ := canonicalJsonValueBytes_eq_ok.mp h
  have hspellings : (Payload.bytes encoded).spellings=some (encoded,dumpsSorted value) := by
    rw [Payload.spellings,decodeUtf8_encodeUtf8 hencoded,Option.map_some]
  have hloads : loads decoderHooks (dumpsSorted value)=some value.sortKeys :=
    loads_dumps (fun _ => rejectDuplicateKeys_nodup) hunique.sortKeys
  have hsorted := validateRestricted_sortKeys hunique hvalid
  have hmark := encoded_no_mark hencoded
  rw [decodeRestricted,bind_of_ok (someOrRaise_eq_ok.mpr hspellings)]
  simp only
  rw [check_bind_eq_ok,require_eq_ok,bind_of_ok (someOrRaise_eq_ok.mpr hloads),check_bind_eq_ok,
    orRaise_eq_ok]
  exact ⟨⟨hne,hsize,hmark⟩,hsorted,rfl⟩

/-- What the decoder parses is a restricted dictionary value, spelled by the payload. -/
theorem decodeRestricted_eq_ok {payload : Payload} {encoded : Bytes} {value : Json}
    (h : decodeRestricted nfc payload=.ok (encoded,value)) :
    (∃ text,payload.spellings=some (encoded,text)) ∧ value.UniqueKeys ∧
      validateRestricted nfc 0 value=.ok () := by
  rw [decodeRestricted,bind_eq_ok] at h
  obtain ⟨⟨bytes,text⟩,hspellings,h⟩ := h
  simp only [require_eq_ok,bind_eq_ok,someOrRaise_eq_ok,orRaise_eq_ok] at h hspellings
  obtain ⟨-,-,parsed,hparsed,⟨⟩,hvalid,h⟩ := h
  obtain ⟨rfl,rfl⟩ := Prod.mk.inj (Except.ok.inj h)
  exact ⟨⟨text,hspellings⟩,loads_decoderHooks_uniqueKeys hparsed,hvalid⟩

variable {Model : Type} {model_type : ContractType Model}

theorem modelContent_uniqueKeys {model : Model} {value : Json}
    (h : modelContent model_type model=.ok value) : value.UniqueKeys := by
  rw [modelContent,bind_eq_ok] at h
  obtain ⟨validated,-,h⟩ := h
  rw [← Except.ok.inj h]
  exact model_type.dump_unique validated

theorem decodeContract_canonical {payload : Payload} {model : Model}
    (h : decodeContract nfc model_type payload=.ok model) :
    ∃ encoded text,payload.spellings=some (encoded,text) ∧
      canonicalJsonBytes nfc model_type model=.ok encoded := by
  rw [decodeContract,bind_eq_ok] at h
  obtain ⟨⟨encoded,value⟩,hrestricted,h⟩ := h
  obtain ⟨⟨text,hspellings⟩,-⟩ := decodeRestricted_eq_ok hrestricted
  simp only [bind_eq_ok,require_eq_ok] at h
  obtain ⟨fields,-,expected_version,-,version,-,⟨⟩,-,read,-,canonical,hcanonical,⟨⟩,rfl,h⟩ := h
  rw [← Except.ok.inj h]
  exact ⟨canonical,text,hspellings,hcanonical⟩

/-- A model class reads back one of its models: the content carries the
version literal, and validating any JSON text of the content gives the model. -/
structure ReadsBack (model_type : ContractType Model) (model : Model) : Prop where
  versioned : ∀ value,modelContent model_type model=.ok value → ∃ fields version,
    value=.obj fields ∧ model_type.schemaVersion=some version ∧
      (chars "schema_version",Json.str version)∈fields
  /-- Validating the content, with its keys in any order, gives the model. -/
  validated : ∀ value other,modelContent model_type model=.ok value → other.SameValue value →
    model_type.modelValidateJson (dumps other)=.ok model

/-- The canonical bytes of a model that its class reads back are decoded to the model. -/
theorem decodeContract_of_canonical {model : Model} {encoded : Bytes}
    (hreads : ReadsBack model_type model)
    (h : canonicalJsonBytes nfc model_type model=.ok encoded) :
    decodeContract nfc model_type (.bytes encoded)=.ok model := by
  have hcanonical := h
  rw [canonicalJsonBytes,bind_eq_ok] at h
  obtain ⟨value,hcontent,hbytes⟩ := h
  have hunique := modelContent_uniqueKeys hcontent
  obtain ⟨fields,version,rfl,hversion,hmem⟩ := hreads.versioned value hcontent
  have hread := hreads.validated _ _ hcontent hunique.sameValue_sortKeys
  have hsorted := hunique.sortKeys
  rw [Json.sortKeys] at hread hsorted
  have hlookup : ((Json.sortFields fields).insertionSort Json.keyLe).lookup
      (chars "schema_version")=some (.str version) := by
    cases hsorted with
    | obj hkeys _ =>
      apply KeyedTables.lookup_of_mem hkeys
      rw [List.mem_insertionSort,Json.sortFields_eq_map,List.mem_map]
      exact ⟨_,hmem,by rw [Json.sortKeys]⟩
  have hfields : ∀ sorted,objectFields (.obj sorted)=.ok sorted := fun _ => rfl
  have hexpected : expectedVersion model_type=.ok version := by
    rw [expectedVersion,someOrRaise_eq_ok,hversion]
  have hdeclared : versionField ((Json.sortFields fields).insertionSort Json.keyLe)=.ok version := by
    rw [versionField,hlookup]
  rw [decodeContract,bind_of_ok (decodeRestricted_canonical hunique hbytes),Json.sortKeys]
  simp only
  rw [bind_of_ok (hfields _),bind_of_ok hexpected,bind_of_ok hdeclared,check_bind_eq_ok,
    require_eq_ok,hread]
  simp only [Except.mapError]
  rw [bind_of_ok rfl,bind_of_ok hcanonical,check_bind_eq_ok,require_eq_ok]
  exact ⟨trivial,rfl,rfl⟩

theorem zero_not_mem_canonicalJsonBytes {model : Model} {encoded : Bytes}
    (h : canonicalJsonBytes nfc model_type model=.ok encoded) : 0∉encoded := by
  rw [canonicalJsonBytes,bind_eq_ok] at h
  obtain ⟨value,hcontent,hbytes⟩ := h
  obtain ⟨hvalid,hencoded,-⟩ := canonicalJsonValueBytes_eq_ok.mp hbytes
  have hprintable := dumpsSorted_printable (modelContent_uniqueKeys hcontent) hvalid
  exact zero_not_mem_encodeUtf8 hencoded (fun character hmem => (hprintable character hmem).1)

/-- The pre-image of a contract digest determines the version and the content. -/
theorem digestMaterial_injective {Other : Type} {other_type : ContractType Other} {model : Model}
    {other : Other} {material : Bytes} (h : digestMaterial nfc model_type model=.ok material)
    (hother : digestMaterial nfc other_type other=.ok material) :
    model_type.schemaVersion=other_type.schemaVersion ∧
      canonicalJsonBytes nfc model_type model=canonicalJsonBytes nfc other_type other := by
  simp only [digestMaterial,bind_eq_ok,expectedVersion,someOrRaise_eq_ok] at h hother
  obtain ⟨version,hversion,versionBytes,hascii,canonical,hcanonical,heq⟩ := h
  obtain ⟨version',hversion',versionBytes',hascii',canonical',hcanonical',heq'⟩ := hother
  have hmaterial := Except.ok.inj (heq.trans heq'.symm)
  simp only [List.append_assoc,List.singleton_append] at hmaterial
  have hsplit := append_zero_injective (zero_not_mem_canonicalJsonBytes hcanonical)
    (zero_not_mem_canonicalJsonBytes hcanonical') (List.append_cancel_left hmaterial)
  rw [hsplit.1] at hascii
  rw [hversion,hversion',hcanonical,hcanonical',hsplit.2,encodeAscii_injective hascii hascii']
  exact ⟨rfl,rfl⟩

/-- Two contracts with one digest pre-image have the same content. -/
theorem modelContent_of_canonical {model : Model} {Other : Type} {other_type : ContractType Other}
    {other : Other} {encoded : Bytes} (h : canonicalJsonBytes nfc model_type model=.ok encoded)
    (hother : canonicalJsonBytes nfc other_type other=.ok encoded) :
    ∃ value otherValue,modelContent model_type model=.ok value ∧
      modelContent other_type other=.ok otherValue ∧ value.SameValue otherValue := by
  rw [canonicalJsonBytes,bind_eq_ok] at h hother
  obtain ⟨value,hcontent,hbytes⟩ := h
  obtain ⟨otherValue,hotherContent,hotherBytes⟩ := hother
  have hencoded := (canonicalJsonValueBytes_eq_ok.mp hbytes).2.1
  have hotherEncoded := (canonicalJsonValueBytes_eq_ok.mp hotherBytes).2.1
  refine ⟨value,otherValue,hcontent,hotherContent,?_⟩
  exact dumpsSorted_injective (modelContent_uniqueKeys hcontent)
    (modelContent_uniqueKeys hotherContent) (encodeUtf8_injective hencoded hotherEncoded)

end

/-- Canonical bytes are the one spelling of a value and of a contract. A
restricted value is encoded unless its text is too long, and is decoded from
its bytes; a decoded payload is the encoding
of the decoded contract, and every contract that its class reads back is
decoded from its encoding; equal bytes come from equal values; and equal
digest pre-images come from one version and one content. -/
theorem canonical_codec_round_trip (nfc : Text → Text) :
    (∀ (value : Json),value.UniqueKeys → validateRestricted nfc 0 value=.ok () → ∃ encoded,
      encodeUtf8 (dumpsSorted value)=some encoded ∧
        (encoded.length ≤ maxContractBytes → canonicalJsonValueBytes nfc value=.ok encoded)) ∧
    (∀ (value : Json) (encoded : Bytes),value.UniqueKeys →
      canonicalJsonValueBytes nfc value=.ok encoded → ∃ decoded,
        decodeRestricted nfc (.bytes encoded)=.ok (encoded,decoded) ∧ decoded.SameValue value) ∧
    (∀ {Model : Type} (model_type : ContractType Model) (payload : Payload) (model : Model),
      decodeContract nfc model_type payload=.ok model → ∃ encoded text,
        payload.spellings=some (encoded,text) ∧
          canonicalJsonBytes nfc model_type model=.ok encoded) ∧
    (∀ {Model : Type} (model_type : ContractType Model) (model : Model) (encoded : Bytes),
      ReadsBack model_type model → canonicalJsonBytes nfc model_type model=.ok encoded →
        decodeContract nfc model_type (.bytes encoded)=.ok model) ∧
    (∀ (first second : Json) (encoded : Bytes),first.UniqueKeys → second.UniqueKeys →
      canonicalJsonValueBytes nfc first=.ok encoded →
        canonicalJsonValueBytes nfc second=.ok encoded → first.SameValue second) ∧
    (∀ {First Second : Type} (first_type : ContractType First) (second_type : ContractType Second)
      (first : First) (second : Second) (material : Bytes),
      digestMaterial nfc first_type first=.ok material →
        digestMaterial nfc second_type second=.ok material →
          first_type.schemaVersion=second_type.schemaVersion ∧ ∃ firstValue secondValue,
            modelContent first_type first=.ok firstValue ∧
              modelContent second_type second=.ok secondValue ∧
                firstValue.SameValue secondValue) := by
  refine ⟨?_,?_,?_,?_,?_,?_⟩
  · intro value hunique h
    exact canonicalJsonValueBytes_of_restricted hunique h
  · intro value encoded hunique h
    exact ⟨_,decodeRestricted_canonical hunique h,hunique.sameValue_sortKeys⟩
  · intro Model model_type payload model h
    exact decodeContract_canonical h
  · intro Model model_type model encoded hreads h
    exact decodeContract_of_canonical hreads h
  · intro first second encoded hfirst hsecond h hsame
    have hencoded := (canonicalJsonValueBytes_eq_ok.mp h).2.1
    have hsameEncoded := (canonicalJsonValueBytes_eq_ok.mp hsame).2.1
    exact dumpsSorted_injective hfirst hsecond (encodeUtf8_injective hencoded hsameEncoded)
  · intro First Second first_type second_type first second material h hsame
    obtain ⟨hversion,hbytes⟩ := digestMaterial_injective h hsame
    refine ⟨hversion,?_⟩
    simp only [digestMaterial,bind_eq_ok] at h
    obtain ⟨-,-,-,-,canonical,hcanonical,-⟩ := h
    exact modelContent_of_canonical hcanonical (hbytes.symm.trans hcanonical)

def sampleValue : Json :=
  .obj [(chars "note",.str (chars "a\"b")),(chars "count",.arr [.int (-3),.null,.bool true])]

def sampleBytes : Bytes := (chars "\x7b\"count\":[-3,null,true],\"note\":\"a\\\"b\"\x7d").map UInt8.ofNat

theorem sampleValue_unique : sampleValue.UniqueKeys := by
  refine .obj (by decide) ?_
  simp only [List.forall_mem_cons,List.not_mem_nil,false_implies,implies_true,and_true]
  refine ⟨.str _,.arr ?_⟩
  simp only [List.forall_mem_cons,List.not_mem_nil,false_implies,implies_true,and_true]
  exact ⟨.int _,.null,.bool _⟩

/-- The sample is decoded from its canonical bytes. -/
theorem canonical_codec_round_trip_sample : ∃ decoded,
    decodeRestricted id (.bytes sampleBytes)=.ok (sampleBytes,decoded) ∧
      decoded.SameValue sampleValue :=
  (canonical_codec_round_trip id).2.1 sampleValue sampleBytes sampleValue_unique (by rfl)

end ControlGraph.CanonicalCodec
