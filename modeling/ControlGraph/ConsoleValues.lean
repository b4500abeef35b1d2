import ControlGraph.ConsoleTimeline
import ControlGraph.KeyedTables
import ControlGraph.TimelineWire

/-!
# What the console reads of a record of the services

A record is dumped with its keys in order and its texts in code units. The
console looks a field up by its name, so the order does not matter: every field
is found with the image of its value. Texts of ASCII are their own images, and
an ASCII text of a pattern passes the console's test of that pattern.
-/

namespace ControlGraph.ConsoleValues

open CanonicalCodec Checks ConsoleCodec ConsoleTimeline ContractText JsonTranslation JsonValues
open KeyedTables TimelineWire Utf16Text Utf8Text

/-- Code units of a text. -/
def unitsOf (text : String) : Text := toUnits (chars text)

/-- Whether every character is one of ASCII. -/
def IsAscii (text : String) : Prop := ∀ character∈text.toList,character.toNat < 128

instance (text : String) : Decidable (IsAscii text) :=
  inferInstanceAs (Decidable (∀ character∈text.toList,character.toNat < 128))

/-- Value that the console reads where the services wrote one. -/
def seen (value : Json) : Json := mapTexts toUnits value.sortKeys

theorem isAscii_ofList {letters : List Char}
    (h : letters.all (fun letter => letter.toNat < 128)=true) : IsAscii (String.ofList letters) := by
  intro character hmem
  rw [String.toList_ofList] at hmem
  exact of_decide_eq_true (List.all_eq_true.mp h character hmem)

theorem ascii_nil : ∀ text∈([] : List String),IsAscii text := fun _ hmem => nomatch hmem

/-- The texts of a list are ASCII when the first one and the others are. -/
theorem ascii_cons {letters : List Char} {texts : List String}
    (h : letters.all (fun letter => letter.toNat < 128)=true)
    (htexts : ∀ text∈texts,IsAscii text) : ∀ text∈String.ofList letters::texts,IsAscii text :=
  List.forall_mem_cons.mpr ⟨isAscii_ofList h,htexts⟩

/-- The code points of a text determine it. -/
theorem ofNat_chars (text : String) : String.ofList ((chars text).map Char.ofNat)=text := by
  have hsame : (Char.ofNat ∘ Char.toNat)=id := funext Char.ofNat_toNat
  rw [chars_eq,List.map_map,hsame,List.map_id,String.ofList_toList]

theorem isScalar_chars (text : String) : IsScalar (chars text) := by
  intro character hmem
  obtain ⟨source,-,rfl⟩ := List.mem_map.mp hmem
  exact source.valid

@[simp] theorem stringOf_unitsOf (text : String) : stringOf (unitsOf text)=text := by
  rw [stringOf,unitsOf,fromUnits_toUnits (isScalar_chars text),ofNat_chars]

theorem unitsOf_injective {first second : String} (h : unitsOf first=unitsOf second) :
    first=second := by
  have hsame := congrArg stringOf h
  rwa [stringOf_unitsOf,stringOf_unitsOf] at hsame

/-- The units of an ASCII text are below 128. -/
theorem chars_ascii {text : String} (h : IsAscii text) : ∀ unit∈chars text,unit < 128 := by
  intro unit hmem
  obtain ⟨character,hcharacter,rfl⟩ := mem_chars.mp hmem
  exact h character hcharacter

theorem unitsOf_ascii {text : String} (h : IsAscii text) : unitsOf text=chars text :=
  toUnits_ascii (chars_ascii h)

theorem length_unitsOf_ascii {text : String} (h : IsAscii text) :
    (unitsOf text).length=text.length := by
  rw [unitsOf_ascii h,chars_eq,List.length_map,String.length_toList]

theorem unitsOf_append (first second : String) :
    unitsOf (first++second)=unitsOf first++unitsOf second := by
  simp only [unitsOf,chars_eq,String.toList_append,List.map_append,Utf16Text.toUnits,List.flatMap_append]

section

variable {items : List Json} {fields : List (String×Json)}

@[simp] theorem seen_text (value : String) : seen (text value)=.str (unitsOf value) := by
  simp only [seen,text,Json.sortKeys,mapTexts,unitsOf]

@[simp] theorem seen_integer (value : Nat) : seen (TimelineWire.integer value)=.int value := by
  simp only [seen,TimelineWire.integer,Json.sortKeys,mapTexts]

@[simp] theorem seen_null : seen .null=.null := by
  simp only [seen,Json.sortKeys,mapTexts]

/-- A truth value is read as it is. -/
@[simp] theorem seen_bool (value : Bool) : seen (.bool value)=.bool value := by
  simp only [seen,Json.sortKeys,mapTexts]

/-- The items of an array are read one by one. -/
@[simp] theorem seen_arr (items : List Json) : seen (.arr items)=.arr (items.map seen) := by
  simp only [seen,Json.sortKeys,Json.sortItems_eq_map,mapTexts,mapItemTexts_eq_map,List.map_map]
  rfl

/-- The fields that the console reads of a record. -/
def seenFields (fields : List (String×Json)) : List (Text×Json) :=
  mapFieldTexts toUnits ((Json.sortFields (fields.map fun field =>
    (chars field.1,field.2))).insertionSort Json.keyLe)

/-- A record is read as its fields. -/
@[simp] theorem seen_object (fields : List (String×Json)) :
    seen (object fields)=.obj (seenFields fields) := by
  simp only [seen,object,Json.sortKeys,mapTexts,seenFields]

/-- A record of ASCII field names that it does not repeat. -/
structure Named (fields : List (String×Json)) : Prop where
  /-- No name is repeated. -/
  nodup : (fields.map Prod.fst).Nodup
  ascii : ∀ name∈fields.map Prod.fst,IsAscii name

theorem named_of {names : List String} (hnames : fields.map Prod.fst=names)
    (hnodup : names.Nodup) (hascii : ∀ name∈names,IsAscii name) : Named fields :=
  ⟨hnames ▸ hnodup,hnames ▸ hascii⟩

/-- The fields that are read are the images of the written ones. -/
theorem mem_seenFields (h : Named fields) {field : Text×Json} :
    field∈seenFields fields ↔ ∃ source∈fields,field=(chars source.1,seen source.2) := by
  rw [seenFields,mapFieldTexts_eq_map,List.mem_map]
  simp only [List.mem_insertionSort,Json.sortFields_eq_map,List.map_map,List.mem_map]
  constructor
  · rintro ⟨_,⟨source,hsource,rfl⟩,rfl⟩
    have hname := h.ascii source.1 (List.mem_map_of_mem hsource)
    have hkey : toUnits (chars source.1)=chars source.1 := toUnits_ascii (chars_ascii hname)
    exact ⟨source,hsource,Prod.ext hkey rfl⟩
  · rintro ⟨source,hsource,rfl⟩
    have hname := h.ascii source.1 (List.mem_map_of_mem hsource)
    have hkey : toUnits (chars source.1)=chars source.1 := toUnits_ascii (chars_ascii hname)
    exact ⟨_,⟨source,hsource,rfl⟩,Prod.ext hkey rfl⟩

/-- No field name is read twice. -/
theorem nodup_seenFields (h : Named fields) : ((seenFields fields).map Prod.fst).Nodup := by
  have hperm := Json.sorted_keys_perm (fields.map fun field => (chars field.1,field.2))
  have hwritten : ((fields.map fun field => (chars field.1,field.2)).map Prod.fst)=
      (fields.map Prod.fst).map chars := by
    rw [List.map_map,List.map_map]
    rfl
  have hkept : (seenFields fields).map Prod.fst=
      (((Json.sortFields (fields.map fun field => (chars field.1,field.2))).insertionSort
        Json.keyLe).map Prod.fst).map toUnits := by
    rw [seenFields,mapFieldTexts_eq_map,List.map_map,List.map_map]
    rfl
  rw [hwritten] at hperm
  rw [hkept,(hperm.map toUnits).nodup_iff,List.map_map]
  exact h.nodup.map (fun _ _ hsame => unitsOf_injective hsame)

/-- Every field is found under its name. -/
theorem property_seenFields (h : Named fields) :
    ∀ field∈fields,property (seenFields fields) field.1=some (seen field.2) :=
  fun field hfield =>
    lookup_of_mem (nodup_seenFields h) ((mem_seenFields h).mpr ⟨field,hfield,rfl⟩)

/-- The console accepts a record that has no unknown field. -/
theorem record_seen (h : Named fields) {name : String} {allowed : List String}
    (hallowed : ∀ key∈fields.map Prod.fst,key∈allowed) :
    record (some (seen (object fields))) name allowed=.ok (seenFields fields) := by
  have hknown : ∀ field∈seenFields fields,field.1∈allowed.map chars := by
    intro field hfield
    obtain ⟨source,hsource,rfl⟩ := (mem_seenFields h).mp hfield
    exact List.mem_map_of_mem (hallowed source.1 (List.mem_map_of_mem hsource))
  rw [seen_object]
  exact bind_of_ok (require_of hknown)

/-- A record is a value without repeated keys when its fields are. -/
theorem uniqueKeys_object (h : Named fields) (hvalues : ∀ field∈fields,field.2.UniqueKeys) :
    (object fields).UniqueKeys := by
  refine .obj ?_ ?_
  · have hwritten : ((fields.map fun field => (chars field.1,field.2)).map Prod.fst)=
        (fields.map Prod.fst).map chars := by
      rw [List.map_map,List.map_map]
      rfl
    rw [hwritten]
    refine h.nodup.map ?_
    intro first second hsame
    exact unitsOf_injective (congrArg toUnits hsame)
  · intro field hfield
    obtain ⟨source,hsource,rfl⟩ := List.mem_map.mp hfield
    exact hvalues source hsource

end

end ControlGraph.ConsoleValues
