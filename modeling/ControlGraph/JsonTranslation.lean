import ControlGraph.JsonRoundTrip

/-!
# Translating the texts of JSON values

A translation of texts acts on a value key by key and string by string. It
keeps the dictionary structure of a value whose keys it leaves alone, and it
commutes with the encoder when it commutes with quoting and leaves the
punctuation alone.
-/

namespace ControlGraph.JsonTranslation

open JsonValues JsonText

/-- A property of values follows from the items of an array and from the field
values of an object. -/
@[elab_as_elim]
theorem json_induction {motive : Json → Prop} (null : motive .null)
    (bool : ∀ value,motive (.bool value)) (int : ∀ value,motive (.int value))
    (str : ∀ text,motive (.str text))
    (arr : ∀ items,(∀ item∈items,motive item) → motive (.arr items))
    (obj : ∀ fields,(∀ field∈fields,motive field.2) → motive (.obj fields)) (value : Json) :
    motive value := by
  refine @Json.rec motive (fun items => ∀ item∈items,motive item)
    (fun fields => ∀ field∈fields,motive field.2) (fun field => motive field.2)
    null bool int str arr obj ?_ ?_ ?_ ?_ ?_ value
  · exact fun _ hmem => absurd hmem List.not_mem_nil
  · exact fun _ _ ihead itail => List.forall_mem_cons.mpr ⟨ihead,itail⟩
  · exact fun _ hmem => absurd hmem List.not_mem_nil
  · exact fun _ _ ihead itail => List.forall_mem_cons.mpr ⟨ihead,itail⟩
  · exact fun _ _ ih => ih

mutual

/-- Translate every key and string of a value. -/
def mapTexts (translate : Text → Text) : Json → Json
  | .null => .null
  | .bool value => .bool value
  | .int value => .int value
  | .str text => .str (translate text)
  | .arr items => .arr (mapItemTexts translate items)
  | .obj fields => .obj (mapFieldTexts translate fields)

/-- Translate every key and string of the items. -/
def mapItemTexts (translate : Text → Text) : List Json → List Json
  | [] => []
  | item::items => mapTexts translate item::mapItemTexts translate items

/-- Translate every key and string of the fields. -/
def mapFieldTexts (translate : Text → Text) : List (Text×Json) → List (Text×Json)
  | [] => []
  | (key,value)::fields => (translate key,mapTexts translate value)::mapFieldTexts translate fields

end

section

variable {translate : Text → Text}

theorem mapItemTexts_eq_map (items : List Json) :
    mapItemTexts translate items=items.map (mapTexts translate) := by
  induction items with
  | nil => rw [mapItemTexts,List.map_nil]
  | cons item items ih => rw [mapItemTexts,List.map_cons,ih]

theorem mapFieldTexts_eq_map (fields : List (Text×Json)) : mapFieldTexts translate fields=
    fields.map (fun field => (translate field.1,mapTexts translate field.2)) := by
  induction fields with
  | nil => rw [mapFieldTexts,List.map_nil]
  | cons field fields ih => rw [mapFieldTexts,List.map_cons,ih]

theorem mapTexts_of_allTexts {value : Json} (h : value.AllTexts (fun text => translate text=text)) :
    mapTexts translate value=value := by
  induction h with
  | null => rw [mapTexts]
  | bool value => rw [mapTexts]
  | int value => rw [mapTexts]
  | str htext => rw [mapTexts,htext]
  | arr _ ih =>
    rw [mapTexts,mapItemTexts_eq_map]
    exact congrArg Json.arr ((List.map_congr_left ih).trans (List.map_id _))
  | obj hkeys _ ih =>
    rw [mapTexts,mapFieldTexts_eq_map]
    refine congrArg Json.obj ((List.map_congr_left ?_).trans (List.map_id _))
    intro field hfield
    rw [hkeys field hfield,ih field hfield,id_eq]

end

/-- Values whose keys all have a property. -/
inductive AllKeys (property : Text → Prop) : Json → Prop
  | null : AllKeys property .null
  /-- A truth value has no key. -/
  | bool (value : Bool) : AllKeys property (.bool value)
  /-- An integer has no key. -/
  | int (value : Int) : AllKeys property (.int value)
  | str (text : Text) : AllKeys property (.str text)
  /-- The keys inside the items have the property. -/
  | arr {items : List Json} (items_hold : ∀ item∈items,AllKeys property item) :
    AllKeys property (.arr items)
  /-- The keys, and those inside the field values, have the property. -/
  | obj {fields : List (Text×Json)} (keys_hold : ∀ field∈fields,property field.1)
    (values_hold : ∀ field∈fields,AllKeys property field.2) : AllKeys property (.obj fields)

section

variable {translate : Text → Text}

/-- Every translated text has a property that all translations have. -/
theorem allTexts_mapTexts {property : Text → Prop} (h : ∀ text,property (translate text))
    (value : Json) : (mapTexts translate value).AllTexts property := by
  induction value using json_induction with
  | null => rw [mapTexts]; exact .null
  | bool value => rw [mapTexts]; exact .bool value
  | int value => rw [mapTexts]; exact .int value
  | str text => rw [mapTexts]; exact .str (h text)
  | arr items ih =>
    rw [mapTexts,mapItemTexts_eq_map]
    apply Json.AllTexts.arr
    intro item hitem
    obtain ⟨source,hsource,rfl⟩ := List.mem_map.mp hitem
    exact ih source hsource
  | obj fields ih =>
    rw [mapTexts,mapFieldTexts_eq_map]
    apply Json.AllTexts.obj
    · intro field hfield
      obtain ⟨source,-,rfl⟩ := List.mem_map.mp hfield
      exact h source.1
    · intro field hfield
      obtain ⟨source,hsource,rfl⟩ := List.mem_map.mp hfield
      exact ih source hsource

theorem AllKeys.mono {property weaker : Text → Prop} (himp : ∀ key,property key → weaker key)
    {value : Json} (h : AllKeys property value) : AllKeys weaker value := by
  induction h with
  | null => exact .null
  | bool value => exact .bool value
  | int value => exact .int value
  | str text => exact .str text
  | arr _ ih => exact .arr ih
  | obj hkeys _ ih => exact .obj (fun field hfield => himp field.1 (hkeys field hfield)) ih

theorem allTexts_mono {property weaker : Text → Prop} (himp : ∀ text,property text → weaker text)
    {value : Json} (h : value.AllTexts property) : value.AllTexts weaker := by
  induction h with
  | null => exact .null
  | bool value => exact .bool value
  | int value => exact .int value
  | str htext => exact .str (himp _ htext)
  | arr _ ih => exact .arr ih
  | obj hkeys _ ih => exact .obj (fun field hfield => himp field.1 (hkeys field hfield)) ih

/-- Translating twice is translating by the composition. -/
theorem mapTexts_mapTexts {other : Text → Text} (value : Json) :
    mapTexts other (mapTexts translate value)=mapTexts (fun text => other (translate text)) value := by
  induction value using json_induction with
  | null => simp only [mapTexts]
  | bool value => simp only [mapTexts]
  | int value => simp only [mapTexts]
  | str text => simp only [mapTexts]
  | arr items ih =>
    simp only [mapTexts,mapItemTexts_eq_map,List.map_map,Json.arr.injEq]
    exact List.map_congr_left ih
  | obj fields ih =>
    simp only [mapTexts,mapFieldTexts_eq_map,List.map_map,Json.obj.injEq]
    apply List.map_congr_left
    intro field hfield
    simp only [Function.comp_apply,ih field hfield]

/-- A translation that tells the texts of a value apart keeps its keys distinct. -/
theorem uniqueKeys_mapTexts {property : Text → Prop} (hinjective : ∀ first second,
      property first → property second → translate first=translate second → first=second)
    {value : Json} (hunique : value.UniqueKeys) (h : value.AllTexts property) :
    (mapTexts translate value).UniqueKeys := by
  induction hunique with
  | null => rw [mapTexts]; exact .null
  | bool value => rw [mapTexts]; exact .bool value
  | int value => rw [mapTexts]; exact .int value
  | str text => rw [mapTexts]; exact .str (translate text)
  | arr _ ih =>
    cases h with
    | arr hitems =>
      rw [mapTexts,mapItemTexts_eq_map]
      apply Json.UniqueKeys.arr
      intro item hitem
      obtain ⟨source,hsource,rfl⟩ := List.mem_map.mp hitem
      exact ih source hsource (hitems source hsource)
  | @obj fields hkeys _ ih =>
    cases h with
    | obj htexts hfields =>
      rw [mapTexts,mapFieldTexts_eq_map]
      apply Json.UniqueKeys.obj
      · have hmap : (fields.map (fun field => (translate field.1,mapTexts translate field.2))).map
            Prod.fst=(fields.map Prod.fst).map translate := by
          rw [List.map_map,List.map_map]
          rfl
        rw [hmap]
        refine hkeys.map_on ?_
        intro first hfirst second hsecond
        obtain ⟨source,hsource,rfl⟩ := List.mem_map.mp hfirst
        obtain ⟨other,hother,rfl⟩ := List.mem_map.mp hsecond
        exact hinjective _ _ (htexts source hsource) (htexts other hother)
      · intro field hfield
        obtain ⟨source,hsource,rfl⟩ := List.mem_map.mp hfield
        exact ih source hsource (hfields source hsource)

/-- A translation that keeps the keys commutes with putting them in order. -/
theorem sortKeys_mapTexts {value : Json} (h : AllKeys (fun key => translate key=key) value) :
    (mapTexts translate value).sortKeys=mapTexts translate value.sortKeys := by
  induction h with
  | null => simp only [mapTexts,Json.sortKeys]
  | bool value => simp only [mapTexts,Json.sortKeys]
  | int value => simp only [mapTexts,Json.sortKeys]
  | str text => simp only [mapTexts,Json.sortKeys]
  | arr _ ih =>
    simp only [mapTexts,mapItemTexts_eq_map,Json.sortKeys,Json.sortItems_eq_map,List.map_map,
      Json.arr.injEq]
    exact List.map_congr_left ih
  | @obj fields hkeys _ ih =>
    simp only [mapTexts,mapFieldTexts_eq_map,Json.sortKeys,Json.sortFields_eq_map,List.map_map,
      Json.obj.injEq]
    rw [List.map_insertionSort Json.keyLe Json.keyLe]
    · rw [List.map_map]
      congr 1
      apply List.map_congr_left
      intro field hfield
      simp only [Function.comp_apply,ih field hfield]
    · intro first hfirst second hsecond
      obtain ⟨source,hsource,rfl⟩ := List.mem_map.mp hfirst
      obtain ⟨other,hother,rfl⟩ := List.mem_map.mp hsecond
      simp only [Json.keyLe,hkeys source hsource,hkeys other hother]

end

section

variable {split : Nat → Text} (hascii : ∀ character<128,split character=[character])
  (hother : ∀ character,128 ≤ character → ∀ unit∈split character,128 ≤ unit)

include hascii

/-- ASCII text is kept by splitting characters above ASCII. -/
theorem flatMap_ascii {text : Text} (h : ∀ character∈text,character<128) :
    text.flatMap split=text := by
  induction text with
  | nil => rfl
  | cons character text ih =>
    obtain ⟨hhead,htail⟩ := List.forall_mem_cons.mp h
    rw [List.flatMap_cons,hascii character hhead,ih htail,List.singleton_append]

/-- Splitting commutes with joining texts by commas. -/
theorem flatMap_intercalate (texts : List Text) : ([code ','].intercalate texts).flatMap split=
    [code ','].intercalate (texts.map (fun text => text.flatMap split)) := by
  induction texts with
  | nil => rfl
  | cons text texts ih =>
    have hcomma : split (code ',')=[code ','] := hascii _ (by decide)
    rw [List.map_cons,intercalate_cons,intercalate_cons,List.flatMap_append]
    by_cases hempty : texts=[]
    · rw [if_pos hempty,if_pos (List.map_eq_nil_iff.mpr hempty),List.flatMap_nil]
    · rw [if_neg hempty,if_neg (fun hmap => hempty (List.map_eq_nil_iff.mp hmap)),
        List.flatMap_cons,hcomma,ih,List.singleton_append]

include hother

theorem flatMap_escapeChar (character : Nat) :
    (split character).flatMap escapeChar=(escapeChar character).flatMap split := by
  have hplain : ∀ unit,128 ≤ unit → escapeChar unit=[unit] := by
    intro unit hunit
    have hcodes : code '"'=34 ∧ code '\\'=92 := by decide
    unfold escapeChar
    rw [if_neg (by omega),if_neg (by omega),if_neg (by omega),if_neg (by omega),if_neg (by omega),
      if_neg (by omega),if_neg (by omega),if_neg (by omega)]
  by_cases hlow : character<128
  · have hwritten : ∀ written∈escapeChar character,written<128 := by
      intro written hmem
      rcases mem_escapeChar hmem with ⟨rfl,-⟩ | ⟨-,hlt⟩
      · exact hlow
      · omega
    rw [hascii character hlow,flatMap_ascii hascii hwritten,List.flatMap_singleton]
  · have hunits := hother character (by omega)
    rw [hplain character (by omega),List.flatMap_singleton]
    rw [List.flatMap_congr (fun unit hmem => hplain unit (hunits unit hmem)),List.flatMap_singleton']

theorem flatMap_quote (text : Text) : quote (text.flatMap split)=(quote text).flatMap split := by
  have hmark : split (code '"')=[code '"'] := hascii _ (by decide)
  have hbody : (text.flatMap split).flatMap escapeChar=(text.flatMap escapeChar).flatMap split := by
    rw [List.flatMap_assoc,List.flatMap_assoc]
    exact List.flatMap_congr (fun character _ => flatMap_escapeChar hascii hother character)
  rw [quote,quote,List.flatMap_cons,List.flatMap_append,hmark,hbody,List.flatMap_singleton,hmark,
    List.singleton_append]

/-- Splitting commutes with encoding a value. -/
theorem dumps_mapTexts (value : Json) :
    dumps (mapTexts (fun text => text.flatMap split) value)=(dumps value).flatMap split := by
  have hliteral : ∀ {text : Text},(∀ character∈text,character<128) → text=text.flatMap split :=
    fun h => (flatMap_ascii hascii h).symm
  have hcode : ∀ character<128,∀ text : Text,
      (character::text).flatMap split=character::text.flatMap split := by
    intro character hlt text
    rw [List.flatMap_cons,hascii character hlt,List.singleton_append]
  induction value using json_induction with
  | null =>
    simp only [mapTexts,dumps]
    exact hliteral (by decide)
  | bool value =>
    simp only [mapTexts,dumps]
    cases value with
    | false => exact hliteral (by decide)
    | true => exact hliteral (by decide)
  | int value =>
    simp only [mapTexts,dumps]
    exact hliteral (forall_mem_decimalInt (fun character _ hlt => Nat.lt_trans hlt (by decide)) value)
  | str text =>
    simp only [mapTexts,dumps]
    exact flatMap_quote hascii hother text
  | arr items ih =>
    have hitems : ∀ list : List Json,(∀ item∈list,dumps (mapTexts (fun text =>
        text.flatMap split) item)=(dumps item).flatMap split) →
        dumpsItems (mapItemTexts (fun text => text.flatMap split) list)=
          (dumpsItems list).map (fun text => text.flatMap split) := by
      intro list hlist
      induction list with
      | nil => rfl
      | cons item list ihlist =>
        obtain ⟨hhead,htail⟩ := List.forall_mem_cons.mp hlist
        rw [mapItemTexts,dumpsItems,dumpsItems,List.map_cons,hhead,ihlist htail]
    rw [mapTexts,dumps,dumps,hitems items ih,hcode _ (by decide),List.flatMap_append,
      flatMap_intercalate hascii,List.flatMap_singleton,hascii _ (by decide)]
  | obj fields ih =>
    have hfields : ∀ list : List (Text×Json),(∀ field∈list,dumps (mapTexts (fun text =>
        text.flatMap split) field.2)=(dumps field.2).flatMap split) →
        dumpsFields (mapFieldTexts (fun text => text.flatMap split) list)=
          (dumpsFields list).map (fun text => text.flatMap split) := by
      intro list hlist
      induction list with
      | nil => rfl
      | cons field list ihlist =>
        obtain ⟨hhead,htail⟩ := List.forall_mem_cons.mp hlist
        rw [mapFieldTexts,dumpsFields,dumpsFields,List.map_cons,hhead,ihlist htail,
          flatMap_quote hascii hother,List.flatMap_append,hcode _ (by decide)]
    rw [mapTexts,dumps,dumps,hfields fields ih,hcode _ (by decide),List.flatMap_append,
      flatMap_intercalate hascii,List.flatMap_singleton,hascii _ (by decide)]

end

end ControlGraph.JsonTranslation
