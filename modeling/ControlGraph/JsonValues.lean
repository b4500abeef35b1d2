import ControlGraph.ContractText
import Mathlib.Data.List.Sort
import Mathlib.Data.List.Lex

/-!
# JSON values and dictionary equality

Texts are lists of code points, so that a lone surrogate can be written down.
An object lists its fields in insertion order; two objects are the same
dictionary exactly when they agree once every object is put in key order.
-/

namespace ControlGraph.JsonValues

/-- A text as its code points. -/
abbrev Text := List Nat

/-- Code points of a literal. -/
def chars (literal : String) : Text := (ContractText.charactersOf literal).map Char.toNat

theorem chars_eq (literal : String) : chars literal=literal.toList.map Char.toNat := by
  rw [chars,ContractText.charactersOf_eq]

theorem mem_chars {text : String} {unit : Nat} :
    unit∈chars text ↔ ∃ character,character∈text.toList ∧ character.toNat=unit := by
  rw [chars_eq,List.mem_map]

/-- JSON values without floating-point numbers. -/
inductive Json
  | null
  | bool (value : Bool)
  /-- An integer of any size. -/
  | int (value : Int)
  | str (text : Text)
  | arr (items : List Json)
  /-- An object, in insertion order. -/
  | obj (fields : List (Text×Json))

namespace Json

/-- Values whose objects repeat no key, which are the values a dictionary can hold. -/
inductive UniqueKeys : Json → Prop
  | null : UniqueKeys .null
  /-- A truth value has no key. -/
  | bool (value : Bool) : UniqueKeys (.bool value)
  /-- An integer has no key. -/
  | int (value : Int) : UniqueKeys (.int value)
  | str (text : Text) : UniqueKeys (.str text)
  /-- The items of an array repeat no key. -/
  | arr {items : List Json} (items_unique : ∀ item∈items,UniqueKeys item) :
    UniqueKeys (.arr items)
  /-- The keys differ and the field values repeat no key. -/
  | obj {fields : List (Text×Json)} (keys_nodup : (fields.map Prod.fst).Nodup)
    (values_unique : ∀ field∈fields,UniqueKeys field.2) : UniqueKeys (.obj fields)

/-- Values whose strings and keys all have a property. -/
inductive AllTexts (property : Text → Prop) : Json → Prop
  | null : AllTexts property .null
  /-- A truth value has no text. -/
  | bool (value : Bool) : AllTexts property (.bool value)
  /-- An integer has no text. -/
  | int (value : Int) : AllTexts property (.int value)
  | str {text : Text} (text_holds : property text) : AllTexts property (.str text)
  /-- The texts of the items have the property. -/
  | arr {items : List Json} (items_hold : ∀ item∈items,AllTexts property item) :
    AllTexts property (.arr items)
  /-- The keys and the texts of the field values have the property. -/
  | obj {fields : List (Text×Json)} (keys_hold : ∀ field∈fields,property field.1)
    (values_hold : ∀ field∈fields,AllTexts property field.2) : AllTexts property (.obj fields)

/-- Order of fields by key. -/
def keyLe (first second : Text×Json) : Prop := first.1 ≤ second.1

instance : DecidableRel keyLe := fun first second => inferInstanceAs (Decidable (first.1 ≤ second.1))

instance : Std.Total keyLe := ⟨fun first second => le_total first.1 second.1⟩

instance : IsTrans (Text×Json) keyLe := ⟨fun _ _ _ => le_trans⟩

mutual

/-- Put every object of a value in key order. -/
def sortKeys : Json → Json
  | .null => .null
  | .bool value => .bool value
  | .int value => .int value
  | .str text => .str text
  | .arr items => .arr (sortItems items)
  | .obj fields => .obj ((sortFields fields).insertionSort keyLe)

/-- Put every object of the items in key order. -/
def sortItems : List Json → List Json
  | [] => []
  | item::items => sortKeys item::sortItems items

/-- Put every object of the field values in key order. -/
def sortFields : List (Text×Json) → List (Text×Json)
  | [] => []
  | (key,value)::fields => (key,sortKeys value)::sortFields fields

end

/-- Two values are equal as dictionaries. -/
def SameValue (first second : Json) : Prop := sortKeys first=sortKeys second

theorem sortItems_eq_map (items : List Json) : sortItems items=items.map sortKeys := by
  induction items with
  | nil => rw [sortItems,List.map_nil]
  | cons item items ih => rw [sortItems,List.map_cons,ih]

theorem sortFields_eq_map (fields : List (Text×Json)) :
    sortFields fields=fields.map (fun field => (field.1,sortKeys field.2)) := by
  induction fields with
  | nil => rw [sortFields,List.map_nil]
  | cons field fields ih => rw [sortFields,List.map_cons,ih]

/-- A sorted object holds the sorted values of the fields it came from. -/
theorem mem_sorted_fields {fields : List (Text×Json)} {field : Text×Json}
    (h : field∈(sortFields fields).insertionSort keyLe) :
    ∃ source∈fields,field=(source.1,sortKeys source.2) := by
  rw [List.mem_insertionSort,sortFields_eq_map,List.mem_map] at h
  obtain ⟨source,hsource,heq⟩ := h
  exact ⟨source,hsource,heq.symm⟩

/-- Sorting keeps the keys of an object, up to their order. -/
theorem sorted_keys_perm (fields : List (Text×Json)) :
    (((sortFields fields).insertionSort keyLe).map Prod.fst).Perm (fields.map Prod.fst) := by
  have hsort := (List.perm_insertionSort keyLe (sortFields fields)).map Prod.fst
  have hkeys : (sortFields fields).map Prod.fst=fields.map Prod.fst := by
    rw [sortFields_eq_map,List.map_map]
    rfl
  rwa [hkeys] at hsort

theorem length_sorted_fields (fields : List (Text×Json)) :
    ((sortFields fields).insertionSort keyLe).length=fields.length := by
  rw [List.length_insertionSort,sortFields_eq_map,List.length_map]

/-- Putting the keys in order creates no repeated key. -/
theorem UniqueKeys.sortKeys {value : Json} (h : UniqueKeys value) :
    UniqueKeys value.sortKeys := by
  induction h with
  | null => rw [Json.sortKeys]; exact .null
  | bool value => rw [Json.sortKeys]; exact .bool value
  | int value => rw [Json.sortKeys]; exact .int value
  | str text => rw [Json.sortKeys]; exact .str text
  | arr _ ih =>
    rw [Json.sortKeys,sortItems_eq_map]
    apply UniqueKeys.arr
    intro item hitem
    obtain ⟨source,hsource,rfl⟩ := List.mem_map.mp hitem
    exact ih source hsource
  | obj hkeys _ ih =>
    rw [Json.sortKeys]
    refine UniqueKeys.obj ((sorted_keys_perm _).nodup_iff.mpr hkeys) ?_
    intro field hfield
    obtain ⟨source,hsource,rfl⟩ := mem_sorted_fields hfield
    exact ih source hsource

/-- Putting the keys in order twice changes nothing more. -/
theorem UniqueKeys.sortKeys_idem {value : Json} (h : UniqueKeys value) :
    value.sortKeys.sortKeys=value.sortKeys := by
  induction h with
  | null => simp only [Json.sortKeys]
  | bool value => simp only [Json.sortKeys]
  | int value => simp only [Json.sortKeys]
  | str text => simp only [Json.sortKeys]
  | arr _ ih =>
    simp only [Json.sortKeys,sortItems_eq_map,List.map_map,arr.injEq]
    exact List.map_congr_left ih
  | @obj fields _ _ ih =>
    have hmap : sortFields ((sortFields fields).insertionSort keyLe)=
        (sortFields fields).insertionSort keyLe := by
      rw [sortFields_eq_map]
      refine (List.map_congr_left ?_).trans (List.map_id _)
      intro field hfield
      obtain ⟨source,hsource,rfl⟩ := mem_sorted_fields hfield
      rw [ih source hsource,id_eq]
    have hsorted := List.pairwise_insertionSort keyLe (sortFields fields)
    simp only [Json.sortKeys]
    rw [hmap,hsorted.insertionSort_eq]

/-- Every dictionary equals its key-ordered form. -/
theorem UniqueKeys.sameValue_sortKeys {value : Json} (h : UniqueKeys value) :
    SameValue value.sortKeys value := h.sortKeys_idem

end Json

end ControlGraph.JsonValues
