import ControlGraph.JsonRoundTrip
import ControlGraph.Utf8Text

/-!
# Flat records

Many digests are taken over the text of a record whose fields are in key order
and hold numbers and texts only. Such a record is its own sorted form, its text has
bytes, and the bytes give the record back. A digest that does not collide
on two records therefore tells them apart.
-/

namespace ControlGraph.FlatRecords

open JsonValues JsonText Utf8Text

open JsonValues.Json (UniqueKeys AllTexts keyLe sortFields sortFields_eq_map)

/-- A text of scalar values. -/
def Written (text : Text) : Prop := ∀ character∈text,character.isValidChar

/-- A number or a text. -/
inductive Leaf : Json → Prop
  | number (value : Int) : Leaf (.int value)
  | text {characters : Text} (written : Written characters) : Leaf (.str characters)

/-- Fields in key order with numbers and texts. -/
structure Flat (fields : List (Text×Json)) : Prop where
  ordered : (fields.map Prod.fst).Pairwise (· ≤ ·)
  /-- No key is repeated. -/
  distinct : (fields.map Prod.fst).Nodup
  keys : ∀ key∈fields.map Prod.fst,Written key
  /-- The values are numbers and texts. -/
  leaves : ∀ field∈fields,Leaf field.2

/-- The text of a literal consists of scalar values. -/
theorem written_chars (literal : String) : Written (chars literal) := by
  intro character hmem
  obtain ⟨source,-,rfl⟩ := List.mem_map.mp hmem
  exact source.valid

theorem literal_of_chars {first second : String} (h : chars first=chars second) : first=second := by
  have hinjective : Function.Injective Char.toNat := fun _ _ hsame => Char.toNat_inj.mp hsame
  rw [chars_eq,chars_eq] at h
  exact String.toList_inj.mp (List.map_injective_iff.mpr hinjective h)

/-- A number or a text repeats no key. -/
theorem Leaf.uniqueKeys {value : Json} (h : Leaf value) : UniqueKeys value := by
  cases h with
  | number value => exact .int value
  | text written => exact .str _

/-- A number or a text has nothing to sort. -/
theorem Leaf.sortKeys {value : Json} (h : Leaf value) : value.sortKeys=value := by
  cases h <;> rfl

theorem Leaf.allTexts {value : Json} (h : Leaf value) :
    value.AllTexts (fun text => ∀ character∈text,32 ≤ character → character.isValidChar) := by
  cases h with
  | number value => exact .int value
  | text written => exact .str fun character hmem _ => written character hmem

variable {fields others : List (Text×Json)}

theorem Flat.uniqueKeys (h : Flat fields) : UniqueKeys (.obj fields) :=
  .obj h.distinct fun field hfield => (h.leaves field hfield).uniqueKeys

theorem Flat.sortKeys (h : Flat fields) : (Json.obj fields).sortKeys=.obj fields := by
  have hsame : sortFields fields=fields := by
    rw [sortFields_eq_map]
    refine (List.map_congr_left fun field hfield => ?_).trans (List.map_id _)
    rw [(h.leaves field hfield).sortKeys,id_eq]
  have hkeys := h.ordered
  rw [List.pairwise_map] at hkeys
  have hsorted : fields.Pairwise keyLe := hkeys
  rw [Json.sortKeys,hsame,hsorted.insertionSort_eq]

/-- The text of a flat record consists of scalar values. -/
theorem Flat.written (h : Flat fields) : Written (dumpsSorted (.obj fields)) := by
  have hascii : ∀ character : Nat,32 ≤ character → character<127 → character.isValidChar :=
    fun character _ hhigh => Or.inl (by omega)
  rw [dumpsSorted,h.sortKeys]
  refine forall_mem_dumps hascii (AllTexts.obj ?_ ?_)
  · intro field hfield character hmem _
    exact h.keys field.1 (List.mem_map_of_mem hfield) character hmem
  · exact fun field hfield => (h.leaves field hfield).allTexts

theorem Flat.eq_of_bytes (hfields : Flat fields) (hothers : Flat others)
    (h : utf8Bytes (dumpsSorted (.obj fields))=utf8Bytes (dumpsSorted (.obj others))) :
    fields=others := by
  have hfirst : encodeUtf8 (dumpsSorted (.obj fields))=
      some (utf8Bytes (dumpsSorted (.obj fields))) := if_pos hfields.written
  have hsecond : encodeUtf8 (dumpsSorted (.obj others))=
      some (utf8Bytes (dumpsSorted (.obj others))) := if_pos hothers.written
  rw [← h] at hsecond
  have htext := encodeUtf8_injective hfirst hsecond
  have hvalue := dumpsSorted_injective hfields.uniqueKeys hothers.uniqueKeys htext
  rw [Json.SameValue,hfields.sortKeys,hothers.sortKeys] at hvalue
  exact Json.obj.inj hvalue

end ControlGraph.FlatRecords
