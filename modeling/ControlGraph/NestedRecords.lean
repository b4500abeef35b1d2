import ControlGraph.FlatRecords

/-!
# Nested records

A record holds numbers, texts, absent values and further records, and its fields
stand in key order. It is then its own sorted form, and its text gives the whole
record back, however deep its fields are nested and whatever its texts look
like. Where the texts are known to have bytes, so has the record.
-/

namespace ControlGraph.NestedRecords

open FlatRecords JsonText JsonValues Utf8Text

open JsonValues.Json (UniqueKeys AllTexts keyLe sortFields sortFields_eq_map)

/-- A number, a text, nothing, or fields in strict key order that hold records. -/
inductive Record (property : Text → Prop) : Json → Prop
  | null : Record property .null
  | number (value : Int) : Record property (.int value)
  | text {characters : Text} (holds : property characters) : Record property (.str characters)
  | fields {fields : List (Text×Json)} (names : List String)
      (keys : fields.map Prod.fst=names.map chars) (ordered : (names.map chars).Pairwise (· < ·))
      (values : ∀ field∈fields,Record property field.2) : Record property (.obj fields)

theorem Record.literal (value : String) : Record Written (.str (chars value)) :=
  .text (written_chars value)

variable {property : Text → Prop} {value other : Json}

theorem Record.uniqueKeys (h : Record property value) : UniqueKeys value := by
  induction h with
  | null => exact .null
  | number value => exact .int value
  | text _ => exact .str _
  | fields names keys ordered _ ih =>
    refine .obj ?_ ih
    rw [keys]
    exact ordered.imp fun hlt => ne_of_lt hlt

theorem Record.sortKeys (h : Record property value) : value.sortKeys=value := by
  induction h with
  | null => rfl
  | number value => rfl
  | text _ => rfl
  | @fields fields names keys ordered _ ih =>
    have hsame : sortFields fields=fields := by
      rw [sortFields_eq_map]
      refine (List.map_congr_left fun field hfield => ?_).trans (List.map_id _)
      rw [ih field hfield,id_eq]
    have hsorted : fields.Pairwise keyLe := by
      have hkeys : (fields.map Prod.fst).Pairwise (· ≤ ·) := by
        rw [keys]
        exact ordered.imp fun hlt => le_of_lt hlt
      rwa [List.pairwise_map] at hkeys
    rw [Json.sortKeys,hsame,hsorted.insertionSort_eq]

theorem Record.allTexts (h : Record Written value) :
    value.AllTexts (fun text => ∀ character∈text,32 ≤ character → character.isValidChar) := by
  induction h with
  | null => exact .null
  | number value => exact .int value
  | text written => exact .str fun character hmem _ => written character hmem
  | @fields fields names keys _ _ ih =>
    refine .obj (fun field hfield character hmem _ => ?_) ih
    have hkey := @List.mem_map_of_mem _ _ _ _ Prod.fst hfield
    rw [keys,List.mem_map] at hkey
    obtain ⟨name,-,hname⟩ := hkey
    rw [← hname] at hmem
    exact written_chars name character hmem

theorem Record.written (h : Record Written value) : Written (dumpsSorted value) := by
  have hascii : ∀ character : Nat,32 ≤ character → character<127 → character.isValidChar :=
    fun character _ hhigh => Or.inl (by omega)
  rw [dumpsSorted,h.sortKeys]
  exact forall_mem_dumps hascii h.allTexts

theorem Record.eq_of_text (hvalue : Record property value) (hother : Record property other)
    (h : dumpsSorted value=dumpsSorted other) : value=other := by
  have hsame := dumpsSorted_injective hvalue.uniqueKeys hother.uniqueKeys h
  rwa [Json.SameValue,hvalue.sortKeys,hother.sortKeys] at hsame

theorem Record.eq_of_bytes (hvalue : Record Written value) (hother : Record Written other)
    (h : utf8Bytes (dumpsSorted value)=utf8Bytes (dumpsSorted other)) : value=other := by
  have hencoded : encodeUtf8 (dumpsSorted other)=some (utf8Bytes (dumpsSorted other)) :=
    if_pos hother.written
  rw [← h] at hencoded
  exact hvalue.eq_of_text hother (encodeUtf8_injective (if_pos hvalue.written) hencoded)

end ControlGraph.NestedRecords
