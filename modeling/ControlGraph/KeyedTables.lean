import Mathlib.Data.List.Basic

/-!
# Keyed tables and walks over their parent pointers

A table lists keys with their values, and every value may point to a parent key. A walk
follows the pointers from one key until it leaves the table, reaches a value
without a parent, or comes back to a visited key. Visited keys are removed
from the keys that are left, so every walk ends. A rank that decreases along
the pointers excludes every cycle.
-/

namespace ControlGraph.KeyedTables

universe u v

variable {κ : Type u} {ν : Type v}

/-- A looked-up entry is one of the table. -/
theorem mem_of_lookup [BEq κ] [LawfulBEq κ] {key : κ} {value : ν} {table : List (κ×ν)}
    (h : table.lookup key=some value) : (key,value)∈table := by
  induction table with
  | nil => cases h
  | cons entry table ih =>
    rw [List.lookup_cons] at h
    by_cases hkey : key=entry.1
    · simp only [hkey,beq_self_eq_true,Option.some.injEq] at h
      rw [hkey,← h]
      exact List.mem_cons_self
    · rw [beq_false_of_ne hkey] at h
      exact List.mem_cons_of_mem _ (ih h)

/-- An entry of a table without repeated keys is the one looked up. -/
theorem lookup_of_mem [BEq κ] [LawfulBEq κ] {key : κ} {value : ν} {table : List (κ×ν)}
    (hkeys : (table.map Prod.fst).Nodup) (h : (key,value)∈table) :
    table.lookup key=some value := by
  induction table with
  | nil => cases h
  | cons entry table ih =>
    rw [List.map_cons,List.nodup_cons] at hkeys
    rw [List.lookup_cons]
    rcases List.mem_cons.mp h with rfl | htail
    · simp only [beq_self_eq_true]
    · have hne : key≠entry.1 := by
        rintro rfl
        exact hkeys.1 (List.mem_map.mpr ⟨_,htail,rfl⟩)
      rw [beq_false_of_ne hne]
      exact ih hkeys.2 htail

variable [DecidableEq κ]

/-- Fewer keys are left once a key of the table is visited. -/
theorem unvisited_lt {table : List (κ×ν)} {visited : List κ} {current : κ} {value : ν}
    (hlookup : table.lookup current=some value) (hnew : current∉visited) :
    (table.filter (fun entry => decide (entry.1∉current::visited))).length<
      (table.filter (fun entry => decide (entry.1∉visited))).length := by
  induction table with
  | nil => cases hlookup
  | cons entry table ih =>
    have hmono : (table.filter (fun entry => decide (entry.1∉current::visited))).length≤
        (table.filter (fun entry => decide (entry.1∉visited))).length := by
      apply List.Sublist.length_le
      apply List.monotone_filter_right
      intro other hother
      simp only [List.mem_cons,not_or,decide_eq_true_eq] at hother ⊢
      exact hother.2
    by_cases hkey : entry.1=current
    · have hout : ¬entry.1∉current::visited := by
        rw [hkey]
        exact not_not.mpr List.mem_cons_self
      have hin : entry.1∉visited := by
        rw [hkey]
        exact hnew
      rw [List.filter_cons_of_neg (by simpa using hout),List.filter_cons_of_pos (by simpa using hin)]
      exact Nat.lt_succ_of_le hmono
    · have hrest : table.lookup current=some value := by
        rw [← hlookup,List.lookup_cons,beq_false_of_ne (Ne.symm hkey)]
      have hlt := ih hrest
      have hsame : entry.1∉current::visited ↔ entry.1∉visited := by
        simp only [List.mem_cons,hkey,false_or]
      by_cases hin : entry.1∉visited
      · rw [List.filter_cons_of_pos (by simpa using hsame.mpr hin),
          List.filter_cons_of_pos (by simpa using hin)]
        exact Nat.succ_lt_succ hlt
      · rw [List.filter_cons_of_neg (by simpa using hsame.not.mpr hin),
          List.filter_cons_of_neg (by simpa using hin)]
        exact hlt

/-- Whether the walk from a key comes back to a visited key. -/
def walkRepeats (table : List (κ×ν)) (parent : ν → Option κ) (visited : List κ) (current : κ) :
    Bool :=
  match _hlookup : table.lookup current with
  | none => false
  | some value =>
    if _hvisited : current∈visited then true
    else
      match parent value with
      | none => false
      | some next => walkRepeats table parent (current::visited) next
termination_by (table.filter (fun entry => decide (entry.1∉visited))).length
decreasing_by exact unvisited_lt _hlookup _hvisited

/-- Whether the walk from some key of the table comes back. -/
def hasCycle (table : List (κ×ν)) (parent : ν → Option κ) : Bool :=
  table.any (fun entry => walkRepeats table parent [] entry.1)

/-- A walk along a decreasing rank never comes back. -/
theorem walkRepeats_of_rank {table : List (κ×ν)} {parent : ν → Option κ} {rank : κ → Nat}
    (hrank : ∀ {key value next},(key,value)∈table → parent value=some next →
      rank next < rank key) (visited : List κ) (current : κ)
    (hvisited : ∀ key∈visited,rank current < rank key) :
    walkRepeats table parent visited current=false := by
  fun_induction walkRepeats table parent visited current with
  | case1 => rfl
  | case2 visited current value hlookup hmem => exact absurd (hvisited current hmem) (Nat.lt_irrefl _)
  | case3 => rfl
  | case4 visited current value hlookup hnew next hnext ih =>
    apply ih
    intro key hkey
    have hstep := hrank (mem_of_lookup hlookup) hnext
    rcases List.mem_cons.mp hkey with rfl | hkey
    · exact hstep
    · exact Nat.lt_trans hstep (hvisited key hkey)

theorem hasCycle_of_rank {table : List (κ×ν)} {parent : ν → Option κ} {rank : κ → Nat}
    (hrank : ∀ {key value next},(key,value)∈table → parent value=some next →
      rank next < rank key) : hasCycle table parent=false := by
  rw [hasCycle,List.any_eq_false]
  intro entry _
  rw [walkRepeats_of_rank hrank [] entry.1 (fun key hkey => absurd hkey List.not_mem_nil)]
  exact Bool.false_ne_true

end ControlGraph.KeyedTables
