import Mathlib.Data.List.Induction
import ControlGraph.LabelledRuns

/-!
# Versioned tables under atomic batches

A table keeps at most one document under each key, and a batch writes
documents under several keys at one instant. In a succession every document
that is written over another one has a later revision. A key then never holds
two different documents of one revision, however the batches of several
writers interleave: a document that was overtaken by another one of its
revision was not written, and no later batch of the succession writes it.
-/

namespace ControlGraph.VersionedTables

open LabelledRuns

universe u v

variable {Key : Type u} {Document : Type v}

/-- Table after a batch. -/
def write (table batch : Key → Option Document) : Key → Option Document :=
  fun key => match batch key with
    | some document => some document
    | none => table key

variable (revision : Document → Nat)

/-- A document is written where there is none, or over a document of an earlier
revision. -/
def Succeeds (current : Option Document) (next : Document) : Prop :=
  ∀ found,current=some found → revision found < revision next

/-- Every document of every batch succeeds what it is written over. -/
def Succession (table : Key → Option Document) (batches : List (Key → Option Document)) : Prop :=
  ∀ earlier batch later,batches=earlier++batch::later → ∀ key next,batch key=some next →
    Succeeds revision (run write table earlier key) next

variable {revision}

/-- A document that was there at first or that some batch wrote. -/
def Held (table : Key → Option Document) (batches : List (Key → Option Document)) (key : Key)
    (document : Document) : Prop :=
  table key=some document ∨ ∃ batch∈batches,batch key=some document

section

variable {table : Key → Option Document} {batches : List (Key → Option Document)} {key : Key}

/-- A batch is read back where it writes. -/
theorem write_of_some {batch : Key → Option Document} {document : Document}
    (h : batch key=some document) : write table batch key=some document := by
  simp only [write,h]

/-- A batch changes nothing where it does not write. -/
theorem write_of_none {batch : Key → Option Document} (h : batch key=none) :
    write table batch key=table key := by
  simp only [write,h]

theorem succession_nil : Succession revision table [] := by
  intro earlier batch later hsplit
  cases earlier with
  | nil => cases hsplit
  | cons first earlier => cases hsplit

/-- A succession goes on with a batch that succeeds the table it meets. -/
theorem succession_concat {batch : Key → Option Document} :
    Succession revision table (batches++[batch]) ↔ Succession revision table batches ∧
      ∀ key next,batch key=some next → Succeeds revision (run write table batches key) next := by
  constructor
  · intro h
    refine ⟨?_,h batches batch [] rfl⟩
    intro earlier middle later hsplit
    refine h earlier middle (later++[batch]) ?_
    rw [hsplit,List.append_assoc,List.cons_append]
  · rintro ⟨hfront,hlast⟩ earlier middle later hsplit
    rcases List.eq_nil_or_concat later with rfl | ⟨rest,last,rfl⟩
    · obtain ⟨rfl,hbatch⟩ := List.append_inj' hsplit rfl
      cases hbatch
      exact hlast
    · rw [List.concat_eq_append,← List.cons_append,← List.append_assoc] at hsplit
      obtain ⟨rfl,-⟩ := List.append_inj' hsplit rfl
      exact hfront earlier middle rest rfl

theorem Held.append {document : Document} {later : List (Key → Option Document)}
    (h : Held table batches key document) : Held table (batches++later) key document := by
  rcases h with hfirst | ⟨batch,hmem,hbatch⟩
  · exact .inl hfirst
  · exact .inr ⟨batch,List.mem_append_left _ hmem,hbatch⟩

/-- What is held after one more batch was held before it, or is what it writes. -/
theorem held_concat {batch : Key → Option Document} {document : Document} :
    Held table (batches++[batch]) key document ↔
      Held table batches key document ∨ batch key=some document := by
  constructor
  · rintro (hfirst | ⟨found,hmem,hfound⟩)
    · exact .inl (.inl hfirst)
    · rcases List.mem_append.mp hmem with hold | hnew
      · exact .inl (.inr ⟨found,hold,hfound⟩)
      · rw [List.mem_singleton.mp hnew] at hfound
        exact .inr hfound
  · rintro (hold | hnew)
    · exact hold.append
    · exact .inr ⟨batch,List.mem_append_right _ List.mem_cons_self,hnew⟩

theorem held_current {document : Document} (h : run write table batches key=some document) :
    Held table batches key document := by
  induction batches using List.reverseRecOn with
  | nil => exact .inl h
  | append_singleton batches batch ih =>
    rw [run_concat] at h
    rw [held_concat]
    cases hbatch : batch key with
    | none =>
      rw [write_of_none hbatch] at h
      exact .inl (ih h)
    | some written =>
      rw [write_of_some hbatch] at h
      exact .inr h

/-- A held document is the current one or has an earlier revision. -/
theorem current_of_held {document : Document} (hsuccession : Succession revision table batches)
    (h : Held table batches key document) : ∃ current,run write table batches key=some current ∧
      (current=document ∨ revision document < revision current) := by
  induction batches using List.reverseRecOn with
  | nil =>
    rcases h with hfirst | ⟨batch,hmem,-⟩
    · exact ⟨document,hfirst,.inl rfl⟩
    · cases hmem
  | append_singleton batches batch ih =>
    rw [succession_concat] at hsuccession
    rw [run_concat]
    rcases held_concat.mp h with hold | hnew
    · obtain ⟨current,hcurrent,hnewer⟩ := ih hsuccession.1 hold
      cases hbatch : batch key with
      | none => exact ⟨current,(write_of_none hbatch).trans hcurrent,hnewer⟩
      | some written =>
        have hnext : revision current < revision written :=
          hsuccession.2 key written hbatch current hcurrent
        refine ⟨written,write_of_some hbatch,.inr ?_⟩
        rcases hnewer with rfl | hlt
        · omega
        · omega
    · exact ⟨document,write_of_some hnew,.inl rfl⟩

/-- A key holds one document of each revision. -/
theorem held_unique {first second : Document} (hsuccession : Succession revision table batches)
    (hfirst : Held table batches key first) (hsecond : Held table batches key second)
    (hrevision : revision first=revision second) : first=second := by
  induction batches using List.reverseRecOn with
  | nil =>
    rcases hfirst with hfirst | ⟨batch,hmem,-⟩
    · rcases hsecond with hsecond | ⟨batch,hmem,-⟩
      · exact Option.some.inj (hfirst.symm.trans hsecond)
      · cases hmem
    · cases hmem
  | append_singleton batches batch ih =>
    rw [succession_concat] at hsuccession
    have hnewer : ∀ old new,Held table batches key old → batch key=some new →
        revision old < revision new := by
      intro old new hold hnew
      obtain ⟨current,hcurrent,hcases⟩ := current_of_held hsuccession.1 hold
      have hnext : revision current < revision new := hsuccession.2 key new hnew current hcurrent
      rcases hcases with rfl | hlt
      · omega
      · omega
    rcases held_concat.mp hfirst with holdFirst | hnewFirst
    · rcases held_concat.mp hsecond with holdSecond | hnewSecond
      · exact ih hsuccession.1 holdFirst holdSecond
      · have hlt := hnewer first second holdFirst hnewSecond
        omega
    · rcases held_concat.mp hsecond with holdSecond | hnewSecond
      · have hlt := hnewer second first holdSecond hnewFirst
        omega
      · exact Option.some.inj (hnewFirst.symm.trans hnewSecond)

end

end ControlGraph.VersionedTables
