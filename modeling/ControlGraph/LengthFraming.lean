import Mathlib.Data.List.Basic

/-!
# Parts behind their lengths

A list of parts is written as one string by putting a header of fixed width
before each part, computed from its length. A reader takes the header, learns the
length, takes the part and goes on, so the string determines the parts
wherever the header determines the length. Nothing is asked of the parts
themselves: they may contain anything that a header contains.
-/

namespace ControlGraph.LengthFraming

universe u

variable {α : Type u} {header : Nat → List α}

/-- A part behind the header of its length. -/
def frame (header : Nat → List α) (part : List α) : List α := header part.length++part

/-- Parts that follow one another, each behind its header. -/
def frames (header : Nat → List α) (parts : List (List α)) : List α :=
  (parts.map (frame header)).flatten

theorem frame_append_injective {width limit : Nat} (hwidth : ∀ length,(header length).length=width)
    (hheader : ∀ first < limit,∀ second < limit,header first=header second → first=second)
    {first second rest tail : List α} (hfirst : first.length < limit) (hsecond : second.length < limit)
    (h : frame header first++rest=frame header second++tail) : first=second ∧ rest=tail := by
  have hlengths : (header first.length).length=(header second.length).length := by
    rw [hwidth,hwidth]
  rw [frame,frame,List.append_assoc,List.append_assoc] at h
  obtain ⟨hheaders,hparts⟩ := List.append_inj h hlengths
  exact List.append_inj hparts (hheader _ hfirst _ hsecond hheaders)

theorem frames_injective {width limit : Nat} (hpos : 0 < width)
    (hwidth : ∀ length,(header length).length=width)
    (hheader : ∀ first < limit,∀ second < limit,header first=header second → first=second)
    {parts others : List (List α)} (hparts : ∀ part∈parts,part.length < limit)
    (hothers : ∀ part∈others,part.length < limit)
    (h : frames header parts=frames header others) : parts=others := by
  have hframe : ∀ part rest,frame header part++rest≠([] : List α) := by
    intro part rest hnil
    have hlength := congrArg List.length hnil
    rw [frame,List.length_append,List.length_append,hwidth,List.length_nil] at hlength
    omega
  induction parts generalizing others with
  | nil =>
    cases others with
    | nil => rfl
    | cons other others => exact absurd h.symm (hframe other (frames header others))
  | cons part parts ih =>
    cases others with
    | nil => exact absurd h (hframe part (frames header parts))
    | cons other others =>
      obtain ⟨rfl,hrest⟩ := frame_append_injective hwidth hheader
        (hparts part List.mem_cons_self) (hothers other List.mem_cons_self) h
      rw [ih (fun inner hmem => hparts inner (List.mem_cons_of_mem _ hmem))
        (fun inner hmem => hothers inner (List.mem_cons_of_mem _ hmem)) hrest]

end ControlGraph.LengthFraming
