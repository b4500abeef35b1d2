import Mathlib.Data.List.Range
import Mathlib.Data.List.Nodup

/-!
# Chains of events that name their predecessor by digest

Every event but the first carries the digest of the event before it, the next
sequence number, and a time that is not earlier. Following the digests back
from an event visits the events of its chain, one for each sequence number
down to zero. When no two stored events share a digest, nothing else can be
reached.
-/

namespace ControlGraph.HashChains

universe u v

/-- What a chain reads of its events. -/
structure EventLinks (Event : Type u) (Digest : Type v) where
  digest : Event → Digest
  /-- Digest of the event before it. -/
  previous : Event → Option Digest
  sequence : Event → Nat
  time : Event → Int

variable {Event : Type u} {Digest : Type v} (links : EventLinks Event Digest)

/-- The events of a chain, newest first. -/
inductive Chain (stored : Event → Prop) : Event → List Event → Prop
  | first {event : Event} (hstored : stored event) (hsequence : links.sequence event=0)
      (hprevious : links.previous event=none) : Chain stored event [event]
  /-- An event follows the newest one of a chain. -/
  | append {event last : Event} {events : List Event} (hchain : Chain stored last events)
      (hstored : stored event) (hprevious : links.previous event=some (links.digest last))
      (hsequence : links.sequence event=links.sequence last+1)
      (htime : links.time last ≤ links.time event) : Chain stored event (event::events)

/-- Events that are reached by following the digests back over stored events. -/
inductive Reachable (stored : Event → Prop) (newest : Event) : Event → Prop
  /-- The newest event itself. -/
  | here : Reachable stored newest newest
  /-- A stored event that a reached event names. -/
  | back {event earlier : Event} (hreached : Reachable stored newest event)
      (hstored : stored earlier) (hprevious : links.previous event=some (links.digest earlier)) :
      Reachable stored newest earlier

variable {links} {stored : Event → Prop} {newest : Event} {events : List Event}

namespace Chain

/-- The newest event comes first. -/
theorem head (h : Chain links stored newest events) : ∃ older,events=newest::older := by
  cases h with
  | first hstored hsequence hprevious => exact ⟨[],rfl⟩
  | append hchain hstored hprevious hsequence htime => exact ⟨_,rfl⟩

theorem stored_of_mem (h : Chain links stored newest events) : ∀ event∈events,stored event := by
  induction h with
  | first hstored hsequence hprevious =>
    intro event hmem
    rw [List.mem_singleton.mp hmem]
    exact hstored
  | append hchain hstored hprevious hsequence htime ih =>
    intro event hmem
    rcases List.mem_cons.mp hmem with rfl | hold
    · exact hstored
    · exact ih event hold

theorem stored_newest (h : Chain links stored newest events) : stored newest := by
  obtain ⟨older,rfl⟩ := h.head
  exact h.stored_of_mem newest List.mem_cons_self

/-- A chain stays a chain when more events are stored. -/
theorem mono {more : Event → Prop} (hmore : ∀ event,stored event → more event)
    (h : Chain links stored newest events) : Chain links more newest events := by
  induction h with
  | first hstored hsequence hprevious => exact .first (hmore _ hstored) hsequence hprevious
  | append hchain hstored hprevious hsequence htime ih =>
    exact .append ih (hmore _ hstored) hprevious hsequence htime

/-- A chain has one event for each sequence number down to zero. -/
theorem sequences (h : Chain links stored newest events) :
    events.map links.sequence=(List.range (links.sequence newest+1)).reverse := by
  induction h with
  | first hstored hsequence hprevious =>
    rw [List.map_singleton,hsequence]
    rfl
  | @append event last events hchain hstored hprevious hsequence htime ih =>
    have hrange : (List.range (links.sequence last+1+1)).reverse=
        (links.sequence last+1)::(List.range (links.sequence last+1)).reverse := by
      rw [List.range_succ,List.reverse_append]
      rfl
    rw [List.map_cons,ih,hsequence,hrange]

theorem nodup (h : Chain links stored newest events) : events.Nodup := by
  have hsequences : (events.map links.sequence).Nodup := by
    rw [h.sequences,List.nodup_reverse]
    exact List.nodup_range
  exact hsequences.of_map

/-- No event of a chain is later than the newest one. -/
theorem time_le (h : Chain links stored newest events) :
    ∀ event∈events,links.time event ≤ links.time newest := by
  induction h with
  | first hstored hsequence hprevious =>
    intro event hmem
    exact Int.le_of_eq (congrArg links.time (List.mem_singleton.mp hmem))
  | append hchain hstored hprevious hsequence htime ih =>
    intro event hmem
    rcases List.mem_cons.mp hmem with rfl | hold
    · exact Int.le_refl _
    · exact Int.le_trans (ih event hold) htime

/-- Times never decrease along a chain. -/
theorem times (h : Chain links stored newest events) :
    events.Pairwise (fun newer older => links.time older ≤ links.time newer) := by
  induction h with
  | first hstored hsequence hprevious => exact List.pairwise_singleton _ _
  | append hchain hstored hprevious hsequence htime ih =>
    refine List.pairwise_cons.mpr ⟨?_,ih⟩
    intro older hmem
    exact Int.le_trans (hchain.time_le older hmem) htime

/-- The events before an event of a chain are a chain. -/
theorem of_mem (h : Chain links stored newest events) {event : Event} (hmem : event∈events) :
    ∃ older,Chain links stored event older ∧ ∀ earlier∈older,earlier∈events := by
  induction h with
  | first hstored hsequence hprevious =>
    rw [List.mem_singleton] at hmem
    rw [hmem]
    exact ⟨_,.first hstored hsequence hprevious,fun _ hearlier => hearlier⟩
  | append hchain hstored hprevious hsequence htime ih =>
    rcases List.mem_cons.mp hmem with rfl | hold
    · exact ⟨_,.append hchain hstored hprevious hsequence htime,fun _ hearlier => hearlier⟩
    · obtain ⟨older,holder,hsub⟩ := ih hold
      exact ⟨older,holder,fun earlier hearlier => List.mem_cons_of_mem _ (hsub earlier hearlier)⟩

/-- Every event of a chain is reached from the newest one. -/
theorem reachable_of_mem (h : Chain links stored newest events) :
    ∀ event∈events,Reachable links stored newest event := by
  induction h with
  | first hstored hsequence hprevious =>
    intro event hmem
    rw [List.mem_singleton.mp hmem]
    exact .here
  | @append event last events hchain hstored hprevious hsequence htime ih =>
    intro other hmem
    rcases List.mem_cons.mp hmem with rfl | hold
    · exact .here
    · have hlast : Reachable links stored event last := .back .here hchain.stored_newest hprevious
      have hrest := ih other hold
      clear hold hmem ih
      induction hrest with
      | here => exact hlast
      | back hreached hother hnamed ih => exact .back ih hother hnamed

/-- When no two stored events share a digest, the reached events are those of the
chain. -/
theorem reachable_iff (h : Chain links stored newest events)
    (hdigest : ∀ first second,stored first → stored second →
      links.digest first=links.digest second → first=second) {event : Event} :
    Reachable links stored newest event ↔ event∈events := by
  constructor
  · intro hreached
    induction hreached with
    | here =>
      obtain ⟨older,rfl⟩ := h.head
      exact List.mem_cons_self
    | back hreached hstored hprevious ih =>
      obtain ⟨older,holder,hsub⟩ := h.of_mem ih
      cases holder with
      | first _ _ hnone =>
        rw [hnone] at hprevious
        cases hprevious
      | append hchain _ hnamed _ _ =>
        have hsame := Option.some.inj (hnamed.symm.trans hprevious)
        rw [← hdigest _ _ hchain.stored_newest hstored hsame]
        obtain ⟨rest,hrest⟩ := hchain.head
        apply hsub
        rw [hrest]
        exact List.mem_cons_of_mem _ List.mem_cons_self
  · exact h.reachable_of_mem event

end Chain

end ControlGraph.HashChains
