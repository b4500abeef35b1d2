import ControlGraph.TimelineProjection

/-!
# Read slices and pages of the timeline

A read slice holds the entries after a cursor, up to a limit, behind one
observed head. Its constructor refuses a slice with a gap, a foreign entry or a
last entry that is not the head's. A page holds the views of the entries for one
audience with the next cursor, and its contract checks the sequence again. Both
follow the same loop over places and digests.
-/

namespace ControlGraph.TimelinePages

open Checks ContractText TimelineContracts TimelineProjection

open SecretPatterns (Dialect)

/-- Whether every item is accepted at its place, behind the digest of the item before it. -/
def followsOn {Item Digest : Type} (accepts : Item → Nat → Option Digest → Bool)
    (digest : Item → Digest) : Nat → Option Digest → List Item → Bool
  | _,_,[] => true
  | sequence,predecessor,item::items => accepts item sequence predecessor &&
      followsOn accepts digest (sequence+1) (some (digest item)) items

section

variable (functions : TimelineFunctions)

/-- Fields of a read slice. -/
structure TimelineReadSliceFields where
  command : TimelinePageCommandV1
  head : Option TimelineHeadV1
  entries : List (TimelineEntryV1 functions)
  deriving DecidableEq

variable {functions}

/-- Whether an entry stands at a place of a target, behind a digest. -/
def standsAt (target : ReceiptContracts.TargetBinding) (entry : TimelineEntryV1 functions)
    (sequence : Nat) (predecessor : Option Sha256Digest) : Bool :=
  entry.content.target=target ∧ entry.content.sequence.1=sequence ∧
    entry.content.previous_entry_sha256=predecessor

def TimelineReadSliceFields.postInit (read : TimelineReadSliceFields functions) :
    Except Raised Unit :=
  match read.head with
  | none => require (read.command.after_sequence=0 ∧ read.entries=[])
      (.valueError "an empty timeline cannot satisfy a nonzero cursor")
  | some head => do
    require (head.target=read.command.target)
      (.valueError "timeline head does not match the read target")
    require (read.command.after_sequence ≤ head.sequence.1)
      (.valueError "timeline cursor is beyond the observed head")
    require (read.entries.length=min read.command.limit (head.sequence.1-read.command.after_sequence))
      (.valueError "timeline read slice is not omission-free")
    require (followsOn (standsAt read.command.target) TimelineEntryV1.entry_sha256
        (read.command.after_sequence+1) read.command.after_entry_sha256 read.entries=true)
      (.valueError "timeline read slice is not contiguous")
    if read.command.after_sequence=head.sequence.1 then
      require (read.command.after_entry_sha256=some head.entry_sha256)
        (.valueError "timeline cursor does not identify the observed head")
    else
      require (∀ last∈read.entries.getLast?,last.content.sequence=head.sequence →
          last.entry_sha256=head.entry_sha256)
        (.valueError "timeline entries do not terminate at the observed head")

variable (functions)

/-- Full entries behind one observed head. -/
structure TimelineReadSlice extends TimelineReadSliceFields functions where
  accepted : toTimelineReadSliceFields.postInit=.ok ()

/-- Fields of a page. -/
structure TimelinePageFields where
  command : TimelinePageCommandV1
  command_sha256 : Sha256Digest
  entries : List TimelineEntryProjectionV1
  /-- Last entry of the page. -/
  next_after_sequence : Nat
  next_after_entry_sha256 : Option Sha256Digest
  /-- Last entry of the timeline. -/
  head_sequence : Nat
  head_entry_sha256 : Option Sha256Digest
  has_more : Bool
  deriving DecidableEq

/-- Whether a view stands at a place of the page of a cursor, behind a digest. -/
def shownAt (command : TimelinePageCommandV1) (entry : TimelineEntryProjectionV1) (sequence : Nat)
    (predecessor : Option Sha256Digest) : Bool :=
  entry.audience=command.audience ∧ entry.target=command.target ∧ entry.sequence.1=sequence ∧
    entry.previous_entry_sha256=predecessor

/-- Place of the last of some views, or of the cursor where there is none. -/
def lastSequence (command : TimelinePageCommandV1) (entries : List TimelineEntryProjectionV1) : Nat :=
  (entries.getLast?.map (fun entry => entry.sequence.1)).getD command.after_sequence

/-- Digest of the last of some views, or of the cursor where there is none. -/
def lastSha256 (command : TimelinePageCommandV1) (entries : List TimelineEntryProjectionV1) :
    Option Sha256Digest :=
  (entries.getLast?.map (fun entry => some entry.entry_sha256)).getD command.after_entry_sha256

def TimelinePageFields.validatePage (page : TimelinePageFields) : Except Raised Unit := do
  require (page.entries.length ≤ 100 ∧ page.next_after_sequence ≤ 9007199254740991 ∧
      page.head_sequence ≤ 9007199254740991) .validationError
  require (page.command_sha256=functions.canonical_sha256 (.pageCommand page.command))
    (.valueError "timeline page does not bind its command")
  require (page.entries.length ≤ page.command.limit ∧
      page.command.after_sequence ≤ page.head_sequence)
    (.valueError "timeline page bounds are invalid")
  require (page.head_sequence=0 ↔ page.head_entry_sha256=none)
    (.valueError "timeline head digest does not match its sequence")
  require (followsOn (shownAt page.command) (fun entry => entry.entry_sha256)
      (page.command.after_sequence+1) page.command.after_entry_sha256 page.entries=true)
    (.valueError "timeline page entries are not one contiguous target sequence")
  require (page.next_after_sequence=lastSequence page.command page.entries ∧
      page.next_after_entry_sha256=lastSha256 page.command page.entries ∧
      page.next_after_sequence ≤ page.head_sequence ∧
      page.has_more=decide (page.next_after_sequence < page.head_sequence))
    (.valueError "timeline page next cursor is invalid")
  require (¬(page.command.after_sequence < page.head_sequence ∧ page.entries=[]))
    (.valueError "timeline page omitted an available entry")
  require (page.next_after_sequence=page.head_sequence →
      page.next_after_entry_sha256=page.head_entry_sha256)
    (.valueError "timeline page does not terminate at the observed head")

/-- One page without omissions, tied to the head of its target. -/
structure TimelinePageV1 extends TimelinePageFields where
  accepted : toTimelinePageFields.validatePage functions=.ok ()

/-- Build a page, checking it. -/
def TimelinePageFields.make (page : TimelinePageFields) : Except Raised (TimelinePageV1 functions) :=
  match h : page.validatePage functions with
  | .ok () => .ok ⟨page,h⟩
  | .error raised => .error raised

variable {functions}

/-- Project a read slice into the page of its audience. -/
def projectTimelinePage (dialect : Dialect) (read : TimelineReadSlice functions) :
    Except Raised (TimelinePageV1 functions) := do
  let command := read.command
  let entries ← read.entries.mapM (projectTimelineEntry dialect command.audience)
  let head_sequence := (read.head.map (fun head => head.sequence.1)).getD 0
  let page : TimelinePageFields := {
    command := command
    command_sha256 := functions.canonical_sha256 (.pageCommand command)
    entries := entries
    next_after_sequence := lastSequence command entries
    next_after_entry_sha256 := lastSha256 command entries
    head_sequence := head_sequence
    head_entry_sha256 := read.head.map TimelineHeadV1.entry_sha256
    has_more := lastSequence command entries < head_sequence }
  page.make functions

end

section

variable {Item Other Digest : Type} {accepts : Item → Nat → Option Digest → Bool}
  {digest : Item → Digest}

/-- The loop over translated items is the loop with translated tests. -/
theorem followsOn_map (translate : Other → Item) (items : List Other) (sequence : Nat)
    (predecessor : Option Digest) :
    followsOn accepts digest sequence predecessor (items.map translate)=
      followsOn (fun item => accepts (translate item)) (fun item => digest (translate item))
        sequence predecessor items := by
  induction items generalizing sequence predecessor with
  | nil => rfl
  | cons item items ih => rw [List.map_cons,followsOn,followsOn,ih]

/-- A test that is never stricter on the items accepts what the other accepts. -/
theorem followsOn_mono {weaker : Item → Nat → Option Digest → Bool} {items : List Item}
    (himp : ∀ item∈items,∀ sequence predecessor,accepts item sequence predecessor=true →
      weaker item sequence predecessor=true) {sequence : Nat} {predecessor : Option Digest}
    (h : followsOn accepts digest sequence predecessor items=true) :
    followsOn weaker digest sequence predecessor items=true := by
  induction items generalizing sequence predecessor with
  | nil => rfl
  | cons item items ih =>
    rw [followsOn,Bool.and_eq_true] at h ⊢
    exact ⟨himp item List.mem_cons_self _ _ h.1,
      ih (fun other hother => himp other (List.mem_cons_of_mem _ hother)) h.2⟩

/-- The last item stands as many places after the first as there are items. -/
theorem followsOn_getLast {items : List Item} {place : Item → Nat}
    (hplace : ∀ item sequence predecessor,accepts item sequence predecessor=true →
      place item=sequence) {sequence : Nat} {predecessor : Option Digest}
    (h : followsOn accepts digest sequence predecessor items=true) :
    ∀ last∈items.getLast?,place last+1=sequence+items.length := by
  induction items generalizing sequence predecessor with
  | nil => exact fun last hlast => nomatch hlast
  | cons item items ih =>
    rw [followsOn,Bool.and_eq_true] at h
    intro last hlast
    cases items with
    | nil =>
      rw [List.getLast?_singleton,Option.mem_some_iff] at hlast
      have hitem := hplace _ _ _ h.1
      rw [List.length_singleton,←hlast]
      omega
    | cons next items =>
      rw [List.getLast?_cons_cons] at hlast
      have htail := ih h.2 last hlast
      rw [List.length_cons (a := item)]
      omega

end

section

variable {functions : TimelineFunctions} {dialect : Dialect}

/-- View of an entry for an audience, which always passes its checks. -/
def view (dialect : Dialect) (audience : TimelineAudience) (entry : TimelineEntryV1 functions) :
    TimelineEntryProjectionV1 :=
  ⟨projectedFields dialect audience entry,projectedFields_accepted entry⟩

/-- Fields of the page of a read slice. -/
def projectedPage (dialect : Dialect) (read : TimelineReadSlice functions) : TimelinePageFields :=
  let entries := read.entries.map (view dialect read.command.audience)
  let head_sequence := (read.head.map (fun head => head.sequence.1)).getD 0
  { command := read.command
    command_sha256 := functions.canonical_sha256 (.pageCommand read.command)
    entries := entries
    next_after_sequence := lastSequence read.command entries
    next_after_entry_sha256 := lastSha256 read.command entries
    head_sequence := head_sequence
    head_entry_sha256 := read.head.map TimelineHeadV1.entry_sha256
    has_more := lastSequence read.command entries < head_sequence }

theorem validatePage_eq_ok {page : TimelinePageFields} : page.validatePage functions=.ok () ↔
    (page.entries.length ≤ 100 ∧ page.next_after_sequence ≤ 9007199254740991 ∧
      page.head_sequence ≤ 9007199254740991) ∧
    page.command_sha256=functions.canonical_sha256 (.pageCommand page.command) ∧
    (page.entries.length ≤ page.command.limit ∧
      page.command.after_sequence ≤ page.head_sequence) ∧
    (page.head_sequence=0 ↔ page.head_entry_sha256=none) ∧
    followsOn (shownAt page.command) (fun entry => entry.entry_sha256)
      (page.command.after_sequence+1) page.command.after_entry_sha256 page.entries=true ∧
    (page.next_after_sequence=lastSequence page.command page.entries ∧
      page.next_after_entry_sha256=lastSha256 page.command page.entries ∧
      page.next_after_sequence ≤ page.head_sequence ∧
      page.has_more=decide (page.next_after_sequence < page.head_sequence)) ∧
    ¬(page.command.after_sequence < page.head_sequence ∧ page.entries=[]) ∧
    (page.next_after_sequence=page.head_sequence →
      page.next_after_entry_sha256=page.head_entry_sha256) := by
  simp only [TimelinePageFields.validatePage,check_bind_eq_ok,require_eq_ok]

theorem lastSequence_view {command : TimelinePageCommandV1}
    {entries : List (TimelineEntryV1 functions)} {audience : TimelineAudience}
    (h : followsOn (standsAt command.target) TimelineEntryV1.entry_sha256
      (command.after_sequence+1) command.after_entry_sha256 entries=true) :
    lastSequence command (entries.map (view dialect audience))=
      command.after_sequence+entries.length := by
  have hlast := @followsOn_getLast _ _ _ _ _ (fun entry => entry.content.sequence.1)
    (fun entry sequence predecessor hstands => (of_decide_eq_true hstands).2.1) _ _ h
  rw [lastSequence,List.getLast?_map]
  cases hentries : entries.getLast? with
  | none =>
    rw [List.getLast?_eq_none_iff.mp hentries]
    rfl
  | some last =>
    have hplace := hlast last hentries
    simp only [Option.map_some,Option.getD_some,view,projectedFields]
    omega

/-- The page of a read slice passes its checks. -/
theorem projectedPage_accepted (read : TimelineReadSlice functions) :
    (projectedPage dialect read).validatePage functions=.ok () := by
  have haccepted := read.accepted
  have hlimit := read.command.limit_bound
  have hcursor := read.command.cursor
  have hsafe := read.command.sequence_safe
  unfold TimelineReadSliceFields.postInit at haccepted
  rw [validatePage_eq_ok]
  cases hhead : read.head with
  | none =>
    rw [hhead] at haccepted
    simp only [require_eq_ok] at haccepted
    obtain ⟨hzero,hempty⟩ := haccepted
    have hsha := hcursor.mp hzero
    simp only [projectedPage,hhead,hempty,hzero,hsha,lastSequence,lastSha256,List.map_nil,
      List.getLast?_nil,Option.map_none,Option.getD_none,List.length_nil,followsOn]
    simp
  | some head =>
    rw [hhead] at haccepted
    simp only [check_bind_eq_ok,require_eq_ok] at haccepted
    obtain ⟨htarget,hle,hlength,hcontiguous,hlast⟩ := haccepted
    have hhead_safe := head.sequence.2
    have hsequence := @lastSequence_view functions dialect read.command read.entries
      read.command.audience hcontiguous
    simp only [projectedPage,hhead,hsequence,List.length_map,Option.map_some,Option.getD_some]
    refine ⟨⟨by omega,by omega,hhead_safe.2⟩,trivial,⟨by omega,hle⟩,?_,?_,?_,?_,?_⟩
    · constructor
      · intro hzero
        omega
      · intro hnone
        cases hnone
    · rw [followsOn_map]
      refine followsOn_mono ?_ hcontiguous
      intro entry _ sequence predecessor hstands
      obtain ⟨hentry,hplace,hpredecessor⟩ := of_decide_eq_true hstands
      exact decide_eq_true ⟨rfl,hentry,hplace,hpredecessor⟩
    · exact ⟨trivial,trivial,by omega,trivial⟩
    · rintro ⟨hbehind,hempty⟩
      have hnone := congrArg List.length hempty
      rw [List.length_map,List.length_nil] at hnone
      omega
    · intro hend
      rw [lastSha256,List.getLast?_map]
      by_cases hcaught : read.command.after_sequence=head.sequence.1
      · have hnone : read.entries=[] := List.eq_nil_of_length_eq_zero (by omega)
        rw [if_pos hcaught,require_eq_ok] at hlast
        rw [hnone]
        exact hlast
      · rw [if_neg hcaught,require_eq_ok] at hlast
        have hplaces := @followsOn_getLast _ _ _ _ _ (fun entry => entry.content.sequence.1)
          (fun entry sequence predecessor hstands => (of_decide_eq_true hstands).2.1) _ _ hcontiguous
        cases hentries : read.entries.getLast? with
        | none =>
          rw [List.getLast?_eq_none_iff.mp hentries,List.length_nil] at hend
          omega
        | some last =>
          have hplace := hplaces last hentries
          have hsame := hlast last hentries (Subtype.ext (by omega))
          simp only [Option.map_some,Option.getD_some,view,projectedFields,hsame]

theorem projectTimelinePage_eq (read : TimelineReadSlice functions) :
    projectTimelinePage dialect read=
      .ok ⟨projectedPage dialect read,projectedPage_accepted read⟩ := by
  have hentries : read.entries.mapM (projectTimelineEntry dialect read.command.audience)=
      .ok (read.entries.map (view dialect read.command.audience)) :=
    mapM_eq_map.mpr (fun entry _ => projectTimelineEntry_eq entry)
  have hmake : (projectedPage dialect read).make functions=
      .ok ⟨projectedPage dialect read,projectedPage_accepted read⟩ := by
    unfold TimelinePageFields.make
    split
    · rfl
    · rename_i raised herror
      rw [projectedPage_accepted] at herror
      cases herror
  exact (bind_of_ok hentries).trans hmake

end

end ControlGraph.TimelinePages
