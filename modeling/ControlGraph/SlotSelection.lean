import Mathlib.Algebra.BigOperators.Group.List.Basic
import Mathlib.Algebra.Ring.Nat
import Mathlib.Data.List.Induction
import Mathlib.Data.List.Nodup
import Mathlib.Order.Lattice

/-!
# One representative for each slot

Items arrive in any order and fall into slots. The items of a slot are kept
once for each digest, the one with the least key under a shared digest, and the
least of the kept ones represents the slot. Where items of one slot with equal
keys are equal, the representative depends on the items alone and not on their
order. A slot is in conflict when it holds two digests. The items that are not
selected are counted slot by slot.
-/

namespace ControlGraph.SlotSelection

variable {α κ δ τ : Type} [DecidableEq κ] [DecidableEq δ] [LinearOrder τ]

section

variable (digest : α → δ) (key : α → τ)

/-- The item with the smaller key, the first of the two on a tie. -/
def smaller (best item : α) : α := if key item<key best then item else best

/-- The first item with the least key. -/
def smallest : List α → Option α
  | [] => none
  | first::rest => some (rest.foldl (smaller key) first)

/-- Store an item under its digest, unless one with no larger key is there. -/
def keepSmallest (entries : List (δ×α)) (item : α) : List (δ×α) :=
  match entries.lookup (digest item) with
  | none => entries++[(digest item,item)]
  | some previous =>
    if key item<key previous then
      entries.map (fun entry => if entry.1=digest item then (entry.1,item) else entry)
    else entries

/-- The items kept for each digest, in order of arrival of the digests. -/
def smallestByDigest (items : List α) : List (δ×α) := items.foldl (keepSmallest digest key) []

/-- The representative of the items of one slot. -/
def chosen (items : List α) : Option α :=
  smallest key ((smallestByDigest digest key items).map Prod.snd)

end

section

variable {digest : α → δ} {key : α → τ}

theorem smaller_cases (best item : α) :
    smaller key best item=best ∨ smaller key best item=item := by
  unfold smaller
  by_cases h : key item<key best
  · rw [if_pos h]
    exact Or.inr rfl
  · rw [if_neg h]
    exact Or.inl rfl

theorem key_smaller (best item : α) :
    key (smaller key best item) ≤ key best ∧ key (smaller key best item) ≤ key item := by
  unfold smaller
  by_cases h : key item<key best
  · rw [if_pos h]
    exact ⟨h.le,le_rfl⟩
  · rw [if_neg h]
    exact ⟨le_rfl,not_lt.mp h⟩

/-- A running minimum is an item of the list, with the least key. -/
theorem foldl_smaller (items : List α) (first : α) :
    items.foldl (smaller key) first∈first::items ∧
      ∀ item∈first::items,key (items.foldl (smaller key) first) ≤ key item := by
  induction items generalizing first with
  | nil =>
    refine ⟨List.mem_singleton_self first,fun item hitem => ?_⟩
    rw [List.mem_singleton.mp hitem,List.foldl_nil]
  | cons next items ih =>
    obtain ⟨hmem,hleast⟩ := ih (smaller key first next)
    rw [List.foldl_cons]
    have hbest := hleast _ List.mem_cons_self
    have hkeys := @key_smaller α τ _ key first next
    constructor
    · rcases List.mem_cons.mp hmem with hfold | hfold
      · rw [hfold]
        rcases @smaller_cases α τ _ key first next with h | h <;> rw [h] <;> simp
      · exact List.mem_cons_of_mem _ (List.mem_cons_of_mem _ hfold)
    · intro item hitem
      rcases List.mem_cons.mp hitem with rfl | hitem
      · exact hbest.trans hkeys.1
      · rcases List.mem_cons.mp hitem with rfl | hitem
        · exact hbest.trans hkeys.2
        · exact hleast item (List.mem_cons_of_mem _ hitem)

/-- The smallest item of a list is in it and has the least key. -/
theorem smallest_spec {items : List α} {least : α} (h : smallest key items=some least) :
    least∈items ∧ ∀ item∈items,key least ≤ key item := by
  cases items with
  | nil => cases h
  | cons first rest =>
    have hleast : rest.foldl (smaller key) first=least := Option.some.inj h
    rw [← hleast]
    exact foldl_smaller rest first

/-- What is kept of the items seen: one entry for each digest, with a least item. -/
structure Kept (digest : α → δ) (key : α → τ) (items : List α) (entries : List (δ×α)) : Prop where
  /-- Every digest has one entry. -/
  keys_nodup : (entries.map Prod.fst).Nodup
  /-- An entry holds an item under its digest. -/
  sources : ∀ entry∈entries,entry.2∈items ∧ entry.1=digest entry.2
  /-- Every item has an entry with no larger key. -/
  covers : ∀ item∈items,∃ entry∈entries,entry.1=digest item ∧ key entry.2 ≤ key item

/-- An absent key is not looked up. -/
theorem lookup_eq_none {entries : List (δ×α)} {wanted : δ} (h : entries.lookup wanted=none) :
    wanted∉entries.map Prod.fst := by
  intro hmem
  obtain ⟨entry,hentry,rfl⟩ := List.mem_map.mp hmem
  have hne := List.lookup_eq_none_iff.mp h entry hentry
  rw [bne_self_eq_false] at hne
  cases hne

/-- A looked-up value is stored under its key. -/
theorem mem_of_lookup {entries : List (δ×α)} {wanted : δ} {value : α}
    (h : entries.lookup wanted=some value) : (wanted,value)∈entries := by
  induction entries with
  | nil => cases h
  | cons entry entries ih =>
    rw [List.lookup_cons] at h
    by_cases hkey : wanted=entry.1
    · rw [beq_iff_eq.mpr hkey] at h
      have hvalue : entry.2=value := Option.some.inj h
      rw [← hvalue,hkey]
      exact List.mem_cons_self
    · rw [beq_eq_false_iff_ne.mpr hkey] at h
      exact List.mem_cons_of_mem _ (ih h)

omit [DecidableEq δ] in
/-- In a list with unique keys, entries of one key are equal. -/
theorem entry_eq {entries : List (δ×α)} (hnodup : (entries.map Prod.fst).Nodup)
    {first second : δ×α} (hfirst : first∈entries) (hsecond : second∈entries)
    (h : first.1=second.1) : first=second :=
  List.inj_on_of_nodup_map hnodup hfirst hsecond h

theorem Kept.keepSmallest {items : List α} {entries : List (δ×α)}
    (h : Kept digest key items entries) (item : α) :
    Kept digest key (items++[item]) (keepSmallest digest key entries item) := by
  unfold SlotSelection.keepSmallest
  have hold : ∀ entry∈entries,entry.2∈items++[item] ∧ entry.1=digest entry.2 := fun entry hentry =>
    ⟨List.mem_append_left _ (h.sources entry hentry).1,(h.sources entry hentry).2⟩
  have hmem : ∀ other,other∈items++[item] ↔ other∈items ∨ other=item := fun other => by
    rw [List.mem_append,List.mem_singleton]
  split
  · rename_i hnone
    have habsent := lookup_eq_none hnone
    refine ⟨?_,?_,?_⟩
    · rw [List.map_append,List.map_singleton]
      exact List.nodup_append.mpr ⟨h.keys_nodup,List.nodup_singleton _,by
        intro first hfirst second hsecond hsame
        rw [hsame,List.mem_singleton.mp hsecond] at hfirst
        exact habsent hfirst⟩
    · intro entry hentry
      rcases List.mem_append.mp hentry with hentry | hentry
      · exact hold entry hentry
      · rw [List.mem_singleton.mp hentry]
        exact ⟨List.mem_append_right _ (List.mem_singleton_self _),rfl⟩
    · intro other hother
      rcases (hmem other).mp hother with hother | rfl
      · obtain ⟨entry,hentry,hkeys⟩ := h.covers other hother
        exact ⟨entry,List.mem_append_left _ hentry,hkeys⟩
      · exact ⟨(digest other,other),List.mem_append_right _ (List.mem_singleton_self _),rfl,le_rfl⟩
  · rename_i previous hsome
    have hprevious := mem_of_lookup hsome
    by_cases hsmaller : key item<key previous
    · rw [if_pos hsmaller]
      refine ⟨?_,?_,?_⟩
      · have hkeys : (entries.map fun entry : δ×α =>
            if entry.1=digest item then (entry.1,item) else entry).map Prod.fst=
              entries.map Prod.fst := by
          rw [List.map_map]
          refine List.map_congr_left fun entry _ => ?_
          rw [Function.comp_apply]
          split <;> rfl
        rw [hkeys]
        exact h.keys_nodup
      · intro entry hentry
        obtain ⟨before,hbefore,rfl⟩ := List.mem_map.mp hentry
        by_cases hkey : before.1=digest item
        · rw [if_pos hkey]
          exact ⟨List.mem_append_right _ (List.mem_singleton_self _),hkey⟩
        · rw [if_neg hkey]
          exact hold before hbefore
      · -- The entry of the digest now holds the new item, whose key is smaller.
        have hnew : (digest item,item)∈entries.map fun entry : δ×α =>
            if entry.1=digest item then (entry.1,item) else entry :=
          List.mem_map.mpr ⟨(digest item,previous),hprevious,by rw [if_pos rfl]⟩
        intro other hother
        rcases (hmem other).mp hother with hother | rfl
        · obtain ⟨entry,hentry,hkey,hle⟩ := h.covers other hother
          by_cases hsame : entry.1=digest item
          · have hentry' : entry=(digest item,previous) :=
              entry_eq h.keys_nodup hentry hprevious hsame
            rw [hentry'] at hle hkey
            exact ⟨_,hnew,hkey,hsmaller.le.trans hle⟩
          · exact ⟨entry,List.mem_map.mpr ⟨entry,hentry,by rw [if_neg hsame]⟩,hkey,hle⟩
        · exact ⟨_,hnew,rfl,le_rfl⟩
    · rw [if_neg hsmaller]
      refine ⟨h.keys_nodup,hold,?_⟩
      intro other hother
      rcases (hmem other).mp hother with hother | rfl
      · exact h.covers other hother
      · exact ⟨_,hprevious,rfl,not_lt.mp hsmaller⟩

theorem kept_smallestByDigest (items : List α) :
    Kept digest key items (smallestByDigest digest key items) := by
  induction items using List.reverseRecOn with
  | nil =>
    refine ⟨List.nodup_nil,fun entry hentry => ?_,fun item hitem => ?_⟩
    · cases hentry
    · cases hitem
  | append_singleton items item ih =>
    rw [smallestByDigest,List.foldl_append]
    exact ih.keepSmallest item

/-- The representative is an item with the least key. -/
theorem chosen_spec {items : List α} {least : α} (h : chosen digest key items=some least) :
    least∈items ∧ ∀ item∈items,key least ≤ key item := by
  obtain ⟨hmem,hleast⟩ := smallest_spec h
  have hkept := @kept_smallestByDigest α δ τ _ _ digest key items
  obtain ⟨entry,hentry,rfl⟩ := List.mem_map.mp hmem
  refine ⟨(hkept.sources entry hentry).1,fun item hitem => ?_⟩
  obtain ⟨other,hother,-,hle⟩ := hkept.covers item hitem
  exact (hleast other.2 (List.mem_map_of_mem hother)).trans hle

/-- A slot with items has a representative. -/
theorem chosen_of_ne_nil {items : List α} (h : items≠[]) :
    ∃ least,chosen digest key items=some least := by
  obtain ⟨item,hitem⟩ := List.exists_mem_of_ne_nil items h
  obtain ⟨entry,hentry,-⟩ := (@kept_smallestByDigest α δ τ _ _ digest key items).covers item hitem
  unfold chosen
  cases hvalues : (smallestByDigest digest key items).map Prod.snd with
  | nil =>
    rw [List.map_eq_nil_iff] at hvalues
    rw [hvalues] at hentry
    cases hentry
  | cons first rest => exact ⟨_,rfl⟩

/-- The representative does not depend on the order of the items. -/
theorem chosen_perm {items reordered : List α} (hperm : items.Perm reordered)
    (hkey : ∀ first∈items,∀ second∈items,key first=key second → first=second) :
    chosen digest key items=chosen digest key reordered := by
  by_cases hnil : items=[]
  · subst hnil
    rw [hperm.nil_eq]
  · have hnil' : reordered≠[] := fun h => hnil (by rw [h] at hperm; exact hperm.eq_nil)
    obtain ⟨first,hfirst⟩ := @chosen_of_ne_nil α δ τ _ _ digest key items hnil
    obtain ⟨second,hsecond⟩ := @chosen_of_ne_nil α δ τ _ _ digest key reordered hnil'
    obtain ⟨hmem,hleast⟩ := chosen_spec hfirst
    obtain ⟨hmem',hleast'⟩ := chosen_spec hsecond
    have hsecond_mem : second∈items := hperm.mem_iff.mpr hmem'
    have hequal : key first=key second :=
      le_antisymm (hleast second hsecond_mem) (hleast' first (hperm.mem_iff.mp hmem))
    rw [hfirst,hsecond,hkey first hmem second hsecond_mem hequal]

/-- More than one digest is kept exactly when two items have different digests. -/
theorem conflict_iff {items : List α} : 1<(smallestByDigest digest key items).length ↔
    ∃ first∈items,∃ second∈items,digest first≠digest second := by
  have hkept := @kept_smallestByDigest α δ τ _ _ digest key items
  constructor
  · intro hlength
    match hentries : smallestByDigest digest key items with
    | [] => simp [hentries] at hlength
    | [_] => simp [hentries] at hlength
    | first::second::rest =>
      rw [hentries] at hkept
      have hfirst := hkept.sources first List.mem_cons_self
      have hsecond := hkept.sources second (List.mem_cons_of_mem _ List.mem_cons_self)
      refine ⟨first.2,hfirst.1,second.2,hsecond.1,?_⟩
      rw [← hfirst.2,← hsecond.2]
      intro hsame
      have hnodup := hkept.keys_nodup
      simp [hsame] at hnodup
  · rintro ⟨first,hfirst,second,hsecond,hne⟩
    obtain ⟨entry,hentry,hkey,-⟩ := hkept.covers first hfirst
    obtain ⟨other,hother,hkey',-⟩ := hkept.covers second hsecond
    have hdistinct : entry≠other := fun hsame => hne (by rw [← hkey,← hkey',hsame])
    match hentries : smallestByDigest digest key items with
    | [] => simp [hentries] at hentry
    | [only] =>
      rw [hentries] at hentry hother
      exact absurd ((List.mem_singleton.mp hentry).trans (List.mem_singleton.mp hother).symm)
        hdistinct
    | _::_::rest => simp

end

section

variable (slot : α → κ)

/-- The items of one slot, in order of arrival. -/
def slotItems (items : List α) (wanted : κ) : List α :=
  items.filter (fun item => slot item=wanted)

variable {slot}

theorem mem_slotItems {items : List α} {wanted : κ} {item : α} :
    item∈slotItems slot items wanted ↔ item∈items ∧ slot item=wanted := by
  rw [slotItems,List.mem_filter,decide_eq_true_iff]

theorem sum_slotItems_cons {slots : List κ} (hslots : slots.Nodup) {item : α}
    (hitem : slot item∈slots) (items : List α) :
    (slots.map fun wanted => (slotItems slot (item::items) wanted).length).sum=
      (slots.map fun wanted => (slotItems slot items wanted).length).sum+1 := by
  induction slots with
  | nil => cases hitem
  | cons first slots ih =>
    rw [List.nodup_cons] at hslots
    simp only [List.map_cons,List.sum_cons]
    by_cases hfirst : slot item=first
    · have hrest : slots.map (fun wanted => (slotItems slot (item::items) wanted).length)=
          slots.map (fun wanted => (slotItems slot items wanted).length) := by
        refine List.map_congr_left fun wanted hwanted => ?_
        have hne : slot item≠wanted := fun h => hslots.1 (by rw [← hfirst,h]; exact hwanted)
        rw [slotItems,slotItems,List.filter_cons_of_neg (by simpa using hne)]
      have hcount : (slotItems slot (item::items) first).length=
          (slotItems slot items first).length+1 := by
        rw [slotItems,slotItems,List.filter_cons_of_pos (by simpa using hfirst),List.length_cons]
      rw [hrest,hcount]
      omega
    · have hmem : slot item∈slots := (List.mem_cons.mp hitem).resolve_left hfirst
      have hcount : slotItems slot (item::items) first=slotItems slot items first := by
        rw [slotItems,slotItems,List.filter_cons_of_neg (by simpa using hfirst)]
      rw [hcount,ih hslots.2 hmem]
      omega

theorem sum_slotItems {slots : List κ} (hslots : slots.Nodup) {items : List α}
    (hitems : ∀ item∈items,slot item∈slots) :
    (slots.map fun wanted => (slotItems slot items wanted).length).sum=items.length := by
  induction items with
  | nil =>
    refine List.sum_eq_zero fun length hlength => ?_
    obtain ⟨wanted,-,rfl⟩ := List.mem_map.mp hlength
    rfl
  | cons item items ih =>
    rw [sum_slotItems_cons hslots (hitems item List.mem_cons_self),
      ih fun other hother => hitems other (List.mem_cons_of_mem _ hother),List.length_cons]

/-- The items beyond the representative of each slot, together with the
representatives, are all the items of the slots. -/
theorem sum_beyond_add_chosen (digest : α → δ) (key : α → τ) (slots : List κ) (items : List α) :
    (slots.map fun wanted => (slotItems slot items wanted).length-1).sum+
        (slots.filterMap fun wanted => chosen digest key (slotItems slot items wanted)).length=
      (slots.map fun wanted => (slotItems slot items wanted).length).sum := by
  induction slots with
  | nil => rfl
  | cons wanted slots ih =>
    simp only [List.map_cons,List.sum_cons]
    by_cases hnil : slotItems slot items wanted=[]
    · have hnone : chosen digest key (slotItems slot items wanted)=none := by rw [hnil]; rfl
      rw [@List.filterMap_cons_none κ α (fun wanted => chosen digest key (slotItems slot items wanted))
        wanted slots hnone,hnil,List.length_nil]
      omega
    · obtain ⟨least,hleast⟩ := @chosen_of_ne_nil α δ τ _ _ digest key _ hnil
      rw [@List.filterMap_cons_some κ α (fun wanted => chosen digest key (slotItems slot items wanted))
        wanted slots least hleast,List.length_cons]
      have hpos := List.length_pos_of_ne_nil hnil
      omega

end

end ControlGraph.SlotSelection
