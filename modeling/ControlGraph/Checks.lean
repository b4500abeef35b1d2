import Mathlib.Data.List.Basic

/-!
# Chains of checks

A validator is a chain of requirements in `Except`. Each requirement raises
its own error and the first one that fails ends the chain. The lemmas below
turn the success of a whole chain into the conjunction of its requirements,
so that later proofs never run a validator step by step.
-/

namespace ControlGraph.Checks

universe u v

variable {ε : Type u} {α β : Type v}

/-- Raise an error unless a decidable condition holds. -/
def require (condition : Prop) [Decidable condition] (error : ε) : Except ε Unit :=
  if condition then .ok () else .error error

@[simp] theorem require_eq_ok {condition : Prop} [Decidable condition] {error : ε} {value : Unit} :
    require condition error=.ok value ↔ condition := by
  unfold require
  split
  · rename_i h
    simp only [h]
  · rename_i h
    simp only [h,reduceCtorEq]

/-- A requirement whose condition holds is passed. -/
theorem require_of {condition : Prop} [Decidable condition] {error : ε} (h : condition) :
    require condition error=.ok () := require_eq_ok.mpr h

/-- A failed requirement raises its own error. -/
theorem require_eq_error {condition : Prop} [Decidable condition] {error raised : ε} :
    require condition error=.error raised ↔ ¬condition ∧ raised=error := by
  unfold require
  split
  · rename_i h
    simp only [h,not_true_eq_false,false_and,reduceCtorEq]
  · rename_i h
    simp only [h,not_false_eq_true,true_and,Except.error.injEq,eq_comm]

/-- Raise an error unless there is a value. -/
def requireSome {α : Type v} (value : Option α) (error : ε) : Except ε α :=
  match value with
  | some found => .ok found
  | none => .error error

@[simp] theorem requireSome_eq_ok {α : Type v} {value : Option α} {error : ε} {found : α} :
    requireSome value error=.ok found ↔ value=some found := by
  cases value with
  | none => simp only [requireSome,reduceCtorEq]
  | some stored => simp only [requireSome,Except.ok.injEq,Option.some.injEq]

/-- A value that is missing raises its own error. -/
theorem requireSome_eq_error {α : Type v} {value : Option α} {error raised : ε} :
    requireSome value error=.error raised ↔ value=none ∧ raised=error := by
  cases value with
  | none => simp only [requireSome,Except.error.injEq,true_and,eq_comm]
  | some found => simp only [requireSome,reduceCtorEq,false_and]

/-- A sequenced computation succeeds exactly when both of its parts do. -/
theorem bind_eq_ok {first : Except ε α} {rest : α → Except ε β} {value : β} :
    (first>>=rest)=.ok value ↔ ∃ middle,first=.ok middle ∧ rest middle=.ok value := by
  cases first with
  | error raised => simp only [bind,Except.bind,reduceCtorEq,false_and,exists_false]
  | ok middle => simp only [bind,Except.bind,Except.ok.injEq,exists_eq_left']

/-- A sequenced computation fails where its first part does, or where the rest does. -/
theorem bind_eq_error {first : Except ε α} {rest : α → Except ε β} {raised : ε} :
    (first>>=rest)=.error raised ↔
      first=.error raised ∨ ∃ middle,first=.ok middle ∧ rest middle=.error raised := by
  cases first with
  | error failed => simp only [bind,Except.bind,reduceCtorEq,false_and,exists_false,or_false,
      Except.error.injEq]
  | ok middle => simp only [bind,Except.bind,reduceCtorEq,Except.ok.injEq,exists_eq_left',false_or]

/-- A check followed by a computation succeeds when the check holds and the
computation succeeds. -/
@[simp] theorem check_bind_eq_ok {check : Except ε PUnit} {rest : PUnit → Except ε β} {value : β} :
    (check>>=rest)=.ok value ↔ check=.ok ⟨⟩ ∧ rest ⟨⟩=.ok value := by
  rw [bind_eq_ok]
  constructor
  · rintro ⟨⟨⟩,hcheck,hrest⟩
    exact ⟨hcheck,hrest⟩
  · rintro ⟨hcheck,hrest⟩
    exact ⟨⟨⟩,hcheck,hrest⟩

/-- A successful first part is substituted into the rest. -/
theorem bind_of_ok {first : Except ε α} {rest : α → Except ε β} {middle : α}
    (h : first=.ok middle) : (first>>=rest)=rest middle := by
  rw [h]
  rfl

/-- Renaming the error of a computation keeps its success. -/
@[simp] theorem mapError_eq_ok {ε' : Type u} {computation : Except ε α} {rename : ε → ε'}
    {value : α} : computation.mapError rename=.ok value ↔ computation=.ok value := by
  cases computation with
  | error raised => simp only [Except.mapError,reduceCtorEq]
  | ok result => simp only [Except.mapError,Except.ok.injEq]

/-- A traversal succeeds exactly when every element passes its check. -/
@[simp] theorem forM_eq_ok {items : List α} {check : α → Except ε PUnit} {value : PUnit} :
    items.forM check=.ok value ↔ ∀ item∈items,check item=.ok ⟨⟩ := by
  induction items with
  | nil => simp [List.forM,pure,Except.pure]
  | cons item items ih =>
    have hstep : (item::items).forM check=(check item>>=fun _ => items.forM check) := rfl
    rw [hstep,check_bind_eq_ok,ih]
    simp only [List.forall_mem_cons]

/-- A computation over the items that all succeed gives their results in order. -/
theorem mapM_total {items : List α} {compute : α → Except ε β} {property : β → Prop}
    (h : ∀ item∈items,∃ value,compute item=.ok value ∧ property value) :
    ∃ values,items.mapM compute=.ok values ∧ values.length=items.length ∧
      ∀ value∈values,property value := by
  induction items with
  | nil => exact ⟨[],rfl,rfl,fun value hvalue => by cases hvalue⟩
  | cons item items ih =>
    obtain ⟨value,hvalue,hproperty⟩ := h item List.mem_cons_self
    obtain ⟨values,hvalues,hlength,hall⟩ := ih fun other hother => h other (List.mem_cons_of_mem _ hother)
    refine ⟨value::values,?_,by rw [List.length_cons,List.length_cons,hlength],?_⟩
    · rw [List.mapM_cons,bind_of_ok hvalue,bind_of_ok hvalues]
      rfl
    · intro other hother
      rcases List.mem_cons.mp hother with rfl | hother
      · exact hproperty
      · exact hall other hother

/-- A computation over the items gives the images of the items exactly when it
gives the image of each. -/
theorem mapM_eq_map {items : List α} {compute : α → Except ε β} {image : α → β} :
    items.mapM compute=.ok (items.map image) ↔ ∀ item∈items,compute item=.ok (image item) := by
  induction items with
  | nil => exact ⟨fun _ item hitem => (List.not_mem_nil hitem).elim,fun _ => rfl⟩
  | cons item items ih =>
    rw [List.mapM_cons,List.map_cons,List.forall_mem_cons,← ih,bind_eq_ok]
    constructor
    · rintro ⟨value,hvalue,hrest⟩
      rw [bind_eq_ok] at hrest
      obtain ⟨values,hvalues,hcons⟩ := hrest
      obtain ⟨rfl,rfl⟩ := List.cons.inj (Except.ok.inj hcons)
      exact ⟨hvalue,hvalues⟩
    · rintro ⟨hvalue,hvalues⟩
      exact ⟨image item,hvalue,bind_of_ok hvalues⟩

/-- A computation over reordered items gives the reordered results. -/
theorem mapM_perm {items reordered : List α} {compute : α → Except ε β} (hperm : items.Perm reordered)
    {values : List β} (h : items.mapM compute=.ok values) :
    ∃ values',reordered.mapM compute=.ok values' ∧ values.Perm values' := by
  induction hperm generalizing values with
  | nil => exact ⟨values,h,List.Perm.refl _⟩
  | cons item _ ih =>
    rw [List.mapM_cons] at h
    obtain ⟨value,hvalue,h⟩ := bind_eq_ok.mp h
    obtain ⟨rest,hrest,h⟩ := bind_eq_ok.mp h
    obtain ⟨rest',hrest',hperm⟩ := ih hrest
    cases h
    refine ⟨value::rest',?_,hperm.cons value⟩
    rw [List.mapM_cons,bind_of_ok hvalue,bind_of_ok hrest']
    rfl
  | swap first second items =>
    simp only [List.mapM_cons] at h
    obtain ⟨value,hvalue,h⟩ := bind_eq_ok.mp h
    obtain ⟨rest,hrest,h⟩ := bind_eq_ok.mp h
    obtain ⟨value',hvalue',hrest⟩ := bind_eq_ok.mp hrest
    obtain ⟨rest',hrest',hrest⟩ := bind_eq_ok.mp hrest
    cases hrest
    cases h
    refine ⟨value'::value::rest',?_,List.Perm.swap _ _ _⟩
    simp only [List.mapM_cons]
    rw [bind_of_ok hvalue']
    simp only [bind_of_ok hvalue,bind_of_ok hrest']
    rfl
  | trans _ _ ihfirst ihsecond =>
    obtain ⟨middle,hmiddle,hperm⟩ := ihfirst h
    obtain ⟨final,hfinal,hperm'⟩ := ihsecond hmiddle
    exact ⟨final,hfinal,hperm.trans hperm'⟩

end ControlGraph.Checks
