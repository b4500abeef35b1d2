import Mathlib.Data.List.Basic

/-!
# Runs of a labelled step function

A step function moves a state by one label, and a run moves it by a list of
labels in order. Three rules carry facts about one step to whole runs: an
invariant that every step keeps, a reflexive and transitive relation that
every step respects, and the step at which a fact first became true.
-/

namespace ControlGraph.LabelledRuns

universe u v

variable {State : Type u} {Label : Type v} {step : State → Label → State}

/-- State after the steps of a list of labels. -/
def run (step : State → Label → State) (state : State) (labels : List Label) : State :=
  labels.foldl step state

@[simp] theorem run_nil {state : State} : run step state []=state := rfl

/-- A run takes its first step and goes on. -/
@[simp] theorem run_cons {state : State} {label : Label} {labels : List Label} :
    run step state (label::labels)=run step (step state label) labels := rfl

theorem run_append {state : State} {first second : List Label} :
    run step state (first++second)=run step (run step state first) second :=
  List.foldl_append

theorem run_concat {state : State} {labels : List Label} {label : Label} :
    run step state (labels++[label])=step (run step state labels) label := by
  rw [run_append,run_cons,run_nil]

/-- An invariant that every step keeps holds after every run. -/
theorem run_invariant {invariant : State → Prop}
    (hstep : ∀ state label,invariant state → invariant (step state label)) {state : State}
    {labels : List Label} (h : invariant state) : invariant (run step state labels) := by
  induction labels generalizing state with
  | nil => exact h
  | cons label labels ih => exact ih (hstep state label h)

/-- An invariant holds after a run when every step that is permitted where it is
taken keeps it. -/
theorem run_invariant_along (invariant : State → Prop) (permitted : State → Label → Prop)
    (hstep : ∀ state label,permitted state label → invariant state → invariant (step state label))
    {state : State} {labels : List Label}
    (hpermitted : ∀ earlier label later,labels=earlier++label::later →
      permitted (run step state earlier) label)
    (h : invariant state) : invariant (run step state labels) := by
  induction labels generalizing state with
  | nil => exact h
  | cons label labels ih =>
    have hnext : invariant (step state label) := hstep state label (hpermitted [] label labels rfl) h
    refine ih ?_ hnext
    intro earlier other later hsplit
    exact hpermitted (label::earlier) other later (by rw [hsplit,List.cons_append])

/-- A reflexive and transitive relation between every state and its successors
holds between the ends of every run. -/
theorem run_relation (related : State → State → Prop) (hrefl : ∀ state,related state state)
    (htrans : ∀ {first second third},related first second → related second third →
      related first third)
    (hstep : ∀ state label,related state (step state label)) {state : State}
    {labels : List Label} : related state (run step state labels) := by
  induction labels generalizing state with
  | nil => exact hrefl state
  | cons label labels ih =>
    have hrest : related (step state label) (run step (step state label) labels) := ih
    exact htrans (hstep state label) hrest

/-- A fact that holds after a run but not before it became true in one of its steps. -/
theorem run_change (fact : State → Prop) {state : State} {labels : List Label}
    (hbefore : ¬fact state) (hafter : fact (run step state labels)) :
    ∃ earlier label later,labels=earlier++label::later ∧ ¬fact (run step state earlier) ∧
      fact (step (run step state earlier) label) := by
  induction labels generalizing state with
  | nil => exact absurd hafter hbefore
  | cons label labels ih =>
    by_cases hnext : fact (step state label)
    · exact ⟨[],label,labels,rfl,hbefore,hnext⟩
    · obtain ⟨earlier,entering,later,hsplit,hout,hin⟩ := ih hnext hafter
      exact ⟨label::earlier,entering,later,by rw [hsplit,List.cons_append],hout,hin⟩

end ControlGraph.LabelledRuns
