import Mathlib.Data.List.Induction
import ControlGraph.LabelledRuns

/-!
# Programs that wait, and many of them at once

A program ends with a value, raises, looks at something without giving way, or
waits for the result of an operation. A monitor keeps a ghost state along the
looks, calls and results of one program and says which calls it allows. Its
rules follow the structure of programs, so each part of a program is checked
once. A system runs any number of programs over one world: a waiting operation
takes effect at one instant, and its program then runs until it waits again.
What a monitor allows of every program, it allows of every process in every
run.
-/

namespace ControlGraph.WaitingPrograms

open LabelledRuns

universe u

/-- A program over operations with their results. -/
inductive Program (Op : Type u) (Result : Op → Type u) (Reading Raised Value : Type u) : Type u
  | done (value : Value)
  | raised (error : Raised)
  | look (next : Reading → Program Op Result Reading Raised Value)
  | wait (op : Op) (next : Result op → Program Op Result Reading Raised Value)

variable {Op : Type u} {Result : Op → Type u} {Reading Raised Value Other : Type u}

/-- Go on with the value of a program. -/
def Program.bind (program : Program Op Result Reading Raised Value)
    (rest : Value → Program Op Result Reading Raised Other) :
    Program Op Result Reading Raised Other :=
  match program with
  | .done value => rest value
  | .raised error => .raised error
  | .look next => .look (fun reading => (next reading).bind rest)
  | .wait op next => .wait op (fun result => (next result).bind rest)

instance : Monad (Program Op Result Reading Raised) where
  pure := .done
  bind := .bind

def Program.call (op : Op) : Program Op Result Reading Raised (Result op) := .wait op .done

def Program.lookOnce : Program Op Result Reading Raised Reading := .look .done

/-- Catch the error of a program. -/
def Program.attempt : Program Op Result Reading Raised Value →
    Program Op Result Reading Raised (Except Raised Value)
  | .done value => .done (.ok value)
  | .raised error => .done (.error error)
  | .look next => .look (fun reading => (next reading).attempt)
  | .wait op next => .wait op (fun result => (next result).attempt)

/-- A pure computation that may fail. -/
def Program.lift : Except Raised Value → Program Op Result Reading Raised Value
  | .ok value => .done value
  | .error error => .raised error

/-- A ghost state along the events of one program, and the calls that it allows. -/
structure Monitor (Op : Type u) (Result : Op → Type u) (Reading Ghost : Type u) where
  allowed : Ghost → Op → Prop
  looked : Ghost → Reading → Ghost
  called : Ghost → Op → Ghost
  /-- Ghost state after a result. -/
  returned : Ghost → (op : Op) → Result op → Ghost

variable {Ghost : Type u} (monitor : Monitor Op Result Reading Ghost)

/-- From a ghost state, a program makes only allowed calls, and its value or its
error satisfies the postcondition. -/
def Program.Follows (post : Except Raised Value → Ghost → Prop) :
    Program Op Result Reading Raised Value → Ghost → Prop
  | .done value,ghost => post (.ok value) ghost
  | .raised error,ghost => post (.error error) ghost
  | .look next,ghost => ∀ reading,(next reading).Follows post (monitor.looked ghost reading)
  | .wait op next,ghost => monitor.allowed ghost op ∧ ∀ result,
    (next result).Follows post (monitor.returned (monitor.called ghost op) op result)

section

variable {monitor} {post : Except Raised Value → Ghost → Prop} {ghost : Ghost}

/-- A program that ends satisfies its postcondition. -/
@[simp] theorem follows_pure {value : Value} :
    Program.Follows monitor post (pure value : Program Op Result Reading Raised Value) ghost ↔
      post (.ok value) ghost := Iff.rfl

@[simp] theorem follows_raised {error : Raised} :
    Program.Follows monitor post (.raised error : Program Op Result Reading Raised Value) ghost ↔
      post (.error error) ghost := Iff.rfl

/-- A postcondition may be weakened. -/
theorem Program.Follows.mono {weaker : Except Raised Value → Ghost → Prop}
    {program : Program Op Result Reading Raised Value}
    (h : program.Follows monitor post ghost)
    (hweaker : ∀ value state,post value state → weaker value state) :
    program.Follows monitor weaker ghost := by
  induction program generalizing ghost with
  | done value => exact hweaker (.ok value) ghost h
  | raised error => exact hweaker (.error error) ghost h
  | look next ih => exact fun reading => ih reading (h reading)
  | wait op next ih => exact ⟨h.1,fun result => ih result (h.2 result)⟩

/-- The postcondition of the first part of a sequence. -/
def seqPost (monitor : Monitor Op Result Reading Ghost)
    (rest : Value → Program Op Result Reading Raised Other)
    (after : Except Raised Other → Ghost → Prop) : Except Raised Value → Ghost → Prop
  | .ok value,state => (rest value).Follows monitor after state
  | .error error,state => after (.error error) state

/-- A sequence follows a monitor when its first part does, up to where the second starts. -/
theorem follows_bind {program : Program Op Result Reading Raised Value}
    {rest : Value → Program Op Result Reading Raised Other}
    {after : Except Raised Other → Ghost → Prop} :
    (program>>=rest).Follows monitor after ghost ↔
      program.Follows monitor (seqPost monitor rest after) ghost := by
  induction program generalizing ghost with
  | done value => exact Iff.rfl
  | raised error => exact Iff.rfl
  | look next ih => exact forall_congr' fun reading => ih reading
  | wait op next ih => exact and_congr Iff.rfl (forall_congr' fun result => ih result)

@[simp] theorem follows_call {op : Op} {after : Except Raised (Result op) → Ghost → Prop} :
    (Program.call op : Program Op Result Reading Raised (Result op)).Follows monitor after ghost ↔
      monitor.allowed ghost op ∧
        ∀ result,after (.ok result) (monitor.returned (monitor.called ghost op) op result) :=
  Iff.rfl

@[simp] theorem follows_lookOnce {after : Except Raised Reading → Ghost → Prop} :
    (Program.lookOnce : Program Op Result Reading Raised Reading).Follows monitor after ghost ↔
      ∀ reading,after (.ok reading) (monitor.looked ghost reading) := Iff.rfl

/-- A caught program hands its value or its error on. -/
@[simp] theorem follows_attempt {program : Program Op Result Reading Raised Value}
    {after : Except Raised (Except Raised Value) → Ghost → Prop} :
    program.attempt.Follows monitor after ghost ↔
      program.Follows monitor (fun result state => after (.ok result) state) ghost := by
  induction program generalizing ghost with
  | done value => exact Iff.rfl
  | raised error => exact Iff.rfl
  | look next ih => exact forall_congr' fun reading => ih reading
  | wait op next ih => exact and_congr Iff.rfl (forall_congr' fun result => ih result)

/-- A pure computation that may fail. -/
@[simp] theorem follows_lift {computation : Except Raised Value} :
    (Program.lift computation : Program Op Result Reading Raised Value).Follows monitor post
      ghost ↔ post computation ghost := by
  cases computation with
  | ok value => exact Iff.rfl
  | error raised => exact Iff.rfl

end

/-- Events of one program. -/
inductive Event (Op : Type u) (Result : Op → Type u) (Reading : Type u) : Type u
  | looked (reading : Reading)
  | called (op : Op)
  | returned (op : Op) (result : Result op)

/-- Ghost state after one event. -/
def Monitor.observe (ghost : Ghost) : Event Op Result Reading → Ghost
  | .looked reading => monitor.looked ghost reading
  | .called op => monitor.called ghost op
  | .returned op result => monitor.returned ghost op result

/-- Ghost state after a history. -/
def Monitor.after (ghost : Ghost) (history : List (Event Op Result Reading)) : Ghost :=
  run monitor.observe ghost history

/-- The monitor whose ghost state is the history itself. -/
def Monitor.recording (allowed : List (Event Op Result Reading) → Op → Prop) :
    Monitor Op Result Reading (List (Event Op Result Reading)) where
  allowed := allowed
  looked := fun history reading => history++[.looked reading]
  called := fun history op => history++[.called op]
  returned := fun history op result => history++[.returned op result]

/-- Every call of a history was allowed when it was made. -/
def Monitor.Allows (ghost : Ghost) (history : List (Event Op Result Reading)) : Prop :=
  ∀ earlier op later,history=earlier++Event.called op::later →
    monitor.allowed (monitor.after ghost earlier) op

/-- A running program with the job that it was started for and its history. -/
structure Process (Op : Type u) (Result : Op → Type u) (Reading Raised Value Job : Type u) where
  job : Job
  program : Program Op Result Reading Raised Value
  /-- Events so far, oldest first. -/
  history : List (Event Op Result Reading)

variable {Job World Oracle Change : Type u}

/-- Run a program until it waits or ends. The readings answer its looks in order. -/
def settle (job : Job) (readings : Nat → Reading) :
    Nat → Program Op Result Reading Raised Value → List (Event Op Result Reading) →
      Process Op Result Reading Raised Value Job
  | _,.done value,history => ⟨job,.done value,history⟩
  | _,.raised error,history => ⟨job,.raised error,history⟩
  | count,.look next,history =>
    settle job readings (count+1) (next (readings count)) (history++[.looked (readings count)])
  | _,.wait op next,history => ⟨job,.wait op next,history++[.called op]⟩
termination_by structural _ program => program

/-- Programs over one world. -/
structure System (Op : Type u) (Result : Op → Type u) (Reading Raised Value Job World Oracle
    Change : Type u) where
  launch : Job → Program Op Result Reading Raised Value
  /-- Effect and result of an operation. -/
  perform : Oracle → World → (op : Op) → World×Result op
  disturb : Change → World → World

/-- The world and the processes that run over it. -/
structure State (Op : Type u) (Result : Op → Type u) (Reading Raised Value Job World : Type u) where
  world : World
  processes : Nat → Option (Process Op Result Reading Raised Value Job)

/-- Steps of a system. A process that has crashed is one that no later step resumes. -/
inductive Action (Reading Job Oracle Change : Type u) : Type u
  | start (index : Nat) (job : Job) (readings : Nat → Reading)
  /-- Perform the operation that a process waits for and run it until it waits again. -/
  | resume (index : Nat) (oracle : Oracle) (readings : Nat → Reading)
  /-- The surroundings change the world. -/
  | disturb (change : Change)

/-- Replace one process. -/
def State.put (state : State Op Result Reading Raised Value Job World) (index : Nat)
    (process : Process Op Result Reading Raised Value Job) :
    State Op Result Reading Raised Value Job World :=
  {state with processes := fun other =>
    if other=index then some process else state.processes other}

def System.step (system : System Op Result Reading Raised Value Job World Oracle Change)
    (state : State Op Result Reading Raised Value Job World) :
    Action Reading Job Oracle Change → State Op Result Reading Raised Value Job World
  | .start index job readings =>
    match state.processes index with
    | none => state.put index (settle job readings 0 (system.launch job) [])
    | some _ => state
  | .resume index oracle readings =>
    match state.processes index with
    | some ⟨job,.wait op next,history⟩ =>
      let (world,result) := system.perform oracle state.world op
      {state with world := world}.put index
        (settle job readings 0 (next result) (history++[Event.returned op result]))
    | _ => state
  | .disturb change => {state with world := system.disturb change state.world}

/-- A system before any process is started. -/
def State.initial (world : World) : State Op Result Reading Raised Value Job World :=
  ⟨world,fun _ => none⟩

section

variable {monitor}

/-- The ghost state after one more event. -/
theorem after_concat {ghost : Ghost} {history : List (Event Op Result Reading)}
    {event : Event Op Result Reading} : monitor.after ghost (history++[event])=
      monitor.observe (monitor.after ghost history) event :=
  run_concat

@[simp] theorem recording_after {allowed : List (Event Op Result Reading) → Op → Prop}
    {start history : List (Event Op Result Reading)} :
    (Monitor.recording allowed).after start history=start++history := by
  induction history generalizing start with
  | nil => exact (List.append_nil start).symm
  | cons event history ih =>
    have hstep : (Monitor.recording allowed).observe start event=start++[event] := by
      cases event <;> rfl
    rw [Monitor.after,run_cons,hstep,← Monitor.after,ih,List.append_assoc,List.singleton_append]

/-- A list is split in one way at its first item of a kind. -/
theorem first_split {Item : Type u} (kind : Item → Prop) {first second later rest : List Item}
    {item other : Item} (h : first++item::later=second++other::rest)
    (hfirst : ∀ found∈first,¬kind found) (hsecond : ∀ found∈second,¬kind found)
    (hitem : kind item) (hother : kind other) : first=second := by
  rcases List.append_eq_append_iff.mp h with ⟨middle,hsplit,hrest⟩ | ⟨middle,hsplit,hrest⟩
  · cases middle with
    | nil => rw [hsplit,List.append_nil]
    | cons head middle =>
      have hhead : item=head := (List.cons.inj hrest).1
      have hmem : item∈second := by
        rw [hsplit,hhead]
        exact List.mem_append_right _ List.mem_cons_self
      exact absurd hitem (hsecond item hmem)
  · cases middle with
    | nil => rw [hsplit,List.append_nil]
    | cons head middle =>
      have hhead : other=head := (List.cons.inj hrest).1
      have hmem : other∈first := by
        rw [hsplit,hhead]
        exact List.mem_append_right _ List.mem_cons_self
      exact absurd hother (hfirst other hmem)

/-- Every result directly follows its call. -/
def Answered (history : List (Event Op Result Reading)) : Prop :=
  ∀ earlier op result later,history=earlier++Event.returned op result::later →
    ∃ before,earlier=before++[Event.called op]

/-- The empty history has no result. -/
theorem answered_nil : Answered ([] : List (Event Op Result Reading)) := by
  intro earlier op result later h
  cases earlier with
  | nil => cases h
  | cons event earlier => cases h

/-- A history goes on with an event that is no result or that answers the last call. -/
theorem answered_concat {history : List (Event Op Result Reading)} {event : Event Op Result Reading}
    (h : Answered history) (hevent : ∀ op result,event=.returned op result →
      ∃ before,history=before++[Event.called op]) : Answered (history++[event]) := by
  intro earlier op result later hsplit
  rcases List.eq_nil_or_concat later with rfl | ⟨front,last,rfl⟩
  · obtain ⟨rfl,hlast⟩ := List.append_inj' hsplit rfl
    exact hevent op result (List.singleton_inj.mp hlast)
  · rw [List.concat_eq_append,← List.cons_append,← List.append_assoc] at hsplit
    obtain ⟨rfl,-⟩ := List.append_inj' hsplit rfl
    exact h earlier op result front rfl

theorem Program.Follows.grows {allowed : List (Event Op Result Reading) → Op → Prop}
    {post : Except Raised Value → List (Event Op Result Reading) → Prop}
    {program : Program Op Result Reading Raised Value} {history : List (Event Op Result Reading)}
    (h : program.Follows (Monitor.recording allowed) post history) :
    program.Follows (Monitor.recording allowed) (fun value state => history<+: state ∧ post value state)
      history := by
  induction program generalizing history with
  | done value => exact ⟨List.prefix_refl _,h⟩
  | raised error => exact ⟨List.prefix_refl _,h⟩
  | look next ih =>
    intro reading
    refine (ih reading (h reading)).mono ?_
    intro value state hstate
    exact ⟨(List.prefix_append _ _).trans hstate.1,hstate.2⟩
  | wait op next ih =>
    refine ⟨h.1,?_⟩
    intro result
    refine (ih result (h.2 result)).mono ?_
    intro value state hstate
    exact ⟨((List.prefix_append _ _).trans (List.prefix_append _ _)).trans hstate.1,hstate.2⟩

/-- The empty history makes no call. -/
theorem allows_nil {ghost : Ghost} : monitor.Allows ghost [] := by
  intro earlier op later h
  cases earlier with
  | nil => cases h
  | cons event earlier => cases h

/-- A history goes on with an event that is an allowed call or no call. -/
theorem allows_concat {ghost : Ghost} {history : List (Event Op Result Reading)}
    {event : Event Op Result Reading} (h : monitor.Allows ghost history)
    (hevent : ∀ op,event=.called op → monitor.allowed (monitor.after ghost history) op) :
    monitor.Allows ghost (history++[event]) := by
  intro earlier op later hsplit
  rcases List.eq_nil_or_concat later with rfl | ⟨front,last,rfl⟩
  · obtain ⟨rfl,hlast⟩ := List.append_inj' hsplit rfl
    exact hevent op (List.singleton_inj.mp hlast)
  · rw [List.concat_eq_append,← List.cons_append,← List.append_assoc] at hsplit
    obtain ⟨rfl,-⟩ := List.append_inj' hsplit rfl
    exact h earlier op front rfl

/-- A process follows a monitor: its calls were allowed, and so are those to come. -/
structure Process.Ok (monitor : Monitor Op Result Reading Ghost) (ghost : Ghost)
    (post : Except Raised Value → Ghost → Prop)
    (process : Process Op Result Reading Raised Value Job) : Prop where
  /-- The calls of the history were allowed. -/
  past : monitor.Allows ghost process.history
  /-- Whatever the result, the rest follows the monitor. -/
  future : ∀ op next,process.program=.wait op next → ∀ result,
    (next result).Follows monitor post
      (monitor.returned (monitor.after ghost process.history) op result)
  waiting : ∀ op next,process.program=.wait op next →
    ∃ earlier,process.history=earlier++[.called op]
  /-- Results follow their calls. -/
  answered : Answered process.history

/-- The end of a process that has ended satisfies the postcondition. -/
structure Process.Ended (monitor : Monitor Op Result Reading Ghost) (ghost : Ghost)
    (post : Except Raised Value → Ghost → Prop)
    (process : Process Op Result Reading Raised Value Job) : Prop where
  value : ∀ value,process.program=.done value →
    post (.ok value) (monitor.after ghost process.history)
  error : ∀ error,process.program=.raised error →
    post (.error error) (monitor.after ghost process.history)

/-- A program that follows a monitor settles to a process that does. -/
theorem settle_ok {ghost : Ghost} {post : Except Raised Value → Ghost → Prop} {job : Job}
    {readings : Nat → Reading} {count : Nat} {program : Program Op Result Reading Raised Value}
    {history : List (Event Op Result Reading)} (hpast : monitor.Allows ghost history)
    (hanswered : Answered history) (h : program.Follows monitor post (monitor.after ghost history)) :
    (settle job readings count program history).Ok monitor ghost post := by
  induction program generalizing count history with
  | done value =>
    exact ⟨hpast,fun op next hprogram => (by cases hprogram),
      fun op next hprogram => (by cases hprogram),hanswered⟩
  | raised error =>
    exact ⟨hpast,fun op next hprogram => (by cases hprogram),
      fun op next hprogram => (by cases hprogram),hanswered⟩
  | look next ih =>
    refine ih (readings count) (allows_concat hpast ?_) (answered_concat hanswered ?_) ?_
    · intro op hevent
      cases hevent
    · intro op result hevent
      cases hevent
    · rw [after_concat]
      exact h (readings count)
  | wait op next ih =>
    refine ⟨allows_concat hpast ?_,?_,?_,answered_concat hanswered ?_⟩
    · intro called hevent
      cases hevent
      exact h.1
    · intro called rest hprogram result
      cases hprogram
      rw [settle,after_concat]
      exact h.2 result
    · intro called rest hprogram
      cases hprogram
      exact ⟨history,rfl⟩
    · intro called result hevent
      cases hevent

theorem resume_ok {ghost : Ghost} {post : Except Raised Value → Ghost → Prop} {job : Job}
    {readings : Nat → Reading} {op : Op} {next : Result op → Program Op Result Reading Raised Value}
    {history : List (Event Op Result Reading)}
    (h : (⟨job,.wait op next,history⟩ : Process Op Result Reading Raised Value Job).Ok monitor ghost
      post)
    (result : Result op) :
    (settle job readings 0 (next result) (history++[.returned op result])).Ok monitor ghost
      post := by
  refine settle_ok (allows_concat h.past ?_) (answered_concat h.answered ?_) ?_
  · intro called hevent
    cases hevent
  · intro called found hevent
    cases hevent
    exact h.waiting op next rfl
  · rw [after_concat]
    exact h.future op next rfl result

/-- A program that follows a monitor settles to a process whose end, if it has
ended, satisfies the postcondition. -/
theorem settle_ended {ghost : Ghost} {post : Except Raised Value → Ghost → Prop} {job : Job}
    {readings : Nat → Reading} {count : Nat} {program : Program Op Result Reading Raised Value}
    {history : List (Event Op Result Reading)}
    (h : program.Follows monitor post (monitor.after ghost history)) :
    (settle job readings count program history).Ended monitor ghost post := by
  induction program generalizing count history with
  | done value =>
    refine ⟨fun found hprogram => ?_,fun error hprogram => (by cases hprogram)⟩
    cases hprogram
    exact h
  | raised error =>
    refine ⟨fun found hprogram => (by cases hprogram),fun found hprogram => ?_⟩
    cases hprogram
    exact h
  | look next ih =>
    refine ih (readings count) ?_
    rw [after_concat]
    exact h (readings count)
  | wait op next ih =>
    exact ⟨fun found hprogram => (by cases hprogram),fun error hprogram => (by cases hprogram)⟩

end

@[simp] theorem settle_job {job : Job} {readings : Nat → Reading} {count : Nat}
    {program : Program Op Result Reading Raised Value} {history : List (Event Op Result Reading)} :
    (settle job readings count program history).job=job := by
  induction program generalizing count history with
  | done value => rfl
  | raised error => rfl
  | look next ih => exact ih (readings count)
  | wait op next ih => rfl

/-- Settling adds looks with their readings and calls to the history, and no results. -/
theorem settle_history {job : Job} {readings : Nat → Reading} {count : Nat}
    {program : Program Op Result Reading Raised Value} {history : List (Event Op Result Reading)} :
    ∃ tail,(settle job readings count program history).history=history++tail ∧
      (∀ op result,Event.returned op result∉tail) ∧
      ∀ reading,Event.looked reading∈tail → ∃ index,readings index=reading := by
  induction program generalizing count history with
  | done value => exact ⟨[],(List.append_nil _).symm,fun op result hmem => (by cases hmem),
      fun reading hmem => (by cases hmem)⟩
  | raised error => exact ⟨[],(List.append_nil _).symm,fun op result hmem => (by cases hmem),
      fun reading hmem => (by cases hmem)⟩
  | look next ih =>
    have hrest : ∃ tail,(settle job readings (count+1) (next (readings count))
        (history++[.looked (readings count)])).history=
          history++[.looked (readings count)]++tail ∧
        (∀ op result,Event.returned op result∉tail) ∧
        ∀ reading,Event.looked reading∈tail → ∃ index,readings index=reading :=
      ih (readings count)
    obtain ⟨tail,htail,hnone,hreadings⟩ := hrest
    refine ⟨.looked (readings count)::tail,?_,?_,?_⟩
    · rw [settle,htail,List.append_assoc,List.singleton_append]
    · intro op result hmem
      rcases List.mem_cons.mp hmem with hhead | htailmem
      · cases hhead
      · exact hnone op result htailmem
    · intro reading hmem
      rcases List.mem_cons.mp hmem with hhead | htailmem
      · cases hhead
        exact ⟨count,rfl⟩
      · exact hreadings reading htailmem
  | wait op next ih =>
    refine ⟨[.called op],rfl,?_,?_⟩
    · intro called result hmem
      cases List.mem_singleton.mp hmem
    · intro reading hmem
      cases List.mem_singleton.mp hmem

@[simp] theorem returned_mem_settle {job : Job} {readings : Nat → Reading} {count : Nat}
    {program : Program Op Result Reading Raised Value} {history : List (Event Op Result Reading)}
    {op : Op} {result : Result op} :
    Event.returned op result∈(settle job readings count program history).history ↔
      Event.returned op result∈history := by
  obtain ⟨tail,htail,hnone,-⟩ : ∃ tail,(settle job readings count program history).history=
      history++tail ∧ (∀ op result,Event.returned op result∉tail) ∧
      ∀ reading,Event.looked reading∈tail → ∃ index,readings index=reading := settle_history
  rw [htail,List.mem_append]
  constructor
  · rintro (hold | hnew)
    · exact hold
    · exact absurd hnew (hnone op result)
  · exact .inl

theorem prefix_settle {job : Job} {readings : Nat → Reading} {count : Nat}
    {program : Program Op Result Reading Raised Value} {history : List (Event Op Result Reading)} :
    history<+:(settle job readings count program history).history := by
  obtain ⟨tail,htail,-⟩ : ∃ tail,(settle job readings count program history).history=
      history++tail ∧ (∀ op result,Event.returned op result∉tail) ∧
      ∀ reading,Event.looked reading∈tail → ∃ index,readings index=reading := settle_history
  rw [htail]
  exact List.prefix_append _ _

section

variable {system : System Op Result Reading Raised Value Job World Oracle Change}
  {state : State Op Result Reading Raised Value Job World}

@[simp] theorem put_self {index : Nat} {process : Process Op Result Reading Raised Value Job} :
    (state.put index process).processes index=some process := if_pos rfl

/-- Other processes are not changed. -/
theorem put_other {index other : Nat} {process : Process Op Result Reading Raised Value Job}
    (h : other≠index) : (state.put index process).processes other=state.processes other := if_neg h

/-- A process after a put is the new one or an old one. -/
theorem put_cases {index other : Nat} {process found : Process Op Result Reading Raised Value Job}
    (h : (state.put index process).processes other=some found) :
    (other=index ∧ found=process) ∨ (other≠index ∧ state.processes other=some found) := by
  by_cases hother : other=index
  · rw [hother,put_self] at h
    exact .inl ⟨hother,(Option.some.inj h).symm⟩
  · rw [put_other hother] at h
    exact .inr ⟨hother,h⟩

/-- A fact about all processes holds after a put when it holds of the new one. -/
theorem put_forall {fact : Process Op Result Reading Raised Value Job → Prop} {index : Nat}
    {process : Process Op Result Reading Raised Value Job}
    (h : ∀ other found,state.processes other=some found → fact found) (hprocess : fact process) :
    ∀ other found,(state.put index process).processes other=some found → fact found := by
  intro other found hfound
  rcases put_cases hfound with ⟨-,rfl⟩ | ⟨-,hold⟩
  · exact hprocess
  · exact h other found hold

/-- What one step does. -/
inductive System.Effect (system : System Op Result Reading Raised Value Job World Oracle Change)
    (state : State Op Result Reading Raised Value Job World) :
    Action Reading Job Oracle Change → State Op Result Reading Raised Value Job World → Prop
  | idle (action : Action Reading Job Oracle Change) : Effect system state action state
  /-- A new process runs until it waits. -/
  | started {index : Nat} {job : Job} {readings : Nat → Reading}
      (hnew : state.processes index=none) : Effect system state (.start index job readings)
        (state.put index (settle job readings 0 (system.launch job) []))
  /-- The operation that a process waits for is performed, and the process goes on. -/
  | resumed {index : Nat} {oracle : Oracle} {readings : Nat → Reading} {job : Job} {op : Op}
      {next : Result op → Program Op Result Reading Raised Value}
      {history : List (Event Op Result Reading)}
      (hwaiting : state.processes index=some ⟨job,.wait op next,history⟩) :
      Effect system state (.resume index oracle readings)
        ({state with world := (system.perform oracle state.world op).1}.put index
          (settle job readings 0 (next (system.perform oracle state.world op).2)
            (history++[Event.returned op (system.perform oracle state.world op).2])))
  /-- The surroundings change the world. -/
  | disturbed (change : Change) : Effect system state (.disturb change)
      {state with world := system.disturb change state.world}

theorem System.step_effect (action : Action Reading Job Oracle Change) :
    system.Effect state action (system.step state action) := by
  cases action with
  | start index job readings =>
    cases hfound : state.processes index with
    | none =>
      simp only [System.step,hfound]
      exact .started hfound
    | some process =>
      simp only [System.step,hfound]
      exact .idle _
  | disturb change => exact .disturbed change
  | resume index oracle readings =>
    cases hfound : state.processes index with
    | none =>
      simp only [System.step,hfound]
      exact .idle _
    | some process =>
      obtain ⟨job,program,history⟩ := process
      cases program with
      | wait op next =>
        simp only [System.step,hfound]
        exact .resumed hfound
      | done value =>
        simp only [System.step,hfound]
        exact .idle _
      | raised error =>
        simp only [System.step,hfound]
        exact .idle _
      | look next =>
        simp only [System.step,hfound]
        exact .idle _

/-- A step keeps the job of a process and only adds to its history. -/
theorem System.step_history {action : Action Reading Job Oracle Change} {index : Nat}
    {process : Process Op Result Reading Raised Value Job}
    (h : state.processes index=some process) : ∃ later,
      (system.step state action).processes index=some later ∧ later.job=process.job ∧
        process.history<+:later.history := by
  have heffect : system.Effect state action (system.step state action) :=
    System.step_effect action
  generalize system.step state action=after at heffect
  cases heffect with
  | idle => exact ⟨process,h,rfl,List.prefix_refl _⟩
  | disturbed change => exact ⟨process,h,rfl,List.prefix_refl _⟩
  | started hnew =>
    rename_i started job readings
    have hother : index≠started := by
      intro hsame
      rw [hsame,hnew] at h
      cases h
    exact ⟨process,by rw [put_other hother]; exact h,rfl,List.prefix_refl _⟩
  | resumed hwaiting =>
    rename_i resumed oracle readings job op next history
    by_cases hsame : index=resumed
    · rw [hsame] at h ⊢
      rw [hwaiting] at h
      cases h
      exact ⟨_,put_self,settle_job,(List.prefix_append _ _).trans prefix_settle⟩
    · exact ⟨process,by rw [put_other hsame]; exact h,rfl,List.prefix_refl _⟩

/-- A run keeps the job of a process and only adds to its history. -/
theorem System.run_history {actions : List (Action Reading Job Oracle Change)} {index : Nat}
    {process : Process Op Result Reading Raised Value Job}
    (h : state.processes index=some process) : ∃ later,
      (run system.step state actions).processes index=some later ∧ later.job=process.job ∧
        process.history<+:later.history := by
  induction actions generalizing state process with
  | nil => exact ⟨process,h,rfl,List.prefix_refl _⟩
  | cons action actions ih =>
    have hstep : ∃ later,(system.step state action).processes index=some later ∧
        later.job=process.job ∧ process.history<+:later.history := System.step_history h
    obtain ⟨middle,hmiddle,hjob,hmore⟩ := hstep
    obtain ⟨later,hlater,hjobLater,hmoreLater⟩ := ih hmiddle
    exact ⟨later,hlater,hjobLater.trans hjob,hmore.trans hmoreLater⟩

/-- Every process of a run was started for its job by one of the actions. -/
theorem System.run_started {world : World} {actions : List (Action Reading Job Oracle Change)}
    {index : Nat} {process : Process Op Result Reading Raised Value Job}
    (h : (run system.step (State.initial world) actions).processes index=some process) :
    ∃ readings,Action.start index process.job readings∈actions := by
  induction actions using List.reverseRecOn generalizing process with
  | nil => cases h
  | append_singleton actions action ih =>
    have hearlier : ∀ found,(run system.step (State.initial world) actions).processes index=
        some found → ∃ readings,Action.start index found.job readings∈actions++[action] := by
      intro found hfound
      obtain ⟨readings,hmem⟩ := ih hfound
      exact ⟨readings,List.mem_append_left _ hmem⟩
    rw [run_concat] at h
    have heffect : system.Effect (run system.step (State.initial world) actions) action
        (system.step (run system.step (State.initial world) actions) action) :=
      System.step_effect action
    generalize system.step (run system.step (State.initial world) actions) action=after
      at h heffect
    cases heffect with
    | idle => exact hearlier process h
    | disturbed change => exact hearlier process h
    | started hnew =>
      rename_i started job readings
      rcases put_cases h with ⟨rfl,rfl⟩ | ⟨-,hold⟩
      · rw [settle_job]
        exact ⟨readings,List.mem_append_right _ List.mem_cons_self⟩
      · exact hearlier process hold
    | resumed hwaiting =>
      rcases put_cases h with ⟨rfl,rfl⟩ | ⟨-,hold⟩
      · rw [settle_job]
        exact hearlier _ hwaiting
      · exact hearlier process hold

/-- Whether an action answers a look with a reading. -/
def Action.Reads (action : Action Reading Job Oracle Change) (reading : Reading) : Prop :=
  match action with
  | .start _ _ readings => ∃ count,readings count=reading
  | .resume _ _ readings => ∃ count,readings count=reading
  | .disturb _ => False

theorem System.run_looks {world : World} {actions : List (Action Reading Job Oracle Change)}
    {index : Nat} {process : Process Op Result Reading Raised Value Job} {reading : Reading}
    (h : (run system.step (State.initial world) actions).processes index=some process)
    (hlook : Event.looked reading∈process.history) : ∃ action∈actions,action.Reads reading := by
  induction actions using List.reverseRecOn generalizing index process with
  | nil => cases h
  | append_singleton actions action ih =>
    have hearlier : ∀ other found,(run system.step (State.initial world) actions).processes
        other=some found → Event.looked reading∈found.history →
          ∃ earlier∈actions++[action],earlier.Reads reading := by
      intro other found hfound hmem
      obtain ⟨earlier,hmemActions,hreads⟩ := ih hfound hmem
      exact ⟨earlier,List.mem_append_left _ hmemActions,hreads⟩
    rw [run_concat] at h
    have heffect : system.Effect (run system.step (State.initial world) actions) action
        (system.step (run system.step (State.initial world) actions) action) :=
      System.step_effect action
    generalize system.step (run system.step (State.initial world) actions) action=after
      at h heffect
    cases heffect with
    | idle => exact hearlier index process h hlook
    | disturbed change => exact hearlier index process h hlook
    | started hnew =>
      rename_i started job readings
      rcases put_cases h with ⟨-,rfl⟩ | ⟨-,hold⟩
      · obtain ⟨tail,htail,-,hreadings⟩ : ∃ tail,(settle job readings 0 (system.launch job)
            []).history=[]++tail ∧ (∀ op result,Event.returned op result∉tail) ∧
            ∀ reading,Event.looked reading∈tail → ∃ index,readings index=reading := settle_history
        rw [htail] at hlook
        exact ⟨_,List.mem_append_right _ List.mem_cons_self,hreadings reading hlook⟩
      · exact hearlier index process hold hlook
    | resumed hwaiting =>
      rename_i resumed oracle readings job op next history
      rcases put_cases h with ⟨-,rfl⟩ | ⟨-,hold⟩
      · have hsettled : ∃ tail,(settle job readings 0 (next (system.perform oracle
              (run system.step (State.initial world) actions).world op).2)
            (history++[Event.returned op (system.perform oracle
              (run system.step (State.initial world) actions).world op).2])).history=
              history++[Event.returned op (system.perform oracle
                (run system.step (State.initial world) actions).world op).2]++tail ∧
            (∀ op result,Event.returned op result∉tail) ∧
            ∀ reading,Event.looked reading∈tail → ∃ index,readings index=reading := settle_history
        obtain ⟨tail,htail,-,hreadings⟩ := hsettled
        rw [htail] at hlook
        rcases List.mem_append.mp hlook with hbefore | hafter
        · rcases List.mem_append.mp hbefore with hold | hreturned
          · exact hearlier resumed _ hwaiting hold
          · cases List.mem_singleton.mp hreturned
        · exact ⟨_,List.mem_append_right _ List.mem_cons_self,hreadings reading hafter⟩
      · exact hearlier index process hold hlook

end

section

variable (system : System Op Result Reading Raised Value Job World Oracle Change)
  (monitor : Job → Monitor Op Result Reading Ghost) (ghost : Job → Ghost)
  (post : Job → Except Raised Value → Ghost → Prop)

/-- Every process follows the monitor of its job. -/
def AllOk (state : State Op Result Reading Raised Value Job World) : Prop :=
  ∀ index process,state.processes index=some process →
    process.Ok (monitor process.job) (ghost process.job) (post process.job)

variable {system monitor ghost post}

/-- A step keeps every process at its monitor. -/
theorem step_ok {state : State Op Result Reading Raised Value Job World}
    {action : Action Reading Job Oracle Change}
    (hlaunch : ∀ job,(system.launch job).Follows (monitor job) (post job) (ghost job))
    (h : AllOk monitor ghost post state) : AllOk monitor ghost post (system.step state action) := by
  have heffect : system.Effect state action (system.step state action) :=
    System.step_effect action
  generalize system.step state action=after at heffect
  cases heffect with
  | idle => exact h
  | disturbed change => exact h
  | started hnew =>
    refine put_forall h ?_
    rw [settle_job]
    exact settle_ok allows_nil answered_nil (hlaunch _)
  | resumed hwaiting =>
    have hok := h _ _ hwaiting
    refine put_forall h ?_
    rw [settle_job]
    exact resume_ok hok _

/-- When every launched program follows the monitor of its job, every process of
every run does. -/
theorem System.run_ok
    (hlaunch : ∀ job,(system.launch job).Follows (monitor job) (post job) (ghost job))
    {world : World} {actions : List (Action Reading Job Oracle Change)} :
    AllOk monitor ghost post (run system.step (State.initial world) actions) := by
  refine run_invariant (fun state action => step_ok hlaunch) ?_
  intro index process hfound
  cases hfound

/-- When every launched program follows the monitor of its job, every end of a
process of a run satisfies the postcondition of its job. -/
theorem System.run_ended
    (hlaunch : ∀ job,(system.launch job).Follows (monitor job) (post job) (ghost job))
    {world : World} {actions : List (Action Reading Job Oracle Change)} : ∀ index process,
      (run system.step (State.initial world) actions).processes index=some process →
        process.Ended (monitor process.job) (ghost process.job) (post process.job) := by
  induction actions using List.reverseRecOn with
  | nil =>
    intro index process hfound
    cases hfound
  | append_singleton actions action ih =>
    have hok : AllOk monitor ghost post (run system.step (State.initial world) actions) :=
      System.run_ok hlaunch
    rw [run_concat]
    have heffect : system.Effect (run system.step (State.initial world) actions) action
        (system.step (run system.step (State.initial world) actions) action) :=
      System.step_effect action
    generalize system.step (run system.step (State.initial world) actions) action=after at heffect
    cases heffect with
    | idle => exact ih
    | disturbed change => exact ih
    | started hnew =>
      refine put_forall ih ?_
      rw [settle_job]
      exact settle_ended (hlaunch _)
    | resumed hwaiting =>
      refine put_forall ih ?_
      rw [settle_job]
      refine settle_ended ?_
      rw [after_concat]
      exact (hok _ _ hwaiting).future _ _ rfl _

/-- An invariant is kept by a run when starts, resumptions and the disturbances that
are permitted keep it, with every process at its monitor. -/
theorem System.run_induction
    (hlaunch : ∀ job,(system.launch job).Follows (monitor job) (post job) (ghost job))
    (permitted : State Op Result Reading Raised Value Job World → Change → Prop)
    (invariant : State Op Result Reading Raised Value Job World → Prop)
    (hstart : ∀ state index job readings,AllOk monitor ghost post state →
      state.processes index=none → invariant state →
        invariant (state.put index (settle job readings 0 (system.launch job) [])))
    (hresume : ∀ state index oracle readings job op next history,AllOk monitor ghost post state →
      state.processes index=some ⟨job,.wait op next,history⟩ → invariant state →
        invariant ({state with world := (system.perform oracle state.world op).1}.put index
          (settle job readings 0 (next (system.perform oracle state.world op).2)
            (history++[Event.returned op (system.perform oracle state.world op).2]))))
    (hdisturb : ∀ state change,AllOk monitor ghost post state → permitted state change →
      invariant state → invariant {state with world := system.disturb change state.world})
    {world : World} {actions : List (Action Reading Job Oracle Change)}
    (hpermitted : ∀ earlier change later,actions=earlier++Action.disturb change::later →
      permitted (run system.step (State.initial world) earlier) change)
    (h : invariant (State.initial world)) :
    invariant (run system.step (State.initial world) actions) := by
  have hboth : AllOk monitor ghost post (run system.step (State.initial world) actions) ∧
      invariant (run system.step (State.initial world) actions) := by
    refine run_invariant_along (fun state => AllOk monitor ghost post state ∧ invariant state)
      (fun state action => ∀ change,action=.disturb change → permitted state change) ?_ ?_ ?_
    · intro state action haction hstate
      refine ⟨step_ok hlaunch hstate.1,?_⟩
      have heffect : system.Effect state action (system.step state action) :=
        System.step_effect action
      generalize system.step state action=after at heffect
      cases heffect with
      | idle => exact hstate.2
      | disturbed change => exact hdisturb state change hstate.1 (haction change rfl) hstate.2
      | started hnew => exact hstart state _ _ _ hstate.1 hnew hstate.2
      | resumed hwaiting => exact hresume state _ _ _ _ _ _ _ hstate.1 hwaiting hstate.2
    · intro earlier action later hsplit change hchange
      rw [hchange] at hsplit
      exact hpermitted earlier change later hsplit
    · refine ⟨?_,h⟩
      intro index process hfound
      cases hfound
  exact hboth.2

end

end ControlGraph.WaitingPrograms
