import ControlGraph.AuthorityTransactions

/-!
# Verdicts on transactions whose answer was lost

Any number of transactions run over one store, and their commits land at any
time, also after the readback has begun or ended. What a readback reports was
stored when it was read. A prepared document carries a mutation id that
nothing else carries, so finding it proves the commit. A different document at
its revision takes its place for good, because no key holds two documents of
one revision.
-/

namespace ControlGraph.TransactionVerdicts

open Checks ContractText LabelledRuns StorageIdentity ReceiptContracts VersionedTables
  WaitingPrograms AuthorityTransactions

/-- Histories of the transactions. -/
abbrev History (Value : Type) := List (Event (Operation Value) Operation.Result Unit)

/-- Processes of the transactions. -/
abbrev Execution (Value : Type) := Process (Operation Value) Operation.Result Unit Failure
  TransactionCommitDisposition (Transaction Value)

section

variable {Value : Type}

/-- A read of the place of a prepared document reported a document. -/
def Found (history : History Value) (expected : PreparedDocument Value)
    (current : DecodedDocument Value) : Prop :=
  Event.returned (Operation.strongRead expected) (ReadReport.found (some current))∈history

/-- The runner reported that its commit is confirmed. -/
def Confirmed (history : History Value) (transaction : Transaction Value) : Prop :=
  Event.returned (Operation.runner transaction) RunnerReport.returned∈history

theorem Found.mono {history later : History Value} {expected : PreparedDocument Value}
    {current : DecodedDocument Value} (hsubset : history ⊆ later)
    (h : Found history expected current) : Found later expected current :=
  hsubset h

/-- Nothing is asked of the calls of a transaction. -/
def watch : Monitor (Operation Value) Operation.Result Unit (History Value) :=
  Monitor.recording (fun _ _ => True)

/-- What was returned stays in a recorded history. -/
theorem follows_found {Answer : Type} {expected : PreparedDocument Value}
    {current : DecodedDocument Value} {program : StoreProgram Value Answer}
    {history : History Value} {post : Except Failure Answer → History Value → Prop}
    (hfound : Found history expected current) (h : program.Follows watch post history) :
    program.Follows watch (fun result state => Found state expected current ∧ post result state)
      history := by
  refine (Program.Follows.grows h).mono ?_
  intro result state hstate
  exact ⟨hfound.mono hstate.1.subset,hstate.2⟩

variable [DecidableEq Value]

/-- Every prepared document was found as it was prepared. -/
def AllFound (history : History Value) (documents : List (PreparedDocument Value)) : Prop :=
  ∀ expected∈documents,∃ current,Found history expected current ∧
    samePrepared current expected=true

/-- Another document was found at the revision of a prepared one. -/
def Overtaken (history : History Value) (documents : List (PreparedDocument Value)) : Prop :=
  ∃ expected∈documents,∃ current,Found history expected current ∧
    samePrepared current expected≠true ∧
    current.wrapper.revision=expected.wrapper.revision

/-- What the end of the reads of a readback says, given what was known when they began. -/
def Read (documents : List (PreparedDocument Value)) (resolved : List (DecodedDocument Value))
    (competing_revision : Bool) :
    Except Failure (List (DecodedDocument Value)×Bool) → History Value → Prop
  | .ok (found,competing),history =>
    found.length ≤ resolved.length+documents.length ∧
    (found.length=resolved.length+documents.length → AllFound history documents) ∧
    (competing=true → competing_revision=true ∨ Overtaken history documents)
  | .error failure,_ => ∀ cause,failure≠.conflict cause

/-- What the end of a readback says. -/
def Resolved (documents : List (PreparedDocument Value)) :
    Except Failure (List (DecodedDocument Value)) → History Value → Prop
  | .ok _,history => AllFound history documents
  | .error failure,history =>
    failure=.conflict .competingRevision → Overtaken history documents

/-- What the end of a transaction says. -/
def Judged (transaction : Transaction Value) :
    Except Failure TransactionCommitDisposition → History Value → Prop
  | .ok _,history => Confirmed history transaction ∨ AllFound history transaction.documents
  | .error failure,history =>
    failure=.conflict .competingRevision → Overtaken history transaction.documents

section

variable {expected : PreparedDocument Value} {documents : List (PreparedDocument Value)}
  {resolved : List (DecodedDocument Value)} {competing_revision : Bool} {history : History Value}
  {result : Except Failure (List (DecodedDocument Value)×Bool)}

theorem Overtaken.cons (h : Overtaken history documents) :
    Overtaken history (expected::documents) := by
  obtain ⟨other,hmem,hfound⟩ := h
  exact ⟨other,List.mem_cons_of_mem _ hmem,hfound⟩

/-- A document that is not kept leaves the reads short of it. -/
theorem Read.skip (h : Read documents resolved competing_revision result history) :
    Read (expected::documents) resolved competing_revision result history := by
  cases result with
  | error failure => exact h
  | ok answer =>
    obtain ⟨hlength,-,hcompeting⟩ := h
    refine ⟨?_,?_,?_⟩
    · rw [List.length_cons]
      omega
    · intro hall
      rw [List.length_cons] at hall
      omega
    · intro htrue
      exact (hcompeting htrue).imp id Overtaken.cons

/-- A document that is the prepared one is kept. -/
theorem Read.keep {current : DecodedDocument Value} (hfound : Found history expected current)
    (hsame : samePrepared current expected=true)
    (h : Read documents (resolved++[current]) competing_revision result history) :
    Read (expected::documents) resolved competing_revision result history := by
  cases result with
  | error failure => exact h
  | ok answer =>
    obtain ⟨hlength,hall,hcompeting⟩ := h
    rw [List.length_append,List.length_singleton] at hlength hall
    refine ⟨?_,?_,?_⟩
    · rw [List.length_cons]
      omega
    · intro heq other hother
      rw [List.length_cons] at heq
      rcases List.mem_cons.mp hother with rfl | hrest
      · exact ⟨current,hfound,hsame⟩
      · exact hall (by omega) other hrest
    · intro htrue
      exact (hcompeting htrue).imp id Overtaken.cons

/-- A different document of the same revision is noted. -/
theorem Read.overtaken {current : DecodedDocument Value} (hfound : Found history expected current)
    (hother : samePrepared current expected≠true)
    (hrevision : current.wrapper.revision=expected.wrapper.revision)
    (h : Read documents resolved true result history) :
    Read (expected::documents) resolved competing_revision result history := by
  have hskip : Read (expected::documents) resolved true result history := h.skip
  cases result with
  | error failure => exact hskip
  | ok answer =>
    refine ⟨hskip.1,hskip.2.1,?_⟩
    intro _
    exact .inr ⟨expected,List.mem_cons_self,current,hfound,hother,hrevision⟩

end

/-- The reads of a readback keep exactly the documents that are the prepared ones. -/
theorem follows_readDocuments (documents : List (PreparedDocument Value))
    (resolved : List (DecodedDocument Value)) (competing_revision : Bool) (history : History Value) :
    (readDocuments documents resolved competing_revision).Follows watch
      (Read documents resolved competing_revision) history := by
  induction documents generalizing resolved competing_revision history with
  | nil =>
    refine ⟨Nat.le_refl _,?_,fun h => .inl h⟩
    intro hlength expected hmem
    cases hmem
  | cons expected documents ih =>
    rw [readDocuments,follows_bind,follows_call]
    refine ⟨trivial,?_⟩
    intro report
    simp only [seqPost]
    cases report with
    | timeout =>
      intro cause hcause
      cases hcause
    | failed =>
      intro cause hcause
      cases hcause
    | found current =>
      cases current with
      | none => exact (ih resolved competing_revision _).mono (fun result state h => h.skip)
      | some current =>
        have hfound : Found (watch.returned (watch.called history (Operation.strongRead expected))
            (Operation.strongRead expected) (ReadReport.found (some current))) expected current :=
          List.mem_append_right _ List.mem_cons_self
        by_cases hsame : samePrepared current expected=true
        · simp only [hsame,if_true]
          refine (follows_found hfound (ih (resolved++[current]) competing_revision _)).mono ?_
          intro result state hstate
          exact hstate.2.keep hstate.1 hsame
        · simp only [hsame]
          by_cases hrevision : current.wrapper.revision=expected.wrapper.revision
          · simp only [hrevision,if_true]
            refine (follows_found hfound (ih resolved true _)).mono ?_
            intro result state hstate
            exact hstate.2.overtaken hstate.1 hsame hrevision
          · simp only [hrevision,if_false]
            exact (ih resolved competing_revision _).mono (fun result state h => h.skip)

/-- A readback ends with every prepared document found, or with the reason for its conflict. -/
theorem follows_resolveAmbiguous (documents : List (PreparedDocument Value))
    (history : History Value) :
    (resolveAmbiguous documents).Follows watch (Resolved documents) history := by
  rw [resolveAmbiguous,follows_bind]
  refine (follows_readDocuments documents [] false history).mono ?_
  intro result state hread
  cases result with
  | error failure =>
    intro hconflict
    exact absurd hconflict (hread .competingRevision)
  | ok answer =>
    obtain ⟨hlength,hall,hcompeting⟩ := hread
    simp only [seqPost]
    rw [List.length_nil,Nat.zero_add] at hall
    by_cases hcomplete : answer.1.length=documents.length
    · rw [if_pos hcomplete,follows_pure]
      exact hall hcomplete
    · rw [if_neg hcomplete]
      by_cases hother : answer.2=true
      · rw [if_pos hother,follows_raised]
        intro _
        rcases hcompeting hother with hfalse | hovertaken
        · cases hfalse
        · exact hovertaken
      · rw [if_neg hother,follows_raised]
        intro hconflict
        cases hconflict

/-- A transaction whose time is over is judged by a readback. -/
theorem follows_classify (transaction : Transaction Value) (history : History Value) :
    (classify transaction.documents).Follows watch (Judged transaction) history := by
  rw [classify,follows_bind,follows_attempt]
  refine (follows_resolveAmbiguous transaction.documents history).mono ?_
  intro result state hresolved
  cases result with
  | ok resolved => exact .inr hresolved
  | error failure =>
    cases failure with
    | timeout =>
      intro hconflict
      cases hconflict
    | _ => exact hresolved

/-- A transaction ends with a confirmed commit, with every prepared document found, or
with the reason for its conflict. -/
theorem follows_runTransaction (transaction : Transaction Value) (history : History Value) :
    (runTransaction transaction).Follows watch (Judged transaction) history := by
  rw [runTransaction,follows_bind,follows_call]
  refine ⟨trivial,?_⟩
  intro report
  simp only [seqPost]
  cases report with
  | returned => exact .inl (List.mem_append_right _ List.mem_cons_self)
  | timeout => exact follows_classify transaction _
  | failed =>
    rw [follows_bind,follows_attempt]
    refine (follows_resolveAmbiguous transaction.documents _).mono ?_
    intro result state hresolved
    cases result with
    | ok resolved => exact .inr hresolved
    | error failure =>
      cases failure with
      | timeout => exact follows_classify transaction state
      | _ => exact hresolved
  | _ =>
    intro hconflict
    cases hconflict

end

/-- What the processes know of a store: its lineage, and that every report was true. -/
structure Sound {Value ModelType : Type} [DecidableEq Value] (contracts : Contracts Value ModelType)
    (documents : Documents) (state : Executions Value) : Prop where
  /-- The stored documents come from the first ones by the commits. -/
  lineage : Lineage documents state.world
  confirmed : ∀ index process transaction,state.processes index=some process →
    Confirmed process.history transaction → transaction∈state.world.committed
  found : ∀ index process expected current,state.processes index=some process →
    Found process.history expected current →
      Held documents (batches state.world.committed) expected.path current.wrapper ∧
      contracts.decode_contract (contracts.type expected.value) current.wrapper.canonical_payload=
        .ok current.value

section

variable {Value ModelType : Type} [DecidableEq Value] {contracts : Contracts Value ModelType}
  {documents : Documents} {state : Executions Value}

/-- A new process has no report. -/
theorem sound_start {index : Nat} {transaction : Transaction Value} {readings : Nat → Unit}
    (h : Sound contracts documents state) : Sound contracts documents
      (state.put index (settle transaction readings 0
        ((system contracts).launch transaction) [])) where
  lineage := h.lineage
  confirmed := by
    intro other process found hprocess hconfirmed
    rcases put_cases hprocess with ⟨-,rfl⟩ | ⟨-,hold⟩
    · rw [Confirmed,returned_mem_settle] at hconfirmed
      cases hconfirmed
    · exact h.confirmed other process found hold hconfirmed
  found := by
    intro other process expected current hprocess hfound
    rcases put_cases hprocess with ⟨-,rfl⟩ | ⟨-,hold⟩
    · rw [Found,returned_mem_settle] at hfound
      cases hfound
    · exact h.found other process expected current hold hfound

/-- The operations leave the store alone. -/
theorem perform_world (answers : Answers) (world : World Value) (op : Operation Value) :
    (perform contracts answers world op).1=world := by
  cases op with
  | runner transaction => rfl
  | strongRead expected => rfl

theorem perform_confirmed {answers : Answers} {world : World Value} {transaction : Transaction Value}
    (h : (perform contracts answers world (.runner transaction)).2=RunnerReport.returned) :
    transaction∈world.committed := by
  by_contra hnot
  simp only [perform] at h
  by_cases hreport : answers.report=.returned
  · rw [if_pos ⟨hreport,hnot⟩] at h
    cases h
  · rw [if_neg (fun hboth => hreport hboth.1)] at h
    exact hreport h

/-- A read reports what is stored. -/
theorem perform_found {answers : Answers} {world : World Value} {expected : PreparedDocument Value}
    {current : DecodedDocument Value}
    (h : (perform contracts answers world (.strongRead expected)).2=
      ReadReport.found (some current)) :
    readPlace contracts world.documents expected=.ok (some current) := by
  simp only [perform] at h
  cases hfailure : answers.failure with
  | some late =>
    rw [hfailure] at h
    cases late <;> cases h
  | none =>
    rw [hfailure] at h
    cases hread : readPlace contracts world.documents expected with
    | error raised =>
      simp only [hread] at h
      cases h
    | ok read =>
      simp only [hread] at h
      cases h
      rfl

/-- A resumed process has one more report, and it is true. -/
theorem sound_resume {index : Nat} {answers : Answers} {readings : Nat → Unit}
    {transaction : Transaction Value} {op : Operation Value}
    {next : op.Result → StoreProgram Value TransactionCommitDisposition} {history : History Value}
    (hwaiting : state.processes index=some ⟨transaction,.wait op next,history⟩)
    (h : Sound contracts documents state) : Sound contracts documents
      ({state with world := (perform contracts answers state.world op).1}.put index
        (settle transaction readings 0 (next (perform contracts answers state.world op).2)
          (history++[Event.returned op (perform contracts answers state.world op).2]))) := by
  rw [perform_world]
  refine ⟨h.lineage,?_,?_⟩
  · intro other process found hprocess hconfirmed
    rcases put_cases hprocess with ⟨-,rfl⟩ | ⟨-,hold⟩
    · rw [Confirmed,returned_mem_settle] at hconfirmed
      rcases List.mem_append.mp hconfirmed with hbefore | hnew
      · exact h.confirmed index _ found hwaiting hbefore
      · obtain ⟨rfl,hresult⟩ := Event.returned.inj (List.mem_singleton.mp hnew)
        exact perform_confirmed (eq_of_heq hresult).symm
    · exact h.confirmed other process found hold hconfirmed
  · intro other process expected current hprocess hfound
    rcases put_cases hprocess with ⟨-,rfl⟩ | ⟨-,hold⟩
    · rw [Found,returned_mem_settle] at hfound
      rcases List.mem_append.mp hfound with hbefore | hnew
      · exact h.found index _ expected current hwaiting hbefore
      · obtain ⟨rfl,hresult⟩ := Event.returned.inj (List.mem_singleton.mp hnew)
        have hread := perform_found (eq_of_heq hresult).symm
        exact ⟨held_of_stored h.lineage (readPlace_eq_some hread),(decodeSnapshot_eq_some hread).2⟩
    · exact h.found other process expected current hold hfound

/-- A landing keeps what was committed and what was held. -/
theorem sound_land {transaction : Transaction Value} (h : Sound contracts documents state) :
    Sound contracts documents {state with world := state.world.land contracts transaction} := by
  have hcommitted := @committed_land _ _ contracts _ state.world transaction
  refine ⟨lineage_land h.lineage,?_,?_⟩
  · intro index process found hprocess hconfirmed
    have hbefore := h.confirmed index process found hprocess hconfirmed
    rcases hcommitted with hsame | hmore
    · rw [hsame]
      exact hbefore
    · rw [hmore]
      exact List.mem_append_left _ hbefore
  · intro index process expected current hprocess hfound
    obtain ⟨hheld,hvalue⟩ := h.found index process expected current hprocess hfound
    refine ⟨?_,hvalue⟩
    rcases hcommitted with hsame | hmore
    · rw [hsame]
      exact hheld
    · rw [hmore,batches,List.map_append]
      exact hheld.append

theorem run_sound (steps : Steps Value) :
    Sound contracts documents (after contracts documents steps) := by
  refine System.run_induction (fun transaction => follows_runTransaction transaction [])
    (fun _ _ => True) (Sound contracts documents) ?_ ?_ ?_ (fun _ _ _ _ => trivial) ?_
  · intro state index transaction readings hok hnew hstate
    exact sound_start hstate
  · intro state index answers readings transaction op next history hok hwaiting hstate
    exact sound_resume hwaiting hstate
  · intro state change hok hpermitted hstate
    cases change with
    | land transaction => exact sound_land hstate
  · refine ⟨⟨rfl,succession_nil⟩,?_,?_⟩
    · intro index process found hprocess hconfirmed
      cases hprocess
    · intro index process expected current hprocess hfound
      cases hprocess

end

/-- The mutation ids of a transaction are carried by no document that is there at first
and by no other transaction that lands. -/
def Fresh {Value : Type} (documents : Documents) (steps : Steps Value)
    (transaction : Transaction Value) : Prop :=
  ∀ document∈transaction.documents,
    (∀ path wrapper,documents path=some wrapper →
      wrapper.mutation_id≠document.wrapper.mutation_id) ∧
    ∀ other,Action.disturb (Change.land other)∈steps → other≠transaction →
      ∀ competing∈other.documents,competing.wrapper.mutation_id≠document.wrapper.mutation_id

section

variable {Value ModelType : Type} [DecidableEq Value] {contracts : Contracts Value ModelType}
  {documents : Documents} {transaction : Transaction Value} {history : History Value}

theorem landed_of_committed {steps : Steps Value}
    (h : transaction∈(after contracts documents steps).world.committed) :
    Action.disturb (Change.land transaction)∈steps := by
  induction steps using List.reverseRecOn with
  | nil => cases h
  | append_singleton steps action ih =>
    rw [after,run_concat,← after] at h
    have heffect : (system contracts).Effect (after contracts documents steps) action
        ((system contracts).step (after contracts documents steps) action) :=
      System.step_effect action
    generalize (system contracts).step (after contracts documents steps) action=next at h heffect
    cases heffect with
    | idle => exact List.mem_append_left _ (ih h)
    | started hnew => exact List.mem_append_left _ (ih h)
    | resumed hwaiting =>
      have hworld : ∀ answers world op,((system contracts).perform answers world op).1=world :=
        fun answers world op => perform_world answers world op
      rw [hworld] at h
      exact List.mem_append_left _ (ih h)
    | disturbed change =>
      cases change with
      | land landing =>
        have hcommitted := @committed_land _ _ contracts _
          (after contracts documents steps).world landing
        rcases hcommitted with hsame | hmore
        · exact List.mem_append_left _ (ih (hsame ▸ h))
        · have hmem : transaction∈(after contracts documents steps).world.committed++[landing] :=
            hmore ▸ h
          rcases List.mem_append.mp hmem with hbefore | hnew
          · exact List.mem_append_left _ (ih hbefore)
          · rw [List.mem_singleton.mp hnew]
            exact List.mem_append_right _ List.mem_cons_self

/-- A transaction whose documents were found as they were prepared has committed. -/
theorem committed_of_allFound {steps : Steps Value} {index : Nat} {process : Execution Value}
    (hprocess : (after contracts documents steps).processes index=some process)
    (hfresh : Fresh documents steps transaction)
    (h : AllFound process.history transaction.documents) :
    transaction∈(after contracts documents steps).world.committed := by
  have hsound : Sound contracts documents (after contracts documents steps) := run_sound steps
  obtain ⟨first,writes,hwrites⟩ := List.exists_cons_of_ne_nil transaction.nonempty
  have hmem : first.document∈transaction.documents := by
    rw [Transaction.documents,hwrites]
    exact List.mem_cons_self
  obtain ⟨current,hfound,hsame⟩ := h first.document hmem
  have hwrapper : current.wrapper=first.document.wrapper := (of_decide_eq_true hsame).1
  have hheld := (hsound.found index process first.document current hprocess hfound).1
  obtain ⟨hinitial,hothers⟩ := hfresh first.document hmem
  rcases origin_of_held hheld with hstored | ⟨other,hcommitted,document,hdocument,hcarried⟩
  · exact absurd (congrArg _ hwrapper) (hinitial _ _ hstored)
  · by_contra hnot
    have hother : other≠transaction := by
      intro hsameTransaction
      rw [hsameTransaction] at hcommitted
      exact hnot hcommitted
    have hids := hothers other (landed_of_committed hcommitted) hother document hdocument
    rw [hcarried,hwrapper] at hids
    exact hids rfl

/-- A transaction that met another document at the revision of its own is not committed,
neither then nor after any later steps. -/
theorem not_committed_of_overtaken {steps : Steps Value} {index : Nat} {process : Execution Value}
    (hprocess : (after contracts documents steps).processes index=some process)
    (hprepared : ∀ document∈transaction.documents,
      document.wrapper.canonical_payload=contracts.canonical_json document.value)
    (h : Overtaken process.history transaction.documents) (later : Steps Value) :
    transaction∉(after contracts documents (steps++later)).world.committed := by
  intro hcommitted
  obtain ⟨expected,hmem,current,hfound,hother,hrevision⟩ := h
  have hlater : ∃ found,(after contracts documents (steps++later)).processes index=some found ∧
      found.job=process.job ∧ process.history<+:found.history := by
    rw [after,run_append]
    exact System.run_history hprocess
  obtain ⟨found,hfoundLater,-,hhistory⟩ := hlater
  have hsound : Sound contracts documents (after contracts documents (steps++later)) :=
    run_sound (steps++later)
  obtain ⟨hheld,hvalue⟩ := hsound.found index found expected current hfoundLater
    (hfound.mono hhistory.subset)
  have hsame : current.wrapper=expected.wrapper :=
    held_unique hsound.lineage.succession hheld (held_of_committed hcommitted hmem) hrevision
  exact hother (samePrepared_of_wrapper (hprepared expected hmem) hvalue hsame)

end

/-- In every run of transactions over one store, with their commits landing at any time:
a transaction of prepared documents with fresh mutation ids that is reported as done,
directly or by a readback, has committed, and one that a readback reported as overtaken
has not committed and does not commit in any continuation of the run. -/
theorem ambiguous_verdicts_sound {Value ModelType : Type} [DecidableEq Value]
    (contracts : Contracts Value ModelType) (documents : Documents) (steps : Steps Value)
    (index : Nat) (process : Execution Value)
    (hprocess : (after contracts documents steps).processes index=some process)
    (hprepared : ∀ document∈process.job.documents,
      ∃ kind logical_id document_id revision value mutation_id,
        preparedDocument contracts kind logical_id document_id revision value mutation_id=
          .ok document)
    (hfresh : Fresh documents steps process.job) :
    (∀ disposition,process.program=.done disposition →
      process.job∈(after contracts documents steps).world.committed) ∧
    (process.program=.raised (.conflict .competingRevision) → ∀ later,
      process.job∉(after contracts documents (steps++later)).world.committed) := by
  have hended : process.Ended watch [] (Judged process.job) :=
    System.run_ended (fun transaction => follows_runTransaction transaction []) index process
      hprocess
  have hhistory : watch.after [] process.history=process.history := by
    rw [watch,recording_after,List.nil_append]
  refine ⟨?_,?_⟩
  · intro disposition hdone
    have hjudged := hended.value disposition hdone
    rw [hhistory] at hjudged
    rcases hjudged with hconfirmed | hall
    · have hsound : Sound contracts documents (after contracts documents steps) := run_sound steps
      exact hsound.confirmed index process process.job hprocess hconfirmed
    · exact committed_of_allFound hprocess hfresh hall
  · intro hraised later
    have hjudged := hended.error _ hraised
    rw [hhistory] at hjudged
    refine not_committed_of_overtaken hprocess ?_ (hjudged rfl) later
    intro document hdocument
    obtain ⟨_,_,_,_,_,_,hmade⟩ := hprepared document hdocument
    exact preparedDocument_canonical hmade

def flagContracts : Contracts Bool Unit where
  canonical_json := fun flag => if flag=true then "true" else "false"
  canonical_sha256 := fun _ => zeroSha256
  type := fun _ => ()
  decode_contract := fun _ text =>
    if text="true" then .ok true else if text="false" then .ok false else .error .validationError
  validate_payload := fun _ => .ok ()
  decode_canonical := by decide

def flagDocument : PreparedDocument Bool :=
  ⟨⟨.epochAuthority,⟨"flag",by decide⟩,0,⟨"write-1",firstWrite⟩,"true",zeroSha256⟩,true,zeroSha256⟩

def flagTransaction : Transaction Bool where
  writes := [⟨flagDocument,none,fun _ h => nomatch h⟩]
  nonempty := List.cons_ne_nil _ _
  distinct := List.nodup_singleton _

/-- The commit lands, its answer is late, and the readback finds the flag. -/
def flagSteps : Steps Bool :=
  [.start 0 flagTransaction (fun _ => ()),.disturb (.land flagTransaction),
    .resume 0 ⟨.timeout,none⟩ (fun _ => ()),.resume 0 ⟨.timeout,none⟩ (fun _ => ())]

/-- The late commit of the flag is reported as done, and it has landed. -/
theorem ambiguous_verdicts_sound_late :
    flagTransaction∈(after flagContracts (fun _ => none) flagSteps).world.committed := by
  refine (ambiguous_verdicts_sound flagContracts (fun _ => none) flagSteps 0
    ⟨flagTransaction,.done .readbackResolved,[.called (.runner flagTransaction),
      .returned (.runner flagTransaction) .timeout,.called (.strongRead flagDocument),
      .returned (.strongRead flagDocument)
        (.found (some ⟨flagDocument.wrapper,true⟩))]⟩ rfl ?_ ?_).1 .readbackResolved rfl
  · intro document hdocument
    rw [List.mem_singleton.mp hdocument]
    exact ⟨.epochAuthority,⟨"flag",by decide⟩,zeroSha256,0,true,⟨"write-1",by decide⟩,rfl⟩
  · intro document hdocument
    refine ⟨fun path wrapper hstored => (nomatch hstored),?_⟩
    intro other hland hother
    simp only [flagSteps,List.mem_cons,Action.disturb.injEq,Change.land.injEq,reduceCtorEq,
      List.not_mem_nil,or_false,false_or] at hland
    exact absurd hland hother

end ControlGraph.TransactionVerdicts
