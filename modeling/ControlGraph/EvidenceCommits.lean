import ControlGraph.ClaimLifecycle
import ControlGraph.HashChains

/-!
# Commits to an evidence chain

Every root has one chain of evidence events. The creation of the root stores its
first event, a revocation appends one, a fence and a final release append two.
Whatever was committed last, the common reader accepts the stored head with its
event, so the next commit can follow it. A chain is carried with the bundle that
a writer reads for its root: the event that the head names is the newest one, and
the events before it are linked by their digests. A commit of another root
leaves a chain as it is.
-/

namespace ControlGraph.EvidenceCommits

open Checks ContractText RootContracts RevocationContracts ReleaseContracts
  AuthorityDatabase EvidenceChain RootCreation RevocationCommits ClaimFence ClaimRelease LabelledRuns
  AuthorityRuns ClaimLifecycle HashChains

open ReceiptContracts hiding ServiceClaimRecord

/-- What a chain reads of signed evidence. -/
def evidenceLinks (functions : AuthorityFunctions) :
    EventLinks SignedEvidenceEventV1 Sha256Digest where
  digest := fun signed => functions.canonical_sha256 (.signedEvidence signed)
  previous := fun signed => signed.event.previous_event_sha256
  sequence := fun signed => signed.event.sequence
  time := fun signed => signed.event.occurred_at.1

variable {functions : AuthorityFunctions}

def StoredEvidence (database : Database functions) (signed : SignedEvidenceEventV1) : Prop :=
  ∃ evidence_id stored,database.signed_evidence.find evidence_id=some stored ∧ stored.value=signed

def storedHead (database : Database functions) (root_id : Identifier) :
    Option (StoredRecord EvidenceChainHeadV1) :=
  database.chain_heads.find root_id.1

/-- The event that the stored head of a root names. -/
def headEvidence (database : Database functions) (root_id : Identifier) :
    Option (StoredRecord SignedEvidenceEventV1) :=
  (storedHead database root_id).bind fun head =>
    database.signed_evidence.find head.value.evidence_id.1

/-- The records of a root creation that never change. -/
structure CreationKept (database : Database functions) (bundle : RootCreationBundle) : Prop where
  lineage_anchor : database.lineage_anchors.find
    (capabilityLineageAnchorLogicalId functions bundle.creation_result.value.lineage_anchor)=
      some bundle.lineage_anchor
  anchor_id : bundle.creation_result.value.winner_lineage_anchor_id.1=
    capabilityLineageAnchorLogicalId functions bundle.creation_result.value.lineage_anchor
  signed_evidence : database.signed_evidence.find
    bundle.creation_result.value.winner_evidence_id.1=some bundle.signed_evidence

variable (configured_target : TargetBinding)

/-- The evidence chain of a root, with the bundle that a writer reads for it. -/
structure RootChain (database : Database functions) (root_id : Identifier)
    (bundle : RootCreationBundle) (head : EvidenceChainHeadV1)
    (newest : StoredRecord SignedEvidenceEventV1) (events : List SignedEvidenceEventV1) : Prop where
  /-- The root, the claim, the authority and the newest event are stored. -/
  view : ViewFound configured_target database root_id bundle (storedHead database root_id)
    (headEvidence database root_id)
  creation_result : database.creation_results.find root_id.1=some bundle.creation_result
  creation : CreationKept database bundle
  accepted : currentEvidenceChainHead functions bundle configured_target
    (storedHead database root_id) (headEvidence database root_id)=.ok head
  follows : predecessor bundle (storedHead database root_id) (headEvidence database root_id)=
    some newest
  chain : Chain (evidenceLinks functions) (StoredEvidence database) newest.value events

/-- What a commit of any root leaves as it is. -/
structure RecordsKept (before next : Database functions) (root_id : Identifier) : Prop where
  root : ∀ root,before.roots.find root_id.1=some root → next.roots.find root_id.1=some root
  creation_result : ∀ result,before.creation_results.find root_id.1=some result →
    next.creation_results.find root_id.1=some result
  lineage_anchors : ∀ anchor_id anchor,before.lineage_anchors.find anchor_id=some anchor →
    next.lineage_anchors.find anchor_id=some anchor
  signed_evidence : ∀ evidence_id stored,before.signed_evidence.find evidence_id=some stored →
    next.signed_evidence.find evidence_id=some stored
  claim : ∃ claim,storedClaim configured_target next=some claim

variable {configured_target} {before next : Database functions} {root_id : Identifier}
  {bundle : RootCreationBundle} {head : EvidenceChainHeadV1}
  {newest : StoredRecord SignedEvidenceEventV1} {events : List SignedEvidenceEventV1}

theorem RecordsKept.evidence (h : RecordsKept configured_target before next root_id) :
    ∀ signed,StoredEvidence before signed → StoredEvidence next signed := by
  intro signed hsigned
  obtain ⟨evidence_id,stored,hfound,hvalue⟩ := hsigned
  exact ⟨evidence_id,stored,h.signed_evidence evidence_id stored hfound,hvalue⟩

theorem CreationKept.kept (hcreation : CreationKept before bundle)
    (h : RecordsKept configured_target before next root_id)
    (claim : StoredRecord ServiceClaimRecord) (authority : StoredRecord EpochAuthorityRecord) :
    CreationKept next {bundle with service_claim := claim,authority := authority} :=
  ⟨h.lineage_anchors _ _ hcreation.lineage_anchor,hcreation.anchor_id,
    h.signed_evidence _ _ hcreation.signed_evidence⟩

/-- The reader looks at the root, the authority and the first event of a bundle. -/
theorem currentEvidenceChainHead_claim {target : TargetBinding}
    {stored_head : Option (StoredRecord EvidenceChainHeadV1)}
    {head_evidence : Option (StoredRecord SignedEvidenceEventV1)}
    (claim : StoredRecord ServiceClaimRecord)
    (h : currentEvidenceChainHead functions bundle target stored_head head_evidence=.ok head) :
    currentEvidenceChainHead functions {bundle with service_claim := claim} target stored_head
      head_evidence=.ok head := by
  cases stored_head with
  | none =>
    obtain ⟨hstart,hfields⟩ := currentEvidenceChainHead_none.mp h
    refine currentEvidenceChainHead_none.mpr ⟨?_,hfields⟩
    rw [bootstrappable_iff] at hstart ⊢
    exact hstart
  | some stored =>
    obtain ⟨evidence,hevidence,hrevision,hzero,hmatches,hvalue⟩ := currentEvidenceChainHead_some.mp h
    refine currentEvidenceChainHead_some.mpr ⟨evidence,hevidence,hrevision,hzero,?_,hvalue⟩
    rw [headMatches_iff] at hmatches ⊢
    exact hmatches

/-- The event of a stored head that the reader accepted stays the event of that head. -/
theorem headEvidence_kept (h : RecordsKept configured_target before next root_id)
    (hhead : storedHead next root_id=storedHead before root_id)
    (hchain : RootChain configured_target before root_id bundle head newest events) :
    headEvidence next root_id=headEvidence before root_id := by
  have haccepted := hchain.accepted
  unfold headEvidence at haccepted ⊢
  rw [hhead]
  cases hstored : storedHead before root_id with
  | none => rfl
  | some stored =>
    rw [hstored] at haccepted
    obtain ⟨evidence,hevidence,-⟩ := currentEvidenceChainHead_some.mp haccepted
    rw [Option.bind_some] at hevidence ⊢
    rw [Option.bind_some,hevidence]
    exact h.signed_evidence _ _ hevidence

/-- The chain of a root that a commit did not touch is intact. -/
theorem RootChain.kept (hchain : RootChain configured_target before root_id bundle head newest events)
    (h : RecordsKept configured_target before next root_id)
    (hauthority : next.authorities.find root_id.1=before.authorities.find root_id.1)
    (hhead : storedHead next root_id=storedHead before root_id) :
    ∃ bundle,RootChain configured_target next root_id bundle head newest events := by
  obtain ⟨claim,hclaim⟩ := h.claim
  have hevidence := headEvidence_kept h hhead hchain
  have hnewest := hchain.follows
  have haccepted := currentEvidenceChainHead_claim claim hchain.accepted
  rw [← hhead,← hevidence] at hnewest haccepted
  refine ⟨{bundle with service_claim := claim},?_,h.creation_result _ hchain.creation_result,
    hchain.creation.kept h claim bundle.authority,haccepted,?_,hchain.chain.mono h.evidence⟩
  · refine ⟨h.root _ hchain.view.root,hclaim,?_,rfl,?_⟩
    · rw [hauthority]
      exact hchain.view.authority
    · intro stored hstored
      rw [hhead,hevidence] at hstored
      apply h.signed_evidence
      apply hchain.view.event
      cases hold : storedHead before root_id with
      | none =>
        rw [hold] at hstored
        exact hstored
      | some old =>
        rw [hold] at hstored
        exact hstored
  · cases hnext : storedHead next root_id with
    | none =>
      rw [hnext] at hnewest
      exact hnewest
    | some old =>
      rw [hnext] at hnewest
      exact hnewest

/-- The event that an accepted reader follows is fixed by the stored head and authority. -/
theorem predecessor_evidence_id {target : TargetBinding}
    {stored_head : Option (StoredRecord EvidenceChainHeadV1)}
    {head_evidence : Option (StoredRecord SignedEvidenceEventV1)}
    {stored : StoredRecord SignedEvidenceEventV1}
    (h : currentEvidenceChainHead functions bundle target stored_head head_evidence=.ok head)
    (hstored : predecessor bundle stored_head head_evidence=some stored) :
    stored.value.event.evidence_id=
      stored_head.elim bundle.authority.value.evidence_id (fun found => found.value.evidence_id) := by
  cases stored_head with
  | none =>
    obtain ⟨hstart,-⟩ := currentEvidenceChainHead_none.mp h
    rw [← Option.some.inj hstored]
    exact hstart.evidence_id
  | some found =>
    obtain ⟨evidence,hevidence,-,-,hmatches,-⟩ := currentEvidenceChainHead_some.mp h
    rw [predecessor,hevidence] at hstored
    rw [← Option.some.inj hstored]
    exact hmatches.event_evidence_id

/-- A writer whose view was current follows the newest event of the chain. -/
theorem newest_of_view {view_bundle : RootCreationBundle} {view_head : EvidenceChainHeadV1}
    {expected_head : Option (StoredRecord EvidenceChainHeadV1)}
    {expected_evidence : Option (StoredRecord SignedEvidenceEventV1)}
    (hchain : RootChain configured_target before root_id bundle head newest events)
    (hview : ViewFound configured_target before root_id view_bundle expected_head expected_evidence)
    (haccepted : currentEvidenceChainHead functions view_bundle configured_target expected_head
      expected_evidence=.ok view_head) :
    predecessor view_bundle expected_head expected_evidence=some newest ∧
      AcceptedHead functions view_bundle view_head newest.value := by
  obtain ⟨stored,hstored,hholds⟩ := acceptedHead_of_current haccepted
  have hauthority : bundle.authority=view_bundle.authority := by
    have hfound := hchain.view.authority
    rw [hview.authority] at hfound
    exact (Option.some.inj hfound).symm
  have hhead : storedHead before root_id=expected_head := hview.head
  have hid : stored.value.event.evidence_id=newest.value.event.evidence_id := by
    rw [predecessor_evidence_id haccepted hstored,
      predecessor_evidence_id hchain.accepted hchain.follows,hhead,hauthority]
  have hsame : stored=newest := by
    have hfound := hview.event stored hstored
    rw [hid,hchain.view.event newest hchain.follows] at hfound
    exact (Option.some.inj hfound).symm
  rw [hsame] at hstored hholds
  exact ⟨hstored,hholds⟩

/-- The chain of a root after a commit that has written its head. -/
theorem RootChain.moved (hchain : RootChain configured_target before root_id bundle head newest events)
    (h : RecordsKept configured_target before next root_id)
    {authority : StoredRecord EpochAuthorityRecord} {stored_head : StoredRecord EvidenceChainHeadV1}
    {event : StoredRecord SignedEvidenceEventV1} {longer : List SignedEvidenceEventV1}
    (hauthority : next.authorities.find root_id.1=some authority)
    (hhead : next.chain_heads.find root_id.1=some stored_head)
    (hrevision : stored_head.revision=stored_head.value.sequence)
    (hevent : next.signed_evidence.find event.value.event.evidence_id.1=some event)
    (hzero : event.revision=0)
    (hmatches : HeadMatches functions {bundle with authority := authority} configured_target
      stored_head.value event.value)
    (hlonger : Chain (evidenceLinks functions) (StoredEvidence next) event.value longer) :
    ∃ bundle,RootChain configured_target next root_id bundle stored_head.value event longer := by
  obtain ⟨claim,hclaim⟩ := h.claim
  have hstored : storedHead next root_id=some stored_head := hhead
  have hevidence : headEvidence next root_id=some event := by
    rw [headEvidence,hstored,Option.bind_some,← hmatches.event_evidence_id]
    exact hevent
  refine ⟨{bundle with service_claim := claim,authority := authority},?_,
    h.creation_result _ hchain.creation_result,hchain.creation.kept h claim authority,?_,?_,hlonger⟩
  · refine ⟨h.root _ hchain.view.root,hclaim,hauthority,rfl,?_⟩
    intro found hfound
    rw [hstored,hevidence,predecessor] at hfound
    rw [← Option.some.inj hfound]
    exact hevent
  · rw [hstored,hevidence]
    refine currentEvidenceChainHead_some.mpr ⟨event,rfl,hrevision,hzero,?_,rfl⟩
    rw [headMatches_iff] at hmatches ⊢
    exact hmatches
  · rw [hstored,hevidence,predecessor]

/-- Views of one root at one moment agree on its root and its authority. -/
theorem bundle_of_view {view_bundle : RootCreationBundle}
    {expected_head : Option (StoredRecord EvidenceChainHeadV1)}
    {expected_evidence : Option (StoredRecord SignedEvidenceEventV1)}
    (hchain : RootChain configured_target before root_id bundle head newest events)
    (hview : ViewFound configured_target before root_id view_bundle expected_head
      expected_evidence) :
    bundle.root=view_bundle.root ∧ bundle.authority=view_bundle.authority := by
  have hroot := hchain.view.root
  have hauthority := hchain.view.authority
  rw [hview.root] at hroot
  rw [hview.authority] at hauthority
  exact ⟨(Option.some.inj hroot).symm,(Option.some.inj hauthority).symm⟩

/-- A change leaves the records of every creation and of every event as they are. -/
theorem recordsKept_of_changed (hchanged : Changed configured_target before next)
    (hclaim : ∃ claim,storedClaim configured_target before=some claim) :
    RecordsKept configured_target before next root_id := by
  obtain ⟨claim,hclaim⟩ := hclaim
  have hkept := (claimKept_of_changed hchanged).claim claim hclaim
  obtain ⟨later,hlater,-⟩ := hkept
  cases hchanged with
  | refused =>
    exact ⟨fun _ h => h,fun _ h => h,fun _ _ h => h,fun _ _ h => h,claim,hclaim⟩
  | created commit expected hcreated =>
    exact ⟨fun _ h => hcreated.roots.found_of_found h,
      fun _ h => hcreated.creation_results.found_of_found h,
      fun _ _ h => hcreated.lineage_anchors.found_of_found h,
      fun _ _ h => hcreated.signed_evidence.found_of_found h,later,hlater⟩
  | revoked expected commit bundle hrevoked =>
    refine ⟨?_,?_,?_,fun _ _ h => hrevoked.signed_evidence.found_of_found h,later,hlater⟩
    · rw [hrevoked.roots]
      exact fun _ h => h
    · rw [hrevoked.creation_results]
      exact fun _ h => h
    · rw [hrevoked.lineage_anchors]
      exact fun _ _ h => h
  | fenced expected commit view hfenced =>
    obtain ⟨terminated,hterminal,hfence⟩ := hfenced.signed_evidence
    refine ⟨?_,?_,?_,fun _ _ h => hfence.found_of_found (hterminal.found_of_found h),later,hlater⟩
    · rw [hfenced.roots]
      exact fun _ h => h
    · rw [hfenced.creation_results]
      exact fun _ h => h
    · rw [hfenced.lineage_anchors]
      exact fun _ _ h => h
  | released expected commit view hreleased =>
    obtain ⟨classified,hclassification,hrelease⟩ := hreleased.signed_evidence
    refine ⟨?_,?_,?_,fun _ _ h => hrelease.found_of_found (hclassification.found_of_found h),later,
      hlater⟩
    · rw [hreleased.roots]
      exact fun _ h => h
    · rw [hreleased.creation_results]
      exact fun _ h => h
    · rw [hreleased.lineage_anchors]
      exact fun _ _ h => h
  | received written =>
    exact ⟨fun _ h => h,fun _ h => h,fun _ _ h => h,fun _ _ h => h,claim,hclaim⟩

/-- A head that repeats its event. -/
structure HeadRepeats (functions : AuthorityFunctions) (head : EvidenceChainHeadV1)
    (signed : SignedEvidenceEventV1) : Prop where
  root_id : head.root_id=signed.event.root_id
  root_sha256 : head.root_sha256=signed.event.root_sha256
  target : head.target=signed.event.target
  sequence : head.sequence=signed.event.sequence
  evidence_id : head.evidence_id=signed.event.evidence_id
  evidence_sha256 : head.evidence_sha256=functions.canonical_sha256 (.signedEvidence signed)
  kind : head.kind=signed.event.kind
  epoch : head.epoch=signed.event.epoch
  updated_at : head.updated_at=signed.event.occurred_at

/-- A head that repeats an event of the current authority is accepted with it. -/
theorem headMatches_of_repeats {target : TargetBinding} {signed : SignedEvidenceEventV1}
    (h : HeadRepeats functions head signed)
    (hroot_id : signed.event.root_id=bundle.root.value.root_id)
    (hroot_sha256 : signed.event.root_sha256=bundle.root.value.root_sha256)
    (htarget : signed.event.target=target)
    (hkey : signed.signing_key_version=bundle.root.value.content.evidence_signing_key_version)
    (hsequence : bundle.authority.value.revision ≤ signed.event.sequence)
    (hadvanced : signed.event.kind=.epochAdvanced →
      signed.event.evidence_id=bundle.authority.value.evidence_id)
    (hepoch : signed.event.epoch=bundle.authority.value.current_epoch)
    (htime : bundle.authority.value.changed_at.1 ≤ signed.event.occurred_at.1) :
    HeadMatches functions bundle target head signed := by
  refine ⟨h.root_id.trans hroot_id,h.root_sha256.trans hroot_sha256,h.target.trans htarget,?_,?_,
    h.epoch.trans hepoch,?_,h.evidence_sha256,h.evidence_id.symm,h.sequence.symm,h.root_id.symm,
    h.root_sha256.symm,h.target.symm,h.epoch.symm,h.kind.symm,h.updated_at.symm,hkey⟩
  · rw [h.sequence]
    exact hsequence
  · intro hkind
    rw [h.kind] at hkind
    rw [h.evidence_id]
    exact hadvanced hkind
  · rw [h.updated_at]
    exact htime

/-- A revocation appends one event to the chain of its root. -/
theorem chain_of_revoked {expected : EpochRevocationState} {commit : EpochRevocationCommitV1}
    {view_bundle : RootCreationBundle}
    (h : EpochRevoked configured_target expected commit view_bundle before next)
    (hkept : RecordsKept configured_target before next commit.result.root_id)
    (hchain : RootChain configured_target before commit.result.root_id bundle head newest events) :
    ∃ bundle head newest events,
      RootChain configured_target next commit.result.root_id bundle head newest events := by
  obtain ⟨view_head,stored,hhead,hstored,hupdate⟩ := h.accepted.chain
  obtain ⟨hpredecessor,hholds⟩ := newest_of_view hchain h.view hhead
  rw [hpredecessor] at hstored
  obtain rfl := Option.some.inj hstored
  obtain ⟨hroot,hauthority_same⟩ := bundle_of_view hchain h.view
  obtain ⟨authority,hauthority,hauthority_value,-⟩ := h.authorities.found
  obtain ⟨stored_head,hstored_head,hhead_value,hhead_revision⟩ := h.chain_heads.found
  obtain ⟨event,hevent,hevent_value,hzero⟩ := h.signed_evidence.2.found
  have hresult := h.accepted.result
  have hevent_bound := h.accepted.event
  have hadvance := h.accepted.advance
  have hlonger : Chain (evidenceLinks functions) (StoredEvidence next) event.value
      (event.value::events) := by
    refine .append (hchain.chain.mono hkept.evidence) ⟨_,event,hevent,rfl⟩ ?_ ?_ ?_
    · rw [hevent_value]
      exact hupdate.previous
    · have hsequence := hupdate.sequence
      rw [← hholds.event_sequence] at hsequence
      rw [hevent_value]
      exact hsequence
    · have htime := hupdate.occurred_at
      rw [← hholds.event_occurred_at] at htime
      rw [hevent_value]
      exact htime
  have hrepeats : HeadRepeats functions commit.chain_head commit.signed_evidence := by
    refine ⟨?_,?_,?_,hupdate.head_sequence,hupdate.head_evidence_id,hupdate.head_evidence_sha256,
      hupdate.head_kind,hupdate.head_epoch,hupdate.head_updated_at⟩
    · rw [hupdate.head_root_id,hevent_bound.root_id]
    · rw [hupdate.head_root_sha256,hevent_bound.root_sha256]
    · rw [hupdate.head_target,hevent_bound.target]
  have hmatches : HeadMatches functions {bundle with authority := authority} configured_target
      stored_head.value event.value := by
    rw [hhead_value,hevent_value]
    apply headMatches_of_repeats hrepeats
    · rw [hevent_bound.root_id,hresult.root_id,hroot]
    · rw [hevent_bound.root_sha256,hresult.root_sha256,hroot]
    · exact hevent_bound.target
    · rw [hevent_bound.signing_key,hroot]
    · -- the sequence and the revision both grow by one
      have hcaught := hholds.sequence
      have hsequence := hupdate.sequence
      rw [hauthority_value,hadvance.revision,hsequence]
      exact Nat.succ_le_succ hcaught
    · intro _
      rw [hauthority_value,hevent_bound.evidence_id,hresult.evidence_id]
    · rw [hauthority_value,hevent_bound.epoch,hresult.new_epoch]
    · rw [hauthority_value,hevent_bound.occurred_at,hresult.committed_at]
  rw [← hevent_value] at hevent
  obtain ⟨moved,hmoved⟩ := hchain.moved hkept hauthority hstored_head
    (by rw [hhead_revision,hhead_value]) hevent hzero hmatches hlonger
  exact ⟨moved,_,event,_,hmoved⟩

/-- A fence appends the terminal event and the fence event to the chain of its root. -/
theorem chain_of_fenced {expected : ServiceClaimReleaseState}
    {commit : ServiceClaimReleaseFenceCommitV1} {view : FenceView}
    (h : ClaimFenced configured_target expected commit view before next)
    (hkept : RecordsKept configured_target before next commit.progress.root_id)
    (hchain : RootChain configured_target before commit.progress.root_id bundle head newest events) :
    ∃ bundle head newest events,
      RootChain configured_target next commit.progress.root_id bundle head newest events := by
  obtain ⟨-,hholds⟩ := newest_of_view hchain h.found h.accepted.head
  obtain ⟨hroot,hauthority_same⟩ := bundle_of_view hchain h.found
  obtain ⟨authority,hauthority,hauthority_value,-⟩ := h.authorities.found
  obtain ⟨stored_head,hstored_head,hhead_value,hhead_revision⟩ := h.chain_heads.found
  obtain ⟨terminated,hterminal,hfence⟩ := h.signed_evidence
  obtain ⟨terminal,hterminal_found,hterminal_value,-⟩ := hterminal.2.found
  have hterminal_next := hfence.found_of_found hterminal_found
  obtain ⟨event,hevent,hevent_value,hzero⟩ := hfence.2.found
  have hbound := h.accepted.chain
  have hterminal_bound := h.accepted.terminal
  have hsubject := h.accepted.subject
  have hrecords := h.accepted.records
  have hadvance := h.accepted.advance
  have hlonger : Chain (evidenceLinks functions) (StoredEvidence next) event.value
      (event.value::terminal.value::events) := by
    refine .append (.append (hchain.chain.mono hkept.evidence) ⟨_,terminal,hterminal_next,rfl⟩
      ?_ ?_ ?_) ⟨_,event,hevent,rfl⟩ ?_ ?_ ?_
    · have hprevious := hbound.terminal_previous
      rw [hholds.evidence_sha256] at hprevious
      rw [hterminal_value]
      exact hprevious
    · have hsequence := hbound.terminal_sequence
      rw [← hholds.event_sequence] at hsequence
      rw [hterminal_value]
      exact hsequence
    · have htime := hrecords.head_updated_at
      rw [← hholds.event_occurred_at,← hterminal_bound.event_occurred_at] at htime
      rw [hterminal_value]
      exact htime
    · rw [hterminal_value,hevent_value]
      exact hbound.fence_previous
    · rw [hterminal_value,hevent_value]
      exact hbound.fence_sequence
    · -- both events have the time of the fence
      have htime : commit.terminal_evidence.event.occurred_at=
          commit.fence_evidence.event.occurred_at := by
        rw [hterminal_bound.event_occurred_at,hsubject.event_occurred_at]
      rw [hterminal_value,hevent_value]
      exact Int.le_of_eq (congrArg Subtype.val htime)
  have hrepeats : HeadRepeats functions commit.chain_head commit.fence_evidence :=
    ⟨hbound.head_root_id,hbound.head_root_sha256,hbound.head_target,hbound.head_sequence,
      hbound.head_evidence_id,hbound.head_evidence_sha256,hbound.head_kind,hbound.head_epoch,
      hbound.head_updated_at⟩
  have hmatches : HeadMatches functions {bundle with authority := authority} configured_target
      stored_head.value event.value := by
    rw [hhead_value,hevent_value]
    apply headMatches_of_repeats hrepeats
    · rw [hsubject.event_root_id,hroot]
    · rw [hsubject.event_root_sha256,hroot]
    · rw [hsubject.event_target,h.accepted.configured]
    · rw [hbound.fence_signing_key,hroot]
    · have hcaught := hholds.sequence
      have hterminal_sequence := hbound.terminal_sequence
      have hsequence := hbound.fence_sequence
      have hrevision := hadvance.revision
      rw [hauthority_value]
      omega
    · intro _
      rw [hauthority_value,hrecords.authority_evidence_id]
    · rw [hauthority_value,hbound.fence_epoch]
    · rw [hauthority_value,hsubject.event_occurred_at,hrecords.changed_at]
  rw [← hevent_value] at hevent
  obtain ⟨moved,hmoved⟩ := hchain.moved hkept hauthority hstored_head
    (by rw [hhead_revision,hhead_value]) hevent hzero hmatches hlonger
  exact ⟨moved,_,event,_,hmoved⟩

/-- A final release appends the classification event and the release event. -/
theorem chain_of_released {expected : ServiceClaimReleaseState}
    {commit : ServiceClaimReleaseFinalizeCommitV1} {view : ReleaseView}
    (h : ClaimReleased configured_target expected commit view before next)
    (hkept : RecordsKept configured_target before next commit.result.root_id)
    (hchain : RootChain configured_target before commit.result.root_id bundle head newest events) :
    ∃ bundle head newest events,
      RootChain configured_target next commit.result.root_id bundle head newest events := by
  obtain ⟨-,hholds⟩ := newest_of_view hchain h.found h.accepted.head
  obtain ⟨hroot,hauthority_same⟩ := bundle_of_view hchain h.found
  have hauthority : next.authorities.find commit.result.root_id.1=some bundle.authority := by
    rw [h.authorities]
    exact hchain.view.authority
  obtain ⟨stored_head,hstored_head,hhead_value,hhead_revision⟩ := h.chain_heads.found
  obtain ⟨classified,hclassification,hrelease⟩ := h.signed_evidence
  obtain ⟨classification,hclassification_found,hclassification_value,-⟩ := hclassification.2.found
  have hclassification_next := hrelease.found_of_found hclassification_found
  obtain ⟨event,hevent,hevent_value,hzero⟩ := hrelease.2.found
  have hfirst := h.accepted.classification
  have hbound := h.accepted.event
  have hprogress := h.accepted.progress
  have hlonger : Chain (evidenceLinks functions) (StoredEvidence next) event.value
      (event.value::classification.value::events) := by
    refine .append (.append (hchain.chain.mono hkept.evidence)
      ⟨_,classification,hclassification_next,rfl⟩ ?_ ?_ ?_) ⟨_,event,hevent,rfl⟩ ?_ ?_ ?_
    · have hprevious := hfirst.previous
      rw [hholds.evidence_sha256] at hprevious
      rw [hclassification_value]
      exact hprevious
    · have hsequence := hfirst.sequence
      rw [← hholds.event_sequence] at hsequence
      rw [hclassification_value]
      exact hsequence
    · have htime := hfirst.occurred_at
      rw [← hholds.event_occurred_at] at htime
      rw [hclassification_value]
      exact htime
    · rw [hclassification_value,hevent_value]
      exact hbound.previous
    · rw [hclassification_value,hevent_value]
      exact hbound.sequence
    · rw [hclassification_value,hevent_value]
      exact hbound.occurred_at
  have hrepeats : HeadRepeats functions commit.chain_head commit.release_evidence :=
    ⟨hbound.head_root_id,hbound.head_root_sha256,hbound.head_target,hbound.head_sequence,
      hbound.head_evidence_id,hbound.head_evidence_sha256,hbound.head_kind,hbound.head_epoch,
      hbound.head_updated_at⟩
  have hmatches : HeadMatches functions {bundle with authority := bundle.authority}
      configured_target stored_head.value event.value := by
    rw [hhead_value,hevent_value]
    apply headMatches_of_repeats hrepeats
    · rw [hbound.root_id,hroot]
    · rw [hbound.root_sha256,hroot]
    · rw [hbound.target,h.accepted.configured]
    · rw [hbound.signing_key,hroot]
    · have hcaught := hholds.sequence
      have hclassification_sequence := hfirst.sequence
      have hsequence := hbound.sequence
      rw [hauthority_same]
      omega
    · intro hkind
      rw [hbound.kind] at hkind
      cases hkind
    · rw [hbound.epoch,hprogress.epoch,hauthority_same]
    · -- the head was not older than the authority, and both events follow it
      have hold := hholds.updated_at
      have htime := hfirst.occurred_at
      have hlast := hbound.occurred_at
      rw [hauthority_same]
      omega
  rw [← hevent_value] at hevent
  obtain ⟨moved,hmoved⟩ := hchain.moved hkept hauthority hstored_head
    (by rw [hhead_revision,hhead_value]) hevent hzero hmatches hlonger
  exact ⟨moved,_,event,_,hmoved⟩

/-- What the check of a creation result requires. -/
theorem winner_of_ok {result : RootCreationResultV2}
    (h : validateDeterministicWinner functions result=.ok ()) :
    CreationEvidence functions result ∧ InitialAuthority result ∧
      ∃ request_sha256,CreationArtifacts functions result request_sha256 := by
  simp only [validateDeterministicWinner,bind_eq_ok,require_eq_ok] at h
  obtain ⟨⟨⟩,-,⟨⟩,-,⟨⟩,-,request_sha256,-,⟨⟩,-,⟨⟩,-,⟨⟩,hevidence,⟨⟩,hinitial,hartifacts⟩ := h
  exact ⟨hevidence,hinitial,request_sha256,hartifacts⟩

theorem target_of_ok {commit : RootCreationCommit}
    {expected_released_claim : Option (StoredRecord ServiceClaimRecord)}
    (h : validateInitialRootCreationBundle functions configured_target commit
      expected_released_claim=.ok ()) : commit.signed_evidence.event.target=configured_target := by
  simp only [validateInitialRootCreationBundle,bind_eq_ok,require_eq_ok] at h
  obtain ⟨stable,-,candidate,-,⟨⟩,htargets,-⟩ := h
  apply htargets
  simp only [List.mem_cons,true_or,or_true]

/-- The evidence of a creation is one that a chain may start from. -/
theorem bootstrappable_of_created {commit : RootCreationCommit}
    {expected_released_claim : Option (StoredRecord ServiceClaimRecord)}
    (h : RootCreated configured_target commit expected_released_claim before next)
    (hroot : bundle.root.value=commit.root) (hauthority : bundle.authority.value=commit.authority)
    (hevidence : bundle.signed_evidence.value=commit.signed_evidence) :
    Bootstrappable bundle configured_target none := by
  obtain ⟨⟨claim_id,stable,candidate,hatomic⟩,-⟩ := atomicBundle_of_ok h.bundle
  obtain ⟨hcreation,hinitial,request_sha256,hartifacts⟩ := winner_of_ok h.winner
  have htarget := target_of_ok h.bundle
  rw [← hatomic.signed_evidence] at hevidence htarget
  rw [← hatomic.root] at hroot
  rw [← hatomic.authority] at hauthority
  constructor
  · rw [hauthority]
    exact hinitial.revision
  · rw [hauthority,hinitial.current_epoch]
    rfl
  · rfl
  · rw [hevidence]
    exact hcreation.sequence
  · rw [hevidence]
    exact hcreation.kind
  · rw [hevidence]
    exact hcreation.previous
  · rw [hevidence,hauthority]
    exact hinitial.evidence_id.symm
  · rw [hevidence,hroot]
    exact hcreation.root_id
  · rw [hevidence,hroot]
    exact hcreation.root_sha256
  · rw [hevidence]
    exact htarget
  · rw [hevidence,hcreation.epoch]
    rfl
  · rw [hevidence,hauthority,hinitial.request_id]
    exact hcreation.request_id
  · rw [hevidence,hauthority,hinitial.changed_at]
    exact hcreation.occurred_at
  · rw [hevidence,hroot]
    exact hcreation.signing_key

theorem chain_of_created {commit : RootCreationCommit}
    {expected_released_claim : Option (StoredRecord ServiceClaimRecord)}
    (h : RootCreated configured_target commit expected_released_claim before next)
    (hheadless : before.chain_heads.find commit.root.root_id.1=none) :
    ∃ bundle head newest events,
      RootChain configured_target next commit.root.root_id bundle head newest events := by
  obtain ⟨⟨claim_id,stable,candidate,hatomic⟩,-⟩ := atomicBundle_of_ok h.bundle
  obtain ⟨hcreation,hinitial,request_sha256,hartifacts⟩ := winner_of_ok h.winner
  obtain ⟨root,hroot,hroot_value,-⟩ := h.roots.2.found
  obtain ⟨claim,hclaim,-,-⟩ := storedClaim_of_written h.service_claim
  obtain ⟨authority,hauthority,hauthority_value,-⟩ := h.authorities.2.found
  obtain ⟨anchor,hanchor,hanchor_value,-⟩ := h.lineage_anchors.2.found
  obtain ⟨evidence,hevidence,hevidence_value,-⟩ := h.signed_evidence.2.found
  obtain ⟨result,hresult,hresult_value,-⟩ := h.creation_results.2.found
  have hstart : Bootstrappable ⟨root,claim,authority,anchor,evidence,result⟩ configured_target
      none := bootstrappable_of_created h hroot_value hauthority_value hevidence_value
  have hstored : storedHead next commit.root.root_id=none := by
    rw [storedHead,h.chain_heads]
    exact hheadless
  have hnone : headEvidence next commit.root.root_id=none := by
    rw [headEvidence,hstored]
    rfl
  rw [authority_of_created h] at hauthority
  obtain ⟨started,hstarted⟩ : ∃ started,EvidenceChainHeadV1.make
      (bootstrapHead functions ⟨root,claim,authority,anchor,evidence,result⟩)=.ok started := by
    unfold EvidenceChainHeadV1.make
    split
    · exact ⟨_,rfl⟩
    · rename_i raised hraised
      rw [bootstrapHead_valid hstart] at hraised
      cases hraised
  have hevent : next.signed_evidence.find evidence.value.event.evidence_id.1=some evidence := by
    rw [hevidence_value]
    exact hevidence
  refine ⟨⟨root,claim,authority,anchor,evidence,result⟩,started,evidence,[evidence.value],?_,hresult,
    ?_,?_,?_,?_⟩
  · refine ⟨hroot,hclaim,hauthority,rfl,?_⟩
    intro found hfound
    rw [hstored,predecessor] at hfound
    rw [← Option.some.inj hfound]
    exact hevent
  · constructor
    · rw [hresult_value,hatomic.lineage_anchor]
      exact hanchor
    · rw [hresult_value]
      exact hartifacts.anchor_id
    · rw [hresult_value,hartifacts.evidence_id,hatomic.signed_evidence]
      exact hevidence
  · rw [hstored,hnone,currentEvidenceChainHead,check_bind_eq_ok,require_eq_ok]
    exact ⟨hstart,hstarted⟩
  · rw [hstored,predecessor]
  · exact .first ⟨_,evidence,hevent,rfl⟩ hstart.sequence hstart.previous

end ControlGraph.EvidenceCommits
