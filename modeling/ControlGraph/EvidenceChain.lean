import ControlGraph.AuthorityDatabase

/-!
# The head of an evidence chain

The common reader of the evidence chain of one root. Without a stored head it
starts from the evidence of the root creation, which must still belong to the
initial authority. A stored head must name one immutable event that repeats it,
the current epoch of the authority, and a time that is not before the last change
of the authority. Every writer asks this reader before it appends.
-/

namespace ControlGraph.EvidenceChain

open Checks ContractText RootContracts AuthorityDatabase

open ReceiptContracts hiding ServiceClaimRecord

/-- The evidence of a root creation that a chain may start from. -/
@[mk_iff] structure Bootstrappable (bundle : RootCreationBundle) (target : TargetBinding)
    (head_evidence : Option (StoredRecord SignedEvidenceEventV1)) : Prop where
  authority_revision : bundle.authority.value.revision=0
  authority_epoch : bundle.authority.value.current_epoch.1=1
  no_head_evidence : head_evidence=none
  sequence : bundle.signed_evidence.value.event.sequence=0
  kind : bundle.signed_evidence.value.event.kind=.rootCreated
  previous : bundle.signed_evidence.value.event.previous_event_sha256=none
  evidence_id : bundle.signed_evidence.value.event.evidence_id=bundle.authority.value.evidence_id
  root_id : bundle.signed_evidence.value.event.root_id=bundle.root.value.root_id
  root_sha256 : bundle.signed_evidence.value.event.root_sha256=bundle.root.value.root_sha256
  same_target : bundle.signed_evidence.value.event.target=target
  epoch : bundle.signed_evidence.value.event.epoch.1=1
  request_id : bundle.signed_evidence.value.event.request_id=some bundle.authority.value.request_id
  occurred_at : bundle.signed_evidence.value.event.occurred_at=bundle.authority.value.changed_at
  signing_key : bundle.signed_evidence.value.signing_key_version=
    bundle.root.value.content.evidence_signing_key_version

instance (bundle : RootCreationBundle) (target : TargetBinding)
    (head_evidence : Option (StoredRecord SignedEvidenceEventV1)) :
    Decidable (Bootstrappable bundle target head_evidence) :=
  decidable_of_iff _ (bootstrappable_iff bundle target head_evidence).symm

/-- A head that repeats its immutable event and follows the authority. -/
@[mk_iff] structure HeadMatches (functions : AuthorityFunctions) (bundle : RootCreationBundle)
    (target : TargetBinding) (head : EvidenceChainHeadV1) (signed : SignedEvidenceEventV1) :
    Prop where
  root_id : head.root_id=bundle.root.value.root_id
  root_sha256 : head.root_sha256=bundle.root.value.root_sha256
  same_target : head.target=target
  sequence : bundle.authority.value.revision ≤ head.sequence
  advanced : head.kind=.epochAdvanced → head.evidence_id=bundle.authority.value.evidence_id
  epoch : head.epoch=bundle.authority.value.current_epoch
  updated_at : bundle.authority.value.changed_at.1 ≤ head.updated_at.1
  evidence_sha256 : head.evidence_sha256=functions.canonical_sha256 (.signedEvidence signed)
  event_evidence_id : signed.event.evidence_id=head.evidence_id
  event_sequence : signed.event.sequence=head.sequence
  event_root_id : signed.event.root_id=head.root_id
  event_root_sha256 : signed.event.root_sha256=head.root_sha256
  event_target : signed.event.target=head.target
  event_epoch : signed.event.epoch=head.epoch
  event_kind : signed.event.kind=head.kind
  event_occurred_at : signed.event.occurred_at=head.updated_at
  signing_key : signed.signing_key_version=bundle.root.value.content.evidence_signing_key_version

instance (functions : AuthorityFunctions) (bundle : RootCreationBundle) (target : TargetBinding)
    (head : EvidenceChainHeadV1) (signed : SignedEvidenceEventV1) :
    Decidable (HeadMatches functions bundle target head signed) :=
  decidable_of_iff _ (headMatches_iff functions bundle target head signed).symm

variable (functions : AuthorityFunctions) (bundle : RootCreationBundle) (target : TargetBinding)

/-- Head of a chain that has only the evidence of its root creation. -/
def bootstrapHead : EvidenceChainHeadFields where
  root_id := bundle.signed_evidence.value.event.root_id
  root_sha256 := bundle.signed_evidence.value.event.root_sha256
  target := bundle.signed_evidence.value.event.target
  sequence := 0
  evidence_id := bundle.signed_evidence.value.event.evidence_id
  evidence_sha256 := functions.canonical_sha256 (.signedEvidence bundle.signed_evidence.value)
  kind := bundle.signed_evidence.value.event.kind
  epoch := bundle.signed_evidence.value.event.epoch
  updated_at := bundle.signed_evidence.value.event.occurred_at

def currentEvidenceChainHead (stored_head : Option (StoredRecord EvidenceChainHeadV1))
    (head_evidence : Option (StoredRecord SignedEvidenceEventV1)) :
    Except Raised EvidenceChainHeadV1 :=
  match stored_head,head_evidence with
  | none,head_evidence => do
    require (Bootstrappable bundle target head_evidence)
      (.valueError "evidence head cannot be bootstrapped")
    EvidenceChainHeadV1.make (bootstrapHead functions bundle)
  | some _,none => .error (.valueError "evidence head record is invalid")
  | some stored,some evidence => do
    require (stored.revision=stored.value.sequence ∧ evidence.revision=0)
      (.valueError "evidence head record is invalid")
    require (HeadMatches functions bundle target stored.value evidence.value)
      (.valueError "evidence head does not match its immutable event")
    return stored.value

/-- The event that the next one of a chain follows. -/
def predecessor (stored_head : Option (StoredRecord EvidenceChainHeadV1))
    (head_evidence : Option (StoredRecord SignedEvidenceEventV1)) :
    Option (StoredRecord SignedEvidenceEventV1) :=
  match stored_head with
  | none => some bundle.signed_evidence
  | some _ => head_evidence

/-- What a writer may rely on when the reader accepts a head. -/
structure AcceptedHead (head : EvidenceChainHeadV1) (signed : SignedEvidenceEventV1) : Prop where
  root_id : head.root_id=bundle.root.value.root_id
  /-- The head has caught up with the authority. -/
  sequence : bundle.authority.value.revision ≤ head.sequence
  epoch : head.epoch=bundle.authority.value.current_epoch
  /-- The head is not older than the authority. -/
  updated_at : bundle.authority.value.changed_at.1 ≤ head.updated_at.1
  evidence_sha256 : head.evidence_sha256=functions.canonical_sha256 (.signedEvidence signed)
  event_sequence : signed.event.sequence=head.sequence
  event_occurred_at : signed.event.occurred_at=head.updated_at
  event_evidence_id : signed.event.evidence_id=head.evidence_id

variable {functions bundle target} {stored_head : Option (StoredRecord EvidenceChainHeadV1)}
  {head_evidence : Option (StoredRecord SignedEvidenceEventV1)}

theorem bootstrapHead_valid (h : Bootstrappable bundle target head_evidence) :
    validateHead (bootstrapHead functions bundle)=.ok () := by
  simp only [validateHead,check_bind_eq_ok,require_eq_ok,bootstrapHead,h.kind,h.epoch]
  exact ⟨Nat.zero_le _,trivial,fun _ => trivial⟩

/-- Without a stored head the reader accepts exactly the evidence that a chain may
start from. -/
theorem currentEvidenceChainHead_none {head : EvidenceChainHeadV1} :
    currentEvidenceChainHead functions bundle target none head_evidence=.ok head ↔
      Bootstrappable bundle target head_evidence ∧ head.fields=bootstrapHead functions bundle := by
  rw [currentEvidenceChainHead,check_bind_eq_ok,require_eq_ok]
  constructor
  · rintro ⟨hstart,hmake⟩
    unfold EvidenceChainHeadV1.make at hmake
    split at hmake
    · rw [← Except.ok.inj hmake]
      exact ⟨hstart,rfl⟩
    · cases hmake
  · rintro ⟨hstart,hfields⟩
    refine ⟨hstart,?_⟩
    unfold EvidenceChainHeadV1.make
    split
    · exact congrArg Except.ok (EvidenceChainHeadV1.ext_fields hfields.symm)
    · rename_i raised hraised
      rw [bootstrapHead_valid hstart] at hraised
      cases hraised

/-- With a stored head the reader accepts exactly one that repeats its event. -/
theorem currentEvidenceChainHead_some {stored : StoredRecord EvidenceChainHeadV1}
    {head : EvidenceChainHeadV1} :
    currentEvidenceChainHead functions bundle target (some stored) head_evidence=.ok head ↔
      ∃ evidence,head_evidence=some evidence ∧ stored.revision=stored.value.sequence ∧
        evidence.revision=0 ∧ HeadMatches functions bundle target stored.value evidence.value ∧
        stored.value=head := by
  cases head_evidence with
  | none => simp only [currentEvidenceChainHead,reduceCtorEq,false_and,exists_false]
  | some evidence =>
    simp only [currentEvidenceChainHead,check_bind_eq_ok,require_eq_ok,pure,Except.pure,
      Except.ok.injEq,Option.some.injEq,exists_eq_left',and_assoc]

/-- A writer may rely on an accepted head and on the event that it follows. -/
theorem acceptedHead_of_current {head : EvidenceChainHeadV1}
    (h : currentEvidenceChainHead functions bundle target stored_head head_evidence=.ok head) :
    ∃ stored,predecessor bundle stored_head head_evidence=some stored ∧
      AcceptedHead functions bundle head stored.value := by
  cases stored_head with
  | none =>
    obtain ⟨hstart,hfields⟩ := currentEvidenceChainHead_none.mp h
    refine ⟨bundle.signed_evidence,rfl,?_⟩
    have hepoch : bundle.signed_evidence.value.event.epoch=bundle.authority.value.current_epoch := by
      apply Subtype.ext
      rw [hstart.epoch,hstart.authority_epoch]
    constructor
    · rw [hfields]
      exact hstart.root_id
    · rw [hstart.authority_revision]
      exact Nat.zero_le _
    · rw [hfields]
      exact hepoch
    · rw [hfields]
      exact Int.le_of_eq (congrArg Subtype.val hstart.occurred_at.symm)
    · rw [hfields]
      rfl
    · rw [hfields]
      exact hstart.sequence
    · rw [hfields]
      rfl
    · rw [hfields]
      rfl
  | some stored =>
    obtain ⟨evidence,rfl,-,-,hmatches,rfl⟩ := currentEvidenceChainHead_some.mp h
    exact ⟨evidence,rfl,hmatches.root_id,hmatches.sequence,hmatches.epoch,hmatches.updated_at,
      hmatches.evidence_sha256,hmatches.event_sequence,hmatches.event_occurred_at,
      hmatches.event_evidence_id⟩

end ControlGraph.EvidenceChain
