import ControlGraph.EvidenceIntegrity
import ControlGraph.RevocationCalls

/-!
# Views before and after a revocation

A commit that lands turns the view without a result that it was decided on into a
view with its result. The root is still trusted, the authority is the one of the
result, the head of the chain is its event, and the identities are owned by it, so
every later reader of the request accepts the result. Audits are no part of a view:
an audit that is recorded for one attempt changes what that attempt reads, and
nothing else.
-/

namespace ControlGraph.RevocationViews

open Checks ContractText RootContracts RevocationContracts AuthorityDatabase EvidenceChain RootCreation
  RevocationCommits AuthorityRuns EvidenceCommits EvidenceIntegrity TrustedRoots RevocationReading
  RevocationCalls

open StorageIdentity (documentId epochRevocationIdentityLogicalId
  epochRevocationIdentityDocumentId)

open ReceiptContracts hiding ServiceClaimRecord

open ReceiptStore (StoreError)

section

variable {functions : AuthorityFunctions} {configured_target : TargetBinding}
  {before next : Database functions} {root_id : Identifier} {bundle : RootCreationBundle}

theorem readBundleRecords_eq_some :
    readBundleRecords configured_target before root_id=.ok (some bundle) ↔
      readRoot before root_id=.ok (some bundle.root) ∧
      readAuthority before root_id=.ok (some bundle.authority) ∧
      readCreationResult before root_id=.ok (some bundle.creation_result) ∧
      readServiceClaim configured_target before=.ok (some bundle.service_claim) ∧
      before.lineage_anchors.read (capabilityLineageAnchorDocumentId functions
        bundle.creation_result.value.lineage_anchor)
        bundle.creation_result.value.winner_lineage_anchor_id.1=.ok (some bundle.lineage_anchor) ∧
      readEvidence before bundle.creation_result.value.winner_evidence_id.1=
        .ok (some bundle.signed_evidence) := by
  constructor
  · intro h
    simp only [readBundleRecords,bind_eq_ok] at h
    obtain ⟨root,hroot,authority,hauthority,result,hresult,h⟩ := h
    split at h
    · cases h
    · simp only [bind_eq_ok] at h
      obtain ⟨claim,hclaim,anchor,hanchor,evidence,hevidence,h⟩ := h
      split at h
      · cases h
        exact ⟨hroot,hauthority,hresult,hclaim,hanchor,hevidence⟩
      · cases h
    · cases h
  · rintro ⟨hroot,hauthority,hresult,hclaim,hanchor,hevidence⟩
    rw [readBundleRecords,bind_of_ok hroot,bind_of_ok hauthority,bind_of_ok hresult]
    simp only [bind_of_ok hclaim,bind_of_ok hanchor,bind_of_ok hevidence]
    rfl

theorem readRootCreationBundle_eq_some :
    readRootCreationBundle configured_target before root_id=.ok (some bundle) ↔
      readBundleRecords configured_target before root_id=.ok (some bundle) ∧
      validateReadRootCreationBundle functions configured_target bundle=.ok () := by
  constructor
  · intro h
    rw [readRootCreationBundle,bind_eq_ok] at h
    obtain ⟨found,hfound,h⟩ := h
    split at h
    · cases h
    · simp only [check_bind_eq_ok,mapError_eq_ok] at h
      obtain ⟨hvalid,h⟩ := h
      cases h
      exact ⟨hfound,hvalid⟩
  · rintro ⟨hfound,hvalid⟩
    rw [readRootCreationBundle,bind_of_ok hfound]
    simp only [check_bind_eq_ok,mapError_eq_ok]
    exact ⟨hvalid,rfl⟩

/-- The check of the records of a root does not look at the epoch of its authority. -/
theorem validateReadRootCreationBundle_authority {authority : StoredRecord EpochAuthorityRecord}
    (h : validateReadRootCreationBundle functions configured_target bundle=.ok ())
    (htarget : authority.value.target=bundle.authority.value.target)
    (hroot_id : authority.value.root_id=bundle.authority.value.root_id)
    (hroot_sha256 : authority.value.root_sha256=bundle.authority.value.root_sha256)
    (hrevision : authority.revision=authority.value.revision) :
    validateReadRootCreationBundle functions configured_target
      {bundle with authority := authority}=.ok () := by
  unfold validateReadRootCreationBundle at h ⊢
  simp only [htarget]
  rw [check_bind_eq_ok,bind_eq_ok] at h ⊢
  obtain ⟨htargets,claim_id,hclaim_id,h⟩ := h
  rw [check_bind_eq_ok,require_eq_ok] at h
  obtain ⟨hcoherent,hclaim⟩ := h
  refine ⟨htargets,claim_id,hclaim_id,?_⟩
  rw [check_bind_eq_ok,require_eq_ok]
  exact ⟨{hcoherent with
    authority_root_id := hroot_id.trans hcoherent.authority_root_id
    authority_root_sha256 := hroot_sha256.trans hcoherent.authority_root_sha256
    authority_revision := hrevision.symm},hclaim⟩

/-- Only a document at the place of an attempt changes what is read of it. -/
theorem readAttemptAudit_of_create {audit : EpochRevocationAuditV1} {attempt_id : Identifier}
    {prepared : PreparedDocument functions revocationAuditFamily}
    {written : Table functions revocationAuditFamily}
    (hprepared : preparedDocument functions revocationAuditFamily audit.audit_id.1 0 audit=
      .ok prepared)
    (h : before.revocation_audits.create prepared=.ok written)
    (hother : epochRevocationAuditDocumentId functions attempt_id≠
      epochRevocationAuditDocumentId functions audit.audit_id) :
    readAttemptAudit {before with revocation_audits := written} attempt_id=
      readAttemptAudit before attempt_id := by
  have hplaced := prepared.placed
  rw [(preparedDocument_eq_ok hprepared).1] at hplaced
  unfold Table.create at h
  split at h
  · cases h
    unfold readAttemptAudit Table.read
    cases hplace : epochRevocationAuditDocumentId functions attempt_id with
    | error raised => rfl
    | ok place =>
      have hne : place≠prepared.document_id := by
        intro heq
        apply hother
        rw [hplace,heq]
        exact hplaced.symm
      have hkept : (before.revocation_audits.put prepared).entries place=
          before.revocation_audits.entries place := Function.update_of_ne hne ..
      simp only [Except.mapError,bind,Except.bind,hkept]
  · cases h

theorem readAttemptAudit_of_created {audit : EpochRevocationAuditV1}
    {prepared : PreparedDocument functions revocationAuditFamily}
    {written : Table functions revocationAuditFamily}
    (hprepared : preparedDocument functions revocationAuditFamily audit.audit_id.1 0 audit=
      .ok prepared)
    (h : before.revocation_audits.create prepared=.ok written) :
    ∃ stored : StoredRecord EpochRevocationAuditV1,stored.value=audit ∧ stored.revision=0 ∧
      readAttemptAudit {before with revocation_audits := written} audit.audit_id=
        .ok (some stored) := by
  obtain ⟨stored,hfound,hvalue,hrevision⟩ := (creates_of_create hprepared h).2.found
  exact ⟨stored,hvalue,hrevision,Table.read_of_find hfound⟩

theorem readAttemptAudit_before_create {audit : EpochRevocationAuditV1}
    {prepared : PreparedDocument functions revocationAuditFamily}
    {written : Table functions revocationAuditFamily}
    (hprepared : preparedDocument functions revocationAuditFamily audit.audit_id.1 0 audit=
      .ok prepared)
    (h : before.revocation_audits.create prepared=.ok written) :
    ∀ stored,readAttemptAudit before audit.audit_id≠.ok (some stored) := by
  intro stored hread
  have hfound := Table.find_of_read hread
  rw [(creates_of_create hprepared h).1] at hfound
  cases hfound

/-- An audit is recorded by a document of its own, or is recorded already. -/
theorem recordEpochRevocationAudit_eq_ok {audit : EpochRevocationAuditV1}
    (h : recordEpochRevocationAudit before audit=.ok next) :
    (∃ prepared written,preparedDocument functions revocationAuditFamily audit.audit_id.1 0 audit=
        .ok prepared ∧ before.revocation_audits.create prepared=.ok written ∧
        next={before with revocation_audits := written}) ∨
      (∃ stored,readAttemptAudit before audit.audit_id=.ok (some stored) ∧ stored.value=audit ∧
        stored.revision=0 ∧ next=before) := by
  simp only [recordEpochRevocationAudit,bind_eq_ok,mapError_eq_ok] at h
  obtain ⟨prepared,hprepared,h⟩ := h
  split at h
  · rename_i written hwritten
    cases h
    exact .inl ⟨prepared,written,hprepared,hwritten,rfl⟩
  · simp only [bind_eq_ok,require_eq_ok] at h
    obtain ⟨current,hcurrent,⟨⟩,⟨stored,hstored,hvalue,hrevision⟩,h⟩ := h
    cases h
    rw [Option.mem_def] at hstored
    rw [hstored] at hcurrent
    exact .inr ⟨stored,hcurrent,hvalue,hrevision,rfl⟩

theorem revocationAudit_of_ok {expected : EpochRevocationState} {commit : EpochRevocationCommitV1}
    (h : commitEpochRevocation configured_target expected commit before=.ok next) :
    RevocationAuditBound expected.invocation commit.result commit.audit
        (epochRevocationRequestSha256 functions.sha256 expected.invocation) ∧
      ∃ prepared,preparedDocument functions revocationAuditFamily commit.audit.audit_id.1 0
          commit.audit=.ok prepared ∧
        before.revocation_audits.create prepared=.ok next.revocation_audits := by
  simp only [commitEpochRevocation,bind_eq_ok,mapError_eq_ok] at h
  obtain ⟨⟨⟩,-,⟨⟩,hvalid,bundle,-,documents,hdocuments,⟨⟩,-,hwrite⟩ := h
  constructor
  · simp only [validateEpochRevocationCommit,bind_eq_ok,require_eq_ok] at hvalid
    obtain ⟨-,-,⟨⟩,-,⟨⟩,-,⟨⟩,-,⟨⟩,-,-,-,-,-,⟨⟩,-,⟨⟩,-,haudit⟩ := hvalid
    exact haudit
  · simp only [prepareRevocation,bind_eq_ok] at hdocuments
    obtain ⟨authority,_,evidence,_,head,_,result,_,request,_,key,_,epoch_value,_,identity_value,_,
      epoch,_,audit,haudit,hdocuments⟩ := hdocuments
    cases hdocuments
    simp only [writeRevocation,bind_eq_ok] at hwrite
    obtain ⟨evidences,_,heads,_,results,_,requested,_,keyed,_,claimed,_,audits,haudits,hwrite⟩ :=
      hwrite
    cases hwrite
    exact ⟨audit,haudit,haudits⟩

end

section

variable {functions : AuthorityFunctions} {configured_target : TargetBinding}
  {before next : Database functions} {bundle : RootCreationBundle}
  {expected : EpochRevocationState} {commit : EpochRevocationCommitV1}

theorem revocationTargets_of_ok (hbundle : expected.root_bundle=some bundle)
    (h : commitEpochRevocation configured_target expected commit before=.ok next) :
    bundle.authority.value.target=configured_target ∧
      commit.replacement_authority.target=configured_target := by
  simp only [commitEpochRevocation,bind_eq_ok,mapError_eq_ok] at h
  obtain ⟨⟨⟩,-,⟨⟩,hvalid,-⟩ := h
  simp only [validateEpochRevocationCommit,validateAuthorityAdvance,bind_eq_ok,require_eq_ok,
    requireSome_eq_ok] at hvalid
  obtain ⟨found,hfound,⟨⟩,-,⟨⟩,⟨⟨⟩,-,⟨⟩,htargets,-⟩,-⟩ := hvalid
  rw [hbundle] at hfound
  obtain rfl := Option.some.inj hfound
  exact htargets

/-- After a revocation the records of its root are read with the next authority. -/
theorem readBundle_of_revoked
    (h : EpochRevoked configured_target expected commit bundle before next)
    (htarget : commit.replacement_authority.target=bundle.authority.value.target)
    (hread : readRootCreationBundle configured_target before commit.result.root_id=
      .ok (some bundle)) :
    ∃ authority : StoredRecord EpochAuthorityRecord,
      authority.value=commit.replacement_authority ∧
      authority.revision=authority.value.revision ∧
      readRootCreationBundle configured_target next commit.result.root_id=
        .ok (some {bundle with authority := authority}) := by
  obtain ⟨hrecords,hvalid⟩ := readRootCreationBundle_eq_some.mp hread
  obtain ⟨hroot,hauthority,hresult,hclaim,hanchor,hevidence⟩ :=
    readBundleRecords_eq_some.mp hrecords
  obtain ⟨authority,hfound,hvalue,hrevision⟩ := h.authorities.found
  have hadvance := h.accepted.advance
  refine ⟨authority,hvalue,by rw [hrevision,hvalue],readRootCreationBundle_eq_some.mpr ⟨?_,?_⟩⟩
  · apply readBundleRecords_eq_some.mpr
    refine ⟨?_,Table.read_of_find hfound,?_,?_,?_,?_⟩
    · unfold readRoot at hroot ⊢
      rw [h.roots]
      exact hroot
    · unfold readCreationResult at hresult ⊢
      rw [h.creation_results]
      exact hresult
    · unfold readServiceClaim at hclaim ⊢
      rw [h.service_claims]
      exact hclaim
    · rw [h.lineage_anchors]
      exact hanchor
    · exact Table.read_of_find (h.signed_evidence.found_of_found (Table.find_of_read hevidence))
  · apply validateReadRootCreationBundle_authority hvalid
    · rw [hvalue,htarget]
    · rw [hvalue,hadvance.root_id]
    · rw [hvalue,hadvance.root_sha256]
    · rw [hrevision,hvalue]

/-- After a revocation its root is trusted with the next authority. -/
theorem trusted_of_revoked {authority : StoredRecord EpochAuthorityRecord}
    (h : EpochRevoked configured_target expected commit bundle before next)
    (htarget : commit.replacement_authority.target=configured_target)
    (htrusted : TrustedRootAuthority functions configured_target (inspected bundle))
    (hvalue : authority.value=commit.replacement_authority)
    (hrevision : authority.revision=authority.value.revision) :
    TrustedRootAuthority functions configured_target
      (inspected {bundle with authority := authority}) := by
  have hadvance := h.accepted.advance
  have hepoch := htrusted.authority_epoch
  apply trusted_of_authority htrusted
  · rw [hvalue]
    exact htarget
  · rw [hvalue]
    exact hadvance.root_id
  · rw [hvalue]
    exact hadvance.root_sha256
  · exact hrevision
  · -- the epoch and the revision both grow by one
    have hnext := hadvance.current_epoch
    have hgrown := hadvance.revision
    rw [hvalue,hnext,hgrown]
    exact congrArg (·+1) hepoch

/-- After a revocation the reader accepts its head with its event. -/
theorem head_of_revoked {authority : StoredRecord EpochAuthorityRecord}
    {stored_head : StoredRecord EvidenceChainHeadV1} {event : StoredRecord SignedEvidenceEventV1}
    (h : EpochRevoked configured_target expected commit bundle before next)
    (hauthority : authority.value=commit.replacement_authority)
    (hhead : stored_head.value=commit.chain_head)
    (hhead_revision : stored_head.revision=commit.chain_head.sequence)
    (hevent : event.value=commit.signed_evidence) (hzero : event.revision=0) :
    currentEvidenceChainHead functions {bundle with authority := authority} configured_target
      (some stored_head) (some event)=.ok commit.chain_head := by
  obtain ⟨view_head,stored,haccepted,hstored,hupdate⟩ := h.accepted.chain
  obtain ⟨found,hfound,hholds⟩ := acceptedHead_of_current haccepted
  rw [hstored] at hfound
  obtain rfl := Option.some.inj hfound
  have hresult := h.accepted.result
  have hbound := h.accepted.event
  have hadvance := h.accepted.advance
  have hrepeats : HeadRepeats functions commit.chain_head commit.signed_evidence := by
    refine ⟨?_,?_,?_,hupdate.head_sequence,hupdate.head_evidence_id,hupdate.head_evidence_sha256,
      hupdate.head_kind,hupdate.head_epoch,hupdate.head_updated_at⟩
    · rw [hupdate.head_root_id,hbound.root_id]
    · rw [hupdate.head_root_sha256,hbound.root_sha256]
    · rw [hupdate.head_target,hbound.target]
  refine currentEvidenceChainHead_some.mpr ⟨event,rfl,by rw [hhead_revision,hhead],hzero,?_,hhead⟩
  rw [hhead,hevent]
  apply headMatches_of_repeats hrepeats
  · rw [hbound.root_id,hresult.root_id]
  · rw [hbound.root_sha256,hresult.root_sha256]
  · exact hbound.target
  · exact hbound.signing_key
  · -- the sequence and the revision both grow by one
    have hcaught := hholds.sequence
    have hsequence := hupdate.sequence
    have hgrown := hadvance.revision
    rw [hauthority]
    omega
  · intro _
    rw [hauthority,hbound.evidence_id,hresult.evidence_id]
  · rw [hauthority,hbound.epoch,hresult.new_epoch]
  · rw [hauthority,hbound.occurred_at,hresult.committed_at]

/-- After a revocation its request and its idempotency key are owned by its result. -/
theorem identities_of_revoked
    (h : EpochRevoked configured_target expected commit bundle before next) :
    (∃ stored : StoredRecord EpochRevocationIdentityV1,stored.value=commit.request_identity ∧
      stored.revision=0 ∧
      readRevocationIdentity next .request expected.invocation.command.request_id=
        .ok (some stored)) ∧
    ∃ stored : StoredRecord EpochRevocationIdentityV1,stored.value=commit.idempotency_identity ∧
      stored.revision=0 ∧
      readRevocationIdentity next .idempotency expected.invocation.command.idempotency_key=
        .ok (some stored) := by
  obtain ⟨requested,keyed,epoch_value,epoch_identity,hrequest,hkey,-,-,hepoch⟩ :=
    h.revocation_identities
  obtain ⟨request_place,hrequest_place,hrequest⟩ := hrequest
  obtain ⟨key_place,hkey_place,hkey⟩ := hkey
  obtain ⟨epoch_place,-,hepoch⟩ := hepoch
  obtain ⟨request,hrequest_found,hrequest_value,hrequest_zero⟩ := hrequest.2.found
  obtain ⟨key,hkey_found,hkey_value,hkey_zero⟩ := hkey.2.found
  have hread : ∀ {kind : EpochRevocationIdentityKind} {value : Identifier} {place : String}
      {stored : StoredRecord EpochRevocationIdentityV1},
      epochRevocationIdentityLogicalId kind.value value.1=.ok place →
      next.revocation_identities.find place=some stored →
      readRevocationIdentity next kind value=.ok (some stored) := by
    intro kind value place stored hplace hfound
    have hdocument : epochRevocationIdentityDocumentId functions.sha256 kind.value value.1=
        documentId functions.sha256 revocationIdentityFamily.kind place := bind_of_ok hplace
    rw [readRevocationIdentity,bind_of_ok (mapError_eq_ok.mpr hplace),hdocument]
    exact Table.read_of_find hfound
  constructor
  · have hbound := h.accepted.request_identity
    rw [revocationIdentityPlace,hbound.identity_kind,hbound.identity_value] at hrequest_place
    exact ⟨request,hrequest_value,hrequest_zero,hread hrequest_place
      (hepoch.found_of_found (hkey.found_of_found hrequest_found))⟩
  · have hbound := h.accepted.idempotency_identity
    rw [revocationIdentityPlace,hbound.identity_kind,hbound.identity_value] at hkey_place
    exact ⟨key,hkey_value,hkey_zero,hread hkey_place (hepoch.found_of_found hkey_found)⟩

/-- The events of the later view are new, so they are read and not taken from the creation. -/
theorem readKnownEvidence_of_created {stored event : StoredRecord SignedEvidenceEventV1}
    (hstored : before.signed_evidence.find stored.value.event.evidence_id.1=some stored)
    (hcreated : before.signed_evidence.find event.value.event.evidence_id.1=none)
    (hevent : next.signed_evidence.find event.value.event.evidence_id.1=some event) :
    readKnownEvidence [stored] next event.value.event.evidence_id=.ok event := by
  have hother : stored.value.event.evidence_id≠event.value.event.evidence_id := by
    intro hsame
    rw [hsame,hcreated] at hstored
    cases hstored
  have hmissing : [stored].find? (fun known => decide
      (known.value.event.evidence_id=event.value.event.evidence_id))=none := by
    simp only [List.find?_cons,List.find?_nil,hother,decide_false]
  have hread : readEvidence next event.value.event.evidence_id.1=.ok (some event) :=
    Table.read_of_find hevent
  rw [readKnownEvidence,hmissing]
  simp only [bind_of_ok hread]
  rfl

/-- What a view holds once its result is committed. -/
structure CommittedView (functions : AuthorityFunctions) (configured_target : TargetBinding)
    (commit : EpochRevocationCommitV1) (bundle : RootCreationBundle) (later : RevocationView) :
    Prop where
  root : ∃ authority : StoredRecord EpochAuthorityRecord,
    authority.value=commit.replacement_authority ∧
    later.root_bundle=some {bundle with authority := authority} ∧
    TrustedRootAuthority functions configured_target
      (inspected {bundle with authority := authority}) ∧
    currentEvidenceChainHead functions {bundle with authority := authority} configured_target
      later.chain_head later.head_evidence=.ok commit.chain_head
  request_identity : ∃ stored,later.request_identity=some stored ∧
    stored.value=commit.request_identity ∧ stored.revision=0
  idempotency_identity : ∃ stored,later.idempotency_identity=some stored ∧
    stored.value=commit.idempotency_identity ∧ stored.revision=0
  result : ∃ stored,later.result=some stored ∧ stored.value=commit.result ∧ stored.revision=0
  result_evidence : ∃ stored,later.result_evidence=some stored ∧
    stored.value=commit.signed_evidence ∧ stored.revision=0

/-- After a revocation its request reads a view with the result. -/
theorem view_of_revoked {view : RevocationView}
    (h : EpochRevoked configured_target expected commit bundle before next)
    (htarget : bundle.authority.value.target=configured_target)
    (hreplaced : commit.replacement_authority.target=configured_target)
    (htrusted : TrustedRootAuthority functions configured_target (inspected bundle))
    (hview : readRevocationView configured_target before expected.invocation=.ok view)
    (hbundle : view.root_bundle=some bundle) :
    ∃ later,readRevocationView configured_target next expected.invocation=.ok later ∧
      CommittedView functions configured_target commit bundle later := by
  have hresult := h.accepted.result
  have hupdate := h.accepted.chain
  have hroot_id : commit.result.root_id=expected.invocation.command.root_id :=
    hresult.root_id.trans h.accepted.active.root_id
  have hresult_id : revocationResultId
      (epochRevocationRequestSha256 functions.sha256 expected.invocation)=commit.result.result_id :=
    Subtype.ext hresult.result_id.symm
  simp only [readRevocationView,bind_eq_ok] at hview
  obtain ⟨found,hfound,head,_,evidence,_,request,_,key,_,result,_,result_evidence,_,hview⟩ := hview
  cases hview
  simp only at hbundle
  rw [hbundle,← hroot_id] at hfound
  obtain ⟨authority,hauthority,hauthority_revision,hread⟩ :=
    readBundle_of_revoked h (hreplaced.trans htarget.symm) hfound
  obtain ⟨stored_head,hhead_found,hhead,hhead_revision⟩ := h.chain_heads.found
  obtain ⟨event,hevent_found,hevent,hzero⟩ := h.signed_evidence.2.found
  obtain ⟨⟨request_stored,hrequest,hrequest_zero,hrequest_read⟩,key_stored,hkey,hkey_zero,
    hkey_read⟩ := identities_of_revoked h
  obtain ⟨result_stored,hresult_found,hresult_value,hresult_zero⟩ := h.revocation_results.2.found
  have hhead_read : readChainHead next expected.invocation.command.root_id=.ok (some stored_head) := by
    rw [← hroot_id]
    exact Table.read_of_find hhead_found
  have hresult_read : next.revocation_results.read
      (epochRevocationResultDocumentId functions commit.result.result_id)
      commit.result.result_id.1=.ok (some result_stored) := Table.read_of_find hresult_found
  obtain ⟨view_head,predecessor,-,-,hchain⟩ := hupdate
  have hnamed : stored_head.value.evidence_id=event.value.event.evidence_id := by
    rw [hhead,hevent]
    exact hchain.head_evidence_id
  have hown : result_stored.value.evidence_id=event.value.event.evidence_id := by
    rw [hresult_value,hevent]
    exact h.accepted.event.evidence_id.symm
  have hcreation : before.signed_evidence.find
      bundle.signed_evidence.value.event.evidence_id.1=some bundle.signed_evidence := by
    obtain ⟨hrecords,-⟩ := readRootCreationBundle_eq_some.mp hfound
    obtain ⟨-,-,-,-,-,hevidence⟩ := readBundleRecords_eq_some.mp hrecords
    have hstored := Table.find_of_read hevidence
    have hlogical := (Table.accepted_of_find hstored).2
    rw [← Except.ok.inj hlogical] at hstored
    exact hstored
  have hnew := h.signed_evidence.1
  rw [← hevent] at hnew hevent_found
  have hknown := readKnownEvidence_of_created hcreation hnew hevent_found
  refine ⟨⟨some {bundle with authority := authority},some stored_head,some event,
    some request_stored,some key_stored,some result_stored,some event⟩,?_,?_⟩
  · have hheaded : readNamedEvidence [bundle.signed_evidence] next
        (fun head : EvidenceChainHeadV1 => head.evidence_id) (some stored_head)=
        .ok (some event) := by
      rw [readNamedEvidence]
      simp only [hnamed,bind_of_ok hknown]
      rfl
    have hresulted : readNamedEvidence [event,bundle.signed_evidence] next
        (fun result : EpochRevocationResultV1 => result.evidence_id) (some result_stored)=
        .ok (some event) := by
      have hfirst : readKnownEvidence [event,bundle.signed_evidence] next
          event.value.event.evidence_id=.ok event := by
        rw [readKnownEvidence]
        simp only [List.find?_cons,decide_true]
      rw [readNamedEvidence]
      simp only [hown,bind_of_ok hfirst]
      rfl
    rw [hroot_id] at hread
    rw [readRevocationView,bind_of_ok hread]
    simp only [bind_of_ok hhead_read,Option.toList_some,List.map_cons,List.map_nil,
      bind_of_ok hheaded,bind_of_ok hrequest_read,bind_of_ok hkey_read,hresult_id,
      bind_of_ok hresult_read,List.cons_append,List.nil_append,bind_of_ok hresulted]
    rfl
  · refine ⟨⟨authority,hauthority,rfl,?_,?_⟩,⟨_,rfl,hrequest,hrequest_zero⟩,
      ⟨_,rfl,hkey,hkey_zero⟩,⟨_,rfl,hresult_value,hresult_zero⟩,⟨_,rfl,hevent,hzero⟩⟩
    · exact trusted_of_revoked h hreplaced htrusted hauthority hauthority_revision
    · exact head_of_revoked h hauthority hhead hhead_revision hevent hzero

/-- The result of a committed view is the one that its request asks for. -/
theorem resultRepeats_of_revoked
    (h : EpochRevoked configured_target expected commit bundle before next) :
    ResultRepeats configured_target expected.invocation
      (epochRevocationRequestSha256 functions.sha256 expected.invocation) commit.result := by
  have hresult := h.accepted.result
  have hactive := h.accepted.active
  refine ⟨hresult.request_digest,Subtype.ext hresult.result_id,hresult.request_id,
    hresult.idempotency_key,hresult.root_id.trans hactive.root_id,
    hresult.root_sha256.trans hactive.root_sha256,hresult.target,hresult.operator_identity,
    hresult.operator_subject,hresult.reason,hresult.previous_epoch.trans hactive.epoch,?_⟩
  rw [hresult.new_epoch,h.accepted.advance.current_epoch,hactive.epoch]

/-- The evidence of a committed view repeats its result at the head of the chain. -/
theorem evidenceOfResult_of_revoked
    (h : EpochRevoked configured_target expected commit bundle before next)
    (hsubject : RevocationSubjectBound functions bundle commit
      (epochRevocationRequestSha256 functions.sha256 expected.invocation)) :
    EvidenceOfResult functions commit.signed_evidence commit.result commit.chain_head
      bundle.root.value.content.evidence_signing_key_version := by
  have hresult := h.accepted.result
  have hbound := h.accepted.event
  obtain ⟨view_head,stored,-,-,hchain⟩ := h.accepted.chain
  have hsequence := hchain.sequence
  have hhead := hchain.head_sequence
  refine ⟨hresult.evidence_digest,?_,hbound.evidence_id,?_,?_,hbound.root_id,hbound.root_sha256,
    hbound.target.trans hresult.target.symm,hbound.epoch,hbound.kind,
    hbound.actor.trans hresult.operator_identity.symm,?_,hbound.receipt_id,hbound.occurred_at,?_,?_,
    hbound.reason_code,hbound.provider_operation,hbound.target_configuration,hbound.signing_key,?_⟩
  · rw [hresult.evidence_subject]
    exact hsubject.evidence_id
  · omega
  · omega
  · rw [hbound.request_id,hresult.request_id]
  · rw [hresult.evidence_subject]
    exact hbound.subject
  · rw [hchain.previous]
    nofun
  · exact .inr ⟨hchain.head_evidence_id.trans hbound.evidence_id,hchain.head_evidence_sha256⟩

theorem authorityOfResult_of_revoked
    (h : EpochRevoked configured_target expected commit bundle before next)
    (hsubject : RevocationSubjectBound functions bundle commit
      (epochRevocationRequestSha256 functions.sha256 expected.invocation)) :
    AuthorityOfResult functions commit.replacement_authority commit.result := by
  have hresult := h.accepted.result
  have hactive := h.accepted.active
  refine ⟨?_,hactive.cause,hactive.changed_by.trans hresult.operator_identity.symm,
    hactive.request_id.trans hresult.request_id.symm,hresult.evidence_id.symm,
    hresult.committed_at.symm,?_⟩
  · rw [h.accepted.advance.previous_epoch,hresult.previous_epoch]
  · rw [hresult.evidence_subject]
    exact hsubject.replacement_authority.symm

/-- An accepted revocation repeats its records in what its evidence is about. -/
theorem subjectBound_of_ok (hbundle : expected.root_bundle=some bundle)
    (h : commitEpochRevocation configured_target expected commit before=.ok next) :
    RevocationSubjectBound functions bundle commit
      (epochRevocationRequestSha256 functions.sha256 expected.invocation) := by
  simp only [commitEpochRevocation,bind_eq_ok,mapError_eq_ok] at h
  obtain ⟨⟨⟩,-,⟨⟩,hvalid,-⟩ := h
  simp only [validateEpochRevocationCommit,bind_eq_ok,require_eq_ok,requireSome_eq_ok] at hvalid
  obtain ⟨found,hfound,⟨⟩,-,⟨⟩,-,⟨⟩,-,⟨⟩,⟨-,hsubject,-⟩,-⟩ := hvalid
  rw [hbundle] at hfound
  obtain rfl := Option.some.inj hfound
  exact hsubject

/-- The result of a committed view is exact for every attempt of its request. -/
theorem exactResult_of_committed {later : RevocationView}
    (h : EpochRevoked configured_target expected commit bundle before next)
    (hsubject : RevocationSubjectBound functions bundle commit
      (epochRevocationRequestSha256 functions.sha256 expected.invocation))
    (hlater : CommittedView functions configured_target commit bundle later)
    {invocation : EpochRevocationInvocationV1} {audit : Option (StoredRecord EpochRevocationAuditV1)}
    (hcommand : invocation.command=expected.invocation.command)
    (hoperator : invocation.operator_identity=expected.invocation.operator_identity)
    (hoperator_subject : invocation.operator_subject=expected.invocation.operator_subject) :
    exactResult functions configured_target (later.reading invocation audit)
      (epochRevocationRequestSha256 functions.sha256 expected.invocation)=.ok (some commit.result) := by
  obtain ⟨authority,hauthority,hbundle,htrusted,hhead⟩ := hlater.root
  obtain ⟨request,hrequest,hrequest_value,hrequest_zero⟩ := hlater.request_identity
  obtain ⟨key,hkey,hkey_value,hkey_zero⟩ := hlater.idempotency_identity
  obtain ⟨stored,hstored,hstored_value,hstored_zero⟩ := hlater.result
  obtain ⟨event,hevent,hevent_value,hevent_zero⟩ := hlater.result_evidence
  have hresult := h.accepted.result
  have hrepeats : ResultRepeats configured_target invocation
      (epochRevocationRequestSha256 functions.sha256 expected.invocation) commit.result := by
    have hown := resultRepeats_of_revoked h
    rw [resultRepeats_iff] at hown ⊢
    rw [hcommand,hoperator,hoperator_subject]
    exact hown
  have hidentities : identitiesMatchResult (later.reading invocation audit).state commit.result=
      true := by
    have hrequest_bound := h.accepted.request_identity
    have hkey_bound := h.accepted.idempotency_identity
    simp only [identitiesMatchResult,RevocationView.reading,hrequest,hkey,identityMatchesResult,
      Bool.and_eq_true,decide_eq_true_eq,hrequest_value,hkey_value,hcommand]
    exact ⟨⟨hrequest_zero,hrequest_bound.identity_kind,hrequest_bound.identity_value,
        hrequest_bound.root_id,hrequest_bound.root_sha256,
        hrequest_bound.request_digest.trans hresult.request_digest.symm,hrequest_bound.result_id⟩,
      ⟨hkey_zero,hkey_bound.identity_kind,hkey_bound.identity_value,hkey_bound.root_id,
        hkey_bound.root_sha256,hkey_bound.request_digest.trans hresult.request_digest.symm,
        hkey_bound.result_id⟩⟩
  have hmatches : resultEvidenceMatches functions later.result_evidence commit.result
      commit.chain_head bundle.root.value.content.evidence_signing_key_version=true := by
    have hevidence := evidenceOfResult_of_revoked h hsubject
    simp only [resultEvidenceMatches,hevent,decide_eq_true_eq,hevent_value]
    exact ⟨hevent_zero,hevidence⟩
  have hepoch : commit.result.new_epoch=authority.value.current_epoch := by
    rw [hauthority]
    exact hresult.new_epoch
  simp only [exactResult,RevocationView.reading,hstored,hstored_value,check_bind_eq_ok,require_eq_ok]
  refine ⟨hstored_zero,bind_eq_ok.mpr ⟨_,requireSome_eq_ok.mpr hbundle,?_⟩⟩
  simp only [check_bind_eq_ok,require_eq_ok,inspectRootAuthorityBundle_eq_true]
  refine ⟨⟨htrusted,hrepeats⟩,by rw [hepoch],?_,hidentities,?_⟩
  · intro _
    rw [hauthority]
    exact authorityOfResult_of_revoked h hsubject
  · refine bind_eq_ok.mpr ⟨_,mapError_eq_ok.mpr hhead,?_⟩
    simp only [check_bind_eq_ok,require_eq_ok]
    exact ⟨hmatches,rfl⟩

end

end ControlGraph.RevocationViews
