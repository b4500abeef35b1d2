import ControlGraph.EvidenceIntegrity
import ControlGraph.HealthAttestation
import ControlGraph.HealthVerdicts

/-!
# Chains of attested proofs

A chain grows by one attested proof at a time. Every check of the chain contract
follows from the checks of the verifier, with one exception: a compact proof of a
healthy chain lives until the collection deadline and must be issued before it,
whereas the verifier still evaluates a window at the deadline itself. An attested
proof therefore extends its chain unless it decides at its deadline that the
rollout is healthy.
-/

namespace ControlGraph.HealthChains

open Checks ContractText MonitoringContracts MonitoringCollection HealthDecisions HealthProofs

open HealthAttestation HealthVerdicts

open ReceiptContracts (TargetBinding)

variable {functions : HealthProofFunctions}

section links

variable {anchor : PostApplyHealthAnchorV1 functions} {anchor_sha256 : Sha256Digest}

/-- The links of an extended list are those of the list and the last one. -/
theorem validateLinks_append {earlier proofs : List (SignedHealthDecisionProofV1 functions)}
    {signed : SignedHealthDecisionProofV1 functions} :
    validateLinks functions anchor anchor_sha256 earlier (proofs++[signed])=.ok () ↔
      validateLinks functions anchor anchor_sha256 earlier proofs=.ok () ∧
        validateLink functions anchor anchor_sha256 (proofs.reverse++earlier) signed=.ok () := by
  induction proofs generalizing earlier with
  | nil =>
    have hone : validateLinks functions anchor anchor_sha256 earlier [signed]=
        (validateLink functions anchor anchor_sha256 earlier signed>>=fun _ => .ok ()) := rfl
    have hnone : validateLinks functions anchor anchor_sha256 earlier []=.ok () := rfl
    rw [List.nil_append,hone,hnone,check_bind_eq_ok]
    exact ⟨fun h => ⟨rfl,h.1⟩,fun h => ⟨h.2,rfl⟩⟩
  | cons first rest ih =>
    have hstep : ∀ tail,validateLinks functions anchor anchor_sha256 earlier (first::tail)=
        (validateLink functions anchor anchor_sha256 earlier first>>=fun _ =>
          validateLinks functions anchor anchor_sha256 (first::earlier) tail) := fun _ => rfl
    rw [List.cons_append,hstep,hstep,check_bind_eq_ok,check_bind_eq_ok,ih,List.reverse_cons,
      List.append_assoc,List.singleton_append,and_assoc]

/-- What a link says of its proof. -/
structure Link (anchor : PostApplyHealthAnchorV1 functions) (anchor_sha256 : Sha256Digest)
    (earlier : List (SignedHealthDecisionProofV1 functions))
    (signed : SignedHealthDecisionProofV1 functions) : Prop where
  /-- The proof is not an earlier one. -/
  fresh : signedSha256 functions signed∉earlier.map (signedSha256 functions)
  anchored : isAnchored functions anchor anchor_sha256 (earlier.length+1) signed
  /-- The proof names the one before it. -/
  previous : signed.proof.previous_signed_proof_sha256=earlier.head?.map (signedSha256 functions)
  /-- The state follows the proof before it. -/
  transition : validateStateTransition functions anchor earlier.head? signed.proof=.ok ()
  attempt : validateWindowAttempt functions earlier signed.proof=.ok ()

theorem validateLink_iff {earlier : List (SignedHealthDecisionProofV1 functions)}
    {signed : SignedHealthDecisionProofV1 functions} :
    validateLink functions anchor anchor_sha256 earlier signed=.ok () ↔
      Link anchor anchor_sha256 earlier signed := by
  unfold validateLink
  simp only [check_bind_eq_ok,require_eq_ok]
  constructor
  · rintro ⟨h1,h2,h3,h4,h5⟩
    exact ⟨h1,h2,h3,h4,h5⟩
  · rintro ⟨h1,h2,h3,h4,h5⟩
    exact ⟨h1,h2,h3,h4,h5⟩

/-- Every proof of a chain has a place in it. -/
theorem sequence_le {earlier proofs : List (SignedHealthDecisionProofV1 functions)}
    (h : validateLinks functions anchor anchor_sha256 earlier proofs=.ok ())
    {signed : SignedHealthDecisionProofV1 functions} (hmem : signed∈proofs) :
    signed.proof.sequence≤earlier.length+proofs.length := by
  induction proofs generalizing earlier with
  | nil => cases hmem
  | cons first rest ih =>
    obtain ⟨hfirst,hrest⟩ := check_bind_eq_ok.mp h
    rw [List.length_cons]
    rcases List.mem_cons.mp hmem with rfl | hmem
    · have hplace := (validateLink_iff.mp hfirst).anchored.1
      omega
    · have hle := ih hrest hmem
      rw [List.length_cons] at hle
      omega

end links

/-- Facts that every signed proof satisfies. -/
theorem sequence_bounded (signed : SignedHealthDecisionProofV1 functions) :
    1 ≤ signed.proof.sequence ∧ signed.proof.sequence≤20 := by
  have haccepted := signed.accepted
  unfold SignedHealthDecisionProofV1Fields.validateSigned at haccepted
  obtain ⟨hproof,-⟩ := check_bind_eq_ok.mp haccepted
  unfold HealthDecisionProofV1Fields.validateProof at hproof
  obtain ⟨hbounds,-⟩ := check_bind_eq_ok.mp hproof
  exact (require_eq_ok.mp hbounds).1

theorem anchor_root (anchor : PostApplyHealthAnchorV1 functions) :
    anchor.root_id.1="cgroot:"++anchor.root_sha256.1 ∧
      anchor.policy_sha256=functions.policy_sha256 := by
  have haccepted := anchor.accepted
  unfold PostApplyHealthAnchorV1Fields.validateAnchor at haccepted
  simp only [check_bind_eq_ok,require_eq_ok] at haccepted
  exact ⟨haccepted.2.1,haccepted.2.2.2.1⟩

section creation

variable {anchor : PostApplyHealthAnchorV1 functions}
  {proofs : List (SignedHealthDecisionProofV1 functions)}
  {signed : SignedHealthDecisionProofV1 functions}

theorem signedHealthProofChainSha256_ok (hlength : proofs.length+1≤20) :
    ∃ digest,signedHealthProofChainSha256 functions (proofs++[signed])=.ok digest := by
  have hbound : proofs++[signed]≠[] ∧ (proofs++[signed]).length≤20 :=
    ⟨List.append_ne_nil_of_right_ne_nil _ (List.cons_ne_nil _ _),by
      rw [List.length_append,List.length_singleton]; exact hlength⟩
  unfold signedHealthProofChainSha256
  rw [bind_of_ok (require_of hbound)]
  exact ⟨_,rfl⟩

/-- The compact proof of a list that ends healthy exists exactly when the last decision
came before its deadline. -/
theorem createHealthyPromotionProof_iff (hlength : proofs.length+1≤20)
    (hhealthy : signed.proof.decision.status=.healthy) {deadline : UtcSecond}
    (hdeadline : addSeconds signed.proof.observation.window_ended_at
      maximumObservationDelaySeconds=.ok deadline) :
    (∃ promotion,createHealthyPromotionProof functions anchor (proofs++[signed])=.ok promotion) ↔
      signed.proof.decision.evaluated_at.1<deadline.1 := by
  have hlast : requireSome (proofs++[signed]).getLast? (Raised.valueError
      "healthy promotion proof requires exact signed proofs")=.ok signed := by
    rw [List.getLast?_concat]
    rfl
  obtain ⟨digest,hdigest⟩ := @signedHealthProofChainSha256_ok functions proofs signed hlength
  unfold createHealthyPromotionProof
  rw [bind_of_ok hlast,bind_of_ok (require_of hhealthy),bind_of_ok hdeadline]
  constructor
  · rintro ⟨promotion,h⟩
    exact require_eq_ok.mp (check_bind_eq_ok.mp h).1
  · intro hlifetime
    rw [bind_of_ok (require_of hlifetime),bind_of_ok hdigest]
    unfold makePromotion
    dsimp only
    rw [dif_pos]
    · exact ⟨_,rfl⟩
    · unfold HealthyPromotionProofV1Fields.validatePromotion
      simp only [check_bind_eq_ok,require_eq_ok]
      exact ⟨sequence_bounded signed,(anchor_root anchor).1,hlifetime,
        (functions.promotion_id_other _ _).symm⟩

theorem createHealthyPromotionProof_spec {promotion : HealthyPromotionProofV1 functions}
    (h : createHealthyPromotionProof functions anchor (proofs++[signed])=.ok promotion) :
    ∃ digest valid_until,signedHealthProofChainSha256 functions (proofs++[signed])=.ok digest ∧
      addSeconds signed.proof.observation.window_ended_at maximumObservationDelaySeconds=
        .ok valid_until ∧
      promotion.fields=promotionFields functions anchor.fields (functions.anchor_sha256 anchor.fields)
        signed.proof digest promotion.proof_id valid_until := by
  unfold createHealthyPromotionProof at h
  obtain ⟨terminal,hterminal,h⟩ := bind_eq_ok.mp h
  rw [requireSome_eq_ok,List.getLast?_concat] at hterminal
  cases hterminal
  obtain ⟨-,h⟩ := check_bind_eq_ok.mp h
  obtain ⟨valid_until,hvalid,h⟩ := bind_eq_ok.mp h
  obtain ⟨-,h⟩ := check_bind_eq_ok.mp h
  obtain ⟨digest,hdigest,h⟩ := bind_eq_ok.mp h
  refine ⟨digest,valid_until,hdigest,hvalid,?_⟩
  unfold makePromotion at h
  dsimp only at h
  split at h
  · rw [← Except.ok.inj h]
    rfl
  · cases h

theorem isIdentifier_chain (digest : Sha256Digest) : isIdentifier (chainIdentity digest)=true :=
  StorageIdentity.isIdentifier_derived (by decide) (by decide) digest

/-- What a chain that was created consists of. -/
structure ChainOf (anchor : PostApplyHealthAnchorV1 functions)
    (proofs : List (SignedHealthDecisionProofV1 functions))
    (signed : SignedHealthDecisionProofV1 functions)
    (chain : SignedHealthDecisionChainV1 functions) : Prop where
  source : chain.anchor=anchor
  anchor_sha256 : chain.anchor_sha256=functions.anchor_sha256 anchor.fields
  signed_proofs : chain.signed_proofs=proofs++[signed]
  /-- Digest of the last signed proof. -/
  head : chain.chain_head_sha256=signedSha256 functions signed

theorem createChain_spec {chain : SignedHealthDecisionChainV1 functions}
    (h : createSignedHealthDecisionChain functions anchor (proofs++[signed])=.ok chain) :
    ChainOf anchor proofs signed chain := by
  unfold createSignedHealthDecisionChain at h
  obtain ⟨terminal,hterminal,h⟩ := bind_eq_ok.mp h
  rw [requireSome_eq_ok,List.getLast?_concat] at hterminal
  cases hterminal
  obtain ⟨promotion,-,h⟩ := bind_eq_ok.mp h
  unfold sealChain at h
  obtain ⟨manifest_sha256,-,h⟩ := bind_eq_ok.mp h
  obtain ⟨chain_id,-,h⟩ := bind_eq_ok.mp h
  unfold makeChain at h
  split at h
  · rw [← Except.ok.inj h]
    exact ⟨rfl,rfl,rfl,rfl⟩
  · cases h

theorem ChainOf.linked {chain : SignedHealthDecisionChainV1 functions}
    (h : ChainOf anchor proofs signed chain) :
    validateLinks functions anchor (functions.anchor_sha256 anchor.fields) [] (proofs++[signed])=
      .ok () ∧ proofs.length+1≤20 := by
  have haccepted := chain.accepted
  unfold SignedHealthDecisionChainV1Fields.validateChain at haccepted
  obtain ⟨hlength,haccepted⟩ := check_bind_eq_ok.mp haccepted
  obtain ⟨terminal,-,haccepted⟩ := bind_eq_ok.mp haccepted
  simp only [check_bind_eq_ok] at haccepted
  obtain ⟨-,-,-,hlinks,-⟩ := haccepted
  have hlength := require_eq_ok.mp hlength
  rw [h.signed_proofs,List.length_append,List.length_singleton] at hlength
  rw [h.signed_proofs,h.anchor_sha256] at hlinks
  have hanchor := h.source
  change chain.fields.anchor=anchor at hanchor
  rw [hanchor] at hlinks
  exact ⟨hlinks,hlength⟩

/-- The end of a chain is accepted with its own compact proof. -/
theorem validateTerminal_ok {promotion : Option (HealthyPromotionProofV1 functions)}
    (hpromotion : terminalPromotion functions anchor (proofs++[signed]) signed=.ok promotion)
    (chain_id : Identifier) :
    validateTerminal functions {chainDraft functions anchor (proofs++[signed]) signed promotion with
      chain_id := chain_id} signed=.ok () := by
  unfold terminalPromotion at hpromotion
  unfold validateTerminal
  by_cases hstatus : signed.proof.decision.status=.healthy
  · rw [if_pos hstatus] at hpromotion ⊢
    cases hcreated : createHealthyPromotionProof functions anchor (proofs++[signed]) with
    | error raised =>
      rw [hcreated] at hpromotion
      cases hpromotion
    | ok compact =>
      rw [hcreated] at hpromotion
      cases hpromotion
      obtain ⟨found,valid_until,hfound,hvalid,hfields⟩ := createHealthyPromotionProof_spec hcreated
      refine (bind_of_ok rfl).trans ?_
      unfold validateHealthyPromotionProof
      exact (bind_of_ok hfound).trans ((bind_of_ok hvalid).trans (require_of hfields))
  · rw [if_neg hstatus] at hpromotion ⊢
    exact require_of (Except.ok.inj hpromotion).symm

/-- Linked proofs with their compact proof form a chain. -/
theorem sealChain_ok (hlength : proofs.length+1≤20)
    (hlinks : validateLinks functions anchor (functions.anchor_sha256 anchor.fields) []
      (proofs++[signed])=.ok ()) {promotion : Option (HealthyPromotionProofV1 functions)}
    (hpromotion : terminalPromotion functions anchor (proofs++[signed]) signed=.ok promotion) :
    ∃ chain,sealChain functions (chainDraft functions anchor (proofs++[signed]) signed promotion)=
      .ok chain := by
  have hlast : requireSome (proofs++[signed]).getLast? Raised.validationError=.ok signed := by
    rw [List.getLast?_concat]
    rfl
  have hcount : (proofs++[signed]).length≤20 := by
    rw [List.length_append,List.length_singleton]
    exact hlength
  have hbound : (proofs++[signed]).length≤ maximumProofs := hcount
  obtain ⟨digest,hdigest⟩ := @signedHealthProofChainSha256_ok functions proofs signed hlength
  have hmanifest : ∀ chain_id,signedHealthDecisionChainSha256 functions
      {chainDraft functions anchor (proofs++[signed]) signed promotion with chain_id := chain_id}=
      .ok (healthChainManifestSha256 functions (functions.anchor_sha256 anchor.fields) digest
        (signedSha256 functions signed)
        (promotion.map (fun promotion => functions.promotion_sha256 promotion.fields))) := by
    intro chain_id
    exact bind_of_ok hdigest
  unfold sealChain identifierText
  rw [bind_of_ok (hmanifest _)]
  rw [dif_pos (isIdentifier_chain _)]
  refine Exists.imp (fun chain h => (bind_of_ok rfl).trans h) ?_
  unfold makeChain
  rw [dif_pos]
  · exact ⟨_,rfl⟩
  unfold SignedHealthDecisionChainV1Fields.validateChain
  refine (bind_of_ok (require_of hcount)).trans ((bind_of_ok hlast).trans ?_)
  refine (bind_of_ok (require_of rfl)).trans ((bind_of_ok (require_of hbound)).trans ?_)
  refine (bind_of_ok (require_of rfl)).trans ((bind_of_ok hlinks).trans ?_)
  refine (bind_of_ok (validateTerminal_ok hpromotion _)).trans ?_
  exact (bind_of_ok (hmanifest _)).trans (require_of rfl)

/-- Linked proofs form a chain exactly when the last of them does not decide at its
deadline that the rollout is healthy. -/
theorem createChain_iff (hlength : proofs.length+1≤20)
    (hlinks : validateLinks functions anchor (functions.anchor_sha256 anchor.fields) []
      (proofs++[signed])=.ok ()) {deadline : UtcSecond}
    (hdeadline : addSeconds signed.proof.observation.window_ended_at
      maximumObservationDelaySeconds=.ok deadline) :
    (∃ chain,createSignedHealthDecisionChain functions anchor (proofs++[signed])=.ok chain) ↔
      ¬(signed.proof.decision.status=.healthy ∧
        deadline.1 ≤ signed.proof.decision.evaluated_at.1) := by
  have hlast : requireSome (proofs++[signed]).getLast? (Raised.valueError
      "health chain requires at least one signed proof")=.ok signed := by
    rw [List.getLast?_concat]
    rfl
  have hpromotion : (∃ promotion,terminalPromotion functions anchor (proofs++[signed]) signed=
      .ok promotion) ↔ ¬(signed.proof.decision.status=.healthy ∧
        deadline.1 ≤ signed.proof.decision.evaluated_at.1) := by
    unfold terminalPromotion
    by_cases hstatus : signed.proof.decision.status=.healthy
    · have hiff := @createHealthyPromotionProof_iff functions anchor proofs signed hlength hstatus
        deadline hdeadline
      rw [if_pos hstatus]
      cases hcreated : createHealthyPromotionProof functions anchor (proofs++[signed]) with
      | error raised =>
        have hlate : ¬signed.proof.decision.evaluated_at.1<deadline.1 := fun h => by
          obtain ⟨promotion,hpromotion⟩ := hiff.mpr h
          rw [hcreated] at hpromotion
          cases hpromotion
        exact ⟨fun ⟨_,h⟩ => (nomatch h),fun h => absurd ⟨hstatus,by omega⟩ h⟩
      | ok compact =>
        have hearly := hiff.mp ⟨compact,hcreated⟩
        exact ⟨fun _ h => by omega,fun _ => ⟨some compact,rfl⟩⟩
    · rw [if_neg hstatus]
      exact ⟨fun _ h => hstatus h.1,fun _ => ⟨none,rfl⟩⟩
  rw [← hpromotion]
  unfold createSignedHealthDecisionChain
  rw [bind_of_ok hlast]
  constructor
  · rintro ⟨chain,h⟩
    obtain ⟨promotion,hcreated,-⟩ := bind_eq_ok.mp h
    exact ⟨promotion,hcreated⟩
  · rintro ⟨promotion,hcreated⟩
    rw [bind_of_ok hcreated]
    exact sealChain_ok hlength hlinks hcreated

end creation

section manifests

variable {anchor : PostApplyHealthAnchorV1 functions}

/-- Document of a signed proof of an anchor. -/
def proofDocument (anchor : PostApplyHealthAnchorV1 functions)
    (signed : SignedHealthDecisionProofV1 functions) : Except Raised Sha256Digest :=
  signedHealthProofDocumentId functions anchor.target anchor.anchor_id
    (signedSha256 functions signed)

/-- Inside the dedicated boundary every document has an identity. -/
theorem documentId_ok {kind : HealthStorageKind} {target : TargetBinding}
    (htarget : ReceiptStore.isServiceClaimTarget target=true) (components : List String) :
    ∃ digest,documentId functions kind target components=.ok digest := by
  unfold documentId
  rw [bind_of_ok (require_of htarget)]
  exact ⟨_,rfl⟩

/-- The reference to a signed proof. -/
structure References (anchor : PostApplyHealthAnchorV1 functions)
    (image : SignedHealthDecisionProofV1 functions → HealthProofDocumentReferenceV1) : Prop where
  made : ∀ signed,referenceOf functions anchor.fields signed=.ok (image signed)
  document : ∀ signed,proofDocument anchor signed=.ok (image signed).document_id
  proof : ∀ signed,(image signed).sequence=signed.proof.sequence ∧
    (image signed).signed_proof_sha256=signedSha256 functions signed ∧
    (image signed).decision_sha256=signed.proof.decision_sha256

/-- Inside the dedicated boundary every signed proof has a reference. -/
theorem exists_references (htarget : ReceiptStore.isServiceClaimTarget anchor.target=true) :
    ∃ image,References anchor image := by
  have hdocument : ∀ signed : SignedHealthDecisionProofV1 functions,
      ∃ digest,proofDocument anchor signed=.ok digest := fun signed => documentId_ok htarget _
  choose document hdocument using hdocument
  refine ⟨fun signed => ⟨signed.proof.sequence,signed.proof.proof_id,document signed,
    signedSha256 functions signed,signed.proof.decision_sha256,sequence_bounded signed⟩,?_,hdocument,
    fun signed => ⟨rfl,rfl,rfl⟩⟩
  intro signed
  have hfound : signedHealthProofDocumentId functions anchor.fields.target anchor.fields.anchor_id
      (signedSha256 functions signed)=.ok (document signed) := hdocument signed
  unfold referenceOf
  rw [bind_of_ok hfound]
  exact dif_pos (sequence_bounded signed)

/-- Documents of different proofs differ. -/
def DistinctDocuments (anchor : PostApplyHealthAnchorV1 functions)
    (proofs : List (SignedHealthDecisionProofV1 functions)) : Prop :=
  ∀ first∈proofs,∀ second∈proofs,proofDocument anchor first=proofDocument anchor second →
    signedSha256 functions first=signedSha256 functions second

theorem validateReferences_ok {image : SignedHealthDecisionProofV1 functions →
      HealthProofDocumentReferenceV1} (himage : References anchor image)
    {anchor_sha256 : Sha256Digest} {earlier proofs : List (SignedHealthDecisionProofV1 functions)}
    (hlinks : validateLinks functions anchor anchor_sha256 earlier proofs=.ok ())
    (hdistinct : DistinctDocuments anchor (earlier++proofs)) :
    validateReferences functions anchor.target anchor.anchor_id (earlier.map image)
      (proofs.map image)=.ok () := by
  induction proofs generalizing earlier with
  | nil => rfl
  | cons first rest ih =>
    obtain ⟨hfirst,hrest⟩ := check_bind_eq_ok.mp hlinks
    have hlink := validateLink_iff.mp hfirst
    obtain ⟨hsequence,hdigest,-⟩ := himage.proof first
    have hdocument : signedHealthProofDocumentId functions anchor.target anchor.anchor_id
        (image first).signed_proof_sha256=.ok (image first).document_id := by
      rw [hdigest]
      exact himage.document first
    have hnewDigest : (image first).signed_proof_sha256∉
        (earlier.map image).map HealthProofDocumentReferenceV1.signed_proof_sha256 := by
      rw [hdigest,List.map_map]
      intro hmem
      obtain ⟨other,hother,hsame⟩ := List.mem_map.mp hmem
      refine hlink.fresh (List.mem_map.mpr ⟨other,hother,?_⟩)
      rw [← hsame]
      exact (himage.proof other).2.1.symm
    have hnewDocument : (image first).document_id∉
        (earlier.map image).map HealthProofDocumentReferenceV1.document_id := by
      rw [List.map_map]
      intro hmem
      obtain ⟨other,hother,hsame⟩ := List.mem_map.mp hmem
      refine hlink.fresh (List.mem_map.mpr ⟨other,hother,?_⟩)
      refine hdistinct other (List.mem_append_left _ hother) first
        (List.mem_append_right _ List.mem_cons_self) ?_
      rw [himage.document other,himage.document first]
      exact congrArg Except.ok hsame
    have hreference : validateReference functions anchor.target anchor.anchor_id
        (earlier.map image) (image first)=.ok () := by
      unfold validateReference
      rw [bind_of_ok hdocument]
      refine require_of ⟨?_,rfl,hnewDocument,hnewDigest⟩
      rw [hsequence,List.length_map]
      exact hlink.anchored.1
    have hnext : DistinctDocuments anchor ((first::earlier)++rest) := by
      intro one hone two htwo
      refine hdistinct one ?_ two ?_
      · simp only [List.cons_append,List.mem_cons,List.mem_append] at hone ⊢
        tauto
      · simp only [List.cons_append,List.mem_cons,List.mem_append] at htwo ⊢
        tauto
    rw [List.map_cons]
    exact (bind_of_ok hreference).trans (ih hrest hnext)

theorem orderedDigests_eq (proofs : List (SignedHealthDecisionProofV1 functions)) :
    orderedHealthProofDigestsSha256 functions (proofs.map (signedSha256 functions))=
      (signedHealthProofChainSha256 functions proofs).mapError (fun _ =>
        .valueError "ordered signed-proof digest sequence is invalid") := by
  unfold orderedHealthProofDigestsSha256 signedHealthProofChainSha256
  rw [List.length_map]
  by_cases hbound : proofs≠[] ∧ proofs.length≤20
  · have hmapped : proofs.map (signedSha256 functions)≠[] ∧ proofs.length≤20 :=
      ⟨fun h => hbound.1 (List.map_eq_nil_iff.mp h),hbound.2⟩
    rw [bind_of_ok (require_of hbound),bind_of_ok (require_of hmapped),List.flatMap_map]
    rfl
  · have hmapped : ¬(proofs.map (signedSha256 functions)≠[] ∧ proofs.length≤20) :=
      fun h => hbound ⟨fun hnil => h.1 (by rw [hnil]; rfl),h.2⟩
    unfold require
    rw [if_neg hbound,if_neg hmapped]
    rfl

/-- What the acceptance of a chain says about its end and its identity. -/
theorem ChainOf.sealed {proofs : List (SignedHealthDecisionProofV1 functions)}
    {signed : SignedHealthDecisionProofV1 functions} {chain : SignedHealthDecisionChainV1 functions}
    (h : ChainOf anchor proofs signed chain) :
    validateTerminal functions chain.fields signed=.ok () ∧
      ∃ manifest_sha256,signedHealthDecisionChainSha256 functions chain.fields=.ok manifest_sha256 ∧
        chain.chain_id.1=chainIdentity manifest_sha256 := by
  have haccepted := chain.accepted
  unfold SignedHealthDecisionChainV1Fields.validateChain at haccepted
  obtain ⟨-,haccepted⟩ := check_bind_eq_ok.mp haccepted
  obtain ⟨terminal,hterminal,haccepted⟩ := bind_eq_ok.mp haccepted
  rw [requireSome_eq_ok,h.signed_proofs,List.getLast?_concat] at hterminal
  cases hterminal
  simp only [check_bind_eq_ok] at haccepted
  obtain ⟨-,-,-,-,hend,haccepted⟩ := haccepted
  obtain ⟨manifest_sha256,hmanifest,hid⟩ := bind_eq_ok.mp haccepted
  exact ⟨hend,manifest_sha256,hmanifest,require_eq_ok.mp hid⟩

def manifestFields (chain : SignedHealthDecisionChainV1Fields functions)
    (signed : SignedHealthDecisionProofV1 functions)
    (proof_documents : List HealthProofDocumentReferenceV1) (manifest_sha256 ordered : Sha256Digest) :
    HealthChainManifestV1Fields functions where
  target := chain.anchor.target
  root_id := chain.anchor.root_id
  root_sha256 := chain.anchor.root_sha256
  epoch := chain.anchor.epoch
  anchor_id := chain.anchor.anchor_id
  anchor_sha256 := chain.anchor_sha256
  chain_id := chain.chain_id
  manifest_sha256 := manifest_sha256
  ordered_proof_chain_sha256 := ordered
  chain_head_sha256 := chain.chain_head_sha256
  terminal_sequence := signed.proof.sequence
  terminal_status := signed.proof.decision.status
  proof_documents := proof_documents
  healthy_promotion_proof := chain.healthy_promotion_proof
  healthy_promotion_proof_sha256 := chain.healthy_promotion_proof.map
    (fun promotion => functions.promotion_sha256 promotion.fields)

theorem validateCompact_ok {proofs : List (SignedHealthDecisionProofV1 functions)}
    {signed : SignedHealthDecisionProofV1 functions} {chain : SignedHealthDecisionChainV1 functions}
    (h : ChainOf anchor proofs signed chain) {image : SignedHealthDecisionProofV1 functions →
      HealthProofDocumentReferenceV1} (himage : References anchor image)
    {manifest_sha256 ordered : Sha256Digest}
    (hordered : signedHealthProofChainSha256 functions chain.signed_proofs=.ok ordered)
    (proof_documents : List HealthProofDocumentReferenceV1) :
    (manifestFields chain.fields signed proof_documents manifest_sha256 ordered).validateCompact
      functions (image signed)=.ok () := by
  have hend := h.sealed.1
  unfold validateTerminal at hend
  unfold HealthChainManifestV1Fields.validateCompact
  by_cases hstatus : signed.proof.decision.status=.healthy
  · rw [if_pos hstatus] at hend
    obtain ⟨compact,hcompact,hend⟩ := bind_eq_ok.mp hend
    unfold validateHealthyPromotionProof at hend
    rw [bind_of_ok hordered] at hend
    obtain ⟨valid_until,-,hend⟩ := bind_eq_ok.mp hend
    have hfields := require_eq_ok.mp hend
    have hmatches : (manifestFields chain.fields signed proof_documents manifest_sha256
        ordered).compactMatches functions (image signed) compact := by
      unfold HealthChainManifestV1Fields.compactMatches
      rw [hfields,(himage.proof signed).2.2]
      exact ⟨rfl,rfl,rfl,rfl,rfl,rfl,rfl,rfl,rfl⟩
    refine (if_pos hstatus).trans (require_of ⟨compact,requireSome_eq_ok.mp hcompact,hmatches⟩)
  · rw [if_neg hstatus] at hend
    exact (if_neg hstatus).trans (require_of (require_eq_ok.mp hend))

/-- Inside the dedicated boundary a chain whose documents differ has a manifest. -/
theorem createManifest_ok {proofs : List (SignedHealthDecisionProofV1 functions)}
    {signed : SignedHealthDecisionProofV1 functions} {chain : SignedHealthDecisionChainV1 functions}
    (h : ChainOf anchor proofs signed chain)
    (htarget : ReceiptStore.isServiceClaimTarget anchor.target=true)
    (hdistinct : DistinctDocuments anchor (proofs++[signed])) :
    ∃ manifest,createHealthChainManifest functions chain=.ok manifest := by
  obtain ⟨hlinks,hlength⟩ := h.linked
  obtain ⟨-,manifest_sha256,hmanifest,hid⟩ := h.sealed
  obtain ⟨image,himage⟩ := @exists_references functions anchor htarget
  have hsource : chain.fields.anchor=anchor := h.source
  have hproofs : chain.fields.signed_proofs=proofs++[signed] := h.signed_proofs
  have hlast : requireSome chain.signed_proofs.getLast? Raised.validationError=.ok signed := by
    rw [hproofs,List.getLast?_concat]
    rfl
  have hdocuments : chain.signed_proofs.mapM (referenceOf functions chain.anchor.fields)=
      .ok (chain.signed_proofs.map image) := by
    rw [hsource]
    exact mapM_eq_map.mpr fun other _ => himage.made other
  have hmanifest' := hmanifest
  unfold signedHealthDecisionChainSha256 at hmanifest'
  obtain ⟨ordered,hordered,hdigest⟩ := bind_eq_ok.mp hmanifest'
  have hdigest := Except.ok.inj hdigest
  have hsequence : signed.proof.sequence=proofs.length+1 := by
    have hlink := validateLink_iff.mp (validateLinks_append.mp hlinks).2
    rw [hlink.anchored.1,List.append_nil,List.length_reverse]
  have hfinal : ((chain.signed_proofs.map image).getLast?)=some (image signed) := by
    rw [hproofs,List.map_append,List.map_singleton,List.getLast?_concat]
  have hordered' : orderedHealthProofDigestsSha256 functions
      ((chain.signed_proofs.map image).map
        HealthProofDocumentReferenceV1.signed_proof_sha256)=.ok ordered := by
    have hsame : (chain.signed_proofs.map image).map
        HealthProofDocumentReferenceV1.signed_proof_sha256=
          chain.signed_proofs.map (signedSha256 functions) := by
      rw [List.map_map]
      exact List.map_congr_left fun other _ => (himage.proof other).2.1
    rw [hsame,orderedDigests_eq,hordered]
    rfl
  have hreferences : validateReferences functions chain.anchor.target chain.anchor.anchor_id []
      (chain.signed_proofs.map image)=.ok () := by
    rw [hsource,hproofs]
    exact validateReferences_ok himage hlinks hdistinct
  have haccepted : (manifestFields chain.fields signed (chain.signed_proofs.map image)
      manifest_sha256 ordered).validateManifest functions=.ok () := by
    have hcount : (chain.signed_proofs.map image).length=signed.proof.sequence := by
      rw [List.length_map,hproofs,List.length_append,List.length_singleton,hsequence]
    have hbounded := sequence_bounded signed
    have hbounds : (1 ≤ signed.proof.sequence ∧ signed.proof.sequence≤20) ∧
        (chain.signed_proofs.map image).length≤20 := ⟨hbounded,by rw [hcount]; exact hbounded.2⟩
    have hboundary : ReceiptStore.isServiceClaimTarget chain.anchor.target=true := by
      rw [hsource]
      exact htarget
    have hroot : chain.anchor.root_id.1="cgroot:"++chain.anchor.root_sha256.1 :=
      (anchor_root chain.anchor).1
    have hhead : chain.chain_head_sha256=(image signed).signed_proof_sha256 :=
      h.head.trans (himage.proof signed).2.1.symm
    unfold HealthChainManifestV1Fields.validateManifest
    refine (bind_of_ok (require_of hbounds)).trans ?_
    refine (bind_of_ok (requireSome_eq_ok.mpr hfinal)).trans ?_
    refine (bind_of_ok (require_of hboundary)).trans ((bind_of_ok (require_of hroot)).trans ?_)
    refine (bind_of_ok (require_of hcount)).trans ((bind_of_ok hreferences).trans ?_)
    refine (bind_of_ok hordered').trans ((bind_of_ok (require_of ⟨rfl,hhead,rfl⟩)).trans ?_)
    refine (bind_of_ok (validateCompact_ok h himage hordered _)).trans ?_
    exact require_of ⟨hdigest.symm,hid⟩
  unfold createHealthChainManifest
  rw [bind_of_ok hdocuments,bind_of_ok hmanifest,bind_of_ok hordered,bind_of_ok hlast]
  have hmade : makeManifest functions (manifestFields chain.fields signed
      (chain.signed_proofs.map image) manifest_sha256 ordered)=.ok ⟨_,haccepted⟩ :=
    dif_pos haccepted
  refine ⟨⟨_,haccepted⟩,(bind_of_ok hmade).trans ?_⟩
  rw [bind_of_ok hmanifest]
  exact (bind_of_ok (require_of rfl)).trans rfl

end manifests

theorem makeObservation_eq_ok {fields : MonitoringObservationFields}
    {observation : Observation functions.toHealthFunctions}
    (h : fields.make functions.toMonitoringFunctions=.ok observation) :
    observation.toMonitoringObservationFields=fields := by
  unfold MonitoringObservationFields.make at h
  split at h
  · cases h
  · split at h
    · cases h
    · rw [← Except.ok.inj h]

/-- A collected observation is about the requested window of the scope. -/
structure CollectedObservation (scope : MonitoringScopeFields) (window_index : Nat)
    (observation : MonitoringObservationFields) : Prop where
  binding : observation.target=scope.target ∧ observation.root_id=scope.root_id ∧
    observation.root_sha256=scope.root_sha256 ∧ observation.epoch=scope.epoch ∧
    observation.candidate_revision=scope.candidate_revision
  /-- The windows are counted from the start of the scope. -/
  origin : observation.observation_started_at=scope.observation_started_at
  index : observation.window_index=window_index

/-- A collection returns an observation of the requested window. -/
theorem collect_spec {scope : MonitoringCollectionScope functions.toMonitoringFunctions}
    {provider : MonitoringMetricQueryV1 →
      Except MonitoringCollectionErrorCode MonitoringQueryCollection}
    {clock : Option UtcSecond} {window_index : Nat}
    {observation : Observation functions.toHealthFunctions}
    (h : collect functions.toMonitoringFunctions scope provider clock window_index=.ok observation) :
    CollectedObservation scope.toMonitoringScopeFields window_index
      observation.toMonitoringObservationFields := by
  unfold collect at h
  obtain ⟨-,h⟩ := check_bind_eq_ok.mp h
  obtain ⟨⟨bounds,queries⟩,-,h⟩ := bind_eq_ok.mp h
  obtain ⟨requests,-,h⟩ := bind_eq_ok.mp h
  obtain ⟨latency,-,h⟩ := bind_eq_ok.mp h
  obtain ⟨-,h⟩ := check_bind_eq_ok.mp h
  obtain ⟨observed_at,-,h⟩ := bind_eq_ok.mp h
  obtain ⟨-,h⟩ := check_bind_eq_ok.mp h
  have h := mapError_eq_ok.mp h
  obtain ⟨selected,-,h⟩ := bind_eq_ok.mp h
  unfold buildObservation at h
  obtain ⟨counts,-,h⟩ := bind_eq_ok.mp h
  obtain ⟨distribution,-,h⟩ := bind_eq_ok.mp h
  have hfields := makeObservation_eq_ok h
  rw [hfields]
  exact ⟨⟨rfl,rfl,rfl,rfl,rfl⟩,rfl,rfl⟩

theorem createAnchor_target {root : HealthRoot} {receipt : ReceiptContracts.ExecutionReceipt}
    {anchor : PostApplyHealthAnchorV1 functions}
    (h : createPostApplyHealthAnchor functions root receipt=.ok anchor) :
    anchor.target=root.content.target := by
  unfold createPostApplyHealthAnchor at h
  obtain ⟨-,h⟩ := check_bind_eq_ok.mp h
  obtain ⟨etag,-,h⟩ := bind_eq_ok.mp h
  obtain ⟨key,-,h⟩ := bind_eq_ok.mp h
  obtain ⟨started,-,h⟩ := bind_eq_ok.mp h
  unfold makeAnchor at h
  simp only at h
  split at h
  · rw [← Except.ok.inj h]
  · cases h

/-- What a verifier is bound to. -/
structure Bound (service : VerifierHealthProofService functions) : Prop where
  target : ReceiptStore.isServiceClaimTarget service.anchor.target=true
  /-- Collections have the target and the root of the anchor. -/
  binding : service.scope.target=service.anchor.target ∧
    service.scope.root_id=service.anchor.root_id ∧
    service.scope.root_sha256=service.anchor.root_sha256 ∧
    service.scope.epoch=service.anchor.epoch ∧
    service.scope.candidate_revision=service.anchor.candidate_revision
  /-- Windows are counted from the start of the interval of the anchor. -/
  origin : service.scope.observation_started_at=service.anchor.observation_started_at

theorem bound (service : VerifierHealthProofService functions) : Bound service := by
  have hissued := service.issued
  unfold createMonitoringCollectionScope at hissued
  obtain ⟨expected,hexpected,hissued⟩ := bind_eq_ok.mp hissued
  obtain ⟨hsame,hissued⟩ := check_bind_eq_ok.mp hissued
  have htarget := createAnchor_target (mapError_eq_ok.mp hexpected)
  have hsame := require_eq_ok.mp hsame
  simp only at hissued
  split at hissued
  · have hscope := Except.ok.inj hissued
    refine ⟨?_,?_,?_⟩
    · have hanchor : service.anchor.target=service.root.content.target := by
        rw [← htarget,← hsame]
      rw [hanchor]
      exact service.root.target_bound
    · rw [← hscope]
      exact ⟨rfl,rfl,rfl,rfl,rfl⟩
    · rw [← hscope]
  · cases hissued

/-- A proof that is built keeps its fields, which are accepted. -/
theorem createProof_spec {anchor : PostApplyHealthAnchorV1Fields} {sequence : Nat}
    {previous : Option Sha256Digest} {prior_state : HealthEvaluationStateV1}
    {observation : Observation functions.toHealthFunctions}
    {decision : Decision functions.toHealthFunctions} {pending : HealthDecisionProofV1 functions}
    (h : createHealthDecisionProof functions anchor sequence previous prior_state observation decision=
      .ok pending) :
    pending.fields={proofDraft functions anchor sequence previous prior_state observation decision with
      proof_id := pending.proof_id} := by
  unfold createHealthDecisionProof makeProof at h
  simp only at h
  split at h
  · rw [← Except.ok.inj h]
  · cases h

/-- A request that is built asks for the given proof after the given one. -/
theorem createRequest_spec {anchor : PostApplyHealthAnchorV1Fields}
    {predecessor : Option (SignedHealthDecisionProofV1 functions)}
    {pending : HealthDecisionProofV1Fields functions.toHealthFunctions}
    {request : HealthAttestationSigningRequestV1 functions}
    (h : createHealthAttestationSigningRequest functions anchor predecessor pending=.ok request) :
    request.anchor=anchor ∧
      request.prior_signed_proof=predecessor.map SignedHealthDecisionProofV1.fields ∧
      request.pending_proof=pending := by
  unfold createHealthAttestationSigningRequest makeRequest at h
  simp only at h
  split at h
  · rw [← Except.ok.inj h]
    exact ⟨rfl,rfl,rfl⟩
  · cases h

/-- What the verifier has checked of a signed proof that it returns. -/
structure Attested (anchor : PostApplyHealthAnchorV1 functions)
    (predecessor : Option (SignedHealthDecisionProofV1 functions))
    (signed : SignedHealthDecisionProofV1 functions) : Prop where
  place : signed.proof.sequence=(predecessor.map (fun previous => previous.proof.sequence+1)).getD 1
  /-- The places are not exhausted. -/
  bounded : signed.proof.sequence≤20
  anchored : isAnchored functions anchor (functions.anchor_sha256 anchor.fields)
    signed.proof.sequence signed
  /-- The proof names the one before it. -/
  previous : signed.proof.previous_signed_proof_sha256=predecessor.map (signedSha256 functions)
  /-- The state follows the proof before it. -/
  transition : validateStateTransition functions anchor predecessor signed.proof=.ok ()
  /-- The proof is the first one, one of a new window, or the one retry of a window. -/
  attempt : validatePredecessorAttempt functions predecessor signed.proof=.ok ()
  evaluation : Nonempty (Evaluation functions.toHealthFunctions signed.proof.prior_state
    signed.proof.observation.toMonitoringObservationFields signed.proof.decision.evaluated_at
    signed.proof.decision.fields)
  index : (signed.proof.observation.window_index : Int)=signed.proof.prior_state.evaluated_windows+1
  /-- When the state counts from the start of the interval, the observation is one of the
  next window. -/
  next : signed.proof.prior_state.observation_started_at=anchor.observation_started_at →
    NextWindow functions.toHealthFunctions signed.proof.prior_state.fields
      signed.proof.observation.toMonitoringObservationFields
  /-- The decision was made when the observation was. -/
  observed : signed.proof.observation.observed_at=signed.proof.decision.evaluated_at
  /-- No window is evaluated twice on the same evidence. -/
  fresh : HealthWindows.HealthReason.windowDuplicate∉signed.proof.decision.reason_codes

theorem signed_proof_accepted (signed : SignedHealthDecisionProofV1 functions) :
    signed.proof.evidenceMatches functions ∧
      (∀ reason∈signed.proof.decision.reason_codes,reason∉forbiddenOrchestrationReasons) ∧
      signed.proof.observation.timing≠.early := by
  have haccepted := signed.accepted
  unfold SignedHealthDecisionProofV1Fields.validateSigned at haccepted
  obtain ⟨hproof,-⟩ := check_bind_eq_ok.mp haccepted
  unfold HealthDecisionProofV1Fields.validateProof at hproof
  simp only [check_bind_eq_ok,require_eq_ok] at hproof
  obtain ⟨-,-,-,-,-,-,hevidence,hreasons,htiming,-⟩ := hproof
  exact ⟨hevidence,hreasons,htiming⟩

/-- A signed proof that the verifier returns has passed its checks. -/
theorem evaluateAndAttest_spec {service : VerifierHealthProofService functions}
    {ports : VerifierPorts functions} {predecessor : Option (SignedHealthDecisionProofV1 functions)}
    {signed : SignedHealthDecisionProofV1 functions}
    (h : evaluateAndAttest functions service ports predecessor=.ok signed) :
    Attested service.anchor predecessor signed := by
  have hbound := bound service
  have hpolicy := (anchor_root service.anchor).2
  obtain ⟨hevidence,hreasons,htiming⟩ := signed_proof_accepted signed
  unfold evaluateAndAttest at h
  obtain ⟨now,-,h⟩ := bind_eq_ok.mp h
  obtain ⟨attempt,hattempt,h⟩ := bind_eq_ok.mp h
  obtain ⟨hlimits,h⟩ := check_bind_eq_ok.mp h
  obtain ⟨ready_at,-,h⟩ := bind_eq_ok.mp h
  obtain ⟨-,h⟩ := check_bind_eq_ok.mp h
  obtain ⟨observation,hobservation,h⟩ := bind_eq_ok.mp h
  obtain ⟨request,hrequest,h⟩ := bind_eq_ok.mp h
  obtain ⟨attested,-,h⟩ := bind_eq_ok.mp h
  obtain ⟨hexact,h⟩ := check_bind_eq_ok.mp h
  obtain ⟨-,h⟩ := check_bind_eq_ok.mp h
  cases h
  obtain ⟨hproof,hkey⟩ := require_eq_ok.mp hexact
  have hcollected := collect_spec (mapError_eq_ok.mp hobservation)
  have hrequest := mapError_eq_ok.mp hrequest
  unfold pendingRequest at hrequest
  obtain ⟨decision,hdecision,hrequest⟩ := bind_eq_ok.mp hrequest
  obtain ⟨pending,hpending,hrequest⟩ := bind_eq_ok.mp hrequest
  obtain ⟨request,hcreated,hrequest⟩ := bind_eq_ok.mp hrequest
  obtain ⟨-,hrequest⟩ := check_bind_eq_ok.mp hrequest
  obtain ⟨hretry,hrequest⟩ := check_bind_eq_ok.mp hrequest
  cases hrequest
  obtain ⟨hanchor,hprior,hpendingProof⟩ := createRequest_spec hcreated
  have hfields := createProof_spec hpending
  have hsame : signed.proof=pending.fields := hproof.trans hpendingProof
  have hobserved : signed.proof.observation=observation := by
    rw [hsame,hfields]
    rfl
  have hdecided : signed.proof.decision=decision := by
    rw [hsame,hfields]
    rfl
  have hstate : signed.proof.prior_state=attempt.prior_state := by
    rw [hsame,hfields]
    rfl
  have haccepted := request.accepted
  unfold validateRequest at haccepted
  simp only [check_bind_eq_ok,require_eq_ok] at haccepted
  obtain ⟨-,-,-,-,⟨hanchorId,hanchorSha⟩,hpredecessor,haccepted⟩ := haccepted
  obtain ⟨expected,hexpected,haccepted⟩ := bind_eq_ok.mp haccepted
  obtain ⟨hderived,-⟩ := check_bind_eq_ok.mp haccepted
  have hderived := require_eq_ok.mp hderived
  rw [hanchor,hprior] at hexpected
  rw [hanchor,← hproof] at hanchorId hanchorSha
  rw [← hproof] at hderived
  unfold validateRequestPredecessor at hpredecessor
  rw [hprior,← hproof,hanchor] at hpredecessor
  obtain ⟨evaluation⟩ := evaluateHealthObservation_spec hdecision
  have hat : observation.observed_at=signed.proof.decision.evaluated_at := by
    rw [hdecided]
    exact evaluation.outcome.2.2.1.symm
  have hnonneg := (stateShape attempt.prior_state).windows
  have hindex : (observation.window_index : Int)=attempt.prior_state.evaluated_windows+1 := by
    rw [hcollected.index]
    push_cast
    omega
  have hdigest : signed.proof.decision.policy_sha256=functions.policy_sha256 := by
    rw [hdecided]
    exact evaluation.outcome.2.2.2.1
  unfold HealthDecisionProofV1Fields.evidenceMatches at hevidence
  obtain ⟨-,-,-,-,-,hpolicyMatch,htarget,hroot,hrootSha,hepoch,hrevision,hstateTarget,hstateRoot,
    hstateRootSha,hstateEpoch,hstateRevision,-,-⟩ := hevidence
  obtain ⟨hscopeTarget,hscopeRoot,hscopeRootSha,hscopeEpoch,hscopeRevision⟩ := hcollected.binding
  obtain ⟨hboundTarget,hboundRoot,hboundRootSha,hboundEpoch,hboundRevision⟩ := hbound.binding
  have hsequence : signed.proof.sequence=(predecessor.map (fun previous =>
        previous.proof.sequence+1)).getD 1 ∧
      signed.proof.previous_signed_proof_sha256=predecessor.map (signedSha256 functions) ∧
      ∀ previous∈predecessor,previous.proof.decision.next_evaluation_at≠none := by
    cases predecessor with
    | none =>
      obtain ⟨hone,hnone⟩ := require_eq_ok.mp hpredecessor
      exact ⟨hone,hnone,fun previous hprevious => by cases hprevious⟩
    | some before =>
      obtain ⟨-,-,-,hplace,hdigest,hopen⟩ := require_eq_ok.mp hpredecessor
      refine ⟨hplace,hdigest,fun previous hprevious => ?_⟩
      cases hprevious
      exact hopen
  constructor
  · exact hsequence.1
  · exact (sequence_bounded signed).2
  · refine ⟨rfl,hanchorId,hanchorSha,hdigest.trans hpolicy.symm,?_,?_,?_,?_,?_,?_,hkey⟩
    · rw [htarget,hobserved,hscopeTarget,hboundTarget]
    · rw [hroot,hobserved,hscopeRoot,hboundRoot]
    · rw [hrootSha,hobserved,hscopeRootSha,hboundRootSha]
    · rw [hepoch,hobserved,hscopeEpoch,hboundEpoch]
    · rw [hrevision,hobserved,hscopeRevision,hboundRevision]
    · rw [hobserved,hcollected.origin,hbound.origin]
  · exact hsequence.2.1
  · unfold validateStateTransition
    rw [bind_of_ok (require_of hsequence.2.2),bind_of_ok hexpected]
    exact require_of hderived
  · rw [hsame]
    exact hretry
  · rw [hdecided,hobserved,hstate]
    rw [hdecided] at hat
    rw [← hat]
    exact ⟨evaluation⟩
  · rw [hobserved,hstate]
    exact hindex
  · intro horigin
    refine ⟨hpolicyMatch.symm.trans hdigest,⟨hstateTarget,hstateRoot,hstateRootSha,hstateEpoch,
      hstateRevision⟩,?_,?_,?_,htiming⟩
    · rw [horigin,hobserved,hcollected.origin,hbound.origin]
    · rw [hobserved,hstate]
      exact hindex
    · rw [hobserved,hcollected.index]
      exact (require_eq_ok.mp hlimits).2
  · rw [hobserved]
    exact hat
  · intro hduplicate
    exact hreasons _ hduplicate (by decide)

section growth

variable {anchor : PostApplyHealthAnchorV1 functions}
  {proofs : List (SignedHealthDecisionProofV1 functions)}
  {signed : SignedHealthDecisionProofV1 functions}

/-- Signed proofs of one anchor, each of them attested after the last one and then accepted
as the end of a chain. -/
inductive Grown (anchor : PostApplyHealthAnchorV1 functions) :
    List (SignedHealthDecisionProofV1 functions) → Prop
  /-- There is no proof at first. -/
  | nil : Grown anchor []
  /-- A verifier of the anchor attests one more proof. -/
  | grow {proofs : List (SignedHealthDecisionProofV1 functions)}
      {service : VerifierHealthProofService functions} {ports : VerifierPorts functions}
      {signed : SignedHealthDecisionProofV1 functions}
      {chain : SignedHealthDecisionChainV1 functions} : Grown anchor proofs →
      service.anchor=anchor → evaluateAndAttest functions service ports proofs.getLast?=.ok signed →
      createSignedHealthDecisionChain functions anchor (proofs++[signed])=.ok chain →
      Grown anchor (proofs++[signed])

/-- The window of a signed proof. -/
def windowOf (signed : SignedHealthDecisionProofV1 functions) : Nat :=
  signed.proof.observation.window_index

/-- What holds of a grown chain. -/
structure GrownFacts (anchor : PostApplyHealthAnchorV1 functions)
    (proofs : List (SignedHealthDecisionProofV1 functions)) : Prop where
  linked : validateLinks functions anchor (functions.anchor_sha256 anchor.fields) [] proofs=.ok ()
  /-- The last state counts from the start of the interval. -/
  origin : ∀ last∈proofs.getLast?,
    last.proof.decision.next_state.observation_started_at=anchor.observation_started_at
  /-- No window is later than the last one. -/
  ordered : ∀ last∈proofs.getLast?,∀ other∈proofs,windowOf other ≤ windowOf last
  /-- The next window is not earlier than the last one. -/
  forward : ∀ last∈proofs.getLast?,
    (windowOf last : Int) ≤ last.proof.decision.next_state.evaluated_windows+1

/-- The state after the last proof, or the first state. -/
theorem Attested.prior_state {predecessor : Option (SignedHealthDecisionProofV1 functions)}
    (h : Attested anchor predecessor signed) :
    (predecessor=none → signed.proof.prior_state.fields=anchoredStateFields functions anchor.fields) ∧
      ∀ last∈predecessor,signed.proof.prior_state.fields=
        nextStateFields functions.toHealthFunctions last.proof.decision.fields := by
  have htransition := h.transition
  unfold validateStateTransition at htransition
  obtain ⟨-,htransition⟩ := check_bind_eq_ok.mp htransition
  obtain ⟨expected,hexpected,hsame⟩ := bind_eq_ok.mp htransition
  rw [require_eq_ok.mp hsame]
  constructor
  · rintro rfl
    exact makeState_eq_ok hexpected
  · intro last hlast
    cases hlast
    exact makeState_eq_ok hexpected

/-- A proof that is attested after a grown chain counts from the start of the interval. -/
theorem GrownFacts.prior_origin (h : GrownFacts anchor proofs)
    (hattested : Attested anchor proofs.getLast? signed) :
    signed.proof.prior_state.observation_started_at=anchor.observation_started_at := by
  obtain ⟨hfirst,hafter⟩ := hattested.prior_state
  cases hlast : proofs.getLast? with
  | none =>
    rw [hfirst hlast]
    rfl
  | some last =>
    rw [hafter last hlast]
    exact h.origin last hlast

/-- The window of a proof that is attested is not earlier than the ones before it. -/
theorem GrownFacts.window_le (h : GrownFacts anchor proofs)
    (hattested : Attested anchor proofs.getLast? signed)
    {last : SignedHealthDecisionProofV1 functions} (hlast : last∈proofs.getLast?) :
    windowOf last ≤ windowOf signed := by
  have hindex := hattested.index
  have hforward := h.forward last hlast
  have hfields := congrArg HealthEvaluationStateV1Fields.evaluated_windows
    (hattested.prior_state.2 last hlast)
  have hwindows : (nextStateFields functions.toHealthFunctions
      last.proof.decision.fields).evaluated_windows=
        last.proof.decision.next_state.evaluated_windows := rfl
  unfold windowOf at hforward ⊢
  omega

theorem grownFacts (h : Grown anchor proofs) : GrownFacts anchor proofs := by
  induction h with
  | nil => exact ⟨rfl,fun _ h => (nomatch h),fun _ h => (nomatch h),fun _ h => (nomatch h)⟩
  | grow hgrown hanchor hservice hchain ih =>
    rename_i proofs service ports signed chain
    subst hanchor
    have hattested := evaluateAndAttest_spec hservice
    obtain ⟨evaluation⟩ := hattested.evaluation
    have horigin := ih.prior_origin hattested
    refine ⟨(createChain_spec hchain).linked.1,?_,?_,?_⟩
    · intro last hlast
      rw [List.getLast?_concat] at hlast
      cases hlast
      rw [observation_started_at_eq evaluation]
      exact horigin
    · intro last hlast other hother
      rw [List.getLast?_concat] at hlast
      cases hlast
      rcases List.mem_append.mp hother with hother | hother
      · cases hlast : proofs.getLast? with
        | none =>
          rw [List.getLast?_eq_none_iff.mp hlast] at hother
          cases hother
        | some before =>
          exact (ih.ordered before hlast other hother).trans (ih.window_le hattested hlast)
      · rw [List.mem_singleton.mp hother]
    · intro last hlast
      rw [List.getLast?_concat] at hlast
      cases hlast
      have hindex := hattested.index
      have hwindows := evaluated_windows_le evaluation
      unfold windowOf
      omega

theorem deadline_ok (signed : SignedHealthDecisionProofV1 functions) :
    ∃ deadline : UtcSecond,addSeconds signed.proof.observation.window_ended_at
        maximumObservationDelaySeconds=.ok deadline ∧
      deadline.1=signed.proof.observation.window_ended_at.1+maximumObservationDelaySeconds := by
  have hbound := (observationShape signed.proof.observation).deadline
  have hlower := signed.proof.observation.window_ended_at.2.1
  refine ⟨⟨signed.proof.observation.window_ended_at.1+maximumObservationDelaySeconds,?_,hbound⟩,
    MonitoringIngestion.addSeconds_ok rfl,rfl⟩
  unfold maximumObservationDelaySeconds
  omega

/-- Two proofs of one window of one anchor have one deadline. -/
theorem window_ended_at_eq {first second : SignedHealthDecisionProofV1 functions}
    (horigin : first.proof.observation.observation_started_at=
      second.proof.observation.observation_started_at) (hwindow : windowOf first=windowOf second) :
    first.proof.observation.window_ended_at=second.proof.observation.window_ended_at := by
  have hfirst := observationShape first.proof.observation
  have hsecond := observationShape second.proof.observation
  have hstarted := hfirst.started
  have hstarted' := hsecond.started
  have hended := hfirst.ended
  have hended' := hsecond.ended
  have hseconds := congrArg Subtype.val horigin
  unfold windowOf at hwindow
  rw [hwindow] at hstarted
  exact Subtype.ext (by omega)

theorem validateWindowAttempt_iff {earlier : List (SignedHealthDecisionProofV1 functions)}
    {deadline : UtcSecond} (hdeadline : addSeconds signed.proof.observation.window_ended_at
      maximumObservationDelaySeconds=.ok deadline)
    (hready : signed.proof.observation.window_ended_at.1+observationDelaySeconds ≤
      signed.proof.decision.evaluated_at.1) :
    validateWindowAttempt functions earlier signed.proof=.ok () ↔
      (earlier.countP (isAttemptOf functions (windowOf signed))=0 ∨
        earlier.countP (isAttemptOf functions (windowOf signed))=1 ∧
          ∃ last∈earlier.head?,windowOf last=windowOf signed ∧
            isDeadlineRetry functions last.proof signed.proof deadline) := by
  have hsecond := signed.proof.decision.evaluated_at.2.2
  have hfirst := signed.proof.observation.window_ended_at.2.1
  have hreadyAt : addSeconds signed.proof.observation.window_ended_at observationDelaySeconds=
      .ok ⟨signed.proof.observation.window_ended_at.1+observationDelaySeconds,by
        unfold observationDelaySeconds at hready ⊢
        omega⟩ := MonitoringIngestion.addSeconds_ok rfl
  unfold validateWindowAttempt
  dsimp only
  change (require (earlier.countP (isAttemptOf functions (windowOf signed))+1 ≤ _) _>>=_)=_ ↔ _
  by_cases hbound : earlier.countP (isAttemptOf functions (windowOf signed))+1≤ maximumProofsPerWindow
  · rw [bind_of_ok (require_of hbound),bind_of_ok hreadyAt,bind_of_ok hdeadline,
      bind_of_ok (require_of hready)]
    unfold maximumProofsPerWindow at hbound
    by_cases hfirst : earlier.countP (isAttemptOf functions (windowOf signed))=0
    · have hone : List.countP (isAttemptOf functions signed.proof.observation.window_index) earlier+1=
          1 := congrArg (·+1) hfirst
      rw [if_pos hone]
      exact ⟨fun _ => .inl hfirst,fun _ => rfl⟩
    · have hone : ¬List.countP (isAttemptOf functions signed.proof.observation.window_index) earlier+1=
          1 := fun h => hfirst (Nat.succ.inj h)
      rw [if_neg hone]
      constructor
      · intro h
        obtain ⟨last,hlast,h⟩ := bind_eq_ok.mp h
        obtain ⟨hwindow,hretry⟩ := require_eq_ok.mp h
        exact .inr ⟨by omega,last,requireSome_eq_ok.mp hlast,hwindow,hretry⟩
      · rintro (h | ⟨-,last,hlast,hwindow,hretry⟩)
        · exact absurd h hfirst
        · rw [bind_of_ok (requireSome_eq_ok.mpr hlast)]
          exact require_of ⟨hwindow,hretry⟩
  · unfold maximumProofsPerWindow at hbound
    constructor
    · intro h
      have := require_eq_ok.mp (check_bind_eq_ok.mp h).1
      unfold maximumProofsPerWindow at this
      omega
    · rintro (h | ⟨h,-⟩)
      · omega
      · omega

/-- A proof that is attested after a grown chain is an admissible attempt. -/
theorem GrownFacts.attempt (h : GrownFacts anchor proofs)
    (hattested : Attested anchor proofs.getLast? signed) :
    validateWindowAttempt functions proofs.reverse signed.proof=.ok () := by
  obtain ⟨deadline,hdeadline,hseconds⟩ := deadline_ok signed
  have hnext := hattested.next (h.prior_origin hattested)
  have hready : signed.proof.observation.window_ended_at.1+observationDelaySeconds ≤
      signed.proof.decision.evaluated_at.1 := by
    rw [← hattested.observed]
    exact (observationShape signed.proof.observation).settled hnext.timing
  rw [validateWindowAttempt_iff hdeadline hready]
  rcases List.eq_nil_or_concat' proofs with rfl | ⟨rest,last,rfl⟩
  · exact .inl rfl
  have hlast : last∈(rest++[last]).getLast? := List.getLast?_concat
  have hle := h.window_le hattested hlast
  rw [List.reverse_append,List.reverse_singleton,List.singleton_append,List.head?_cons]
  by_cases hsame : windowOf last=windowOf signed
  · have hattempt := hattested.attempt
    rw [List.getLast?_concat] at hattempt
    unfold validatePredecessorAttempt at hattempt
    have hwindow : ¬signed.proof.observation.window_index≠last.proof.observation.window_index :=
      fun hne => hne hsame.symm
    simp only [if_neg hwindow] at hattempt
    rw [bind_of_ok hdeadline] at hattempt
    have hretry := require_eq_ok.mp hattempt
    have hbefore := hretry.2.2.1
    have hlink := validateLink_iff.mp (validateLinks_append.mp h.linked).2
    rw [List.append_nil] at hlink
    have horigin : last.proof.observation.observation_started_at=
        signed.proof.observation.observation_started_at :=
      hlink.anchored.2.2.2.2.2.2.2.2.2.1.trans hattested.anchored.2.2.2.2.2.2.2.2.2.1.symm
    have hended := window_ended_at_eq horigin hsame
    have hlastReady : last.proof.observation.window_ended_at.1+observationDelaySeconds ≤
        last.proof.decision.evaluated_at.1 := by
      obtain ⟨hevidence,-,htiming⟩ := signed_proof_accepted last
      have hobserved : last.proof.observation.observed_at=last.proof.decision.evaluated_at :=
        hevidence.2.2.2.2.2.2.2.2.2.2.2.2.2.2.2.2.2
      rw [← hobserved]
      exact (observationShape last.proof.observation).settled htiming
    have hnone : rest.reverse.countP (isAttemptOf functions (windowOf signed))=0 := by
      have hlastDeadline : addSeconds last.proof.observation.window_ended_at
          maximumObservationDelaySeconds=.ok deadline := by
        rw [hended]
        exact hdeadline
      rcases (validateWindowAttempt_iff hlastDeadline hlastReady).mp hlink.attempt with
        hnone | ⟨_,_,_,_,hretried⟩
      · rw [← hsame]
        exact hnone
      · have hafter := hretried.2.2.2
        omega
    refine .inr ⟨?_,last,rfl,hsame,hretry⟩
    have hmatch : isAttemptOf functions (windowOf signed) last=true := decide_eq_true hsame
    rw [List.countP_cons_of_pos hmatch,hnone]
  · refine .inl (List.countP_eq_zero.mpr fun other hother hmatch => ?_)
    have hother : other∈rest++[last] := by
      rw [List.mem_append,List.mem_singleton]
      rcases List.mem_cons.mp hother with rfl | hother
      · exact .inr rfl
      · exact .inl (List.mem_reverse.mp hother)
    have hbefore := h.ordered last hlast other hother
    have hwindow : windowOf other=windowOf signed := of_decide_eq_true hmatch
    omega

/-- The digests of different proofs differ, and so do their documents. -/
structure NoCollision (anchor : PostApplyHealthAnchorV1 functions)
    (proofs : List (SignedHealthDecisionProofV1 functions)) : Prop where
  digests : ∀ first∈proofs,∀ second∈proofs,
    signedSha256 functions first=signedSha256 functions second → first=second
  documents : DistinctDocuments anchor proofs

/-- A proof that is attested after a grown chain is its next link. -/
theorem GrownFacts.link (h : GrownFacts anchor proofs)
    (hattested : Attested anchor proofs.getLast? signed)
    (hcollision : NoCollision anchor (proofs++[signed])) :
    validateLinks functions anchor (functions.anchor_sha256 anchor.fields) [] (proofs++[signed])=
        .ok () ∧ proofs.length+1≤20 := by
  have hplace : signed.proof.sequence=proofs.length+1 := by
    rw [hattested.place]
    rcases List.eq_nil_or_concat' proofs with rfl | ⟨rest,last,rfl⟩
    · rfl
    · have hlink := validateLink_iff.mp (validateLinks_append.mp h.linked).2
      have hsequence := hlink.anchored.1
      rw [List.append_nil,List.length_reverse] at hsequence
      rw [List.getLast?_concat,Option.map_some,Option.getD_some,hsequence,List.length_append,
        List.length_singleton]
  refine ⟨validateLinks_append.mpr ⟨h.linked,validateLink_iff.mpr ⟨?_,?_,?_,?_,?_⟩⟩,?_⟩
  · rw [List.append_nil]
    intro hmem
    obtain ⟨other,hother,hsame⟩ := List.mem_map.mp hmem
    have hother := List.mem_reverse.mp hother
    have heq := hcollision.digests other (List.mem_append_left _ hother) signed
      (List.mem_append_right _ List.mem_cons_self) hsame
    have hle := sequence_le h.linked hother
    rw [heq,hplace,List.length_nil] at hle
    omega
  · rw [List.append_nil,List.length_reverse,← hplace]
    exact hattested.anchored
  · rw [List.append_nil,List.head?_reverse]
    exact hattested.previous
  · rw [List.append_nil,List.head?_reverse]
    exact hattested.transition
  · rw [List.append_nil]
    exact h.attempt hattested
  · rw [← hplace]
    exact hattested.bounded

/-- The last decision has counted one healthy window, and a healthy observation of the
next window is made exactly at its deadline. -/
def HealthyAtDeadline (predecessor : Option (SignedHealthDecisionProofV1 functions))
    (observation : MonitoringObservationFields) : Prop :=
  (∃ last∈predecessor,last.proof.decision.next_state.consecutive_healthy_windows=1) ∧
    HealthyObservation observation ∧
    observation.observed_at.1=observation.window_ended_at.1+maximumObservationDelaySeconds

/-- A proof decides at or after its deadline that the rollout is healthy exactly when the
second healthy window is observed at its deadline. -/
theorem GrownFacts.healthy_late_iff (h : GrownFacts anchor proofs)
    (hattested : Attested anchor proofs.getLast? signed) :
    (signed.proof.decision.status=.healthy ∧
      signed.proof.observation.window_ended_at.1+maximumObservationDelaySeconds ≤
        signed.proof.decision.evaluated_at.1) ↔
      HealthyAtDeadline proofs.getLast? signed.proof.observation.toMonitoringObservationFields := by
  obtain ⟨evaluation⟩ := hattested.evaluation
  have hnext := hattested.next (h.prior_origin hattested)
  have hobserved := congrArg Subtype.val hattested.observed
  have hstreak : signed.proof.prior_state.consecutive_healthy_windows=1 ↔
      ∃ last∈proofs.getLast?,last.proof.decision.next_state.consecutive_healthy_windows=1 := by
    obtain ⟨hfirst,hafter⟩ := hattested.prior_state
    cases hlast : proofs.getLast? with
    | none =>
      rw [hfirst hlast]
      exact ⟨fun hone => absurd (show (0 : Int)=1 from hone) (by decide),
        fun ⟨_,hnone,_⟩ => (nomatch hnone)⟩
    | some last =>
      rw [hafter last hlast]
      exact ⟨fun hone => ⟨last,rfl,hone⟩,fun ⟨other,hother,hone⟩ => by
        cases hother
        exact hone⟩
  rw [HealthyAtDeadline,← hstreak,healthy_iff evaluation hnext hattested.observed hattested.fresh]
  constructor
  · rintro ⟨⟨hone,hhealthy,hby⟩,hafter⟩
    exact ⟨hone,hhealthy,by omega⟩
  · rintro ⟨hone,hhealthy,hat⟩
    exact ⟨⟨hone,hhealthy,by omega⟩,by omega⟩

end growth

/-- A proof that the verifier attests after a grown chain extends the chain, and the extended
chain has a manifest, unless the second healthy window in a row was observed exactly at its
collection deadline. -/
theorem attested_proof_extends (functions : HealthProofFunctions)
    (service : VerifierHealthProofService functions) (ports : VerifierPorts functions)
    (proofs : List (SignedHealthDecisionProofV1 functions))
    (signed : SignedHealthDecisionProofV1 functions) (hgrown : Grown service.anchor proofs)
    (hsigned : evaluateAndAttest functions service ports proofs.getLast?=.ok signed)
    (hcollision : NoCollision service.anchor (proofs++[signed])) :
    (∃ chain manifest,createSignedHealthDecisionChain functions service.anchor (proofs++[signed])=
        .ok chain ∧ createHealthChainManifest functions chain=.ok manifest) ↔
      ¬HealthyAtDeadline proofs.getLast?
        signed.proof.observation.toMonitoringObservationFields := by
  have hfacts := grownFacts hgrown
  have hattested := evaluateAndAttest_spec hsigned
  obtain ⟨hlinks,hlength⟩ := hfacts.link hattested hcollision
  obtain ⟨deadline,hdeadline,hseconds⟩ := deadline_ok signed
  have hcreate := createChain_iff hlength hlinks hdeadline
  rw [hseconds,hfacts.healthy_late_iff hattested] at hcreate
  rw [← hcreate]
  constructor
  · rintro ⟨chain,manifest,hchain,-⟩
    exact ⟨chain,hchain⟩
  · rintro ⟨chain,hchain⟩
    obtain ⟨manifest,hmanifest⟩ := createManifest_ok (createChain_spec hchain)
      (bound service).target hcollision.documents
    exact ⟨chain,manifest,hchain,hmanifest⟩

open EvidenceIntegrity (sampleTarget samplePlan sampleRoot)

open MonitoringIngestion (letterDigest)

open StorageIdentity (zeroSha256)

theorem sortedDigests_eq {digests : List Sha256Digest}
    (h : digests.Pairwise (fun first second => first.1 ≤ second.1)) :
    sortedDigests digests=digests :=
  List.mergeSort_of_pairwise (h.imp (fun hle => decide_eq_true hle))

/-- Collect the points of a window whose samples are already in the order of their digests. -/
def collectSorted (functions : MonitoringFunctions) (scope : MonitoringCollectionScope functions)
    (provider : MonitoringMetricQueryV1 →
      Except MonitoringCollectionErrorCode MonitoringQueryCollection)
    (observed_at : UtcSecond) (window_index : Nat) :
    Except Raised (MonitoringWindowObservationV1 functions) := do
  let window ← windowQueries functions scope.toMonitoringScopeFields window_index
  let requests ← (collectQuery functions provider window.2.1).mapError (fun _ => .validationError)
  let latency ← (collectQuery functions provider window.2.2).mapError (fun _ => .validationError)
  require (1 ≤ window_index ∧ window_index≤ maximumWindows ∧
      requests.points.length+latency.points.length≤ maximumPoints ∧
      0 ≤ secondsBetween window.1.2 observed_at) .validationError
  let samples ← sourceSamples functions window.2 requests.points latency.points
  let digests := samples.map functions.sample_sha256
  require (digests.Pairwise (fun first second => first.1 ≤ second.1)) .validationError
  buildObservation functions scope.toMonitoringScopeFields window_index window.1.1 window.1.2
    observed_at window.2 {selectSamples functions samples with source_sample_sha256s := digests}

theorem collect_of_sorted {functions : MonitoringFunctions}
    {scope : MonitoringCollectionScope functions}
    {provider : MonitoringMetricQueryV1 →
      Except MonitoringCollectionErrorCode MonitoringQueryCollection}
    {observed_at : UtcSecond} {window_index : Nat}
    {observation : MonitoringWindowObservationV1 functions}
    (h : collectSorted functions scope provider observed_at window_index=.ok observation) :
    collect functions scope provider (some observed_at) window_index=.ok observation := by
  unfold collectSorted at h
  obtain ⟨⟨bounds,queries⟩,hwindow,h⟩ := bind_eq_ok.mp h
  obtain ⟨requests,hrequests,h⟩ := bind_eq_ok.mp h
  obtain ⟨latency,hlatency,h⟩ := bind_eq_ok.mp h
  obtain ⟨hlimits,h⟩ := check_bind_eq_ok.mp h
  obtain ⟨samples,hsamples,h⟩ := bind_eq_ok.mp h
  obtain ⟨hsorted,hbuild⟩ := check_bind_eq_ok.mp h
  obtain ⟨hfirst,hlast,hfew,hafter⟩ := require_eq_ok.mp hlimits
  have hselected : canonicalSamples functions queries requests.points latency.points=
      .ok (selectSamples functions samples) := bind_of_ok hsamples
  have hdigests : (selectSamples functions samples).source_sample_sha256s=
      samples.map functions.sample_sha256 := sortedDigests_eq (require_eq_ok.mp hsorted)
  rw [← hdigests] at hbuild
  unfold collect
  rw [bind_of_ok (require_of ⟨hfirst,hlast⟩),bind_of_ok (mapError_eq_ok.mpr hwindow)]
  refine (bind_of_ok (mapError_eq_ok.mp hrequests)).trans ?_
  refine (bind_of_ok (mapError_eq_ok.mp hlatency)).trans ?_
  refine (bind_of_ok (require_of hfew)).trans ?_
  refine (bind_of_ok (rfl : requireSome (some observed_at) _=.ok observed_at)).trans ?_
  refine (bind_of_ok (require_of hafter)).trans ?_
  exact mapError_eq_ok.mpr ((bind_of_ok hselected).trans hbuild)

section building

variable {functions : HealthProofFunctions} {anchor : PostApplyHealthAnchorV1 functions}
  {predecessor : Option (SignedHealthDecisionProofV1 functions)}
  {observation : Observation functions.toHealthFunctions} {attempt : PriorAttempt}
  {decision : Decision functions.toHealthFunctions} {pending : HealthDecisionProofV1 functions}

/-- The request for the signature of a proof, before its identity is computed. -/
def requestDraft (anchor : PostApplyHealthAnchorV1Fields)
    (predecessor : Option (SignedHealthDecisionProofV1 functions))
    (pending : HealthDecisionProofV1Fields functions.toHealthFunctions) :
    HealthAttestationSigningRequestV1Fields functions.toHealthFunctions where
  request_id := HealthProofs.pendingIdentity
  anchor := anchor
  anchor_sha256 := functions.anchor_sha256 anchor
  prior_signed_proof := predecessor.map SignedHealthDecisionProofV1.fields
  pending_proof := pending

/-- A proof that was made has the fields that it was made from. -/
theorem pendingRequest_ok
    (hdecision : evaluateHealthObservation functions.toHealthFunctions attempt.prior_state
      (predecessor.map (fun signed => signed.proof.decision)) (some observation)
      observation.observed_at=.ok decision)
    (hpending : createHealthDecisionProof functions anchor.fields attempt.sequence
      attempt.predecessor_sha256 attempt.prior_state observation decision=.ok pending)
    (hplace : validateRequestPredecessor functions
      (requestDraft anchor.fields predecessor pending.fields)=.ok ())
    (hderived : derivedState functions anchor.fields
      (predecessor.map SignedHealthDecisionProofV1.fields)=.ok attempt.prior_state)
    (hattempt : validatePredecessorAttempt functions predecessor pending.fields=.ok ()) :
    ∃ request,pendingRequest functions anchor attempt predecessor observation=.ok request ∧
      request.pending_proof=pending.fields := by
  have hfields := createProof_spec hpending
  let draft := requestDraft anchor.fields predecessor pending.fields
  let fields := {draft with request_id := functions.request_id draft}
  have hvalid : validateRequest functions fields=.ok () := by
    refine (bind_of_ok anchor.accepted).trans ?_
    have hsigned : fields.prior_signed_proof.toList.forM
        (fun signed => signed.validateSigned functions)=.ok () := by
      cases predecessor with
      | none => rfl
      | some before => exact (bind_of_ok before.accepted).trans rfl
    refine (bind_of_ok hsigned).trans ?_
    refine (bind_of_ok pending.accepted).trans ?_
    refine (bind_of_ok (require_of rfl)).trans ?_
    refine (bind_of_ok (require_of ?_)).trans ?_
    · show pending.fields.anchor_id=_ ∧ pending.fields.anchor_sha256=_
      rw [hfields]
      exact ⟨rfl,rfl⟩
    · refine (bind_of_ok hplace).trans ((bind_of_ok hderived).trans ?_)
      refine (bind_of_ok (require_of ?_)).trans (require_of (functions.request_id_other draft _).symm)
      show pending.fields.prior_state=_
      rw [hfields]
      rfl
  have hrequest : createHealthAttestationSigningRequest functions anchor.fields predecessor
      pending.fields=.ok ⟨fields,hvalid⟩ := dif_pos hvalid
  refine ⟨⟨fields,hvalid⟩,?_,rfl⟩
  refine (bind_of_ok hdecision).trans ((bind_of_ok hpending).trans ((bind_of_ok hrequest).trans ?_))
  have hreplayed : validateSigningRequestDecisions functions ⟨fields,hvalid⟩
      (predecessor.map (fun signed => signed.proof.decision))=.ok () := by
    unfold validateSigningRequestDecisions
    show (evaluateHealthObservation functions.toHealthFunctions pending.fields.prior_state _
      (some pending.fields.observation) pending.fields.produced_at>>=fun expected =>
        require (expected=pending.fields.decision) _)=_
    rw [hfields]
    have hproduced : decision.evaluated_at=observation.observed_at := by
      obtain ⟨evaluation⟩ := evaluateHealthObservation_spec hdecision
      exact evaluation.outcome.2.2.1
    show (evaluateHealthObservation functions.toHealthFunctions attempt.prior_state _
      (some observation) decision.evaluated_at>>=fun expected => require (expected=decision) _)=_
    rw [hproduced]
    exact (bind_of_ok hdecision).trans (require_of rfl)
  exact (bind_of_ok hreplayed).trans ((bind_of_ok hattempt).trans rfl)

/-- An evaluation whose steps succeed attests its proof. -/
theorem evaluateAndAttest_ok {service : VerifierHealthProofService functions}
    {ports : VerifierPorts functions} {now ready_at : UtcSecond}
    {signed : SignedHealthDecisionProofV1 functions} (hnow : ports.now=some now)
    (hprior : priorAttempt functions service.anchor ports now predecessor=.ok attempt)
    (hbounds : attempt.sequence≤ maximumProofs ∧
      attempt.prior_state.evaluated_windows.toNat+1≤ maximumWindows)
    (hready : windowReadyAt service.anchor.fields (attempt.prior_state.evaluated_windows.toNat+1)=
      .ok ready_at) (hreached : ready_at.1 ≤ now.1)
    (hcollect : collect functions.toMonitoringFunctions service.scope ports.provider ports.clock
      (attempt.prior_state.evaluated_windows.toNat+1)=.ok observation)
    (hrequest : ∃ request,pendingRequest functions service.anchor attempt predecessor observation=
      .ok request ∧ request.pending_proof=pending.fields)
    (hattest : ∀ request,ports.attest request=some signed) (hproof : signed.proof=pending.fields)
    (hkey : signed.signing_key_version=service.anchor.evidence_signing_key_version)
    (hverify : ports.verify signed=true) :
    evaluateAndAttest functions service ports predecessor=.ok signed := by
  obtain ⟨request,hrequest,hpending⟩ := hrequest
  refine (bind_of_ok (requireSome_eq_ok.mpr hnow)).trans ((bind_of_ok hprior).trans ?_)
  refine (bind_of_ok (require_of hbounds)).trans ?_
  refine (bind_of_ok (mapError_eq_ok.mpr hready)).trans ?_
  refine (bind_of_ok (require_of hreached)).trans ?_
  refine (bind_of_ok (mapError_eq_ok.mpr hcollect)).trans ?_
  refine (bind_of_ok (mapError_eq_ok.mpr hrequest)).trans ?_
  refine (bind_of_ok (requireSome_eq_ok.mpr (hattest request))).trans ?_
  refine (bind_of_ok (require_of ⟨hproof.trans hpending.symm,hkey⟩)).trans ?_
  exact (bind_of_ok (require_of hverify)).trans rfl

end building

def sampleIdentity : Identifier := ⟨"sample",by decide⟩

/-- A digest of four letters, chosen by a weighted sum of the bytes. -/
def weightedDigest (bytes : Utf8Text.Bytes) : Sha256Digest :=
  match bytes.foldl (fun sum byte => (12*sum+byte.toNat)%1009) 0%4 with
  | 0 => letterDigest 'a' isSha256_a
  | 1 => letterDigest 'b' isSha256_b
  | 2 => letterDigest 'c' isSha256_c
  | _ => letterDigest 'd' isSha256_d

def sampleProofFunctions : HealthProofFunctions where
  sha256 := weightedDigest
  query_sha256 := fun query =>
    match query.query_kind with
    | .requestCountByResponseCodeClass => letterDigest 'e' isSha256_e
    | .requestLatencyDistribution => letterDigest 'f' (isSha256_repeated rfl)
  policy_sha256 := zeroSha256
  observation_sha256 := fun observation =>
    if observation.window_index=1 then zeroSha256 else letterDigest 'a' isSha256_a
  state_sha256 := fun _ => zeroSha256
  decision_sha256 := fun _ => zeroSha256
  decision_id := fun _ => sampleIdentity
  decision_id_other := fun _ _ => rfl
  target_sha256 := fun _ => zeroSha256
  snapshot_sha256 := fun _ => zeroSha256
  plan_sha256 := fun _ => zeroSha256
  receipt_sha256 := fun _ => zeroSha256
  target_configuration_sha256 := fun _ => zeroSha256
  anchor_sha256 := fun _ => zeroSha256
  anchor_id := fun _ => sampleIdentity
  anchor_id_other := fun _ _ => rfl
  proof_sha256 := fun _ => zeroSha256
  proof_id := fun _ => sampleIdentity
  proof_id_other := fun _ _ => rfl
  signing_input_sha256 := fun _ _ => zeroSha256
  signed_proof_sha256 := fun signed =>
    if signed.proof.sequence=1 then zeroSha256 else letterDigest 'a' isSha256_a
  promotion_sha256 := fun _ => zeroSha256
  promotion_id := fun _ => sampleIdentity
  promotion_id_other := fun _ _ => rfl
  request_id := fun _ => sampleIdentity
  request_id_other := fun _ _ => rfl

def sampleSecond (second : Nat) (h : second≤3600) : UtcSecond := ⟨1767225570+second,by omega⟩

def sampleEvidenceKey : String := evidenceKeyName sampleTarget.project_id++"1"

def sampleHealthRoot : HealthRoot where
  toRolloutRootV3 := {sampleRoot with
    content := {sampleRoot.content with evidence_signing_key_version := sampleEvidenceKey}}
  target_bound := by decide +kernel

def sampleApplyReceipt : ReceiptContracts.ExecutionReceipt where
  receipt_id := sampleIdentity
  request_id := sampleIdentity
  idempotency_key := sampleIdentity
  capability_sha256 := zeroSha256
  mutation_sha256 := zeroSha256
  plan_sha256 := zeroSha256
  expected_poststate_sha256 := zeroSha256
  target := sampleTarget
  root_id := sampleRoot.root_id
  root_sha256 := zeroSha256
  epoch := firstEpoch
  action := .applyCanary
  provider_etag := sampleRoot.content.stable_snapshot.provider_etag
  dispatch_not_after := sampleSecond 0 (by omega)
  outcome := .verified
  reason_code := none
  provider_operation := some ⟨"operation",operation_bounds⟩
  observed_etag := some ⟨"etag",by decide⟩
  observed_authority_epoch := some firstEpoch
  created_at := sampleSecond 0 (by omega)
  updated_at := sampleSecond 0 (by omega)
  evidence_ids := []
  accepted := by decide +kernel

theorem sampleEvidenceKey_version : TimelineContracts.isKeyVersion sampleEvidenceKey=true := by
  decide +kernel

def sampleAnchorFields : PostApplyHealthAnchorV1Fields where
  anchor_id := sampleIdentity
  root_id := sampleRoot.root_id
  root_sha256 := zeroSha256
  target := sampleTarget
  epoch := firstEpoch
  plan_sha256 := zeroSha256
  policy_sha256 := zeroSha256
  stable_snapshot_sha256 := zeroSha256
  stable_revision := samplePlan.stable_revision
  stable_revision_configuration_sha256 := zeroSha256
  candidate_revision := samplePlan.candidate_revision
  candidate_revision_configuration_sha256 := zeroSha256
  concurrency := 1
  expected_prestate_sha256 := zeroSha256
  provider_etag := ⟨"etag",by decide⟩
  evidence_signing_key_version := ⟨sampleEvidenceKey,sampleEvidenceKey_version⟩
  apply_receipt := sampleApplyReceipt
  source_receipt_sha256 := zeroSha256
  observation_started_at := sampleSecond 30 (by omega)

theorem sampleKey_admitted : isEvidenceKey sampleTarget.project_id
    sampleAnchorFields.evidence_signing_key_version=true := by decide +kernel

theorem sampleAnchor_accepted :
    sampleAnchorFields.validateAnchor sampleProofFunctions=.ok () := by
  refine (bind_of_ok (require_of (by decide))).trans ?_
  refine (bind_of_ok (require_of rfl)).trans ?_
  refine (bind_of_ok (require_of (by decide +kernel))).trans ?_
  refine (bind_of_ok (require_of rfl)).trans ?_
  refine (bind_of_ok (require_of rfl)).trans ?_
  refine (bind_of_ok (require_of sampleKey_admitted)).trans ?_
  refine (bind_of_ok (require_of ⟨rfl,rfl,rfl,by decide,rfl,rfl,rfl,rfl,rfl,rfl,rfl,rfl,rfl⟩)).trans ?_
  exact (bind_of_ok (rfl : nextUtcMinuteStrictlyAfter _=.ok (sampleSecond 30 (by omega)))).trans rfl

def sampleAnchor : PostApplyHealthAnchorV1 sampleProofFunctions :=
  ⟨sampleAnchorFields,sampleAnchor_accepted⟩

/-- The root and its receipt admit the interval. -/
theorem sampleAnchor_created : createPostApplyHealthAnchor sampleProofFunctions sampleHealthRoot
    sampleApplyReceipt=.ok sampleAnchor := by
  refine (bind_of_ok (require_of rfl)).trans ?_
  refine (bind_of_ok (rfl : requireSome _ _=.ok sampleAnchor.provider_etag)).trans ?_
  refine (bind_of_ok (dif_pos sampleEvidenceKey_version)).trans ?_
  refine (bind_of_ok (rfl : nextUtcMinuteStrictlyAfter _=
    .ok (sampleSecond 30 (by omega)))).trans ?_
  exact dif_pos sampleAnchor_accepted

def samplePointFields (query : MonitoringMetricQueryV1) : MonitoringPointFields :=
  match query.query_kind with
  | .requestCountByResponseCodeClass =>
    ⟨sampleProofFunctions.query_sha256 query,query.query_kind,query.window_started_at,
      query.window_ended_at,some .successful,.int64,some ⟨100,by decide⟩,none⟩
  | .requestLatencyDistribution =>
    ⟨sampleProofFunctions.query_sha256 query,query.query_kind,query.window_started_at,
      query.window_ended_at,none,.double,none,some ⟨"4059000000000000",by decide +kernel⟩⟩

def sampleProvider (query : MonitoringMetricQueryV1) :
    Except MonitoringCollectionErrorCode MonitoringQueryCollection :=
  if h : (samplePointFields query).validatePoint=.ok () then
    .ok {
      query_sha256 := (samplePointFields query).query_sha256
      query_kind := (samplePointFields query).query_kind
      points := [⟨samplePointFields query,h⟩]
      few_points := Nat.le_add_left 1 63
      points_bound := fun point hpoint => by
        rw [List.mem_singleton.mp hpoint]
        exact ⟨rfl,rfl⟩ }
  else .error .queryUnavailable


def sampleScopeFields : MonitoringScopeFields where
  target := sampleTarget
  root_id := sampleRoot.root_id
  root_sha256 := zeroSha256
  epoch := firstEpoch
  candidate_revision := samplePlan.candidate_revision
  observation_started_at := sampleSecond 30 (by omega)

def sampleScope : MonitoringCollectionScope sampleProofFunctions.toMonitoringFunctions :=
  ⟨sampleScopeFields,by decide +kernel⟩

def sampleService : VerifierHealthProofService sampleProofFunctions where
  root := sampleHealthRoot
  anchor := sampleAnchor
  scope := sampleScope
  issued := by
    refine (bind_of_ok (mapError_eq_ok.mpr sampleAnchor_created)).trans ?_
    exact (bind_of_ok (require_of rfl)).trans (dif_pos sampleScope.accepted)

def sampleQueries (window_index : Nat) : List MonitoringMetricQueryV1 :=
  ((windowQueries sampleProofFunctions.toMonitoringFunctions sampleScopeFields window_index).map
    (fun window => [window.2.1,window.2.2])).toOption.getD []

def sampleSamples (window_index : Nat) : List MonitoringSampleV1 :=
  ((sampleQueries window_index).mapM (fun query => do
    let answer ← (sampleProvider query).toOption
    (answer.points.mapM (canonicalSample sampleProofFunctions.toMonitoringFunctions query)).toOption)
    ).elim [] List.flatten

/-- The observation of a window with a hundred successful requests. -/
def windowFields (observation_id : Identifier) (window_index : Nat)
    (window_started_at window_ended_at observed_at : UtcSecond)
    (requests latency : Sha256Digest) : MonitoringObservationFields where
  observation_id := observation_id
  policy_sha256 := zeroSha256
  target := sampleTarget
  root_id := sampleRoot.root_id
  root_sha256 := zeroSha256
  epoch := firstEpoch
  candidate_revision := samplePlan.candidate_revision
  observation_started_at := sampleSecond 30 (by omega)
  window_index := window_index
  window_started_at := window_started_at
  window_ended_at := window_ended_at
  observed_at := observed_at
  queries := sampleQueries window_index
  query_sha256s := [letterDigest 'e' isSha256_e,letterDigest 'f' (isSha256_repeated rfl)]
  samples := sampleSamples window_index
  sample_sha256s := [requests,latency]
  source_sample_sha256s := [requests,latency]
  completeness := .complete
  timing := .ready
  missing_signals := []
  duplicate_count := 0
  conflicting_duplicate := false
  request_count := some 100
  response_1xx_count := some 0
  successful_request_count := some 100
  response_3xx_count := some 0
  response_4xx_count := some 0
  server_error_count := some 0
  latency_distribution := some ⟨⟨1,by decide⟩,⟨100,by decide⟩,[latency]⟩

/-- Fields of the first window, observed as soon as it is ready. -/
def firstFields : MonitoringObservationFields :=
  windowFields ⟨"cgobs:"++(letterDigest 'd' isSha256_d).1,isIdentifier_observation _⟩ 1
    (sampleSecond 30 (by omega)) (sampleSecond 90 (by omega)) (sampleSecond 270 (by omega))
    (letterDigest 'a' isSha256_a) (letterDigest 'c' isSha256_c)

/-- Fields of the second window, observed at its deadline. -/
def secondFields : MonitoringObservationFields :=
  windowFields ⟨"cgobs:"++(letterDigest 'a' isSha256_a).1,isIdentifier_observation _⟩ 2
    (sampleSecond 90 (by omega)) (sampleSecond 150 (by omega)) (sampleSecond 510 (by omega))
    (letterDigest 'b' isSha256_b) (letterDigest 'd' isSha256_d)

theorem firstFields_collected : (collectSorted sampleProofFunctions.toMonitoringFunctions sampleScope
    sampleProvider (sampleSecond 270 (by omega)) 1).map
      MonitoringWindowObservationV1.toMonitoringObservationFields=.ok firstFields := by
  decide +kernel

theorem secondFields_collected : (collectSorted sampleProofFunctions.toMonitoringFunctions
    sampleScope sampleProvider (sampleSecond 510 (by omega)) 2).map
      MonitoringWindowObservationV1.toMonitoringObservationFields=.ok secondFields := by
  decide +kernel

theorem exists_collected {time : UtcSecond} {window_index : Nat}
    {fields : MonitoringObservationFields}
    (h : (collectSorted sampleProofFunctions.toMonitoringFunctions sampleScope sampleProvider time
      window_index).map MonitoringWindowObservationV1.toMonitoringObservationFields=.ok fields) :
    ∃ hbounded haccepted,collectSorted sampleProofFunctions.toMonitoringFunctions sampleScope
      sampleProvider time window_index=.ok ⟨fields,hbounded,haccepted⟩ := by
  cases hcollected : collectSorted sampleProofFunctions.toMonitoringFunctions sampleScope
      sampleProvider time window_index with
  | error raised => rw [hcollected] at h; cases h
  | ok observation =>
    rw [hcollected] at h
    cases h
    exact ⟨observation.bounded,observation.accepted,rfl⟩

def firstObservation : Observation sampleProofFunctions.toHealthFunctions :=
  ⟨firstFields,(exists_collected firstFields_collected).choose,
    (exists_collected firstFields_collected).choose_spec.choose⟩

def secondObservation : Observation sampleProofFunctions.toHealthFunctions :=
  ⟨secondFields,(exists_collected secondFields_collected).choose,
    (exists_collected secondFields_collected).choose_spec.choose⟩

def sampleStateFields (windows : Int) (last_window_ended_at : Option UtcSecond)
    (last_observation_sha256 prior_decision_sha256 : Option Sha256Digest)
    (consumed_sample_set_sha256s : List Sha256Digest) : HealthEvaluationStateV1Fields where
  policy_sha256 := zeroSha256
  target := sampleTarget
  root_id := sampleRoot.root_id
  root_sha256 := zeroSha256
  epoch := firstEpoch
  candidate_revision := samplePlan.candidate_revision
  observation_started_at := sampleSecond 30 (by omega)
  last_window_ended_at := last_window_ended_at
  consecutive_healthy_windows := windows
  consecutive_unhealthy_windows := 0
  evaluated_windows := windows
  last_observation_sha256 := last_observation_sha256
  consumed_sample_set_sha256s := consumed_sample_set_sha256s
  prior_decision_sha256 := prior_decision_sha256

/-- The state before the first window. -/
def firstState : HealthEvaluationStateV1 :=
  ⟨sampleStateFields 0 none none none [],by decide +kernel⟩

/-- The state that a first decision leads to, before it names the decision. -/
def firstNextState : HealthEvaluationStateV1 :=
  ⟨sampleStateFields 1 (some (sampleSecond 90 (by omega))) (some zeroSha256) none
    [letterDigest 'c' isSha256_c],by decide +kernel⟩

/-- The state before the second window. -/
def secondState : HealthEvaluationStateV1 :=
  ⟨{firstNextState.fields with prior_decision_sha256 := some zeroSha256},by decide +kernel⟩

/-- The state after both windows. -/
def secondNextState : HealthEvaluationStateV1 :=
  ⟨sampleStateFields 2 (some (sampleSecond 150 (by omega)))
    (some (letterDigest 'a' isSha256_a)) (some zeroSha256)
    [letterDigest 'c' isSha256_c,letterDigest 'b' isSha256_b],by decide +kernel⟩

def windowDecisionFields (status : HealthWindows.HealthDecisionKind)
    (reason_codes : List HealthWindows.HealthReason) (next_state : HealthEvaluationStateV1)
    (observation : MonitoringObservationFields) (next_evaluation_at : Option UtcSecond) :
    HealthDecisionV1Fields where
  decision_id := sampleIdentity
  status := status
  reason_codes := reason_codes
  policy_sha256 := zeroSha256
  target := sampleTarget
  root_id := sampleRoot.root_id
  root_sha256 := zeroSha256
  epoch := firstEpoch
  candidate_revision := samplePlan.candidate_revision
  prior_state_sha256 := zeroSha256
  next_state := next_state
  observation_sha256 := some (sampleProofFunctions.observation_sha256 observation)
  query_sha256s := observation.query_sha256s
  sample_sha256s := observation.sample_sha256s
  window_started_at := some observation.window_started_at
  window_ended_at := some observation.window_ended_at
  request_count := some 100
  successful_request_count := some 100
  server_error_count := some 0
  error_rate_basis_points := some 0
  availability_basis_points := some 10000
  p95_latency_ms := some 100
  evaluated_at := observation.observed_at
  next_evaluation_at := next_evaluation_at

/-- Fields of the first decision, which waits for a second healthy window. -/
def firstDecisionFields : HealthDecisionV1Fields :=
  windowDecisionFields .wait [.healthyThresholdsMet,.healthyStreakPending] firstNextState firstFields
    (some (sampleSecond 330 (by omega)))

/-- Fields of the second decision, which ends the rollout. -/
def secondDecisionFields : HealthDecisionV1Fields :=
  windowDecisionFields .healthy [.healthyThresholdsMet,.healthyStreakMet] secondNextState
    secondFields none

theorem firstFields_decided : (evaluateHealthObservation sampleProofFunctions.toHealthFunctions
    firstState none (some firstObservation) firstFields.observed_at).map HealthDecisionV1.fields=
      .ok firstDecisionFields := by decide +kernel

theorem exists_decided {state : HealthEvaluationStateV1}
    {predecessor : Option (Decision sampleProofFunctions.toHealthFunctions)}
    {observation : Observation sampleProofFunctions.toHealthFunctions} {time : UtcSecond}
    {fields : HealthDecisionV1Fields}
    (h : (evaluateHealthObservation sampleProofFunctions.toHealthFunctions state predecessor
      (some observation) time).map HealthDecisionV1.fields=.ok fields) :
    ∃ haccepted,evaluateHealthObservation sampleProofFunctions.toHealthFunctions state predecessor
      (some observation) time=.ok ⟨fields,haccepted⟩ := by
  cases hdecided : evaluateHealthObservation sampleProofFunctions.toHealthFunctions state predecessor
      (some observation) time with
  | error raised => rw [hdecided] at h; cases h
  | ok decision =>
    rw [hdecided] at h
    cases h
    exact ⟨decision.accepted,rfl⟩

def firstDecision : Decision sampleProofFunctions.toHealthFunctions :=
  ⟨firstDecisionFields,(exists_decided firstFields_decided).choose⟩

theorem secondFields_decided : (evaluateHealthObservation sampleProofFunctions.toHealthFunctions
    secondState (some firstDecision) (some secondObservation) secondFields.observed_at).map
      HealthDecisionV1.fields=.ok secondDecisionFields := by decide +kernel

def secondDecision : Decision sampleProofFunctions.toHealthFunctions :=
  ⟨secondDecisionFields,(exists_decided secondFields_decided).choose⟩

def windowProofFields (sequence : Nat) (previous_signed_proof_sha256 : Option Sha256Digest)
    (prior_state : HealthEvaluationStateV1)
    (observation : Observation sampleProofFunctions.toHealthFunctions)
    (decision : Decision sampleProofFunctions.toHealthFunctions) :
    HealthDecisionProofV1Fields sampleProofFunctions.toHealthFunctions :=
  {proofDraft sampleProofFunctions sampleAnchorFields sequence previous_signed_proof_sha256
    prior_state observation decision with proof_id := sampleIdentity}

def firstProof : HealthDecisionProofV1 sampleProofFunctions :=
  ⟨windowProofFields 1 none firstState firstObservation firstDecision,by decide +kernel⟩

/-- A proof with a signature. -/
def signedFields (proof : HealthDecisionProofV1 sampleProofFunctions) :
    SignedHealthDecisionProofV1Fields sampleProofFunctions.toHealthFunctions :=
  ⟨proof.fields,sampleAnchorFields.evidence_signing_key_version,zeroSha256,zeroSha256,"aGk_"⟩

/-- A signature of a proof of the sample target is accepted. -/
theorem signedFields_accepted {proof : HealthDecisionProofV1 sampleProofFunctions}
    (htarget : proof.decision.target=sampleTarget) :
    (signedFields proof).validateSigned sampleProofFunctions=.ok () := by
  refine (bind_of_ok proof.accepted).trans ?_
  refine (bind_of_ok (rfl : requireSome (decodeBase64url "aGk_") _=.ok [104,105,63])).trans ?_
  refine require_of ⟨?_,rfl,rfl,by decide,by decide⟩
  show isEvidenceKey proof.decision.target.project_id _=true
  rw [htarget]
  exact sampleKey_admitted

/-- The signed proof of the first window. -/
def firstSigned : SignedHealthDecisionProofV1 sampleProofFunctions :=
  ⟨signedFields firstProof,signedFields_accepted rfl⟩

def secondProof : HealthDecisionProofV1 sampleProofFunctions :=
  ⟨windowProofFields 2 (some zeroSha256) secondState secondObservation secondDecision,
    by decide +kernel⟩

/-- The signed proof of the second window. -/
def secondSigned : SignedHealthDecisionProofV1 sampleProofFunctions :=
  ⟨signedFields secondProof,signedFields_accepted rfl⟩

def samplePorts (time : UtcSecond) (signed : SignedHealthDecisionProofV1 sampleProofFunctions) :
    VerifierPorts sampleProofFunctions where
  now := some time
  provider := sampleProvider
  clock := some time
  verify := fun _ => true
  attest := fun _ => some signed

theorem makeState_self (state : HealthEvaluationStateV1) : makeState state.fields=.ok state :=
  dif_pos state.accepted

theorem makeProof_self {functions : HealthProofFunctions} (proof : HealthDecisionProofV1 functions) :
    makeProof functions proof.fields=.ok proof := dif_pos proof.accepted

theorem firstSigned_attested : evaluateAndAttest sampleProofFunctions sampleService
    (samplePorts (sampleSecond 270 (by omega)) firstSigned) none=.ok firstSigned := by
  have hcollected := (exists_collected firstFields_collected).choose_spec.choose_spec
  have hdecided := (exists_decided firstFields_decided).choose_spec
  refine @evaluateAndAttest_ok sampleProofFunctions none firstObservation ⟨firstState,1,none⟩
    firstProof sampleService _ (sampleSecond 270 (by omega)) (sampleSecond 270 (by omega)) firstSigned
    rfl ?_ (by decide) rfl (by decide) (collect_of_sorted hcollected) ?_ (fun _ => rfl) rfl rfl rfl
  · exact bind_of_ok (mapError_eq_ok.mpr (makeState_self firstState))
  · refine pendingRequest_ok hdecided (makeProof_self firstProof) ?_ ?_ ?_
    · exact require_of ⟨rfl,rfl⟩
    · exact makeState_self firstState
    · exact require_of ⟨rfl,rfl⟩

theorem secondSigned_attested : evaluateAndAttest sampleProofFunctions sampleService
    (samplePorts (sampleSecond 510 (by omega)) secondSigned) (some firstSigned)=
      .ok secondSigned := by
  have hcollected := (exists_collected secondFields_collected).choose_spec.choose_spec
  have hdecided := (exists_decided secondFields_decided).choose_spec
  refine @evaluateAndAttest_ok sampleProofFunctions (some firstSigned) secondObservation
    ⟨secondState,2,some zeroSha256⟩ secondProof sampleService _ (sampleSecond 510 (by omega))
    (sampleSecond 330 (by omega)) secondSigned rfl ?_ (by decide) rfl (by decide)
    (collect_of_sorted hcollected) ?_ (fun _ => rfl) rfl rfl rfl
  · refine (bind_of_ok (require_of ⟨rfl,rfl,rfl⟩)).trans ?_
    refine (bind_of_ok (require_of rfl)).trans ?_
    refine (bind_of_ok (rfl : requireSome _ _=.ok (sampleSecond 330 (by omega)))).trans ?_
    refine (bind_of_ok (require_of (by decide))).trans ?_
    refine (bind_of_ok (mapError_eq_ok.mpr (?_ : _=Except.ok secondState))).trans rfl
    refine (bind_of_ok (require_of rfl)).trans ((bind_of_ok (require_of rfl)).trans ?_)
    exact (bind_of_ok (require_of (by decide))).trans (makeState_self secondState)
  · refine pendingRequest_ok hdecided (makeProof_self secondProof) ?_ ?_ ?_
    · exact require_of ⟨rfl,rfl,rfl,rfl,rfl,by decide⟩
    · exact makeState_self secondState
    · rfl

theorem firstChain_created : ∃ chain,createSignedHealthDecisionChain sampleProofFunctions sampleAnchor
    [firstSigned]=.ok chain := by
  have hfacts : GrownFacts sampleAnchor [] := grownFacts .nil
  have hattested := evaluateAndAttest_spec firstSigned_attested
  obtain ⟨hlinks,hlength⟩ := hfacts.link hattested ⟨fun first hfirst second hsecond _ =>
    (List.mem_singleton.mp hfirst).trans (List.mem_singleton.mp hsecond).symm,
    fun first hfirst second hsecond _ =>
      congrArg _ ((List.mem_singleton.mp hfirst).trans (List.mem_singleton.mp hsecond).symm)⟩
  obtain ⟨deadline,hdeadline,-⟩ := deadline_ok firstSigned
  exact (createChain_iff hlength hlinks hdeadline).mpr fun h => nomatch h.1

theorem firstSigned_grown : Grown sampleAnchor [firstSigned] := by
  obtain ⟨chain,hchain⟩ := firstChain_created
  exact @Grown.grow _ sampleAnchor [] sampleService _ _ chain .nil rfl firstSigned_attested hchain

/-- The first attested proof extends the empty chain. -/
theorem attested_proof_extends_first : ∃ chain manifest,
    createSignedHealthDecisionChain sampleProofFunctions sampleAnchor [firstSigned]=.ok chain ∧
      createHealthChainManifest sampleProofFunctions chain=.ok manifest := by
  have hcollision : NoCollision sampleService.anchor ([]++[firstSigned]) :=
    ⟨fun first hfirst second hsecond _ =>
      (List.mem_singleton.mp hfirst).trans (List.mem_singleton.mp hsecond).symm,
    fun first hfirst second hsecond _ =>
      congrArg _ ((List.mem_singleton.mp hfirst).trans (List.mem_singleton.mp hsecond).symm)⟩
  exact (attested_proof_extends sampleProofFunctions sampleService
    (samplePorts (sampleSecond 270 (by omega)) firstSigned) [] firstSigned .nil firstSigned_attested
    hcollision).mpr fun h => h.1.elim fun _ hnone => nomatch hnone.1

/-- A second healthy window that is observed at its deadline has no chain. -/
theorem healthy_at_deadline_refused : ¬∀ (functions : HealthProofFunctions)
    (service : VerifierHealthProofService functions) (ports : VerifierPorts functions)
    (proofs : List (SignedHealthDecisionProofV1 functions))
    (signed : SignedHealthDecisionProofV1 functions),Grown service.anchor proofs →
    evaluateAndAttest functions service ports proofs.getLast?=.ok signed →
    NoCollision service.anchor (proofs++[signed]) →
    ∃ chain manifest,createSignedHealthDecisionChain functions service.anchor (proofs++[signed])=
      .ok chain ∧ createHealthChainManifest functions chain=.ok manifest := by
  intro hall
  have hcollision : NoCollision sampleAnchor [firstSigned,secondSigned] := by
    constructor
    · intro first hfirst second hsecond hsame
      rcases List.mem_pair.mp hfirst with rfl | rfl <;> rcases List.mem_pair.mp hsecond with rfl | rfl
      · rfl
      · exact absurd hsame (by decide +kernel)
      · exact absurd hsame (by decide +kernel)
      · rfl
    · intro first hfirst second hsecond hsame
      rcases List.mem_pair.mp hfirst with rfl | rfl <;> rcases List.mem_pair.mp hsecond with rfl | rfl
      · rfl
      · exact absurd hsame (by decide +kernel)
      · exact absurd hsame (by decide +kernel)
      · rfl
  obtain ⟨chain,-,hchain,-⟩ := hall sampleProofFunctions sampleService
    (samplePorts (sampleSecond 510 (by omega)) secondSigned) [firstSigned] secondSigned
    firstSigned_grown secondSigned_attested hcollision
  have hfacts := (grownFacts firstSigned_grown).link (evaluateAndAttest_spec secondSigned_attested)
    hcollision
  obtain ⟨deadline,hdeadline,hseconds⟩ := deadline_ok secondSigned
  refine (createChain_iff hfacts.2 hfacts.1 hdeadline).mp ⟨chain,hchain⟩ ⟨rfl,?_⟩
  rw [hseconds]
  decide

end ControlGraph.HealthChains
