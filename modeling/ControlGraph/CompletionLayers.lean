import ControlGraph.CompletionClassification

/-!
# What completes a claim

A promotion or a recovery is complete when three layers hold: the receipt, the facts of the
configuration and the samples of the probe. Each layer is said here of what was
observed, without the verdicts that the attestations carry. A valid attestation
carries the verdict of its own facts, so on a valid bundle the classifier agrees with the
layers, and its own result is always accepted.
-/

namespace ControlGraph.CompletionLayers

open Checks CanonicalCodec ContractText ReceiptContracts VerificationContracts VerificationRules
  CompletionClassification

/-- Percentage of a revision, where a revision that is not named has none. -/
def share (allocations : List TrafficAllocation) (revision : CloudRunName) : Nat :=
  ((allocations.filter fun allocation => allocation.revision=revision).map
    fun allocation => allocation.percent.1).sum

/-- Traffic that goes to the two revisions of a request, in its percentages. -/
structure TrafficHolds (request : VerificationRequestV1) (allocations : List TrafficAllocation) :
    Prop where
  named : ∀ allocation∈allocations,allocation.revision=request.stable_revision ∨
    allocation.revision=request.candidate_revision
  stable : share allocations request.stable_revision=request.stable_percent.1
  candidate : share allocations request.candidate_revision=request.candidate_percent.1

/-- Facts of the configuration that are those of a request. -/
structure FactsHold (request : VerificationRequestV1) (facts : ConfigurationObservationFactsV1) :
    Prop where
  target : facts.target=request.target
  window : timestampInWindow facts.retrieved_at request
  ready : facts.ready_state=.ready
  /-- It does not reconcile. -/
  settled : facts.reconciling=false
  generation : facts.source_generation.1=facts.observed_generation.1
  revisions : revisionsMatch request facts
  traffic : TrafficHolds request facts.traffic
  statuses : TrafficHolds request facts.traffic_statuses
  concurrency : facts.concurrency.1=request.concurrency.1
  digests : digestsMatch request facts

/-- Samples that were all answered, within the bounds of a request. -/
structure SamplesHold (request : VerificationRequestV1) (samples : List ProbeSampleObservationV1) :
    Prop where
  answered : ∀ sample∈samples,isSuccessful sample.outcome=true
  distributed : ∃ stable_minimum stable_maximum candidate_minimum candidate_maximum,
    probeDistributionBounds request.stable_percent.1 request.candidate_percent.1=
      .ok (stable_minimum,stable_maximum,candidate_minimum,candidate_maximum) ∧
    stable_minimum.1 ≤ outcomeCount samples .stable ∧
    outcomeCount samples .stable ≤ stable_maximum.1 ∧
    candidate_minimum.1 ≤ outcomeCount samples .candidate ∧
    outcomeCount samples .candidate ≤ candidate_maximum.1

def ConfigurationHolds (bundle : CompletionEvidenceBundleV1) : Prop :=
  ∃ evidence∈bundle.configuration,∃ attestation∈evidence.signing_request.configuration,
    ∃ observation∈attestation.observation,attestation.request=bundle.request.verification ∧
      FactsHold bundle.request.verification observation.facts ∧
      evidence.verified_at.1 ≤ bundle.request.assessed_at.1

def ProbeHolds (bundle : CompletionEvidenceBundleV1) : Prop :=
  ∃ evidence∈bundle.probe,∃ attestation∈evidence.signing_request.probe,
    attestation.request.verification=bundle.request.verification ∧
      SamplesHold bundle.request.verification attestation.observation.samples.1 ∧
      evidence.verified_at.1 ≤ bundle.request.assessed_at.1

/-- The receipt layer: a bound receipt of the action of the claim is verified. -/
def ReceiptHolds (bundle : CompletionEvidenceBundleV1) : Prop :=
  ∃ execution∈bundle.execution,executionBinds bundle.request execution ∧
    execution.action=expectedAction bundle.request.kind ∧ execution.outcome=.verified

/-- The evidence that completes a claim. -/
def Completes (bundle : CompletionEvidenceBundleV1) : Prop :=
  ¬assessmentIsStale bundle ∧ match bundle.request.kind with
  | .promotion => ReceiptHolds bundle ∧ ConfigurationHolds bundle ∧ ProbeHolds bundle
  | .recovery => ReceiptHolds bundle ∧ ConfigurationHolds bundle ∧ ProbeHolds bundle
  | .revocation =>
    (∀ execution∈bundle.execution,execution.outcome≠.ambiguous ∧
      executionBinds bundle.request execution) ∧
    ∃ authority∈bundle.authority,authorityMatches bundle .revocation authority
  | .staleCapabilityDenial =>
    (∃ execution∈bundle.execution,executionBinds bundle.request execution ∧
      deniesStaleCapability execution) ∧
    ∃ authority∈bundle.authority,authorityMatches bundle .epochAdvancement authority

section

variable {request : VerificationRequestV1} {allocations : List TrafficAllocation}
  {revision : CloudRunName}

/-- Where no revision is named twice, the last allocation of a revision is its only one. -/
theorem share_eq_observed (hnodup : (allocations.map fun item => item.revision).Nodup) :
    share allocations revision=(observedPercent allocations revision).getD 0 := by
  have hreverse : share allocations revision=share allocations.reverse revision := by
    unfold share
    exact (((List.reverse_perm allocations).symm.filter _).map _).sum_eq
  have hunique : (allocations.reverse.map fun item => item.revision).Nodup := by
    rw [List.map_reverse,List.nodup_reverse]
    exact hnodup
  rw [hreverse,observedPercent]
  generalize allocations.reverse=reversed at hunique ⊢
  induction reversed with
  | nil => rfl
  | cons allocation rest ih =>
    rw [List.map_cons,List.nodup_cons] at hunique
    by_cases hsame : allocation.revision=revision
    · have hrest : rest.filter (fun item => item.revision=revision)=[] := by
        rw [List.filter_eq_nil_iff]
        intro item hitem hfound
        have hrevision : item.revision=allocation.revision :=
          (of_decide_eq_true hfound).trans hsame.symm
        exact hunique.1 (hrevision ▸ List.mem_map_of_mem hitem)
      have hfind : (allocation::rest).find? (fun item => item.revision=revision)=some allocation :=
        List.find?_cons_of_pos (by simpa using hsame)
      rw [share,List.filter_cons_of_pos (by simpa using hsame),hrest,hfind]
      simp
    · have hfind : (allocation::rest).find? (fun item => item.revision=revision)=
          rest.find? (fun item => item.revision=revision) :=
        List.find?_cons_of_neg (by simpa using hsame)
      rw [share,List.filter_cons_of_neg (by simpa using hsame),hfind]
      exact ih hunique.2

/-- The traffic test of the source, where no revision is named twice. -/
theorem trafficMatches_iff (hnodup : (allocations.map fun item => item.revision).Nodup) :
    trafficMatchesExpected allocations request ↔ TrafficHolds request allocations := by
  rw [trafficMatchesExpected,← share_eq_observed hnodup,← share_eq_observed hnodup]
  constructor
  · rintro ⟨hnamed,hstable,hcandidate⟩
    exact ⟨hnamed,hstable,hcandidate⟩
  · intro h
    exact ⟨h.named,h.stable,h.candidate⟩

theorem configurationReason_matched {facts : ConfigurationObservationFactsV1} :
    configurationAttestationReason request facts=.matched ↔ facts.reconciling=false ∧
      facts.ready_state=.ready ∧ facts.source_generation.1=facts.observed_generation.1 ∧
      revisionsMatch request facts ∧ trafficMatchesExpected facts.traffic request ∧
      trafficMatchesExpected facts.traffic_statuses request ∧
      facts.concurrency.1=request.concurrency.1 ∧ digestsMatch request facts := by
  unfold configurationAttestationReason
  split_ifs with hreconciling hready hgeneration hrevisions htraffic hconcurrency hdigests <;>
    grind

theorem probeReason_matched {policy : ProbePolicyV1} {observation : ProbeObservationV1} :
    probeAttestationReason policy observation=.matched ↔ observation.unavailable_count.1=0 ∧
      observation.invalid_count.1=0 ∧ countsWithin policy observation := by
  unfold probeAttestationReason
  split_ifs with hunavailable hinvalid hcounts <;> grind

end

section

variable {functions : VerificationFunctions}

theorem requireResultBound_eq_ok {evidence : IndependentVerificationEvidenceV1}
    {kind : IndependentVerificationKind} {verification : VerificationRequestV1}
    {verdict : IndependentVerificationVerdict} {reason : String} {occurred_at : UtcSecond}
    {subject : Except CodecRaised Sha256Digest}
    (h : requireResultBound functions evidence kind verification verdict reason occurred_at
      subject=.ok ()) :
    evidence.kind=kind ∧
      verificationSha256 functions verification=.ok evidence.verification_request_sha256 ∧
      evidenceBinds evidence verification ∧
      evidence.verifier_identity.1=RootContracts.verifierIdentity verification.target ∧
      evidence.reason_code.1=reason := by
  unfold requireResultBound at h
  obtain ⟨subject_sha256,-,h⟩ := bind_eq_ok.mp h
  obtain ⟨request_sha256,hrequest,h⟩ := bind_eq_ok.mp h
  rw [mapError_eq_ok] at hrequest
  obtain ⟨hkind,hsame,hbinds,-,-,hreason,hverifier,-⟩ := require_eq_ok.mp h
  rw [hsame]
  exact ⟨hkind,hrequest,hbinds,hverifier,hreason⟩

/-- A configuration attestation matches exactly when it observed facts that hold. -/
theorem matched_of_configuration {attestation : ConfigurationAttestationV1}
    (h : validateConfiguration functions attestation=.ok ()) :
    attestation.status=.matched ↔
      ∃ observation∈attestation.observation,FactsHold attestation.request observation.facts := by
  unfold validateConfiguration at h
  obtain ⟨-,h⟩ := check_bind_eq_ok.mp h
  obtain ⟨hobserved,h⟩ := check_bind_eq_ok.mp h
  obtain ⟨expected,-,h⟩ := bind_eq_ok.mp h
  obtain ⟨-,h⟩ := check_bind_eq_ok.mp h
  unfold requireConfigurationResult at h
  cases hobservation : attestation.observation with
  | none =>
    rw [hobservation] at h
    obtain ⟨hstatus,-⟩ := require_eq_ok.mp h
    rw [hstatus]
    constructor
    · intro hmatched
      cases hmatched
    · rintro ⟨observation,hmem,-⟩
      cases hmem
  | some observation =>
    rw [hobservation] at h hobserved
    obtain ⟨htarget,-,hwindow,-,hstatus⟩ := require_eq_ok.mp h
    unfold validateObserved validateDigest validateFacts at hobserved
    simp only [check_bind_eq_ok,require_eq_ok] at hobserved
    obtain ⟨⟨-,htraffic,hstatuses,-⟩,-⟩ := hobserved
    have hreason : attestation.status=.matched ↔
        configurationAttestationReason attestation.request observation.facts=.matched := by
      rw [hstatus,configurationStatus]
      split_ifs with hsame
      · simp only [hsame]
      · simp only [hsame,reduceCtorEq]
    rw [hreason,configurationReason_matched,trafficMatches_iff htraffic,trafficMatches_iff hstatuses]
    constructor
    · rintro ⟨hsettled,hready,hgeneration,hrevisions,hconfigured,hserved,hconcurrency,hdigests⟩
      exact ⟨observation,rfl,htarget,hwindow,hready,hsettled,hgeneration,hrevisions,hconfigured,
        hserved,hconcurrency,hdigests⟩
    · rintro ⟨other,hmem,hholds⟩
      cases Option.some.inj hmem
      exact ⟨hholds.settled,hholds.ready,hholds.generation,hholds.revisions,hholds.traffic,
        hholds.statuses,hholds.concurrency,hholds.digests⟩

theorem matched_of_probe {attestation : ProbeAttestationV1}
    (h : validateProbeAttestation functions attestation=.ok ()) :
    attestation.status=.matched ↔
      SamplesHold attestation.request.verification attestation.observation.samples.1 := by
  unfold validateProbeAttestation at h
  obtain ⟨hprobe,h⟩ := check_bind_eq_ok.mp h
  obtain ⟨hobservation,h⟩ := check_bind_eq_ok.mp h
  obtain ⟨expected,-,h⟩ := bind_eq_ok.mp h
  obtain ⟨-,-,-,hstatus,-⟩ := require_eq_ok.mp h
  unfold validateProbe at hprobe
  obtain ⟨-,hprobe⟩ := check_bind_eq_ok.mp hprobe
  obtain ⟨-,hprobe⟩ := check_bind_eq_ok.mp hprobe
  obtain ⟨parsed,-,hprobe⟩ := bind_eq_ok.mp hprobe
  obtain ⟨bounds,hbounds,hprobe⟩ := bind_eq_ok.mp hprobe
  obtain ⟨policy_sha256,-,hprobe⟩ := bind_eq_ok.mp hprobe
  obtain ⟨-,-,-,hpolicy,-⟩ := require_eq_ok.mp hprobe
  unfold validateObservation at hobservation
  obtain ⟨-,hobservation⟩ := check_bind_eq_ok.mp hobservation
  obtain ⟨digest,-,hobservation⟩ := bind_eq_ok.mp hobservation
  obtain ⟨hstable,hcandidate,hinvalid,hunavailable,-⟩ := require_eq_ok.mp hobservation
  have hreason : attestation.status=.matched ↔
      probeAttestationReason attestation.request.policy attestation.observation=.matched := by
    rw [hstatus,probeStatus]
    split_ifs with hsame
    · simp only [hsame]
    · simp only [hsame,reduceCtorEq]
  have hanswered : (attestation.observation.unavailable_count.1=0 ∧
      attestation.observation.invalid_count.1=0) ↔
      ∀ sample∈attestation.observation.samples.1,isSuccessful sample.outcome=true := by
    rw [hinvalid,hunavailable,outcomeCount,outcomeCount,List.count_eq_zero,List.count_eq_zero,
      List.mem_map,List.mem_map]
    constructor
    · rintro ⟨hnone,hvalid⟩ sample hsample
      cases houtcome : sample.outcome with
      | stable => rfl
      | candidate => rfl
      | responseInvalid => exact absurd ⟨sample,hsample,houtcome⟩ hvalid
      | transportUnavailable => exact absurd ⟨sample,hsample,houtcome⟩ hnone
    · intro hall
      constructor
      · rintro ⟨sample,hsample,houtcome⟩
        have hsuccess := hall sample hsample
        rw [houtcome] at hsuccess
        cases hsuccess
      · rintro ⟨sample,hsample,houtcome⟩
        have hsuccess := hall sample hsample
        rw [houtcome] at hsuccess
        cases hsuccess
  rw [hreason,probeReason_matched,← and_assoc,hanswered,countsWithin,hstable,hcandidate]
  constructor
  · rintro ⟨hall,⟨hlow,hhigh⟩,hleast,hmost⟩
    refine ⟨hall,_,_,_,_,hpolicy ▸ hbounds,hlow,hhigh,hleast,hmost⟩
  · rintro ⟨hall,stable_minimum,stable_maximum,candidate_minimum,candidate_maximum,hgiven,hlow,hhigh,
      hleast,hmost⟩
    rw [hbounds,← hpolicy] at hgiven
    cases Except.ok.inj hgiven
    exact ⟨hall,⟨hlow,hhigh⟩,hleast,hmost⟩

/-- Verified evidence of a kind carries a valid result of that kind, and is about a
verification exactly when the result is. -/
theorem evidenceMatches_eq {evidence : VerifiedIndependentVerificationEvidenceV1}
    {bundle : CompletionEvidenceBundleV1} {kind : IndependentVerificationKind}
    {verification : VerificationRequestV1} {reason : String}
    (hsame : evidence.signed_evidence.evidence=evidence.signing_request.evidence)
    (hrequest : boundRequest evidence.signing_request kind=some verification)
    (hbound : evidence.signing_request.evidence.kind=kind ∧
      verificationSha256 functions verification=
        .ok evidence.signing_request.evidence.verification_request_sha256 ∧
      evidenceBinds evidence.signing_request.evidence verification ∧
      evidence.signing_request.evidence.verifier_identity.1=
        RootContracts.verifierIdentity verification.target ∧
      evidence.signing_request.evidence.reason_code.1=reason) :
    evidenceMatches functions evidence bundle kind=
      .ok (decide (verification=bundle.request.verification)) := by
  obtain ⟨hkind,hdigest,hbinds,hverifier,-⟩ := hbound
  unfold evidenceMatches
  by_cases hverification : verification=bundle.request.verification
  · have hcheck : boundRequest evidence.signing_request kind=some bundle.request.verification ∧
        evidence.signed_evidence.evidence=evidence.signing_request.evidence ∧
        evidence.signed_evidence.evidence.kind=kind := by
      rw [hsame,hrequest,hverification]
      exact ⟨rfl,rfl,hkind⟩
    rw [hverification] at hdigest hbinds hverifier
    have hbinding : evidence.signed_evidence.evidence.verification_request_sha256=
          evidence.signing_request.evidence.verification_request_sha256 ∧
        evidenceBinds evidence.signed_evidence.evidence bundle.request.verification ∧
        evidence.signed_evidence.evidence.verifier_identity.1=
          RootContracts.verifierIdentity bundle.request.verification.target := by
      rw [hsame]
      exact ⟨rfl,hbinds,hverifier⟩
    refine (if_pos hcheck).trans ((bind_of_ok hdigest).trans ?_)
    rw [decide_eq_true hverification]
    exact congrArg Except.ok (decide_eq_true hbinding)
  · have hcheck : ¬(boundRequest evidence.signing_request kind=some bundle.request.verification ∧
        evidence.signed_evidence.evidence=evidence.signing_request.evidence ∧
        evidence.signed_evidence.evidence.kind=kind) := by
      rintro ⟨hother,-⟩
      rw [hrequest] at hother
      exact hverification (Option.some.inj hother)
    rw [decide_eq_false hverification]
    exact if_neg hcheck

/-- What a valid verified configuration result carries. -/
theorem configuration_of_verified {evidence : VerifiedIndependentVerificationEvidenceV1}
    (h : validateVerifiedEvidence functions evidence=.ok ())
    (hkind : evidence.signing_request.evidence.kind=.configuration)
    (bundle : CompletionEvidenceBundleV1) :
    ∃ attestation,evidence.signing_request.configuration=some attestation ∧
      validateConfiguration functions attestation=.ok () ∧
      evidenceMatches functions evidence bundle .configuration=
        .ok (decide (attestation.request=bundle.request.verification)) := by
  unfold validateVerifiedEvidence at h
  obtain ⟨hrequest,h⟩ := check_bind_eq_ok.mp h
  obtain ⟨-,h⟩ := check_bind_eq_ok.mp h
  obtain ⟨hsame,-⟩ := require_eq_ok.mp h
  unfold validateSigningRequest at hrequest
  split at hrequest
  · rename_i attestation hconfiguration hprobe
    obtain ⟨hvalid,hbound⟩ := check_bind_eq_ok.mp hrequest
    refine ⟨attestation,hconfiguration,hvalid,?_⟩
    refine evidenceMatches_eq hsame ?_ (requireResultBound_eq_ok hbound)
    rw [boundRequest,hconfiguration,Option.map_some]
  · obtain ⟨-,hbound⟩ := check_bind_eq_ok.mp hrequest
    have hother := (requireResultBound_eq_ok hbound).1
    rw [hkind] at hother
    cases hother
  · cases hrequest

theorem probe_of_verified {evidence : VerifiedIndependentVerificationEvidenceV1}
    (h : validateVerifiedEvidence functions evidence=.ok ())
    (hkind : evidence.signing_request.evidence.kind=.probe) (bundle : CompletionEvidenceBundleV1) :
    ∃ attestation,evidence.signing_request.probe=some attestation ∧
      validateProbeAttestation functions attestation=.ok () ∧
      evidenceMatches functions evidence bundle .probe=
        .ok (decide (attestation.request.verification=bundle.request.verification)) := by
  unfold validateVerifiedEvidence at h
  obtain ⟨hrequest,h⟩ := check_bind_eq_ok.mp h
  obtain ⟨-,h⟩ := check_bind_eq_ok.mp h
  obtain ⟨hsame,-⟩ := require_eq_ok.mp h
  unfold validateSigningRequest at hrequest
  split at hrequest
  · obtain ⟨-,hbound⟩ := check_bind_eq_ok.mp hrequest
    have hother := (requireResultBound_eq_ok hbound).1
    rw [hkind] at hother
    cases hother
  · rename_i attestation hconfiguration hprobe
    obtain ⟨hvalid,hbound⟩ := check_bind_eq_ok.mp hrequest
    refine ⟨attestation,hprobe,hvalid,?_⟩
    refine evidenceMatches_eq hsame ?_ (requireResultBound_eq_ok hbound)
    rw [boundRequest,hprobe,Option.map_some]
  · cases hrequest

variable {bundle : CompletionEvidenceBundleV1}

/-- The configuration layer is read without an error, and gives no reason exactly when it holds
and the assessment is in time. -/
theorem configurationReason_eq
    (hvalid : whenPresent (validateVerifiedEvidence functions) bundle.configuration=.ok ())
    (hkind : ∀ evidence∈bundle.configuration,
      evidence.signing_request.evidence.kind=.configuration) :
    ∃ reason,configurationReason functions bundle=.ok reason ∧ reason∉completeReasons.map some ∧
      (¬assessmentIsStale bundle → (reason=none ↔ ConfigurationHolds bundle)) := by
  unfold configurationReason
  cases hconfiguration : bundle.configuration with
  | none =>
    refine ⟨_,rfl,by decide,fun _ => ?_⟩
    rw [ConfigurationHolds,hconfiguration]
    simp
  | some evidence =>
    rw [hconfiguration] at hvalid
    obtain ⟨attestation,hattestation,hattested,hmatches⟩ :=
      configuration_of_verified hvalid (hkind evidence hconfiguration) bundle
    have hholds : ConfigurationHolds bundle ↔ attestation.request=bundle.request.verification ∧
        attestation.status=.matched ∧ evidence.verified_at.1 ≤ bundle.request.assessed_at.1 := by
      rw [matched_of_configuration hattested,ConfigurationHolds,hconfiguration]
      constructor
      · rintro ⟨_,hevidence,_,hmem,observation,hobserved,hrequest,hfacts,htime⟩
        cases Option.some.inj hevidence
        rw [hattestation] at hmem
        cases Option.some.inj hmem
        exact ⟨hrequest,⟨observation,hobserved,hrequest ▸ hfacts⟩,htime⟩
      · rintro ⟨hrequest,⟨observation,hobserved,hfacts⟩,htime⟩
        exact ⟨evidence,rfl,attestation,hattestation,observation,hobserved,hrequest,hrequest ▸ hfacts,
          htime⟩
    simp only [bind_of_ok hmatches,hattestation,hholds]
    by_cases hrequest : attestation.request=bundle.request.verification
    · rw [if_neg (by simp [hrequest])]
      by_cases hstale : evidenceIsStale evidence bundle
      · rw [if_pos hstale]
        refine ⟨_,rfl,by decide,fun htimely => ?_⟩
        have hlate := hstale.resolve_right htimely
        simp only [reduceCtorEq,false_iff,not_and]
        intro _ _
        omega
      · rw [if_neg hstale]
        have htime : evidence.verified_at.1 ≤ bundle.request.assessed_at.1 := by
          unfold evidenceIsStale at hstale
          omega
        cases hstatus : attestation.status with
        | matched => exact ⟨_,rfl,by decide,fun _ => by simp [hrequest,htime]⟩
        | mismatch => exact ⟨_,rfl,by decide,fun _ => by simp⟩
        | unavailable => exact ⟨_,rfl,by decide,fun _ => by simp⟩
    · rw [if_pos (by simp [hrequest])]
      exact ⟨_,rfl,by decide,fun _ => by simp [hrequest]⟩

/-- The probe layer is read without an error, and gives no reason exactly when it holds and the
assessment is in time. -/
theorem probeReason_eq
    (hvalid : whenPresent (validateVerifiedEvidence functions) bundle.probe=.ok ())
    (hkind : ∀ evidence∈bundle.probe,evidence.signing_request.evidence.kind=.probe) :
    ∃ reason,probeReason functions bundle=.ok reason ∧ reason∉completeReasons.map some ∧
      (¬assessmentIsStale bundle → (reason=none ↔ ProbeHolds bundle)) := by
  unfold probeReason
  cases hprobe : bundle.probe with
  | none =>
    refine ⟨_,rfl,by decide,fun _ => ?_⟩
    rw [ProbeHolds,hprobe]
    simp
  | some evidence =>
    rw [hprobe] at hvalid
    obtain ⟨attestation,hattestation,hattested,hmatches⟩ :=
      probe_of_verified hvalid (hkind evidence hprobe) bundle
    have hholds : ProbeHolds bundle ↔
        attestation.request.verification=bundle.request.verification ∧
        attestation.status=.matched ∧ evidence.verified_at.1 ≤ bundle.request.assessed_at.1 := by
      rw [matched_of_probe hattested,ProbeHolds,hprobe]
      constructor
      · rintro ⟨_,hevidence,_,hmem,hrequest,hsamples,htime⟩
        cases Option.some.inj hevidence
        rw [hattestation] at hmem
        cases Option.some.inj hmem
        exact ⟨hrequest,hrequest ▸ hsamples,htime⟩
      · rintro ⟨hrequest,hsamples,htime⟩
        exact ⟨evidence,rfl,attestation,hattestation,hrequest,hrequest ▸ hsamples,htime⟩
    simp only [bind_of_ok hmatches,hattestation,hholds]
    by_cases hrequest : attestation.request.verification=bundle.request.verification
    · rw [if_neg (by simp [hrequest])]
      by_cases hstale : evidenceIsStale evidence bundle
      · rw [if_pos hstale]
        refine ⟨_,rfl,by decide,fun htimely => ?_⟩
        have hlate := hstale.resolve_right htimely
        simp only [reduceCtorEq,false_iff,not_and]
        intro _ _
        omega
      · rw [if_neg hstale]
        have htime : evidence.verified_at.1 ≤ bundle.request.assessed_at.1 := by
          unfold evidenceIsStale at hstale
          omega
        cases hstatus : attestation.status with
        | matched => exact ⟨_,rfl,by decide,fun _ => by simp [hrequest,htime]⟩
        | inconclusive =>
          dsimp only
          split_ifs
          · exact ⟨_,rfl,by decide,fun _ => by simp⟩
          · exact ⟨_,rfl,by decide,fun _ => by simp⟩
    · rw [if_pos (by simp [hrequest])]
      exact ⟨_,rfl,by decide,fun _ => by simp [hrequest]⟩

/-- What a valid bundle holds. -/
structure ValidBundle (functions : VerificationFunctions) (bundle : CompletionEvidenceBundleV1) :
    Prop where
  request : validateAssessment functions bundle.request=.ok ()
  execution : whenPresent validateReceiptFacts bundle.execution=.ok ()
  configuration : whenPresent (validateVerifiedEvidence functions) bundle.configuration=.ok ()
  probe : whenPresent (validateVerifiedEvidence functions) bundle.probe=.ok ()
  authority : whenPresent validateAuthorityFact bundle.authority=.ok ()
  configuration_kind : ∀ evidence∈bundle.configuration,
    evidence.signing_request.evidence.kind=.configuration
  probe_kind : ∀ evidence∈bundle.probe,evidence.signing_request.evidence.kind=.probe

/-- A bundle is valid when its parts are and are in their places. -/
theorem validateBundle_eq_ok :
    validateBundle functions bundle=.ok () ↔ ValidBundle functions bundle := by
  simp only [validateBundle,check_bind_eq_ok,require_eq_ok]
  constructor
  · rintro ⟨hrequest,hexecution,hconfiguration,hprobe,hauthority,hplace,hplaced⟩
    exact ⟨hrequest,hexecution,hconfiguration,hprobe,hauthority,hplace,hplaced⟩
  · intro h
    exact ⟨h.request,h.execution,h.configuration,h.probe,h.authority,h.configuration_kind,
      h.probe_kind⟩

/-- The layers of a promotion or of a recovery are read without an error, and complete it exactly
when all of them hold in time. -/
theorem rolloutReason_eq (h : ValidBundle functions bundle)
    (hkind : bundle.request.kind=.promotion ∨ bundle.request.kind=.recovery)
    (hbinds : ∀ execution∈bundle.execution,executionBinds bundle.request execution) :
    ∃ reason,rolloutReason functions bundle=.ok reason ∧
      (reason∈completeReasons → reason=completeReason bundle.request.kind) ∧
      (reason∈completeReasons ↔ ¬assessmentIsStale bundle ∧ ReceiptHolds bundle ∧
        ConfigurationHolds bundle ∧ ProbeHolds bundle) := by
  unfold rolloutReason
  cases hexecution : bundle.execution with
  | none =>
    refine ⟨_,rfl,fun hmem => absurd hmem (by decide),?_⟩
    have hmissing : ¬ReceiptHolds bundle := by
      rintro ⟨execution,hmem,-⟩
      rw [hexecution] at hmem
      cases hmem
    exact iff_of_false (by decide) fun hall => hmissing hall.2.1
  | some execution =>
    have hfacts : validateReceiptFacts execution=.ok () := by
      have hpresent := h.execution
      rw [hexecution] at hpresent
      exact hpresent
    obtain ⟨-,-,hneeds,-⟩ := require_eq_ok.mp hfacts
    have hreceipt : ReceiptHolds bundle ↔ execution.action=expectedAction bundle.request.kind ∧
        execution.outcome=.verified ∧ execution.reason_code=none := by
      rw [ReceiptHolds,hexecution]
      constructor
      · rintro ⟨_,hmem,-,haction,hverified⟩
        cases Option.some.inj hmem
        rw [hverified] at hneeds
        exact ⟨haction,hverified,Option.isNone_iff_eq_none.mp (by
          rw [← Option.not_isSome,← hneeds]
          rfl)⟩
      · rintro ⟨haction,hverified,-⟩
        exact ⟨execution,rfl,hbinds execution hexecution,haction,hverified⟩
    dsimp only
    by_cases hverified : execution.action=expectedAction bundle.request.kind ∧
        execution.outcome=.verified ∧ execution.reason_code=none
    · rw [if_neg (not_not_intro hverified)]
      have hholds := hreceipt.mpr hverified
      by_cases hstale : assessmentIsStale bundle
      · rw [if_pos hstale]
        exact ⟨_,rfl,fun hmem => absurd hmem (by decide),
          iff_of_false (by decide) fun hall => hall.1 hstale⟩
      · rw [if_neg hstale]
        obtain ⟨configuration,hread,hincomplete,hiff⟩ :=
          configurationReason_eq h.configuration h.configuration_kind
        obtain ⟨probe,hprobed,hunfinished,hprobeIff⟩ := probeReason_eq h.probe h.probe_kind
        rw [bind_of_ok hread]
        cases configuration with
        | some reason =>
          have hnot : reason∉completeReasons :=
            fun hmem => hincomplete (List.mem_map_of_mem hmem)
          have hfails : ¬ConfigurationHolds bundle := by
            rw [← hiff hstale]
            exact Option.some_ne_none reason
          exact ⟨reason,rfl,fun hmem => absurd hmem hnot,
            iff_of_false hnot fun hall => hfails hall.2.2.1⟩
        | none =>
          have hconfiguration := (hiff hstale).mp rfl
          dsimp only
          rw [bind_of_ok hprobed]
          cases probe with
          | some reason =>
            have hnot : reason∉completeReasons :=
              fun hmem => hunfinished (List.mem_map_of_mem hmem)
            have hfails : ¬ProbeHolds bundle := by
              rw [← hprobeIff hstale]
              exact Option.some_ne_none reason
            exact ⟨reason,rfl,fun hmem => absurd hmem hnot,
              iff_of_false hnot fun hall => hfails hall.2.2.2⟩
          | none =>
            have hprobe := (hprobeIff hstale).mp rfl
            have hall : ¬assessmentIsStale bundle ∧ ReceiptHolds bundle ∧
                ConfigurationHolds bundle ∧ ProbeHolds bundle :=
              ⟨hstale,hholds,hconfiguration,hprobe⟩
            dsimp only
            rcases hkind with hpromotion | hrecovery
            · rw [if_pos hpromotion,hpromotion]
              exact ⟨_,rfl,fun _ => rfl,iff_of_true (by decide) hall⟩
            · rw [if_neg (by rw [hrecovery]; decide),hrecovery]
              exact ⟨_,rfl,fun _ => rfl,iff_of_true (by decide) hall⟩
    · rw [if_pos hverified]
      exact ⟨_,rfl,fun hmem => absurd hmem (by decide),
        iff_of_false (by decide) fun hall => hverified (hreceipt.mp hall.2.1)⟩

/-- A receipt that leaves open what was written is ambiguous. -/
theorem uncertain_iff {execution : ExecutionCompletionEvidenceV1}
    (h : validateReceiptFacts execution=.ok ()) :
    writeIsUncertain execution ↔ execution.outcome=.ambiguous := by
  obtain ⟨-,-,-,hknown,-⟩ := require_eq_ok.mp h
  rw [writeIsUncertain,← hknown,or_self]

/-- Whatever completes a claim, a receipt in the bundle is certain and bound. -/
theorem Completes.receipt (h : Completes bundle) {execution : ExecutionCompletionEvidenceV1}
    (hmem : bundle.execution=some execution) :
    execution.outcome≠.ambiguous ∧ executionBinds bundle.request execution := by
  have hrollout : ReceiptHolds bundle →
      execution.outcome≠.ambiguous ∧ executionBinds bundle.request execution := by
    rintro ⟨other,hother,hbinds,-,hverified⟩
    cases Option.some.inj (hmem.symm.trans hother)
    refine ⟨?_,hbinds⟩
    rw [hverified]
    decide
  obtain ⟨-,h⟩ := h
  cases hkind : bundle.request.kind with
  | promotion =>
    rw [hkind] at h
    exact hrollout h.1
  | recovery =>
    rw [hkind] at h
    exact hrollout h.1
  | revocation =>
    rw [hkind] at h
    exact h.1 execution hmem
  | staleCapabilityDenial =>
    rw [hkind] at h
    obtain ⟨⟨other,hother,hbinds,hdenied,-⟩,-⟩ := h
    cases Option.some.inj (hmem.symm.trans hother)
    refine ⟨?_,hbinds⟩
    rw [hdenied]
    decide

/-- A revocation is complete when its authority fact is bound, in time. -/
theorem revocationReason_eq :
    (revocationReason bundle∈completeReasons → revocationReason bundle=.revocationComplete) ∧
      (revocationReason bundle∈completeReasons ↔ ¬assessmentIsStale bundle ∧
        ∃ authority∈bundle.authority,authorityMatches bundle .revocation authority) := by
  unfold revocationReason
  cases hauthority : bundle.authority with
  | none =>
    dsimp only
    exact ⟨fun hmem => absurd hmem (by decide),by simp [completeReasons]⟩
  | some authority =>
    dsimp only
    by_cases hmatches : authorityMatches bundle .revocation authority
    · rw [if_neg (not_not_intro hmatches)]
      by_cases hstale : assessmentIsStale bundle
      · rw [if_pos hstale]
        exact ⟨fun hmem => absurd hmem (by decide),
          iff_of_false (by decide) fun hall => hall.1 hstale⟩
      · rw [if_neg hstale]
        exact ⟨fun _ => rfl,iff_of_true (by decide) ⟨hstale,authority,rfl,hmatches⟩⟩
    · rw [if_pos hmatches]
      refine ⟨fun hmem => absurd hmem (by decide),iff_of_false (by decide) ?_⟩
      rintro ⟨-,other,hother,hbound⟩
      cases Option.some.inj hother
      exact hmatches hbound

/-- The denial of a stale capability is complete when its receipt and its authority fact say so,
in time. -/
theorem staleDenialReason_eq :
    (staleDenialReason bundle∈completeReasons →
      staleDenialReason bundle=.staleCapabilityDenialComplete) ∧
      (staleDenialReason bundle∈completeReasons ↔ ¬assessmentIsStale bundle ∧
        (∃ execution∈bundle.execution,deniesStaleCapability execution) ∧
        ∃ authority∈bundle.authority,authorityMatches bundle .epochAdvancement authority) := by
  unfold staleDenialReason
  cases hauthority : bundle.authority with
  | none =>
    dsimp only
    exact ⟨fun hmem => absurd hmem (by decide),by simp [completeReasons]⟩
  | some authority =>
    dsimp only
    by_cases hmatches : authorityMatches bundle .epochAdvancement authority
    · rw [if_neg (not_not_intro hmatches)]
      cases hexecution : bundle.execution with
      | none =>
        dsimp only
        exact ⟨fun hmem => absurd hmem (by decide),by simp [completeReasons]⟩
      | some execution =>
        dsimp only
        by_cases hstale : assessmentIsStale bundle
        · rw [if_pos hstale]
          exact ⟨fun hmem => absurd hmem (by decide),
            iff_of_false (by decide) fun hall => hall.1 hstale⟩
        · rw [if_neg hstale]
          by_cases hdenies : deniesStaleCapability execution
          · rw [if_neg (not_not_intro hdenies)]
            exact ⟨fun _ => rfl,iff_of_true (by decide)
              ⟨hstale,⟨execution,rfl,hdenies⟩,authority,rfl,hmatches⟩⟩
          · rw [if_pos hdenies]
            refine ⟨fun hmem => absurd hmem (by decide),iff_of_false (by decide) ?_⟩
            rintro ⟨-,⟨other,hother,hdenied⟩,-⟩
            cases Option.some.inj hother
            exact hdenies hdenied
    · rw [if_pos hmatches]
      refine ⟨fun hmem => absurd hmem (by decide),iff_of_false (by decide) ?_⟩
      rintro ⟨-,-,other,hother,hbound⟩
      cases Option.some.inj hother
      exact hmatches hbound

/-- The classifier finds a reason on every valid bundle, and the reason completes the claim
exactly when its evidence does. -/
theorem classificationReason_eq (h : ValidBundle functions bundle) :
    ∃ reason,classificationReason functions bundle=.ok reason ∧
      (reason∈completeReasons → reason=completeReason bundle.request.kind) ∧
      (reason∈completeReasons ↔ Completes bundle) := by
  have hfacts : ∀ execution∈bundle.execution,validateReceiptFacts execution=.ok () := by
    intro execution hmem
    have hpresent := h.execution
    rw [Option.mem_def.mp hmem] at hpresent
    exact hpresent
  unfold classificationReason
  by_cases huncertain : ∃ execution∈bundle.execution,writeIsUncertain execution
  · rw [if_pos huncertain]
    refine ⟨_,rfl,fun hmem => absurd hmem (by decide),iff_of_false (by decide) fun hcompletes => ?_⟩
    obtain ⟨execution,hmem,hwrite⟩ := huncertain
    exact (hcompletes.receipt hmem).1 ((uncertain_iff (hfacts execution hmem)).mp hwrite)
  · rw [if_neg huncertain]
    have hcertain : ∀ execution∈bundle.execution,execution.outcome≠.ambiguous :=
      fun execution hmem hambiguous =>
        huncertain ⟨execution,hmem,(uncertain_iff (hfacts execution hmem)).mpr hambiguous⟩
    by_cases hunbound : ∃ execution∈bundle.execution,¬executionBinds bundle.request execution
    · rw [if_pos hunbound]
      refine ⟨_,rfl,fun hmem => absurd hmem (by decide),iff_of_false (by decide) fun hcompletes => ?_⟩
      obtain ⟨execution,hmem,hbinds⟩ := hunbound
      exact hbinds (hcompletes.receipt hmem).2
    · rw [if_neg hunbound]
      have hbinds : ∀ execution∈bundle.execution,executionBinds bundle.request execution :=
        fun execution hmem => not_not.mp fun hnot => hunbound ⟨execution,hmem,hnot⟩
      cases hkind : bundle.request.kind with
      | promotion =>
        have hrollout := rolloutReason_eq h (.inl hkind) hbinds
        rw [hkind] at hrollout
        simp only [Completes,hkind]
        exact hrollout
      | recovery =>
        have hrollout := rolloutReason_eq h (.inr hkind) hbinds
        rw [hkind] at hrollout
        simp only [Completes,hkind]
        exact hrollout
      | revocation =>
        obtain ⟨hreason,hiff⟩ := @revocationReason_eq bundle
        refine ⟨_,rfl,hreason,hiff.trans ?_⟩
        simp only [Completes,hkind]
        constructor
        · rintro ⟨hstale,hauthority⟩
          exact ⟨hstale,fun execution hmem => ⟨hcertain execution hmem,hbinds execution hmem⟩,
            hauthority⟩
        · rintro ⟨hstale,-,hauthority⟩
          exact ⟨hstale,hauthority⟩
      | staleCapabilityDenial =>
        obtain ⟨hreason,hiff⟩ := @staleDenialReason_eq bundle
        refine ⟨_,rfl,hreason,hiff.trans ?_⟩
        simp only [Completes,hkind]
        constructor
        · rintro ⟨hstale,⟨execution,hmem,hdenies⟩,hauthority⟩
          exact ⟨hstale,⟨execution,hmem,hbinds execution hmem,hdenies⟩,hauthority⟩
        · rintro ⟨hstale,⟨execution,hmem,-,hdenies⟩,hauthority⟩
          exact ⟨hstale,⟨execution,hmem,hdenies⟩,hauthority⟩

/-- A classification with a reason of its claim, or with one that completes nothing, has the shape
of a classification. -/
theorem validateTerminalShape_of {reason : CompletionReason} {bundle_sha256 : Sha256Digest}
    (h : reason∈completeReasons → reason=completeReason bundle.request.kind) :
    validateTerminalShape (classificationOf bundle reason bundle_sha256)=.ok () := by
  have hcomplete : completeReason bundle.request.kind∈completeReasons := by
    cases bundle.request.kind <;> decide
  unfold validateTerminalShape
  by_cases hmem : reason∈completeReasons
  · have hstatus : (if reason∈completeReasons then CompletionStatus.complete else .ambiguous)=
        .complete := if_pos hmem
    refine check_bind_eq_ok.mpr ⟨require_of ?_,require_of ?_⟩
    · simp only [classificationOf,hstatus]
      simp
    · rw [h hmem]
      simp [classificationOf,hcomplete]
  · have hstatus : (if reason∈completeReasons then CompletionStatus.complete else .ambiguous)=
        .ambiguous := if_neg hmem
    have hother : reason≠completeReason bundle.request.kind := fun hsame => hmem (hsame ▸ hcomplete)
    refine check_bind_eq_ok.mpr ⟨require_of ?_,require_of ?_⟩
    · simp only [classificationOf,hstatus]
      simp
    · simp only [classificationOf,hstatus]
      simp [hother]

/-- A valid bundle whose digest exists is classified, and as complete exactly when its
evidence completes the claim. -/
theorem classifyCompletion_eq (h : ValidBundle functions bundle) {bundle_sha256 : Sha256Digest}
    (hdigest : bundleSha256 functions bundle=.ok bundle_sha256) :
    ∃ classification,classifyCompletion functions bundle=.ok classification ∧
      validateTerminalShape classification=.ok () ∧ classification.request=bundle.request ∧
      classification.bundle_sha256=bundle_sha256 ∧
      (classification.status=.complete ↔ Completes bundle) := by
  obtain ⟨reason,hreason,hown,hiff⟩ := classificationReason_eq h
  have hshape := @validateTerminalShape_of bundle reason bundle_sha256 hown
  refine ⟨classificationOf bundle reason bundle_sha256,?_,hshape,rfl,rfl,?_⟩
  · have hread : (classificationReason functions bundle).mapError ClassificationRaised.codec=
        .ok reason := mapError_eq_ok.mpr hreason
    have hhash : (bundleSha256 functions bundle).mapError ClassificationRaised.codec=
        .ok bundle_sha256 := mapError_eq_ok.mpr hdigest
    have hcheck : (validateTerminalShape (classificationOf bundle reason bundle_sha256)).mapError
        ClassificationRaised.contract=.ok () := mapError_eq_ok.mpr hshape
    rw [classifyCompletion,bind_of_ok hread,bind_of_ok hhash,bind_of_ok hcheck]
    rfl
  · rw [← hiff]
    simp only [classificationOf]
    by_cases hmem : reason∈completeReasons
    · simp [hmem]
    · simp [hmem]

/-- A valid bundle whose digest does not exist is not classified. -/
theorem classifyCompletion_error (h : ValidBundle functions bundle) {error : CodecRaised}
    (hdigest : bundleSha256 functions bundle=.error error) :
    classifyCompletion functions bundle=.error (.codec error) := by
  obtain ⟨reason,hreason,-⟩ := classificationReason_eq h
  have hread : (classificationReason functions bundle).mapError ClassificationRaised.codec=
      .ok reason := mapError_eq_ok.mpr hreason
  rw [classifyCompletion,bind_of_ok hread,hdigest]
  rfl

end

end ControlGraph.CompletionLayers
