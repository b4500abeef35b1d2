import ControlGraph.ContractText
import ControlGraph.KeyedTables
import ControlGraph.RolloutReducer
import Mathlib.Data.Finset.Basic
import Mathlib.Data.List.Chain

/-!
# Capability attenuation and lineage acceptance

Scopes, grants and anchors carry the rules of their construction as fields. A
lineage is validated by a duplicate pass, a cycle walk over the parent
pointers, a missing-parent pass and one ordered pass over the hops. The
abstract side is a preorder of scopes: acceptance is exactly an ordered chain
of distinct grants, and narrowing composes along it.
-/

namespace ControlGraph.LineagePolicy

open ContractText KeyedTables RolloutReducer

/-- Greatest depth of an accepted lineage. -/
def maxLineageDepth : Int := 16

/-- Closed actions that a capability may authorize. -/
inductive CanaryAction
  | applyCanary | promoteCandidate | revokeEpoch | recoverStable | readbackTarget
  | probeDataPath
  deriving DecidableEq,Repr

/-- Field classification of an attenuation denial. -/
inductive AttenuationFailure
  | target | root | rootDigest | epoch | plan | precondition | request | idempotency | callers
  | audiences | revisions | stableRevision | candidateRevision | actions | traffic
  | concurrency | time
  deriving DecidableEq,Repr

/-- Structural classification of a lineage denial. -/
inductive LineageFailure
  | missing | cyclic | duplicate | wrongParent | widened | maxDepthExceeded | invalidMaxDepth
  deriving DecidableEq,Repr

/-- Text that is neither blank nor contains a wildcard. -/
abbrev PlainText := {text : String // isBlank text=false ∧ hasWildcard text=false}

/-- Inclusive integer range that can only be narrowed by a child. -/
structure IntegerBounds where
  minimum : Int
  maximum : Int
  ordered : 0 ≤ minimum ∧ minimum ≤ maximum
  deriving DecidableEq

/-- Whether a range lies inside its parent. -/
def IntegerBounds.isWithin (bounds parent : IntegerBounds) : Bool :=
  parent.minimum ≤ bounds.minimum && bounds.maximum ≤ parent.maximum

/-- Inclusive validity start and exclusive expiry. -/
structure TimeBounds where
  /-- First second of validity. -/
  notBefore : Int
  /-- First second after validity. -/
  expiresAt : Int
  positive : 0 ≤ notBefore ∧ notBefore < expiresAt
  deriving DecidableEq

/-- Whether a validity lies inside its parent. -/
def TimeBounds.isWithin (bounds parent : TimeBounds) : Bool :=
  parent.notBefore ≤ bounds.notBefore && bounds.expiresAt ≤ parent.expiresAt

/-- Maximum authority carried by one canary capability. -/
structure CapabilityScope where
  projectId : PlainText
  region : PlainText
  environment : PlainText
  serviceName : PlainText
  rootId : PlainText
  rootSha256 : Sha256Digest
  epoch : Int
  planSha256 : Sha256Digest
  providerPrecondition : PlainText
  requestId : PlainText
  idempotencyKey : PlainText
  callers : Finset PlainText
  audiences : Finset PlainText
  stableRevision : PlainText
  candidateRevision : PlainText
  revisions : Finset PlainText
  actions : Finset CanaryAction
  trafficPercent : IntegerBounds
  concurrency : IntegerBounds
  validity : TimeBounds
  epochPositive : 1 ≤ epoch
  /-- Someone may present the capability. -/
  callersNonempty : callers≠∅
  /-- Someone may accept the capability. -/
  audiencesNonempty : audiences≠∅
  rolesDiffer : stableRevision≠candidateRevision
  revisionsNonempty : revisions≠∅
  revisionsBound : revisions ⊆ {stableRevision,candidateRevision}
  actionsNonempty : actions≠∅
  trafficBound : trafficPercent.maximum≤100
  concurrencyBound : 1 ≤ concurrency.minimum ∧ concurrency.maximum≤1000
  deriving DecidableEq

/-- Result of proving that one child scope is no wider than its parent. -/
structure AttenuationResult where
  allowed : Bool
  reason : Option DenialReason
  failure : Option AttenuationFailure
  deriving DecidableEq,Repr

/-- Operator-approved root at which a lineage must terminate. -/
structure OperatorRootAnchor where
  rootSha256 : Sha256Digest
  scope : CapabilityScope
  /-- The anchor digest is the digest of its scope. -/
  bound : rootSha256=scope.rootSha256
  deriving DecidableEq

/-- One capability and its exact parent in an ordered lineage. -/
structure CapabilityGrant where
  capabilitySha256 : Sha256Digest
  parentCapabilitySha256 : Option Sha256Digest
  scope : CapabilityScope
  deriving DecidableEq

/-- Result of validating an ordered chain from an expected anchor. -/
structure LineageResult where
  allowed : Bool
  reason : Option DenialReason
  failure : Option LineageFailure
  /-- Number of grants passed. -/
  depth : Int
  failedCapabilitySha256 : Option Sha256Digest := none
  /-- Field at which a hop widened. -/
  attenuationFailure : Option AttenuationFailure := none
  deriving DecidableEq

/-- Deny one hop. -/
def attenuationDenial (reason : DenialReason) (failure : AttenuationFailure) :
    AttenuationResult :=
  ⟨false,some reason,some failure⟩

/-- Prove field by field that a child is equal to or narrower than its parent. -/
def checkAttenuation (parent child : CapabilityScope) : AttenuationResult :=
  if child.projectId≠parent.projectId ∨ child.region≠parent.region ∨
      child.environment≠parent.environment ∨ child.serviceName≠parent.serviceName then
    attenuationDenial .targetBindingMismatch .target
  else if child.rootId≠parent.rootId then attenuationDenial .lineageInvalid .root
  else if child.rootSha256≠parent.rootSha256 then attenuationDenial .lineageInvalid .rootDigest
  else if child.epoch≠parent.epoch then attenuationDenial .epochMismatch .epoch
  else if child.planSha256≠parent.planSha256 then attenuationDenial .claimBindingMismatch .plan
  else if child.providerPrecondition≠parent.providerPrecondition then
    attenuationDenial .targetBindingMismatch .precondition
  else if child.requestId≠parent.requestId then attenuationDenial .claimBindingMismatch .request
  else if child.idempotencyKey≠parent.idempotencyKey then
    attenuationDenial .claimBindingMismatch .idempotency
  else if ¬child.callers ⊆ parent.callers then attenuationDenial .scopeAmplification .callers
  else if ¬child.audiences ⊆ parent.audiences then
    attenuationDenial .scopeAmplification .audiences
  else if child.stableRevision≠parent.stableRevision then
    attenuationDenial .targetBindingMismatch .stableRevision
  else if child.candidateRevision≠parent.candidateRevision then
    attenuationDenial .targetBindingMismatch .candidateRevision
  else if ¬child.revisions ⊆ parent.revisions then
    attenuationDenial .scopeAmplification .revisions
  else if ¬child.actions ⊆ parent.actions then attenuationDenial .scopeAmplification .actions
  else if child.trafficPercent.isWithin parent.trafficPercent=false then
    attenuationDenial .scopeAmplification .traffic
  else if child.concurrency.isWithin parent.concurrency=false then
    attenuationDenial .scopeAmplification .concurrency
  else if child.validity.isWithin parent.validity=false then
    attenuationDenial .scopeAmplification .time
  else ⟨true,none,none⟩

def lineageDenial (failure : LineageFailure) (depth : Int)
    (failedCapabilitySha256 : Option Sha256Digest := none)
    (reason : DenialReason := .lineageInvalid)
    (attenuationFailure : Option AttenuationFailure := none) : LineageResult :=
  ⟨false,some reason,some failure,depth,failedCapabilitySha256,attenuationFailure⟩

/-- Index the grants by digest, in order; a repeated digest is denied. -/
def indexGrants (grantsById : List (Sha256Digest×CapabilityGrant)) :
    List CapabilityGrant → Except LineageResult (List (Sha256Digest×CapabilityGrant))
  | [] => .ok grantsById
  | grant::grants =>
    if grant.capabilitySha256∈grantsById.map Prod.fst then
      .error (lineageDenial .duplicate grantsById.length (some grant.capabilitySha256))
    else indexGrants (grantsById++[(grant.capabilitySha256,grant)]) grants

/-- Walk the parent pointers from every indexed grant. -/
def containsCycle (grantsById : List (Sha256Digest×CapabilityGrant)) : Bool :=
  hasCycle grantsById CapabilityGrant.parentCapabilitySha256

/-- The first grant that cites an unknown parent. -/
def findMissingParent (knownIds : List Sha256Digest) (index : Int) :
    List CapabilityGrant → Option LineageResult
  | [] => none
  | grant::grants =>
    match grant.parentCapabilitySha256 with
    | none => findMissingParent knownIds (index+1) grants
    | some parent =>
      if parent∈knownIds then findMissingParent knownIds (index+1) grants
      else some (lineageDenial .missing index (some grant.capabilitySha256))

/-- The ordered pass: every grant follows its parent and attenuates it. -/
def validateHops (expectedParentId : Option Sha256Digest) (parentScope : CapabilityScope)
    (depth : Int) : List CapabilityGrant → LineageResult
  | [] => ⟨true,none,none,depth,none,none⟩
  | grant::grants =>
    if grant.parentCapabilitySha256≠expectedParentId then
      lineageDenial .wrongParent depth (some grant.capabilitySha256)
    else
      let attenuation := checkAttenuation parentScope grant.scope
      if attenuation.allowed=false then
        lineageDenial .widened (depth+1) (some grant.capabilitySha256)
          (attenuation.reason.getD .scopeAmplification) attenuation.failure
      else validateHops (some grant.capabilitySha256) grant.scope (depth+1) grants

/-- Validate one ordered anchor-to-leaf chain and every attenuation hop. -/
def validateLineage (anchor : OperatorRootAnchor) (grants : List CapabilityGrant)
    (maxDepth : Int := maxLineageDepth) : LineageResult :=
  if ¬(1 ≤ maxDepth ∧ maxDepth ≤ maxLineageDepth) then
    lineageDenial .invalidMaxDepth 0 none .contractInvalid
  else if grants=[] then lineageDenial .missing 0
  else if maxDepth < grants.length then lineageDenial .maxDepthExceeded maxDepth
  else
    match indexGrants [] grants with
    | .error denial => denial
    | .ok grantsById =>
      if containsCycle grantsById then lineageDenial .cyclic 0
      else
        match findMissingParent (grantsById.map Prod.fst) 0 grants with
        | some denial => denial
        | none => validateHops none anchor.scope 0 grants

/-- A child scope is equal to or narrower than its parent in every field. -/
structure Attenuates (parent child : CapabilityScope) : Prop where
  target : child.projectId=parent.projectId ∧ child.region=parent.region ∧
    child.environment=parent.environment ∧ child.serviceName=parent.serviceName
  root : child.rootId=parent.rootId
  rootDigest : child.rootSha256=parent.rootSha256
  epoch : child.epoch=parent.epoch
  plan : child.planSha256=parent.planSha256
  precondition : child.providerPrecondition=parent.providerPrecondition
  request : child.requestId=parent.requestId
  idempotency : child.idempotencyKey=parent.idempotencyKey
  callers : child.callers ⊆ parent.callers
  /-- No further audience. -/
  audiences : child.audiences ⊆ parent.audiences
  stableRevision : child.stableRevision=parent.stableRevision
  candidateRevision : child.candidateRevision=parent.candidateRevision
  revisions : child.revisions ⊆ parent.revisions
  actions : child.actions ⊆ parent.actions
  traffic : child.trafficPercent.isWithin parent.trafficPercent=true
  concurrency : child.concurrency.isWithin parent.concurrency=true
  validity : child.validity.isWithin parent.validity=true

/-- A range lies inside another exactly when both of its bounds do. -/
theorem IntegerBounds.isWithin_iff {bounds parent : IntegerBounds} :
    bounds.isWithin parent=true ↔
      parent.minimum ≤ bounds.minimum ∧ bounds.maximum ≤ parent.maximum := by
  simp only [isWithin,Bool.and_eq_true,decide_eq_true_eq]

/-- A validity lies inside another exactly when both of its bounds do. -/
theorem TimeBounds.isWithin_iff {bounds parent : TimeBounds} :
    bounds.isWithin parent=true ↔
      parent.notBefore ≤ bounds.notBefore ∧ bounds.expiresAt ≤ parent.expiresAt := by
  simp only [isWithin,Bool.and_eq_true,decide_eq_true_eq]

/-- A guarded denial is passed exactly when its condition fails. -/
@[simp] theorem attenuationDenial_else_allowed {condition : Prop} [Decidable condition]
    {reason : DenialReason} {failure : AttenuationFailure} {rest : AttenuationResult} :
    (if condition then attenuationDenial reason failure else rest).allowed=true ↔
      ¬condition ∧ rest.allowed=true := by
  by_cases h : condition
  · rw [if_pos h]
    simp only [attenuationDenial,h,not_true_eq_false,false_and,Bool.false_eq_true]
  · rw [if_neg h]
    simp only [h,not_false_eq_true,true_and]

theorem checkAttenuation_allowed {parent child : CapabilityScope} :
    (checkAttenuation parent child).allowed=true ↔ Attenuates parent child := by
  unfold checkAttenuation
  simp only [attenuationDenial_else_allowed,ne_eq,not_or,not_not,Bool.not_eq_false,and_true]
  constructor
  · rintro ⟨h1,h2,h3,h4,h5,h6,h7,h8,h9,h10,h11,h12,h13,h14,h15,h16,h17⟩
    exact ⟨h1,h2,h3,h4,h5,h6,h7,h8,h9,h10,h11,h12,h13,h14,h15,h16,h17⟩
  · rintro ⟨h1,h2,h3,h4,h5,h6,h7,h8,h9,h10,h11,h12,h13,h14,h15,h16,h17⟩
    exact ⟨h1,h2,h3,h4,h5,h6,h7,h8,h9,h10,h11,h12,h13,h14,h15,h16,h17⟩

/-- Narrowing composes over every field. -/
theorem Attenuates.trans {first second third : CapabilityScope} (h : Attenuates first second)
    (h' : Attenuates second third) : Attenuates first third := by
  obtain ⟨hproject,hregion,henvironment,hservice⟩ := h.target
  obtain ⟨hproject',hregion',henvironment',hservice'⟩ := h'.target
  have htraffic := IntegerBounds.isWithin_iff.mp h.traffic
  have htraffic' := IntegerBounds.isWithin_iff.mp h'.traffic
  have hconcurrency := IntegerBounds.isWithin_iff.mp h.concurrency
  have hconcurrency' := IntegerBounds.isWithin_iff.mp h'.concurrency
  have hvalidity := TimeBounds.isWithin_iff.mp h.validity
  have hvalidity' := TimeBounds.isWithin_iff.mp h'.validity
  constructor
  · exact ⟨hproject'.trans hproject,hregion'.trans hregion,henvironment'.trans henvironment,
      hservice'.trans hservice⟩
  · exact h'.root.trans h.root
  · exact h'.rootDigest.trans h.rootDigest
  · exact h'.epoch.trans h.epoch
  · exact h'.plan.trans h.plan
  · exact h'.precondition.trans h.precondition
  · exact h'.request.trans h.request
  · exact h'.idempotency.trans h.idempotency
  · exact h'.callers.trans h.callers
  · exact h'.audiences.trans h.audiences
  · exact h'.stableRevision.trans h.stableRevision
  · exact h'.candidateRevision.trans h.candidateRevision
  · exact h'.revisions.trans h.revisions
  · exact h'.actions.trans h.actions
  · exact IntegerBounds.isWithin_iff.mpr (by omega)
  · exact IntegerBounds.isWithin_iff.mpr (by omega)
  · exact TimeBounds.isWithin_iff.mpr (by omega)

instance : Trans Attenuates Attenuates Attenuates := ⟨Attenuates.trans⟩

/-- The parent of every grant is the preceding grant; the first one has none. -/
def ParentsFollow : Option Sha256Digest → List CapabilityGrant → Prop
  | _,[] => True
  | expected,grant::grants =>
    grant.parentCapabilitySha256=expected ∧
      ParentsFollow (some grant.capabilitySha256) grants

/-- A well-formed lineage: bounded length, distinct digests, every grant after
its parent, and every hop narrowing. -/
structure WellFormedLineage (anchor : OperatorRootAnchor) (grants : List CapabilityGrant)
    (maxDepth : Int) : Prop where
  nonempty : 1 ≤ grants.length
  /-- At most as many grants as the depth allows. -/
  bounded : (grants.length : Int) ≤ maxDepth
  /-- No digest occurs twice. -/
  distinct : (grants.map CapabilityGrant.capabilitySha256).Nodup
  parents : ParentsFollow none grants
  hops : (anchor.scope::grants.map CapabilityGrant.scope).IsChain
    (fun parent child => (checkAttenuation parent child).allowed=true)

/-- Distinct grants are indexed as they stand; otherwise the index is denied. -/
theorem indexGrants_spec (grantsById : List (Sha256Digest×CapabilityGrant))
    (grants : List CapabilityGrant) (hseen : (grantsById.map Prod.fst).Nodup) :
    if (grantsById.map Prod.fst++grants.map CapabilityGrant.capabilitySha256).Nodup then
      indexGrants grantsById grants=.ok (grantsById++grants.map (fun grant =>
        (grant.capabilitySha256,grant)))
    else ∃ denial,indexGrants grantsById grants=.error denial ∧ denial.allowed=false := by
  induction grants generalizing grantsById with
  | nil => simp only [List.map_nil,List.append_nil,hseen,if_true,indexGrants]
  | cons grant grants ih =>
    unfold indexGrants
    by_cases hmem : grant.capabilitySha256∈grantsById.map Prod.fst
    · rw [if_pos hmem,if_neg]
      · exact ⟨_,rfl,rfl⟩
      · intro hnodup
        rw [List.nodup_append] at hnodup
        exact hnodup.2.2 _ hmem _ List.mem_cons_self rfl
    · rw [if_neg hmem]
      have hnext : ((grantsById++[(grant.capabilitySha256,grant)]).map Prod.fst).Nodup := by
        rw [List.map_append,List.nodup_append]
        refine ⟨hseen,List.nodup_cons.mpr ⟨List.not_mem_nil,List.nodup_nil⟩,?_⟩
        intro key hkey other hother hsame
        rw [List.map_singleton,List.mem_singleton] at hother
        rw [hsame,hother] at hkey
        exact hmem hkey
      have hspec := ih _ hnext
      simp only [List.map_append,List.map_cons,List.map_nil,List.append_assoc,
        List.singleton_append] at hspec
      exact hspec

/-- The ordered pass accepts exactly the ordered chains of narrowing hops. -/
theorem validateHops_allowed {expected : Option Sha256Digest} {scope : CapabilityScope}
    {depth : Int} {grants : List CapabilityGrant} :
    (validateHops expected scope depth grants).allowed=true ↔
      ParentsFollow expected grants ∧
        (scope::grants.map CapabilityGrant.scope).IsChain
          (fun parent child => (checkAttenuation parent child).allowed=true) := by
  induction grants generalizing expected scope depth with
  | nil => simp [validateHops,ParentsFollow]
  | cons grant grants ih =>
    unfold validateHops ParentsFollow
    rw [List.map_cons,List.isChain_cons_cons]
    by_cases hparent : grant.parentCapabilitySha256=expected
    · rw [if_neg (not_not.mpr hparent)]
      dsimp only
      by_cases hallowed : (checkAttenuation scope grant.scope).allowed=true
      · rw [if_neg (by simp [hallowed]),ih]
        simp only [hparent,hallowed,true_and]
      · rw [if_pos (Bool.eq_false_of_not_eq_true hallowed)]
        simp only [lineageDenial,hallowed,Bool.false_eq_true,false_and,and_false]
    · rw [if_pos hparent]
      simp only [lineageDenial,hparent,Bool.false_eq_true,false_and]

/-- No grant cites an unknown parent when every parent is known. -/
theorem findMissingParent_eq_none {knownIds : List Sha256Digest} {index : Int}
    {grants : List CapabilityGrant}
    (h : ∀ grant∈grants,∀ parent∈grant.parentCapabilitySha256,parent∈knownIds) :
    findMissingParent knownIds index grants=none := by
  induction grants generalizing index with
  | nil => rfl
  | cons grant grants ih =>
    have hrest : ∀ other∈grants,∀ parent∈other.parentCapabilitySha256,parent∈knownIds :=
      fun other hother => h other (List.mem_cons_of_mem _ hother)
    unfold findMissingParent
    split
    · exact ih hrest
    · rename_i parent hparent
      rw [if_pos (h grant List.mem_cons_self parent hparent)]
      exact ih hrest

theorem findMissingParent_denied {knownIds : List Sha256Digest} {index : Int}
    {grants : List CapabilityGrant} {denial : LineageResult}
    (h : findMissingParent knownIds index grants=some denial) : denial.allowed=false := by
  induction grants generalizing index with
  | nil => cases h
  | cons grant grants ih =>
    unfold findMissingParent at h
    split at h
    · exact ih h
    · split at h
      · exact ih h
      · cases h
        rfl

/-- The parent of a grant is the expected one or the digest of an earlier grant. -/
theorem parent_mem_before {expected : Option Sha256Digest} {before after : List CapabilityGrant}
    {grant : CapabilityGrant} (h : ParentsFollow expected (before++grant::after)) :
    grant.parentCapabilitySha256=expected ∨
      ∃ parent∈before.map CapabilityGrant.capabilitySha256,
        grant.parentCapabilitySha256=some parent := by
  induction before generalizing expected with
  | nil => exact .inl h.1
  | cons first before ih =>
    right
    rcases ih h.2 with hfirst | ⟨parent,hmem,hparent⟩
    · exact ⟨first.capabilitySha256,List.mem_cons_self,hfirst⟩
    · exact ⟨parent,List.mem_cons_of_mem _ hmem,hparent⟩

/-- In an ordered lineage of distinct grants every parent stands earlier. -/
theorem parent_earlier {grants : List CapabilityGrant} {grant : CapabilityGrant}
    {parent : Sha256Digest} (hparents : ParentsFollow none grants)
    (hdistinct : (grants.map CapabilityGrant.capabilitySha256).Nodup) (hmem : grant∈grants)
    (hparent : grant.parentCapabilitySha256=some parent) :
    parent∈grants.map CapabilityGrant.capabilitySha256 ∧
      (grants.map CapabilityGrant.capabilitySha256).idxOf parent<
        (grants.map CapabilityGrant.capabilitySha256).idxOf grant.capabilitySha256 := by
  obtain ⟨before,after,rfl⟩ := List.append_of_mem hmem
  rw [List.map_append,List.map_cons] at hdistinct ⊢
  have hbefore : parent∈before.map CapabilityGrant.capabilitySha256 := by
    rcases parent_mem_before hparents with hnone | ⟨other,hother,hsame⟩
    · rw [hparent] at hnone
      cases hnone
    · rw [hparent] at hsame
      cases hsame
      exact hother
  have hnew : grant.capabilitySha256∉before.map CapabilityGrant.capabilitySha256 := by
    intro hold
    exact (List.nodup_append.mp hdistinct).2.2 _ hold _ List.mem_cons_self rfl
  refine ⟨List.mem_append_left _ hbefore,?_⟩
  rw [List.idxOf_append_of_mem hbefore,List.idxOf_append_of_notMem hnew,List.idxOf_cons_self,
    Nat.add_zero]
  exact List.idxOf_lt_length_of_mem hbefore

/-- The passes before the ordered one reject no ordered lineage of distinct grants. -/
theorem containsCycle_eq_false {grants : List CapabilityGrant}
    (hparents : ParentsFollow none grants)
    (hdistinct : (grants.map CapabilityGrant.capabilitySha256).Nodup) :
    containsCycle (grants.map (fun grant => (grant.capabilitySha256,grant)))=false := by
  apply @hasCycle_of_rank _ _ _ _ _
    (fun digest => (grants.map CapabilityGrant.capabilitySha256).idxOf digest)
  intro key grant next hentry hnext
  obtain ⟨member,hmember,hsame⟩ := List.mem_map.mp hentry
  obtain ⟨rfl,rfl⟩ := Prod.mk.inj hsame
  exact (parent_earlier hparents hdistinct hmember hnext).2

/-- A lineage is allowed exactly when the depth limit is valid and the lineage
is well formed; the cycle walk and the missing-parent pass reject nothing else. -/
theorem validateLineage_allowed {anchor : OperatorRootAnchor} {grants : List CapabilityGrant}
    {maxDepth : Int} :
    (validateLineage anchor grants maxDepth).allowed=true ↔
      (1 ≤ maxDepth ∧ maxDepth ≤ maxLineageDepth) ∧ WellFormedLineage anchor grants maxDepth := by
  unfold validateLineage
  by_cases hdepth : 1 ≤ maxDepth ∧ maxDepth ≤ maxLineageDepth
  swap
  · rw [if_pos hdepth]
    simp only [lineageDenial,hdepth,Bool.false_eq_true,false_and]
  rw [if_neg (not_not.mpr hdepth)]
  by_cases hempty : grants=[]
  · rw [if_pos hempty]
    simp only [lineageDenial,Bool.false_eq_true,false_iff,not_and]
    intro _ h
    have hnonempty := h.nonempty
    rw [hempty] at hnonempty
    exact absurd hnonempty (by decide)
  rw [if_neg hempty]
  by_cases hlong : maxDepth<(grants.length : Int)
  · rw [if_pos hlong]
    simp only [lineageDenial,Bool.false_eq_true,false_iff,not_and]
    intro _ h
    have hbounded := h.bounded
    omega
  rw [if_neg hlong]
  have hindex := indexGrants_spec [] grants List.nodup_nil
  rw [List.map_nil,List.nil_append] at hindex
  by_cases hdistinct : (grants.map CapabilityGrant.capabilitySha256).Nodup
  swap
  · rw [if_neg hdistinct] at hindex
    obtain ⟨denial,hdenial,hdenied⟩ := hindex
    rw [hdenial]
    simp only [hdenied,Bool.false_eq_true,false_iff,not_and]
    intro _ h
    exact hdistinct h.distinct
  rw [if_pos hdistinct,List.nil_append] at hindex
  rw [hindex]
  dsimp only
  have hknown : (grants.map (fun grant => (grant.capabilitySha256,grant))).map Prod.fst=
      grants.map CapabilityGrant.capabilitySha256 := by
    rw [List.map_map]
    rfl
  rw [hknown]
  by_cases hparents : ParentsFollow none grants
  · have hmissing : findMissingParent (grants.map CapabilityGrant.capabilitySha256) 0 grants=
        none := by
      apply findMissingParent_eq_none
      intro grant hgrant parent hparent
      exact (parent_earlier hparents hdistinct hgrant hparent).1
    rw [containsCycle_eq_false hparents hdistinct,if_neg Bool.false_ne_true,hmissing]
    dsimp only
    rw [validateHops_allowed]
    have hlength := List.length_pos_iff.mpr hempty
    constructor
    · rintro ⟨_,hhops⟩
      exact ⟨hdepth,by omega,by omega,hdistinct,hparents,hhops⟩
    · rintro ⟨_,h⟩
      exact ⟨hparents,h.hops⟩
  · constructor
    · intro h
      split at h
      · cases h
      · split at h
        · rename_i denial hdenial
          rw [findMissingParent_denied hdenial] at h
          cases h
        · exact absurd (validateHops_allowed.mp h).1 hparents
    · rintro ⟨_,h⟩
      exact absurd h.parents hparents

/-- Acceptance is exact, and in an accepted lineage every scope attenuates the
scope of the anchor and of every earlier grant. -/
theorem validateLineage_exact (anchor : OperatorRootAnchor) (grants : List CapabilityGrant)
    (maxDepth : Int) :
    ((validateLineage anchor grants maxDepth).allowed=true ↔
      (1 ≤ maxDepth ∧ maxDepth ≤ maxLineageDepth) ∧ WellFormedLineage anchor grants maxDepth) ∧
    ((validateLineage anchor grants maxDepth).allowed=true →
      (anchor.scope::grants.map CapabilityGrant.scope).Pairwise Attenuates) := by
  refine ⟨validateLineage_allowed,?_⟩
  intro hallowed
  have hhops := (validateLineage_allowed.mp hallowed).2.hops
  rw [← List.isChain_iff_pairwise]
  exact hhops.imp (fun _ _ hop => checkAttenuation_allowed.mp hop)

end ControlGraph.LineagePolicy
