import ControlGraph.Checks
import ControlGraph.ContractText
import ControlGraph.CanonicalCodec

/-!
# Deterministic identities of stored records

A document id hashes the record family and the logical id, after checking the
logical id as an identifier. A request identity of a revocation or a claim
release is prefixed with its kind, so the prefixed text must fit the
identifier bound again. The digest function is a parameter.
-/

namespace ControlGraph.StorageIdentity

open Checks ContractText JsonValues JsonText Utf8Text

/-- Closed record families of the authority database. -/
inductive AuthorityStorageKind
  | rolloutRoot | rolloutRootV2 | rolloutRootV3 | serviceClaim | epochAuthority
  | executionReceipt | capabilityLineageAnchor | signedEvidenceEvent | rootCreationResult
  | rootCreationResultV2 | evidenceChainHead | epochRevocationIdentity | epochRevocationResult
  | epochRevocationAudit | serviceClaimReleaseIdentity | serviceClaimReleaseProgress
  | serviceClaimReleaseResult | recoveryAbandonmentIdentity | recoveryAbandonmentProgress
  | recoveryAbandonmentResult | promotionDispatchIdentity | promotionDispatch
  | promotionDispatchIdentityV2 | promotionDispatchV2
  deriving DecidableEq,Repr

/-- Collection name of a record family. -/
def AuthorityStorageKind.value : AuthorityStorageKind → String
  | .rolloutRoot => "controlgraph-rollout-roots-v1"
  | .rolloutRootV2 => "controlgraph-rollout-roots-v2"
  | .rolloutRootV3 => "controlgraph-rollout-roots-v3"
  | .serviceClaim => "controlgraph-service-claims-v1"
  | .epochAuthority => "controlgraph-epoch-authorities-v1"
  | .executionReceipt => "controlgraph-execution-receipts-v1"
  | .capabilityLineageAnchor => "controlgraph-capability-lineage-anchors-v1"
  | .signedEvidenceEvent => "controlgraph-signed-evidence-events-v1"
  | .rootCreationResult => "controlgraph-root-creation-results-v1"
  | .rootCreationResultV2 => "controlgraph-root-creation-results-v2"
  | .evidenceChainHead => "controlgraph-evidence-chain-heads-v1"
  | .epochRevocationIdentity => "controlgraph-epoch-revocation-identities-v1"
  | .epochRevocationResult => "controlgraph-epoch-revocation-results-v1"
  | .epochRevocationAudit => "controlgraph-epoch-revocation-audits-v1"
  | .serviceClaimReleaseIdentity => "controlgraph-service-claim-release-identities-v1"
  | .serviceClaimReleaseProgress => "controlgraph-service-claim-release-progress-v1"
  | .serviceClaimReleaseResult => "controlgraph-service-claim-release-results-v1"
  | .recoveryAbandonmentIdentity => "controlgraph-recovery-abandonment-identities-v1"
  | .recoveryAbandonmentProgress => "controlgraph-recovery-abandonment-progress-v1"
  | .recoveryAbandonmentResult => "controlgraph-recovery-abandonment-results-v1"
  | .promotionDispatchIdentity => "controlgraph-promotion-dispatch-identities-v1"
  | .promotionDispatch => "controlgraph-promotion-dispatches-v1"
  | .promotionDispatchIdentityV2 => "controlgraph-promotion-dispatch-identities-v2"
  | .promotionDispatchV2 => "controlgraph-promotion-dispatches-v2"

/-- ASCII bytes of a text that is known to be ASCII. -/
def asciiBytes (text : String) : Bytes :=
  (charactersOf text).map (fun character => UInt8.ofNat character.toNat)

theorem asciiBytes_eq (text : String) : asciiBytes text=(chars text).map UInt8.ofNat := by
  rw [asciiBytes,chars,List.map_map]
  rfl

def firestoreDocumentIdDomain : Bytes := asciiBytes "controlgraph.firestore-document-id/v1"++[0]

/-- Require a text to be an identifier. -/
def logicalIdentity (value : String) : Except Raised Identifier :=
  if h : isIdentifier value=true then .ok ⟨value,h⟩ else .error .validationError

/-- Document id of one logical id of a record family. -/
def documentId (sha256 : Bytes → Sha256Digest) (kind : AuthorityStorageKind) (logical_id : String) :
    Except Raised Sha256Digest :=
  match logicalIdentity logical_id with
  | .ok identity =>
    .ok (sha256 (firestoreDocumentIdDomain++asciiBytes kind.value++[0]++asciiBytes identity.1))
  | .error _ => .error (.valueError "authority storage logical identifier is invalid")

/-- An identity text prefixed with its kind, which must be one of the given kinds. -/
def prefixedLogicalId (kinds : List String) (error : String) (kind identity_value : String) :
    Except Raised String := do
  require (kind∈kinds) (.valueError error)
  let identity ← logicalIdentity identity_value
  return kind++":"++identity.1

/-- The collision domain for one revocation request identity. -/
def epochRevocationIdentityLogicalId (kind identity_value : String) : Except Raised String :=
  prefixedLogicalId ["REQUEST","IDEMPOTENCY","EPOCH"] "revocation identity kind is invalid"
    kind identity_value

/-- The immutable document id for one revocation identity claim. -/
def epochRevocationIdentityDocumentId (sha256 : Bytes → Sha256Digest)
    (kind identity_value : String) : Except Raised Sha256Digest := do
  let logical_id ← epochRevocationIdentityLogicalId kind identity_value
  documentId sha256 .epochRevocationIdentity logical_id

/-- The collision domain for one claim-release request identity. -/
def serviceClaimReleaseIdentityLogicalId (kind identity_value : String) : Except Raised String :=
  prefixedLogicalId ["REQUEST","IDEMPOTENCY"] "claim-release identity kind is invalid"
    kind identity_value

def serviceClaimReleaseIdentityDocumentId (sha256 : Bytes → Sha256Digest)
    (kind identity_value : String) : Except Raised Sha256Digest := do
  let logical_id ← serviceClaimReleaseIdentityLogicalId kind identity_value
  documentId sha256 .serviceClaimReleaseIdentity logical_id

/-- A root id of the version-two root family. -/
def isRootId (root_id : String) : Bool :=
  let text := root_id.toList
  "cgroot:".toList.isPrefixOf text && isSha256 (String.ofList (text.drop 7))

def epochRevocationIdentityValue (root_id : String) (epoch : Nat) : Except Raised String := do
  require (isRootId root_id=true ∧ 2 ≤ epoch ∧ epoch≤9007199254740991)
    (.valueError "revocation epoch identity is invalid")
  return root_id++":epoch:"++toString epoch

/-- The parts of a revocation command that name its identities. -/
structure EpochRevocationCommandV1 where
  root_id : Identifier
  expected_root_sha256 : Sha256Digest
  expected_epoch : PositiveSafeInteger
  request_id : Identifier
  idempotency_key : Identifier
  root_identity : root_id.1="cgroot:"++expected_root_sha256.1

/-- The parts of a claim-release command that name its identities. -/
structure ServiceClaimReleaseCommandV1 where
  root_id : Identifier
  expected_root_sha256 : Sha256Digest
  expected_epoch : PositiveSafeInteger
  request_id : Identifier
  idempotency_key : Identifier
  root_identity : root_id.1="cgroot:"++expected_root_sha256.1

/-- The root binding of the receipt that a stranded release names. -/
structure RecoveryApplyReceiptLocatorV1 where
  root_id : Identifier
  root_sha256 : Sha256Digest
  epoch : PositiveSafeInteger

/-- The parts of a stranded claim-release command that name its identities. -/
structure StrandedStableClaimReleaseCommandV1 where
  root_id : Identifier
  expected_root_sha256 : Sha256Digest
  expected_epoch : PositiveSafeInteger
  verified_apply_receipt : RecoveryApplyReceiptLocatorV1
  request_id : Identifier
  idempotency_key : Identifier
  /-- The command and its receipt name one root and epoch. -/
  bindings : root_id.1="cgroot:"++expected_root_sha256.1 ∧
    verified_apply_receipt.root_id=root_id ∧
    verified_apply_receipt.root_sha256=expected_root_sha256 ∧
    verified_apply_receipt.epoch=expected_epoch

/-- Document ids of the identities that a revocation reads and writes. -/
def EpochRevocationCommandV1.identityDocumentIds (sha256 : Bytes → Sha256Digest)
    (command : EpochRevocationCommandV1) : Except Raised (List Sha256Digest) := do
  let request ← epochRevocationIdentityDocumentId sha256 "REQUEST" command.request_id.1
  let idempotency ← epochRevocationIdentityDocumentId sha256 "IDEMPOTENCY" command.idempotency_key.1
  let epoch_value ← epochRevocationIdentityValue command.root_id.1 (command.expected_epoch.1+1)
  let epoch ← epochRevocationIdentityDocumentId sha256 "EPOCH" epoch_value
  return [request,idempotency,epoch]

/-- Document ids of the identities of a claim release. -/
def releaseIdentityDocumentIds (sha256 : Bytes → Sha256Digest)
    (request_id idempotency_key : Identifier) : Except Raised (List Sha256Digest) := do
  let request ← serviceClaimReleaseIdentityDocumentId sha256 "REQUEST" request_id.1
  let idempotency ← serviceClaimReleaseIdentityDocumentId sha256 "IDEMPOTENCY" idempotency_key.1
  return [request,idempotency]

/-- Document ids of the identities that a release reads and writes. -/
def ServiceClaimReleaseCommandV1.identityDocumentIds (sha256 : Bytes → Sha256Digest)
    (command : ServiceClaimReleaseCommandV1) : Except Raised (List Sha256Digest) :=
  releaseIdentityDocumentIds sha256 command.request_id command.idempotency_key

/-- Document ids of the identities that a stranded release reads and writes. -/
def StrandedStableClaimReleaseCommandV1.identityDocumentIds (sha256 : Bytes → Sha256Digest)
    (command : StrandedStableClaimReleaseCommandV1) : Except Raised (List Sha256Digest) :=
  releaseIdentityDocumentIds sha256 command.request_id command.idempotency_key

theorem logicalIdentity_of {value : String} (h : isIdentifier value=true) :
    logicalIdentity value=.ok ⟨value,h⟩ := dif_pos h

theorem logicalIdentity_error {value : String} (h : ¬isIdentifier value=true) :
    logicalIdentity value=.error .validationError := dif_neg h

theorem documentId_eq_ok {sha256 : Bytes → Sha256Digest} {kind : AuthorityStorageKind}
    {logical_id : String} : (∃ document_id,documentId sha256 kind logical_id=.ok document_id) ↔
      isIdentifier logical_id=true := by
  unfold documentId
  by_cases h : isIdentifier logical_id=true
  · rw [logicalIdentity_of h]
    exact ⟨fun _ => h,fun _ => ⟨_,rfl⟩⟩
  · rw [logicalIdentity_error h]
    constructor
    · rintro ⟨document_id,heq⟩
      cases heq
    · intro hvalid
      exact absurd hvalid h

/-- A prefixed identity is defined for the given kinds and identifiers. -/
theorem prefixedLogicalId_eq_ok {kinds : List String} {error kind identity_value logical_id : String} :
    prefixedLogicalId kinds error kind identity_value=.ok logical_id ↔
      kind∈kinds ∧ isIdentifier identity_value=true ∧ kind++":"++identity_value=logical_id := by
  rw [prefixedLogicalId,check_bind_eq_ok,require_eq_ok]
  by_cases h : isIdentifier identity_value=true
  · rw [bind_of_ok (logicalIdentity_of h)]
    simp only [pure,Except.pure,Except.ok.injEq,h,true_and]
  · rw [logicalIdentity_error h]
    simp only [bind,Except.bind,reduceCtorEq,and_false,h,false_and]

/-- A text is an identifier when it starts with a letter or a digit, goes on
with identifier characters and has at most 128 of them. -/
theorem isIdentifier_iff {text : String} : isIdentifier text=true ↔ ∃ first rest,
    text.toList=first::rest ∧ isAlphanumeric first=true ∧
      (∀ character∈rest,isIdentifierCharacter character=true) ∧ text.length≤128 := by
  unfold isIdentifier
  rw [← String.length_toList]
  cases htext : text.toList with
  | nil => simp only [reduceCtorEq,false_and,exists_false,Bool.false_eq_true]
  | cons first rest =>
    simp only [Bool.and_eq_true,List.all_eq_true,decide_eq_true_eq,List.cons.injEq,
      List.length_cons,and_assoc,Nat.lt_iff_add_one_le]
    constructor
    · intro h
      exact ⟨first,rest,rfl,rfl,h⟩
    · rintro ⟨other,tail,rfl,rfl,h⟩
      exact h

theorem isIdentifier_characters {text : String} (h : isIdentifier text=true) :
    ∀ character∈text.toList,isIdentifierCharacter character=true := by
  obtain ⟨first,rest,htext,hfirst,hrest,-⟩ := isIdentifier_iff.mp h
  intro character hmem
  rw [htext] at hmem
  rcases List.mem_cons.mp hmem with rfl | htail
  · rw [isIdentifierCharacter,hfirst,Bool.true_or]
  · exact hrest character htail

/-- A text after an identifier start is an identifier exactly when all of it fits. -/
theorem isIdentifier_append {start value : String} (hstart : isIdentifier start=true)
    (hvalue : ∀ character∈value.toList,isIdentifierCharacter character=true) :
    isIdentifier (start++value)=true ↔ start.length+value.length≤128 := by
  obtain ⟨first,rest,htext,hfirst,hrest,-⟩ := isIdentifier_iff.mp hstart
  rw [isIdentifier_iff,String.toList_append,htext,String.length_append]
  constructor
  · rintro ⟨-,-,-,-,-,hlength⟩
    exact hlength
  · intro hlength
    refine ⟨first,rest++value.toList,rfl,hfirst,?_,hlength⟩
    intro character hmem
    rcases List.mem_append.mp hmem with hleft | hright
    · exact hrest character hleft
    · exact hvalue character hright

/-- A prefixed identity has a document id exactly when the prefixed text fits
the identifier bound. -/
theorem prefixed_document_iff {sha256 : Bytes → Sha256Digest} {family : AuthorityStorageKind}
    {kinds : List String} {error kind : String} (value : Identifier) (hkind : kind∈kinds)
    (hstart : isIdentifier (kind++":")=true) :
    (∃ document_id,(do
      let logical_id ← prefixedLogicalId kinds error kind value.1
      documentId sha256 family logical_id)=.ok document_id) ↔
      (kind++":").length+value.1.length≤128 := by
  have hlogical := (@prefixedLogicalId_eq_ok kinds error kind value.1 _).mpr ⟨hkind,value.2,rfl⟩
  rw [bind_of_ok hlogical,documentId_eq_ok,isIdentifier_append hstart (isIdentifier_characters value.2)]

/-- A root identifier is seventy-one characters long and names its digest. -/
theorem isRootId_of_digest (digest : Sha256Digest) :
    isRootId ("cgroot:"++digest.1)=true ∧ ("cgroot:"++digest.1).length=71 := by
  have hdigest := digest.2
  have hlength : digest.1.toList.length=64 := by
    rw [isSha256,Bool.and_eq_true,beq_iff_eq] at hdigest
    exact hdigest.1
  have hprefixed : ("cgroot:"++digest.1).toList="cgroot:".toList++digest.1.toList :=
    String.toList_append
  constructor
  · rw [isRootId,hprefixed]
    simp only [Bool.and_eq_true]
    refine ⟨List.isPrefixOf_iff_prefix.mpr (List.prefix_append _ _),?_⟩
    have hseven : "cgroot:".toList.length=7 := rfl
    rw [← hseven,List.drop_left,String.ofList_toList]
    exact hdigest
  · rw [← String.length_toList,hprefixed,List.length_append,hlength]
    rfl

/-- A digest has sixty-four letters and digits. -/
theorem digest_characters (digest : Sha256Digest) : digest.1.length=64 ∧
    ∀ character∈digest.1.toList,isAlphanumeric character=true := by
  have hdigest := digest.2
  rw [isSha256,Bool.and_eq_true,beq_iff_eq,String.length_toList,List.all_eq_true] at hdigest
  refine ⟨hdigest.1,?_⟩
  intro character hmem
  have hhex := hdigest.2 character hmem
  simp only [isHexDigit,Bool.or_eq_true,Bool.and_eq_true,decide_eq_true_eq] at hhex
  simp only [isAlphanumeric,Bool.or_eq_true,Bool.and_eq_true,decide_eq_true_eq]
  rcases hhex with hdecimal | hletter
  · exact .inr hdecimal
  · have hlast : 'f' ≤ 'z' := by decide
    exact .inl (.inr ⟨hletter.1,Char.le_trans hletter.2 hlast⟩)

theorem isIdentifierCharacter_of_alphanumeric {character : Char}
    (h : isAlphanumeric character=true) : isIdentifierCharacter character=true := by
  rw [isIdentifierCharacter,h,Bool.true_or]

theorem isIdentifier_digest (digest : Sha256Digest) : isIdentifier digest.1=true := by
  obtain ⟨hlength,hcharacters⟩ := digest_characters digest
  rw [isIdentifier_iff]
  cases htext : digest.1.toList with
  | nil =>
    rw [← String.length_toList,htext,List.length_nil] at hlength
    omega
  | cons first rest =>
    rw [htext] at hcharacters
    refine ⟨first,rest,rfl,hcharacters first List.mem_cons_self,?_,by omega⟩
    intro character hmem
    exact isIdentifierCharacter_of_alphanumeric
      (hcharacters character (List.mem_cons_of_mem _ hmem))

theorem isIdentifier_derived {start : String} (hstart : isIdentifier start=true)
    (hshort : start.length≤64) (digest : Sha256Digest) : isIdentifier (start++digest.1)=true := by
  obtain ⟨hlength,halphanumeric⟩ := digest_characters digest
  have hcharacters : ∀ character∈digest.1.toList,isIdentifierCharacter character=true := by
    intro character hmem
    exact isIdentifierCharacter_of_alphanumeric (halphanumeric character hmem)
  rw [isIdentifier_append hstart hcharacters,hlength]
  omega

theorem isIdentifier_root (digest : Sha256Digest) : isIdentifier ("cgroot:"++digest.1)=true :=
  isIdentifier_derived (by decide) (by decide) digest

/-- A safe integer has at most sixteen decimal digits. -/
theorem decimal_characters {value : Nat} (h : value≤9007199254740991) :
    (toString value).length≤16 ∧
      ∀ character∈(toString value).toList,isIdentifierCharacter character=true := by
  have htext : (toString value).toList=Nat.toDigits 10 value := Nat.toList_repr
  constructor
  · rw [← String.length_toList,htext,Nat.length_toDigits_le_iff (by omega) (by omega)]
    omega
  · intro character hmem
    rw [htext] at hmem
    have hdigit := Nat.isDigit_of_mem_toDigits (by omega) (by omega) hmem
    have hrange : character ≥ '0' ∧ character ≤ '9' := by
      rw [Char.isDigit,Bool.and_eq_true,decide_eq_true_eq,decide_eq_true_eq] at hdigit
      exact hdigit
    rw [isIdentifierCharacter,isAlphanumeric,Bool.or_eq_true,Bool.or_eq_true]
    left
    right
    rw [Bool.and_eq_true,decide_eq_true_eq,decide_eq_true_eq]
    exact hrange

/-- The epoch identity of a root is an identifier of at most ninety-four characters. -/
theorem epochRevocationIdentityValue_ok {root_id : Identifier} {digest : Sha256Digest} {epoch : Nat}
    (hroot : root_id.1="cgroot:"++digest.1) (hlow : 2 ≤ epoch) (hhigh : epoch≤9007199254740991) :
    ∃ value : Identifier,epochRevocationIdentityValue root_id.1 epoch=.ok value.1 ∧
      value.1.length≤94 := by
  have hid := isRootId_of_digest digest
  rw [← hroot] at hid
  have hdecimal := decimal_characters hhigh
  have hcharacters : ∀ character∈(":epoch:"++toString epoch).toList,
      isIdentifierCharacter character=true := by
    have hliteral : ":epoch:".toList.all isIdentifierCharacter=true := by decide
    rw [List.all_eq_true] at hliteral
    rw [String.toList_append]
    intro character hmem
    rcases List.mem_append.mp hmem with hleft | hright
    · exact hliteral character hleft
    · exact hdecimal.2 character hright
  have hlength : (":epoch:"++toString epoch).length≤23 := by
    rw [String.length_append]
    have hliteral : ":epoch:".length=7 := rfl
    omega
  have hvalid := (isIdentifier_append root_id.2 hcharacters).mpr (by rw [hid.2]; omega)
  refine ⟨⟨root_id.1++(":epoch:"++toString epoch),hvalid⟩,?_,?_⟩
  · rw [epochRevocationIdentityValue,check_bind_eq_ok,require_eq_ok,String.append_assoc]
    exact ⟨⟨hid.1,hlow,hhigh⟩,rfl⟩
  · rw [String.length_append,hid.2]
    omega

/-- Kinds of an identity without a separator are told apart by the prefixed text. -/
theorem prefixedLogicalId_injective {kinds : List String} {error kind other value otherValue id : String}
    (hkinds : ∀ kind∈kinds,':'∉kind.toList)
    (h : prefixedLogicalId kinds error kind value=.ok id)
    (hother : prefixedLogicalId kinds error other otherValue=.ok id) :
    kind=other ∧ value=otherValue := by
  obtain ⟨hkind,-,hid⟩ := prefixedLogicalId_eq_ok.mp h
  obtain ⟨hotherKind,-,hotherId⟩ := prefixedLogicalId_eq_ok.mp hother
  have htext := congrArg String.toList (hid.trans hotherId.symm)
  simp only [String.toList_append,List.append_assoc] at htext
  have htake : ∀ {kind value : String},':'∉kind.toList →
      (kind.toList++(":".toList++value.toList)).takeWhile (fun character => character≠ ':')=
        kind.toList := by
    intro kind value hmem
    have hcolon : ":".toList=[':'] := rfl
    rw [List.takeWhile_append_of_pos,hcolon,List.singleton_append,List.takeWhile_cons_of_neg,
      List.append_nil]
    · decide
    · intro character hcharacter
      rw [decide_eq_true_eq]
      rintro rfl
      exact hmem hcharacter
  have hsame := congrArg (List.takeWhile (fun character => decide (character≠ ':'))) htext
  rw [htake (hkinds kind hkind),htake (hkinds other hotherKind)] at hsame
  rw [hsame] at htext
  have hvalues := List.append_cancel_left (List.append_cancel_left htext)
  exact ⟨String.toList_inj.mp hsame,String.toList_inj.mp hvalues⟩

/-- The document ids of a release are defined exactly when both identities,
with their kinds, fit the identifier bound. -/
theorem releaseIdentityDocumentIds_iff {sha256 : Bytes → Sha256Digest}
    (request_id idempotency_key : Identifier) :
    (∃ ids,releaseIdentityDocumentIds sha256 request_id idempotency_key=.ok ids) ↔
      request_id.1.length≤120 ∧ idempotency_key.1.length≤116 := by
  have hrequest : (∃ document_id,
      serviceClaimReleaseIdentityDocumentId sha256 "REQUEST" request_id.1=.ok document_id) ↔
        "REQUEST:".length+request_id.1.length≤128 :=
    prefixed_document_iff request_id (by decide) (by decide)
  have hidempotency : (∃ document_id,
      serviceClaimReleaseIdentityDocumentId sha256 "IDEMPOTENCY" idempotency_key.1=.ok document_id) ↔
        "IDEMPOTENCY:".length+idempotency_key.1.length≤128 :=
    prefixed_document_iff idempotency_key (by decide) (by decide)
  have hlengths : "REQUEST:".length=8 ∧ "IDEMPOTENCY:".length=12 := by decide
  simp only [releaseIdentityDocumentIds,bind_eq_ok]
  constructor
  · rintro ⟨ids,request,hrequestId,idempotency,hidempotencyId,-⟩
    have hfirst := hrequest.mp ⟨request,hrequestId⟩
    have hsecond := hidempotency.mp ⟨idempotency,hidempotencyId⟩
    omega
  · rintro ⟨hfirst,hsecond⟩
    obtain ⟨request,hrequestId⟩ := hrequest.mpr (by omega)
    obtain ⟨idempotency,hidempotencyId⟩ := hidempotency.mpr (by omega)
    exact ⟨_,request,hrequestId,idempotency,hidempotencyId,rfl⟩

/-- The document ids of a revocation below the greatest epoch are defined
exactly when its request identities, with their kinds, fit the bound. -/
theorem revocationIdentityDocumentIds_iff {sha256 : Bytes → Sha256Digest}
    (command : EpochRevocationCommandV1) (hepoch : command.expected_epoch.1<9007199254740991) :
    (∃ ids,command.identityDocumentIds sha256=.ok ids) ↔
      command.request_id.1.length≤120 ∧ command.idempotency_key.1.length≤116 := by
  obtain ⟨value,hvalue,hshort⟩ := epochRevocationIdentityValue_ok command.root_identity
    (show 2 ≤ command.expected_epoch.1+1 by have := command.expected_epoch.2.1; omega)
    (show command.expected_epoch.1+1≤9007199254740991 by omega)
  have hrequest : (∃ document_id,epochRevocationIdentityDocumentId sha256 "REQUEST"
      command.request_id.1=.ok document_id) ↔
        "REQUEST:".length+command.request_id.1.length≤128 :=
    prefixed_document_iff command.request_id (by decide) (by decide)
  have hidempotency : (∃ document_id,epochRevocationIdentityDocumentId sha256 "IDEMPOTENCY"
      command.idempotency_key.1=.ok document_id) ↔
        "IDEMPOTENCY:".length+command.idempotency_key.1.length≤128 :=
    prefixed_document_iff command.idempotency_key (by decide) (by decide)
  have hepochId : (∃ document_id,epochRevocationIdentityDocumentId sha256 "EPOCH" value.1=
      .ok document_id) ↔ "EPOCH:".length+value.1.length≤128 :=
    prefixed_document_iff value (by decide) (by decide)
  have hlengths : "REQUEST:".length=8 ∧ "IDEMPOTENCY:".length=12 ∧ "EPOCH:".length=6 := by decide
  simp only [EpochRevocationCommandV1.identityDocumentIds,bind_eq_ok,hvalue,Except.ok.injEq]
  constructor
  · rintro ⟨ids,request,hrequestId,idempotency,hidempotencyId,-⟩
    have hfirst := hrequest.mp ⟨request,hrequestId⟩
    have hsecond := hidempotency.mp ⟨idempotency,hidempotencyId⟩
    omega
  · rintro ⟨hfirst,hsecond⟩
    obtain ⟨request,hrequestId⟩ := hrequest.mpr (by omega)
    obtain ⟨idempotency,hidempotencyId⟩ := hidempotency.mpr (by omega)
    obtain ⟨epoch,hepochDocument⟩ := hepochId.mpr (by omega)
    exact ⟨_,request,hrequestId,idempotency,hidempotencyId,value.1,rfl,epoch,hepochDocument,rfl⟩

/-- The identities of a revocation or a release can be stored exactly when the
request id has at most 120 characters and the idempotency key at most 116.
Distinct kinds and values always have distinct logical ids. -/
theorem command_identities_storable (sha256 : Bytes → Sha256Digest) :
    (∀ command : EpochRevocationCommandV1,command.expected_epoch.1<9007199254740991 →
      ((∃ ids,command.identityDocumentIds sha256=.ok ids) ↔
        command.request_id.1.length≤120 ∧ command.idempotency_key.1.length≤116)) ∧
    (∀ command : ServiceClaimReleaseCommandV1,
      (∃ ids,command.identityDocumentIds sha256=.ok ids) ↔
        command.request_id.1.length≤120 ∧ command.idempotency_key.1.length≤116) ∧
    (∀ command : StrandedStableClaimReleaseCommandV1,
      (∃ ids,command.identityDocumentIds sha256=.ok ids) ↔
        command.request_id.1.length≤120 ∧ command.idempotency_key.1.length≤116) ∧
    (∀ kind other value otherValue id,epochRevocationIdentityLogicalId kind value=.ok id →
      epochRevocationIdentityLogicalId other otherValue=.ok id → kind=other ∧ value=otherValue) ∧
    (∀ kind other value otherValue id,serviceClaimReleaseIdentityLogicalId kind value=.ok id →
      serviceClaimReleaseIdentityLogicalId other otherValue=.ok id →
        kind=other ∧ value=otherValue) := by
  refine ⟨?_,?_,?_,?_,?_⟩
  · intro command hepoch
    exact revocationIdentityDocumentIds_iff command hepoch
  · intro command
    exact releaseIdentityDocumentIds_iff command.request_id command.idempotency_key
  · intro command
    exact releaseIdentityDocumentIds_iff command.request_id command.idempotency_key
  · intro kind other value otherValue id h hother
    exact prefixedLogicalId_injective (by decide) h hother
  · intro kind other value otherValue id h hother
    exact prefixedLogicalId_injective (by decide) h hother

def zeroSha256 : Sha256Digest := ⟨String.ofList (List.replicate 64 '0'),by
  rw [isSha256,String.toList_ofList]
  decide⟩

/-- Texts of repeated letters are identifiers up to the length bound. -/
theorem isIdentifier_replicate {length : Nat} (hpos : 0 < length) (hlength : length≤128) :
    isIdentifier (String.ofList (List.replicate length 'a'))=true := by
  obtain ⟨length,rfl⟩ : ∃ smaller,length=smaller+1 := ⟨length-1,by omega⟩
  rw [isIdentifier_iff,String.toList_ofList,List.replicate_succ]
  refine ⟨'a',_,rfl,rfl,?_,?_⟩
  · intro character hmem
    rw [List.eq_of_mem_replicate hmem]
    rfl
  · rw [String.length_ofList,List.length_cons,List.length_replicate]
    exact hlength

/-- A release whose request id has 121 letters. -/
def longRelease : ServiceClaimReleaseCommandV1 where
  root_id := ⟨"cgroot:"++zeroSha256.1,isIdentifier_root zeroSha256⟩
  expected_root_sha256 := zeroSha256
  expected_epoch := firstEpoch
  request_id := ⟨String.ofList (List.replicate 121 'a'),isIdentifier_replicate (by omega) (by omega)⟩
  idempotency_key := ⟨"release",by decide⟩
  root_identity := rfl

/-- Not every admitted command has storable identities. -/
theorem command_identities_refuted : ¬∀ (sha256 : Bytes → Sha256Digest)
    (command : ServiceClaimReleaseCommandV1),∃ ids,command.identityDocumentIds sha256=.ok ids := by
  intro h
  have hids := h (fun _ => zeroSha256) longRelease
  have hlengths := (releaseIdentityDocumentIds_iff longRelease.request_id
    longRelease.idempotency_key).mp hids
  have hlong : longRelease.request_id.1.length=121 := by
    rw [longRelease,String.length_ofList,List.length_replicate]
  omega

end ControlGraph.StorageIdentity
