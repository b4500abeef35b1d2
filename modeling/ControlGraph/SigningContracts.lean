import Mathlib.Data.Prod.Lex
import ControlGraph.Base64Url
import ControlGraph.CapabilityContracts
import ControlGraph.ReleaseContracts
import ControlGraph.VerificationContracts

/-!
# Purpose-sealed signatures

A signer is sealed to one purpose and one version of a key. It signs the digest of a
header, which names both, and of the canonical bytes of the payload. A trust
bundle lists public keys by version; it has its own reader, which accepts a byte
string only if the bundle is written back as that string. The key library and the
signing service are parameters: a key is loaded from its text, and accepts or refuses
a signature of a digest. The algorithm of claims is fixed by their contract.
-/

namespace ControlGraph.SigningContracts

open Base64Url CanonicalCodec CapabilityContracts Checks ContractText JsonText JsonValues
  MonitoringContracts ReceiptContracts RootContracts Utf8Text

open ReleaseContracts (targetJson)

open VerificationContracts (reasonCodeValue)

/-- The only signing purposes. -/
inductive SigningPurpose
  | capability | evidence
  deriving DecidableEq,Repr

/-- Wire text of a purpose. -/
def SigningPurpose.value : SigningPurpose → String
  | .capability => "CAPABILITY"
  | .evidence => "EVIDENCE"

/-- States of a key version. -/
inductive SigningKeyState
  | enabled | disabled
  deriving DecidableEq,Repr

/-- Wire text of a state. -/
def SigningKeyState.value : SigningKeyState → String
  | .enabled => "ENABLED"
  | .disabled => "DISABLED"

/-- Stable failures of signing and verification. -/
inductive SigningErrorCode
  | profileInvalid | purposeMismatch | payloadVersionMismatch | keyVersionMismatch
  | keyVersionUntrusted | keyVersionDisabled | algorithmMismatch | digestMismatch | crcMismatch
  | publicKeyInvalid | trustBundleInvalid | signatureInvalid | providerFailure
  deriving DecidableEq,Repr

/-- What signing and verification raise. -/
inductive SigningRaised
  | signingError (code : SigningErrorCode) (message : String)
  | codecError (raised : CodecRaised)
  /-- A number of too many digits. -/
  | valueError
  /-- A comparison of texts outside ASCII. -/
  | typeError
  | libraryError
  deriving DecidableEq,Repr

def signingAlgorithm : Text := chars "EC_SIGN_P256_SHA256"

def signingDomain : Bytes := StorageIdentity.asciiBytes "controlgraph.signature-input/v1"++[0]

/-- Greatest size of a trust bundle. -/
def maxTrustBundleBytes : Nat := 65536

/-- Greatest number of trusted keys. -/
def maxTrustEntries : Nat := 32

/-- Greatest size of a public key. -/
def maxPublicKeyPemBytes : Nat := 1024

def purposePayloadVersion : SigningPurpose → Text
  | .capability => chars "controlgraph.capability-claims/v1"
  | .evidence => chars "controlgraph.evidence-event/v1"

def purposeKeyName : SigningPurpose → Text
  | .capability => chars "capability-signing"
  | .evidence => chars "evidence-signing"

/-- A project of the program, named by six to ten letters and digits. -/
def isSigningProject (text : Text) : Bool :=
  match (chars "controlgraph-canary-").isPrefixOf? text with
  | some suffix => 6 ≤ suffix.length && suffix.length ≤ 10 && suffix.all (fun character =>
      isDigit character || (code 'a' ≤ character && character ≤ code 'z'))
  | none => false

/-- Project and name of a key that matches the pattern of keys. -/
def matchKeyResource (key_resource : Text) : Option (Text×Text) :=
  match key_resource.splitOn (code '/') with
  | [projects,project,locations,location,rings,ring,keys,name] =>
    if projects=chars "projects" ∧ isSigningProject project=true ∧ locations=chars "locations" ∧
        location=chars "us-central1" ∧ rings=chars "keyRings" ∧ ring=chars "controlgraph-signing" ∧
        keys=chars "cryptoKeys" ∧ (name=chars "capability-signing" ∨ name=chars "evidence-signing")
    then some (project,name) else none
  | _ => none

/-- Key and version digits of a version that matches the pattern of versions. -/
def matchKeyVersion (key_version : Text) : Option (Text×Text) :=
  let segments := key_version.splitOn (code '/')
  let key := [code '/'].intercalate (segments.take 8)
  match segments.drop 8 with
  | [versions,version] =>
    if (matchKeyResource key).isSome=true ∧ versions=chars "cryptoKeyVersions" ∧
        version.all isDigit=true ∧ version.head?.any (· != code '0')=true
    then some (key,version) else none
  | _ => none

/-- Key and number of a version. A number of more than 4300 digits is not read. -/
def parseKeyVersion (key_version : Text) : Except SigningRaised (Text×Nat) := do
  let (key,version) ← requireSome (matchKeyVersion key_version)
    (.signingError .profileInvalid "key version resource is invalid")
  require (version.length ≤ 4300) .valueError
  return (key,decimalValue version)

/-- Project and name of a key. -/
def parseKeyResource (key_resource : Text) : Except SigningRaised (Text×Text) :=
  requireSome (matchKeyResource key_resource)
    (.signingError .profileInvalid "key resource is invalid")

def validatePurposeKey (purpose : SigningPurpose) (key_resource : Text) :
    Except SigningRaised Unit := do
  let (_,key_name) ← parseKeyResource key_resource
  require (key_name=purposeKeyName purpose)
    (.signingError .profileInvalid "key resource does not match its purpose")

def validateProfileKey (purpose : SigningPurpose) (project_id key_resource : Text)
    (message : String) : Except SigningRaised Unit := do
  let (key_project,_) ← parseKeyResource key_resource
  require (key_project=project_id) (.signingError .profileInvalid message)
  validatePurposeKey purpose key_resource

def validateSigningProfile (purpose : SigningPurpose) (project_id key_version : Text) :
    Except SigningRaised Unit := do
  require (isSigningProject project_id=true)
    (.signingError .profileInvalid "signing project is invalid")
  let (key_resource,_) ← parseKeyVersion key_version
  validateProfileKey purpose project_id key_resource
    "signing key does not belong to the configured project"

/-- One purpose and one key version. -/
structure SigningProfile where
  purpose : SigningPurpose
  project_id : Text
  key_version : Text
  accepted : validateSigningProfile purpose project_id key_version=.ok ()

def validateVerificationProfile (purpose : SigningPurpose) (project_id key_resource : Text) :
    Except SigningRaised Unit := do
  require (isSigningProject project_id=true)
    (.signingError .profileInvalid "verification project is invalid")
  validateProfileKey purpose project_id key_resource
    "verification key does not belong to the configured project"

/-- One purpose and one key, in any version. -/
structure VerificationProfile where
  purpose : SigningPurpose
  project_id : Text
  key_resource : Text
  accepted : validateVerificationProfile purpose project_id key_resource=.ok ()

/-- What may be presented for signing. -/
inductive SigningPayload
  | capability (claims : CapabilityClaims)
  | evidence (event : EvidenceEvent)
  | otherContract (schema_version : Option Text)
  | notContract

def SigningPayload.schemaVersion : SigningPayload → Option Text
  | .capability _ => some (purposePayloadVersion .capability)
  | .evidence _ => some (purposePayloadVersion .evidence)
  | .otherContract schema_version => schema_version
  | .notContract => none

def SigningPayload.target : SigningPayload → Option TargetBinding
  | .capability claims => some claims.target
  | .evidence event => some event.target
  | _ => none

/-- Check that a payload belongs to a purpose, a project and a key. -/
def validatePayload (purpose : SigningPurpose) (project_id : Text) (keyMatches : Text → Bool)
    (payload : SigningPayload) : Except SigningRaised Unit := do
  require (payload matches .capability _ | .evidence _ | .otherContract _)
    (.signingError .purposeMismatch "signing payload type is invalid")
  require (payload.schemaVersion=some (purposePayloadVersion purpose))
    (.signingError .payloadVersionMismatch "signing payload version does not match its profile")
  let target ← requireSome payload.target
    (.signingError .purposeMismatch "signing payload type is invalid")
  require (chars target.project_id.1=project_id ∧ target.region.1="us-central1")
    (.signingError .keyVersionMismatch "signing key coordinates do not match the payload target")
  match purpose,payload with
  | .capability,.capability claims =>
    require (keyMatches (chars claims.signing_key_version.1)=true)
      (.signingError .keyVersionMismatch "capability key version does not match its signing profile")
  | .capability,_ => .error (.signingError .purposeMismatch
      "signing payload does not match the capability purpose")
  | .evidence,.evidence _ => .ok ()
  | .evidence,_ => .error (.signingError .purposeMismatch
      "signing payload does not match the evidence purpose")

/-- Whether a version names a version of a key. -/
def isVersionOf (key_resource key_version : Text) : Bool :=
  match parseKeyVersion key_version with
  | .ok (key,_) => key==key_resource
  | .error _ => false

/-- Wire text of an evidence kind. -/
def evidenceKindValue : EvidenceKind → String
  | .rootCreated => "ROOT_CREATED"
  | .capabilityIssued => "CAPABILITY_ISSUED"
  | .epochAdvanced => "EPOCH_ADVANCED"
  | .deliveryAuthenticated => "DELIVERY_AUTHENTICATED"
  | .capabilityVerified => "CAPABILITY_VERIFIED"
  | .receiptClaimed => "RECEIPT_CLAIMED"
  | .mutationApplied => "MUTATION_APPLIED"
  | .targetVerified => "TARGET_VERIFIED"
  | .executionDenied => "EXECUTION_DENIED"
  | .outcomeAmbiguous => "OUTCOME_AMBIGUOUS"

def textJson (text : String) : Json := .str (chars text)

def claimsJson (claims : CapabilityClaims) : Json :=
  .obj [(chars "action",textJson claims.action.value),(chars "audience",textJson claims.audience),
    (chars "candidate_percent",.int claims.candidate_percent),
    (chars "candidate_revision",textJson claims.candidate_revision.1),
    (chars "capability_id",textJson claims.capability_id.1),
    (chars "concurrency",optionalJson claims.concurrency (fun value => .int value)),
    (chars "epoch",.int claims.epoch.1),(chars "expires_at",.str (utcText claims.expires_at)),
    (chars "idempotency_key",textJson claims.idempotency_key.1),
    (chars "issued_at",.str (utcText claims.issued_at)),(chars "issuer",textJson claims.issuer.1),
    (chars "not_before",.str (utcText claims.not_before)),
    (chars "parent_capability_sha256",
      optionalJson claims.parent_capability_sha256 (fun digest => textJson digest.1)),
    (chars "plan_sha256",textJson claims.plan_sha256.1),
    (chars "provider_etag",textJson claims.provider_etag.1),
    (chars "request_id",textJson claims.request_id.1),(chars "root_id",textJson claims.root_id.1),
    (chars "root_sha256",textJson claims.root_sha256.1),
    (chars "schema_version",textJson "controlgraph.capability-claims/v1"),
    (chars "signing_algorithm",.str signingAlgorithm),
    (chars "signing_key_version",textJson claims.signing_key_version.1),
    (chars "stable_percent",.int claims.stable_percent),
    (chars "stable_revision",textJson claims.stable_revision.1),
    (chars "subject",textJson claims.subject.1),(chars "target",targetJson claims.target)]

def eventJson (event : EvidenceEventFields) : Json :=
  .obj [(chars "actor",textJson event.actor.1),(chars "epoch",.int event.epoch.1),
    (chars "evidence_id",textJson event.evidence_id.1),
    (chars "kind",textJson (evidenceKindValue event.kind)),
    (chars "occurred_at",.str (utcText event.occurred_at)),
    (chars "previous_event_sha256",
      optionalJson event.previous_event_sha256 (fun digest => textJson digest.1)),
    (chars "provider_operation",
      optionalJson event.provider_operation (fun operation => textJson operation.1)),
    (chars "reason_code",optionalJson event.reason_code (fun reason => textJson (reasonCodeValue reason))),
    (chars "receipt_id",optionalJson event.receipt_id (fun receipt => textJson receipt.1)),
    (chars "request_id",optionalJson event.request_id (fun request => textJson request.1)),
    (chars "root_id",textJson event.root_id.1),(chars "root_sha256",textJson event.root_sha256.1),
    (chars "schema_version",textJson "controlgraph.evidence-event/v1"),
    (chars "sequence",.int event.sequence),
    (chars "subject_sha256",textJson event.subject_sha256.1),(chars "target",targetJson event.target),
    (chars "target_configuration_sha256",
      optionalJson event.target_configuration_sha256 (fun digest => textJson digest.1))]

/-- What signing and verification use: the normal form of texts, SHA-256, the loader of
public keys, and the check of a signature of a digest under a loaded key. -/
structure SigningFunctions (Key : Type) where
  nfc : Text → Text
  sha256 : Bytes → Sha256Digest
  /-- A key, whether it is on the curve, and its canonical text; a rejected text has none. -/
  load_pem_public_key : Bytes → Except SigningRaised (Option (Key×Bool×Bytes))
  /-- Whether a signature is in its only encoding and verifies. -/
  verify : Key → Bytes → Bytes → Bool

variable {Key : Type} (functions : SigningFunctions Key)

/-- Keep a result and wrap an error of the codec. -/
def coded {α : Type} (result : Except CodecRaised α) : Except SigningRaised α :=
  result.mapError .codecError

/-- Canonical bytes of a payload, which is validated again. -/
def payloadBytes (payload : SigningPayload) : Except SigningRaised Bytes :=
  match payload with
  | .capability claims => coded do
    orRaise (invalid "contract validation failed") (validateClaims claims)
    canonicalJsonValueBytes functions.nfc (claimsJson claims)
  | .evidence event => coded (canonicalJsonValueBytes functions.nfc (eventJson event.fields))
  | _ => .error (.codecError (invalid "contract validation failed"))

/-- Header of a signing input. -/
def headerJson (purpose : SigningPurpose) (key_version : Text) : Json :=
  .obj [(chars "algorithm",.str signingAlgorithm),(chars "key_version",.str key_version),
    (chars "payload_version",.str (purposePayloadVersion purpose)),
    (chars "purpose",textJson purpose.value),
    (chars "schema_version",textJson "controlgraph.signature-input/v1")]

/-- Canonical bytes of a payload and the bytes that are hashed for signing. -/
def signingMaterial (purpose : SigningPurpose) (key_version : Text) (payload : SigningPayload) :
    Except SigningRaised (Bytes×Bytes) := do
  let canonical ← payloadBytes functions payload
  let header ← coded (canonicalJsonValueBytes functions.nfc (headerJson purpose key_version))
  return (canonical,signingDomain++header++0::canonical)

/-- Canonical bytes with their digest and the digest that is signed. -/
structure CanonicalSigningInput where
  canonical_bytes : Bytes
  payload_sha256 : Sha256Digest
  digest : Sha256Digest

def hashed (material : Bytes×Bytes) : CanonicalSigningInput where
  canonical_bytes := material.1
  payload_sha256 := functions.sha256 material.1
  digest := functions.sha256 material.2

/-- Bind a payload to the purpose and the key version of a signer. -/
def buildSigningInput (profile : SigningProfile) (payload : SigningPayload) :
    Except SigningRaised CanonicalSigningInput := do
  validatePayload profile.purpose profile.project_id (· == profile.key_version) payload
  let material ← signingMaterial functions profile.purpose profile.key_version payload
  return hashed functions material

/-- Check that claims name the key version of their signature. -/
def validateDetachedKey (key_version : Text) : SigningPayload → Except SigningRaised Unit
  | .capability claims => require (chars claims.signing_key_version.1=key_version)
      (.signingError .keyVersionMismatch
        "capability key version does not match its detached signature")
  | _ => .ok ()

/-- Bind a payload to the purpose of a verifier and the key version of a signature. -/
def buildVerificationInput (profile : VerificationProfile) (key_version : Text)
    (payload : SigningPayload) : Except SigningRaised CanonicalSigningInput := do
  validatePayload profile.purpose profile.project_id (isVersionOf profile.key_resource) payload
  validateDetachedKey key_version payload
  let material ← signingMaterial functions profile.purpose key_version payload
  return hashed functions material

/-- A signature with its bindings. -/
structure DetachedSignature where
  schema_version : Text
  purpose : SigningPurpose
  key_version : Text
  algorithm : Text
  payload_version : Text
  payload_sha256 : Text
  digest_sha256 : Text
  signature : String
  deriving DecidableEq

def detachedVersion : Text := chars "controlgraph.detached-signature/v1"

def digestBytes (digest : Sha256Digest) : Bytes := fromHex digest.1.toList

/-- Sign a payload through a backend that is sealed to a profile. -/
def sign (profile : SigningProfile) (sign_digest : Bytes → Except SigningRaised Bytes)
    (payload : SigningPayload) : Except SigningRaised DetachedSignature := do
  let input ← buildSigningInput functions profile payload
  let signature ← sign_digest (digestBytes input.digest)
  require (signature≠[] ∧ signature.length ≤ 256)
    (.signingError .signatureInvalid "signer returned an invalid signature")
  return {
    schema_version := detachedVersion
    purpose := profile.purpose
    key_version := profile.key_version
    algorithm := signingAlgorithm
    payload_version := purposePayloadVersion profile.purpose
    payload_sha256 := chars input.payload_sha256.1
    digest_sha256 := chars input.digest.1
    signature := encodeBase64url signature}

/-- One trusted key version. -/
structure TrustBundleEntry where
  purpose : SigningPurpose
  key_version : Text
  algorithm : Text
  payload_version : Text
  state : SigningKeyState
  public_key_pem : Text
  public_key_sha256 : Text
  deriving DecidableEq

/-- Load a public key from its canonical text. -/
def loadP256PublicKey (pem : Text) : Except SigningRaised Key := do
  let encoded ← requireSome (encodeAscii pem)
    (.signingError .publicKeyInvalid "public key PEM is invalid")
  require (encoded≠[] ∧ encoded.length ≤ maxPublicKeyPemBytes ∧ 13∉encoded)
    (.signingError .publicKeyInvalid "public key PEM is invalid")
  let loaded ← functions.load_pem_public_key encoded
  let (key,p256,canonical) ← requireSome loaded
    (.signingError .publicKeyInvalid "public key PEM is invalid")
  require (p256=true) (.signingError .publicKeyInvalid "public key must use P-256")
  require (canonical=encoded) (.signingError .publicKeyInvalid "public key PEM is not canonical")
  return key

/-- Keep a result and name an invalid key of a bundle as such. -/
def trustedResource {α : Type} (result : Except SigningRaised α) : Except SigningRaised α :=
  result.mapError fun raised =>
    match raised with
    | .signingError _ _ => .signingError .trustBundleInvalid "trusted key resource is invalid"
    | other => other

/-- Check an entry by itself. It has a project and a key. -/
def checkEntry (entry : TrustBundleEntry) : Except SigningRaised (Text×Text) := do
  let (key_resource,_) ← trustedResource (parseKeyVersion entry.key_version)
  let (project,_) ← trustedResource (parseKeyResource key_resource)
  trustedResource (validatePurposeKey entry.purpose key_resource)
  require (entry.algorithm=signingAlgorithm)
    (.signingError .algorithmMismatch "trusted algorithm is invalid")
  require (entry.payload_version=purposePayloadVersion entry.purpose)
    (.signingError .payloadVersionMismatch "trusted payload version is invalid")
  let _ ← loadP256PublicKey functions entry.public_key_pem
  require (∀ character∈entry.public_key_sha256,character < 128) .typeError
  let encoded ← requireSome (encodeAscii entry.public_key_pem)
    (.signingError .publicKeyInvalid "public key PEM is invalid")
  require (chars (functions.sha256 encoded).1=entry.public_key_sha256)
    (.signingError .digestMismatch "trusted public key digest is invalid")
  return (project,key_resource)

/-- Take one entry. The versions, projects, keys and public keys that were seen are kept as
the entries they came with. -/
def scanEntry (seen : List (TrustBundleEntry×Text×Text)) (entry : TrustBundleEntry) :
    Except SigningRaised (List (TrustBundleEntry×Text×Text)) := do
  require (∀ earlier∈seen,earlier.1.key_version≠entry.key_version)
    (.signingError .trustBundleInvalid "trust bundle contains a duplicate key version")
  let place ← checkEntry functions entry
  require (∀ earlier∈seen,earlier.1.purpose=entry.purpose → earlier.2.2=place.2)
    (.signingError .trustBundleInvalid "one purpose cannot span multiple KMS keys")
  return (entry,place)::seen

/-- Key by which entries are ordered. -/
def entryKey (entry : TrustBundleEntry) : Lex (Text×Text) :=
  toLex (chars entry.purpose.value,entry.key_version)

/-- Entries by purpose and version. -/
def sortEntries (entries : List TrustBundleEntry) : List TrustBundleEntry :=
  entries.insertionSort (fun first second => entryKey first ≤ entryKey second)

def makeTrustBundle (entries : List TrustBundleEntry) :
    Except SigningRaised (List TrustBundleEntry) := do
  require (entries≠[] ∧ entries.length≤ maxTrustEntries)
    (.signingError .trustBundleInvalid "trust entry count is invalid")
  let seen ← entries.foldlM (scanEntry functions) []
  require (∀ one∈seen,∀ other∈seen,one.2.1=other.2.1) (.signingError .trustBundleInvalid
    "trust bundle keys must belong to one ControlGraph project")
  require (∀ one∈seen,∀ other∈seen,one.1.purpose≠other.1.purpose → one.2.2≠other.2.2)
    (.signingError .trustBundleInvalid
      "capability and evidence purposes require distinct KMS keys")
  require (∀ one∈seen,∀ other∈seen,one.1.purpose≠other.1.purpose →
      one.1.public_key_sha256≠other.1.public_key_sha256) (.signingError .trustBundleInvalid
    "capability and evidence purposes require distinct public keys")
  return sortEntries entries

/-- Public keys that were accepted together. -/
structure TrustBundle where
  entries : List TrustBundleEntry
  constructed : ∃ given,makeTrustBundle functions given=.ok entries

def entryJson (entry : TrustBundleEntry) : Json :=
  .obj [(chars "algorithm",.str entry.algorithm),(chars "key_version",.str entry.key_version),
    (chars "payload_version",.str entry.payload_version),
    (chars "public_key_pem",.str entry.public_key_pem),
    (chars "public_key_sha256",.str entry.public_key_sha256),
    (chars "purpose",textJson entry.purpose.value),(chars "state",textJson entry.state.value)]

def trustBundleVersion : Text := chars "controlgraph.signing-trust-bundle/v1"

def bundleJson (entries : List TrustBundleEntry) : Json :=
  .obj [(chars "entries",.arr ((sortEntries entries).map entryJson)),
    (chars "schema_version",.str trustBundleVersion)]

/-- The one spelling of a bundle. -/
def toJsonBytes (entries : List TrustBundleEntry) : Option Bytes :=
  encodeUtf8 (dumpsSorted (bundleJson entries))

/-- Parsing rules of bundles. A float or a constant is neither an object, a list nor a text,
which is all that is asked of it, so a null stands for it. -/
def trustHooks : Hooks where
  objectPairs := rejectDuplicateKeys
  parseFloat := fun _ => some .null
  parseConstant := fun _ => some .null

/-- Fields of an object with exactly the given names. -/
def exactFields (names : List String) (value : Json) : Option (List (Text×Json)) :=
  match value with
  | .obj fields =>
    if (∀ field∈fields,field.1∈names.map chars) ∧
        ∀ name∈names.map chars,name∈fields.map Prod.fst then some fields else none
  | _ => none

def textAt (fields : List (Text×Json)) (name : String) : Option Text :=
  match fields.lookup (chars name) with
  | some (.str text) => some text
  | _ => none

def parseEntry (value : Json) : Except SigningRaised TrustBundleEntry := do
  let fields ← requireSome (exactFields ["algorithm","key_version","payload_version",
      "public_key_pem","public_key_sha256","purpose","state"] value)
    (.signingError .trustBundleInvalid "trust entry shape is invalid")
  let text (name : String) := requireSome (textAt fields name)
    (.signingError .trustBundleInvalid "trust entry values are invalid")
  let algorithm ← text "algorithm"
  let key_version ← text "key_version"
  let payload_version ← text "payload_version"
  let public_key_pem ← text "public_key_pem"
  let public_key_sha256 ← text "public_key_sha256"
  let purpose ← text "purpose"
  let state ← text "state"
  let invalid := SigningRaised.signingError .trustBundleInvalid "trust entry enumeration is invalid"
  let purpose ← requireSome
    ([SigningPurpose.capability,.evidence].find? (fun one => chars one.value=purpose)) invalid
  let state ← requireSome
    ([SigningKeyState.enabled,.disabled].find? (fun one => chars one.value=state)) invalid
  return ⟨purpose,key_version,algorithm,payload_version,state,public_key_pem,public_key_sha256⟩

def parseTrustBundle (payload : Bytes) : Except SigningRaised (List TrustBundleEntry) := do
  require (payload≠[] ∧ payload.length≤ maxTrustBundleBytes ∧
      byteOrderMark.isPrefixOf payload=false)
    (.signingError .trustBundleInvalid "trust bundle bytes are invalid")
  let decoded ← requireSome ((decodeUtf8 payload).bind (loads trustHooks))
    (.signingError .trustBundleInvalid "trust bundle JSON is invalid")
  let fields ← requireSome (exactFields ["entries","schema_version"] decoded)
    (.signingError .trustBundleInvalid "trust bundle shape is invalid")
  let items ← requireSome (match fields.lookup (chars "entries") with
      | some (.arr items) => if textAt fields "schema_version"=some trustBundleVersion
        then some items else none
      | _ => none) (.signingError .trustBundleInvalid "trust bundle version is invalid")
  let entries ← items.mapM parseEntry
  let bundle ← makeTrustBundle functions entries
  require (toJsonBytes bundle=some payload)
    (.signingError .trustBundleInvalid "trust bundle is not canonical")
  return bundle

/-- Verify a detached signature of a payload. -/
def verifyDetached (profile : VerificationProfile) (bundle : TrustBundle functions)
    (payload : SigningPayload) (detached : DetachedSignature) : Except SigningRaised Unit := do
  require (detached.schema_version=detachedVersion)
    (.signingError .signatureInvalid "signature version is invalid")
  require (detached.purpose=profile.purpose)
    (.signingError .purposeMismatch "signature purpose is invalid")
  require (detached.algorithm=signingAlgorithm)
    (.signingError .algorithmMismatch "signature algorithm is invalid")
  require (detached.payload_version=purposePayloadVersion profile.purpose)
    (.signingError .payloadVersionMismatch "signature payload version is invalid")
  let (key_resource,_) ← (parseKeyVersion detached.key_version).mapError fun raised =>
    match raised with
    | .signingError _ _ => .signingError .keyVersionUntrusted "signature key version is invalid"
    | other => other
  let untrusted := SigningRaised.signingError .keyVersionUntrusted
    "signature key version is not trusted"
  require (key_resource=profile.key_resource) untrusted
  let entry ← requireSome
    (bundle.entries.find? (fun entry => entry.key_version=detached.key_version)) untrusted
  require (entry.purpose=profile.purpose) untrusted
  require (entry.state=.enabled)
    (.signingError .keyVersionDisabled "signature key version is disabled")
  require (entry.algorithm=detached.algorithm ∧ entry.payload_version=detached.payload_version)
    (.signingError .trustBundleInvalid "trusted key binding is invalid")
  let expected ← buildVerificationInput functions profile detached.key_version payload
  require (chars expected.payload_sha256.1=detached.payload_sha256)
    (.signingError .digestMismatch "payload digest is invalid")
  require (chars expected.digest.1=detached.digest_sha256)
    (.signingError .digestMismatch "signing digest is invalid")
  let signature ← (decodeBase64url detached.signature 256).mapError fun _ =>
    .signingError .signatureInvalid "signature encoding is invalid"
  let failed := SigningRaised.signingError .signatureInvalid "signature verification failed"
  let key ← (loadP256PublicKey functions entry.public_key_pem).mapError fun raised =>
    match raised with
    | .libraryError => .libraryError
    | _ => failed
  require (functions.verify key (digestBytes expected.digest) signature=true) failed

end ControlGraph.SigningContracts
