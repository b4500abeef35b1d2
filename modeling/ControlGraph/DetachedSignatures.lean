import ControlGraph.EvidenceIntegrity
import ControlGraph.NestedRecords
import ControlGraph.SigningContracts
import ControlGraph.TimestampTexts

/-!
# Detached signatures

What is hashed for signing has one reading: the payload follows the last null byte,
and the header names the purpose and the key version. A bundle is accepted in
every order of its entries, so that its sorted form is accepted again and is read
back from its bytes. A signature that a sealed signer gives is then verified by the
profile of the same key under every bundle that trusts the key version.
-/

namespace ControlGraph.DetachedSignatures

open Base64Url CanonicalCodec CapabilityContracts Checks ContractText JsonText JsonValues
  MonitoringContracts NestedRecords ReceiptContracts RootContracts SigningContracts Utf8Text

open FlatRecords (literal_of_chars)

open ReleaseContracts (targetJson)

open StorageIdentity (zeroSha256)

open TimestampTexts (utcText_injective)

open VerificationContracts (reasonCodeValue)

abbrev AnyRecord (value : Json) : Prop := Record (fun _ => True) value

theorem anyRecord_optional {α : Type} {json : α → Json} (h : ∀ value,AnyRecord (json value))
    (value : Option α) : AnyRecord (optionalJson value json) := by
  cases value with
  | none => exact .null
  | some value => exact h value

theorem optionalJson_injective {α : Type} {json : α → Json} {first second : Option α}
    (hnull : ∀ value,json value≠.null) (hjson : ∀ one other,json one=json other → one=other)
    (h : optionalJson first json=optionalJson second json) : first=second := by
  cases first with
  | none =>
    cases second with
    | none => rfl
    | some other => exact absurd h.symm (hnull other)
  | some one =>
    cases second with
    | none => exact absurd h (hnull one)
    | some other => rw [hjson one other h]

theorem record_of_canonical {nfc : Text → Text} {first second : Json} {encoded : Bytes}
    (hfirst : AnyRecord first) (hsecond : AnyRecord second)
    (h : canonicalJsonValueBytes nfc first=.ok encoded)
    (hother : canonicalJsonValueBytes nfc second=.ok encoded) : first=second :=
  hfirst.eq_of_text hsecond (encodeUtf8_injective (canonicalJsonValueBytes_eq_ok.mp h).2.1
    (canonicalJsonValueBytes_eq_ok.mp hother).2.1)

theorem anyRecord_text (value : String) : AnyRecord (textJson value) := .text trivial

theorem anyRecord_target (target : TargetBinding) : AnyRecord (targetJson target) := by
  refine .fields ["environment","project_id","region","schema_version","service_name"] rfl
    (by decide) ?_
  simp only [List.forall_mem_cons,List.not_mem_nil,false_implies,implies_true,and_true]
  exact ⟨.text trivial,.text trivial,.text trivial,.text trivial,.text trivial⟩

theorem anyRecord_claims (claims : CapabilityClaims) : AnyRecord (claimsJson claims) := by
  refine .fields ["action","audience","candidate_percent","candidate_revision","capability_id",
    "concurrency","epoch","expires_at","idempotency_key","issued_at","issuer","not_before",
    "parent_capability_sha256","plan_sha256","provider_etag","request_id","root_id","root_sha256",
    "schema_version","signing_algorithm","signing_key_version","stable_percent","stable_revision",
    "subject","target"] rfl (by decide) ?_
  simp only [List.forall_mem_cons,List.not_mem_nil,false_implies,implies_true,and_true]
  exact ⟨.text trivial,.text trivial,.number _,.text trivial,.text trivial,
    anyRecord_optional (fun _ => .number _) _,.number _,.text trivial,.text trivial,.text trivial,
    .text trivial,.text trivial,anyRecord_optional (fun _ => .text trivial) _,.text trivial,
    .text trivial,.text trivial,.text trivial,.text trivial,.text trivial,.text trivial,
    .text trivial,.number _,.text trivial,.text trivial,anyRecord_target _⟩

theorem anyRecord_event (event : EvidenceEventFields) : AnyRecord (eventJson event) := by
  have hoptional : ∀ {α : Type} (text : α → String) (value : Option α),
      AnyRecord (optionalJson value fun one => textJson (text one)) :=
    fun _ value => anyRecord_optional (fun _ => .text trivial) value
  refine .fields ["actor","epoch","evidence_id","kind","occurred_at","previous_event_sha256",
    "provider_operation","reason_code","receipt_id","request_id","root_id","root_sha256",
    "schema_version","sequence","subject_sha256","target","target_configuration_sha256"] rfl
    (by decide) ?_
  simp only [List.forall_mem_cons,List.not_mem_nil,false_implies,implies_true,and_true]
  exact ⟨.text trivial,.number _,.text trivial,.text trivial,.text trivial,hoptional _ _,
    hoptional _ _,hoptional _ _,hoptional _ _,hoptional _ _,.text trivial,.text trivial,
    .text trivial,.number _,.text trivial,anyRecord_target _,hoptional _ _⟩

theorem anyRecord_header (purpose : SigningPurpose) (key_version : Text) :
    AnyRecord (headerJson purpose key_version) := by
  refine .fields ["algorithm","key_version","payload_version","purpose","schema_version"] rfl
    (by decide) ?_
  simp only [List.forall_mem_cons,List.not_mem_nil,false_implies,implies_true,and_true]
  exact ⟨.text trivial,.text trivial,.text trivial,.text trivial,.text trivial⟩

theorem textJson_injective {first second : String} (h : textJson first=textJson second) :
    first=second := literal_of_chars (Json.str.inj h)

theorem refined_injective {property : String → Prop} {first second : Subtype property}
    (h : textJson first.1=textJson second.1) : first=second := Subtype.ext (textJson_injective h)

theorem timeJson_injective {first second : UtcSecond}
    (h : Json.str (utcText first)=.str (utcText second)) : first=second :=
  utcText_injective (Json.str.inj h)

theorem optionalText_injective {property : String → Prop} {first second : Option (Subtype property)}
    (h : optionalJson first (fun value => textJson value.1)=
      optionalJson second (fun value => textJson value.1)) : first=second :=
  optionalJson_injective (fun _ => Json.noConfusion) (fun _ _ => refined_injective) h

theorem targetJson_injective {first second : TargetBinding} (h : targetJson first=targetJson second) :
    first=second := by
  simp only [targetJson,Json.obj.injEq,List.cons.injEq,Prod.mk.injEq,true_and,and_true] at h
  obtain ⟨henvironment,hproject,hregion,hservice⟩ := h
  cases first
  cases second
  cases refined_injective henvironment
  cases refined_injective hproject
  cases refined_injective hregion
  cases refined_injective hservice
  rfl

theorem claimsJson_injective {first second : CapabilityClaims}
    (h : claimsJson first=claimsJson second) : first=second := by
  simp only [claimsJson,Json.obj.injEq,List.cons.injEq,Prod.mk.injEq,true_and,and_true] at h
  obtain ⟨haction,haudience,hcandidatePercent,hcandidate,hcapability,hconcurrency,hepoch,hexpires,
    hkey,hissued,hissuer,hbegins,hparent,hplan,hetag,hrequest,hrootId,hroot,hversion,hstablePercent,
    hstable,hsubject,htarget⟩ := h
  have hactions : first.action=second.action := by
    have hvalue := textJson_injective haction
    cases hone : first.action <;> cases hother : second.action <;> rw [hone,hother] at hvalue <;>
      first | rfl | exact absurd hvalue (by decide)
  have hnumbers : ∀ {one other : Nat},Json.int one=.int other → one=other := by
    intro one other hsame
    exact Int.ofNat.inj (Json.int.inj hsame)
  have hconcurrencies := optionalJson_injective (fun _ => Json.noConfusion)
    (fun _ _ => hnumbers) hconcurrency
  have hepochs := Subtype.ext (hnumbers hepoch)
  have haudiences := textJson_injective haudience
  have hcandidates := hnumbers hcandidatePercent
  have hstables := hnumbers hstablePercent
  cases first
  cases second
  cases hactions; cases haudiences; cases hcandidates; cases refined_injective hcandidate
  cases refined_injective hcapability; cases hconcurrencies; cases hepochs
  cases timeJson_injective hexpires; cases refined_injective hkey; cases timeJson_injective hissued
  cases refined_injective hissuer; cases timeJson_injective hbegins
  cases optionalText_injective hparent; cases refined_injective hplan; cases refined_injective hetag
  cases refined_injective hrequest; cases refined_injective hrootId; cases refined_injective hroot
  cases refined_injective hversion; cases hstables; cases refined_injective hstable
  cases refined_injective hsubject; cases targetJson_injective htarget
  rfl

theorem eventJson_injective {first second : EvidenceEventFields}
    (h : eventJson first=eventJson second) : first=second := by
  simp only [eventJson,Json.obj.injEq,List.cons.injEq,Prod.mk.injEq,true_and,and_true] at h
  obtain ⟨hactor,hepoch,hevidence,hkind,hoccurred,hprevious,hoperation,hreason,hreceipt,hrequest,
    hrootId,hroot,hsequence,hsubject,htarget,hconfiguration⟩ := h
  have hnumbers : ∀ {one other : Nat},Json.int one=.int other → one=other := by
    intro one other hsame
    exact Int.ofNat.inj (Json.int.inj hsame)
  have hkinds : first.kind=second.kind := by
    have hvalue := textJson_injective hkind
    cases hone : first.kind <;> cases hother : second.kind <;> rw [hone,hother] at hvalue <;>
      first | rfl | exact absurd hvalue (by decide)
  have hreasons : first.reason_code=second.reason_code := by
    refine optionalJson_injective (fun _ => Json.noConfusion) (fun one other hsame => ?_) hreason
    have hvalue := textJson_injective hsame
    cases one <;> cases other <;> first | rfl | exact absurd hvalue (by decide)
  have hepochs := Subtype.ext (hnumbers hepoch)
  have hsequences := hnumbers hsequence
  cases first
  cases second
  cases refined_injective hactor; cases hepochs; cases refined_injective hevidence; cases hkinds
  cases timeJson_injective hoccurred; cases optionalText_injective hprevious
  cases optionalText_injective hoperation; cases hreasons; cases optionalText_injective hreceipt
  cases optionalText_injective hrequest; cases refined_injective hrootId
  cases refined_injective hroot; cases hsequences; cases refined_injective hsubject
  cases targetJson_injective htarget; cases optionalText_injective hconfiguration
  rfl

section

variable {Key : Type} {functions : SigningFunctions Key}

/-- A wrapped result was a result. -/
theorem coded_eq_ok {α : Type} {result : Except CodecRaised α} {value : α} :
    coded result=.ok value ↔ result=.ok value := mapError_eq_ok

/-- JSON of a payload that may be signed. -/
def payloadJson : SigningPayload → Json
  | .capability claims => claimsJson claims
  | .evidence event => eventJson event.fields
  | _ => .null

theorem payloadBytes_spec {payload : SigningPayload} {canonical : Bytes}
    (h : payloadBytes functions payload=.ok canonical) :
    canonicalJsonValueBytes functions.nfc (payloadJson payload)=.ok canonical ∧
      AnyRecord (payloadJson payload) ∧ ∀ other bytes,payloadBytes functions other=.ok bytes →
        payloadJson payload=payloadJson other → payload=other := by
  have hdiffer : ∀ claims event,claimsJson claims≠eventJson event := by
    intro claims event hsame
    have hlength := congrArg List.length (Json.obj.inj hsame)
    simp only [List.length_cons,List.length_nil] at hlength
    omega
  cases payload with
  | capability claims =>
    rw [payloadBytes,coded_eq_ok,check_bind_eq_ok] at h
    refine ⟨h.2,anyRecord_claims claims,fun other bytes hother hsame => ?_⟩
    cases other with
    | capability others => rw [claimsJson_injective hsame]
    | evidence event => exact absurd hsame (hdiffer claims event.fields)
    | otherContract version => cases hother
    | notContract => cases hother
  | evidence event =>
    rw [payloadBytes,coded_eq_ok] at h
    refine ⟨h,anyRecord_event event.fields,fun other bytes hother hsame => ?_⟩
    cases other with
    | capability claims => exact absurd hsame.symm (hdiffer claims event.fields)
    | evidence others =>
      obtain ⟨fields,accepted⟩ := event
      obtain ⟨otherFields,otherAccepted⟩ := others
      cases eventJson_injective hsame
      rfl
    | otherContract version => cases hother
    | notContract => cases hother
  | otherContract version => cases h
  | notContract => cases h

/-- What is hashed for signing determines the purpose, the key version and the payload. -/
theorem signingMaterial_injective {purpose otherPurpose : SigningPurpose}
    {key_version otherVersion : Text} {payload other : SigningPayload}
    {canonical otherCanonical material : Bytes}
    (h : signingMaterial functions purpose key_version payload=.ok (canonical,material))
    (hother : signingMaterial functions otherPurpose otherVersion other=
      .ok (otherCanonical,material)) :
    purpose=otherPurpose ∧ key_version=otherVersion ∧ payload=other := by
  simp only [signingMaterial,bind_eq_ok,coded_eq_ok] at h hother
  obtain ⟨bytes,hpayload,header,hheader,h⟩ := h
  obtain ⟨otherBytes,hotherPayload,otherHeader,hotherHeader,hother⟩ := hother
  cases h
  obtain ⟨rfl,hmaterial⟩ := Prod.mk.inj (Except.ok.inj hother)
  obtain ⟨hjson,hrecord,hdetermined⟩ := payloadBytes_spec hpayload
  obtain ⟨hotherJson,hotherRecord,-⟩ := payloadBytes_spec hotherPayload
  have hzero : ∀ {value : Json} {encoded : Bytes},AnyRecord value →
      canonicalJsonValueBytes functions.nfc value=.ok encoded → 0∉encoded := by
    intro value encoded hvalue hencoded
    obtain ⟨hvalid,hbytes,-⟩ := canonicalJsonValueBytes_eq_ok.mp hencoded
    have hprintable := dumpsSorted_printable hvalue.uniqueKeys hvalid
    exact zero_not_mem_encodeUtf8 hbytes fun character hmem => (hprintable character hmem).1
  have hsplit := append_zero_injective (hzero hotherRecord hotherJson) (hzero hrecord hjson) hmaterial
  rw [List.append_cancel_left hsplit.1] at hotherHeader
  rw [hsplit.2] at hotherJson
  have hheaders := record_of_canonical (anyRecord_header _ _) (anyRecord_header _ _) hheader
    hotherHeader
  simp only [headerJson,Json.obj.injEq,List.cons.injEq,Prod.mk.injEq,Json.str.injEq,true_and,
    and_true] at hheaders
  obtain ⟨hversion,-,hpurpose⟩ := hheaders
  refine ⟨?_,hversion,hdetermined other _ hotherPayload
    (record_of_canonical hrecord hotherRecord hjson hotherJson)⟩
  have hvalue := textJson_injective hpurpose
  cases purpose <;> cases otherPurpose <;> first | rfl | exact absurd hvalue (by decide)

/-- Project and key of an entry. -/
def placeOf (functions : SigningFunctions Key) (entry : TrustBundleEntry) : Text×Text :=
  match checkEntry functions entry with
  | .ok place => place
  | .error _ => ([],[])

/-- Two entries may stand in one bundle before the last checks. -/
def Beside (functions : SigningFunctions Key) (first second : TrustBundleEntry) : Prop :=
  first.key_version≠second.key_version ∧
    (first.purpose=second.purpose → (placeOf functions first).2=(placeOf functions second).2)

/-- The order of two entries does not matter. -/
theorem Beside.symm {first second : TrustBundleEntry} (h : Beside functions first second) :
    Beside functions second first := ⟨h.1.symm,fun hsame => (h.2 hsame.symm).symm⟩

/-- The scan takes entries that pass by themselves and stand beside each other. -/
theorem scan_eq_ok {entries : List TrustBundleEntry} {seen final : List (TrustBundleEntry×Text×Text)}
    (hseen : ∀ earlier∈seen,earlier.2=placeOf functions earlier.1) :
    entries.foldlM (scanEntry functions) seen=.ok final ↔
      (∀ entry∈entries,checkEntry functions entry=.ok (placeOf functions entry)) ∧
      (∀ earlier∈seen,∀ entry∈entries,Beside functions earlier.1 entry) ∧
      entries.Pairwise (Beside functions) ∧
      final=(entries.map fun entry => (entry,placeOf functions entry)).reverse++seen := by
  induction entries generalizing seen with
  | nil =>
    simp only [List.foldlM_nil,pure,Except.pure,Except.ok.injEq,List.not_mem_nil,false_implies,
      implies_true,List.Pairwise.nil,List.map_nil,List.reverse_nil,List.nil_append,true_and,eq_comm]
  | cons entry entries ih =>
    have hplace : ∀ place,checkEntry functions entry=.ok place → place=placeOf functions entry := by
      intro place h
      rw [placeOf,h]
    have hstep : ∀ next,scanEntry functions seen entry=.ok next ↔
        (∀ earlier∈seen,earlier.1.key_version≠entry.key_version) ∧
          ∃ place,checkEntry functions entry=.ok place ∧
            (∀ earlier∈seen,earlier.1.purpose=entry.purpose → earlier.2.2=place.2) ∧
            (entry,place)::seen=next := by
      intro next
      rw [scanEntry,check_bind_eq_ok,require_eq_ok,bind_eq_ok]
      simp only [check_bind_eq_ok,require_eq_ok,pure,Except.pure,Except.ok.injEq]
    rw [List.foldlM_cons,bind_eq_ok]
    simp only [hstep,List.forall_mem_cons,List.pairwise_cons,List.map_cons,List.reverse_cons,
      List.append_assoc,List.singleton_append]
    constructor
    · rintro ⟨_,⟨hfresh,place,hcheck,hkeys,rfl⟩,hrest⟩
      have hown := hplace place hcheck
      have hrest := (ih (List.forall_mem_cons.mpr ⟨hown,hseen⟩)).mp hrest
      rw [hown] at hcheck hkeys hrest
      refine ⟨⟨hcheck,hrest.1⟩,fun earlier hmem => ⟨⟨hfresh earlier hmem,fun hsame => ?_⟩,
        fun other hother => hrest.2.1 earlier (List.mem_cons_of_mem _ hmem) other hother⟩,
        ⟨fun other hother => hrest.2.1 _ List.mem_cons_self other hother,hrest.2.2.1⟩,hrest.2.2.2⟩
      rw [← hkeys earlier hmem hsame,hseen earlier hmem]
    · rintro ⟨⟨hcheck,hchecks⟩,hbeside,⟨hfirst,hpairs⟩,hfinal⟩
      refine ⟨_,⟨fun earlier hmem => (hbeside earlier hmem).1.1,placeOf functions entry,hcheck,
        fun earlier hmem hsame => ?_,rfl⟩,(ih (List.forall_mem_cons.mpr ⟨rfl,hseen⟩)).mpr
          ⟨hchecks,List.forall_mem_cons.mpr ⟨hfirst,fun earlier hmem => (hbeside earlier hmem).2⟩,
            hpairs,hfinal⟩⟩
      rw [hseen earlier hmem,(hbeside earlier hmem).1.2 hsame]

/-- Entries that make a bundle. -/
structure Trusted (functions : SigningFunctions Key) (entries : List TrustBundleEntry) : Prop where
  count : entries≠[] ∧ entries.length≤ maxTrustEntries
  checked : ∀ entry∈entries,checkEntry functions entry=.ok (placeOf functions entry)
  beside : entries.Pairwise (Beside functions)
  /-- Any two entries agree on the project, and differ in their keys across purposes. -/
  together : ∀ one∈entries,∀ other∈entries,
    (placeOf functions one).1=(placeOf functions other).1 ∧ (one.purpose≠other.purpose →
      (placeOf functions one).2≠(placeOf functions other).2 ∧
        one.public_key_sha256≠other.public_key_sha256)

/-- A bundle is made of trusted entries and lists them in order. -/
theorem makeTrustBundle_eq_ok {entries bundle : List TrustBundleEntry} :
    makeTrustBundle functions entries=.ok bundle ↔ Trusted functions entries ∧
      bundle=sortEntries entries := by
  have hscan := @scan_eq_ok _ functions entries []
  have hmake : makeTrustBundle functions entries=.ok bundle ↔
      (entries≠[] ∧ entries.length≤ maxTrustEntries) ∧
      ∃ seen,entries.foldlM (scanEntry functions) []=.ok seen ∧
        (∀ one∈seen,∀ other∈seen,one.2.1=other.2.1) ∧
        (∀ one∈seen,∀ other∈seen,one.1.purpose≠other.1.purpose → one.2.2≠other.2.2) ∧
        (∀ one∈seen,∀ other∈seen,one.1.purpose≠other.1.purpose →
          one.1.public_key_sha256≠other.1.public_key_sha256) ∧ sortEntries entries=bundle := by
    rw [makeTrustBundle,check_bind_eq_ok,require_eq_ok,bind_eq_ok]
    refine and_congr Iff.rfl (exists_congr fun seen => and_congr Iff.rfl ?_)
    rw [check_bind_eq_ok,require_eq_ok,check_bind_eq_ok,require_eq_ok,check_bind_eq_ok,
      require_eq_ok]
    simp only [pure,Except.pure,Except.ok.injEq]
  rw [hmake]
  constructor
  · rintro ⟨hcount,seen,hseen,hprojects,hkeys,hpublic,rfl⟩
    obtain ⟨hchecked,-,hbeside,rfl⟩ := (hscan (List.forall_mem_nil _)).mp hseen
    simp only [List.append_nil,List.mem_reverse,List.forall_mem_map] at hprojects hkeys hpublic
    exact ⟨⟨hcount,hchecked,hbeside,fun one hone other hother => ⟨hprojects one hone other hother,
      fun hne => ⟨hkeys one hone other hother hne,hpublic one hone other hother hne⟩⟩⟩,rfl⟩
  · rintro ⟨htrusted,rfl⟩
    refine ⟨htrusted.count,_,(hscan (List.forall_mem_nil _)).mpr
      ⟨htrusted.checked,List.forall_mem_nil _,htrusted.beside,rfl⟩,?_,?_,?_,rfl⟩
    all_goals simp only [List.append_nil,List.mem_reverse,List.forall_mem_map]
    · exact fun one hone other hother => (htrusted.together one hone other hother).1
    · exact fun one hone other hother hne => ((htrusted.together one hone other hother).2 hne).1
    · exact fun one hone other hother hne => ((htrusted.together one hone other hother).2 hne).2

theorem Trusted.perm {entries others : List TrustBundleEntry} (hperm : entries.Perm others)
    (h : Trusted functions entries) : Trusted functions others := by
  have hmem : ∀ {entry},entry∈others → entry∈entries := fun hentry => hperm.mem_iff.mpr hentry
  refine ⟨⟨fun hnil => ?_,hperm.length_eq ▸ h.count.2⟩,fun entry hentry => h.checked entry (hmem hentry),
    (hperm.pairwise_iff fun hsame => hsame.symm).mp h.beside,
    fun one hone other hother => h.together one (hmem hone) other (hmem hother)⟩
  rw [hnil] at hperm
  exact h.count.1 hperm.eq_nil

theorem sortEntries_idem (entries : List TrustBundleEntry) :
    sortEntries (sortEntries entries)=sortEntries entries := by
  have htotal : Std.Total fun first second => entryKey first ≤ entryKey second :=
    ⟨fun _ _ => le_total _ _⟩
  have htrans : IsTrans TrustBundleEntry fun first second => entryKey first ≤ entryKey second :=
    ⟨fun _ _ _ => le_trans⟩
  exact (List.pairwise_insertionSort (fun first second => entryKey first ≤ entryKey second)
    entries).insertionSort_eq

/-- A bundle consists of trusted entries in their order, and makes itself again. -/
theorem made_again {given bundle : List TrustBundleEntry}
    (h : makeTrustBundle functions given=.ok bundle) : Trusted functions bundle ∧
      sortEntries bundle=bundle ∧ makeTrustBundle functions bundle=.ok bundle := by
  obtain ⟨htrusted,rfl⟩ := makeTrustBundle_eq_ok.mp h
  have hbundle := htrusted.perm (List.perm_insertionSort
    (fun first second => entryKey first ≤ entryKey second) given).symm
  have hsorted := sortEntries_idem given
  exact ⟨hbundle,hsorted,makeTrustBundle_eq_ok.mpr ⟨hbundle,hsorted.symm⟩⟩

theorem anyRecord_entry (entry : TrustBundleEntry) : AnyRecord (entryJson entry) := by
  refine .fields ["algorithm","key_version","payload_version","public_key_pem","public_key_sha256",
    "purpose","state"] rfl (by decide) ?_
  simp only [List.forall_mem_cons,List.not_mem_nil,false_implies,implies_true,and_true]
  exact ⟨.text trivial,.text trivial,.text trivial,.text trivial,.text trivial,.text trivial,
    .text trivial⟩

theorem bundleJson_uniqueKeys (entries : List TrustBundleEntry) :
    (bundleJson entries).UniqueKeys := by
  refine .obj ?_ ?_
  · show [chars "entries",chars "schema_version"].Nodup
    decide
  simp only [List.forall_mem_cons,List.not_mem_nil,false_implies,implies_true,and_true]
  exact ⟨.arr (List.forall_mem_map.mpr fun entry _ => (anyRecord_entry entry).uniqueKeys),.str _⟩

theorem bundleJson_sortKeys (entries : List TrustBundleEntry) :
    (bundleJson entries).sortKeys=bundleJson entries := by
  have hitems : Json.sortItems ((sortEntries entries).map entryJson)=
      (sortEntries entries).map entryJson := by
    rw [Json.sortItems_eq_map,List.map_map]
    exact List.map_congr_left fun entry _ => (anyRecord_entry entry).sortKeys
  have hordered : Json.keyLe (chars "entries",Json.arr ((sortEntries entries).map entryJson))
      (chars "schema_version",Json.str trustBundleVersion) := by
    show chars "entries" ≤ chars "schema_version"
    decide
  rw [bundleJson,Json.sortKeys,Json.sortFields,Json.sortFields,Json.sortFields,Json.sortKeys,
    Json.sortKeys,hitems]
  rw [List.Pairwise.insertionSort_eq (List.pairwise_pair.mpr hordered)]

/-- An object of the names in their order has exactly the fields. -/
theorem exactFields_of_keys {names : List String} {fields : List (Text×Json)}
    (h : fields.map Prod.fst=names.map chars) : exactFields names (.obj fields)=some fields := by
  refine if_pos ⟨fun field hfield => ?_,fun name hname => ?_⟩
  · rw [← h]
    exact List.mem_map_of_mem hfield
  · rwa [h]

theorem textAt_cons {name key : String} {value : Json} {fields : List (Text×Json)} :
    textAt ((chars key,value)::fields) name=
      if name=key then (match value with | .str text => some text | _ => none)
      else textAt fields name := by
  by_cases h : name=key
  · rw [if_pos h,h,textAt,List.lookup_cons_self]
    cases value <;> rfl
  · have hne : chars name≠chars key := fun hsame => h (literal_of_chars hsame)
    rw [if_neg h,textAt,List.lookup_cons,beq_false_of_ne hne,textAt]

theorem parseEntry_entryJson (entry : TrustBundleEntry) : parseEntry (entryJson entry)=.ok entry := by
  obtain ⟨purpose,key_version,algorithm,payload_version,state,pem,digest⟩ := entry
  unfold parseEntry entryJson
  rw [exactFields_of_keys rfl]
  simp only [requireSome,bind,Except.bind,textAt_cons,textJson,String.reduceEq,
    if_true,if_false]
  cases purpose <;> cases state <;> rfl

/-- A bundle is read back from its bytes, and no other bytes are read. -/
theorem parseTrustBundle_eq_ok {payload : Bytes} {bundle : List TrustBundleEntry} :
    parseTrustBundle functions payload=.ok bundle ↔
      (∃ given,makeTrustBundle functions given=.ok bundle) ∧ toJsonBytes bundle=some payload ∧
        payload.length≤ maxTrustBundleBytes := by
  constructor
  · intro h
    unfold parseTrustBundle at h
    rw [check_bind_eq_ok,require_eq_ok] at h
    obtain ⟨⟨-,hsize,-⟩,h⟩ := h
    simp only [bind_eq_ok] at h
    obtain ⟨_,-,_,-,_,-,entries,-,made,hmade,_,hbytes,h⟩ := h
    cases h
    exact ⟨⟨entries,hmade⟩,require_eq_ok.mp hbytes,hsize⟩
  · rintro ⟨⟨given,hgiven⟩,hbytes,hsize⟩
    obtain ⟨-,hsorted,hmade⟩ := made_again hgiven
    have hdumps : encodeUtf8 (dumps (bundleJson bundle))=some payload := by
      rwa [toJsonBytes,dumpsSorted,bundleJson_sortKeys] at hbytes
    have hnonempty : payload≠[] := by
      rintro rfl
      have hdecoded := decodeUtf8_encodeUtf8 hdumps
      obtain ⟨character,rest,hcons,-⟩ := dumps_cons (bundleJson bundle)
      rw [hcons] at hdecoded
      exact absurd hdecoded (by simp [decodeUtf8])
    have hloads := @loads_dumps trustHooks (fun _ h => rejectDuplicateKeys_nodup h) _
      (bundleJson_uniqueKeys bundle)
    have hitems : ((sortEntries bundle).map entryJson).mapM parseEntry=.ok bundle := by
      rw [hsorted,List.mapM_map]
      have hall := mapM_eq_map.mpr fun entry (_ : entry∈bundle) => parseEntry_entryJson entry
      rwa [List.map_id'] at hall
    unfold parseTrustBundle
    rw [require_of ⟨hnonempty,hsize,encoded_no_mark hbytes⟩,decodeUtf8_encodeUtf8 hdumps]
    simp only [Option.bind_some,hloads,requireSome,bind,Except.bind]
    rw [bundleJson,exactFields_of_keys rfl]
    simp only [List.lookup_cons_self,textAt_cons,String.reduceEq,if_true,if_false,hitems,hmade,
      require_of hbytes]
    rfl

/-- What was found when a signature was verified. -/
structure Verified (functions : SigningFunctions Key) (profile : VerificationProfile)
    (bundle : TrustBundle functions) (payload : SigningPayload) (detached : DetachedSignature)
    (entry : TrustBundleEntry) (expected : CanonicalSigningInput) (signature : Bytes) (key : Key) :
    Prop where
  version : detached.schema_version=detachedVersion
  purpose : detached.purpose=profile.purpose
  algorithm : detached.algorithm=signingAlgorithm
  payload_version : detached.payload_version=purposePayloadVersion profile.purpose
  resource : ∃ number,parseKeyVersion detached.key_version=.ok (profile.key_resource,number)
  found : bundle.entries.find? (fun entry => entry.key_version=detached.key_version)=some entry
  entry_purpose : entry.purpose=profile.purpose
  enabled : entry.state=.enabled
  binding : entry.algorithm=detached.algorithm ∧ entry.payload_version=detached.payload_version
  input : buildVerificationInput functions profile detached.key_version payload=.ok expected
  payload_digest : chars expected.payload_sha256.1=detached.payload_sha256
  digest : chars expected.digest.1=detached.digest_sha256
  encoding : decodeBase64url detached.signature 256=.ok signature
  loaded : loadP256PublicKey functions entry.public_key_pem=.ok key
  accepted : functions.verify key (digestBytes expected.digest) signature=true

theorem verifyDetached_eq_ok {profile : VerificationProfile} {bundle : TrustBundle functions}
    {payload : SigningPayload} {detached : DetachedSignature} :
    verifyDetached functions profile bundle payload detached=.ok () ↔
      ∃ entry expected signature key,
        Verified functions profile bundle payload detached entry expected signature key := by
  simp only [verifyDetached,bind_eq_ok,require_eq_ok,mapError_eq_ok,requireSome_eq_ok,exists_const,
    Prod.exists]
  constructor
  · rintro ⟨hversion,hpurpose,halgorithm,hpayload,_,number,hresource,rfl,entry,hfound,hentry,
      hstate,hbinding,expected,hinput,hcanonical,hdigest,signature,hencoding,key,hkey,hverified⟩
    exact ⟨entry,expected,signature,key,hversion,hpurpose,halgorithm,hpayload,⟨number,hresource⟩,
      hfound,hentry,hstate,hbinding,hinput,hcanonical,hdigest,hencoding,hkey,hverified⟩
  · rintro ⟨entry,expected,signature,key,h⟩
    obtain ⟨number,hresource⟩ := h.resource
    exact ⟨h.version,h.purpose,h.algorithm,h.payload_version,_,number,hresource,rfl,entry,h.found,
      h.entry_purpose,h.enabled,h.binding,expected,h.input,h.payload_digest,h.digest,signature,
      h.encoding,key,h.loaded,h.accepted⟩

theorem validatePayload_wider {purpose : SigningPurpose} {project_id : Text}
    {keyMatches wider : Text → Bool} {payload : SigningPayload}
    (h : validatePayload purpose project_id keyMatches payload=.ok ())
    (hwider : ∀ key,keyMatches key=true → wider key=true) :
    validatePayload purpose project_id wider payload=.ok () ∧
      ∀ claims,payload=.capability claims → keyMatches (chars claims.signing_key_version.1)=true := by
  delta validatePayload at h ⊢
  rw [check_bind_eq_ok,check_bind_eq_ok,bind_eq_ok] at h ⊢
  obtain ⟨hkind,hversion,target,htarget,h⟩ := h
  obtain ⟨hplace,h⟩ := check_bind_eq_ok.mp h
  have hrest : ∀ {rest : Except SigningRaised Unit},rest=.ok () →
      (do require (chars target.project_id.1=project_id ∧ target.region.1="us-central1")
            (SigningRaised.signingError .keyVersionMismatch
              "signing key coordinates do not match the payload target")
          rest)=.ok () := fun hrest => check_bind_eq_ok.mpr ⟨hplace,hrest⟩
  cases purpose with
  | capability =>
    cases payload with
    | capability claims =>
      have hkey := require_eq_ok.mp h
      refine ⟨⟨hkind,hversion,target,htarget,hrest (require_of (hwider _ hkey))⟩,?_⟩
      intro others hsame
      cases hsame
      exact hkey
    | _ => cases h
  | evidence =>
    cases payload with
    | evidence event =>
      refine ⟨⟨hkind,hversion,target,htarget,hrest h⟩,?_⟩
      intro claims hsame
      cases hsame
    | _ => cases h

theorem validateProfileKey_eq_ok {purpose : SigningPurpose} {project_id key_resource : Text}
    {message other : String} (h : validateProfileKey purpose project_id key_resource message=.ok ()) :
    validateProfileKey purpose project_id key_resource other=.ok () := by
  simp only [validateProfileKey,bind_eq_ok,Prod.exists] at h ⊢
  obtain ⟨project,name,hparsed,_,hproject,h⟩ := h
  exact ⟨project,name,hparsed,(),require_of (require_eq_ok.mp hproject),h⟩

/-- A verification profile is that of a signing profile, in any version of its key. -/
def SealedTo (profile : SigningProfile) (verifier : VerificationProfile) : Prop :=
  verifier.purpose=profile.purpose ∧ verifier.project_id=profile.project_id ∧
    ∃ number,parseKeyVersion profile.key_version=.ok (verifier.key_resource,number)

theorem signingProfile_spec (profile : SigningProfile) :
    isSigningProject profile.project_id=true ∧
      ∃ key_resource number,parseKeyVersion profile.key_version=.ok (key_resource,number) ∧
        validateProfileKey profile.purpose profile.project_id key_resource
          "signing key does not belong to the configured project"=.ok () := by
  have haccepted := profile.accepted
  simp only [validateSigningProfile,bind_eq_ok,require_eq_ok,exists_const,Prod.exists]
    at haccepted
  exact haccepted

/-- Every signing profile has its verification profile. -/
theorem exists_sealedTo (profile : SigningProfile) : ∃ verifier,SealedTo profile verifier := by
  obtain ⟨hproject,key_resource,number,hparsed,hkey⟩ := signingProfile_spec profile
  have haccepted : validateVerificationProfile profile.purpose profile.project_id key_resource=
      .ok () := check_bind_eq_ok.mpr ⟨require_of hproject,validateProfileKey_eq_ok hkey⟩
  exact ⟨⟨profile.purpose,profile.project_id,key_resource,haccepted⟩,rfl,rfl,number,hparsed⟩

theorem purpose_of_key {purpose other : SigningPurpose} {key_resource : Text}
    (h : validatePurposeKey purpose key_resource=.ok ())
    (hother : validatePurposeKey other key_resource=.ok ()) : purpose=other := by
  simp only [validatePurposeKey,bind_eq_ok,require_eq_ok,Prod.exists] at h hother
  obtain ⟨_,name,hparsed,rfl⟩ := h
  obtain ⟨_,_,hsame,hname⟩ := hother
  rw [hparsed,Except.ok.injEq,Prod.mk.injEq] at hsame
  rw [← hsame.2] at hname
  cases purpose <;> cases other <;> first | rfl | exact absurd hname (by decide)

theorem checkEntry_spec {entry : TrustBundleEntry} {place : Text×Text}
    (h : checkEntry functions entry=.ok place) :
    ∃ key_resource number,parseKeyVersion entry.key_version=.ok (key_resource,number) ∧
      validatePurposeKey entry.purpose key_resource=.ok () ∧ entry.algorithm=signingAlgorithm ∧
      entry.payload_version=purposePayloadVersion entry.purpose ∧
      ∃ key,loadP256PublicKey functions entry.public_key_pem=.ok key := by
  simp only [checkEntry,trustedResource,bind_eq_ok,mapError_eq_ok,require_eq_ok,exists_const,
    Prod.exists] at h
  obtain ⟨key_resource,number,hparsed,_,_,_,_,hpurpose,halgorithm,hversion,key,hkey,-⟩ := h
  exact ⟨key_resource,number,hparsed,hpurpose,halgorithm,hversion,key,hkey⟩

/-- An entry of a bundle is the one found under its version. -/
theorem find_entry {bundle : TrustBundle functions} {entry : TrustBundleEntry}
    (h : entry∈bundle.entries) :
    bundle.entries.find? (fun other => other.key_version=entry.key_version)=some entry := by
  obtain ⟨given,hgiven⟩ := bundle.constructed
  have hbeside := (made_again hgiven).1.beside
  cases hfound : bundle.entries.find? (fun other => other.key_version=entry.key_version) with
  | none => exact absurd (decide_eq_true rfl) (List.find?_eq_none.mp hfound entry h)
  | some other =>
    have hsome := List.find?_some hfound
    have hsame : other.key_version=entry.key_version := of_decide_eq_true hsome
    by_contra hne
    have hne : other≠entry := fun heq => hne (by rw [heq])
    have hsymm : Std.Symm (Beside functions) := ⟨fun _ _ hpair => hpair.symm⟩
    exact (hbeside.forall (List.mem_of_find?_eq_some hfound) h hne).1 hsame

/-- The one spelling of some bytes is read back. -/
theorem decodeBase64url_encodeBase64url {bytes : Bytes} {maximum_bytes : Int}
    (h : (bytes.length : Int) ≤ maximum_bytes) :
    decodeBase64url (encodeBase64url bytes) maximum_bytes=.ok bytes := by
  have hlist := toList_encodeBase64url bytes
  obtain ⟨hsextets,hcount⟩ := sextetsOf_spec bytes
  have hsize : (encodeBase64url bytes).length=(sextetsOf bytes).length := by
    rw [← String.length_toList,hlist,List.length_map]
  have hpattern : (encodeBase64url bytes).toList.all isBase64UrlCharacter=true := by
    rw [hlist]
    refine List.all_eq_true.mpr fun character hmem => ?_
    obtain ⟨sextet,hsextet,rfl⟩ := List.mem_map.mp hmem
    exact (sextetChar_spec (hsextets sextet hsextet)).2.1
  have hdecoded : b64decode ((encodeBase64url bytes).toList++
      padding (encodeBase64url bytes).length)=.ok bytes := by
    rw [hlist,hsize]
    exact b64decode_padded bytes
  refine check_bind_eq_ok.mpr ⟨require_of ⟨?_,hpattern⟩,bind_eq_ok.mpr ⟨bytes,hdecoded,?_⟩⟩
  · rw [hsize,hcount]
    omega
  · exact check_bind_eq_ok.mpr ⟨require_of ⟨h,rfl⟩,rfl⟩

/-- The verifier rebuilds the input that the signer built. -/
theorem buildVerificationInput_of_sealed {profile : SigningProfile} {verifier : VerificationProfile}
    (hsealed : SealedTo profile verifier) {payload : SigningPayload} {input : CanonicalSigningInput}
    (h : buildSigningInput functions profile payload=.ok input) :
    buildVerificationInput functions verifier profile.key_version payload=.ok input := by
  obtain ⟨hpurpose,hproject,number,hparsed⟩ := hsealed
  obtain ⟨hvalid,hinput⟩ := check_bind_eq_ok.mp h
  have hwider : ∀ key,(key==profile.key_version)=true →
      isVersionOf verifier.key_resource key=true := by
    intro key hkey
    rw [isVersionOf,eq_of_beq hkey,hparsed]
    exact beq_self_eq_true _
  obtain ⟨hvalidated,hclaims⟩ := validatePayload_wider hvalid hwider
  have hdetached : validateDetachedKey profile.key_version payload=.ok () := by
    cases payload with
    | capability claims => exact require_of (eq_of_beq (hclaims claims rfl))
    | _ => rfl
  rw [buildVerificationInput,hpurpose,hproject]
  exact check_bind_eq_ok.mpr ⟨hvalidated,check_bind_eq_ok.mpr ⟨hdetached,hinput⟩⟩

/-- A signature of a sealed signer is accepted by the verifier of its key, under every
bundle that trusts the version with a key that accepts what the backend signs. -/
theorem signed_verified {profile : SigningProfile} {sign_digest : Bytes → Except SigningRaised Bytes}
    {payload : SigningPayload} {detached : DetachedSignature}
    (h : sign functions profile sign_digest payload=.ok detached) :
    (∃ verifier,SealedTo profile verifier) ∧
    ∀ (verifier : VerificationProfile) (bundle : TrustBundle functions) (entry : TrustBundleEntry),
      SealedTo profile verifier → entry∈bundle.entries → entry.key_version=profile.key_version →
      entry.state=.enabled →
      (∀ key digest signature,loadP256PublicKey functions entry.public_key_pem=.ok key →
        sign_digest digest=.ok signature → functions.verify key digest signature=true) →
      verifyDetached functions verifier bundle payload detached=.ok () := by
  refine ⟨exists_sealedTo profile,fun verifier bundle entry hsealed hmem hversion henabled hbackend => ?_⟩
  simp only [sign,bind_eq_ok,require_eq_ok,exists_const] at h
  obtain ⟨input,hinput,signature,hsigned,⟨-,hlength⟩,h⟩ := h
  cases h
  obtain ⟨given,hgiven⟩ := bundle.constructed
  obtain ⟨key_resource,number,hparsed,hkey,halgorithm,hpayload,key,hloaded⟩ :=
    checkEntry_spec ((made_again hgiven).1.checked entry hmem)
  obtain ⟨-,own_resource,_,hownParsed,hown⟩ := signingProfile_spec profile
  have hpurposes : entry.purpose=profile.purpose := by
    rw [hversion,hownParsed,Except.ok.injEq,Prod.mk.injEq] at hparsed
    rw [← hparsed.1] at hkey
    simp only [validateProfileKey,bind_eq_ok,require_eq_ok,exists_const,Prod.exists] at hown
    obtain ⟨_,_,-,-,hown⟩ := hown
    exact purpose_of_key hkey hown
  have hrebuilt := buildVerificationInput_of_sealed hsealed hinput
  obtain ⟨hpurpose,hproject,hresource⟩ := hsealed
  refine verifyDetached_eq_ok.mpr ⟨entry,input,signature,key,rfl,hpurpose.symm,rfl,?_,hresource,?_,
    hpurposes.trans hpurpose.symm,henabled,⟨halgorithm,?_⟩,hrebuilt,rfl,rfl,
    decodeBase64url_encodeBase64url (by omega),hloaded,hbackend key _ signature hloaded hsigned⟩
  · rw [hpurpose]
  · rw [← find_entry hmem,hversion]
  · rw [hpayload,hpurposes]

end

/-! ## A sample -/

def sampleLibrary : SigningFunctions Unit where
  nfc := id
  sha256 := fun _ => zeroSha256
  load_pem_public_key := fun encoded => .ok (some ((),true,encoded))
  verify := fun _ _ _ => true

def sampleKey : Text := chars "projects/controlgraph-canary-chain1/locations/us-central1/keyRings/"++
  chars "controlgraph-signing/cryptoKeys/evidence-signing"

def sampleKeyVersion : Text := sampleKey++chars "/cryptoKeyVersions/1"

def sampleEntry : TrustBundleEntry where
  purpose := .evidence
  key_version := sampleKeyVersion
  algorithm := signingAlgorithm
  payload_version := purposePayloadVersion .evidence
  state := .enabled
  public_key_pem := chars "key"
  public_key_sha256 := chars zeroSha256.1

def samplePayload : SigningPayload := .evidence EvidenceIntegrity.sampleEvidence.event

def sampleSignature : DetachedSignature where
  schema_version := detachedVersion
  purpose := .evidence
  key_version := sampleKeyVersion
  algorithm := signingAlgorithm
  payload_version := purposePayloadVersion .evidence
  payload_sha256 := chars zeroSha256.1
  digest_sha256 := chars zeroSha256.1
  signature := "AQ"

theorem sample_accepted :
    validateSigningProfile .evidence (chars "controlgraph-canary-chain1") sampleKeyVersion=.ok () ∧
    validateVerificationProfile .evidence (chars "controlgraph-canary-chain1") sampleKey=.ok () ∧
    parseKeyVersion sampleKeyVersion=.ok (sampleKey,1) ∧
    makeTrustBundle sampleLibrary [sampleEntry]=.ok [sampleEntry] := by
  decide +kernel

def sampleProfile : SigningProfile := ⟨.evidence,_,_,sample_accepted.1⟩

def sampleVerifier : VerificationProfile := ⟨.evidence,_,_,sample_accepted.2.1⟩

def sampleTrust : TrustBundle sampleLibrary := ⟨_,_,sample_accepted.2.2.2⟩

theorem sample_signed : sign sampleLibrary sampleProfile (fun _ => .ok [1]) samplePayload=
      .ok sampleSignature ∧
    verifyDetached sampleLibrary sampleVerifier sampleTrust samplePayload sampleSignature=.ok () := by
  decide +kernel

/-- The verifier of the sample accepts what its signer gives. -/
theorem signed_verified_sample :
    verifyDetached sampleLibrary sampleVerifier sampleTrust samplePayload sampleSignature=.ok () :=
  (signed_verified sample_signed.1).2 sampleVerifier sampleTrust sampleEntry
    ⟨rfl,rfl,1,sample_accepted.2.2.1⟩ List.mem_cons_self rfl rfl (fun _ _ _ _ _ => rfl)

end ControlGraph.DetachedSignatures
