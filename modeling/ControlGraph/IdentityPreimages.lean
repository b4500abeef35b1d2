import ControlGraph.HealthWindows
import ControlGraph.LengthFraming
import ControlGraph.NestedRecords
import ControlGraph.TimestampTexts
import ControlGraph.TimelineReading

/-!
# What hashed identities are taken over

A query and an observation are identified by framed parts, a sample set by its
count and digests of fixed width, a document by two texts with a null byte
between them, and a mutation and its claim by sorted JSON. None of these byte
strings is given by two inputs. The lists of an observation have no marks between
them: there are two queries, and the count of duplicates says how many of the
other digests belong to selected samples.
-/

namespace ControlGraph.IdentityPreimages

open Checks ContractText ConsoleValues JsonText JsonValues LengthFraming MonitoringCollection
  MonitoringContracts ReceiptContracts StorageIdentity TimelineReading TimestampTexts Utf8Text

open FlatRecords (Written written_chars literal_of_chars)

open HealthWindows (sampleSetDigestDomain sampleSetSha256)

open MonitoringIngestion (utcText_valid duplicate_count_add)

open NestedRecords (Record)

def queryIdDomain : Bytes := asciiBytes "controlgraph.monitoring-query-id/v1"++[0]

/-- Components of the identity of a query. -/
def queryParts (query : MonitoringMetricQueryFields) : List Bytes :=
  [utf8Bytes (chars query.policy_sha256.1),utf8Bytes (chars query.target.project_id.1),
    utf8Bytes (chars query.target.region.1),utf8Bytes (chars query.target.environment.1),
    utf8Bytes (chars query.target.service_name.1),utf8Bytes (chars query.root_sha256.1),
    utf8Bytes (chars (toString query.epoch.1)),utf8Bytes (chars query.candidate_revision.1),
    utf8Bytes (utcText query.window_started_at),utf8Bytes (utcText query.window_ended_at),
    utf8Bytes (chars query.query_kind.value)]

def monitoringQueryIdBytes (query : MonitoringMetricQueryFields) : Bytes :=
  queryIdDomain++((queryParts query).map framed).flatten

def monitoringQueryId (sha256 : Bytes → Sha256Digest) (query : MonitoringMetricQueryFields) :
    String :=
  "cgmonq:"++(sha256 (monitoringQueryIdBytes query)).1

def twoBytes (length : Nat) : Bytes := [UInt8.ofNat (length/256),UInt8.ofNat length]

/-- Two bytes determine a length below their limit. -/
theorem twoBytes_injective : ∀ first < 65536,∀ second < 65536,
    twoBytes first=twoBytes second → first=second := by
  intro first hfirst second hsecond h
  rw [twoBytes,twoBytes,List.cons.injEq,List.cons.injEq] at h
  have hhigh := congrArg UInt8.toNat h.1
  have hlow := congrArg UInt8.toNat h.2.1
  simp only [UInt8.toNat_ofNat'] at hhigh hlow
  omega

theorem framed_injective {parts others : List Bytes} (hparts : ∀ part∈parts,part.length < 65536)
    (hothers : ∀ part∈others,part.length < 65536)
    (h : (parts.map framed).flatten=(others.map framed).flatten) : parts=others :=
  @frames_injective _ twoBytes 2 65536 Nat.zero_lt_two (fun _ => rfl) twoBytes_injective _ _ hparts
    hothers h

/-- A text of scalar values is determined by its UTF-8 bytes. -/
theorem utf8Bytes_injective {first second : Text} (hfirst : Written first) (hsecond : Written second)
    (h : utf8Bytes first=utf8Bytes second) : first=second := by
  have hencoded : encodeUtf8 second=some (utf8Bytes second) := if_pos hsecond
  rw [← h] at hencoded
  exact encodeUtf8_injective (if_pos hfirst) hencoded

/-- A literal is determined by its UTF-8 bytes. -/
theorem utf8Chars_injective {first second : String}
    (h : utf8Bytes (chars first)=utf8Bytes (chars second)) : first=second :=
  literal_of_chars (utf8Bytes_injective (written_chars first) (written_chars second) h)

/-- An ASCII text is written as one byte for each character. -/
theorem utf8Bytes_ascii {text : String} (h : IsAscii text) :
    utf8Bytes (chars text)=asciiBytes text := by
  have hascii := chars_ascii h
  rw [utf8Bytes,asciiBytes_eq]
  generalize chars text=characters at hascii ⊢
  induction characters with
  | nil => rfl
  | cons character characters ih =>
    rw [List.forall_mem_cons] at hascii
    rw [List.flatMap_cons,utf8EncodeChar_ascii hascii.1,ih hascii.2]
    rfl

theorem asciiBytes_injective {first second : String} (hfirst : IsAscii first)
    (hsecond : IsAscii second) (h : asciiBytes first=asciiBytes second) : first=second := by
  rw [← utf8Bytes_ascii hfirst,← utf8Bytes_ascii hsecond] at h
  exact utf8Chars_injective h

theorem length_asciiBytes (text : String) : (asciiBytes text).length=text.length := by
  rw [asciiBytes_eq,chars_eq,List.length_map,List.length_map,String.length_toList]

theorem isAscii_number (value : Nat) : IsAscii (toString value) := by
  have htext : (toString value).toList=Nat.toDigits 10 value := Nat.toList_repr
  intro character hmem
  rw [htext] at hmem
  have hdigit := Nat.isDigit_of_mem_toDigits (by omega) (by omega) hmem
  rw [Char.isDigit,Bool.and_eq_true,decide_eq_true_eq,decide_eq_true_eq] at hdigit
  have hle : character.val.toNat ≤ 57 := hdigit.2
  exact Nat.lt_of_le_of_lt hle (by omega)

theorem number_injective {first second : Nat} (h : toString first=toString second) :
    first=second := by
  have hdigits : Nat.toDigits 10 first=Nat.toDigits 10 second := by
    have htext := congrArg String.toList h
    rwa [show (toString first).toList=Nat.toDigits 10 first from Nat.toList_repr,
      show (toString second).toList=Nat.toDigits 10 second from Nat.toList_repr] at htext
  have hvalue := congrArg (fun digits => Nat.ofDigitChars 10 digits 0) hdigits
  rwa [Nat.ofDigitChars_toDigits (by omega) (by omega),
    Nat.ofDigitChars_toDigits (by omega) (by omega)] at hvalue

/-- A number of at most six digits is written with as many. -/
theorem length_padded {width value : Nat} (h : value < 1000000) (hwidth : width ≤ 4) :
    (padded width value).length ≤ 6 := by
  have hdigits : (decimal value).length ≤ 6 := by
    unfold decimal
    split_ifs with hzero
    · exact (by decide : ([code '0'] : Text).length ≤ 6)
    · rw [List.length_map,List.length_reverse,Nat.digits_length_le_iff (by omega)]
      omega
  rw [padded,List.length_append,List.length_replicate]
  omega

/-- The parts of a date of four-digit years are small. -/
theorem civilDate_small {days : Int} (hlow : -719162 ≤ days) (hhigh : days ≤ 2932896) :
    (civilDate days).1.toNat < 1000000 ∧ (civilDate days).2.1 < 1000000 ∧
      (civilDate days).2.2 < 1000000 := by
  unfold civilDate
  simp only
  refine ⟨?_,?_,?_⟩
  · split_ifs <;> omega
  · split_ifs <;> omega
  · omega

theorem length_utcText (second : UtcSecond) : (utcText second).length ≤ 42 := by
  have hsecond := second.2
  have hsmall := civilDate_small (show -719162 ≤ second.1/86400 by omega)
    (show second.1/86400 ≤ 2932896 by omega)
  rcases hdate : civilDate (second.1/86400) with ⟨year,month,day⟩
  simp only [hdate] at hsmall
  obtain ⟨hyear,hmonth,hday⟩ := hsmall
  have htime : ∀ value < 86400,value/3600 < 1000000 ∧ value/60%60 < 1000000 ∧
      value%60 < 1000000 := by omega
  obtain ⟨hhour,hminute,hrest⟩ := htime (second.1%86400).toNat (by omega)
  have hyears := length_padded hyear (show 4 ≤ 4 by omega)
  have hmonths := length_padded hmonth (show 2 ≤ 4 by omega)
  have hdays := length_padded hday (show 2 ≤ 4 by omega)
  have hhours := length_padded hhour (show 2 ≤ 4 by omega)
  have hminutes := length_padded hminute (show 2 ≤ 4 by omega)
  have hseconds := length_padded hrest (show 2 ≤ 4 by omega)
  simp only [utcText,hdate,List.length_append,List.length_cons,List.length_nil]
  omega

/-- The text of a timestamp fits a frame. -/
theorem length_utcBytes (second : UtcSecond) : (utf8Bytes (utcText second)).length < 65536 := by
  have hlength := length_utcText second
  have hbytes : ∀ text : Text,(∀ character∈text,character.isValidChar) →
      (utf8Bytes text).length ≤ 4*text.length := by
    intro text hvalid
    induction text with
    | nil => rfl
    | cons character text ih =>
      have hrest := ih fun other hmem => hvalid other (List.mem_cons_of_mem _ hmem)
      have hone : (String.utf8EncodeChar (Char.ofNat character)).length ≤ 4 := by
        rw [String.length_utf8EncodeChar]
        exact Char.utf8Size_le_four _
      rw [utf8Bytes] at hrest ⊢
      rw [List.flatMap_cons,List.length_append,List.length_cons]
      omega
  have hsize := hbytes (utcText second) (utcText_valid second)
  omega

/-- A text of at most 128 ASCII characters fits a frame. -/
theorem length_textBytes {text : String} (hascii : IsAscii text) (h : text.length ≤ 128) :
    (utf8Bytes (chars text)).length < 65536 := by
  rw [utf8Bytes_ascii hascii,length_asciiBytes]
  omega

/-- The components of a query fit their frames. -/
theorem queryParts_short (query : MonitoringMetricQueryFields) :
    ∀ part∈queryParts query,part.length < 65536 := by
  have hdigest : ∀ digest : Sha256Digest,(utf8Bytes (chars digest.1)).length < 65536 := by
    intro digest
    have hlength := (digest_characters digest).1
    exact length_textBytes (isAscii_digest digest) (by omega)
  have hname : ∀ name : CloudRunName,(utf8Bytes (chars name.1)).length < 65536 := by
    intro name
    have hlength := name.2.2
    exact length_textBytes (isAscii_hyphenated name.2.1) (by omega)
  have hproject := query.target.project_id.2
  have hregion := region_spec query.target.region.2
  have henvironment := query.target.environment.2
  obtain ⟨-,-,-,-,-,hlength⟩ := isIdentifier_iff.mp henvironment
  have hepoch := (decimal_characters query.epoch.2.2).1
  have hkind : IsAscii query.query_kind.value ∧ query.query_kind.value.length ≤ 128 := by
    cases query.query_kind <;> decide
  simp only [queryParts,List.forall_mem_cons,List.not_mem_nil,false_implies,implies_true,and_true]
  refine ⟨hdigest _,length_textBytes (isAscii_hyphenated hproject.1) (by omega),
    length_textBytes hregion.1 (by omega),
    length_textBytes (isAscii_identifier henvironment) hlength,
    hname _,hdigest _,length_textBytes (isAscii_number _) (by omega),hname _,length_utcBytes _,
    length_utcBytes _,length_textBytes hkind.1 hkind.2⟩

theorem monitoringQueryIdBytes_injective {first second : MonitoringMetricQueryV1}
    (h : monitoringQueryIdBytes first.toMonitoringMetricQueryFields=
      monitoringQueryIdBytes second.toMonitoringMetricQueryFields) : first=second := by
  have hparts := framed_injective (queryParts_short _) (queryParts_short _)
    (List.append_cancel_left h)
  simp only [queryParts,List.cons.injEq,and_true] at hparts
  obtain ⟨hpolicy,hproject,hregion,henvironment,hservice,hroot,hepoch,hcandidate,hstarted,hended,
    hkind⟩ := hparts
  have hdigest : ∀ {one other : Sha256Digest},
      utf8Bytes (chars one.1)=utf8Bytes (chars other.1) → one=other :=
    fun hsame => Subtype.ext (utf8Chars_injective hsame)
  have htime : ∀ {one other : UtcSecond},utf8Bytes (utcText one)=utf8Bytes (utcText other) →
      one=other :=
    fun hsame => utcText_injective
      (utf8Bytes_injective (utcText_valid _) (utcText_valid _) hsame)
  have hkinds : first.query_kind=second.query_kind := by
    have hvalue := utf8Chars_injective hkind
    cases hone : first.query_kind <;> cases hother : second.query_kind <;>
      rw [hone,hother] at hvalue <;> first | rfl | exact absurd hvalue (by decide)
  have htarget : first.target=second.target := by
    have hone := Subtype.ext (utf8Chars_injective hproject)
    have htwo := Subtype.ext (utf8Chars_injective hregion)
    have hthree := Subtype.ext (utf8Chars_injective henvironment)
    have hfour := Subtype.ext (utf8Chars_injective hservice)
    cases hfirst : first.target
    cases hsecond : second.target
    rw [hfirst,hsecond] at hone htwo hthree hfour
    cases hone; cases htwo; cases hthree; cases hfour
    rfl
  have hrootId : first.root_id=second.root_id := by
    have hfirst := first.accepted
    have hsecond := second.accepted
    rw [MonitoringMetricQueryFields.validateQuery,check_bind_eq_ok,validateRootBinding,
      require_eq_ok] at hfirst hsecond
    have hsame := hdigest hroot
    exact Subtype.ext (by rw [hfirst.1,hsecond.1,hsame])
  have hepochs := Subtype.ext (number_injective (utf8Chars_injective hepoch))
  have hcandidates := Subtype.ext (utf8Chars_injective hcandidate)
  obtain ⟨⟨⟩,_⟩ := first
  obtain ⟨⟨⟩,_⟩ := second
  cases hkinds; cases hdigest hpolicy; cases htarget; cases hrootId; cases hdigest hroot
  cases hepochs; cases hcandidates; cases htime hstarted; cases htime hended
  rfl

/-- What one observation is identified by: a checked scope, one of its windows with
the two derived queries, and all the samples of the window. -/
structure Collected (functions : MonitoringFunctions) where
  scope : MonitoringCollectionScope functions
  window_index : Nat
  /-- Start and end of the window. -/
  bounds : UtcSecond×UtcSecond
  queries : MonitoringMetricQueryV1×MonitoringMetricQueryV1
  observed_at : UtcSecond
  samples : List MonitoringSampleV1
  index_bound : window_index≤ maximumWindows
  /-- The queries are those of the window. -/
  derived : windowQueries functions scope.toMonitoringScopeFields window_index=.ok (bounds,queries)
  samples_bound : samples.length≤ maximumPoints

section

variable {functions others : MonitoringFunctions}

/-- Digests of the two queries. -/
def Collected.querySha256s (collected : Collected functions) : List Sha256Digest :=
  [functions.query_sha256 collected.queries.1,functions.query_sha256 collected.queries.2]

/-- What was selected among the samples. -/
def Collected.selected (collected : Collected functions) : CanonicalSamples :=
  selectSamples functions collected.samples

/-- Digests of the selected samples. -/
def Collected.sampleSha256s (collected : Collected functions) : List Sha256Digest :=
  collected.selected.samples.map functions.sample_sha256

/-- The bytes that identify the observation. -/
def Collected.idBytes (collected : Collected functions) : Bytes :=
  observationIdBytes functions collected.scope.toMonitoringScopeFields collected.window_index
    collected.bounds.1 collected.bounds.2 collected.observed_at collected.querySha256s
    collected.sampleSha256s collected.selected

/-- Components before the digests. -/
def Collected.headParts (collected : Collected functions) : List Bytes :=
  [asciiBytes functions.policy_sha256.1,asciiBytes collected.scope.root_sha256.1,
    asciiBytes (toString collected.scope.epoch.1),asciiBytes collected.scope.candidate_revision.1,
    utf8Bytes (utcText collected.scope.observation_started_at),
    asciiBytes (toString collected.window_index),utf8Bytes (utcText collected.bounds.1),
    utf8Bytes (utcText collected.bounds.2),utf8Bytes (utcText collected.observed_at)]

/-- The digests of the queries, of the selected samples and of all samples. -/
def Collected.digests (collected : Collected functions) : List Sha256Digest :=
  collected.querySha256s++collected.sampleSha256s++collected.selected.source_sample_sha256s

/-- Components after the digests. -/
def Collected.tailParts (collected : Collected functions) : List Bytes :=
  [asciiBytes (toString collected.selected.duplicate_count),
    asciiBytes (if collected.selected.conflicting_duplicate then "true" else "false")]

/-- Every sample has a source digest, and those that are not selected are counted. -/
theorem Collected.lengths (collected : Collected functions) :
    collected.selected.duplicate_count+collected.sampleSha256s.length=
      collected.selected.source_sample_sha256s.length ∧
    collected.selected.source_sample_sha256s.length=collected.samples.length := by
  have hcount := @duplicate_count_add functions collected.samples
  have hsource : (selectSamples functions collected.samples).source_sample_sha256s.length=
      collected.samples.length := by
    rw [selectSamples,sortedDigests,List.length_mergeSort,List.length_map]
  rw [Collected.sampleSha256s,List.length_map,Collected.selected,hsource]
  exact ⟨hcount,rfl⟩

/-- All components fit their frames. -/
theorem Collected.parts_short (collected : Collected functions) : ∀ part∈collected.headParts++
    collected.digests.map (fun digest => asciiBytes digest.1)++collected.tailParts,
      part.length < 65536 := by
  have hdigest : ∀ digest : Sha256Digest,(asciiBytes digest.1).length < 65536 := by
    intro digest
    have hlength := (digest_characters digest).1
    rw [length_asciiBytes]
    omega
  have hnumber : ∀ value,value ≤ 9007199254740991 → (asciiBytes (toString value)).length < 65536 := by
    intro value hvalue
    have hlength := (decimal_characters hvalue).1
    rw [length_asciiBytes]
    omega
  have hname : (asciiBytes collected.scope.candidate_revision.1).length < 65536 := by
    have hlength := collected.scope.candidate_revision.2.2
    rw [length_asciiBytes]
    omega
  have hflag : ∀ flag : Bool,(asciiBytes (if flag then "true" else "false")).length < 65536 := by
    decide
  have hindex := collected.index_bound
  have hcount := collected.lengths
  have hbound := collected.samples_bound
  have hmaximum : maximumWindows ≤ 1000 ∧ maximumPoints ≤ 1000 := by decide
  simp only [List.forall_mem_append,List.forall_mem_map,Collected.headParts,Collected.tailParts,
    List.forall_mem_cons,List.not_mem_nil,false_implies,implies_true,and_true]
  exact ⟨⟨⟨hdigest _,hdigest _,hnumber _ collected.scope.epoch.2.2,hname,length_utcBytes _,
    hnumber _ (by omega),length_utcBytes _,length_utcBytes _,length_utcBytes _⟩,
    fun digest _ => hdigest digest⟩,hnumber _ (by omega),hflag _⟩

/-- Nine components stand before the digests and two after them, and two digests are
those of the queries. -/
theorem Collected.length_parts (collected : Collected functions) :
    collected.headParts.length=9 ∧ collected.tailParts.length=2 ∧
      collected.querySha256s.length=2 := ⟨rfl,rfl,rfl⟩

/-- The bytes of an observation give its digests and the components around them back. -/
theorem Collected.parts_injective {first : Collected functions} {second : Collected others}
    (h : first.idBytes=second.idBytes) : first.headParts=second.headParts ∧
      first.digests=second.digests ∧ first.tailParts=second.tailParts := by
  have hparts := framed_injective first.parts_short second.parts_short (List.append_cancel_left h)
  have hfirst := first.length_parts
  have hsecond := second.length_parts
  obtain ⟨hfront,htail⟩ := List.append_inj' hparts (by omega)
  obtain ⟨hhead,hdigests⟩ := List.append_inj hfront (by omega)
  refine ⟨hhead,List.map_injective_iff.mpr ?_ hdigests,htail⟩
  intro one other hsame
  exact Subtype.ext (asciiBytes_injective (isAscii_digest one) (isAscii_digest other) hsame)

/-- The count of duplicates tells the two lists of sample digests apart. -/
theorem Collected.digests_injective {first : Collected functions} {second : Collected others}
    (hcount : first.selected.duplicate_count=second.selected.duplicate_count)
    (h : first.digests=second.digests) : first.querySha256s=second.querySha256s ∧
      first.sampleSha256s=second.sampleSha256s ∧
      first.selected.source_sample_sha256s=second.selected.source_sample_sha256s := by
  rw [Collected.digests,Collected.digests,List.append_assoc,List.append_assoc] at h
  have hqueryLengths := And.intro first.length_parts second.length_parts
  obtain ⟨hqueries,hsamples⟩ := List.append_inj h (by omega)
  have hlength := congrArg List.length hsamples
  rw [List.length_append,List.length_append] at hlength
  have hfirst := first.lengths.1
  have hsecond := second.lengths.1
  obtain ⟨hselected,hsource⟩ := List.append_inj hsamples (by omega)
  exact ⟨hqueries,hselected,hsource⟩

/-- Observations with one identity come from one scope and one window with one set of
samples, unless the digests of two different queries collide. -/
theorem Collected.idBytes_injective {first : Collected functions} {second : Collected others}
    (hqueries : ∀ one∈[first.queries.1,first.queries.2],
      ∀ other∈[second.queries.1,second.queries.2],
        functions.query_sha256 one=others.query_sha256 other → one=other)
    (h : first.idBytes=second.idBytes) : functions.policy_sha256=others.policy_sha256 ∧
      first.scope.toMonitoringScopeFields=second.scope.toMonitoringScopeFields ∧
      first.window_index=second.window_index ∧ first.bounds=second.bounds ∧
      first.queries=second.queries ∧ first.observed_at=second.observed_at ∧
      first.sampleSha256s=second.sampleSha256s ∧ first.selected.source_sample_sha256s=
        second.selected.source_sample_sha256s ∧
      first.selected.duplicate_count=second.selected.duplicate_count ∧
      first.selected.conflicting_duplicate=second.selected.conflicting_duplicate := by
  obtain ⟨hhead,hdigests,htail⟩ := Collected.parts_injective h
  simp only [Collected.headParts,Collected.tailParts,List.cons.injEq,and_true] at hhead htail
  obtain ⟨hpolicy,-,-,-,hstarted,hindex,hstart,hend,hobserved⟩ := hhead
  have hcount := number_injective
    (asciiBytes_injective (isAscii_number _) (isAscii_number _) htail.1)
  have hflag : first.selected.conflicting_duplicate=second.selected.conflicting_duplicate := by
    have hvalue := htail.2
    revert hvalue
    cases first.selected.conflicting_duplicate <;> cases second.selected.conflicting_duplicate <;>
      decide
  have htime : ∀ {one other : UtcSecond},utf8Bytes (utcText one)=utf8Bytes (utcText other) →
      one=other :=
    fun hsame => utcText_injective
      (utf8Bytes_injective (utcText_valid _) (utcText_valid _) hsame)
  obtain ⟨hquerySha256s,hselected,hsource⟩ := Collected.digests_injective hcount hdigests
  simp only [Collected.querySha256s,List.cons.injEq,and_true] at hquerySha256s
  have hone := hqueries _ List.mem_cons_self _ List.mem_cons_self hquerySha256s.1
  have htwo := hqueries _ (List.mem_cons_of_mem _ List.mem_cons_self) _
    (List.mem_cons_of_mem _ List.mem_cons_self) hquerySha256s.2
  have hfields := (MonitoringIngestion.windowQueries_spec first.derived).requests.symm.trans
    ((congrArg MonitoringMetricQueryV1.toMonitoringMetricQueryFields hone).trans
      (MonitoringIngestion.windowQueries_spec second.derived).requests)
  simp only [queryFields,MonitoringMetricQueryFields.mk.injEq] at hfields
  obtain ⟨-,-,htarget,hrootId,hroot,hepoch,hcandidate,-,-⟩ := hfields
  have hscope : first.scope.toMonitoringScopeFields=second.scope.toMonitoringScopeFields := by
    have hstartedAt := htime hstarted
    generalize first.scope.toMonitoringScopeFields=one at *
    generalize second.scope.toMonitoringScopeFields=other at *
    cases one; cases other
    cases htarget; cases hrootId; cases hroot; cases hepoch; cases hcandidate; cases hstartedAt
    rfl
  exact ⟨Subtype.ext (asciiBytes_injective (isAscii_digest _) (isAscii_digest _) hpolicy),hscope,
    number_injective (asciiBytes_injective (isAscii_number _) (isAscii_number _) hindex),
    Prod.ext (htime hstart) (htime hend),Prod.ext hone htwo,htime hobserved,hselected,hsource,
    hcount,hflag⟩

end

/-- Hexadecimal digits are determined by their values, which are below sixteen. -/
theorem hexValue_spec {first : Char} (hfirst : isHexDigit first=true) : hexValue first < 16 ∧
    ∀ second,isHexDigit second=true → hexValue first=hexValue second → first=second := by
  have hcode : ∀ {digit : Char},isHexDigit digit=true →
      (48 ≤ digit.toNat ∧ digit.toNat ≤ 57 ∧ hexValue digit=digit.toNat-48) ∨
        (97 ≤ digit.toNat ∧ digit.toNat ≤ 102 ∧ hexValue digit=digit.toNat-87) := by
    intro digit h
    rw [isHexDigit,Bool.or_eq_true,Bool.and_eq_true,Bool.and_eq_true,decide_eq_true_eq,
      decide_eq_true_eq,decide_eq_true_eq,decide_eq_true_eq] at h
    rcases h with ⟨hlow,hhigh⟩ | ⟨hlow,hhigh⟩
    · exact .inl ⟨hlow,hhigh,if_pos hhigh⟩
    · have hletter : ¬digit ≤ '9' := by
        intro hle
        have hnumber : digit.toNat ≤ 57 := hle
        have hcode : 97 ≤ digit.toNat := hlow
        omega
      exact .inr ⟨hlow,hhigh,if_neg hletter⟩
  have hone := hcode hfirst
  refine ⟨by omega,fun second hsecond hsame => Char.toNat_inj.mp ?_⟩
  have htwo := hcode hsecond
  omega

/-- Pairs of hexadecimal digits are determined by their bytes. -/
theorem fromHex_injective {first second : List Char} (hfirst : ∀ digit∈first,isHexDigit digit=true)
    (hsecond : ∀ digit∈second,isHexDigit digit=true) (hlength : first.length=second.length)
    (heven : first.length%2=0) (h : fromHex first=fromHex second) : first=second := by
  induction first using fromHex.induct generalizing second with
  | case1 high low rest ih =>
    rcases second with _ | ⟨otherHigh,_ | ⟨otherLow,other⟩⟩
    · simp only [List.length_cons,List.length_nil] at hlength; omega
    · simp only [List.length_cons,List.length_nil] at hlength; omega
    simp only [List.forall_mem_cons] at hfirst hsecond
    rw [fromHex,fromHex,List.cons.injEq] at h
    have hbyte := congrArg UInt8.toNat h.1
    rw [UInt8.toNat_ofNat',UInt8.toNat_ofNat'] at hbyte
    have hhigh := hexValue_spec hfirst.1
    have hlow := hexValue_spec hfirst.2.1
    have hotherHigh := hexValue_spec hsecond.1
    have hotherLow := hexValue_spec hsecond.2.1
    simp only [List.length_cons] at hlength heven
    rw [hhigh.2 _ hsecond.1 (by omega),hlow.2 _ hsecond.2.1 (by omega),
      ih hfirst.2.2 hsecond.2.2 (by omega) (by omega) h.2]
  | case2 first hshort =>
    have hnil : first=[] := by
      rcases first with _ | ⟨one,_ | ⟨two,rest⟩⟩
      · rfl
      · simp only [List.length_cons,List.length_nil] at heven; omega
      · exact absurd rfl (hshort one two rest)
    rw [hnil,List.length_nil] at hlength
    rw [hnil,List.eq_nil_of_length_eq_zero hlength.symm]

/-- Two hexadecimal digits are one byte. -/
theorem length_fromHex (text : List Char) : (fromHex text).length=text.length/2 := by
  induction text using fromHex.induct with
  | case1 high low rest ih =>
    rw [fromHex,List.length_cons,ih,List.length_cons,List.length_cons]
    omega
  | case2 text hshort =>
    rcases text with _ | ⟨one,_ | ⟨two,rest⟩⟩
    · rfl
    · rw [fromHex.eq_2 _ hshort,List.length_nil,List.length_singleton]
    · exact absurd rfl (hshort one two rest)

def sampleSetBytes (sampleSha256s : List Sha256Digest) : Bytes :=
  let count := sampleSha256s.length
  sampleSetDigestDomain++[UInt8.ofNat (count/256),UInt8.ofNat count]++
    (sampleSha256s.map Subtype.val).flatMap (fun sample => fromHex sample.toList)

theorem sampleSetSha256_eq (sha256 : Bytes → Sha256Digest) {sampleSha256s : List Sha256Digest}
    (h : sampleSha256s≠[]) : sampleSetSha256 sha256 (sampleSha256s.map Subtype.val)=
      some (sha256 (sampleSetBytes sampleSha256s)).1 := by
  rw [sampleSetSha256,if_neg (by simpa only [List.map_eq_nil_iff] using h),List.length_map]
  rfl

/-- A sample set is determined by its bytes: every digest has thirty-two of them. -/
theorem sampleSetBytes_injective {first second : List Sha256Digest}
    (h : sampleSetBytes first=sampleSetBytes second) : first=second := by
  have hdigest : ∀ digest : Sha256Digest,digest.1.toList.length=64 ∧
      ∀ character∈digest.1.toList,isHexDigit character=true := by
    intro digest
    have hvalid := digest.2
    rwa [isSha256,Bool.and_eq_true,beq_iff_eq,List.all_eq_true] at hvalid
  have hlength : ∀ digest : Sha256Digest,(fromHex digest.1.toList).length=32 := by
    intro digest
    rw [length_fromHex,(hdigest digest).1]
  have hbody := List.append_inj_right h (by simp only [List.length_append,List.length_cons])
  clear h
  simp only [List.flatMap_map] at hbody
  induction first generalizing second with
  | nil =>
    cases second with
    | nil => rfl
    | cons other second =>
      have hsize := congrArg List.length hbody
      rw [List.flatMap_cons,List.length_append,hlength,List.flatMap_nil,List.length_nil] at hsize
      omega
  | cons digest first ih =>
    cases second with
    | nil =>
      have hsize := congrArg List.length hbody
      rw [List.flatMap_cons,List.length_append,hlength,List.flatMap_nil,List.length_nil] at hsize
      omega
    | cons other second =>
      rw [List.flatMap_cons,List.flatMap_cons] at hbody
      obtain ⟨hone,hrest⟩ := List.append_inj hbody ((hlength digest).trans (hlength other).symm)
      have hlengths := (hdigest digest).1.trans (hdigest other).1.symm
      have heven : digest.1.toList.length%2=0 := by rw [(hdigest digest).1]
      have hsame := fromHex_injective (hdigest digest).2 (hdigest other).2 hlengths heven hone
      rw [Subtype.ext (String.toList_inj.mp hsame),ih hrest]

def documentIdBytes (kind : AuthorityStorageKind) (logical_id : Identifier) : Bytes :=
  firestoreDocumentIdDomain++asciiBytes kind.value++[0]++asciiBytes logical_id.1

theorem documentId_eq (sha256 : Bytes → Sha256Digest) (kind : AuthorityStorageKind)
    (logical_id : Identifier) :
    documentId sha256 kind logical_id.1=.ok (sha256 (documentIdBytes kind logical_id)) := by
  rw [documentId,logicalIdentity_of logical_id.2]
  rfl

/-- The record families. -/
def storageKinds : List AuthorityStorageKind := (List.range 24).map AuthorityStorageKind.ofNat

/-- The names of the record families are ASCII texts and differ. -/
theorem storageKinds_spec : ∀ kind∈storageKinds,IsAscii kind.value ∧
    storageKinds.find? (fun found => found.value==kind.value)=some kind := by
  decide +kernel

theorem mem_storageKinds (kind : AuthorityStorageKind) : kind∈storageKinds := by
  cases kind <;> decide

/-- The record families have different names. -/
theorem kind_value_injective {first second : AuthorityStorageKind}
    (h : first.value=second.value) : first=second := by
  have hfound := (storageKinds_spec first (mem_storageKinds first)).2
  rw [h,(storageKinds_spec second (mem_storageKinds second)).2] at hfound
  exact (Option.some.inj hfound).symm

theorem documentIdBytes_injective {first second : AuthorityStorageKind} {one other : Identifier}
    (h : documentIdBytes first one=documentIdBytes second other) : first=second ∧ one=other := by
  have hzero : ∀ logical_id : Identifier,(0 : UInt8)∉asciiBytes logical_id.1 := by
    intro logical_id
    have hvalid : ∀ character∈chars logical_id.1,character.isValidChar := written_chars _
    rw [← utf8Bytes_ascii (isAscii_identifier logical_id.2)]
    refine zero_not_mem_encodeUtf8 (if_pos hvalid) ?_
    intro unit hmem
    obtain ⟨character,hcharacter,rfl⟩ := mem_chars.mp hmem
    have hletter := isIdentifier_characters logical_id.2 character hcharacter
    by_contra hnot
    have hnull : character=Char.ofNat 0 := Char.toNat_inj.mp (by
      rw [show (Char.ofNat 0).toNat=0 from rfl]
      omega)
    rw [hnull] at hletter
    exact absurd hletter (by decide)
  simp only [documentIdBytes,List.append_assoc] at h
  obtain ⟨hkind,hidentity⟩ := append_zero_injective (hzero one) (hzero other)
    (List.append_cancel_left h)
  have hascii : ∀ kind : AuthorityStorageKind,IsAscii kind.value :=
    fun kind => (storageKinds_spec kind (mem_storageKinds kind)).1
  exact ⟨kind_value_injective (asciiBytes_injective (hascii first) (hascii second) hkind),
    Subtype.ext (asciiBytes_injective (isAscii_identifier one.2) (isAscii_identifier other.2)
      hidentity)⟩

def mutationJson (binding : MutationBinding) : Json :=
  .obj [(chars "action",.str (chars binding.action.value)),
    (chars "capability_sha256",.str (chars binding.capability_sha256.1)),
    (chars "epoch",.int binding.epoch),
    (chars "expected_poststate_sha256",.str (chars binding.expected_poststate_sha256.1)),
    (chars "idempotency_key",.str (chars binding.idempotency_key)),
    (chars "payload_sha256",.str (chars binding.payload_sha256.1)),
    (chars "plan_sha256",.str (chars binding.plan_sha256.1)),
    (chars "provider_precondition",.str (chars binding.provider_precondition)),
    (chars "request_id",.str (chars binding.request_id)),
    (chars "root_id",.str (chars binding.root_id)),
    (chars "root_sha256",.str (chars binding.root_sha256.1)),
    (chars "schema_version",.str (chars "controlgraph.mutation-identity/v1")),
    (chars "target",binding.target.json)]

def claimJson (target : MutationTargetKey) (idempotency_key : String) : Json :=
  .obj [(chars "idempotency_key",.str (chars idempotency_key)),
    (chars "schema_version",.str (chars "controlgraph.receipt-claim-identity/v1")),
    (chars "target",target.json)]

/-- What a mutation is identified by. -/
def mutationIdentityBytes (binding : MutationBinding) : Bytes :=
  mutationIdentityDomain++utf8Bytes (dumpsSorted (mutationJson binding))

/-- What a receipt claim is identified by. -/
def claimIdentityBytes (target : MutationTargetKey) (idempotency_key : String) : Bytes :=
  receiptClaimIdentityDomain++utf8Bytes (dumpsSorted (claimJson target idempotency_key))

theorem record_target (target : MutationTargetKey) : Record Written target.json := by
  refine .fields ["environment","project_id","region","service_name"] rfl (by decide) ?_
  simp only [List.forall_mem_cons,List.not_mem_nil,false_implies,implies_true,and_true]
  exact ⟨.literal _,.literal _,.literal _,.literal _⟩

theorem record_mutation (binding : MutationBinding) : Record Written (mutationJson binding) := by
  refine .fields ["action","capability_sha256","epoch","expected_poststate_sha256",
    "idempotency_key","payload_sha256","plan_sha256","provider_precondition","request_id","root_id",
    "root_sha256","schema_version","target"] rfl (by decide) ?_
  simp only [List.forall_mem_cons,List.not_mem_nil,false_implies,implies_true,and_true]
  exact ⟨.literal _,.literal _,.number _,.literal _,.literal _,.literal _,.literal _,.literal _,
    .literal _,.literal _,.literal _,.literal _,record_target _⟩

theorem record_claim (target : MutationTargetKey) (idempotency_key : String) :
    Record Written (claimJson target idempotency_key) := by
  refine .fields ["idempotency_key","schema_version","target"] rfl (by decide) ?_
  simp only [List.forall_mem_cons,List.not_mem_nil,false_implies,implies_true,and_true]
  exact ⟨.literal _,.literal _,record_target _⟩

theorem targetJson_injective {first second : MutationTargetKey} (h : first.json=second.json) :
    first=second := by
  simp only [MutationTargetKey.json,Json.obj.injEq,List.cons.injEq,Prod.mk.injEq,Json.str.injEq,
    true_and,and_true] at h
  obtain ⟨henvironment,hproject,hregion,hservice⟩ := h
  cases first
  cases second
  cases literal_of_chars henvironment
  cases literal_of_chars hproject
  cases literal_of_chars hregion
  cases literal_of_chars hservice
  rfl

theorem mutationIdentityBytes_injective {first second : MutationBinding}
    (h : mutationIdentityBytes first=mutationIdentityBytes second) : first=second := by
  have hjson := (record_mutation first).eq_of_bytes (record_mutation second)
    (List.append_cancel_left h)
  simp only [mutationJson,Json.obj.injEq,List.cons.injEq,Prod.mk.injEq,Json.str.injEq,
    Json.int.injEq,true_and,and_true] at hjson
  obtain ⟨haction,hcapability,hepoch,hpoststate,hkey,hpayload,hplan,hprecondition,hrequest,hrootId,
    hroot,htarget⟩ := hjson
  have hdigest : ∀ {one other : Sha256Digest},chars one.1=chars other.1 → one=other :=
    fun hsame => Subtype.ext (literal_of_chars hsame)
  have hactions : first.action=second.action := by
    have hvalue := literal_of_chars haction
    cases hone : first.action <;> cases hother : second.action <;> rw [hone,hother] at hvalue <;>
      first | rfl | exact absurd hvalue (by decide)
  have hepochs : first.epoch=second.epoch := by omega
  cases first
  cases second
  cases hactions; cases hepochs; cases hdigest hcapability; cases hdigest hpoststate
  cases literal_of_chars hkey; cases hdigest hpayload; cases hdigest hplan
  cases literal_of_chars hprecondition; cases literal_of_chars hrequest
  cases literal_of_chars hrootId; cases hdigest hroot; cases targetJson_injective htarget
  rfl

theorem claimIdentityBytes_injective {first second : MutationTargetKey} {one other : String}
    (h : claimIdentityBytes first one=claimIdentityBytes second other) : first=second ∧ one=other := by
  have hjson := (record_claim first one).eq_of_bytes (record_claim second other)
    (List.append_cancel_left h)
  simp only [claimJson,Json.obj.injEq,List.cons.injEq,Prod.mk.injEq,Json.str.injEq,true_and,
    and_true] at hjson
  exact ⟨targetJson_injective hjson.2,literal_of_chars hjson.1⟩

/-- No two inputs of an identity give the same bytes to the hash. Each identity is the
hash of its bytes, and the bytes give the input back: the fields of a checked query, the
scope, the window and the sample digests of an observation whose queries have different
digests, an ordered sample set, a family and an identifier, a mutation binding, and a
target with its key. -/
theorem identity_preimages_injective :
    ((∀ sha256 query,monitoringQueryId sha256 query=
        "cgmonq:"++(sha256 (monitoringQueryIdBytes query)).1) ∧
      ∀ first second : MonitoringMetricQueryV1,
        monitoringQueryIdBytes first.toMonitoringMetricQueryFields=
          monitoringQueryIdBytes second.toMonitoringMetricQueryFields → first=second) ∧
    (∀ (functions others : MonitoringFunctions) (first : Collected functions)
      (second : Collected others),(∀ one∈[first.queries.1,first.queries.2],
        ∀ other∈[second.queries.1,second.queries.2],
          functions.query_sha256 one=others.query_sha256 other → one=other) →
      first.idBytes=second.idBytes → functions.policy_sha256=others.policy_sha256 ∧
        first.scope.toMonitoringScopeFields=second.scope.toMonitoringScopeFields ∧
        first.window_index=second.window_index ∧ first.bounds=second.bounds ∧
        first.queries=second.queries ∧ first.observed_at=second.observed_at ∧
        first.sampleSha256s=second.sampleSha256s ∧ first.selected.source_sample_sha256s=
          second.selected.source_sample_sha256s ∧
        first.selected.duplicate_count=second.selected.duplicate_count ∧
        first.selected.conflicting_duplicate=second.selected.conflicting_duplicate) ∧
    ((∀ sha256 (sample_sha256s : List Sha256Digest),sample_sha256s≠[] →
        sampleSetSha256 sha256 (sample_sha256s.map Subtype.val)=
          some (sha256 (sampleSetBytes sample_sha256s)).1) ∧
      ∀ first second,sampleSetBytes first=sampleSetBytes second → first=second) ∧
    ((∀ sha256 kind (logical_id : Identifier),documentId sha256 kind logical_id.1=
        .ok (sha256 (documentIdBytes kind logical_id))) ∧
      ∀ first second one other,documentIdBytes first one=documentIdBytes second other →
        first=second ∧ one=other) ∧
    ((∀ sha256 binding,mutationIdentity sha256 binding=sha256 (mutationIdentityBytes binding)) ∧
      ∀ first second,mutationIdentityBytes first=mutationIdentityBytes second → first=second) ∧
    ((∀ sha256 target idempotency_key,receiptClaimIdentity sha256 target idempotency_key=
        sha256 (claimIdentityBytes target idempotency_key)) ∧
      ∀ first second one other,claimIdentityBytes first one=claimIdentityBytes second other →
        first=second ∧ one=other) :=
  ⟨⟨fun _ _ => rfl,fun _ _ => monitoringQueryIdBytes_injective⟩,
    fun _ _ _ _ => Collected.idBytes_injective,
    ⟨fun sha256 _ => sampleSetSha256_eq sha256,fun _ _ => sampleSetBytes_injective⟩,
    ⟨documentId_eq,fun _ _ _ _ => documentIdBytes_injective⟩,
    ⟨fun _ _ => rfl,fun _ _ => mutationIdentityBytes_injective⟩,
    fun _ _ _ => rfl,fun _ _ _ _ => claimIdentityBytes_injective⟩

theorem firstWindow_bound : 1≤ maximumWindows := by decide

theorem noSamples_bound : ([] : List MonitoringSampleV1).length≤ maximumPoints := by decide

theorem firstMinute_derived : windowQueries MonitoringIngestion.letterFunctions
    MonitoringIngestion.firstScope.toMonitoringScopeFields 1=
      .ok (MonitoringIngestion.firstMinute,MonitoringIngestion.firstQueries) :=
  MonitoringIngestion.queries_derived.1

/-- The first minute without a sample, observed at some time. -/
def emptyMinute (observed_at : UtcSecond) : Collected MonitoringIngestion.letterFunctions where
  scope := MonitoringIngestion.firstScope
  window_index := 1
  bounds := MonitoringIngestion.firstMinute
  queries := MonitoringIngestion.firstQueries
  observed_at := observed_at
  samples := []
  index_bound := firstWindow_bound
  derived := firstMinute_derived
  samples_bound := noSamples_bound

/-- The identity of an observation changes with the time at which it was made, and that of
a document with its family. -/
theorem identity_preimages_injective_minute :
    (emptyMinute MonitoringIngestion.firstMinute.2).idBytes≠
      (emptyMinute MonitoringIngestion.lateMinute.2).idBytes ∧
    documentIdBytes .rolloutRoot ⟨"evidence-0",firstEvidence⟩≠
      documentIdBytes .epochAuthority ⟨"evidence-0",firstEvidence⟩ := by
  have hpreimages := identity_preimages_injective
  constructor
  · intro h
    have hqueries : ∀ one∈[MonitoringIngestion.firstQueries.1,MonitoringIngestion.firstQueries.2],
        ∀ other∈[MonitoringIngestion.firstQueries.1,MonitoringIngestion.firstQueries.2],
          MonitoringIngestion.letterFunctions.query_sha256 one=
            MonitoringIngestion.letterFunctions.query_sha256 other → one=other := by
      decide +kernel
    have htimes := (hpreimages.2.1 _ _ _ _ hqueries h).2.2.2.2.2.1
    exact absurd htimes (by decide)
  · intro h
    exact absurd (hpreimages.2.2.2.1.2 _ _ _ _ h).1 (by decide)

end ControlGraph.IdentityPreimages
