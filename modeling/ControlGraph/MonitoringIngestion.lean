import ControlGraph.MonitoringCollection

/-!
# Ingestion is order-insensitive and representable

The points of a window become samples that share the window and differ in
their series and value only, so the canonical text of a sample determines it.
The selection is therefore the same for every order of the points. The selected
samples come in the order of their series, one for each, and the aggregates of
the observation are the ones its contract computes, so the observation is
accepted wherever the digests do not collide, the totals are safe integers and
the bounds of the observation time stay inside the calendar.
-/

namespace ControlGraph.MonitoringIngestion

open Checks ContractText JsonValues JsonText Utf8Text MonitoringContracts MonitoringCollection
  SlotSelection

open JsonValues.Json (UniqueKeys keyLe sortFields sortFields_eq_map)

theorem chars_injective {first second : String} (h : chars first=chars second) : first=second := by
  have hinjective : Function.Injective Char.toNat := fun left right hsame => Char.toNat_inj.mp hsame
  rw [chars_eq,chars_eq] at h
  exact String.toList_inj.mp (List.map_injective_iff.mpr hinjective h)

/-- The characters of a literal are scalar values. -/
theorem chars_valid (literal : String) : ∀ character∈chars literal,character.isValidChar := by
  intro character hmem
  obtain ⟨source,-,rfl⟩ := List.mem_map.mp hmem
  exact source.valid

theorem optionalJson_cases {α : Type} {json : α → Json} {property : Json → Prop}
    (hnull : property .null) (hjson : ∀ value,property (json value)) (value : Option α) :
    property (optionalJson value json) := by
  cases value with
  | none => exact hnull
  | some value => exact hjson value

/-- A field of a sample holds no field of its own: it is null, a number or a text. -/
inductive Leaf : Json → Prop
  | null : Leaf .null
  | int (value : Int) : Leaf (.int value)
  /-- A text of scalar values. -/
  | str {text : Text} (text_valid : ∀ character∈text,character.isValidChar) : Leaf (.str text)

theorem Leaf.sortKeys {value : Json} (h : Leaf value) : value.sortKeys=value := by
  cases h <;> rfl

theorem Leaf.uniqueKeys {value : Json} (h : Leaf value) : UniqueKeys value := by
  cases h with
  | null => exact UniqueKeys.null
  | int value => exact UniqueKeys.int value
  | str text_valid => exact UniqueKeys.str _

theorem Leaf.allTexts {value : Json} (h : Leaf value) :
    value.AllTexts (fun text => ∀ character∈text,32 ≤ character → character.isValidChar) := by
  cases h with
  | null => exact .null
  | int value => exact .int value
  | str text_valid => exact .str fun character hmem _ => text_valid character hmem

/-- The digits of a padded number are scalar values. -/
theorem padded_valid (width value : Nat) : ∀ character∈padded width value,character.isValidChar := by
  have hascii : ∀ character : Nat,32 ≤ character → character<127 → character.isValidChar :=
    fun character _ hhigh => Or.inl (by omega)
  have hdigits : ∀ character∈decimal value,character.isValidChar := by
    have hall := forall_mem_decimalInt hascii (value : Int)
    rwa [decimalInt,if_neg (by omega),Int.natAbs_natCast] at hall
  intro character hmem
  rcases List.mem_append.mp hmem with hmem | hmem
  · rw [List.eq_of_mem_replicate hmem]
    exact hascii _ (by decide) (by decide)
  · exact hdigits character hmem

/-- The text of a timestamp is made of scalar values. -/
theorem utcText_valid (second : UtcSecond) : ∀ character∈utcText second,character.isValidChar := by
  have hmark : ∀ mark∈chars "-T:Z",mark.isValidChar := chars_valid "-T:Z"
  intro character hmem
  simp only [utcText,List.mem_append,List.mem_singleton] at hmem
  rcases hmem with ((((((((((hmem | rfl) | hmem) | rfl) | hmem) | rfl) | hmem) | rfl) | hmem) |
    rfl) | hmem) | rfl
  all_goals first
    | exact padded_valid _ _ character hmem
    | exact hmark _ (by decide)

def sampleFields (sample : MonitoringSampleFields) : List (Text×Json) :=
  match sample.json with
  | .obj fields => fields
  | _ => []

theorem json_eq_obj (sample : MonitoringSampleFields) : sample.json=.obj (sampleFields sample) := rfl

theorem sampleFields_keys (sample : MonitoringSampleFields) :
    (sampleFields sample).map Prod.fst=["int64_value","latency_microseconds","provider_double_bits",
      "provider_value_type","query_kind","query_sha256","response_code_class","schema_version","unit",
      "window_ended_at","window_started_at"].map chars := rfl

theorem sampleFields_leaf (sample : MonitoringSampleFields) :
    ∀ field∈sampleFields sample,Leaf field.2 := by
  have htext : ∀ literal,Leaf (.str (chars literal)) := fun literal => .str (chars_valid literal)
  have htime : ∀ second,Leaf (.str (utcText second)) := fun second => .str (utcText_valid second)
  intro field hfield
  simp only [sampleFields,MonitoringSampleFields.json,List.mem_cons,List.not_mem_nil,or_false]
    at hfield
  rcases hfield with rfl | rfl | rfl | rfl | rfl | rfl | rfl | rfl | rfl | rfl | rfl
  · exact optionalJson_cases .null (fun value => .int value.1) _
  · exact optionalJson_cases .null (fun value => .int value.1) _
  · exact optionalJson_cases .null (fun (bits : Binary64) => htext bits.1) _
  · exact htext _
  · exact htext _
  · exact htext _
  · exact optionalJson_cases .null (fun (response : ResponseCodeClass) => htext response.value) _
  · exact htext _
  · exact htext _
  · exact htime _
  · exact htime _

theorem json_uniqueKeys (sample : MonitoringSampleFields) : UniqueKeys sample.json := by
  rw [json_eq_obj]
  refine UniqueKeys.obj ?_ fun field hfield => (sampleFields_leaf sample field hfield).uniqueKeys
  rw [sampleFields_keys]
  decide +kernel

theorem sortKeys_json (sample : MonitoringSampleFields) : sample.json.sortKeys=sample.json := by
  have hsame : sortFields (sampleFields sample)=sampleFields sample := by
    rw [sortFields_eq_map]
    refine (List.map_congr_left fun field hfield => ?_).trans (List.map_id _)
    rw [(sampleFields_leaf sample field hfield).sortKeys,id_eq]
  have hkeys : ((sampleFields sample).map Prod.fst).Pairwise (·≤·) := by
    rw [sampleFields_keys]
    decide +kernel
  rw [List.pairwise_map] at hkeys
  have hsorted : (sampleFields sample).Pairwise keyLe := hkeys
  rw [json_eq_obj,Json.sortKeys,hsame,hsorted.insertionSort_eq]

/-- The canonical text of a sample is made of scalar values. -/
theorem canonicalText_valid (sample : MonitoringSampleFields) :
    ∀ character∈sample.canonicalText,character.isValidChar := by
  have hascii : ∀ character : Nat,32 ≤ character → character<127 → character.isValidChar :=
    fun character _ hhigh => Or.inl (by omega)
  rw [MonitoringSampleFields.canonicalText,dumpsSorted,sortKeys_json,json_eq_obj]
  refine forall_mem_dumps hascii (Json.AllTexts.obj ?_ fun field hfield => ?_)
  · intro field hfield character hmem _
    have hkey := List.mem_map_of_mem (f := Prod.fst) hfield
    rw [sampleFields_keys] at hkey
    obtain ⟨literal,-,hliteral⟩ := List.mem_map.mp hkey
    rw [← hliteral] at hmem
    exact chars_valid literal character hmem
  · exact (sampleFields_leaf sample field hfield).allTexts

def sampleBytes (sample : MonitoringSampleV1) : Bytes := utf8Bytes sample.canonicalText

/-- Equal bytes of two samples come from one text. -/
theorem sampleBytes_injective {first second : MonitoringSampleV1}
    (h : sampleBytes first=sampleBytes second) : sampleKey first=sampleKey second := by
  have hfirst : encodeUtf8 first.canonicalText=some (sampleBytes first) :=
    if_pos (canonicalText_valid _)
  have hsecond : encodeUtf8 second.canonicalText=some (sampleBytes second) :=
    if_pos (canonicalText_valid _)
  rw [← h] at hsecond
  exact encodeUtf8_injective hfirst hsecond

/-- Equal optional fields of two samples hold equal values. -/
theorem optionalJson_injective {α : Type} {json : α → Json} (hnull : ∀ value,json value≠.null)
    (hjson : ∀ first second,json first=json second → first=second) {first second : Option α}
    (h : optionalJson first json=optionalJson second json) : first=second := by
  cases first with
  | none =>
    cases second with
    | none => rfl
    | some value => exact absurd h.symm (hnull value)
  | some value =>
    cases second with
    | none => exact absurd h (hnull value)
    | some other => rw [hjson value other h]

theorem responseValue_injective : Function.Injective ResponseCodeClass.value := by
  intro first second h
  cases first <;> cases second <;> first | rfl | (revert h; decide)

theorem valueType_injective : Function.Injective ProviderValueType.value := by
  intro first second h
  cases first <;> cases second <;> first | rfl | (revert h; decide)

theorem queryKind_injective : Function.Injective MonitoringQueryKind.value := by
  intro first second h
  cases first <;> cases second <;> first | rfl | (revert h; decide)

theorem unit_injective : Function.Injective SampleUnit.value := by
  intro first second h
  cases first <;> cases second <;> first | rfl | (revert h; decide)

/-- Samples of one window with equal canonical texts are equal. -/
theorem sampleKey_injective {first second : MonitoringSampleV1}
    (hstart : first.window_started_at=second.window_started_at)
    (hend : first.window_ended_at=second.window_ended_at) (h : sampleKey first=sampleKey second) :
    first=second := by
  have hvalue := dumpsSorted_injective (json_uniqueKeys _) (json_uniqueKeys _) h
  rw [Json.SameValue,sortKeys_json,sortKeys_json] at hvalue
  have htext : ∀ {left right : String},Json.str (chars left)=.str (chars right) → left=right :=
    fun hsame => chars_injective (Json.str.inj hsame)
  have hinteger : ∀ left right : NonNegativeSafeInteger,Json.int left.1=.int right.1 → left=right := by
    intro left right hsame
    exact Subtype.ext (Int.ofNat_inj.mp (Json.int.inj hsame))
  simp only [MonitoringSampleFields.json,Json.obj.injEq,List.cons.injEq,Prod.mk.injEq,true_and,
    and_true] at hvalue
  obtain ⟨hint64,hlatency,hbits,htype,hkind,hquery,hclass,hunit,-⟩ := hvalue
  have hint64 := optionalJson_injective (fun _ => Json.noConfusion) hinteger hint64
  have hlatency := optionalJson_injective (fun _ => Json.noConfusion) hinteger hlatency
  have hbits := optionalJson_injective (fun _ => Json.noConfusion)
    (fun (left right : Binary64) hsame => Subtype.ext (htext hsame)) hbits
  have hclass := optionalJson_injective (fun _ => Json.noConfusion)
    (fun (left right : ResponseCodeClass) hsame => responseValue_injective (htext hsame)) hclass
  have htype := valueType_injective (htext htype)
  have hkind := queryKind_injective (htext hkind)
  have hunit := unit_injective (htext hunit)
  have hquery : first.query_sha256=second.query_sha256 := Subtype.ext (htext hquery)
  have hfields : first.toMonitoringSampleFields=second.toMonitoringSampleFields := by
    obtain ⟨firstFields,hfirst⟩ := first
    obtain ⟨secondFields,hsecond⟩ := second
    cases firstFields
    cases secondFields
    simp only at hint64 hlatency hbits hclass htype hkind hunit hquery hstart hend
    simp only [hint64,hlatency,hbits,hclass,htype,hkind,hunit,hquery,hstart,hend]
  obtain ⟨fields,hfirst⟩ := first
  obtain ⟨other,hsecond⟩ := second
  cases hfields
  rfl

/-- Checked fields build a sample that keeps them. -/
theorem makeSample_of_accepted {fields : MonitoringSampleFields} (h : fields.validateSample=.ok ()) :
    fields.make=.ok ⟨fields,h⟩ := by
  unfold MonitoringSampleFields.make
  split
  · rfl
  · rename_i raised herror
    rw [h] at herror
    cases herror

theorem makeQuery_eq_ok {fields : MonitoringMetricQueryFields} {query : MonitoringMetricQueryV1}
    (h : makeQuery fields=.ok query) : query.toMonitoringMetricQueryFields=fields := by
  unfold makeQuery at h
  split at h
  · cases h
    rfl
  · cases h

section

variable {functions : MonitoringFunctions}

/-- A sample answers a query: it cites the query and covers its window. -/
structure Answers (functions : MonitoringFunctions) (query : MonitoringMetricQueryV1)
    (sample : MonitoringSampleV1) : Prop where
  cites : sample.query_sha256=functions.query_sha256 query
  kind : sample.query_kind=query.query_kind
  starts : sample.window_started_at=query.window_started_at
  ends : sample.window_ended_at=query.window_ended_at

/-- A point of the kind of a query becomes a sample that answers the query. -/
theorem canonicalSample_ok {query : MonitoringMetricQueryV1} {point : MonitoringCollectedPoint}
    (hkind : point.query_kind=query.query_kind) :
    ∃ sample,canonicalSample functions query point=.ok sample ∧ Answers functions query sample := by
  have hquery := query.accepted
  simp only [MonitoringMetricQueryFields.validateQuery,check_bind_eq_ok,require_eq_ok] at hquery
  have hpoint := point.accepted
  unfold MonitoringPointFields.validatePoint at hpoint
  rw [hkind] at hpoint
  unfold canonicalSample
  cases hcase : query.query_kind with
  | requestCountByResponseCodeClass =>
    simp only [hcase,check_bind_eq_ok,require_eq_ok] at hpoint
    have haccepted : (MonitoringSampleFields.mk (functions.query_sha256 query)
        .requestCountByResponseCodeClass query.window_started_at query.window_ended_at
        point.response_code_class .int64 none .one point.int64_value none).validateSample=.ok () := by
      simp only [MonitoringSampleFields.validateSample,check_bind_eq_ok,require_eq_ok]
      exact ⟨hquery.2.1,⟨hpoint.2.1,trivial,trivial,trivial,hpoint.2.2.2.1,trivial⟩,rfl⟩
    exact ⟨_,makeSample_of_accepted haccepted,rfl,hcase.symm,rfl,rfl⟩
  | requestLatencyDistribution =>
    simp only [hcase,check_bind_eq_ok,require_eq_ok] at hpoint
    obtain ⟨-,-,hpoint⟩ := hpoint
    simp only [bind_eq_ok,requireSome_eq_ok,mapError_eq_ok] at hpoint
    obtain ⟨bits,hbits,microseconds,hmicroseconds,-⟩ := hpoint
    have hlatency : point.provider_double_bits.mapM binary64MillisecondsToMicroseconds=
        .ok (some microseconds) := by
      rw [hbits,Option.mapM_some,hmicroseconds]
      rfl
    have haccepted : (MonitoringSampleFields.mk (functions.query_sha256 query)
        .requestLatencyDistribution query.window_started_at query.window_ended_at none .double
        point.provider_double_bits .microseconds none (some microseconds)).validateSample=.ok () := by
      simp only [MonitoringSampleFields.validateSample,check_bind_eq_ok,require_eq_ok]
      refine ⟨hquery.2.1,⟨trivial,trivial,?_,trivial,trivial,Option.some_ne_none _⟩,?_⟩
      · rw [hbits]
        exact Option.some_ne_none _
      · rw [hbits]
        exact (bind_of_ok hmicroseconds).trans (require_eq_ok.mpr rfl)
    refine ⟨⟨_,haccepted⟩,?_,rfl,hcase.symm,rfl,rfl⟩
    exact (bind_of_ok hlatency).trans (makeSample_of_accepted haccepted)

/-- The samples of a window answer its queries. -/
def AnswersWindow (functions : MonitoringFunctions)
    (queries : MonitoringMetricQueryV1×MonitoringMetricQueryV1) (samples : List MonitoringSampleV1) :
    Prop :=
  ∀ sample∈samples,Answers functions queries.1 sample ∨ Answers functions queries.2 sample

/-- The points of two collections that answer the queries of a window. -/
structure WindowPoints (functions : MonitoringFunctions)
    (queries : MonitoringMetricQueryV1×MonitoringMetricQueryV1)
    (requests latency : MonitoringQueryCollection) : Prop where
  requests_answer : answersQuery functions queries.1 requests
  latency_answer : answersQuery functions queries.2 latency
  few_points : requests.points.length+latency.points.length≤ maximumPoints

/-- The points of a window all become samples. -/
theorem sourceSamples_ok {queries : MonitoringMetricQueryV1×MonitoringMetricQueryV1}
    {requests latency : MonitoringQueryCollection} (h : WindowPoints functions queries requests latency) :
    ∃ samples,sourceSamples functions queries requests.points latency.points=.ok samples ∧
      samples.length=requests.points.length+latency.points.length ∧
      AnswersWindow functions queries samples := by
  have hkind : ∀ {query : MonitoringMetricQueryV1} {collection : MonitoringQueryCollection},
      answersQuery functions query collection → ∀ point∈collection.points,
        ∃ sample,canonicalSample functions query point=.ok sample ∧ Answers functions query sample := by
    intro query collection hanswer point hpoint
    exact canonicalSample_ok ((collection.points_bound point hpoint).2.trans hanswer.2.1)
  obtain ⟨first,hfirst,hfirstLength,hfirstAnswers⟩ := mapM_total (hkind h.requests_answer)
  obtain ⟨second,hsecond,hsecondLength,hsecondAnswers⟩ := mapM_total (hkind h.latency_answer)
  refine ⟨first++second,?_,by rw [List.length_append,hfirstLength,hsecondLength],?_⟩
  · unfold sourceSamples
    rw [bind_of_ok hfirst,bind_of_ok hsecond]
    rfl
  · intro sample hsample
    rcases List.mem_append.mp hsample with hsample | hsample
    · exact Or.inl (hfirstAnswers sample hsample)
    · exact Or.inr (hsecondAnswers sample hsample)

theorem sourceSamples_perm {queries : MonitoringMetricQueryV1×MonitoringMetricQueryV1}
    {requests latency requests' latency' : List MonitoringCollectedPoint}
    (hrequests : requests.Perm requests') (hlatency : latency.Perm latency')
    {samples : List MonitoringSampleV1}
    (h : sourceSamples functions queries requests latency=.ok samples) :
    ∃ samples',sourceSamples functions queries requests' latency'=.ok samples' ∧
      samples.Perm samples' := by
  unfold sourceSamples at h ⊢
  obtain ⟨first,hfirst,h⟩ := bind_eq_ok.mp h
  obtain ⟨second,hsecond,h⟩ := bind_eq_ok.mp h
  cases h
  obtain ⟨first',hfirst',hpermFirst⟩ := mapM_perm hrequests hfirst
  obtain ⟨second',hsecond',hpermSecond⟩ := mapM_perm hlatency hsecond
  refine ⟨first'++second',?_,hpermFirst.append hpermSecond⟩
  rw [bind_of_ok hfirst',bind_of_ok hsecond']
  rfl

theorem digestLe_trans (first second third : Sha256Digest) (h : decide (first.1 ≤ second.1)=true)
    (h' : decide (second.1 ≤ third.1)=true) : decide (first.1 ≤ third.1)=true :=
  decide_eq_true (String.le_trans (of_decide_eq_true h) (of_decide_eq_true h'))

theorem digestLe_total (first second : Sha256Digest) :
    (decide (first.1 ≤ second.1) || decide (second.1 ≤ first.1))=true := by
  rw [Bool.or_eq_true,decide_eq_true_iff,decide_eq_true_iff]
  exact String.le_total first.1 second.1

theorem sortedDigests_sorted (digests : List Sha256Digest) :
    (sortedDigests digests).Pairwise (fun first second => first.1 ≤ second.1) := by
  have hpairwise := List.pairwise_mergeSort digestLe_trans digestLe_total digests
  exact hpairwise.imp (fun h => of_decide_eq_true h)

theorem sortedDigests_perm {digests reordered : List Sha256Digest} (h : digests.Perm reordered) :
    sortedDigests digests=sortedDigests reordered := by
  have hperm : (sortedDigests digests).Perm (sortedDigests reordered) :=
    (List.mergeSort_perm _ _).trans (h.trans (List.mergeSort_perm _ _).symm)
  exact hperm.eq_of_pairwise (fun first second _ _ hle hge => Subtype.ext (String.le_antisymm hle hge))
    (sortedDigests_sorted _) (sortedDigests_sorted _)

/-- The queries of a window cover it both. -/
structure SameWindow (queries : MonitoringMetricQueryV1×MonitoringMetricQueryV1) : Prop where
  starts : queries.1.window_started_at=queries.2.window_started_at
  ends : queries.1.window_ended_at=queries.2.window_ended_at

theorem windowKey_injective {queries : MonitoringMetricQueryV1×MonitoringMetricQueryV1}
    (hwindow : SameWindow queries) {samples : List MonitoringSampleV1}
    (hanswers : AnswersWindow functions queries samples) :
    ∀ first∈samples,∀ second∈samples,sampleKey first=sampleKey second → first=second := by
  have hbounds : ∀ sample∈samples,sample.window_started_at=queries.1.window_started_at ∧
      sample.window_ended_at=queries.1.window_ended_at := by
    intro sample hsample
    rcases hanswers sample hsample with hanswer | hanswer
    · exact ⟨hanswer.starts,hanswer.ends⟩
    · exact ⟨hanswer.starts.trans hwindow.starts.symm,hanswer.ends.trans hwindow.ends.symm⟩
  intro first hfirst second hsecond hkey
  obtain ⟨hstart,hend⟩ := hbounds first hfirst
  obtain ⟨hstart',hend'⟩ := hbounds second hsecond
  exact sampleKey_injective (hstart.trans hstart'.symm) (hend.trans hend'.symm) hkey

theorem selectSamples_perm {samples samples' : List MonitoringSampleV1} (hperm : samples.Perm samples')
    (hkey : ∀ first∈samples,∀ second∈samples,sampleKey first=sampleKey second → first=second) :
    selectSamples functions samples=selectSamples functions samples' := by
  have hslot : ∀ slot,(slotItems sampleSlot samples slot).Perm (slotItems sampleSlot samples' slot) :=
    fun slot => hperm.filter _
  have hchosen : ∀ slot,chosen functions.sample_sha256 sampleKey (slotItems sampleSlot samples slot)=
      chosen functions.sample_sha256 sampleKey (slotItems sampleSlot samples' slot) := by
    intro slot
    refine chosen_perm (hslot slot) fun first hfirst second hsecond => ?_
    exact hkey first (mem_slotItems.mp hfirst).1 second (mem_slotItems.mp hsecond).1
  have hconflict : ∀ slot,
      (1<(smallestByDigest functions.sample_sha256 sampleKey
        (slotItems sampleSlot samples slot)).length ↔
      1<(smallestByDigest functions.sample_sha256 sampleKey
        (slotItems sampleSlot samples' slot)).length) := by
    intro slot
    rw [conflict_iff,conflict_iff]
    simp only [(hslot slot).mem_iff]
  unfold selectSamples
  simp only [hchosen,(hslot _).length_eq,hconflict,
    sortedDigests_perm (hperm.map functions.sample_sha256)]

/-- Place of a series. -/
def slotOrder (slot : SampleSlot) : Int :=
  match slot with
  | (.requestCountByResponseCodeClass,some response) => response.order
  | (.requestCountByResponseCodeClass,none) => -1
  | (.requestLatencyDistribution,_) => responseCodeOrder.length

theorem canonicalSlots_ordered :
    canonicalSlots.Pairwise (fun first second => slotOrder first<slotOrder second) := by decide

/-- No series is listed twice. -/
theorem canonicalSlots_nodup : canonicalSlots.Nodup :=
  canonicalSlots_ordered.imp fun hlt hsame => by
    rw [hsame] at hlt
    exact lt_irrefl _ hlt

theorem sample_shape (sample : MonitoringSampleV1) :
    (sample.query_kind=.requestCountByResponseCodeClass ∧
      ∃ response,sample.response_code_class=some response ∧
        ∃ value,sample.int64_value=some value) ∨
    (sample.query_kind=.requestLatencyDistribution ∧ sample.response_code_class=none ∧
      ∃ latency,sample.latency_microseconds=some latency) := by
  have haccepted := sample.accepted
  unfold MonitoringSampleFields.validateSample at haccepted
  cases hkind : sample.query_kind with
  | requestCountByResponseCodeClass =>
    simp only [hkind,check_bind_eq_ok,require_eq_ok] at haccepted
    obtain ⟨-,⟨hclass,-,-,-,hvalue,-⟩,-⟩ := haccepted
    obtain ⟨response,hresponse⟩ := Option.ne_none_iff_exists'.mp hclass
    obtain ⟨value,hvalue⟩ := Option.ne_none_iff_exists'.mp hvalue
    exact Or.inl ⟨rfl,response,hresponse,value,hvalue⟩
  | requestLatencyDistribution =>
    simp only [hkind,check_bind_eq_ok,require_eq_ok] at haccepted
    obtain ⟨-,⟨hclass,-,-,-,-,hlatency⟩,-⟩ := haccepted
    obtain ⟨latency,hlatency⟩ := Option.ne_none_iff_exists'.mp hlatency
    exact Or.inr ⟨rfl,hclass,latency,hlatency⟩

/-- Every sample belongs to a listed series. -/
theorem sampleSlot_mem (sample : MonitoringSampleV1) : sampleSlot sample∈canonicalSlots := by
  have hresponses : ∀ response : ResponseCodeClass,
      (MonitoringQueryKind.requestCountByResponseCodeClass,some response)∈canonicalSlots := by
    intro response
    cases response <;> decide
  rcases sample_shape sample with ⟨hkind,response,hresponse,-⟩ | ⟨hkind,hclass,-⟩
  · rw [sampleSlot,hkind,hresponse]
    exact hresponses response
  · rw [sampleSlot,hkind,hclass]
    decide

section

variable {samples : List MonitoringSampleV1}

theorem mem_selected {sample : MonitoringSampleV1}
    (h : sample∈(selectSamples functions samples).samples) : sample∈samples ∧
      chosen functions.sample_sha256 sampleKey (slotItems sampleSlot samples (sampleSlot sample))=
        some sample := by
  obtain ⟨slot,-,hchosen⟩ := List.mem_filterMap.mp h
  obtain ⟨hmem,hslot⟩ := mem_slotItems.mp (chosen_spec hchosen).1
  rw [hslot]
  exact ⟨hmem,hchosen⟩

/-- Every series with samples is represented. -/
theorem selected_covers {sample : MonitoringSampleV1} (h : sample∈samples) :
    ∃ selected∈(selectSamples functions samples).samples,sampleSlot selected=sampleSlot sample := by
  have hne : slotItems sampleSlot samples (sampleSlot sample)≠[] :=
    List.ne_nil_of_mem (mem_slotItems.mpr ⟨h,rfl⟩)
  obtain ⟨selected,hselected⟩ := @chosen_of_ne_nil _ _ _ _ _ functions.sample_sha256 sampleKey _ hne
  exact ⟨selected,List.mem_filterMap.mpr ⟨_,sampleSlot_mem sample,hselected⟩,
    (mem_slotItems.mp (chosen_spec hselected).1).2⟩

/-- The selected samples come in the order of their series. -/
theorem selected_ordered : (selectSamples functions samples).samples.Pairwise
    (fun first second => slotOrder (sampleSlot first)<slotOrder (sampleSlot second)) := by
  refine List.pairwise_filterMap.mpr (canonicalSlots_ordered.imp ?_)
  intro first second hlt left hleft right hright
  rwa [(mem_slotItems.mp (chosen_spec hleft).1).2,(mem_slotItems.mp (chosen_spec hright).1).2]

theorem selected_unique {first second : MonitoringSampleV1}
    (hfirst : first∈(selectSamples functions samples).samples)
    (hsecond : second∈(selectSamples functions samples).samples)
    (h : sampleSlot first=sampleSlot second) : first=second := by
  have hchosen := (mem_selected hfirst).2
  rw [h,(mem_selected hsecond).2] at hchosen
  exact (Option.some.inj hchosen).symm

theorem duplicate_count_add : (selectSamples functions samples).duplicate_count+
    (selectSamples functions samples).samples.length=samples.length := by
  have hsum := @sum_beyond_add_chosen _ _ _ _ _ _ _ sampleSlot functions.sample_sha256 sampleKey
    canonicalSlots samples
  rw [sum_slotItems canonicalSlots_nodup fun sample _ => sampleSlot_mem sample] at hsum
  exact hsum

/-- The digests tell the samples apart. -/
def DistinctDigests (functions : MonitoringFunctions) (samples : List MonitoringSampleV1) : Prop :=
  ∀ first∈samples,∀ second∈samples,functions.sample_sha256 first=functions.sample_sha256 second →
    first=second

/-- There is a conflict exactly when a digest is not among the selected ones. -/
theorem conflict_iff_unselected (hdigests : DistinctDigests functions samples) :
    (selectSamples functions samples).conflicting_duplicate=true ↔
      ∃ sample∈samples,functions.sample_sha256 sample∉
        (selectSamples functions samples).samples.map functions.sample_sha256 := by
  have hflag : (selectSamples functions samples).conflicting_duplicate=true ↔
      ∃ slot∈canonicalSlots,∃ first∈slotItems sampleSlot samples slot,
        ∃ second∈slotItems sampleSlot samples slot,
          functions.sample_sha256 first≠functions.sample_sha256 second := by
    simp only [selectSamples,List.any_eq_true,decide_eq_true_eq,conflict_iff]
  -- A digest among the selected ones is the digest of the representative of its series.
  have hrepresentative : ∀ {slot : SampleSlot} {representative sample : MonitoringSampleV1},
      representative∈(selectSamples functions samples).samples → sampleSlot representative=slot →
      sample∈slotItems sampleSlot samples slot → functions.sample_sha256 sample∈
        (selectSamples functions samples).samples.map functions.sample_sha256 →
      functions.sample_sha256 sample=functions.sample_sha256 representative := by
    intro slot representative sample hrepresentative hslot hsample hmem
    obtain ⟨selected,hselected,hdigest⟩ := List.mem_map.mp hmem
    obtain ⟨hsample,hsampleSlot⟩ := mem_slotItems.mp hsample
    have hsame := hdigests selected (mem_selected hselected).1 sample hsample hdigest
    rw [hsame] at hselected
    rw [selected_unique hselected hrepresentative (hsampleSlot.trans hslot.symm)]
  rw [hflag]
  constructor
  · rintro ⟨slot,-,first,hfirst,second,hsecond,hne⟩
    obtain ⟨hmem,hslot⟩ := mem_slotItems.mp hfirst
    obtain ⟨representative,hselected,hrepresents⟩ := @selected_covers functions samples first hmem
    by_contra hnone
    simp only [not_exists,not_and,not_not] at hnone
    have hdigest := hrepresentative hselected (hrepresents.trans hslot) hfirst (hnone first hmem)
    have hdigest' := hrepresentative hselected (hrepresents.trans hslot) hsecond
      (hnone second (mem_slotItems.mp hsecond).1)
    exact hne (hdigest.trans hdigest'.symm)
  · rintro ⟨sample,hsample,hunselected⟩
    obtain ⟨representative,hselected,hrepresents⟩ := @selected_covers functions samples sample hsample
    have hmem := (mem_selected hselected).1
    refine ⟨sampleSlot sample,sampleSlot_mem sample,sample,mem_slotItems.mpr ⟨hsample,rfl⟩,
      representative,mem_slotItems.mpr ⟨hmem,hrepresents⟩,fun hsame => hunselected ?_⟩
    rw [hsame]
    exact List.mem_map_of_mem hselected

end

/-- The hash tells the bytes of the samples apart. -/
def NoCollision (functions : MonitoringFunctions) (samples : List MonitoringSampleV1) : Prop :=
  ∀ first∈samples,∀ second∈samples,
    functions.sha256 (sampleDomain++sampleBytes first)=
        functions.sha256 (sampleDomain++sampleBytes second) →
      sampleBytes first=sampleBytes second

/-- Without a collision the digests tell the samples of a window apart. -/
theorem distinct_of_noCollision {queries : MonitoringMetricQueryV1×MonitoringMetricQueryV1}
    {samples : List MonitoringSampleV1} (hwindow : SameWindow queries)
    (hanswers : AnswersWindow functions queries samples) (h : NoCollision functions samples) :
    DistinctDigests functions samples := by
  intro first hfirst second hsecond hdigest
  exact windowKey_injective hwindow hanswers first hfirst second hsecond
    (sampleBytes_injective (h first hfirst second hsecond hdigest))

/-- A timestamp that was moved. -/
theorem addSeconds_eq_ok {time moved : UtcSecond} {seconds : Int}
    (h : addSeconds time seconds=.ok moved) : moved.1=time.1+seconds := by
  unfold addSeconds at h
  split at h
  · cases h
    rfl
  · cases h

/-- A timestamp that stays inside the calendar is moved. -/
theorem addSeconds_ok {time moved : UtcSecond} {seconds : Int} (h : moved.1=time.1+seconds) :
    addSeconds time seconds=.ok moved := by
  have hbounds := moved.2
  rw [h] at hbounds
  unfold addSeconds
  rw [dif_pos hbounds]
  exact congrArg Except.ok (Subtype.ext h.symm)

/-- What the queries of a window are. -/
structure WindowQueries (functions : MonitoringFunctions) (scope : MonitoringScopeFields)
    (window_index : Nat) (bounds : UtcSecond×UtcSecond)
    (queries : MonitoringMetricQueryV1×MonitoringMetricQueryV1) : Prop where
  /-- The window follows the windows before it. -/
  starts : bounds.1.1=scope.observation_started_at.1+((window_index : Int)-1)*windowSeconds
  /-- The window lasts one minute. -/
  ends : bounds.2.1=bounds.1.1+windowSeconds
  root : scope.root_id.1="cgroot:"++scope.root_sha256.1
  requests : queries.1.toMonitoringMetricQueryFields=
    queryFields functions scope bounds.1 bounds.2 .requestCountByResponseCodeClass
  latency : queries.2.toMonitoringMetricQueryFields=
    queryFields functions scope bounds.1 bounds.2 .requestLatencyDistribution

theorem windowQueries_spec {scope : MonitoringScopeFields} {window_index : Nat}
    {bounds : UtcSecond×UtcSecond} {queries : MonitoringMetricQueryV1×MonitoringMetricQueryV1}
    (h : windowQueries functions scope window_index=.ok (bounds,queries)) :
    WindowQueries functions scope window_index bounds queries := by
  unfold windowQueries at h
  obtain ⟨window,hwindow,h⟩ := bind_eq_ok.mp h
  obtain ⟨derived,hderived,h⟩ := bind_eq_ok.mp h
  cases h
  unfold windowBounds addWindowSeconds at hwindow
  obtain ⟨start,hstart,hwindow⟩ := bind_eq_ok.mp hwindow
  obtain ⟨finish,hfinish,hwindow⟩ := bind_eq_ok.mp hwindow
  cases hwindow
  simp only [deriveMonitoringMetricQueries,check_bind_eq_ok,require_eq_ok] at hderived
  obtain ⟨hroot,-,-,-,hderived⟩ := hderived
  obtain ⟨requests,hrequests,hderived⟩ := bind_eq_ok.mp hderived
  obtain ⟨latency,hlatency,hderived⟩ := bind_eq_ok.mp hderived
  cases hderived
  exact ⟨addSeconds_eq_ok (mapError_eq_ok.mp hstart),addSeconds_eq_ok (mapError_eq_ok.mp hfinish),
    hroot,makeQuery_eq_ok hrequests,makeQuery_eq_ok hlatency⟩

theorem WindowQueries.sameWindow {scope : MonitoringScopeFields} {window_index : Nat}
    {bounds : UtcSecond×UtcSecond} {queries : MonitoringMetricQueryV1×MonitoringMetricQueryV1}
    (h : WindowQueries functions scope window_index bounds queries) : SameWindow queries := by
  constructor
  · rw [h.requests,h.latency]
    rfl
  · rw [h.requests,h.latency]
    rfl

/-- A sample that passes the checks of a scan apart from its order. -/
structure Scannable (observation : MonitoringObservationFields) (sample : MonitoringSampleV1) :
    Prop where
  query : ∃ query,(observation.query_sha256s.zip observation.queries).lookup sample.query_sha256=
    some query ∧ query.query_kind=sample.query_kind
  starts : sample.window_started_at=observation.window_started_at
  ends : sample.window_ended_at=observation.window_ended_at

/-- Whether a sample counts requests. -/
def isRequest (sample : MonitoringSampleV1) : Bool :=
  sample.query_kind=.requestCountByResponseCodeClass

def isLatency (sample : MonitoringSampleV1) : Bool :=
  sample.query_kind=.requestLatencyDistribution

theorem scanSample_request {observation : MonitoringObservationFields} {sample : MonitoringSampleV1}
    {scan : SampleScan} {response : ResponseCodeClass} (h : Scannable observation sample)
    (hkind : sample.query_kind=.requestCountByResponseCodeClass)
    (hresponse : sample.response_code_class=some response)
    (hnew : requestSample scan.request_samples response=none)
    (horder : scan.previous_order < response.order) :
    scanSample observation scan sample=.ok
      ⟨sample::scan.request_samples,scan.latency_samples,response.order⟩ := by
  obtain ⟨⟨query,hquery,hsame⟩,hstart,hend⟩ := h
  unfold scanSample
  rw [bind_of_ok (requireSome_eq_ok.mpr hquery),bind_of_ok (require_of hsame),
    bind_of_ok (require_of ⟨hstart,hend⟩),hkind]
  refine (bind_of_ok (requireSome_eq_ok.mpr hresponse)).trans ?_
  rw [bind_of_ok (require_of hnew),bind_of_ok (require_of horder)]
  rfl

theorem scanSample_latency {observation : MonitoringObservationFields} {sample : MonitoringSampleV1}
    {scan : SampleScan} (h : Scannable observation sample)
    (hkind : sample.query_kind=.requestLatencyDistribution)
    (horder : scan.previous_order < responseCodeOrder.length) :
    scanSample observation scan sample=.ok
      ⟨scan.request_samples,sample::scan.latency_samples,responseCodeOrder.length⟩ := by
  obtain ⟨⟨query,hquery,hsame⟩,hstart,hend⟩ := h
  unfold scanSample
  rw [bind_of_ok (requireSome_eq_ok.mpr hquery),bind_of_ok (require_of hsame),
    bind_of_ok (require_of ⟨hstart,hend⟩),hkind]
  refine (bind_of_ok (require_of horder)).trans ?_
  rfl

/-- A scan accepts samples in the order of their series and keeps them by kind. -/
theorem scan_ordered {observation : MonitoringObservationFields} {samples : List MonitoringSampleV1}
    (hscannable : ∀ sample∈samples,Scannable observation sample)
    (hordered : samples.Pairwise
      (fun first second => slotOrder (sampleSlot first)<slotOrder (sampleSlot second)))
    {scan : SampleScan}
    (hafter : ∀ sample∈samples,scan.previous_order<slotOrder (sampleSlot sample))
    (hbefore : ∀ sample∈scan.request_samples,isRequest sample=true ∧
      slotOrder (sampleSlot sample) ≤ scan.previous_order) :
    ∃ final,samples.foldlM (scanSample observation) scan=.ok final ∧
      final.request_samples=(samples.filter isRequest).reverse++scan.request_samples ∧
      final.latency_samples=(samples.filter isLatency).reverse++scan.latency_samples := by
  induction samples generalizing scan with
  | nil => exact ⟨scan,rfl,rfl,rfl⟩
  | cons sample samples ih =>
    rw [List.pairwise_cons] at hordered
    have hsample := hscannable sample List.mem_cons_self
    have hrest : ∀ other∈samples,Scannable observation other :=
      fun other hother => hscannable other (List.mem_cons_of_mem _ hother)
    have hplace := hafter sample List.mem_cons_self
    rcases sample_shape sample with ⟨hrequest,response,hresponse,-⟩ | ⟨hlatency,hclass,-⟩
    · have horder : slotOrder (sampleSlot sample)=response.order := by
        rw [sampleSlot,hrequest,hresponse]
        rfl
      rw [horder] at hplace
      have hfirst : isRequest sample=true := decide_eq_true hrequest
      have hother : isLatency sample=false := by rw [isLatency,hrequest]; rfl
      have hnew : requestSample scan.request_samples response=none := by
        refine List.find?_eq_none.mpr fun seen hseen hsame => ?_
        obtain ⟨hkind,hle⟩ := hbefore seen hseen
        have hseenOrder : slotOrder (sampleSlot seen)=response.order := by
          rw [sampleSlot,of_decide_eq_true hkind,of_decide_eq_true hsame]
          rfl
        omega
      have hstep := scanSample_request hsample hrequest hresponse hnew hplace
      obtain ⟨final,hfinal,hrequests,hlatencies⟩ := @ih hrest hordered.2
        ⟨sample::scan.request_samples,scan.latency_samples,response.order⟩
        (fun next hnext => horder ▸ hordered.1 next hnext) (by
          intro seen hseen
          rcases List.mem_cons.mp hseen with rfl | hseen
          · exact ⟨hfirst,horder.le⟩
          · exact ⟨(hbefore seen hseen).1,(hbefore seen hseen).2.trans hplace.le⟩)
      refine ⟨final,by rw [List.foldlM_cons,bind_of_ok hstep]; exact hfinal,?_,?_⟩
      · rw [hrequests,List.filter_cons_of_pos hfirst,List.reverse_cons,List.append_assoc]
        rfl
      · rw [hlatencies,List.filter_cons_of_neg (by rw [hother]; exact Bool.false_ne_true)]
    · have horder : slotOrder (sampleSlot sample)=responseCodeOrder.length := by
        rw [sampleSlot,hlatency]
        rfl
      rw [horder] at hplace
      have hfirst : isLatency sample=true := decide_eq_true hlatency
      have hother : isRequest sample=false := by rw [isRequest,hlatency]; rfl
      have hstep := scanSample_latency hsample hlatency hplace
      obtain ⟨final,hfinal,hrequests,hlatencies⟩ := @ih hrest hordered.2
        ⟨scan.request_samples,sample::scan.latency_samples,responseCodeOrder.length⟩
        (fun next hnext => horder ▸ hordered.1 next hnext)
        (fun seen hseen => ⟨(hbefore seen hseen).1,(hbefore seen hseen).2.trans hplace.le⟩)
      refine ⟨final,by rw [List.foldlM_cons,bind_of_ok hstep]; exact hfinal,?_,?_⟩
      · rw [hrequests,List.filter_cons_of_neg (by rw [hother]; exact Bool.false_ne_true)]
      · rw [hlatencies,List.filter_cons_of_pos hfirst,List.reverse_cons,List.append_assoc]
        rfl

/-- Value of a request sample, which is zero without one. -/
def countOf (sample : Option MonitoringSampleV1) : Nat :=
  ((sample.bind (fun sample => sample.int64_value)).map Subtype.val).getD 0

/-- The value of a request sample is read, whatever a missing value would raise. -/
theorem sampleCount_ok {error : Raised} {sample : Option MonitoringSampleV1}
    (h : ∀ found,sample=some found → isRequest found=true) :
    sampleCount error sample=.ok (countOf sample) := by
  cases sample with
  | none => rfl
  | some found =>
    rcases sample_shape found with ⟨-,response,-,value,hvalue⟩ | ⟨hlatency,-⟩
    · simp only [sampleCount,countOf,hvalue,Option.bind_some,Option.map_some,Option.getD_some]
    · have hrequest := of_decide_eq_true (h found rfl)
      rw [hlatency] at hrequest
      cases hrequest

/-- Numbers of responses of request samples. -/
def countsOf (request_samples : List MonitoringSampleV1) : RequestCounts :=
  ⟨countOf (requestSample request_samples .informational),
    countOf (requestSample request_samples .successful),
    countOf (requestSample request_samples .redirection),
    countOf (requestSample request_samples .clientError),
    countOf (requestSample request_samples .serverError)⟩

/-- The numbers of responses of request samples are read. -/
theorem requestCounts_ok {error : Raised} {request_samples : List MonitoringSampleV1}
    (h : ∀ sample∈request_samples,isRequest sample=true) :
    requestCounts (sampleCount error) request_samples=.ok (countsOf request_samples) := by
  have hclass : ∀ response,sampleCount error (requestSample request_samples response)=
      .ok (countOf (requestSample request_samples response)) :=
    fun response => sampleCount_ok fun found hfound => h found (List.mem_of_find?_eq_some hfound)
  unfold requestCounts
  rw [bind_of_ok (hclass _),bind_of_ok (hclass _),bind_of_ok (hclass _),bind_of_ok (hclass _),
    bind_of_ok (hclass _)]
  rfl

theorem isRequest_of_mem {samples : List MonitoringSampleV1} :
    ∀ sample∈requestSamples samples,isRequest sample=true := by
  intro sample hsample
  exact List.of_mem_filter (List.mem_reverse.mp hsample)

theorem selected_latency (samples : List MonitoringSampleV1) :
    let selected := (selectSamples functions samples).samples
    (selected.filter isLatency=[] ∧ latencySample selected=none) ∨
      ∃ sample,selected.filter isLatency=[sample] ∧ latencySample selected=some sample ∧
        isLatency sample=true := by
  intro selected
  have hordered : (selected.filter isLatency).Pairwise
      (fun first second => slotOrder (sampleSlot first)<slotOrder (sampleSlot second)) :=
    selected_ordered.filter _
  have hplace : ∀ sample∈selected.filter isLatency,
      slotOrder (sampleSlot sample)=responseCodeOrder.length := by
    intro sample hsample
    have hlatency : isLatency sample=true := List.of_mem_filter hsample
    rw [sampleSlot,of_decide_eq_true hlatency]
    rfl
  have hfind : latencySample selected=(selected.filter isLatency).head? := List.head?_filter.symm
  match hfilter : selected.filter isLatency with
  | [] => exact Or.inl ⟨rfl,by rw [hfind,hfilter]; rfl⟩
  | [sample] =>
    have hmem : sample∈selected.filter isLatency := hfilter ▸ List.mem_singleton_self sample
    exact Or.inr ⟨sample,rfl,by rw [hfind,hfilter]; rfl,List.of_mem_filter hmem⟩
  | first::second::rest =>
    rw [hfilter] at hordered hplace
    have hlt := (List.pairwise_cons.mp hordered).1 second List.mem_cons_self
    rw [hplace first List.mem_cons_self,
      hplace second (List.mem_cons_of_mem _ List.mem_cons_self)] at hlt
    exact absurd hlt (lt_irrefl _)

theorem mem_absentSignals {total successful server_error : Option Nat}
    {latency : Option MonitoringDistributionV1} :
    (HealthSignal.totalRequests∈absentSignals total successful server_error latency ↔ total=none) ∧
    (HealthSignal.successful2xxRequests∈absentSignals total successful server_error latency ↔
      successful=none) ∧
    (HealthSignal.serverError5xxRequests∈absentSignals total successful server_error latency ↔
      server_error=none) ∧
    (HealthSignal.requestLatencyP95∈absentSignals total successful server_error latency ↔
      latency=none) := by
  unfold absentSignals
  cases total <;> cases successful <;> cases server_error <;> cases latency <;> simp

theorem length_absentSignals (total successful server_error : Option Nat)
    (latency : Option MonitoringDistributionV1) :
    (absentSignals total successful server_error latency).length≤4 := by
  unfold absentSignals
  cases total <;> cases successful <;> cases server_error <;> cases latency <;> simp

theorem latencyDistribution_ok {sample : MonitoringSampleV1} (h : isLatency sample=true) :
    ∃ latency distribution,sample.latency_microseconds=some latency ∧
      MonitoringDistributionV1.make 1 ((latency.1+999)/1000) [functions.sample_sha256 sample]=
        .ok distribution ∧
      latencyDistribution functions (some sample)=.ok (some distribution) := by
  rcases sample_shape sample with ⟨hrequest,-⟩ | ⟨-,-,latency,hlatency⟩
  · have hkind := of_decide_eq_true h
    rw [hrequest] at hkind
    cases hkind
  · have hbound : (latency.1+999)/1000≤9007199254740991 := by
      have := latency.2
      omega
    have hmake : MonitoringDistributionV1.make 1 ((latency.1+999)/1000)
        [functions.sample_sha256 sample]=
          .ok ⟨⟨1,by omega⟩,⟨_,hbound⟩,[functions.sample_sha256 sample]⟩ := by
      unfold MonitoringDistributionV1.make
      rw [dif_pos (by omega),dif_pos hbound,bind_of_ok (require_of (by simp)),
        bind_of_ok (require_of (List.nodup_singleton _)),bind_of_ok (require_of (by simp))]
      rfl
    refine ⟨latency,_,hlatency,hmake,?_⟩
    simp only [latencyDistribution]
    rw [bind_of_ok (requireSome_eq_ok.mpr hlatency),bind_of_ok hmake]
    rfl

/-- What the observation of a window is built from. -/
structure Ingested (functions : MonitoringFunctions) (scope : MonitoringScopeFields)
    (window_index : Nat) (bounds : UtcSecond×UtcSecond) (observed_at : UtcSecond)
    (queries : MonitoringMetricQueryV1×MonitoringMetricQueryV1) (samples : List MonitoringSampleV1) :
    Prop where
  index_bounds : 1 ≤ window_index ∧ window_index≤ maximumWindows
  window : WindowQueries functions scope window_index bounds queries
  answers : AnswersWindow functions queries samples
  few_samples : samples.length≤64
  /-- The observation follows the window. -/
  observed : 0 ≤ secondsBetween bounds.2 observed_at
  calendar : bounds.2.1+maximumObservationDelaySeconds≤253402300799
  queries_differ : functions.query_sha256 queries.1≠functions.query_sha256 queries.2
  digests_differ : DistinctDigests functions samples
  safe_total : (countsOf (requestSamples (selectSamples functions samples).samples)).total
    ≤9007199254740991

section

variable {scope : MonitoringScopeFields} {window_index : Nat} {bounds : UtcSecond×UtcSecond}
  {observed_at : UtcSecond} {queries : MonitoringMetricQueryV1×MonitoringMetricQueryV1}
  {samples : List MonitoringSampleV1}

theorem observationTiming_ok
    (hcalendar : bounds.2.1+maximumObservationDelaySeconds≤253402300799) :
    observationTiming bounds.2 observed_at=.ok (collectionTiming bounds.2 observed_at) := by
  have hlow := bounds.2.2.1
  unfold maximumObservationDelaySeconds at hcalendar
  have hready : addHealthSeconds bounds.2 observationDelaySeconds=
      .ok ⟨bounds.2.1+observationDelaySeconds,by unfold observationDelaySeconds; omega⟩ :=
    mapError_eq_ok.mpr (addSeconds_ok rfl)
  have hlate : addHealthSeconds bounds.2 maximumObservationDelaySeconds=
      .ok ⟨bounds.2.1+maximumObservationDelaySeconds,by
        unfold maximumObservationDelaySeconds; omega⟩ :=
    mapError_eq_ok.mpr (addSeconds_ok rfl)
  unfold observationTiming
  rw [bind_of_ok hready,bind_of_ok hlate]
  simp only [collectionTiming,secondsBetween,sub_lt_iff_lt_add',lt_sub_iff_add_lt']
  split
  · rfl
  · split <;> rfl

/-- The samples of an observation pass the checks of its scan apart from their order. -/
theorem scannable_selected (h : Ingested functions scope window_index bounds observed_at queries samples)
    {counts : RequestCounts} {latency_distribution : Option MonitoringDistributionV1} :
    ∀ sample∈(selectSamples functions samples).samples,
      Scannable (observationFields functions scope window_index bounds.1 bounds.2 observed_at queries
        (selectSamples functions samples) counts latency_distribution) sample := by
  intro sample hsample
  have hbounds : queries.1.window_started_at=bounds.1 ∧ queries.1.window_ended_at=bounds.2 := by
    rw [h.window.requests]
    exact ⟨rfl,rfl⟩
  have hsame := h.window.sameWindow
  rcases h.answers sample (mem_selected hsample).1 with hanswer | hanswer
  · refine ⟨⟨queries.1,?_,hanswer.kind.symm⟩,hanswer.starts.trans hbounds.1,
      hanswer.ends.trans hbounds.2⟩
    rw [hanswer.cites]
    exact List.lookup_cons_self
  · refine ⟨⟨queries.2,?_,hanswer.kind.symm⟩,
      hanswer.starts.trans (hsame.starts.symm.trans hbounds.1),
      hanswer.ends.trans (hsame.ends.symm.trans hbounds.2)⟩
    rw [hanswer.cites]
    have hne : (functions.query_sha256 queries.2==functions.query_sha256 queries.1)=false :=
      beq_eq_false_iff_ne.mpr h.queries_differ.symm
    simp only [observationFields,List.zip_cons_cons,List.lookup_cons,hne,beq_self_eq_true]

/-- The request aggregates of an observation are the ones of its samples. -/
theorem validateRequests_ok {selected : CanonicalSamples}
    {latency_distribution : Option MonitoringDistributionV1} :
    validateRequests (observationFields functions scope window_index bounds.1 bounds.2 observed_at
      queries selected (countsOf (requestSamples selected.samples)) latency_distribution)
        (requestSamples selected.samples)=.ok () := by
  unfold validateRequests
  by_cases hempty : requestSamples selected.samples=[]
  · have hmissing : HealthSignal.totalRequests∈(observationFields functions scope window_index bounds.1
        bounds.2 observed_at queries selected (countsOf (requestSamples selected.samples))
        latency_distribution).missing_signals :=
      mem_absentSignals.1.mpr (if_pos hempty)
    rw [if_pos hmissing]
    exact require_of ⟨hempty,if_pos hempty,if_pos hempty,if_pos hempty,if_pos hempty,if_pos hempty,
      if_pos hempty⟩
  · have hpresent : HealthSignal.totalRequests∉(observationFields functions scope window_index bounds.1
        bounds.2 observed_at queries selected (countsOf (requestSamples selected.samples))
        latency_distribution).missing_signals := by
      intro hmissing
      have hnone := (if_neg hempty).symm.trans (mem_absentSignals.1.mp hmissing)
      cases hnone
    rw [if_neg hpresent,bind_of_ok (require_of hempty)]
    have hcounts : requestCounts requestSampleValue (requestSamples selected.samples)=
        .ok (countsOf (requestSamples selected.samples)) := requestCounts_ok isRequest_of_mem
    rw [bind_of_ok hcounts]
    exact require_of ⟨if_neg hempty,if_neg hempty,if_neg hempty,if_neg hempty,if_neg hempty,
      if_neg hempty⟩

theorem validateLatency_ok {counts : RequestCounts} {samples : List MonitoringSampleV1} :
    let selected := selectSamples functions samples
    ∃ latency_distribution,
      latencyDistribution functions (latencySample selected.samples)=.ok latency_distribution ∧
      validateLatency functions (observationFields functions scope window_index bounds.1 bounds.2
        observed_at queries selected counts latency_distribution)
          (selected.samples.filter isLatency).reverse=.ok () := by
  intro selected
  have hcases := @selected_latency functions samples
  unfold validateLatency
  rcases hcases with ⟨hfilter,hnone⟩ | ⟨sample,hfilter,hsome,hlatency⟩
  · refine ⟨none,by rw [hnone]; rfl,?_⟩
    rw [hfilter]
    exact (if_pos (mem_absentSignals.2.2.2.mpr rfl)).trans (require_of ⟨rfl,rfl⟩)
  · obtain ⟨latency,distribution,hvalue,hmake,hdistribution⟩ :=
      @latencyDistribution_ok functions sample hlatency
    refine ⟨some distribution,by rw [hsome]; exact hdistribution,?_⟩
    rw [hfilter,if_neg]
    · exact (bind_of_ok (requireSome_eq_ok.mpr hvalue)).trans
        ((bind_of_ok hmake).trans (require_of rfl))
    · intro hmissing
      have hnone := mem_absentSignals.2.2.2.mp hmissing
      cases hnone

theorem validateFields_ok
    (h : Ingested functions scope window_index bounds observed_at queries samples)
    (latency_distribution : Option MonitoringDistributionV1) :
    (observationFields functions scope window_index bounds.1 bounds.2 observed_at queries
      (selectSamples functions samples)
      (countsOf (requestSamples (selectSamples functions samples).samples))
      latency_distribution).validateFields=.ok () := by
  have hcount := @duplicate_count_add functions samples
  have hfew := h.few_samples
  have htotal := h.safe_total
  have hpresent : ∀ {condition : Prop} [Decidable condition] {value : Nat},value≤9007199254740991 →
      isSafeCount (if condition then none else some value)=true := by
    intro condition hdecidable value hvalue
    by_cases hcondition : condition
    · rw [if_pos hcondition]
      rfl
    · rw [if_neg hcondition]
      exact decide_eq_true hvalue
  have hsources : (selectSamples functions samples).source_sample_sha256s.length=samples.length := by
    rw [selectSamples,sortedDigests,List.length_mergeSort,List.length_map]
  unfold RequestCounts.total at htotal
  refine require_of ⟨h.index_bounds,rfl,rfl,?_,?_,?_,length_absentSignals _ _ _ _,?_,hpresent ?_,
    hpresent ?_,hpresent ?_,hpresent ?_,hpresent ?_,hpresent ?_⟩
  · simp only [observationFields]
    omega
  · simp only [observationFields,List.length_map]
    omega
  · simp only [observationFields,hsources]
    exact hfew
  · simp only [observationFields]
    omega
  · exact htotal
  all_goals omega

/-- A sample has a place. -/
theorem slotOrder_nonneg (sample : MonitoringSampleV1) : 0 ≤ slotOrder (sampleSlot sample) := by
  rcases sample_shape sample with ⟨hrequest,response,hresponse,-⟩ | ⟨hlatency,-⟩
  · rw [sampleSlot,hrequest,hresponse]
    exact Int.natCast_nonneg _
  · rw [sampleSlot,hlatency]
    exact Int.natCast_nonneg _

theorem validateSamples_ok
    (h : Ingested functions scope window_index bounds observed_at queries samples)
    {latency_distribution : Option MonitoringDistributionV1}
    (hlatency : validateLatency functions (observationFields functions scope window_index bounds.1
      bounds.2 observed_at queries (selectSamples functions samples)
      (countsOf (requestSamples (selectSamples functions samples).samples)) latency_distribution)
        ((selectSamples functions samples).samples.filter isLatency).reverse=.ok ()) :
    validateSamplesAndAggregates functions (observationFields functions scope window_index bounds.1
      bounds.2 observed_at queries (selectSamples functions samples)
      (countsOf (requestSamples (selectSamples functions samples).samples)) latency_distribution)=
        .ok () := by
  obtain ⟨scan,hscan,hrequests,hlatencies⟩ := @scan_ordered _ _
    (@scannable_selected functions scope window_index bounds observed_at queries samples h
      (countsOf (requestSamples (selectSamples functions samples).samples)) latency_distribution)
    selected_ordered ⟨[],[],-1⟩
    (fun sample _ => lt_of_lt_of_le (by decide) (slotOrder_nonneg sample))
    (fun sample hsample => by cases hsample)
  rw [List.append_nil] at hrequests hlatencies
  have haggregates : validateRequests (observationFields functions scope window_index bounds.1
      bounds.2 observed_at queries (selectSamples functions samples)
      (countsOf (requestSamples (selectSamples functions samples).samples)) latency_distribution)
        scan.request_samples=.ok () := by
    rw [hrequests]
    exact validateRequests_ok
  unfold validateSamplesAndAggregates
  refine (bind_of_ok hscan).trans ((bind_of_ok (require_of ?_)).trans
    ((bind_of_ok haggregates).trans ?_))
  · rintro ⟨hany,hall⟩
    have hmissing := @mem_absentSignals
      (observationFields functions scope window_index bounds.1 bounds.2 observed_at queries
        (selectSamples functions samples)
        (countsOf (requestSamples (selectSamples functions samples).samples))
        latency_distribution).request_count
      (observationFields functions scope window_index bounds.1 bounds.2 observed_at queries
        (selectSamples functions samples)
        (countsOf (requestSamples (selectSamples functions samples).samples))
        latency_distribution).successful_request_count
      (observationFields functions scope window_index bounds.1 bounds.2 observed_at queries
        (selectSamples functions samples)
        (countsOf (requestSamples (selectSamples functions samples).samples))
        latency_distribution).server_error_count latency_distribution
    by_cases hempty : requestSamples (selectSamples functions samples).samples=[]
    · exact hall ⟨hmissing.1.mpr (if_pos hempty),hmissing.2.1.mpr (if_pos hempty),
        hmissing.2.2.1.mpr (if_pos hempty)⟩
    · have hsome : ∀ value : Nat,
          (if requestSamples (selectSamples functions samples).samples=[] then none else some value)≠
            none := by
        intro value
        rw [if_neg hempty]
        exact Option.some_ne_none _
      rcases hany with hmem | hmem | hmem
      · exact hsome _ (hmissing.1.mp hmem)
      · exact hsome _ (hmissing.2.1.mp hmem)
      · exact hsome _ (hmissing.2.2.1.mp hmem)
  · rw [hlatencies]
    exact hlatency

theorem validateObservation_ok
    (h : Ingested functions scope window_index bounds observed_at queries samples) :
    ∃ latency_distribution,
      latencyDistribution functions (latencySample (selectSamples functions samples).samples)=
        .ok latency_distribution ∧
      (observationFields functions scope window_index bounds.1 bounds.2 observed_at queries
        (selectSamples functions samples)
        (countsOf (requestSamples (selectSamples functions samples).samples))
        latency_distribution).validateObservation functions=.ok () := by
  obtain ⟨latency_distribution,hdistribution,hlatency⟩ := @validateLatency_ok functions scope
    window_index bounds observed_at queries
    (countsOf (requestSamples (selectSamples functions samples).samples)) samples
  refine ⟨latency_distribution,hdistribution,?_⟩
  have hwindow := h.window
  have hstart : addHealthSeconds scope.observation_started_at
      (((window_index : Int)-1)*windowSeconds)=.ok bounds.1 :=
    mapError_eq_ok.mpr (addSeconds_ok hwindow.starts)
  have hlength : secondsBetween bounds.1 bounds.2=windowSeconds := by
    rw [secondsBetween,hwindow.ends]
    omega
  have hdigests : (selectSamples functions samples).samples.map functions.sample_sha256 |>.Nodup := by
    refine List.Nodup.map_on ?_ (selected_ordered.imp fun hlt hsame => ?_)
    · intro first hfirst second hsecond
      exact h.digests_differ first (mem_selected hfirst).1 second (mem_selected hsecond).1
    · rw [hsame] at hlt
      exact lt_irrefl _ hlt
  have hsource : ∀ digest,digest∈(selectSamples functions samples).source_sample_sha256s ↔
      ∃ sample∈samples,functions.sample_sha256 sample=digest := by
    intro digest
    rw [selectSamples,sortedDigests,List.mem_mergeSort,List.mem_map]
  have hcount := @duplicate_count_add functions samples
  have hsources : (selectSamples functions samples).source_sample_sha256s.length=samples.length := by
    rw [selectSamples,sortedDigests,List.length_mergeSort,List.length_map]
  have hscope : ∀ query∈[queries.1,queries.2],
      (observationFields functions scope window_index bounds.1 bounds.2 observed_at queries
        (selectSamples functions samples)
        (countsOf (requestSamples (selectSamples functions samples).samples))
        latency_distribution).inScope query := by
    intro query hquery
    rcases List.mem_pair.mp hquery with rfl | rfl
    · unfold MonitoringObservationFields.inScope
      rw [hwindow.requests]
      exact ⟨rfl,rfl,rfl,rfl,rfl,rfl,rfl,rfl⟩
    · unfold MonitoringObservationFields.inScope
      rw [hwindow.latency]
      exact ⟨rfl,rfl,rfl,rfl,rfl,rfl,rfl,rfl⟩
  have hkinds : [queries.1,queries.2].map (fun query => query.query_kind)=MonitoringQueryKind.all := by
    simp only [List.map_cons,List.map_nil,hwindow.requests,hwindow.latency]
    rfl
  unfold MonitoringObservationFields.validateObservation
  refine (bind_of_ok (require_of hwindow.root)).trans ?_
  refine (bind_of_ok (require_of hlength)).trans ?_
  refine (bind_of_ok (require_of h.observed)).trans ?_
  refine (bind_of_ok hstart).trans ?_
  refine (bind_of_ok (require_of rfl)).trans ?_
  refine (bind_of_ok (require_of hkinds)).trans ?_
  refine (bind_of_ok (require_of rfl)).trans ?_
  refine (bind_of_ok (require_of ?_)).trans ?_
  · exact List.nodup_cons.mpr ⟨fun hmem => h.queries_differ (List.mem_singleton.mp hmem),
      List.nodup_singleton _⟩
  refine (bind_of_ok (require_of hscope)).trans ?_
  refine (bind_of_ok (observationTiming_ok h.calendar)).trans ?_
  refine (bind_of_ok (require_of rfl)).trans ?_
  refine (bind_of_ok (require_of ⟨rfl,rfl⟩)).trans ?_
  refine (bind_of_ok (require_of rfl)).trans ?_
  refine (bind_of_ok (require_of hdigests)).trans ?_
  refine (bind_of_ok (require_of (sortedDigests_sorted _))).trans ?_
  refine (bind_of_ok (require_of ?_)).trans ?_
  · intro digest hdigest
    obtain ⟨sample,hsample,rfl⟩ := List.mem_map.mp hdigest
    exact (hsource _).mpr ⟨sample,(mem_selected hsample).1,rfl⟩
  refine (bind_of_ok (require_of ?_)).trans ?_
  · simp only [observationFields,List.length_map,hsources]
    omega
  refine (bind_of_ok (require_of ?_)).trans (validateSamples_ok h hlatency)
  refine Bool.eq_iff_iff.mpr ((conflict_iff_unselected h.digests_differ).trans
    (Iff.trans ?_ decide_eq_true_iff.symm))
  constructor
  · rintro ⟨sample,hsample,hunselected⟩ hall
    exact hunselected (hall _ ((hsource _).mpr ⟨sample,hsample,rfl⟩))
  · intro hnone
    obtain ⟨digest,hdigest⟩ := not_forall.mp hnone
    obtain ⟨hmem,hunselected⟩ := Classical.not_imp.mp hdigest
    obtain ⟨sample,hsample,rfl⟩ := (hsource digest).mp hmem
    exact ⟨sample,hsample,hunselected⟩

theorem buildObservation_ok
    (h : Ingested functions scope window_index bounds observed_at queries samples) :
    ∃ observation,buildObservation functions scope window_index bounds.1 bounds.2 observed_at queries
        (selectSamples functions samples)=.ok observation ∧
      observation.duplicate_count+observation.samples.length=samples.length ∧
      (observation.conflicting_duplicate=true ↔
        ∃ digest∈observation.source_sample_sha256s,digest∉observation.sample_sha256s) := by
  obtain ⟨latency_distribution,hdistribution,haccepted⟩ := validateObservation_ok h
  have hbounded := validateFields_ok h latency_distribution
  have hcounts : requestCounts requestSampleCount
      (requestSamples (selectSamples functions samples).samples)=
        .ok (countsOf (requestSamples (selectSamples functions samples).samples)) :=
    requestCounts_ok isRequest_of_mem
  refine ⟨_,(bind_of_ok hcounts).trans ((bind_of_ok hdistribution).trans
    (make_of_accepted hbounded haccepted)),duplicate_count_add,?_⟩
  refine (conflict_iff_unselected h.digests_differ).trans ?_
  have hsource : ∀ digest,digest∈(selectSamples functions samples).source_sample_sha256s ↔
      ∃ sample∈samples,functions.sample_sha256 sample=digest := by
    intro digest
    rw [selectSamples,sortedDigests,List.mem_mergeSort,List.mem_map]
  constructor
  · rintro ⟨sample,hsample,hunselected⟩
    exact ⟨_,(hsource _).mpr ⟨sample,hsample,rfl⟩,hunselected⟩
  · rintro ⟨digest,hdigest,hunselected⟩
    obtain ⟨sample,hsample,rfl⟩ := (hsource digest).mp hdigest
    exact ⟨sample,hsample,hunselected⟩

end

end

def letterDigest (letter : Char) (h : isSha256 (String.ofList (List.replicate 64 letter))=true) :
    Sha256Digest := ⟨String.ofList (List.replicate 64 letter),h⟩

/-- Digests that tell the two queries apart. -/
def letterFunctions : MonitoringFunctions where
  sha256 := fun _ => letterDigest 'a' isSha256_a
  query_sha256 := fun query =>
    match query.query_kind with
    | .requestCountByResponseCodeClass => letterDigest 'b' isSha256_b
    | .requestLatencyDistribution => letterDigest 'c' isSha256_c
  policy_sha256 := letterDigest 'd' isSha256_d

theorem minuteNames_valid : ((isHyphenatedName "controlgraph-dev".toList=true ∧ 6 ≤ "controlgraph-dev".length ∧
      "controlgraph-dev".length≤30) ∧ isRegion "us-central1"=true) ∧
    isIdentifier "staging"=true ∧
    (isHyphenatedName "gateway".toList=true ∧ "gateway".length≤63) ∧
    isHyphenatedName "gateway-r2".toList=true ∧ "gateway-r2".length≤63 := by
  decide +kernel

/-- A scope of one service that starts at a given minute. -/
def minuteScope (observation_started_at : UtcSecond) : MonitoringScopeFields where
  target := ⟨⟨"controlgraph-dev",timelineProject⟩,⟨"us-central1",chainRegion⟩,
    ⟨"staging",timelineEnvironment⟩,⟨"gateway",timelineService⟩⟩
  root_id := ⟨"cgroot:"++(letterDigest 'e' isSha256_e).1,StorageIdentity.isIdentifier_root _⟩
  root_sha256 := letterDigest 'e' isSha256_e
  epoch := firstEpoch
  candidate_revision := ⟨"gateway-r2",minuteNames_valid.2.2.2⟩
  observation_started_at := observation_started_at

/-- The minute after a timestamp. -/
def minuteBounds (start : UtcSecond) (h : start.1+60≤253402300799) : UtcSecond×UtcSecond :=
  (start,⟨start.1+60,by have := start.2.1; omega,h⟩)

def firstMinute : UtcSecond×UtcSecond := minuteBounds ⟨1767225600,by omega⟩ (by decide)

/-- The last but one minute of the calendar. -/
def lateMinute : UtcSecond×UtcSecond := minuteBounds ⟨253402300680,by omega⟩ (by decide)

/-- The scopes of both minutes are accepted, and so are their queries. -/
theorem minuteScopes_valid :
    ((minuteScope firstMinute.1).validateScope letterFunctions=.ok () ∧
      (minuteScope lateMinute.1).validateScope letterFunctions=.ok ()) ∧
    ((queryFields letterFunctions (minuteScope firstMinute.1) firstMinute.1 firstMinute.2
        .requestCountByResponseCodeClass).validateQuery=.ok () ∧
      (queryFields letterFunctions (minuteScope firstMinute.1) firstMinute.1 firstMinute.2
        .requestLatencyDistribution).validateQuery=.ok ()) ∧
    (queryFields letterFunctions (minuteScope lateMinute.1) lateMinute.1 lateMinute.2
        .requestCountByResponseCodeClass).validateQuery=.ok () ∧
      (queryFields letterFunctions (minuteScope lateMinute.1) lateMinute.1 lateMinute.2
        .requestLatencyDistribution).validateQuery=.ok () := by
  decide +kernel

def firstQueries : MonitoringMetricQueryV1×MonitoringMetricQueryV1 :=
  (⟨queryFields letterFunctions (minuteScope firstMinute.1) firstMinute.1 firstMinute.2
      .requestCountByResponseCodeClass,minuteScopes_valid.2.1.1⟩,
    ⟨queryFields letterFunctions (minuteScope firstMinute.1) firstMinute.1 firstMinute.2
      .requestLatencyDistribution,minuteScopes_valid.2.1.2⟩)

/-- The queries of the last but one minute. -/
def lateQueries : MonitoringMetricQueryV1×MonitoringMetricQueryV1 :=
  (⟨queryFields letterFunctions (minuteScope lateMinute.1) lateMinute.1 lateMinute.2
      .requestCountByResponseCodeClass,minuteScopes_valid.2.2.1⟩,
    ⟨queryFields letterFunctions (minuteScope lateMinute.1) lateMinute.1 lateMinute.2
      .requestLatencyDistribution,minuteScopes_valid.2.2.2⟩)

/-- A collection of a query without points. -/
def noPoints (query : MonitoringMetricQueryV1) : MonitoringQueryCollection where
  query_sha256 := letterFunctions.query_sha256 query
  query_kind := query.query_kind
  points := []
  few_points := by decide
  points_bound := fun point hpoint => by cases hpoint

/-- One successful response in the first minute. -/
def successfulPoint : MonitoringCollectedPoint :=
  ⟨⟨letterFunctions.query_sha256 firstQueries.1,.requestCountByResponseCodeClass,firstMinute.1,
    firstMinute.2,some .successful,.int64,some ⟨7,seven_safe⟩,none⟩,by decide +kernel⟩

def onePoint : MonitoringQueryCollection where
  query_sha256 := letterFunctions.query_sha256 firstQueries.1
  query_kind := .requestCountByResponseCodeClass
  points := [successfulPoint]
  few_points := by decide
  points_bound := fun point hpoint => by
    rw [List.mem_singleton.mp hpoint]
    exact ⟨rfl,rfl⟩

/-- The queries of both minutes are derived from their scopes. -/
theorem queries_derived : windowQueries letterFunctions (minuteScope firstMinute.1) 1=
      .ok (firstMinute,firstQueries) ∧
    windowQueries letterFunctions (minuteScope lateMinute.1) 1=.ok (lateMinute,lateQueries) := by
  decide +kernel

def firstScope : MonitoringCollectionScope letterFunctions :=
  ⟨minuteScope firstMinute.1,minuteScopes_valid.1.1⟩

/-- The scope of the last but one minute. -/
def lateScope : MonitoringCollectionScope letterFunctions :=
  ⟨minuteScope lateMinute.1,minuteScopes_valid.1.2⟩

end ControlGraph.MonitoringIngestion
