import ControlGraph.MonitoringContracts
import ControlGraph.SlotSelection
import Mathlib.Data.List.Lex

/-!
# Collection of a monitoring observation

A scope binds the target, the root and the start of the first window. For one
window the collector derives the two queries, takes at most sixty-four points,
makes each point a canonical sample and groups the samples by series. A series
is represented by its sample with the smallest canonical text. The observation
carries the representatives, the sorted digests of all samples, and aggregates
that its contract computes again.
-/

namespace ControlGraph.MonitoringCollection

open Checks ContractText MonitoringContracts SlotSelection Utf8Text

open StorageIdentity (asciiBytes digest_characters isIdentifier_append
  isIdentifierCharacter_of_alphanumeric)

open ReceiptContracts (TargetBinding)

/-- Greatest number of points of a window. -/
def maximumPoints : Nat := 64

/-- Stable failures of a collection. -/
inductive MonitoringCollectionErrorCode
  | configurationInvalid | windowInvalid | queryTimeout | queryUnavailable | resultInvalid
  | clockInvalid
  deriving DecidableEq,Repr

/-- Fields of a scope. -/
structure MonitoringScopeFields where
  target : TargetBinding
  root_id : Identifier
  root_sha256 : Sha256Digest
  epoch : PositiveSafeInteger
  candidate_revision : CloudRunName
  observation_started_at : UtcSecond

/-- A timestamp some seconds later, as the windows are computed. -/
def addWindowSeconds (value : UtcSecond) (seconds : Int) : Except Raised UtcSecond :=
  (addSeconds value seconds).mapError
    (fun _ => .valueError "monitoring window exceeds the UTC calendar range")

/-- Start and end of a window. -/
def windowBounds (observation_started_at : UtcSecond) (window_index : Nat) :
    Except Raised (UtcSecond×UtcSecond) := do
  let window_started ← addWindowSeconds observation_started_at
    (((window_index : Int)-1)*windowSeconds)
  let window_ended ← addWindowSeconds window_started windowSeconds
  return (window_started,window_ended)

/-- Build a query, checking it. -/
def makeQuery (fields : MonitoringMetricQueryFields) : Except Raised MonitoringMetricQueryV1 :=
  match h : fields.validateQuery with
  | .ok () => .ok ⟨fields,h⟩
  | .error raised => .error raised

def queryFields (functions : MonitoringFunctions) (scope : MonitoringScopeFields)
    (window_started_at window_ended_at : UtcSecond) (query_kind : MonitoringQueryKind) :
    MonitoringMetricQueryFields where
  query_kind := query_kind
  policy_sha256 := functions.policy_sha256
  target := scope.target
  root_id := scope.root_id
  root_sha256 := scope.root_sha256
  epoch := scope.epoch
  candidate_revision := scope.candidate_revision
  window_started_at := window_started_at
  window_ended_at := window_ended_at

/-- The two queries of a window. -/
def deriveMonitoringMetricQueries (functions : MonitoringFunctions) (scope : MonitoringScopeFields)
    (window_started_at window_ended_at : UtcSecond) :
    Except Raised (MonitoringMetricQueryV1×MonitoringMetricQueryV1) := do
  require (scope.root_id.1="cgroot:"++scope.root_sha256.1)
    (.valueError "monitoring query scope is invalid")
  require (secondsBetween window_started_at window_ended_at=windowSeconds)
    (.valueError "monitoring query window is invalid")
  require (isUtcMinute window_started_at=true ∧ isUtcMinute window_ended_at=true)
    (.valueError "monitoring query window must align to UTC minutes")
  require ((scope.target.service_name.1++"-").toList.isPrefixOf scope.candidate_revision.1.toList)
    (.valueError "monitoring candidate revision is outside the target service")
  let requests ← makeQuery (queryFields functions scope window_started_at window_ended_at
    .requestCountByResponseCodeClass)
  let latency ← makeQuery (queryFields functions scope window_started_at window_ended_at
    .requestLatencyDistribution)
  return (requests,latency)

def windowQueries (functions : MonitoringFunctions) (scope : MonitoringScopeFields)
    (window_index : Nat) :
    Except Raised ((UtcSecond×UtcSecond)×(MonitoringMetricQueryV1×MonitoringMetricQueryV1)) := do
  let bounds ← windowBounds scope.observation_started_at window_index
  let queries ← deriveMonitoringMetricQueries functions scope bounds.1 bounds.2
  return (bounds,queries)

def MonitoringScopeFields.validateScope (functions : MonitoringFunctions)
    (scope : MonitoringScopeFields) : Except Raised Unit := do
  let _ ← (windowQueries functions scope 1).mapError
    (fun _ => .valueError "monitoring collection scope is invalid")
  return ()

/-- The binding of a collection to its root, target and first window. -/
structure MonitoringCollectionScope (functions : MonitoringFunctions) extends
    MonitoringScopeFields where
  accepted : toMonitoringScopeFields.validateScope functions=.ok ()

/-- Fields of a point of the provider. -/
structure MonitoringPointFields where
  query_sha256 : Sha256Digest
  query_kind : MonitoringQueryKind
  interval_started_at : UtcSecond
  interval_ended_at : UtcSecond
  response_code_class : Option ResponseCodeClass
  provider_value_type : ProviderValueType
  int64_value : Option NonNegativeSafeInteger
  provider_double_bits : Option Binary64

def MonitoringPointFields.validatePoint (point : MonitoringPointFields) : Except Raised Unit := do
  require (secondsBetween point.interval_started_at point.interval_ended_at=windowSeconds)
    (.valueError "monitoring point query binding is invalid")
  match point.query_kind with
  | .requestCountByResponseCodeClass =>
    require (point.response_code_class≠none ∧ point.provider_value_type=.int64 ∧
        point.int64_value≠none ∧ point.provider_double_bits=none)
      (.valueError "monitoring request point is invalid")
  | .requestLatencyDistribution => do
    require (point.response_code_class=none ∧ point.provider_value_type=.double ∧
        point.int64_value=none)
      (.valueError "monitoring latency point is invalid")
    let bits ← requireSome point.provider_double_bits
      (.valueError "monitoring latency point is invalid")
    let _ ← (binary64MillisecondsToMicroseconds bits).mapError
      (fun _ => .valueError "monitoring latency point is invalid")
    return ()

/-- One aggregate point of the provider. -/
structure MonitoringCollectedPoint extends MonitoringPointFields where
  accepted : toMonitoringPointFields.validatePoint=.ok ()

/-- The points returned for one query. -/
structure MonitoringQueryCollection where
  query_sha256 : Sha256Digest
  query_kind : MonitoringQueryKind
  points : List MonitoringCollectedPoint
  few_points : points.length≤ maximumPoints
  points_bound : ∀ point∈points,point.query_sha256=query_sha256 ∧ point.query_kind=query_kind

section

variable (functions : MonitoringFunctions)

/-- A collection answers its query for the exact window. -/
def answersQuery (query : MonitoringMetricQueryV1) (result : MonitoringQueryCollection) : Prop :=
  result.query_sha256=functions.query_sha256 query ∧ result.query_kind=query.query_kind ∧
    ∀ point∈result.points,point.interval_started_at=query.window_started_at ∧
      point.interval_ended_at=query.window_ended_at

instance (query : MonitoringMetricQueryV1) (result : MonitoringQueryCollection) :
    Decidable (answersQuery functions query result) := by
  unfold answersQuery
  infer_instance

/-- Take the answer of the provider for one query. -/
def collectQuery (provider : MonitoringMetricQueryV1 →
      Except MonitoringCollectionErrorCode MonitoringQueryCollection)
    (query : MonitoringMetricQueryV1) :
    Except MonitoringCollectionErrorCode MonitoringQueryCollection := do
  let result ← provider query
  require (answersQuery functions query result) .resultInvalid
  return result

def canonicalSample (query : MonitoringMetricQueryV1) (point : MonitoringCollectedPoint) :
    Except Raised MonitoringSampleV1 :=
  match query.query_kind with
  | .requestCountByResponseCodeClass =>
    MonitoringSampleFields.make {
      query_sha256 := functions.query_sha256 query
      query_kind := query.query_kind
      window_started_at := query.window_started_at
      window_ended_at := query.window_ended_at
      response_code_class := point.response_code_class
      provider_value_type := .int64
      provider_double_bits := none
      unit := .one
      int64_value := point.int64_value
      latency_microseconds := none}
  | .requestLatencyDistribution => do
    let latency_microseconds ← point.provider_double_bits.mapM binary64MillisecondsToMicroseconds
    MonitoringSampleFields.make {
      query_sha256 := functions.query_sha256 query
      query_kind := query.query_kind
      window_started_at := query.window_started_at
      window_ended_at := query.window_ended_at
      response_code_class := none
      provider_value_type := .double
      provider_double_bits := point.provider_double_bits
      unit := .microseconds
      int64_value := none
      latency_microseconds := latency_microseconds}

abbrev SampleSlot := MonitoringQueryKind×Option ResponseCodeClass

def sampleSlot (sample : MonitoringSampleV1) : SampleSlot :=
  (sample.query_kind,sample.response_code_class)

/-- The series in canonical order. -/
def canonicalSlots : List SampleSlot :=
  responseCodeOrder.map
      (fun response => (MonitoringQueryKind.requestCountByResponseCodeClass,some response))++
    [(MonitoringQueryKind.requestLatencyDistribution,none)]

/-- What the samples of a window come to. -/
structure CanonicalSamples where
  /-- The representatives, in canonical order. -/
  samples : List MonitoringSampleV1
  /-- Sorted digests of all samples. -/
  source_sample_sha256s : List Sha256Digest
  /-- Number of samples that were not selected. -/
  duplicate_count : Nat
  /-- Whether two samples of one series differ. -/
  conflicting_duplicate : Bool
  deriving DecidableEq

def sampleKey (sample : MonitoringSampleV1) : List Nat := sample.canonicalText

/-- Digests in the order of their text. -/
def sortedDigests (digests : List Sha256Digest) : List Sha256Digest :=
  digests.mergeSort (fun first second => decide (first.1 ≤ second.1))

def selectSamples (samples : List MonitoringSampleV1) : CanonicalSamples where
  samples := canonicalSlots.filterMap fun slot =>
    chosen functions.sample_sha256 sampleKey (slotItems sampleSlot samples slot)
  source_sample_sha256s := sortedDigests (samples.map functions.sample_sha256)
  duplicate_count :=
    (canonicalSlots.map fun slot => (slotItems sampleSlot samples slot).length-1).sum
  conflicting_duplicate := canonicalSlots.any fun slot =>
    1<(smallestByDigest functions.sample_sha256 sampleKey
      (slotItems sampleSlot samples slot)).length

/-- The samples of all points of a window. -/
def sourceSamples (queries : MonitoringMetricQueryV1×MonitoringMetricQueryV1)
    (requests latency : List MonitoringCollectedPoint) : Except Raised (List MonitoringSampleV1) := do
  let request_samples ← requests.mapM (canonicalSample functions queries.1)
  let latency_samples ← latency.mapM (canonicalSample functions queries.2)
  return request_samples++latency_samples

/-- Make the points of a window canonical samples and select among them. -/
def canonicalSamples (queries : MonitoringMetricQueryV1×MonitoringMetricQueryV1)
    (requests latency : List MonitoringCollectedPoint) : Except Raised CanonicalSamples := do
  let samples ← sourceSamples functions queries requests latency
  return selectSamples functions samples

/-- Value of a request sample that was selected. -/
def requestSampleCount (sample : Option MonitoringSampleV1) : Except Raised Nat :=
  sampleCount (.valueError "monitoring request sample is invalid") sample

/-- The request samples among the selected ones, the latest first. -/
def requestSamples (samples : List MonitoringSampleV1) : List MonitoringSampleV1 :=
  (samples.filter (fun sample => sample.query_kind=.requestCountByResponseCodeClass)).reverse

/-- The first latency sample among the selected ones. -/
def latencySample (samples : List MonitoringSampleV1) : Option MonitoringSampleV1 :=
  samples.find? (fun sample => sample.query_kind=.requestLatencyDistribution)

/-- Percentile of the selected latency sample. -/
def latencyDistribution (sample : Option MonitoringSampleV1) :
    Except Raised (Option MonitoringDistributionV1) :=
  match sample with
  | none => .ok none
  | some sample => do
    let latency_microseconds ← requireSome sample.latency_microseconds
      (.valueError "monitoring latency sample is invalid")
    let distribution ← MonitoringDistributionV1.make 1 ((latency_microseconds.1+999)/1000)
      [functions.sample_sha256 sample]
    return some distribution

/-- Time of an observation against the bounds of the policy. -/
def collectionTiming (window_ended_at observed_at : UtcSecond) : MonitoringObservationTiming :=
  let elapsed := secondsBetween window_ended_at observed_at
  if elapsed<observationDelaySeconds then .early
  else if maximumObservationDelaySeconds<elapsed then .late
  else .ready

def observationIdDomain : Bytes := asciiBytes "controlgraph.monitoring-observation-id/v1"++[0]

/-- A component preceded by its length in two bytes. -/
def framed (component : Bytes) : Bytes :=
  [UInt8.ofNat (component.length/256),UInt8.ofNat component.length]++component

def observationIdBytes (scope : MonitoringScopeFields) (window_index : Nat)
    (window_started_at window_ended_at observed_at : UtcSecond)
    (query_sha256s sample_sha256s : List Sha256Digest) (selected : CanonicalSamples) : Bytes :=
  let components :=
    [asciiBytes functions.policy_sha256.1,asciiBytes scope.root_sha256.1,
        asciiBytes (toString scope.epoch.1),asciiBytes scope.candidate_revision.1,
        utf8Bytes (utcText scope.observation_started_at),asciiBytes (toString window_index),
        utf8Bytes (utcText window_started_at),utf8Bytes (utcText window_ended_at),
        utf8Bytes (utcText observed_at)]++
      (query_sha256s++sample_sha256s++selected.source_sample_sha256s).map
        (fun digest => asciiBytes digest.1)++
      [asciiBytes (toString selected.duplicate_count),
        asciiBytes (if selected.conflicting_duplicate then "true" else "false")]
  observationIdDomain++(components.map framed).flatten

theorem isIdentifier_observation (digest : Sha256Digest) :
    isIdentifier ("cgobs:"++digest.1)=true :=
  StorageIdentity.isIdentifier_derived (by decide) (by decide) digest

def observationId (scope : MonitoringScopeFields) (window_index : Nat)
    (window_started_at window_ended_at observed_at : UtcSecond)
    (query_sha256s sample_sha256s : List Sha256Digest) (selected : CanonicalSamples) : Identifier :=
  ⟨"cgobs:"++(functions.sha256 (observationIdBytes functions scope window_index window_started_at
      window_ended_at observed_at query_sha256s sample_sha256s selected)).1,
    isIdentifier_observation _⟩

def observationFields (scope : MonitoringScopeFields) (window_index : Nat)
    (window_started_at window_ended_at observed_at : UtcSecond)
    (queries : MonitoringMetricQueryV1×MonitoringMetricQueryV1) (selected : CanonicalSamples)
    (counts : RequestCounts) (latency_distribution : Option MonitoringDistributionV1) :
    MonitoringObservationFields :=
  let present (value : Nat) := if requestSamples selected.samples=[] then none else some value
  let query_sha256s := [functions.query_sha256 queries.1,functions.query_sha256 queries.2]
  let sample_sha256s := selected.samples.map functions.sample_sha256
  let missing_signals := absentSignals (present counts.total) (present counts.successful)
    (present counts.serverError) latency_distribution
  {
    observation_id := observationId functions scope window_index window_started_at window_ended_at
      observed_at query_sha256s sample_sha256s selected
    policy_sha256 := functions.policy_sha256
    target := scope.target
    root_id := scope.root_id
    root_sha256 := scope.root_sha256
    epoch := scope.epoch
    candidate_revision := scope.candidate_revision
    observation_started_at := scope.observation_started_at
    window_index := window_index
    window_started_at := window_started_at
    window_ended_at := window_ended_at
    observed_at := observed_at
    queries := [queries.1,queries.2]
    query_sha256s := query_sha256s
    samples := selected.samples
    sample_sha256s := sample_sha256s
    source_sample_sha256s := selected.source_sample_sha256s
    completeness := completenessOf missing_signals
    timing := collectionTiming window_ended_at observed_at
    missing_signals := missing_signals
    duplicate_count := selected.duplicate_count
    conflicting_duplicate := selected.conflicting_duplicate
    request_count := present counts.total
    response_1xx_count := present counts.informational
    successful_request_count := present counts.successful
    response_3xx_count := present counts.redirection
    response_4xx_count := present counts.clientError
    server_error_count := present counts.serverError
    latency_distribution := latency_distribution}

def buildObservation (scope : MonitoringScopeFields) (window_index : Nat)
    (window_started_at window_ended_at observed_at : UtcSecond)
    (queries : MonitoringMetricQueryV1×MonitoringMetricQueryV1) (selected : CanonicalSamples) :
    Except Raised (MonitoringWindowObservationV1 functions) := do
  let counts ← requestCounts requestSampleCount (requestSamples selected.samples)
  let latency_distribution ← latencyDistribution functions (latencySample selected.samples)
  (observationFields functions scope window_index window_started_at window_ended_at observed_at
    queries selected counts latency_distribution).make functions

/-- Collect the observation of one window. -/
def collect (scope : MonitoringCollectionScope functions)
    (provider : MonitoringMetricQueryV1 →
      Except MonitoringCollectionErrorCode MonitoringQueryCollection)
    (clock : Option UtcSecond) (window_index : Nat) :
    Except MonitoringCollectionErrorCode (MonitoringWindowObservationV1 functions) := do
  require (1 ≤ window_index ∧ window_index≤ maximumWindows) .windowInvalid
  let (bounds,queries) ← (windowQueries functions scope.toMonitoringScopeFields window_index).mapError
    (fun _ => MonitoringCollectionErrorCode.windowInvalid)
  let requests ← collectQuery functions provider queries.1
  let latency ← collectQuery functions provider queries.2
  require (requests.points.length+latency.points.length≤ maximumPoints) .resultInvalid
  let observed_at ← requireSome clock .clockInvalid
  require (0 ≤ secondsBetween bounds.2 observed_at) .clockInvalid
  let observation : Except Raised (MonitoringWindowObservationV1 functions) := do
    let selected ← canonicalSamples functions queries requests.points latency.points
    buildObservation functions scope.toMonitoringScopeFields window_index bounds.1 bounds.2 observed_at queries
      selected
  observation.mapError (fun _ => .resultInvalid)

end

end ControlGraph.MonitoringCollection
