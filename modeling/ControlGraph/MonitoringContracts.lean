import ControlGraph.ReceiptStore

/-!
# Contracts of a monitoring observation

The provider answers two queries for each one-minute window: request counts by
response class and one latency percentile. Every point becomes a canonical
sample, and an observation carries the selected samples, the digests of all of
them, and the aggregates. Its contract computes every aggregate, the duplicate
count and the conflict flag again from the samples and refuses a difference.
The health policy is one frozen value, so its bounds are constants.
-/

namespace ControlGraph.MonitoringContracts

open Checks ContractText JsonValues JsonText Utf8Text

open ReceiptContracts (TargetBinding)

open StorageIdentity (asciiBytes)

def windowSeconds : Int := 60

/-- Earliest observation after the end of a window. -/
def observationDelaySeconds : Int := 180

/-- Latest observation after the end of a window. -/
def maximumObservationDelaySeconds : Int := 360

def maximumWindows : Nat := 10

/-- Seconds from one timestamp to another. -/
def secondsBetween (start finish : UtcSecond) : Int := finish.1-start.1

/-- Whether a timestamp is a whole minute. -/
def isUtcMinute (second : UtcSecond) : Bool := second.1%60=0

/-- A number in decimal digits of a fixed width. -/
def padded (width value : Nat) : Text :=
  let digits := decimal value
  List.replicate (width-digits.length) (code '0')++digits

/-- Year, month and day of a number of days since 1970. -/
def civilDate (days : Int) : Int×Nat×Nat :=
  let shifted := days+719468
  let era := shifted/146097
  let dayOfEra := (shifted-era*146097).toNat
  let yearOfEra := (dayOfEra-dayOfEra/1460+dayOfEra/36524-dayOfEra/146096)/365
  let dayOfYear := dayOfEra-(365*yearOfEra+yearOfEra/4-yearOfEra/100)
  let shiftedMonth := (5*dayOfYear+2)/153
  let day := dayOfYear-(153*shiftedMonth+2)/5+1
  let month := if shiftedMonth<10 then shiftedMonth+3 else shiftedMonth-9
  let year := (yearOfEra : Int)+era*400
  (if month≤2 then year+1 else year,month,day)

def utcText (second : UtcSecond) : Text :=
  let (year,month,day) := civilDate (second.1/86400)
  let time := (second.1%86400).toNat
  padded 4 year.toNat++[code '-']++padded 2 month++[code '-']++padded 2 day++[code 'T']++
    padded 2 (time/3600)++[code ':']++padded 2 (time/60%60)++[code ':']++padded 2 (time%60)++
    [code 'Z']

example : utcText ⟨951782400,by omega⟩=chars "2000-02-29T00:00:00Z" := by decide +kernel

/-- A nonnegative integer that survives a JSON round trip. -/
abbrev NonNegativeSafeInteger := {value : Nat // value≤9007199254740991}

/-- Sixteen lowercase hexadecimal digits. -/
def isBinary64 (text : String) : Bool := text.toList.length==16 && text.toList.all isHexDigit

/-- Bits of a binary64 number. -/
abbrev Binary64 := {text : String // isBinary64 text=true}

/-- Microseconds of a nonnegative binary64 number of milliseconds, ties to even. -/
def binary64MillisecondsToMicroseconds (provider_double_bits : Binary64) :
    Except Raised NonNegativeSafeInteger :=
  let raw : Nat := provider_double_bits.1.toList.foldl
    (fun value character => 16*value+hexValue character) 0
  let sign : Nat := raw/2^63
  let exponent : Nat := raw/2^52%2048
  let fraction : Nat := raw%2^52
  if sign≠0 ∨ exponent=2047 then
    .error (.valueError "provider latency must be a finite non-negative binary64 value")
  else
    let significand : Nat := if exponent=0 then fraction else 2^52+fraction
    let exponentTwo : Int := if exponent=0 then -1074 else (exponent : Int)-1023-52
    let numerator := significand*1000*2^exponentTwo.toNat
    let denominator := 2^(-exponentTwo).toNat
    let quotient := numerator/denominator
    let doubledRemainder := 2*(numerator%denominator)
    let microseconds :=
      if denominator<doubledRemainder ∨ (doubledRemainder=denominator ∧ quotient%2=1) then
        quotient+1
      else quotient
    if h : microseconds≤9007199254740991 then .ok ⟨microseconds,h⟩
    else .error (.valueError "canonical latency exceeds the safe integer range")

/-- Signals of a window. -/
inductive HealthSignal
  | totalRequests | successful2xxRequests | serverError5xxRequests | requestLatencyP95
  deriving DecidableEq,Repr

/-- The signals in their closed order. -/
def HealthSignal.all : List HealthSignal :=
  [.totalRequests,.successful2xxRequests,.serverError5xxRequests,.requestLatencyP95]

/-- Queries of a window. -/
inductive MonitoringQueryKind
  | requestCountByResponseCodeClass | requestLatencyDistribution
  deriving DecidableEq,Repr

def MonitoringQueryKind.value : MonitoringQueryKind → String
  | .requestCountByResponseCodeClass => "REQUEST_COUNT_BY_RESPONSE_CODE_CLASS"
  | .requestLatencyDistribution => "REQUEST_LATENCY_DISTRIBUTION"

/-- The query kinds in their closed order. -/
def MonitoringQueryKind.all : List MonitoringQueryKind :=
  [.requestCountByResponseCodeClass,.requestLatencyDistribution]

/-- Classes of response codes. -/
inductive ResponseCodeClass
  | informational | successful | redirection | clientError | serverError
  deriving DecidableEq,Repr

def ResponseCodeClass.value : ResponseCodeClass → String
  | .informational => "1xx"
  | .successful => "2xx"
  | .redirection => "3xx"
  | .clientError => "4xx"
  | .serverError => "5xx"

def ResponseCodeClass.order : ResponseCodeClass → Nat
  | .informational => 0
  | .successful => 1
  | .redirection => 2
  | .clientError => 3
  | .serverError => 4

def responseCodeOrder : List ResponseCodeClass :=
  [.informational,.successful,.redirection,.clientError,.serverError]

/-- Presence of the signals of a window. -/
inductive MonitoringObservationCompleteness
  | complete | partialWindow | missing
  deriving DecidableEq,Repr

/-- Time of an observation against the bounds of the policy. -/
inductive MonitoringObservationTiming
  | early | ready | late
  deriving DecidableEq,Repr

/-- Value types of the provider. -/
inductive ProviderValueType
  | int64 | double
  deriving DecidableEq,Repr

def ProviderValueType.value : ProviderValueType → String
  | .int64 => "INT64"
  | .double => "DOUBLE"

/-- Units of a sample. -/
inductive SampleUnit
  | one | microseconds
  deriving DecidableEq,Repr

def SampleUnit.value : SampleUnit → String
  | .one => "1"
  | .microseconds => "us"

/-- Fields of a query that tell one query from another. Its remaining fields are
fixed by its kind and by the target. -/
structure MonitoringMetricQueryFields where
  query_kind : MonitoringQueryKind
  policy_sha256 : Sha256Digest
  target : TargetBinding
  root_id : Identifier
  root_sha256 : Sha256Digest
  epoch : PositiveSafeInteger
  candidate_revision : CloudRunName
  window_started_at : UtcSecond
  window_ended_at : UtcSecond
  deriving DecidableEq

/-- The root identifier is the prefixed root digest. -/
def validateRootBinding (root_id : Identifier) (root_sha256 : Sha256Digest) : Except Raised Unit :=
  require (root_id.1="cgroot:"++root_sha256.1)
    (.valueError "health contract root binding is inconsistent")

def MonitoringMetricQueryFields.validateQuery (query : MonitoringMetricQueryFields) :
    Except Raised Unit := do
  validateRootBinding query.root_id query.root_sha256
  require (secondsBetween query.window_started_at query.window_ended_at=windowSeconds)
    (.valueError "monitoring query must cover one exact 60-second window")
  require (isUtcMinute query.window_started_at=true ∧ isUtcMinute query.window_ended_at=true)
    (.valueError "monitoring query window must align to UTC minutes")
  require ((query.target.service_name.1++"-").toList.isPrefixOf query.candidate_revision.1.toList)
    (.valueError "monitoring candidate revision is outside the target service")

/-- One target-bound query of a window. -/
structure MonitoringMetricQueryV1 extends MonitoringMetricQueryFields where
  accepted : toMonitoringMetricQueryFields.validateQuery=.ok ()
  deriving DecidableEq

/-- Fields of a sample. -/
structure MonitoringSampleFields where
  query_sha256 : Sha256Digest
  query_kind : MonitoringQueryKind
  window_started_at : UtcSecond
  window_ended_at : UtcSecond
  response_code_class : Option ResponseCodeClass
  provider_value_type : ProviderValueType
  provider_double_bits : Option Binary64
  unit : SampleUnit
  int64_value : Option NonNegativeSafeInteger
  latency_microseconds : Option NonNegativeSafeInteger
  deriving DecidableEq

def MonitoringSampleFields.validateSample (sample : MonitoringSampleFields) :
    Except Raised Unit := do
  require (secondsBetween sample.window_started_at sample.window_ended_at=windowSeconds)
    (.valueError "monitoring sample must cover one exact 60-second window")
  match sample.query_kind with
  | .requestCountByResponseCodeClass =>
    require (sample.response_code_class≠none ∧ sample.provider_value_type=.int64 ∧
        sample.unit=.one ∧ sample.provider_double_bits=none ∧ sample.int64_value≠none ∧
        sample.latency_microseconds=none)
      (.valueError "request-count sample shape is invalid")
  | .requestLatencyDistribution =>
    require (sample.response_code_class=none ∧ sample.provider_value_type=.double ∧
        sample.provider_double_bits≠none ∧ sample.unit=.microseconds ∧
        sample.int64_value=none ∧ sample.latency_microseconds≠none)
      (.valueError "latency sample shape is invalid")
  match sample.provider_double_bits with
  | none => return ()
  | some bits => do
    let microseconds ← binary64MillisecondsToMicroseconds bits
    require (sample.latency_microseconds=some microseconds)
      (.valueError "latency sample is not the canonical binary64 conversion")

/-- One canonical value of a query. -/
structure MonitoringSampleV1 extends MonitoringSampleFields where
  accepted : toMonitoringSampleFields.validateSample=.ok ()
  deriving DecidableEq

/-- Build a sample, checking it. -/
def MonitoringSampleFields.make (fields : MonitoringSampleFields) :
    Except Raised MonitoringSampleV1 :=
  match h : fields.validateSample with
  | .ok () => .ok ⟨fields,h⟩
  | .error raised => .error raised

def optionalJson {α : Type} (value : Option α) (json : α → Json) : Json :=
  match value with
  | none => .null
  | some value => json value

/-- JSON of a sample, in key order. -/
def MonitoringSampleFields.json (sample : MonitoringSampleFields) : Json :=
  .obj [(chars "int64_value",optionalJson sample.int64_value (fun value => .int value.1)),
    (chars "latency_microseconds",
      optionalJson sample.latency_microseconds (fun value => .int value.1)),
    (chars "provider_double_bits",
      optionalJson sample.provider_double_bits (fun bits => .str (chars bits.1))),
    (chars "provider_value_type",.str (chars sample.provider_value_type.value)),
    (chars "query_kind",.str (chars sample.query_kind.value)),
    (chars "query_sha256",.str (chars sample.query_sha256.1)),
    (chars "response_code_class",
      optionalJson sample.response_code_class (fun response => .str (chars response.value))),
    (chars "schema_version",.str (chars "controlgraph.monitoring-sample/v1")),
    (chars "unit",.str (chars sample.unit.value)),
    (chars "window_ended_at",.str (utcText sample.window_ended_at)),
    (chars "window_started_at",.str (utcText sample.window_started_at))]

/-- Canonical text of a sample. All its characters are ASCII, so the bytes order
as the characters. -/
def MonitoringSampleFields.canonicalText (sample : MonitoringSampleFields) : Text :=
  dumpsSorted sample.json

/-- Functions that are not looked into. -/
structure MonitoringFunctions where
  /-- SHA-256 of a byte string. -/
  sha256 : Bytes → Sha256Digest
  query_sha256 : MonitoringMetricQueryV1 → Sha256Digest
  policy_sha256 : Sha256Digest

def sampleDomain : Bytes :=
  CanonicalCodec.digestDomain++asciiBytes "controlgraph.monitoring-sample/v1"++[0]

/-- Canonical digest of a sample. -/
def MonitoringFunctions.sample_sha256 (functions : MonitoringFunctions)
    (sample : MonitoringSampleV1) : Sha256Digest :=
  functions.sha256 (sampleDomain++utf8Bytes sample.canonicalText)

/-- Percentile of the latencies of a window. -/
structure MonitoringDistributionV1 where
  /-- Number of percentile samples. -/
  sample_count : NonNegativeSafeInteger
  /-- The percentile, rounded up to milliseconds. -/
  p95_latency_ms : NonNegativeSafeInteger
  /-- Digests of the percentile samples. -/
  source_sample_sha256s : List Sha256Digest
  deriving DecidableEq

/-- Build a distribution, checking it. -/
def MonitoringDistributionV1.make (sample_count p95_latency_ms : Nat)
    (source_sample_sha256s : List Sha256Digest) : Except Raised MonitoringDistributionV1 := do
  if hcount : sample_count≤9007199254740991 then
    if hlatency : p95_latency_ms≤9007199254740991 then
      require (1 ≤ source_sample_sha256s.length ∧ source_sample_sha256s.length≤64) .validationError
      require source_sample_sha256s.Nodup
        (.valueError "latency source sample digests must be unique")
      require (¬(sample_count=0 ∧ p95_latency_ms≠0))
        (.valueError "an empty latency distribution cannot have a percentile")
      return ⟨⟨sample_count,hcount⟩,⟨p95_latency_ms,hlatency⟩,source_sample_sha256s⟩
    else .error .validationError
  else .error .validationError

/-- Fields of an observation, with the numbers as the constructor receives them. -/
structure MonitoringObservationFields where
  observation_id : Identifier
  policy_sha256 : Sha256Digest
  target : TargetBinding
  root_id : Identifier
  root_sha256 : Sha256Digest
  epoch : PositiveSafeInteger
  candidate_revision : CloudRunName
  observation_started_at : UtcSecond
  window_index : Nat
  window_started_at : UtcSecond
  window_ended_at : UtcSecond
  observed_at : UtcSecond
  queries : List MonitoringMetricQueryV1
  query_sha256s : List Sha256Digest
  samples : List MonitoringSampleV1
  /-- Digests of the selected samples. -/
  sample_sha256s : List Sha256Digest
  /-- Digests of all samples. -/
  source_sample_sha256s : List Sha256Digest
  completeness : MonitoringObservationCompleteness
  /-- Time of the observation against the bounds of the policy. -/
  timing : MonitoringObservationTiming
  missing_signals : List HealthSignal
  /-- Number of samples that were not selected. -/
  duplicate_count : Nat
  /-- Whether two samples of one series differ. -/
  conflicting_duplicate : Bool
  request_count : Option Nat
  /-- Number of informational responses. -/
  response_1xx_count : Option Nat
  successful_request_count : Option Nat
  response_3xx_count : Option Nat
  /-- Number of client errors. -/
  response_4xx_count : Option Nat
  server_error_count : Option Nat
  latency_distribution : Option MonitoringDistributionV1

/-- A timestamp some seconds later, as the health contracts add them. -/
def addHealthSeconds (value : UtcSecond) (seconds : Int) : Except Raised UtcSecond :=
  (addSeconds value seconds).mapError
    (fun _ => .valueError "health timestamp exceeds the UTC calendar range")

/-- Time of an observation against the bounds of the policy. -/
def observationTiming (window_ended_at observed_at : UtcSecond) :
    Except Raised MonitoringObservationTiming := do
  let ready_at ← addHealthSeconds window_ended_at observationDelaySeconds
  let late_after ← addHealthSeconds window_ended_at maximumObservationDelaySeconds
  if observed_at.1 < ready_at.1 then return .early
  else if late_after.1<observed_at.1 then return .late
  else return .ready

/-- Signals without a value, in the closed order of the signals. -/
def absentSignals (total successful server_error : Option Nat)
    (latency : Option MonitoringDistributionV1) : List HealthSignal :=
  (if total=none then [.totalRequests] else [])++
    (if successful=none then [.successful2xxRequests] else [])++
    (if server_error=none then [.serverError5xxRequests] else [])++
    (if latency=none then [.requestLatencyP95] else [])

/-- Presence of the signals, given the absent ones. -/
def completenessOf (absent : List HealthSignal) : MonitoringObservationCompleteness :=
  if absent=[] then .complete
  else if absent.length=HealthSignal.all.length then .missing
  else .partialWindow

/-- Numbers of responses by class. -/
structure RequestCounts where
  informational : Nat
  successful : Nat
  redirection : Nat
  clientError : Nat
  serverError : Nat

/-- Number of all responses. -/
def RequestCounts.total (counts : RequestCounts) : Nat :=
  counts.informational+counts.successful+counts.redirection+counts.clientError+counts.serverError

/-- The request sample of a class, the latest first. -/
def requestSample (request_samples : List MonitoringSampleV1) (response : ResponseCodeClass) :
    Option MonitoringSampleV1 :=
  request_samples.find? (fun sample => sample.response_code_class=some response)

def sampleCount (error : Raised) (sample : Option MonitoringSampleV1) : Except Raised Nat :=
  match sample with
  | none => .ok 0
  | some sample =>
    match sample.int64_value with
    | none => .error error
    | some value => .ok value.1

def requestSampleValue (sample : Option MonitoringSampleV1) : Except Raised Nat :=
  sampleCount (.assertionError "") sample

/-- Numbers of responses of the request samples. -/
def requestCounts (value : Option MonitoringSampleV1 → Except Raised Nat)
    (request_samples : List MonitoringSampleV1) : Except Raised RequestCounts := do
  let informational ← value (requestSample request_samples .informational)
  let successful ← value (requestSample request_samples .successful)
  let redirection ← value (requestSample request_samples .redirection)
  let clientError ← value (requestSample request_samples .clientError)
  let serverError ← value (requestSample request_samples .serverError)
  return ⟨informational,successful,redirection,clientError,serverError⟩

/-- What the scan of the samples has seen. -/
structure SampleScan where
  request_samples : List MonitoringSampleV1
  latency_samples : List MonitoringSampleV1
  /-- Place of the last sample, negative before the first. -/
  previous_order : Int

/-- Whether an optional number fits a JSON number. -/
def isSafeCount (value : Option Nat) : Bool := value.all (fun value => value≤9007199254740991)

section

variable (functions : MonitoringFunctions) (observation : MonitoringObservationFields)

def MonitoringObservationFields.validateFields : Except Raised Unit :=
  require ((1 ≤ observation.window_index ∧ observation.window_index≤ maximumWindows) ∧
      observation.queries.length=2 ∧ observation.query_sha256s.length=2 ∧
      observation.samples.length≤64 ∧ observation.sample_sha256s.length≤64 ∧
      observation.source_sample_sha256s.length≤64 ∧ observation.missing_signals.length≤4 ∧
      observation.duplicate_count≤64 ∧ isSafeCount observation.request_count=true ∧
      isSafeCount observation.response_1xx_count=true ∧
      isSafeCount observation.successful_request_count=true ∧
      isSafeCount observation.response_3xx_count=true ∧
      isSafeCount observation.response_4xx_count=true ∧
      isSafeCount observation.server_error_count=true)
    .validationError

/-- A query covers the window of the observation and has its scope. -/
def MonitoringObservationFields.inScope (query : MonitoringMetricQueryV1) : Prop :=
  query.policy_sha256=observation.policy_sha256 ∧ query.target=observation.target ∧
    query.root_id=observation.root_id ∧ query.root_sha256=observation.root_sha256 ∧
    query.epoch=observation.epoch ∧ query.candidate_revision=observation.candidate_revision ∧
    query.window_started_at=observation.window_started_at ∧
    query.window_ended_at=observation.window_ended_at

instance (query : MonitoringMetricQueryV1) : Decidable (observation.inScope query) := by
  unfold MonitoringObservationFields.inScope
  infer_instance

/-- Check one sample against the queries, the window and the samples before it. -/
def scanSample (scan : SampleScan) (sample : MonitoringSampleV1) : Except Raised SampleScan := do
  let query ← requireSome
    ((observation.query_sha256s.zip observation.queries).lookup sample.query_sha256)
    (.valueError "monitoring sample does not match an observation query")
  require (query.query_kind=sample.query_kind)
    (.valueError "monitoring sample does not match an observation query")
  require (sample.window_started_at=observation.window_started_at ∧
      sample.window_ended_at=observation.window_ended_at)
    (.valueError "monitoring sample is outside its observation window")
  match sample.query_kind with
  | .requestCountByResponseCodeClass => do
    let response ← requireSome sample.response_code_class (.assertionError "")
    require (requestSample scan.request_samples response=none)
      (.valueError "response-code class samples must be unique")
    require (scan.previous_order < response.order)
      (.valueError "monitoring samples are not in canonical order")
    return {
      scan with
      request_samples := sample::scan.request_samples
      previous_order := response.order}
  | .requestLatencyDistribution => do
    require (scan.previous_order < responseCodeOrder.length)
      (.valueError "monitoring samples are not in canonical order")
    return {
      scan with
      latency_samples := sample::scan.latency_samples
      previous_order := responseCodeOrder.length}

/-- Check the request aggregates against the request samples. -/
def validateRequests (request_samples : List MonitoringSampleV1) : Except Raised Unit := do
  if .totalRequests∈observation.missing_signals then
    require (request_samples=[] ∧ observation.request_count=none ∧
        observation.response_1xx_count=none ∧ observation.successful_request_count=none ∧
        observation.response_3xx_count=none ∧ observation.response_4xx_count=none ∧
        observation.server_error_count=none)
      (.valueError "missing request query cannot contain request aggregates")
  else do
    require (request_samples≠[])
      (.valueError "complete request query requires a response-code class sample")
    let counts ← requestCounts requestSampleValue request_samples
    require (observation.request_count=some counts.total ∧
        observation.response_1xx_count=some counts.informational ∧
        observation.successful_request_count=some counts.successful ∧
        observation.response_3xx_count=some counts.redirection ∧
        observation.response_4xx_count=some counts.clientError ∧
        observation.server_error_count=some counts.serverError)
      (.valueError "request aggregates do not match canonical request samples")

/-- Check the latency aggregate against the latency samples. -/
def validateLatency (latency_samples : List MonitoringSampleV1) : Except Raised Unit :=
  if .requestLatencyP95∈observation.missing_signals then
    require (latency_samples=[] ∧ observation.latency_distribution=none)
      (.valueError "missing latency query cannot contain a latency aggregate")
  else
    match latency_samples with
    | [latency_sample] => do
      let latency ← requireSome latency_sample.latency_microseconds (.assertionError "")
      let expected_distribution ← MonitoringDistributionV1.make 1 ((latency.1+999)/1000)
        [functions.sample_sha256 latency_sample]
      require (observation.latency_distribution=some expected_distribution)
        (.valueError "latency aggregate does not match its canonical sample")
    | _ => .error (.valueError "latency query requires one canonical percentile sample")

/-- Check the samples and every aggregate computed from them. -/
def validateSamplesAndAggregates : Except Raised Unit := do
  let scan ← observation.samples.foldlM (scanSample observation) ⟨[],[],-1⟩
  require (¬((.totalRequests∈observation.missing_signals ∨
        .successful2xxRequests∈observation.missing_signals ∨
        .serverError5xxRequests∈observation.missing_signals) ∧
      ¬(.totalRequests∈observation.missing_signals ∧
        .successful2xxRequests∈observation.missing_signals ∧
        .serverError5xxRequests∈observation.missing_signals)))
    (.valueError "grouped request signals must be missing together")
  validateRequests observation scan.request_samples
  validateLatency functions observation scan.latency_samples

def MonitoringObservationFields.validateObservation : Except Raised Unit := do
  validateRootBinding observation.root_id observation.root_sha256
  require (secondsBetween observation.window_started_at observation.window_ended_at=windowSeconds)
    (.valueError "health observation must cover one exact 60-second window")
  require (0 ≤ secondsBetween observation.window_ended_at observation.observed_at)
    (.valueError "health observation cannot precede its window end")
  let expected_start ← addHealthSeconds observation.observation_started_at
    (((observation.window_index : Int)-1)*windowSeconds)
  require (observation.window_started_at=expected_start)
    (.valueError "health observation window is not contiguous with its root interval")
  require (observation.queries.map (fun query => query.query_kind)=MonitoringQueryKind.all)
    (.valueError "health observation queries must use the closed query order")
  require (observation.query_sha256s=observation.queries.map functions.query_sha256)
    (.valueError "health observation query digests do not match its queries")
  require observation.query_sha256s.Nodup
    (.valueError "health observation query digests must be unique")
  require (∀ query∈observation.queries,observation.inScope query)
    (.valueError "health observation query is outside its exact scope")
  let expected_timing ← observationTiming observation.window_ended_at observation.observed_at
  require (observation.timing=expected_timing)
    (.valueError "health observation timing classification is incorrect")
  let absent := absentSignals observation.request_count observation.successful_request_count
    observation.server_error_count observation.latency_distribution
  require (observation.completeness=completenessOf absent ∧ observation.missing_signals=absent)
    (.valueError "health observation completeness classification is incorrect")
  require (observation.sample_sha256s=observation.samples.map functions.sample_sha256)
    (.valueError "health observation sample digests do not match its samples")
  require observation.sample_sha256s.Nodup
    (.valueError "health observation sample digests must be unique")
  require (observation.source_sample_sha256s.Pairwise (fun first second => first.1 ≤ second.1))
    (.valueError "health observation source sample digests are not canonical")
  require (∀ digest∈observation.sample_sha256s,digest∈observation.source_sample_sha256s)
    (.valueError "health observation source samples omit a selected sample")
  require ((observation.duplicate_count : Int)=
      observation.source_sample_sha256s.length-observation.sample_sha256s.length)
    (.valueError "health observation duplicate count does not match its sources")
  require (observation.conflicting_duplicate=
      decide (¬∀ digest∈observation.source_sample_sha256s,digest∈observation.sample_sha256s))
    (.valueError "health observation conflict classification is incorrect")
  validateSamplesAndAggregates functions observation

end

/-- A canonical observation of one window. -/
structure MonitoringWindowObservationV1 (functions : MonitoringFunctions) extends
    MonitoringObservationFields where
  bounded : toMonitoringObservationFields.validateFields=.ok ()
  accepted : toMonitoringObservationFields.validateObservation functions=.ok ()

/-- Build an observation, checking it. -/
def MonitoringObservationFields.make (functions : MonitoringFunctions)
    (fields : MonitoringObservationFields) :
    Except Raised (MonitoringWindowObservationV1 functions) :=
  match hbounded : fields.validateFields with
  | .error raised => .error raised
  | .ok () =>
    match haccepted : fields.validateObservation functions with
    | .error raised => .error raised
    | .ok () => .ok ⟨fields,hbounded,haccepted⟩

/-- Checked fields build an observation that keeps them. -/
theorem make_of_accepted {functions : MonitoringFunctions} {fields : MonitoringObservationFields}
    (hbounded : fields.validateFields=.ok ()) (haccepted : fields.validateObservation functions=.ok ()) :
    fields.make functions=.ok ⟨fields,hbounded,haccepted⟩ := by
  unfold MonitoringObservationFields.make
  split
  · rename_i raised herror
    rw [hbounded] at herror
    cases herror
  · split
    · rename_i raised herror
      rw [haccepted] at herror
      cases herror
    · rfl

end ControlGraph.MonitoringContracts
