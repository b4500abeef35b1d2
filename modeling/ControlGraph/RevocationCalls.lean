import ControlGraph.ExecutionGate
import ControlGraph.LabelledRuns
import ControlGraph.RevocationBuilding

/-!
# Concurrent calls of one revocation

Any number of coordinators run the calls of one command by one operator. A call
checks the operator at its start, reads a view, and returns, denies, adopts or builds
a commit. Commits and audits are sent before their answers, land at any later step
or never, and their answers may be lost; a call that crashes is never scheduled
again. An audit is written in a transaction of its own, except for the one that a
commit carries.
-/

namespace ControlGraph.RevocationCalls

open Checks ContractText RootContracts RevocationContracts AuthorityDatabase RevocationCommits
  RevocationReading RevocationBuilding

open ReceiptContracts hiding ServiceClaimRecord

open ReceiptStore (StoreError)

open ExecutionRequests (AuthenticationContext RouteAuthenticationPolicy CallerRole)

open ExecutionGate (acceptedIssuers)

/-- A command of one operator. -/
structure RevocationRequest where
  command : EpochRevocationCommandV1
  operator_identity : BoundedText
  operator_subject : GoogleSubject

def RevocationRequest.attempt (request : RevocationRequest) (attempt_id : Identifier) :
    EpochRevocationInvocationV1 where
  command := request.command
  attempt_id := attempt_id
  operator_identity := request.operator_identity
  operator_subject := request.operator_subject

/-- What an invocation repeats of the token of its operator. -/
structure OperatorToken where
  issuer : String
  audience : String
  issued_at : Int
  expires_at : Int

/-- Whether a caller is the operator of an invocation, at a time. -/
def operatorIsExact (policy : RouteAuthenticationPolicy) (invocation : EpochRevocationInvocationV1)
    (token : OperatorToken) (principal : Option AuthenticationContext) (now : UtcSecond) : Bool :=
  match principal with
  | none => false
  | some principal => decide (principal.role=.operator ∧ principal.role=policy.role ∧
      principal.email=invocation.operator_identity.1 ∧
      invocation.operator_identity.1=policy.email ∧
      principal.subject=invocation.operator_subject.1 ∧
      invocation.operator_subject.1=policy.subject ∧ principal.issuer=token.issuer ∧
      principal.issuer∈acceptedIssuers ∧ principal.audience=token.audience ∧
      token.audience=policy.audience ∧ principal.issued_at=token.issued_at ∧
      principal.expires_at=token.expires_at ∧ principal.issued_at ≤ now.1 ∧
      now.1<principal.expires_at)

/-- How a call ends. -/
inductive Outcome
  | returned (result : EpochRevocationResultV1)
  /-- It raises a failure code. -/
  | failed (code : EpochRevocationFailureCode)
  | raised (error : Raised)
  deriving DecidableEq

/-- Writes that a call sends. -/
inductive Write
  | commit (expected : EpochRevocationState) (commit : EpochRevocationCommitV1)
  | audit (audit : EpochRevocationAuditV1)

/-- Where a call is. -/
inductive Stage
  /-- It reads its view, with the commits that it may still try. -/
  | reading (commits : Nat)
  | building (commits : Nat) (state : EpochRevocationState)
  /-- It waits for the answer of its commit. -/
  | committing (commits : Nat) (expected : EpochRevocationState) (commit : EpochRevocationCommitV1)
  /-- It reads what became of a commit without an answer. -/
  | resolving
  | recording (audit : EpochRevocationAuditV1) (outcome : Outcome)
  | finished (outcome : Outcome)

/-- Writes that are sent where a call is. -/
def Stage.writes : Stage → List Write
  | .committing _ expected commit => [.commit expected commit]
  | .recording audit _ => [.audit audit]
  | _ => []

/-- One call. -/
structure Call where
  invocation : EpochRevocationInvocationV1
  /-- When the call started. -/
  recorded_at : UtcSecond
  stage : Stage

/-- Answers to a commit. -/
inductive CommitReport
  | confirmed | conflict | unknown | corrupt | unavailable
  deriving DecidableEq,Repr

/-- Commits that a call may try. -/
def maxRevocationCommitAttempts : Nat := 4

/-- A commit that was accepted. -/
structure Landing (functions : AuthorityFunctions) (configured_target : TargetBinding) where
  expected : EpochRevocationState
  commit : EpochRevocationCommitV1
  before : Database functions
  next : Database functions
  accepted : commitEpochRevocation configured_target expected commit before=.ok next

/-- The stores and the calls. -/
structure System (functions : AuthorityFunctions) (configured_target : TargetBinding) where
  database : Database functions
  calls : Nat → Option Call
  sent : List Write
  landed : List (Landing functions configured_target)

/-- Steps of the system. -/
inductive Action
  | start (index : Nat) (attempt_id : Identifier) (token : OperatorToken)
    (principal : Option AuthenticationContext) (now : UtcSecond)
  /-- A call reads, or the store does not serve the read. -/
  | read (index : Nat) (served : Bool)
  /-- A call builds its commit with the answer of the evidence service. -/
  | build (index : Nat) (answer : Option SignedEvidenceEventV1)
  | land (position : Nat)
  /-- A call receives the answer to its commit. -/
  | report (index : Nat) (report : CommitReport)
  /-- A call receives the answer to its audit, or none. -/
  | record (index : Nat) (served : Bool)

section

variable {functions : AuthorityFunctions}

/-- Create the audit of an attempt, or adopt exactly the same. -/
def recordEpochRevocationAudit (database : Database functions) (audit : EpochRevocationAuditV1) :
    Except StoreError (Database functions) := do
  let document ← (preparedDocument functions revocationAuditFamily audit.audit_id.1 0
    audit).mapError .invalid
  match database.revocation_audits.create document with
  | .ok revocation_audits => return {database with revocation_audits := revocation_audits}
  | .error _ => do
    let current ← readAttemptAudit database audit.audit_id
    require (∃ stored∈current,stored.value=audit ∧ stored.revision=0) .conflict
    return database

def readFailure : StoreError → EpochRevocationFailureCode
  | .corruptRecord => .trustedStateInvalid
  | _ => .storeUnavailable

/-- The failure that the record of an audit ends with. -/
def recordFailure : StoreError → EpochRevocationFailureCode
  | .conflict | .corruptRecord | .invalid _ => .trustedStateInvalid
  | _ => .storeUnavailable

variable (functions) (configured_target : TargetBinding)

/-- What a stored audit answers to its attempt. -/
def answeredByAudit (audit : EpochRevocationAuditV1) (invocation : EpochRevocationInvocationV1)
    (existing : Option EpochRevocationResultV1) (request_sha256 : Sha256Digest) : Outcome :=
  if audit.outcome=.denied then .failed (audit.failure_code.getD .trustedStateInvalid)
  else match existing with
  | none => .failed .trustedStateInvalid
  | some result =>
    if SuccessfulAudit audit invocation result request_sha256 then .returned result
    else .failed .trustedStateInvalid

/-- Where a call goes with the view that it has read. -/
def afterRead (call : Call) (commits : Nat) (reading : EpochRevocationReading) : Stage :=
  let request_sha256 := epochRevocationRequestSha256 functions.sha256 call.invocation
  match exactResult functions configured_target reading request_sha256,
      validatedAttemptAudit reading.state request_sha256 with
  | .error code,_ => .finished (.failed code)
  | _,.error code => .finished (.failed code)
  | .ok existing,.ok (some audit) =>
    .finished (answeredByAudit audit call.invocation existing request_sha256)
  | .ok (some result),.ok none =>
    .recording (successAudit call.invocation result request_sha256 .adopted call.recorded_at)
      (.returned result)
  | .ok none,.ok none =>
    match commits with
    | 0 => .finished (.failed .storeUnavailable)
    | left+1 =>
      match stateDenial functions configured_target reading.state with
      | .error code =>
        .recording (deniedAudit call.invocation request_sha256 code call.recorded_at) (.failed code)
      | .ok _ => .building left reading.state

/-- How a call ends whose commit has no answer, with the view that it has read. -/
def resolved (call : Call) (reading : EpochRevocationReading) : Outcome :=
  let request_sha256 := epochRevocationRequestSha256 functions.sha256 call.invocation
  match exactResult functions configured_target reading request_sha256,
      validatedAttemptAudit reading.state request_sha256 with
  | .ok (some result),.ok (some audit) =>
    if audit.outcome=.committed ∧ SuccessfulAudit audit call.invocation result request_sha256 ∧
        audit.recorded_at=result.committed_at then .returned result
    else .failed .outcomeUnknown
  | _,_ => .failed .outcomeUnknown

/-- Where a call goes with what building its commit gave. -/
def afterBuild (call : Call) (commits : Nat) (state : EpochRevocationState) :
    Except BuildFailure EpochRevocationCommitV1 → Stage
  | .ok commit => .committing commits state commit
  | .error (.denied code) =>
    .recording (deniedAudit call.invocation
      (epochRevocationRequestSha256 functions.sha256 call.invocation) code call.recorded_at)
      (.failed code)
  | .error (.raised error) => .finished (.raised error)

variable {functions configured_target}

/-- A call goes on, and sends what it writes there. -/
def System.moved (system : System functions configured_target) (index : Nat) (call : Call)
    (stage : Stage) : System functions configured_target :=
  {system with
    calls := Function.update system.calls index (some {call with stage := stage})
    sent := system.sent++stage.writes}

/-- A call reads. -/
def readStep (system : System functions configured_target) (index : Nat) (call : Call)
    (served : Bool) : System functions configured_target :=
  match call.stage with
  | .reading commits =>
    if served=true then
      match readEpochRevocationState configured_target system.database call.invocation with
      | .ok reading => system.moved index call (afterRead functions configured_target call commits reading)
      | .error error => system.moved index call (.finished (.failed (readFailure error)))
    else system.moved index call (.finished (.failed .storeUnavailable))
  | .resolving =>
    if served=true then
      match readEpochRevocationState configured_target system.database call.invocation with
      | .ok reading => system.moved index call (.finished (resolved functions configured_target call reading))
      | .error _ => system.moved index call (.finished (.failed .outcomeUnknown))
    else system.moved index call (.finished (.failed .outcomeUnknown))
  | _ => system

/-- A call builds its commit. -/
def buildStep (system : System functions configured_target) (index : Nat) (call : Call)
    (answer : Option SignedEvidenceEventV1) : System functions configured_target :=
  match call.stage with
  | .building commits state =>
    system.moved index call (afterBuild functions call commits state
      (buildCommit functions configured_target state
        (epochRevocationRequestSha256 functions.sha256 call.invocation) call.recorded_at answer))
  | _ => system

/-- A write lands. -/
def landStep (system : System functions configured_target) :
    Write → System functions configured_target
  | .commit expected commit =>
    match h : commitEpochRevocation configured_target expected commit system.database with
    | .ok next => {system with
        database := next
        landed := ⟨expected,commit,system.database,next,h⟩::system.landed}
    | .error _ => system
  | .audit audit =>
    match recordEpochRevocationAudit system.database audit with
    | .ok next => {system with database := next}
    | .error _ => system

/-- A call receives the answer to its commit. Only a commit that has landed is confirmed. -/
def reportStep (system : System functions configured_target) (index : Nat) (call : Call)
    (report : CommitReport) : System functions configured_target :=
  match call.stage with
  | .committing commits _ commit =>
    match report with
    | .confirmed =>
      if ∃ landing∈system.landed,landing.commit.result=commit.result ∧
          landing.commit.audit=commit.audit then
        system.moved index call (.finished (.returned commit.result))
      else system
    | .conflict => system.moved index call (.reading commits)
    | .unknown => system.moved index call .resolving
    | .corrupt => system.moved index call (.finished (.failed .trustedStateInvalid))
    | .unavailable => system.moved index call (.finished (.failed .storeUnavailable))
  | _ => system

/-- A call receives the answer to its audit. -/
def recordStep (system : System functions configured_target) (index : Nat) (call : Call)
    (served : Bool) : System functions configured_target :=
  match call.stage with
  | .recording audit outcome =>
    if served=true then
      match recordEpochRevocationAudit system.database audit with
      | .ok next => {system with database := next}.moved index call (.finished outcome)
      | .error error => system.moved index call (.finished (.failed (recordFailure error)))
    else system.moved index call (.finished (.failed .storeUnavailable))
  | _ => system

/-- Let a call take a step of its own. -/
def System.ofCall (system : System functions configured_target) (index : Nat)
    (go : Call → System functions configured_target) : System functions configured_target :=
  match system.calls index with
  | none => system
  | some call => go call

/-- Where a call starts. -/
def startStage (functions : AuthorityFunctions) (policy : RouteAuthenticationPolicy)
    (invocation : EpochRevocationInvocationV1) (token : OperatorToken)
    (principal : Option AuthenticationContext) (now : UtcSecond) : Stage :=
  if operatorIsExact policy invocation token principal now=true then
    .reading maxRevocationCommitAttempts
  else .recording (deniedAudit invocation (epochRevocationRequestSha256 functions.sha256 invocation)
    .callerDenied now) (.failed .callerDenied)

/-- The system after a step. -/
def step (policy : RouteAuthenticationPolicy) (request : RevocationRequest)
    (system : System functions configured_target) :
    Action → System functions configured_target
  | .start index attempt_id token principal now =>
    match system.calls index with
    | some _ => system
    | none =>
      let stage := startStage functions policy (request.attempt attempt_id) token principal now
      system.moved index ⟨request.attempt attempt_id,now,stage⟩ stage
  | .read index served => system.ofCall index (fun call => readStep system index call served)
  | .build index answer => system.ofCall index (fun call => buildStep system index call answer)
  | .land position =>
    match system.sent[position]? with
    | none => system
    | some write => landStep system write
  | .report index report => system.ofCall index (fun call => reportStep system index call report)
  | .record index served => system.ofCall index (fun call => recordStep system index call served)

/-- The stores before the first call. -/
def initial (configured_target : TargetBinding) (database : Database functions) :
    System functions configured_target where
  database := database
  calls := fun _ => none
  sent := []
  landed := []

end

end ControlGraph.RevocationCalls
