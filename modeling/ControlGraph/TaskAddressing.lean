import ControlGraph.ReceiptContracts

/-!
# Sealing of task requests

A task request is sealed to the one queue and handler of its action. The seal
bounds how long the task may wait for its schedule and how long it may live, and
a recovery must keep a margin for its delivery. A sealed task carries the request
that its body encodes, and it is sealed again before it is sent.
-/

namespace ControlGraph.TaskAddressing

open Checks ContractText

open ReceiptContracts (TargetBinding CapabilityAction)

/-- Region of the queues and of the handlers. -/
def taskRegion : String := "us-central1"

/-- Greatest wait for the schedule in seconds. -/
def maxScheduleDelaySeconds : Int := 600

/-- Greatest lifetime after the schedule in seconds. -/
def maxTaskAgeSeconds : Int := 900

/-- Seconds that a recovery must leave for its delivery. -/
def minRecoveryDeliveryMarginSeconds : Int := 120

/-- Destinations of a task. -/
inductive TaskRoute
  | execution | recovery
  deriving DecidableEq,Repr

/-- What the seal reads of a task request. -/
structure AddressableTaskRequest where
  action : CapabilityAction
  target : TargetBinding
  handler_audience : String
  scheduled_at : UtcSecond
  expires_at : UtcSecond
  sha256 : Sha256Digest
  deriving DecidableEq

/-- Queue, handlers and callers of one deployment. -/
structure TaskDeliverySettings where
  project_id : ProjectId
  executor_service_url : String
  recovery_service_url : String
  deriving DecidableEq

/-- A request that is sealed to its destination. -/
structure AddressedTask where
  route : TaskRoute
  name : String
  handler_url : String
  audience : String
  oidc_service_account : String
  scheduled_for : UtcSecond
  expires_at : UtcSecond
  request : AddressableTaskRequest
  deriving DecidableEq

/-- Outcomes of creating one task. -/
inductive TaskEnqueueDisposition
  | created | duplicate | ambiguous
  deriving DecidableEq,Repr

/-- Result of one create. -/
structure TaskEnqueueResult where
  task_name : String
  disposition : TaskEnqueueDisposition
  deriving DecidableEq

def routeForAction : CapabilityAction → TaskRoute
  | .recoverStable => .recovery
  | .applyCanary | .promoteCandidate => .execution

def queueId : TaskRoute → String
  | .execution => "controlgraph-execution"
  | .recovery => "controlgraph-recovery"

def handlerPath : TaskRoute → String
  | .execution => "/v1/internal/tasks/execute"
  | .recovery => "/v1/internal/tasks/recover"

/-- Name of the account that delivers to a destination. -/
def callerAccountId : TaskRoute → String
  | .execution => "cg-execution-task-caller"
  | .recovery => "cg-recovery-task-caller"

/-- Origin of the handler of a destination. -/
def TaskDeliverySettings.serviceUrl (settings : TaskDeliverySettings) : TaskRoute → String
  | .execution => settings.executor_service_url
  | .recovery => settings.recovery_service_url

def taskName (settings : TaskDeliverySettings) (request : AddressableTaskRequest) : String :=
  "projects/"++settings.project_id.1++"/locations/us-central1/queues/"++
    queueId (routeForAction request.action)++"/tasks/cg-"++request.sha256.1

/-- The later of two times. -/
def laterOf (first second : UtcSecond) : Int := max first.1 second.1

/-- The seal of a request. -/
def addressedTask (settings : TaskDeliverySettings) (request : AddressableTaskRequest) :
    AddressedTask where
  route := routeForAction request.action
  name := taskName settings request
  handler_url := settings.serviceUrl (routeForAction request.action)++
    handlerPath (routeForAction request.action)
  audience := settings.serviceUrl (routeForAction request.action)
  oidc_service_account := callerAccountId (routeForAction request.action)++"@"++
    settings.project_id.1++".iam.gserviceaccount.com"
  scheduled_for := request.scheduled_at
  expires_at := request.expires_at
  request := request

/-- Seal a request at a time. -/
def sealTask (settings : TaskDeliverySettings) (request : AddressableTaskRequest) (now : UtcSecond) :
    Except Raised AddressedTask := do
  let route := routeForAction request.action
  require (request.target.project_id=settings.project_id ∧ request.target.region.1=taskRegion)
    (.valueError "task target does not match delivery configuration")
  require (now.1 < request.expires_at.1) (.valueError "task is expired")
  require (request.scheduled_at.1-now.1 ≤ maxScheduleDelaySeconds)
    (.valueError "task schedule exceeds the delay bound")
  require (request.expires_at.1-request.scheduled_at.1 ≤ maxTaskAgeSeconds)
    (.valueError "task lifetime exceeds the age bound")
  require (route=.recovery → minRecoveryDeliveryMarginSeconds ≤
      request.expires_at.1-laterOf now request.scheduled_at)
    (.valueError "recovery task delivery margin is exhausted")
  require (request.handler_audience=settings.serviceUrl route)
    (.valueError "task audience does not match the service audience")
  return addressedTask settings request

/-- Require a sealed task to be the seal of its own body at a time. -/
def validateSeal (settings : TaskDeliverySettings) (task : AddressedTask) (now : UtcSecond) :
    Except Raised Unit := do
  let expected ← sealTask settings task.request now
  require (task=expected) (.valueError "addressed task seal does not match configuration")

/-- Which times and settings admit a request. -/
structure Admitted (settings : TaskDeliverySettings) (request : AddressableTaskRequest)
    (now : UtcSecond) : Prop where
  target : request.target.project_id=settings.project_id ∧ request.target.region.1=taskRegion
  /-- The window is still open. -/
  unexpired : now.1 < request.expires_at.1
  delay : request.scheduled_at.1 ≤ now.1+maxScheduleDelaySeconds
  age : request.expires_at.1 ≤ request.scheduled_at.1+maxTaskAgeSeconds
  margin : routeForAction request.action=.recovery →
    now.1+minRecoveryDeliveryMarginSeconds ≤ request.expires_at.1 ∧
    request.scheduled_at.1+minRecoveryDeliveryMarginSeconds ≤ request.expires_at.1
  audience : request.handler_audience=settings.serviceUrl (routeForAction request.action)

variable {settings : TaskDeliverySettings} {request : AddressableTaskRequest} {now : UtcSecond}

theorem sealTask_eq_ok {addressed : AddressedTask} :
    sealTask settings request now=.ok addressed ↔
      Admitted settings request now ∧ addressed=addressedTask settings request := by
  have hlater : laterOf now request.scheduled_at=max now.1 request.scheduled_at.1 := rfl
  rw [sealTask]
  simp only [check_bind_eq_ok,require_eq_ok]
  constructor
  · rintro ⟨htarget,hunexpired,hdelay,hage,hmargin,haudience,hsealed⟩
    refine ⟨⟨htarget,hunexpired,by omega,by omega,?_,haudience⟩,(Except.ok.inj hsealed).symm⟩
    intro hroute
    have hleft := hmargin hroute
    omega
  · rintro ⟨hadmitted,rfl⟩
    have hdelay := hadmitted.delay
    have hage := hadmitted.age
    refine ⟨hadmitted.target,hadmitted.unexpired,by omega,by omega,?_,hadmitted.audience,rfl⟩
    intro hroute
    have hleft := hadmitted.margin hroute
    omega

/-- An admitted request stays admitted until its window closes, unless it is a recovery. -/
theorem admitted_later {later : UtcSecond} (h : Admitted settings request now)
    (hroute : routeForAction request.action=.execution) (hle : now.1 ≤ later.1)
    (hunexpired : later.1 < request.expires_at.1) : Admitted settings request later := by
  have hdelay := h.delay
  refine ⟨h.target,hunexpired,by omega,h.age,?_,h.audience⟩
  intro hrecovery
  rw [hroute] at hrecovery
  cases hrecovery

end ControlGraph.TaskAddressing
