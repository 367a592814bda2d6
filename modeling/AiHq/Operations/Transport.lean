import AiHq.HostHelper.Client

/-!
# The operational transport

Operations on a target become requests to the host helper, which its client sends and its server
validates and executes.
-/

namespace AiHq

open Concurrent

/-! ### Targets -/

/-- An operational target, as its construction allows it. -/
structure OperationalTarget where
  key : String
  allowedCapabilities : List String
  hostHelperServiceTarget : Option String := none
  hostHelperLogTarget : Option String := none
  key_given : strip key ≠ "" := by decide
  capabilities_given : allowedCapabilities ≠ [] := by decide
  capabilities_valid : ∀ capability ∈ allowedCapabilities,
    strip capability ≠ "" ∧ '*' ∉ capability.toList := by decide
  serviceTarget_given : ∀ target ∈ hostHelperServiceTarget, strip target ≠ "" := by decide
  logTarget_given : ∀ target ∈ hostHelperLogTarget, strip target ≠ "" := by decide

namespace OperationalTarget

variable (self : OperationalTarget)

def allows (capability : String) : Bool := capability ∈ self.allowedCapabilities

/-- `name or self.key` -/
def orKey (name : Option String) : String :=
  match name with
  | some name => if name = "" then self.key else name
  | none => self.key

end OperationalTarget

/-- The targets, no two of which have the same key. -/
structure OperationalTargetRegistry where
  targets : List OperationalTarget
  nodup : (targets.map OperationalTarget.key).Nodup

namespace OperationalTargetRegistry

variable (self : OperationalTargetRegistry)

def resolve (key : String) : Option OperationalTarget :=
  self.targets.find? fun target => target.key = key

def require (key : String) : Except PyError OperationalTarget :=
  match self.resolve key with
  | none => .error (.valueError ("unknown operational target: " ++ key))
  | some target => .ok target

end OperationalTargetRegistry

/-! ### The client -/

/-- `HostHelperClient.execute`, over a connection that delivers the request and the response. An
error response of the server names no capability. -/
def HostHelperServer.answer (server : HostHelperServer) (request : HelperRequest) :
    Helper HelperResponse :=
  match validateRequest (.obj request.payload) server.allowLists with
  | .error _ => throw (.hostHelperError "response_mismatch")
  | .ok validated => do
    Helper.ask (fun _ => .executing validated) fun _ => ()
    let response ← server.executor.execute validated
    if response.capability = request.capability ∧ response.target = request.target then
      return response
    else throw (.hostHelperError "response_mismatch")

/-! ### The transport -/

def hostHelperMaxLogLines : ℤ := 500

/-- The calls of the transport's methods, with their arguments besides the target. -/
inductive TransportCall where
  | systemHealth
  | serviceStatus
  | serviceLogs (lines : Json)
  | serviceRestart
  | serviceRecover (component : Json)
  | deploymentDeploy
  | deploymentRollback (releaseId : Json)

namespace TransportCall

def systemHealthRequest : HelperRequest := ⟨.hostHealth, none, []⟩

def serviceStatusRequest (target : OperationalTarget) : HelperRequest :=
  ⟨.serviceStatus, some (target.orKey target.hostHelperServiceTarget), []⟩

def serviceLogsRequest (target : OperationalTarget) (lines : Json) :
    Except PyError HelperRequest :=
  match lines with
  | .int n => do
    raiseIf (n < 1 ∨ hostHelperMaxLogLines < n) (.toolAdapterError "invalid_log_line_count")
    return ⟨.logsRecent, some (target.orKey target.hostHelperLogTarget), [("lines", .int n)]⟩
  | _ => .error (.toolAdapterError "invalid_log_line_count")

def serviceRestartRequest (target : OperationalTarget) : HelperRequest :=
  ⟨.serviceRestart, some target.key, []⟩

def serviceRecoverRequest (target : OperationalTarget) (component : Json) : HelperRequest :=
  ⟨.serviceRecover, some target.key, [("component", component)]⟩

def deploymentDeployRequest (target : OperationalTarget) : HelperRequest :=
  ⟨.deploymentDeploy, some target.key, []⟩

def deploymentRollbackRequest (target : OperationalTarget) (releaseId : Json) :
    Except PyError HelperRequest :=
  match releaseId with
  | .str text => do
    raiseIf (!HostExecutor.isReleaseId text) (.toolAdapterError "invalid_release_id")
    return ⟨.deploymentRollback, some target.key, [("release_id", .str text)]⟩
  | _ => .error (.toolAdapterError "invalid_release_id")

/-- The request that a method makes of its arguments, or the exception that it raises. -/
def request (target : OperationalTarget) : TransportCall → Except PyError HelperRequest
  | systemHealth => .ok systemHealthRequest
  | serviceStatus => .ok (serviceStatusRequest target)
  | serviceLogs lines => serviceLogsRequest target lines
  | serviceRestart => .ok (serviceRestartRequest target)
  | serviceRecover component => .ok (serviceRecoverRequest target component)
  | deploymentDeploy => .ok (deploymentDeployRequest target)
  | deploymentRollback releaseId => deploymentRollbackRequest target releaseId

end TransportCall

/-- `HostHelperOperationalTransport`, with its client. -/
structure HostHelperOperationalTransport where
  client : HelperRequest → Helper HelperResponse

namespace HostHelperOperationalTransport

variable (self : HostHelperOperationalTransport)

/-- `_execute` -/
def execute (request : HelperRequest) : Helper Dict := do
  let response ← tryCatch (self.client request) fun
    | .hostHelperError _ => throw (.toolAdapterError "host_helper_unavailable")
    | error => throw error
  if !response.ok then
    throw (.toolAdapterError (match response.error with
      | some error => if error = "" then "host_helper_failed" else error
      | none => "host_helper_failed"))
  else if response.capability ≠ request.capability ∨ response.target ≠ request.target then
    throw (.toolAdapterError "host_helper_response_mismatch")
  else return response.data

/-- The method that a call is of. -/
def perform (target : OperationalTarget) (call : TransportCall) : Helper Dict := do
  let request ← call.request target
  self.execute request

end HostHelperOperationalTransport
end AiHq
