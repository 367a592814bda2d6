import AiHq.Missions.Executor

/-!
# The departments

The commander routes the oldest queued mission to the sysadmin department, which asks the safety
service before it asks the host helper.
-/

namespace AiHq

open Concurrent Relational

/-! ### Agents -/

namespace AgentRegistry

def setStateTx (agentKey : String) (status : AgentStatus) (currentMissionId : Option String)
    (db : Database) : Except PyError (Agent × Database) :=
  match db.agents.get? agentKey with
  | none => .error (.keyError ("agent not found: " ++ agentKey))
  | some agent =>
    let agent := { agent with status, currentMissionId }
    .ok (agent, { db with agents := db.agents.set agent })

def setState (agentKey : String) (status : AgentStatus) (currentMissionId : Option String) :
    Py Agent :=
  .session fun _ => setStateTx agentKey status currentMissionId

end AgentRegistry

/-! ### The sysadmin -/

structure RoutedAction where
  ownerAgent : String
  capability : HostCapability
  target : Option String
  params : Dict
  risk : MissionRisk

structure SysAdminExecutionResult where
  status : MissionStatus
  simulated : Bool
  data : Dict
  error : Option String

structure SysAdminService where
  safety : SafetyService
  allowLists : HostAllowLists

namespace SysAdminService

variable (self : SysAdminService)

def optionalText (text : Option String) : Json := (text.map .str).getD .null

def recordResult (missionId : String) (action : RoutedAction) (status : MissionStatus)
    (simulated : Bool) (error : Option String) : Py Unit := do
  let _ ← OperationsLedger.record
    { missionId, agentKey := some "sysadmin", eventType := .resultRecorded,
      summary := "SysAdmin result: " ++ status.value,
      eventData := [("capability", .str action.capability.value),
        ("target", optionalText action.target), ("status", .str status.value),
        ("simulated", .bool simulated), ("error", optionalText error)] }
  return ()

/-- `_failure` -/
def failure (missionId : String) (action : RoutedAction) (error : String) :
    Py SysAdminExecutionResult := do
  recordResult missionId action .failed false (some error)
  return ⟨.failed, false, [], some error⟩

/-- The request, if it is a valid one. -/
def requestFor (action : RoutedAction) : Except PyError HelperRequest :=
  validateRequest (.obj [("capability", .str action.capability.value),
    ("target", optionalText action.target), ("params", .obj action.params)]) self.allowLists

/-- What the helper answers, or the text of its error. -/
def ask (request : HelperRequest) : Py (HelperResponse ⊕ String) :=
  tryCatch (Sum.inl <$> Py.ask fun w => w.helper request) fun
    | .hostHelperError message =>
      let error := String.ofList (message.toList.take 128)
      return .inr (if error = "" then "helper_failed" else error)
    | error => throw error

/-- Send a request that the safety service allows. -/
def perform (missionId : String) (action : RoutedAction) (request : HelperRequest) :
    Py SysAdminExecutionResult := do
  match ← ask request with
  | .inr error => failure missionId action error
  | .inl response => do
    let _ ← OperationsLedger.record
      { missionId, agentKey := some "sysadmin", eventType := .toolExecuted,
        summary := "Host helper executed: " ++ request.capability.value,
        eventData := [("capability", .str request.capability.value),
          ("target", optionalText request.target), ("ok", .bool response.ok)] }
    if response.ok then do
      recordResult missionId action .completed false none
      return ⟨.completed, false, response.data, none⟩
    else
      let error := (response.error.filter fun text => text ≠ "").getD "helper_failed"
      failure missionId action (String.ofList (error.toList.take 128))

def execute (missionId : String) (action : RoutedAction) : Py SysAdminExecutionResult :=
  match self.requestFor action with
  | .error _ => failure missionId action "invalid_action"
  | .ok request => do
    let target := (request.target.filter fun text => text ≠ "").getD "host"
    let safetyResult ← self.safety.evaluate missionId "sysadmin" request.capability.value target
      action.risk [("capability", .str request.capability.value),
        ("target", optionalText request.target), ("params", .obj request.params)] [] false
    match safetyResult.decision with
    | .requireApproval => return ⟨.waitingApproval, false, [], none⟩
    | .block => failure missionId action "blocked"
    | decision =>
      if safetyResult.simulationMode || decision = .simulateOnly then do
        recordResult missionId action .completed true none
        return ⟨.completed, true, [], none⟩
      else perform missionId action request

end SysAdminService

/-! ### The runner -/

/-- The router maps the title of a mission to an action, or raises `UnsupportedMission`. -/
structure DepartmentRunner where
  missions : MissionService
  sysadmin : SysAdminService
  router : String → Except PyError RoutedAction

namespace DepartmentRunner

variable (self : DepartmentRunner)

/-- The action for the mission; one that is not supported fails the mission. -/
def route (mission : Mission) : Py (Option RoutedAction) :=
  match self.router mission.title with
  | .ok action => return some action
  | .error (.unsupportedMission _) => do
    let _ ← self.missions.transition mission.id .failed none
      (some [("code", .str "unsupported_mission")])
    return none
  | .error error => throw error

/-- Execute the action and move the mission on as its result says. -/
def settle (mission : Mission) (action : RoutedAction) : Py Unit := do
  let result ← self.sysadmin.execute mission.id action
  match result.status with
  | .completed => do
    let _ ← self.missions.transition mission.id .completed (some result.data)
    return ()
  | .waitingApproval => do
    let _ ← self.missions.transition mission.id .waitingApproval
    return ()
  | _ => do
    let error := (result.error.filter fun text => text ≠ "").getD "sysadmin_failed"
    let _ ← self.missions.transition mission.id .failed none (some [("code", .str error)])
    return ()

/-- `set_state` for its effect. -/
def setAgent (agentKey : String) (status : AgentStatus) (currentMissionId : Option String) :
    Py Unit := do
  let _ ← AgentRegistry.setState agentKey status currentMissionId
  return ()

/-- What `run_once` does with the mission that it has found. -/
def process (mission : Mission) : Py Bool := do
  setAgent "commander" .working (some mission.id)
  match ← Py.finally_ (self.route mission) (setAgent "commander" .idle none) with
  | none => return true
  | some action => do
    let _ ← MissionService.assignOwner mission.id action.ownerAgent
    let _ ← self.missions.transition mission.id .running
    setAgent "sysadmin" .working (some mission.id)
    Py.finally_ (self.settle mission action) (setAgent "sysadmin" .idle none)
    return true

def runOnce : Py Bool := do
  match ← MissionService.oldestQueued with
  | none => return false
  | some mission => self.process mission

end DepartmentRunner
end AiHq
