import AiHq.Recovery.Observer

/-!
# The recovery cycle

One cycle looks at the readiness of DripVid and at the services of all components, and takes each
failed component as far as the policy allows. The outcome of a recovery mission comes back to the
incident that the mission belongs to.
-/

namespace AiHq

open Concurrent Relational

/-- What a cycle reads from the host: the readiness, the status of each component's service
where it can be read, and the recent logs. -/
structure Observation where
  readiness : Dict
  statuses : String → Option Dict
  logs : String → List String := fun _ => []

namespace DripVidRecoveryCycle

/-- `_state` -/
def state (status : Option Dict) : Option String :=
  status.bind fun status =>
    match (Dict.get status "active_state").getD ((Dict.get status "state").getD .null) with
    | .str s => some s
    | _ => none

/-- `_storage_critical` -/
def storageCritical (readiness : Dict) : Prop :=
  storageIs readiness "available" false ∨ storageIs readiness "writable" false

instance (readiness : Dict) : Decidable (storageCritical readiness) := by
  unfold storageCritical
  infer_instance

/-- `_component_failed` -/
def componentFailed (component : String) (readiness : Dict) (status : Option Dict) : Bool :=
  status.isSome && (serviceDown (state status) ||
    (if component = "app" then ¬isBool readiness "ok" true
    else if component = "database" then isBool readiness "database" false
    else false))

/-- `_component_healthy` -/
def componentHealthy (component : String) (readiness : Dict) (status : Option Dict) : Bool :=
  status.isSome && serviceRunning (state status) &&
    (if component = "app" then isBool readiness "ok" true
    else if component = "database" then isBool readiness "database" true
    else true)

variable (observer : RecoveryObserver) (seen : Observation) (observeOnly : Bool)

/-- What the cycle does about a component that has failed. -/
def handleFailure (component : String) : Py Unit := do
  let incident ← observer.recovery.observeFailure component
    (some [("readiness", .obj seen.readiness)])
  if incident.consecutiveFailures < observer.failureThreshold then return ()
  else do
    let _ ← RecoveryObserver.captureDiagnostics incident.id seen.readiness
      ((seen.statuses component).getD []) (seen.logs component)
    if ← observer.handlePolicyEscalation incident.id seen.readiness
        (state (seen.statuses component)) then
      return ()
    else do
      let _ ← observer.createRecoveryMission incident.id seen.readiness
        (state (seen.statuses component)) observeOnly

/-- The body of the loop over the components; the result is whether there was work to do. -/
def observeComponent (component : String) : Py Bool := do
  let status := seen.statuses component
  match ← RecoveryService.activeIncident component with
  | some incident =>
    if incident.state = .verifying ∧ status.isSome then do
      let _ ← RecoveryObserver.verifyRecovery incident.id seen.readiness (state status)
      return true
    else if componentHealthy component seen.readiness status then do
      let _ ← RecoveryService.resolveIfHealthy component
        (some [("readiness", .obj seen.readiness),
          ("service_state", ((state status).map .str).getD .null)])
      return true
    else if componentFailed component seen.readiness status then do
      handleFailure observer seen observeOnly component
      return true
    else return false
  | none =>
    if componentHealthy component seen.readiness status then return false
    else if componentFailed component seen.readiness status then do
      handleFailure observer seen observeOnly component
      return true
    else return false

def observeComponents : List String → Py Bool
  | [] => return false
  | component :: components => do
    let worked ← observeComponent observer seen observeOnly component
    let worked' ← observeComponents components
    return worked || worked'

/-- With the storage in danger, the failure is that of the app, and nothing is restarted. -/
def observeStorage : Py Bool := do
  let incident ← observer.recovery.observeFailure "app"
    (some [("readiness", .obj seen.readiness)])
  if observer.failureThreshold ≤ incident.consecutiveFailures then do
    let _ ← observer.handlePolicyEscalation incident.id seen.readiness
      (state (seen.statuses "app"))
    return true
  else return true

def runOnce : Py Bool :=
  if storageCritical seen.readiness then observeStorage observer seen
  else observeComponents observer seen observeOnly recoveryComponents

def handleExecutionResult (result : MissionExecutionResult) : Py Unit := do
  match result.outcome with
  | none => return ()
  | some outcome =>
    if result.missionId = "" then return ()
    else match ← RecoveryService.incidentForMission result.missionId with
      | none => return ()
      | some incident =>
        RecoveryObserver.recordMissionOutcome incident.id result.missionId outcome.state
          outcome.result

end DripVidRecoveryCycle
end AiHq
