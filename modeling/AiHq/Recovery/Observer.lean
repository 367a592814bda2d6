import AiHq.Recovery.Policy
import AiHq.Recovery.Runs
import AiHq.Missions.Executor

/-!
# The recovery observer

The observer turns a failed component into a recovery mission, judges how the mission has ended,
and keeps bounded evidence with the incident. It writes through the recovery service and the
mission service only.
-/

namespace AiHq

open Concurrent Relational

/-! ### Evidence -/

/-- The fields of `fields` under the given keys, as far as `keep` keeps them. -/
def boundedFields (keys : List String) (keep : String → Json → Option Json) (fields : Dict) :
    Dict :=
  keys.filterMap fun key => ((Dict.get fields key).bind (keep key)).map (key, ·)

/-- `isinstance(value, (bool, int))` -/
def keepNumber : Json → Option Json
  | .bool b => some (.bool b)
  | .int n => some (.int n)
  | _ => none

/-- `value is None or isinstance(value, (bool, int, str))`, with the string cut. -/
def keepScalar : Json → Option Json
  | .null => some .null
  | .str s => some (.str (slice s 128))
  | value => keepNumber value

/-- `_bounded_readiness` -/
def boundedReadiness (readiness : Dict) : Dict :=
  boundedFields ["reachable", "status_code", "ok", "database", "jellyfin", "radarr", "sonarr",
    "qbittorrent", "requestSync", "storage", "error"]
    (fun key value =>
      if key = "storage" then match value with
        | .obj storage => some (.obj (boundedFields
            ["available", "writable", "belowReserve", "freeBytes", "reserveBytes"]
            (fun _ => keepNumber) storage))
        | _ => none
      else keepScalar value) readiness

/-- `_bounded_service_status` -/
def boundedServiceStatus (status : Dict) : Dict :=
  status.filterMap fun field =>
    if field.1 ∈ ["state", "active_state", "sub_state", "unit", "load_state"] then
      (keepScalar field.2).map (field.1, ·)
    else none

/-- The words that `_SECRET_LINE` looks for. -/
def secretWords : List String :=
  ["password", "passwd", "apikey", "api_key", "api-key", "accesstoken", "access_token",
    "access-token", "refreshtoken", "refresh_token", "refresh-token", "token", "sessionsecret",
    "session_secret", "session-secret", "clientsecret", "client_secret", "client-secret",
    "authorization"]

/-- Whether the characters are the same to `re.IGNORECASE`. -/
def sameIgnoringCase (c letter : Char) : Bool :=
  c.toLower = letter || (letter = 's' && c.toNat = 0x17f) || (letter = 'k' && c.toNat = 0x212a) ||
    (letter = 'i' && (c.toNat = 0x130 || c.toNat = 0x131))

/-- What follows the word at the beginning of the characters. -/
def afterWord : List Char → List Char → Option (List Char)
  | [], cs => some cs
  | _ :: _, [] => none
  | letter :: word, c :: cs => if sameIgnoringCase c letter then afterWord word cs else none

/-- `_SECRET_LINE.search(line)` -/
def isSecretLine (line : String) : Bool :=
  line.toList.tails.any fun cs => secretWords.any fun word =>
    match (afterWord word.toList cs).map (List.dropWhile isSpace) with
    | some (c :: _) => c = ':' || c = '='
    | _ => false

/-- `_bounded_logs` -/
def boundedLogs (logs : List String) : List Json :=
  (logs.take 100).map fun raw =>
    .str (if isSecretLine (slice raw 512) then "[redacted]" else slice raw 512)

/-- `_verification_healthy` -/
def verificationHealthy (component : String) (readiness : Dict) (serviceState : Option String) :
    Bool :=
  serviceRunning serviceState && isBool readiness "ok" true &&
    (component ≠ "database" || isBool readiness "database" true)

/-! ### The observer -/

/-- The notifications have no part in what the observer decides. -/
structure RecoveryObserver where
  recovery : RecoveryService
  missions : MissionService
  failureThreshold : ℤ := 3
  notifications : Bool := true
  failureThreshold_ge : 2 ≤ failureThreshold := by decide

namespace RecoveryObserver

variable (self : RecoveryObserver)

def captureDiagnostics (incidentId : String) (readiness serviceStatus : Dict)
    (logs : List String) : Py RecoveryIncident :=
  RecoveryService.updateDiagnostics incidentId
    [("readiness", .obj (boundedReadiness readiness)),
      ("service_status", .obj (boundedServiceStatus serviceStatus)),
      ("recent_logs", .list (boundedLogs logs))]

/-- The plan of a recovery mission. -/
def recoveryPlan (component : String) : List PlanEntry :=
  [{ description := some ("Recover DripVid " ++ component ++ " service")
     toolName := some "service.recover"
     toolArguments := some (some
      [("target", .str "dripvid"), ("component", .str component),
        ("conditions", .obj [("policy", .str "dripvid-2.90"), ("component", .str component)]),
        ("mutates_external_state", .bool true)]) }]

/-- The mission and its plan are committed before the incident is linked to them. -/
def openMission (incidentId component : String) : Py Mission := do
  let mission ← self.missions.createMission
    ("Recover DripVid " ++ component)
    ("Automatically recover the DripVid " ++ component ++
      " component after persistent health failure.")
    "sysadmin" "automatic-recovery" .normal .blue
    (some [.str ("Restore the DripVid " ++ component ++ " component"),
      .str "Verify recovery through the normal guarded execution path"])
  let _ ← MissionService.createPlan mission.id (recoveryPlan component)
  let _ ← RecoveryService.attachMission incidentId mission.id
  return mission

def decide (incident : RecoveryIncident) (readiness : Dict) (serviceState : Option String) :
    RecoveryDecision :=
  decideRecovery (some incident.component) serviceState incident.consecutiveFailures
    self.failureThreshold readiness

def createRecoveryMission (incidentId : String) (readiness : Dict) (serviceState : Option String)
    (observeOnly : Bool) : Py (Option Mission) := do
  let incident ← RecoveryService.getIncident incidentId
  if incident.recoveryMissionId.any (· ≠ "") then return none
  else
    let decision := self.decide incident readiness serviceState
    if decision.action ≠ .recover ∨ observeOnly then return none
    else do
      let _ ← RecoveryService.markRecoveryPending incident.id
      let allowance ← self.recovery.canRecover incident.id
      if !allowance.allowed then
        if allowance.reason = "budget_exhausted" ∧ self.notifications then do
          let _ ← RecoveryService.escalate incident.id "budget_exhausted"
          return none
        else return none
      else match decision.component with
        | none => return none
        | some component => some <$> self.openMission incident.id component

def handlePolicyEscalation (incidentId : String) (readiness : Dict)
    (serviceState : Option String) : Py Bool := do
  let incident ← RecoveryService.getIncident incidentId
  let decision := self.decide incident readiness serviceState
  if decision.action ≠ .escalate then return false
  else do
    let _ ← RecoveryService.escalate incident.id decision.reason
      (some [("readiness", .obj (boundedReadiness readiness))])
    return true

/-- `result or {}`; the result of an adapter is a dictionary. -/
def resultDict (result : Option Json) : Dict :=
  match result with
  | some (.obj fields) => fields
  | _ => []

def recordMissionOutcome (incidentId missionId : String) (state : ToolOutcomeState)
    (result : Option Json) : Py Unit := do
  let incident ← RecoveryService.getIncident incidentId
  match state with
  | .blocked | .waitingApproval => do
    let _ ← RecoveryService.escalate incident.id "authorization_missing"
  | .simulated => do
    let _ ← RecoveryService.recordAttempt incident.id (some missionId) true "simulated"
      (some (resultDict result))
    let _ ← RecoveryService.markVerifying incident.id
      (some [("mission_state", .str "simulated")])
  | .executed => do
    let _ ← RecoveryService.recordAttempt incident.id (some missionId) false "executed"
      (some (resultDict result))
    let _ ← RecoveryService.markVerifying incident.id (some [("mission_state", .str "executed")])
  | .failed => do
    let _ ← RecoveryService.recordAttempt incident.id (some missionId) false "failed"
      (some (resultDict result))
    let _ ← RecoveryService.escalate incident.id "recovery_attempt_failed"

def verifyRecovery (incidentId : String) (readiness : Dict) (serviceState : Option String) :
    Py Bool := do
  let incident ← RecoveryService.getIncident incidentId
  let verification : Dict :=
    [("readiness", .obj (boundedReadiness readiness)),
      ("service_state", .str (slice (serviceState.getD "") 64))]
  if verificationHealthy incident.component readiness serviceState then do
    let _ ← RecoveryService.resolve incident.id (some verification)
    return true
  else do
    let _ ← RecoveryService.escalate incident.id "verification_failed" (some verification)
    return false

end RecoveryObserver
end AiHq
