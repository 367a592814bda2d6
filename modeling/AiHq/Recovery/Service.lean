import AiHq.Session

/-!
# The recovery service

Incidents of the recoverable components, the recovery attempts made for them, and the limits
under which a further attempt is allowed.
-/

namespace AiHq

open Concurrent Relational

/-- The keys of `RECOVERY_COMPONENTS`. -/
def recoveryComponents : List String := ["app", "mcp", "proxy", "tunnel", "database"]

structure RecoveryAllowance where
  allowed : Bool
  reason : String
  realAttempts : ℕ
  deriving DecidableEq

/-- `_bounded_value`, with `levels` of nesting left. -/
def boundedValue : ℕ → Json → Json
  | 0, _ => .str "[truncated]"
  | _ + 1, .str s => .str (slice s 1024)
  | levels + 1, .obj fields => .obj ((fields.take 32).foldl
      (fun bounded field => Dict.set bounded (slice field.1 128) (boundedValue levels field.2)) [])
  | levels + 1, .list xs => .list ((xs.take 20).map (boundedValue levels))
  | _ + 1, value => value

/-- `_bounded_mapping` -/
def boundedMapping (value : Option Dict) : Dict :=
  match value with
  | none => []
  | some fields => (fields.take 32).foldl
      (fun bounded field => Dict.set bounded (slice field.1 128) (boundedValue 3 field.2)) []

/-- The limits of recovery, within the bounds that the constructor checks. -/
structure RecoveryService where
  failureThreshold : ℤ := 3
  observationSeconds : ℤ := 30
  cooldownSeconds : ℤ := 300
  attemptBudget : ℤ := 2
  budgetWindowSeconds : ℤ := 3600
  failureThreshold_ge : 2 ≤ failureThreshold := by decide
  observationSeconds_ge : 1 ≤ observationSeconds := by decide
  cooldownSeconds_ge : 1 ≤ cooldownSeconds := by decide
  attemptBudget_ge : 1 ≤ attemptBudget := by decide
  cooldownSeconds_le : cooldownSeconds ≤ budgetWindowSeconds := by decide

namespace RecoveryService

/-- The limits that hold unless others are given. -/
def defaults : RecoveryService := {}

/-- `RecoveryService(...)` -/
def ofLimits (failureThreshold observationSeconds cooldownSeconds attemptBudget
    budgetWindowSeconds : ℤ) : Except PyError RecoveryService :=
  if h₁ : failureThreshold < 2 then .error (.valueError "failure threshold must be at least 2")
  else if h₂ : observationSeconds < 1 then
    .error (.valueError "observation interval must be positive")
  else if h₃ : cooldownSeconds < 1 then
    .error (.valueError "recovery cooldown must be positive")
  else if h₄ : attemptBudget < 1 then
    .error (.valueError "recovery attempt budget must be positive")
  else if h₅ : budgetWindowSeconds < cooldownSeconds then
    .error (.valueError "recovery budget window must cover cooldown")
  else
    .ok ⟨failureThreshold, observationSeconds, cooldownSeconds, attemptBudget,
      budgetWindowSeconds, not_lt.mp h₁, not_lt.mp h₂, not_lt.mp h₃, not_lt.mp h₄, not_lt.mp h₅⟩

/-- `_active_key` -/
def activeKey (component : String) : Except PyError String :=
  if component ∈ recoveryComponents then .ok ("dripvid:" ++ component)
  else .error (.valueError ("unknown recovery component: " ++ component))

/-- `except Exception as exc: raise RecoveryPersistenceError(message) from exc` -/
def persisted {α : Type} (message : String) (body : Py α) : Py α :=
  tryCatch body fun _ => throw (.recoveryPersistenceError message)

/-- The same after `except (KeyError, ValueError): raise`. -/
def persistedOrRefused {α : Type} (message : String) (body : Py α) : Py α :=
  tryCatch body fun
    | .keyError text => throw (.keyError text)
    | .valueError text => throw (.valueError text)
    | _ => throw (.recoveryPersistenceError message)

/-! ### Incidents -/

def getIncidentTx (incidentId : String) (db : Database) : Except PyError RecoveryIncident :=
  match db.incidents.get? incidentId with
  | none => .error (.keyError ("recovery incident not found: " ++ incidentId))
  | some incident => .ok incident

def getIncident (incidentId : String) : Py RecoveryIncident :=
  persistedOrRefused "recovery incident read failed" (.query fun _ => getIncidentTx incidentId)

/-- The incident that holds the active key. -/
def withActiveKey (key : String) (db : Database) : Option RecoveryIncident :=
  db.incidents.rows.find? fun r => r.activeKey = some key

def activeIncident (component : String) : Py (Option RecoveryIncident) := do
  let key ← activeKey component
  persisted "active recovery incident read failed" (.query fun _ db => .ok (withActiveKey key db))

def incidentForMission (missionId : String) : Py (Option RecoveryIncident) :=
  if strip missionId = "" then return none
  else persisted "recovery mission incident lookup failed" (.query fun _ db =>
    .ok (db.incidents.rows.find? fun r =>
      r.recoveryMissionId = some missionId && r.activeKey.isSome))

/-- Replace the row of an incident. -/
def save (incident : RecoveryIncident) (db : Database) :
    Except PyError (RecoveryIncident × Database) :=
  .ok (incident, { db with incidents := db.incidents.set incident })

def updateDiagnosticsTx (incidentId : String) (diagnostics : Dict) (now : Datetime)
    (db : Database) : Except PyError (RecoveryIncident × Database) := do
  let incident ← getIncidentTx incidentId db
  raiseIf (incident.activeKey = none)
    (.valueError "terminal recovery incident cannot accept diagnostics")
  save { incident with
    diagnostics := boundedMapping (some diagnostics), lastObservedAt := now } db

def updateDiagnostics (incidentId : String) (diagnostics : Dict) : Py RecoveryIncident := do
  let now ← .clock
  persistedOrRefused "failed to update recovery diagnostics"
    (.session fun _ => updateDiagnosticsTx incidentId diagnostics now)

variable (self : RecoveryService)

def observeFailureTx (component key : String) (diagnostics : Dict) (now : Datetime) (m : Moment)
    (db : Database) : Except PyError (RecoveryIncident × Database) :=
  match withActiveKey key db with
  | none =>
    let incident : RecoveryIncident :=
      { id := m.ids 0, activeKey := some key, target := "dripvid", component, state := .suspect,
        consecutiveFailures := 1, firstFailureAt := now, lastFailureAt := now,
        lastObservedAt := now, diagnostics, verification := [] }
    match db.incidents.insert? incident with
    | none => .error .integrityError
    | some incidents => .ok (incident, { db with incidents })
  | some incident =>
    if now - incident.lastObservedAt < seconds self.observationSeconds then .ok (incident, db)
    else
      let failures := incident.consecutiveFailures + 1
      save { incident with
        consecutiveFailures := failures, lastFailureAt := now, lastObservedAt := now,
        diagnostics := if diagnostics.isEmpty then incident.diagnostics else diagnostics,
        state := if incident.state = .suspect ∧ self.failureThreshold ≤ failures then .diagnosing
          else incident.state } db

def observeFailure (component : String) (diagnostics : Option Dict := none) :
    Py RecoveryIncident := do
  let key ← activeKey component
  let now ← .clock
  persisted "failed to persist recovery failure"
    (.transaction 1 (self.observeFailureTx component key (boundedMapping diagnostics) now))

def resolveIfHealthyTx (key : String) (verification : Option Dict) (now : Datetime)
    (db : Database) : Except PyError (Option RecoveryIncident × Database) :=
  match withActiveKey key db with
  | none => .ok (none, db)
  | some incident =>
    let incident := { incident with
      state := .resolved, activeKey := none, consecutiveFailures := 0, lastObservedAt := now,
      resolvedAt := some now, verification := boundedMapping verification }
    .ok (some incident, { db with incidents := db.incidents.set incident })

def resolveIfHealthy (component : String) (verification : Option Dict := none) :
    Py (Option RecoveryIncident) := do
  let key ← activeKey component
  let now ← .clock
  persisted "failed to resolve recovery incident"
    (.session fun _ => resolveIfHealthyTx key verification now)

def markRecoveryPendingTx (incidentId : String) (now : Datetime) (db : Database) :
    Except PyError (RecoveryIncident × Database) := do
  let incident ← getIncidentTx incidentId db
  raiseIf (incident.activeKey = none) (.valueError "terminal recovery incident cannot be pending")
  raiseIf (incident.state ∉ [.suspect, .diagnosing, .recoveryPending])
    (.valueError "recovery incident cannot become pending")
  save { incident with state := .recoveryPending, lastObservedAt := now } db

def markRecoveryPending (incidentId : String) : Py RecoveryIncident := do
  let now ← .clock
  persistedOrRefused "failed to mark recovery pending"
    (.session fun _ => markRecoveryPendingTx incidentId now)

/-! ### Limits -/

/-- The attempts that are counted against the budget of an incident's component. -/
def countedAttempts (incident : RecoveryIncident) (windowStart : Datetime) (db : Database) :
    List RecoveryAttempt :=
  db.attempts.rows.filter fun a => a.target = incident.target &&
    a.component = incident.component && !a.simulated && windowStart ≤ a.attemptedAt

def canRecoverTx (incidentId : String) (now : Datetime) (db : Database) :
    Except PyError RecoveryAllowance := do
  let windowStart := now - seconds self.budgetWindowSeconds
  let incident ← getIncidentTx incidentId db
  if incident.activeKey = none ∨ incident.state ≠ .recoveryPending then
    return ⟨false, "state_not_pending", 0⟩
  else
    let realAttempts := (countedAttempts incident windowStart db).length
    if self.attemptBudget ≤ realAttempts then return ⟨false, "budget_exhausted", realAttempts⟩
    else
      match incident.lastRecoveryAttemptAt with
      | none => return ⟨true, "allowed", realAttempts⟩
      | some last =>
        if now - last < seconds self.cooldownSeconds then return ⟨false, "cooldown", realAttempts⟩
        else return ⟨true, "allowed", realAttempts⟩

def canRecover (incidentId : String) : Py RecoveryAllowance := do
  let now ← .clock
  persistedOrRefused "failed to evaluate recovery limits"
    (.query fun _ => self.canRecoverTx incidentId now)

/-! ### Attempts -/

def attachMissionTx (incidentId missionId : String) (db : Database) :
    Except PyError (RecoveryIncident × Database) := do
  let incident ← getIncidentTx incidentId db
  if incident.activeKey ≠ none ∧ incident.state = .recoveryPending ∧
      incident.recoveryMissionId = none then
    save { incident with recoveryMissionId := some missionId } db
  else if incident.recoveryMissionId = some missionId then return (incident, db)
  else if incident.recoveryMissionId ≠ none then
    throw (.valueError "recovery incident already has a mission")
  else throw (.valueError "recovery incident cannot attach a mission")

def attachMission (incidentId missionId : String) : Py RecoveryIncident :=
  if missionId = "" then throw (.valueError "recovery mission id is required")
  else persistedOrRefused "failed to attach recovery mission"
    (.session fun _ => attachMissionTx incidentId missionId)

/-- The conditional UPDATE tells whether it has met the row. -/
def claimRecoveryTx (incidentId : String) (db : Database) : Bool × Database :=
  match db.incidents.get? incidentId with
  | none => (false, db)
  | some incident =>
    if incident.activeKey ≠ none ∧ incident.state = .recoveryPending then
      (true, { db with incidents := db.incidents.set { incident with state := .recovering } })
    else (false, db)

def claimRecovery (incidentId : String) : Py Bool := do
  let _ ← Py.clock
  persisted "failed to claim recovery incident"
    (.session fun _ db => .ok (claimRecoveryTx incidentId db))

def recordAttemptTx (incidentId : String) (missionId : Option String) (simulated : Bool)
    (outcome : String) (result : Option Dict) (now : Datetime) (m : Moment) (db : Database) :
    Except PyError (RecoveryAttempt × Database) := do
  let incident ← getIncidentTx incidentId db
  let attempt : RecoveryAttempt :=
    { id := m.ids 0, incidentId := incident.id, target := incident.target,
      component := incident.component, missionId, attemptedAt := now, simulated, outcome,
      result := boundedMapping result }
  match db.attempts.insert? attempt with
  | none => throw .integrityError
  | some attempts =>
    let incident := if simulated then incident
      else { incident with lastRecoveryAttemptAt := some now }
    return (attempt, { db with attempts, incidents := db.incidents.set incident })

def recordAttempt (incidentId : String) (missionId : Option String) (simulated : Bool)
    (outcome : String) (result : Option Dict := none) : Py RecoveryAttempt := do
  let now ← .clock
  raiseIf (outcome = "" ∨ 32 < outcome.length) (.valueError "invalid recovery attempt outcome")
  persistedOrRefused "failed to record recovery attempt"
    (.transaction 1 (recordAttemptTx incidentId missionId simulated outcome result now))

/-! ### The end of an incident -/

def setActiveStateTx (incidentId : String) (state : RecoveryIncidentState)
    (verification : Option Dict) (now : Datetime) (db : Database) :
    Except PyError (RecoveryIncident × Database) := do
  let incident ← getIncidentTx incidentId db
  raiseIf (incident.activeKey = none)
    (.valueError "terminal recovery incident cannot transition")
  save { incident with
    state, lastObservedAt := now,
    verification := match verification with
      | none => incident.verification
      | some _ => boundedMapping verification } db

def setActiveState (incidentId : String) (state : RecoveryIncidentState)
    (verification : Option Dict := none) : Py RecoveryIncident := do
  let now ← .clock
  persistedOrRefused "failed to transition recovery incident"
    (.session fun _ => setActiveStateTx incidentId state verification now)

def markVerifying (incidentId : String) (verification : Option Dict := none) :
    Py RecoveryIncident :=
  setActiveState incidentId .verifying verification

def resolveTx (incidentId : String) (verification : Option Dict) (now : Datetime)
    (db : Database) : Except PyError (RecoveryIncident × Database) := do
  let incident ← getIncidentTx incidentId db
  save { incident with
    state := .resolved, activeKey := none, consecutiveFailures := 0, resolvedAt := some now,
    lastObservedAt := now, verification := boundedMapping verification } db

def resolve (incidentId : String) (verification : Option Dict := none) : Py RecoveryIncident := do
  let now ← .clock
  persistedOrRefused "failed to resolve recovery incident"
    (.session fun _ => resolveTx incidentId verification now)

def escalateTx (incidentId reason : String) (diagnostics : Option Dict) (now : Datetime)
    (db : Database) : Except PyError (RecoveryIncident × Database) := do
  let incident ← getIncidentTx incidentId db
  save { incident with
    state := .escalated, activeKey := none, escalationReason := some (slice reason 2048),
    resolvedAt := some now, lastObservedAt := now,
    diagnostics := match diagnostics with
      | none => incident.diagnostics
      | some _ => boundedMapping diagnostics } db

def escalate (incidentId reason : String) (diagnostics : Option Dict := none) :
    Py RecoveryIncident :=
  if reason = "" then throw (.valueError "recovery escalation reason is required")
  else do
    let now ← .clock
    persistedOrRefused "failed to escalate recovery incident"
      (.session fun _ => escalateTx incidentId reason diagnostics now)

end RecoveryService
end AiHq
