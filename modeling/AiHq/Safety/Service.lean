import AiHq.Approvals.Service

/-!
# The safety policy and the safety service
-/

namespace AiHq

open Concurrent Relational

/-! ### Policy -/

inductive Decision where
  | allow | requireApproval | simulateOnly | block
  deriving DecidableEq, Repr

def Decision.value : Decision → String
  | allow => "allow"
  | requireApproval => "require_approval"
  | simulateOnly => "simulate_only"
  | block => "block"

structure ActionIntent where
  action : String
  target : String
  risk : MissionRisk
  mutatesExternalState : Bool := false
  scopedRuleAllows : Bool := false
  approved : Bool := false
  authorizationAvailable : Bool := true

def evaluateAction (intent : ActionIntent) (operatingMode : OperatingMode)
    (simulationMode : Bool) : Decision :=
  if !intent.authorizationAvailable || operatingMode = .freeze then .block
  else if intent.risk = .red then .block
  else if operatingMode = .safe && intent.mutatesExternalState then .block
  else if intent.risk = .blue && !intent.scopedRuleAllows then .requireApproval
  else if intent.risk = .amber && !intent.approved then .requireApproval
  else if intent.risk = .green && intent.mutatesExternalState && !intent.approved then
    .requireApproval
  else if intent.mutatesExternalState && simulationMode then .simulateOnly
  else .allow

/-! ### Service -/

structure SafetyResult where
  decision : Decision
  missionStatus : MissionStatus
  actionFingerprint : String
  approvalRequestId : Option String := none
  scopedRuleId : Option String := none
  simulationMode : Bool := false

structure SafetyService where
  approvals : ApprovalService
  approvalLifetime : ℤ := hours 1

namespace SafetyService

/-- The mode, the simulation switch, and whether the state is there to be relied on. -/
def systemStateTx (db : Database) : OperatingMode × Bool × Bool :=
  match db.systemState with
  | none => (.freeze, true, false)
  | some state =>
    match OperatingMode.ofValue? state.operatingMode with
    | none => (.freeze, true, false)
    | some mode => (mode, state.simulationMode, true)

def systemState : Py (OperatingMode × Bool × Bool) := .query fun _ db => .ok (systemStateTx db)

variable (self : SafetyService)

/-- The approval request that is pending for the action, or a new one. -/
def requestApproval (missionId agentKey action target : String) (risk : MissionRisk)
    (actionPlan : Dict) (fingerprint : String) : Py ApprovalRequest := do
  match ← ApprovalService.pendingForFingerprint missionId fingerprint with
  | some pending => return pending
  | none =>
    let now ← .clock
    let pending ← self.approvals.createRequest missionId agentKey action target risk actionPlan
      (now + self.approvalLifetime)
    let _ ← OperationsLedger.record
      { missionId, agentKey := some agentKey, eventType := .approvalRecorded,
        summary := "Approval requested",
        eventData := [("approval_request_id", .str pending.id),
          ("state", .str pending.state.value), ("fingerprint", .str fingerprint)] }
    return pending

def evaluate (missionId agentKey action target : String) (risk : MissionRisk)
    (actionPlan conditions : Dict) (mutatesExternalState : Bool)
    (authorizationAvailable : Bool := true) : Py SafetyResult := do
  let fingerprint := self.approvals.canonicalActionFingerprint action target actionPlan
  let _ ← OperationsLedger.record
    { missionId, agentKey := some agentKey, eventType := .actionProposed,
      summary := "Action proposed: " ++ action,
      eventData := [("action", .str action), ("target", .str target), ("risk", .str risk.value),
        ("fingerprint", .str fingerprint), ("mutates_external_state", .bool mutatesExternalState)] }
  let (mode, simulationMode, stateAvailable) ← systemState
  let approved ← ApprovalService.isApproved missionId fingerprint
  let scopedRule ← ApprovalService.matchingScopedRule action target risk conditions
  let scopedRuleId := scopedRule.map ScopedApprovalRule.id
  let permissionAvailable := authorizationAvailable && stateAvailable
  let _ ← OperationsLedger.record
    { missionId, agentKey := some agentKey, eventType := .permissionChecked,
      summary := "Permission context checked",
      eventData := [("authorization_available", .bool permissionAvailable),
        ("approved", .bool approved), ("scoped_rule_id", (scopedRuleId.map .str).getD .null)] }
  let intent : ActionIntent :=
    { action, target, risk, mutatesExternalState,
      scopedRuleAllows := scopedRule.isSome || approved,
      approved, authorizationAvailable := permissionAvailable }
  let decision := evaluateAction intent mode simulationMode
  let _ ← OperationsLedger.record
    { missionId, agentKey := some agentKey, eventType := .riskChecked,
      summary := "Safety decision: " ++ decision.value,
      eventData := [("risk", .str risk.value), ("operating_mode", .str mode.value),
        ("simulation_mode", .bool simulationMode), ("decision", .str decision.value)] }
  if decision ≠ .requireApproval then
    return { decision, missionStatus := .running, actionFingerprint := fingerprint, scopedRuleId,
             simulationMode }
  else
    let pending ← self.requestApproval missionId agentKey action target risk actionPlan fingerprint
    return { decision, missionStatus := .waitingApproval, actionFingerprint := fingerprint,
             approvalRequestId := some pending.id, scopedRuleId, simulationMode }
end SafetyService
end AiHq
