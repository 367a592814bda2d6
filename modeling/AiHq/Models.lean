import AiHq.Python.Values

/-!
# The rows of the database

The tables of AI HQ with the columns that the modelled services read or write, and the
enumerations that stand in them.
-/

namespace AiHq

open Relational

/-! ### Missions -/

inductive MissionStatus where
  | queued | running | waitingApproval | paused | completed | failed | cancelled
  deriving DecidableEq, Repr

def MissionStatus.value : MissionStatus → String
  | queued => "QUEUED"
  | running => "RUNNING"
  | waitingApproval => "WAITING_APPROVAL"
  | paused => "PAUSED"
  | completed => "COMPLETED"
  | failed => "FAILED"
  | cancelled => "CANCELLED"

inductive MissionStepStatus where
  | pending | running | waitingApproval | succeeded | failed
  deriving DecidableEq, Repr

def MissionStepStatus.value : MissionStepStatus → String
  | pending => "PENDING"
  | running => "RUNNING"
  | waitingApproval => "WAITING_APPROVAL"
  | succeeded => "SUCCEEDED"
  | failed => "FAILED"

inductive MissionPriority where
  | low | normal | high | critical
  deriving DecidableEq, Repr

def MissionPriority.value : MissionPriority → String
  | low => "low"
  | normal => "normal"
  | high => "high"
  | critical => "critical"

inductive MissionRisk where
  | green | blue | amber | red
  deriving DecidableEq, Repr

def MissionRisk.value : MissionRisk → String
  | green => "green"
  | blue => "blue"
  | amber => "amber"
  | red => "red"

structure Mission where
  id : String
  title : String
  description : String
  ownerAgent : String
  source : String
  priority : MissionPriority := .normal
  risk : MissionRisk := .green
  status : MissionStatus := .queued
  objectives : List Json := []
  dependencies : List Json := []
  result : Option Json := none
  errorState : Option Json := none
  approvalReferences : List Json := []
  xpReward : ℤ := 0
  leaseOwner : Option String := none
  leaseExpiresAt : Option Datetime := none
  attemptCount : ℤ := 0
  createdAt : Datetime

structure MissionStep where
  id : String
  missionId : String
  position : ℕ
  description : String
  toolName : String
  toolArguments : Option Dict
  status : MissionStepStatus := .pending
  result : Option Json := none
  errorState : Option Json := none
  approvalReference : Option String := none

/-! ### Agents -/

inductive AgentStatus where
  | idle | working | waitingApproval | failed | completed
  deriving DecidableEq, Repr

structure Agent where
  key : String
  status : AgentStatus := .idle
  currentMissionId : Option String := none
  permissions : Option (List Json) := some []

/-! ### Approvals -/

inductive ApprovalState where
  | pending | approved | denied | cancelled
  deriving DecidableEq, Repr

def ApprovalState.value : ApprovalState → String
  | pending => "pending"
  | approved => "approved"
  | denied => "denied"
  | cancelled => "cancelled"

structure ApprovalRequest where
  id : String
  missionId : String
  requesterAgent : String
  action : String
  target : String
  risk : MissionRisk
  actionPlan : Dict
  actionFingerprint : String
  state : ApprovalState := .pending
  expiresAt : Datetime
  decidedAt : Option Datetime := none

structure ScopedApprovalRule where
  id : String
  action : String
  target : String
  risk : MissionRisk
  conditions : Dict
  expiresAt : Datetime
  maxExecutionCount : Option ℤ := none
  executionCount : ℤ := 0

/-! ### Deliveries -/

inductive DeliveryStage where
  | developer | qa | waitingApproval
  deriving DecidableEq, Repr

inductive QAResult where
  | passed | failed
  deriving DecidableEq, Repr

structure Delivery where
  missionId : String
  stage : DeliveryStage := .developer
  changeRef : String
  summary : String
  changedFiles : List Json := []
  developerEvidence : Dict := []
  qaResult : Option QAResult := none
  qaEvidence : Option Dict := none
  approvalReference : Option String := none
  publishedBranch : Option String := none
  publishedCommit : Option String := none
  publishedTree : Option String := none
  publishedAt : Option Datetime := none
  deploymentReleaseId : Option String := none
  deploymentPriorReleaseId : Option String := none
  deployedAt : Option Datetime := none
  rollbackReleaseId : Option String := none
  rolledBackAt : Option Datetime := none

/-! ### Recovery -/

inductive RecoveryIncidentState where
  | suspect | diagnosing | recoveryPending | recovering | verifying | resolved | escalated
  deriving DecidableEq, Repr

structure RecoveryIncident where
  id : String
  activeKey : Option String
  target : String
  component : String
  state : RecoveryIncidentState := .suspect
  consecutiveFailures : ℤ := 0
  firstFailureAt : Datetime
  lastFailureAt : Datetime
  lastObservedAt : Datetime
  diagnostics : Dict := []
  verification : Dict := []
  recoveryMissionId : Option String := none
  lastRecoveryAttemptAt : Option Datetime := none
  escalationReason : Option String := none
  resolvedAt : Option Datetime := none

structure RecoveryAttempt where
  id : String
  incidentId : String
  target : String
  component : String
  missionId : Option String
  attemptedAt : Datetime
  simulated : Bool := false
  outcome : String
  result : Dict := []

/-! ### System state and ledger -/

inductive OperatingMode where
  | normal | safe | freeze
  deriving DecidableEq, Repr

def OperatingMode.value : OperatingMode → String
  | normal => "normal"
  | safe => "safe"
  | freeze => "freeze"

/-- `OperatingMode(text)`; a text that names no mode raises `ValueError`. -/
def OperatingMode.ofValue? (text : String) : Option OperatingMode :=
  [normal, safe, freeze].find? fun mode => mode.value = text

structure SystemState where
  operatingMode : String
  simulationMode : Bool

inductive LedgerEventType where
  | missionCreated | missionStatusChanged | actionProposed | permissionChecked | riskChecked
  | approvalRecorded | toolExecuted | resultRecorded
  deriving DecidableEq, Repr

structure LedgerEvent where
  missionId : String
  agentKey : Option String
  eventType : LedgerEventType
  summary : String
  eventData : Dict

/-! ### The database -/

instance : Keyed Mission String := ⟨Mission.id⟩
instance : Keyed MissionStep String := ⟨MissionStep.id⟩
instance : Keyed Agent String := ⟨Agent.key⟩
instance : Keyed ApprovalRequest String := ⟨ApprovalRequest.id⟩
instance : Keyed ScopedApprovalRule String := ⟨ScopedApprovalRule.id⟩
instance : Keyed Delivery String := ⟨Delivery.missionId⟩
instance : Keyed RecoveryIncident String := ⟨RecoveryIncident.id⟩
instance : Keyed RecoveryAttempt String := ⟨RecoveryAttempt.id⟩

@[simp] lemma key_mission (r : Mission) : key r = r.id := rfl
@[simp] lemma key_missionStep (r : MissionStep) : key r = r.id := rfl
@[simp] lemma key_agent (r : Agent) : key r = r.key := rfl
@[simp] lemma key_approvalRequest (r : ApprovalRequest) : key r = r.id := rfl
@[simp] lemma key_scopedApprovalRule (r : ScopedApprovalRule) : key r = r.id := rfl
@[simp] lemma key_delivery (r : Delivery) : key r = r.missionId := rfl
@[simp] lemma key_recoveryIncident (r : RecoveryIncident) : key r = r.id := rfl
@[simp] lemma key_recoveryAttempt (r : RecoveryAttempt) : key r = r.id := rfl

/-- The tables; `system_state` has the one row with id 1 or none, and the ledger is in
sequence order. -/
structure Database where
  missions : Table Mission := ∅
  steps : Table MissionStep := ∅
  agents : Table Agent := ∅
  approvals : Table ApprovalRequest := ∅
  rules : Table ScopedApprovalRule := ∅
  deliveries : Table Delivery := ∅
  incidents : Table RecoveryIncident := ∅
  attempts : Table RecoveryAttempt := ∅
  systemState : Option SystemState := none
  ledger : List LedgerEvent := []

end AiHq
